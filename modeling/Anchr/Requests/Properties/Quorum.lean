import Anchr.Requests.Verification
import Mathlib.Data.Finset.Card
import Mathlib.Data.Finset.Image
import Mathlib.Data.Fintype.Card
import Mathlib.Data.List.FinRange

/-!
# What a passed quorum says about the Oracles

`tally` counts attestations, not Oracles. `resolveMultiple` asks an Oracle once for every time its
id is listed.
-/

namespace Anchr.Requests

open Infra

/-! ## The loop of `resolveMultiple` -/

namespace OracleRegistry

/-- The bounded loop takes the first `count` Oracles found. -/
theorem collect_eq {α : Type} (lookup : α → Option Oracle) (count : Int) :
    ∀ (xs : List α) (result : List Oracle),
      collect lookup count xs result
        = result ++ (xs.filterMap lookup).take (count - result.length).toNat := by
  intro xs
  induction xs with
  | nil => intro result; simp [collect]
  | cons x xs ih =>
    intro result
    rw [collect]
    split
    · next hfull =>
      have hzero : (count - (result.length : Int)).toNat = 0 := by omega
      rw [hzero, List.take_zero, List.append_nil]
    · next hroom =>
      cases hx : lookup x with
      | none =>
        simp only [List.filterMap_cons, hx]
        exact ih result
      | some o =>
        have hsucc : (count - (result.length : Int)).toNat
            = (count - ((result ++ [o]).length : Int)).toNat + 1 := by
          rw [List.length_append, List.length_singleton]
          omega
        simp only [List.filterMap_cons, hx]
        rw [ih, hsucc, List.take_succ_cons, List.append_assoc, List.singleton_append]

/-- The listed ids that are registered, in order and with their repetitions. -/
def registeredIds (registry : OracleRegistry) (ids : List String) : List String :=
  ids.filter registry.oracles.has

variable {ids : Option (List String)}

theorem get?_of_mem_resolveMultiple {registry : OracleRegistry} {count : Int} {o : Oracle}
    (h : o ∈ registry.resolveMultiple ids count) :
    registry.oracles.get? o.id = some o ∧ (restricts ids = true → o.id ∈ ids.getD []) := by
  unfold resolveMultiple at h
  split at h
  · rw [collect_eq, List.nil_append] at h
    obtain ⟨id, hid, ho⟩ := List.mem_filterMap.mp (List.mem_of_mem_take h)
    have hk := registry.keyed id o ho
    rw [hk]
    exact ⟨ho, fun _ => hid⟩
  · next hr =>
    rw [collect_eq, List.nil_append] at h
    have hmem := List.mem_of_mem_take h
    rw [List.filterMap_some] at hmem
    obtain ⟨k, hk⟩ := JsMap.mem_values.mp hmem
    have hid := registry.keyed k o hk
    rw [hid]
    exact ⟨hk, fun hr' => absurd hr' hr⟩

theorem map_id_filterMap (registry : OracleRegistry) : ∀ ids : List String,
    (ids.filterMap registry.oracles.get?).map Oracle.id = registry.registeredIds ids
  | [] => rfl
  | id :: ids => by
    have ih := map_id_filterMap registry ids
    unfold registeredIds at ih ⊢
    rw [List.filterMap_cons, List.filter_cons]
    cases h : registry.oracles.get? id with
    | none => simpa [JsMap.has, h] using ih
    | some o => simpa [JsMap.has, h, registry.keyed id o h] using ih

/-- With a restricting list, the asked ids are its first `count` registered entries. -/
theorem map_id_resolveMultiple (registry : OracleRegistry) (hr : restricts ids = true)
    (count : Int) :
    (registry.resolveMultiple ids count).map Oracle.id
      = (registry.registeredIds (ids.getD [])).take count.toNat := by
  unfold resolveMultiple
  rw [if_pos hr, collect_eq, List.nil_append, List.map_take, map_id_filterMap]
  simp

theorem nodup_resolveMultiple (registry : OracleRegistry) (hr : ¬ restricts ids = true)
    (count : Int) :
    ((registry.resolveMultiple ids count).map Oracle.id).Nodup := by
  unfold resolveMultiple
  rw [if_neg hr, collect_eq, List.nil_append, List.map_take, List.filterMap_some]
  refine List.Nodup.sublist (List.take_sublist _ _) ?_
  rw [JsMap.map_values_of_keyed registry.keyed]
  exact registry.oracles.nodup

end OracleRegistry

/-! ## Approvals and Oracles -/

/-- At least `n` different registered Oracles, all listed if a list restricts, attested a pass. -/
def ApprovedBy (registry : OracleRegistry) (query : Query) (asked : List Oracle)
    (atts : List OracleAttestation) (n : Int) : Prop :=
  ∃ ids : Finset String, n ≤ ids.card ∧ ∀ id ∈ ids,
    (∃ o att, registry.oracles.get? id = some o ∧ (o, att) ∈ asked.zip atts ∧ att.passed = true) ∧
      (OracleRegistry.restricts query.oracleIds = true → id ∈ query.oracleIds.getD [])

/-- Whatever the Oracles answer, a pass stands for `max 1 min_approvals` different ones. -/
def QuorumSound (P : Platform) (registry : OracleRegistry) (query : Query)
    (oracleId : Option String) (minApprovals : Int) : Prop :=
  ∀ atts result,
    (verifyWithQuorum P (some registry) query oracleId).reply atts = some result →
      result.passed = true →
        ApprovedBy registry query (verifyWithQuorum P (some registry) query oracleId).asked atts
          (max 1 minApprovals)

/-- The threshold is positive and, above one, the ids asked do not repeat. -/
def DistinctVoters (registry : OracleRegistry) (query : Query) (minApprovals : Int) : Prop :=
  1 ≤ minApprovals ∧
    (2 ≤ minApprovals → OracleRegistry.restricts query.oracleIds = true →
      minApprovals ≤ (registry.registeredIds (query.oracleIds.getD [])).length →
        ((registry.registeredIds (query.oracleIds.getD [])).take (minApprovals + 2).toNat).Nodup)

variable {P : Platform} {registry : OracleRegistry} {query : Query} {oracleId : Option String}
  {k : Int}

theorem passCount_eq : ∀ (os : List Oracle) (atts : List OracleAttestation),
    atts.length = os.length →
    ((atts.map toAttestationRecord).filter OracleAttestationRecord.passed).length
      = ((os.zip atts).filter fun p => p.2.passed).length
  | [], [], _ => rfl
  | [], _ :: _, h => by simp at h
  | _ :: _, [], h => by simp at h
  | o :: os, att :: atts, h => by
    have ih := passCount_eq os atts (by simpa using h)
    rw [List.map_cons, List.zip_cons_cons, List.filter_cons, List.filter_cons]
    have hp : (toAttestationRecord att).passed = att.passed := rfl
    rw [hp]
    split
    · simp [ih]
    · exact ih

/-- The request of a quorum query asks what `resolveMultiple` finds, or is settled as failed. -/
theorem verifyWithQuorum_quorum (P : Platform) (registry : OracleRegistry)
    (oracleId : Option String) (hq : query.quorum = some ⟨k⟩) :
    (¬ ((registry.resolveMultiple query.oracleIds (k + 2)).length : Int) < k ∧
      verifyWithQuorum P (some registry) query oracleId
        = .quorum (registry.resolveMultiple query.oracleIds (k + 2)) k) ∨
    (((registry.resolveMultiple query.oracleIds (k + 2)).length : Int) < k ∧
      ∃ failure, verifyWithQuorum P (some registry) query oracleId
        = .settled (unavailable failure)) := by
  simp only [verifyWithQuorum, hq, verifyQuorum]
  split
  · next h => exact .inr ⟨h, _, rfl⟩
  · next h => exact .inl ⟨h, rfl⟩

variable {atts : List OracleAttestation} {os : List Oracle} {u : Finset (Fin os.length)}

theorem reply_quorum {result : QuorumVerificationResult}
    (h : (QuorumRequest.quorum os k).reply atts = some result) :
    atts.length = os.length ∧ result = tally k atts := by
  unfold QuorumRequest.reply at h
  split at h
  · simp at h
  · next hlen => exact ⟨by simpa [QuorumRequest.asked] using hlen, (Option.some.inj h).symm⟩

theorem passed_tally :
    (tally k atts).passed = true
      ↔ k ≤ ((atts.map toAttestationRecord).filter OracleAttestationRecord.passed).length := by
  simp [tally]

variable {count : Int} {queryId : String}

theorem approvedBy_of_nodup
    (hlen : atts.length = (registry.resolveMultiple query.oracleIds count).length)
    (hnd : ((registry.resolveMultiple query.oracleIds count).map Oracle.id).Nodup) :
    ApprovedBy registry query (registry.resolveMultiple query.oracleIds count) atts
      (((registry.resolveMultiple query.oracleIds count).zip atts).filter fun p =>
        p.2.passed).length := by
  let os := registry.resolveMultiple query.oracleIds count
  let approving := (os.zip atts).filter fun p => p.2.passed
  have hsub : (approving.map fun p => p.1.id).Sublist (os.map Oracle.id) := by
    have hfst : (approving.map Prod.fst).Sublist ((os.zip atts).map Prod.fst) :=
      List.filter_sublist.map _
    rw [List.map_fst_zip hlen.ge] at hfst
    have hids := hfst.map Oracle.id
    rwa [List.map_map] at hids
  refine ⟨(approving.map fun p => p.1.id).toFinset, ?_, ?_⟩
  · rw [List.toFinset_card_of_nodup (hnd.sublist hsub), List.length_map]
  · intro id hid
    obtain ⟨⟨o, att⟩, hmem, rfl⟩ := List.mem_map.mp (List.mem_toFinset.mp hid)
    obtain ⟨hzip, hpass⟩ := List.mem_filter.mp hmem
    obtain ⟨hget, hlist⟩ := OracleRegistry.get?_of_mem_resolveMultiple (List.of_mem_zip hzip).1
    exact ⟨⟨o, att, hget, hzip, hpass⟩, hlist⟩

theorem approvedBy_one
    (h : 1 ≤ (((registry.resolveMultiple query.oracleIds count).zip atts).filter fun p =>
      p.2.passed).length) :
    ApprovedBy registry query (registry.resolveMultiple query.oracleIds count) atts 1 := by
  obtain ⟨⟨o, att⟩, hmem⟩ := List.exists_mem_of_length_pos h
  obtain ⟨hzip, hpass⟩ := List.mem_filter.mp hmem
  obtain ⟨hget, hlist⟩ := OracleRegistry.get?_of_mem_resolveMultiple (List.of_mem_zip hzip).1
  refine ⟨{o.id}, by simp, ?_⟩
  intro id hid
  rw [Finset.mem_singleton.mp hid]
  exact ⟨⟨o, att, hget, hzip, hpass⟩, hlist⟩

theorem quorumSound_of_distinctVoters (hq : query.quorum = some ⟨k⟩)
    (h : DistinctVoters registry query k) : QuorumSound P registry query oracleId k := by
  intro atts result hreply hpass
  obtain ⟨hpos, hdistinct⟩ := h
  rcases verifyWithQuorum_quorum P registry oracleId hq with
    ⟨henough, hreq⟩ | ⟨-, failure, hreq⟩
  · rw [hreq] at hreply ⊢
    obtain ⟨hlen, rfl⟩ := reply_quorum hreply
    rw [passed_tally, passCount_eq _ _ hlen] at hpass
    show ApprovedBy registry query (registry.resolveMultiple query.oracleIds (k + 2)) atts (max 1 k)
    by_cases hone : k = 1
    · subst hone
      exact approvedBy_one (by exact_mod_cast hpass)
    · have hnd : ((registry.resolveMultiple query.oracleIds (k + 2)).map Oracle.id).Nodup := by
        by_cases hr : OracleRegistry.restricts query.oracleIds = true
        · have hids := registry.map_id_resolveMultiple hr (k + 2)
          rw [hids]
          refine hdistinct (by omega) hr ?_
          have hl := congrArg List.length hids
          rw [List.length_map, List.length_take] at hl
          omega
        · exact registry.nodup_resolveMultiple hr _
      obtain ⟨ids, hcard, hids⟩ := approvedBy_of_nodup hlen hnd
      exact ⟨ids, by omega, hids⟩
  · rw [hreq] at hreply
    unfold QuorumRequest.reply at hreply
    split at hreply
    · simp at hreply
    · rw [← Option.some.inj hreply] at hpass
      simp [unavailable] at hpass

/-! ## Answers that fool the count -/

/-- Every asked Oracle answers; those at the positions of `u` pass. -/
def answers (queryId : String) (os : List Oracle) (u : Finset (Fin os.length)) :
    List OracleAttestation :=
  (List.finRange os.length).map fun i => (os.get i).verdict queryId (decide (i ∈ u))

theorem length_answers (queryId : String) (os : List Oracle) (u : Finset (Fin os.length)) :
    (answers queryId os u).length = os.length := by
  simp [answers]

theorem passCount_answers (queryId : String) (os : List Oracle) (u : Finset (Fin os.length)) :
    (((answers queryId os u).map toAttestationRecord).filter
      OracleAttestationRecord.passed).length = u.card := by
  have hu : ((List.finRange os.length).filter fun i => decide (i ∈ u)).toFinset = u := by
    ext i
    simp
  rw [answers, List.map_map, List.filter_map, List.length_map]
  show ((List.finRange os.length).filter fun i => decide (i ∈ u)).length = u.card
  rw [← List.toFinset_card_of_nodup ((List.nodup_finRange _).filter _), hu]

theorem mem_of_zip_answers {o : Oracle} {att : OracleAttestation}
    (h : (o, att) ∈ os.zip (answers queryId os u)) (hp : att.passed = true) :
    ∃ i ∈ u, os.get i = o := by
  obtain ⟨n, hn, he⟩ := List.mem_iff_getElem.mp h
  rw [List.getElem_zip, Prod.mk.injEq] at he
  obtain ⟨ho, hatt⟩ := he
  have hlt : n < os.length := by
    rw [List.length_zip, length_answers] at hn
    omega
  refine ⟨⟨n, hlt⟩, ?_, ho⟩
  rw [← hatt] at hp
  simpa [answers, Oracle.verdict] using hp

theorem le_card_image_of_approvedBy {n : Int}
    (h : ApprovedBy registry query os (answers queryId os u) n) :
    n ≤ (u.image fun i => (os.get i).id).card := by
  obtain ⟨ids, hcard, hids⟩ := h
  have hsub : ids ⊆ u.image fun i => (os.get i).id := by
    intro id hid
    obtain ⟨⟨o, att, hget, hzip, hpass⟩, -⟩ := hids id hid
    obtain ⟨i, hi, rfl⟩ := mem_of_zip_answers hzip hpass
    exact Finset.mem_image.mpr ⟨i, hi, registry.keyed id _ hget⟩
  have hle := Finset.card_le_card hsub
  omega

/-- Positions of a repeated id can be padded to any number of approvals, which then come from
fewer Oracles. -/
theorem exists_positions {n : Nat} (hn : 2 ≤ n) (hle : n ≤ os.length)
    (hdup : ¬ (os.map Oracle.id).Nodup) :
    ∃ u : Finset (Fin os.length), u.card = n ∧ (u.image fun i => (os.get i).id).card < n := by
  have hinj : ¬ Function.Injective fun i : Fin os.length => (os.get i).id := by
    intro hinj
    refine hdup (List.nodup_iff_injective_get.mpr fun i j hij => ?_)
    have hi : i.val < os.length := by simpa using i.isLt
    have hj : j.val < os.length := by simpa using j.isLt
    have hval := @hinj ⟨i, hi⟩ ⟨j, hj⟩ (by simpa using hij)
    exact Fin.ext (Fin.mk.inj hval)
  rw [Function.Injective] at hinj
  push Not at hinj
  obtain ⟨i, j, hij, hne⟩ := hinj
  obtain ⟨u, hpair, -, hcard⟩ :=
    Finset.exists_subsuperset_card_eq (Finset.subset_univ {i, j}) (n := n)
      (by rw [Finset.card_pair hne]; exact hn)
      (by rw [Finset.card_univ, Fintype.card_fin]; exact hle)
  refine ⟨u, hcard, ?_⟩
  rw [← hcard]
  refine lt_of_le_of_ne Finset.card_image_le fun heq => hne ?_
  exact Finset.card_image_iff.mp heq (hpair (by simp)) (hpair (by simp)) hij

theorem reply_answers (queryId : String) (hu : k ≤ u.card) :
    (QuorumRequest.quorum os k).reply (answers queryId os u)
        = some (tally k (answers queryId os u)) ∧
      (tally k (answers queryId os u)).passed = true := by
  constructor
  · unfold QuorumRequest.reply
    rw [if_neg (by simp [QuorumRequest.asked, length_answers])]
  · rw [passed_tally, passCount_answers]
    exact hu

/-- In a sound quorum, positions that reach the threshold name at least `max 1 k` ids. -/
theorem QuorumSound.le_card_image (h : QuorumSound P registry query oracleId k)
    (hq : query.quorum = some ⟨k⟩)
    (henough : k ≤ (registry.resolveMultiple query.oracleIds (k + 2)).length)
    (u : Finset (Fin (registry.resolveMultiple query.oracleIds (k + 2)).length))
    (hu : k ≤ u.card) :
    max 1 k ≤
      (u.image fun i => ((registry.resolveMultiple query.oracleIds (k + 2)).get i).id).card := by
  rcases verifyWithQuorum_quorum P registry oracleId hq with ⟨-, hreq⟩ | ⟨hfew, -⟩
  · obtain ⟨hreply, hpass⟩ := reply_answers query.id hu
    have happ := h _ _ (by rw [hreq]; exact hreply) hpass
    rw [hreq] at happ
    exact le_card_image_of_approvedBy happ
  · omega

theorem QuorumSound.distinctVoters (h : QuorumSound P registry query oracleId k)
    (hq : query.quorum = some ⟨k⟩) : DistinctVoters registry query k := by
  refine ⟨?_, fun htwo hr hlen => ?_⟩
  · by_contra hk
    have hmax := h.le_card_image hq (by omega) ∅ (by rw [Finset.card_empty]; omega)
    rw [Finset.image_empty, Finset.card_empty] at hmax
    omega
  · have hids := registry.map_id_resolveMultiple hr (k + 2)
    have hos : k ≤ (registry.resolveMultiple query.oracleIds (k + 2)).length := by
      have hl := congrArg List.length hids
      rw [List.length_map, List.length_take] at hl
      omega
    rw [← hids]
    by_contra hdup
    obtain ⟨u, hcard, hfew⟩ := exists_positions (n := k.toNat) (by omega) (by omega) hdup
    have hmax := h.le_card_image hq hos u (by omega)
    omega

/-- A passed quorum stands for `max 1 min_approvals` different Oracles, whatever they answer,
exactly when the threshold is positive and no id is asked twice. -/
theorem verifyWithQuorum_sound_iff (P : Platform) (registry : OracleRegistry) (query : Query)
    (oracleId : Option String) (k : Int) (hq : query.quorum = some ⟨k⟩) :
    QuorumSound P registry query oracleId k ↔ DistinctVoters registry query k :=
  ⟨fun h => h.distinctVoters hq, quorumSound_of_distinctVoters hq⟩

/-- A query with this list and quorum. -/
def quorumQuery (oracleIds : List String) (minApprovals : Int) : Query where
  id := "q"
  status := .pending
  description := "weather"
  verificationRequirements := []
  createdAt := .ofInt 0
  expiresAt := .ofInt 600000
  paymentStatus := .locked
  oracleIds := some oracleIds
  quorum := some ⟨minApprovals⟩

/-- Two ids of two Oracles: two approvals are two Oracles. -/
theorem verifyWithQuorum_sound_two_ids :
    QuorumSound .integers ((OracleRegistry.empty.register ⟨"a"⟩).register ⟨"b"⟩)
      (quorumQuery ["a", "b"] 2) none 2 := by
  rw [verifyWithQuorum_sound_iff _ _ _ _ 2 rfl]
  exact ⟨by decide, fun _ _ _ => by decide⟩

/-- One Oracle, listed twice, is enough for two approvals. -/
theorem quorum_of_one_oracle :
    ((verifyWithQuorum .integers (some (OracleRegistry.empty.register ⟨"a"⟩))
        (quorumQuery ["a", "a"] 2) none).reply
          [Oracle.verdict ⟨"a"⟩ "q" true, Oracle.verdict ⟨"a"⟩ "q" true]).map (·.passed) =
        some true ∧
      ¬ QuorumSound .integers (OracleRegistry.empty.register ⟨"a"⟩)
        (quorumQuery ["a", "a"] 2) none 2 := by
  refine ⟨rfl, fun h => ?_⟩
  obtain ⟨ids, hcard, hids⟩ :=
    h [Oracle.verdict ⟨"a"⟩ "q" true, Oracle.verdict ⟨"a"⟩ "q" true] _ rfl rfl
  have hsub : ids ⊆ {"a"} := by
    intro id hid
    simpa [quorumQuery] using (hids id hid).2 rfl
  have hle := Finset.card_le_card hsub
  rw [Finset.card_singleton] at hle
  omega

end Anchr.Requests
