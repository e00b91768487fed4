import Anchr.Frost.SigningCoordinator

/-!
# What the aggregator is given

An answer without the member `commitments` or `signature_share` counts towards the threshold and is
then dropped from the text. A threshold of one is met by this node alone, so a peer that commits in
round 1 may be missing in round 2, and is listed all the same. Peers with the same index are listed
once each.
-/

namespace Anchr.Frost

open Infra

namespace SigningCall

variable (c : SigningCall) (r : Rounds)

def CommitmentSupplied (identifier : String) (value : Json) : Prop :=
  (identifier = identifierFromIndex c.node.signerIndex ∧ ∃ result data,
    c.world.signRound1 = some result ∧ result.usable = some data ∧
      data.get? "commitments" = some value) ∨
  ∃ place peer data, c.node.peers[place]? = some peer ∧
    identifier = identifierFromIndex peer.signerIndex ∧
    (c.ask1 place peer).data = some data ∧ data.get? "commitments" = some value

def ShareSupplied (identifier : String) (value : Json) : Prop :=
  (identifier = identifierFromIndex c.node.signerIndex ∧ ∃ args result data,
    c.world.signRound2 args = some result ∧ result.usable = some data ∧
      data.get? "signature_share" = some value) ∨
  ∃ place p data, r.participatingPeers[place]? = some p ∧ identifier = p.identifier ∧
    (c.ask2 r.toRound1State place p).data = some data ∧
      data.get? "signature_share" = some value

structure SetsRight (call : AggregateCall) : Prop where
  same : ∀ identifier, identifier ∈ call.commitments.map Prod.fst ↔
    identifier ∈ call.shares.map Prod.fst
  each : (call.shares.map Prod.fst).Nodup
  enough : c.node.threshold ≤ call.shares.length
  commitments : ∀ identifier value, (identifier, value) ∈ call.commitments →
    c.CommitmentSupplied identifier value
  shares : ∀ identifier value, (identifier, value) ∈ call.shares →
    c.ShareSupplied r identifier value

/-- The signers that are listed are those whose shares were aggregated, each once. -/
structure ParticipatedRight (call : AggregateCall) (signersParticipated : List Nat) : Prop where
  once : signersParticipated.Nodup
  aggregated : ∀ identifier, identifier ∈ call.shares.map Prod.fst ↔
    identifier ∈ signersParticipated.map identifierFromIndex

/-- Whenever `coordinateSigning` calls the aggregator, whatever that answers. -/
def AggregationRight : Prop :=
  ∀ aggregate call, (c.coordinateSigning aggregate).1 = some call →
    ∃ r, c.rounds = some r ∧ c.SetsRight r call ∧
      ∀ result, (c.coordinateSigning aggregate).2 = some result →
        ParticipatedRight call result.signersParticipated

/-- The peers that complete the threshold: the first to answer round 1 with data, as many as are
missing besides this node. With a threshold of one the first answer is still waited for. -/
def signers : List Participant :=
  let answers := round1Answers c.node c.ask1 0 c.node.peers
  if c.node.threshold ≤ 1 then participants (answers.take 1)
  else (participants answers).take (c.node.threshold - 1)

/-- The participants have different indices, they answer round 2 as well, and none of the answers
lacks its member; `data1` and `data2` are this node's own. -/
structure Complete (s : Round1State) (data1 data2 : Json) : Prop where
  distinct : s.indices.Nodup
  localCommitments : (data1.get? "commitments").isSome
  commitments : ∀ p ∈ s.participatingPeers, p.commitments.isSome
  localShare : (data2.get? "signature_share").isSome
  shares : ∀ (place : Nat) p, s.participatingPeers[place]? = some p →
    ∃ data, (c.ask2 s place p).data = some data ∧ (data.get? "signature_share").isSome

abbrev RoundsComplete : Prop := c.Complete r.toRound1State r.data1 r.data2

/-- The same before the rounds, from the answers alone. -/
def AnswersComplete (data1 data2 : Json) : Prop :=
  c.Complete ((Round1State.start c.node data1).addAll c.signers) data1 data2

variable {c r}

/-! ## The rounds -/

variable (c r) in
structure Gone : Prop where
  answered1 : ∃ result, c.world.signRound1 = some result ∧ result.usable = some r.data1
  collected : r.toRound1State = c.round1 r.data1
  committed : c.node.threshold ≤ r.commitments.entries.length
  answered2 : ∃ args result, c.world.signRound2 args = some result ∧ result.usable = some r.data2
  shares : r.shares = assigned
    (identifierFromIndex c.node.signerIndex, r.data2.get? "signature_share")
    ((round2Answers (c.ask2 r.toRound1State) 0 r.participatingPeers).map
      fun e => (e.1.identifier, e.2.get? "signature_share"))
  enough : c.node.threshold ≤ r.shares.entries.length

theorem gone (h : c.rounds = some r) : c.Gone r := by
  unfold rounds at h
  obtain ⟨result1, h1, h⟩ := Option.bind_eq_some_iff.mp h
  obtain ⟨data1, hdata1, h⟩ := Option.bind_eq_some_iff.mp h
  dsimp only at h
  split at h
  next => simp at h
  next hcommitted =>
    obtain ⟨result2, h2, h⟩ := Option.bind_eq_some_iff.mp h
    obtain ⟨data2, hdata2, h⟩ := Option.bind_eq_some_iff.mp h
    split at h
    next => simp at h
    next henough =>
      cases h
      exact ⟨⟨result1, h1, hdata1⟩, rfl, not_lt.mp hcommitted, ⟨_, result2, h2, hdata2⟩,
        round2Peers_eq _ _ _ _, not_lt.mp henough⟩

/-- Those that take part are the first of those that answer round 1 with data. -/
theorem Gone.taken (h : c.Gone r) :
    r.participatingPeers <+: participants (round1Answers c.node c.ask1 0 c.node.peers) ∧
    r.toRound1State = (Round1State.start c.node r.data1).addAll r.participatingPeers := by
  have hcollected := h.collected
  unfold round1 at hcollected
  rw [round1Peers_eq_gather] at hcollected
  obtain ⟨added, hadded, heq⟩ := gather_eq c.node.threshold
    (round1Answers c.node c.ask1 0 c.node.peers) (.start c.node r.data1)
  rw [heq] at hcollected
  have hpeers : r.participatingPeers = added := congrArg Round1State.participatingPeers hcollected
  rw [hpeers]
  exact ⟨hadded, hcollected⟩

theorem Gone.commitments (h : c.Gone r) :
    r.commitments = assigned (identifierFromIndex c.node.signerIndex, r.data1.get? "commitments")
      (r.participatingPeers.map fun p => (p.identifier, p.commitments)) :=
  congrArg Round1State.commitments h.taken.2

theorem Gone.peers (h : c.Gone r) {p : Participant} (hp : p ∈ r.participatingPeers) :
    Round1Answer c.node c.ask1 0 c.node.peers p :=
  mem_round1Answers (mem_participants (h.taken.1.subset hp))

theorem Gone.ne (h : c.Gone r) : ∀ p ∈ r.participatingPeers,
    p.peer.signerIndex ≠ c.node.signerIndex := by
  intro p hp
  obtain ⟨-, -, hne, -⟩ := h.peers hp
  exact hne

/-! ## Members that are not `undefined` -/

variable {members : List (String × Option Json)} {value : Json} {name identifier : String}

theorem mem_definedMembers :
    (name, value) ∈ definedMembers members ↔ (name, some value) ∈ members := by
  unfold definedMembers
  rw [List.mem_filterMap]
  constructor
  · rintro ⟨⟨n, v⟩, hmem, hv⟩
    obtain ⟨w, hw, heq⟩ := Option.map_eq_some_iff.mp hv
    obtain ⟨rfl, rfl⟩ := Prod.mk.inj heq
    obtain rfl : v = some w := hw
    exact hmem
  · intro hmem
    exact ⟨(name, some value), hmem, rfl⟩

theorem mem_names_definedMembers :
    name ∈ (definedMembers members).map Prod.fst ↔ ∃ value, (name, some value) ∈ members := by
  rw [List.mem_map]
  constructor
  · rintro ⟨⟨n, v⟩, hmem, rfl⟩
    exact ⟨v, mem_definedMembers.mp hmem⟩
  · rintro ⟨value, hmem⟩
    exact ⟨(name, value), mem_definedMembers.mpr hmem, rfl⟩

theorem names_definedMembers (h : ∀ m ∈ members, m.2.isSome) :
    (definedMembers members).map Prod.fst = members.map Prod.fst := by
  induction members with
  | nil => rfl
  | cons m members ih =>
    obtain ⟨name, value⟩ := m
    obtain ⟨v, rfl⟩ : ∃ v, value = some v := Option.isSome_iff_exists.mp (h (name, value) (by simp))
    have hrest := ih fun d hd => h d (by simp [hd])
    show name :: (definedMembers members).map Prod.fst = name :: members.map Prod.fst
    rw [hrest]

/-! ## Supplied by the signers -/

theorem Gone.commitmentSupplied (h : c.Gone r)
    (hmem : (identifier, some value) ∈ r.commitments.entries) :
    c.CommitmentSupplied identifier value := by
  rw [h.commitments] at hmem
  rcases mem_assigned hmem with heq | hmem
  · obtain ⟨result, hresult, husable⟩ := h.answered1
    obtain ⟨rfl, hvalue⟩ := Prod.mk.inj heq
    exact .inl ⟨rfl, result, r.data1, hresult, husable, hvalue.symm⟩
  · obtain ⟨p, hp, heq⟩ := List.mem_map.mp hmem
    obtain ⟨rfl, hvalue⟩ := Prod.mk.inj heq
    obtain ⟨i, hi, -, hdata⟩ := h.peers hp
    rw [Nat.zero_add] at hdata
    exact .inr ⟨i, p.peer, p.answer, hi, rfl, hdata, hvalue⟩

theorem Gone.shareSupplied (h : c.Gone r) (hmem : (identifier, some value) ∈ r.shares.entries) :
    c.ShareSupplied r identifier value := by
  rw [h.shares] at hmem
  rcases mem_assigned hmem with heq | hmem
  · obtain ⟨args, result, hresult, husable⟩ := h.answered2
    obtain ⟨rfl, hvalue⟩ := Prod.mk.inj heq
    exact .inl ⟨rfl, args, result, r.data2, hresult, husable, hvalue.symm⟩
  · obtain ⟨e, he, heq⟩ := List.mem_map.mp hmem
    obtain ⟨rfl, hvalue⟩ := Prod.mk.inj heq
    obtain ⟨i, hi, hdata⟩ := mem_round2Answers he
    rw [Nat.zero_add] at hdata
    exact .inr ⟨i, e.1, e.2, hi, rfl, hdata, hvalue⟩

/-! ## Distinct participants -/

theorem nodup_identifiers_iff {peers : List Participant}
    (hne : ∀ p ∈ peers, p.peer.signerIndex ≠ c.node.signerIndex) :
    (identifierFromIndex c.node.signerIndex :: peers.map Participant.identifier).Nodup ↔
      (peers.map fun p => p.peer.signerIndex).Nodup := by
  have hmap : identifierFromIndex c.node.signerIndex :: peers.map Participant.identifier
      = (c.node.signerIndex :: peers.map fun p => p.peer.signerIndex).map identifierFromIndex := by
    rw [List.map_cons, List.map_map]
    rfl
  rw [hmap, List.nodup_map_iff identifierFromIndex_injective, List.nodup_cons]
  refine and_iff_right fun hmem => ?_
  obtain ⟨p, hp, heq⟩ := List.mem_map.mp hmem
  exact hne p hp heq

theorem Gone.entries_commitments (h : c.Gone r) (hdistinct : r.indices.Nodup) :
    r.commitments.entries = (identifierFromIndex c.node.signerIndex, r.data1.get? "commitments") ::
      r.participatingPeers.map fun p => (p.identifier, p.commitments) := by
  rw [h.commitments]
  refine entries_assigned ?_
  have hnodup := (nodup_identifiers_iff h.ne).mpr hdistinct
  simpa [Function.comp_def] using hnodup

theorem Gone.entries_shares (h : c.Gone r) (hdistinct : r.indices.Nodup) :
    r.shares.entries = (identifierFromIndex c.node.signerIndex, r.data2.get? "signature_share") ::
      (round2Answers (c.ask2 r.toRound1State) 0 r.participatingPeers).map
        fun e => (e.1.identifier, e.2.get? "signature_share") := by
  rw [h.shares]
  refine entries_assigned ?_
  -- those that have answered round 2 are some of the participants, in the same order
  have hsub := ((round2Answers_sublist (c.ask2 r.toRound1State) r.participatingPeers 0).map
    Participant.identifier).cons_cons (identifierFromIndex c.node.signerIndex)
  have hnodup := ((nodup_identifiers_iff h.ne).mpr hdistinct).sublist hsub
  simpa [Function.comp_def] using hnodup

/-! ## The peers that complete the threshold -/

theorem start_entries (node : SigningNodeConfig) (data : Json) :
    (Round1State.start node data).commitments.entries =
      [(identifierFromIndex node.signerIndex, data.get? "commitments")] := by
  unfold Round1State.start
  rw [JsMap.entries_set_of_not_mem (by simp [JsMap.empty])]
  rfl

/-- If these have different indices, they are the ones that take part. -/
theorem Gone.eq_signers (h : c.Gone r)
    (hdistinct : (c.signers.map fun p => p.peer.signerIndex).Nodup) :
    r.toRound1State = (Round1State.start c.node r.data1).addAll c.signers := by
  rw [h.collected, round1, round1Peers_eq_gather]
  unfold signers at hdistinct ⊢
  dsimp only at hdistinct ⊢
  by_cases hthreshold : c.node.threshold ≤ 1
  · rw [if_pos hthreshold]
    exact gather_of_le (by rw [start_entries]; exact hthreshold) _
  · rw [if_neg hthreshold] at hdistinct ⊢
    refine gather_of_nodup _ _ _ _ ?_ (by omega) ?_
    · rw [start_entries, List.length_singleton]
      omega
    · rw [start_entries]
      refine (nodup_identifiers_iff fun p hp => ?_).mpr hdistinct
      obtain ⟨-, -, hne, -⟩ := mem_round1Answers (mem_participants (List.mem_of_mem_take hp))
      exact hne

theorem Gone.distinct_signers (h : c.Gone r) (hdistinct : r.indices.Nodup) :
    (c.signers.map fun p => p.peer.signerIndex).Nodup := by
  have hcommitted := h.committed
  rw [h.entries_commitments hdistinct, List.length_cons, List.length_map] at hcommitted
  obtain ⟨rest, hrest⟩ := h.taken.1
  unfold signers
  dsimp only
  by_cases hthreshold : c.node.threshold ≤ 1
  · rw [if_pos hthreshold]
    match round1Answers c.node c.ask1 0 c.node.peers with
    | [] => exact List.nodup_nil
    | (_, none) :: _ => exact List.nodup_nil
    | (_, some _) :: _ => exact List.nodup_singleton _
  · rw [if_neg hthreshold, ← hrest, List.take_append_of_le_length (by omega)]
    exact hdistinct.sublist ((List.take_sublist _ _).map _)

theorem Gone.complete_iff (h : c.Gone r) :
    c.AnswersComplete r.data1 r.data2 ↔ c.RoundsComplete r := by
  constructor
  · intro hc
    rw [RoundsComplete, h.eq_signers hc.distinct]
    exact hc
  · intro hc
    rw [RoundsComplete, h.eq_signers (h.distinct_signers hc.distinct)] at hc
    exact hc

/-! ## Complete answers -/

theorem Complete.answers (hc : c.RoundsComplete r) :
    (round2Answers (c.ask2 r.toRound1State) 0 r.participatingPeers).map Prod.fst =
      r.participatingPeers ∧
    ∀ e ∈ round2Answers (c.ask2 r.toRound1State) 0 r.participatingPeers,
      (e.2.get? "signature_share").isSome := by
  constructor
  · refine round2Answers_of_all fun i p hp => ?_
    obtain ⟨data, hdata, -⟩ := hc.shares i p hp
    rw [Nat.zero_add, hdata]
    rfl
  · intro e he
    obtain ⟨i, hi, hdata⟩ := mem_round2Answers he
    obtain ⟨data, hdata', hshare⟩ := hc.shares i e.1 hi
    rw [Nat.zero_add, hdata'] at hdata
    cases hdata
    exact hshare

theorem Gone.names (h : c.Gone r) (hc : c.RoundsComplete r) :
    (c.aggregation r).commitments.map Prod.fst = (c.participated r).map identifierFromIndex ∧
    (c.aggregation r).shares.map Prod.fst = (c.participated r).map identifierFromIndex := by
  have hparticipated : (c.participated r).map identifierFromIndex
      = identifierFromIndex c.node.signerIndex ::
        r.participatingPeers.map Participant.identifier := by
    unfold participated Round1State.indices
    rw [List.map_cons, List.map_map]
    rfl
  obtain ⟨hall, hshares⟩ := hc.answers
  rw [hparticipated]
  constructor
  · show (definedMembers r.commitments.entries).map Prod.fst = _
    rw [h.entries_commitments hc.distinct, names_definedMembers, List.map_cons, List.map_map]
    · rfl
    · intro m hm
      rcases List.mem_cons.mp hm with rfl | hm
      · exact hc.localCommitments
      · obtain ⟨p, hp, rfl⟩ := List.mem_map.mp hm
        exact hc.commitments p hp
  · show (definedMembers r.shares.entries).map Prod.fst = _
    rw [h.entries_shares hc.distinct, names_definedMembers, List.map_cons, List.map_map]
    · conv => rhs; rw [← hall, List.map_map]
      rfl
    · intro m hm
      rcases List.mem_cons.mp hm with rfl | hm
      · exact hc.localShare
      · obtain ⟨e, he, rfl⟩ := List.mem_map.mp hm
        exact hshares e he

theorem Gone.right (h : c.Gone r) (hc : c.RoundsComplete r) :
    c.SetsRight r (c.aggregation r) ∧ ParticipatedRight (c.aggregation r) (c.participated r) := by
  obtain ⟨hcommitments, hshares⟩ := h.names hc
  have honce : (c.participated r).Nodup := by
    refine List.nodup_cons.mpr ⟨fun hmem => ?_, hc.distinct⟩
    obtain ⟨p, hp, heq⟩ := List.mem_map.mp hmem
    exact h.ne p hp heq
  refine ⟨⟨?_, ?_, ?_, ?_, ?_⟩, honce, ?_⟩
  · intro identifier
    rw [hcommitments, hshares]
  · rw [hshares]
    exact honce.map identifierFromIndex_injective
  · have hlength := congrArg List.length hshares
    have henough := h.enough
    rw [h.entries_shares hc.distinct, List.length_cons, List.length_map] at henough
    have hall := congrArg List.length hc.answers.1
    rw [List.length_map] at hall hlength
    rw [hlength, List.length_map]
    show _ ≤ (_ :: List.map _ _).length
    rw [List.length_cons, List.length_map, ← hall]
    exact henough
  · intro identifier value hmem
    exact h.commitmentSupplied (mem_definedMembers.mp hmem)
  · intro identifier value hmem
    exact h.shareSupplied (mem_definedMembers.mp hmem)
  · intro identifier
    rw [hshares]

/-! ## Main result -/

theorem isSome_of_mem {m : Collected} {v : Option Json} (h : (identifier, v) ∈ m.entries)
    (h' : ∃ value, (identifier, some value) ∈ m.entries) :
    v.isSome := by
  obtain ⟨value, h'⟩ := h'
  rw [← JsMap.get?_eq_some] at h h'
  rw [Option.some.inj (h.symm.trans h')]
  rfl

theorem Gone.answered (h : c.Gone r) (hdistinct : r.indices.Nodup) {place : Nat} {p : Participant}
    (hp : r.participatingPeers[place]? = some p)
    (hmem : (p.identifier, some value) ∈ r.shares.entries) :
    ∃ data, (c.ask2 r.toRound1State place p).data = some data ∧
      (data.get? "signature_share").isSome := by
  rw [h.entries_shares hdistinct] at hmem
  rcases List.mem_cons.mp hmem with heq | hmem
  · exact absurd (identifierFromIndex_injective (Prod.mk.inj heq).1)
      (h.ne p (List.mem_of_getElem? hp))
  · obtain ⟨e, he, heq⟩ := List.mem_map.mp hmem
    obtain ⟨hidentifier, hshare⟩ := Prod.mk.inj heq
    obtain ⟨i, hi, hdata⟩ := mem_round2Answers he
    have hindex : e.1.peer.signerIndex = p.peer.signerIndex :=
      identifierFromIndex_injective hidentifier
    have hi' : r.indices[i]? = some e.1.peer.signerIndex := by
      rw [Round1State.indices, List.getElem?_map, hi]
      rfl
    have hplace : r.indices[place]? = some p.peer.signerIndex := by
      rw [Round1State.indices, List.getElem?_map, hp]
      rfl
    obtain ⟨hlt, -⟩ := List.getElem?_eq_some_iff.mp hi'
    obtain rfl : i = place := (List.getElem?_inj hlt hdistinct).mp (by rw [hi', hplace, hindex])
    obtain rfl : e.1 = p := Option.some.inj (hi.symm.trans hp)
    rw [Nat.zero_add] at hdata
    exact ⟨e.2, hdata, by rw [hshare]; rfl⟩

theorem Gone.complete_of_right (h : c.Gone r)
    (hsame : ∀ identifier, identifier ∈ (c.aggregation r).commitments.map Prod.fst ↔
      identifier ∈ (c.aggregation r).shares.map Prod.fst)
    (hp : ParticipatedRight (c.aggregation r) (c.participated r)) : c.RoundsComplete r := by
  have hdistinct := (List.nodup_cons.mp hp.once).2
  have hcommitments := h.entries_commitments hdistinct
  -- every listed signer has a share in the text, and so a commitment
  have hshare : ∀ index ∈ c.participated r, ∃ value,
      (identifierFromIndex index, some value) ∈ r.shares.entries := fun index hindex =>
    mem_names_definedMembers.mp ((hp.aggregated _).mpr (List.mem_map_of_mem hindex))
  have hcommitment : ∀ index ∈ c.participated r, ∃ value,
      (identifierFromIndex index, some value) ∈ r.commitments.entries := fun index hindex =>
    mem_names_definedMembers.mp
      ((hsame _).mpr ((hp.aggregated _).mpr (List.mem_map_of_mem hindex)))
  have hpeer : ∀ p ∈ r.participatingPeers, p.peer.signerIndex ∈ c.participated r :=
    fun p hp => List.mem_cons_of_mem _ (List.mem_map_of_mem hp)
  refine ⟨hdistinct, ?_, ?_, ?_, ?_⟩
  · refine isSome_of_mem ?_ (hcommitment _ List.mem_cons_self)
    rw [hcommitments]
    exact List.mem_cons_self
  · intro p hp
    refine isSome_of_mem ?_ (hcommitment _ (hpeer p hp))
    rw [hcommitments]
    exact List.mem_cons_of_mem _ (List.mem_map_of_mem hp)
  · refine isSome_of_mem ?_ (hshare _ List.mem_cons_self)
    rw [h.entries_shares hdistinct]
    exact List.mem_cons_self
  · intro place p hplace
    obtain ⟨value, hvalue⟩ := hshare _ (hpeer p (List.mem_of_getElem? hplace))
    exact h.answered hdistinct hplace hvalue

/-- The aggregator is given the right sets, and the right signers are listed, if and only if the
first peers to answer round 1 have different indices, answer round 2 too, and no answer lacks its
member. -/
theorem aggregation_sets_iff (c : SigningCall) :
    c.AggregationRight ↔ ∀ r, c.rounds = some r → c.AnswersComplete r.data1 r.data2 := by
  constructor
  · intro hright r hr
    have h := gone hr
    -- an aggregator that signs whatever it is given
    obtain ⟨r', hr', hsets, hlisted⟩ := hright
      (fun _ => some { ok := true, data := some (.obj [("signature", .str "00")]) })
      (c.aggregation r) (by unfold coordinateSigning; rw [hr])
    obtain rfl : r = r' := Option.some.inj (hr.symm.trans hr')
    refine h.complete_iff.mpr (h.complete_of_right hsets.same (hlisted
      { signature := .str "00", signersParticipated := c.participated r } ?_))
    unfold coordinateSigning
    rw [hr]
    rfl
  · intro hcomplete aggregate call hcall
    unfold coordinateSigning at hcall ⊢
    cases hr : c.rounds with
    | none =>
      rw [hr] at hcall
      cases hcall
    | some r =>
      rw [hr] at hcall
      cases hcall
      have h := gone hr
      obtain ⟨hsets, hparticipated⟩ := h.right (h.complete_iff.mp (hcomplete r hr))
      refine ⟨r, rfl, hsets, fun result hresult => ?_⟩
      obtain ⟨agg, -, hresult⟩ := Option.bind_eq_some_iff.mp hresult
      obtain ⟨signature, -, hresult⟩ := Option.bind_eq_some_iff.mp hresult
      cases hresult
      exact hparticipated

end SigningCall

/-- Signer 1, with peers of the given indices. -/
def firstSigner (threshold : Nat) (peers : List Nat) : SigningNodeConfig where
  keyPackage := .str "k"
  groupPubkey := "g"
  signerIndex := 1
  threshold := threshold
  pubkeyPackage := .str "p"
  peers := peers.map fun index => { signerIndex := index, endpoint := "http://peer" }

def commits : Json := .obj [("nonces", .str "n"), ("commitments", .str "c")]

def shares : Json := .obj [("signature_share", .str "s")]

def peersAnswer (node : SigningNodeConfig) (reply1 reply2 : PeerReply) : SigningCall where
  text := .safeIntegers
  node := node
  world :=
    { signRound1 := some { ok := true, data := some commits }
      round1 := fun _ _ => reply1
      signRound2 := fun _ => some { ok := true, data := some shares }
      round2 := fun _ _ => reply2 }
  messageHex := "00"

/-- The signers in the sets, and those that are listed. -/
def SigningCall.aggregatedIndices (c : SigningCall) :
    Option (List Nat × List Nat) × Option (List Nat) :=
  let indices (members : List (String × Json)) := members.map fun m => hexNumber m.1.toList
  let r := c.coordinateSigning fun _ =>
    some { ok := true, data := some (.obj [("signature", .str "00")]) }
  (r.1.map fun call => (indices call.commitments, indices call.shares),
    r.2.map SigningCoordinatorResult.signersParticipated)

/-- Where the sets are right, so are the indices. -/
theorem SigningCall.AggregationRight.indices {c : SigningCall} (h : c.AggregationRight)
    {committed shared listed : List Nat}
    (hindices : c.aggregatedIndices = (some (committed, shared), some listed)) :
    (∀ index, index ∈ committed ↔ index ∈ shared) ∧ listed.Nodup := by
  obtain ⟨hfirst, hsecond⟩ := Prod.mk.inj hindices
  obtain ⟨call, hcall, hlists⟩ := Option.map_eq_some_iff.mp hfirst
  obtain ⟨result, hresult, hlisted⟩ := Option.map_eq_some_iff.mp hsecond
  obtain ⟨rfl, rfl⟩ := Prod.mk.inj hlists
  obtain ⟨r, -, hsets, hparticipated⟩ := h _ call hcall
  refine ⟨fun index => ?_, hlisted ▸ (hparticipated result hresult).once⟩
  have hmem : ∀ members : List (String × Json),
      index ∈ members.map (fun m => hexNumber m.1.toList) ↔
        ∃ identifier ∈ members.map Prod.fst, hexNumber identifier.toList = index := by simp
  simp only [hmem, hsets.same]

/-- A peer sends no commitment. -/
def withoutCommitment : SigningCall :=
  peersAnswer (firstSigner 2 [2]) (.json (.obj [])) (.json shares)

/-- A peer is missing in round 2. -/
def withoutShare : SigningCall := peersAnswer (firstSigner 1 [2]) (.json commits) .failed

/-- A peer is listed twice. -/
def listedTwice : SigningCall :=
  peersAnswer (firstSigner 3 [2, 2, 3]) (.json commits) (.json shares)

/-- Each of the three makes the sets, or the list of signers, wrong. -/
theorem aggregation_sets_wrong :
    (withoutCommitment.aggregatedIndices = (some ([1], [1, 2]), some [1, 2]) ∧
      ¬withoutCommitment.AggregationRight) ∧
    (withoutShare.aggregatedIndices = (some ([1, 2], [1]), some [1, 2]) ∧
      ¬withoutShare.AggregationRight) ∧
    listedTwice.aggregatedIndices = (some ([1, 2, 3], [1, 2, 3]), some [1, 2, 2, 3]) ∧
      ¬listedTwice.AggregationRight := by
  have hfirst : withoutCommitment.aggregatedIndices = (some ([1], [1, 2]), some [1, 2]) := by
    decide +kernel
  have hsecond : withoutShare.aggregatedIndices = (some ([1, 2], [1]), some [1, 2]) := by
    decide +kernel
  have hthird : listedTwice.aggregatedIndices =
      (some ([1, 2, 3], [1, 2, 3]), some [1, 2, 2, 3]) := by decide +kernel
  refine ⟨⟨hfirst, fun h => ?_⟩, ⟨hsecond, fun h => ?_⟩, hthird, fun h => ?_⟩
  · exact absurd ((h.indices hfirst).1 2) (by decide)
  · exact absurd ((h.indices hsecond).1 2) (by decide)
  · exact absurd (h.indices hthird).2 (by decide)

end Anchr.Frost
