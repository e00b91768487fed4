import Anchr.Requests.Records

/-!
# Terminal records

The transition tables let nothing out of `approved`, `rejected` and `expired`. The store is another
matter: a suspended call writes back a snapshot, and the table is asked about the snapshot.
-/

namespace Anchr.Requests

open Infra

/-! ## Terminal records are left alone -/

/-- Ids are given out once, and a call that is resumed to commit finds a record that is still there
and not terminal. -/
def WritesLive (s : State) : Action → Prop
  | .createQuery _ _ _ newQueryId _ => newQueryId ∉ s.minted
  | .resume call answer _ => ∀ p id query, s.calls.get? call = some p → p.Commits answer →
      p.snapshot = some (id, query) →
        ∃ current, s.store.get? id = some current ∧ isTerminal current.status = false
  | _ => True

/-- A record whose status and payment status are those of `query`, or no record any more. -/
def SettledAs (query : Query) (store : QueryStore) (id : String) : Prop :=
  ∀ query', store.get? id = some query' →
    query'.status = query.status ∧ query'.paymentStatus = query.paymentStatus

section

variable {deps : ServiceDeps} {s s' : State} {a : Action} {store : QueryStore}
  {minted : List String} {id : String}

theorem StoreStep.absent (h : StoreStep deps s a store minted) (hk : Keyed s)
    (hG : WritesLive s a) (hm : id ∈ s.minted) (hnone : s.store.get? id = none) :
    store.get? id = none := by
  cases h with
  | keep => exact hnone
  | create hid =>
    rw [JsMap.get?_set_ne]
    · exact hnone
    · rintro rfl
      exact hG hm
  | transition _ hget =>
    rw [JsMap.get?_set_ne]
    · exact hnone
    · rintro rfl
      rw [hnone] at hget
      cases hget
  | resumed hcall hcommits hsnap =>
    obtain ⟨query, hget, -⟩ := hG _ _ _ hcall hcommits hsnap
    rw [JsMap.get?_set_ne]
    · exact hnone
    · rintro rfl
      rw [hnone] at hget
      cases hget
  | expire now => rw [get?_doExpireQueries hk.keyedStore, hnone]; rfl
  | purge => rw [get?_doPurgeExpired hk.keyedStore, hnone]; rfl
  | clear => rfl

theorem StoreStep.settled {query : Query} (h : StoreStep deps s a store minted) (hk : Keyed s)
    (hG : WritesLive s a) (hget : s.store.get? id = some query)
    (hterm : isTerminal query.status = true) : SettledAs query store id := by
  have hself : SettledAs query s.store id := by
    intro query' hget'
    rw [hget] at hget'
    rw [← Option.some.inj hget']
    exact ⟨rfl, rfl⟩
  -- a write under another key leaves the record alone
  have hother : ∀ {id' : String} {new : Query}, id ≠ id' →
      SettledAs query (s.store.set id' new) id := by
    intro id' new hne query' hget'
    rw [JsMap.get?_set_ne _ _ hne] at hget'
    exact hself query' hget'
  have hne_live : ∀ {id' : String} {q : Query}, s.store.get? id' = some q →
      isTerminal q.status = false → id ≠ id' := by
    rintro id' q hq hlive rfl
    rw [hget] at hq
    rw [← Option.some.inj hq, hterm] at hlive
    cases hlive
  cases h with
  | keep => exact hself
  | create hid => exact hother (fun he => hG (he ▸ (hk.store id query hget).2))
  | transition _ hold hlive => exact hother (hne_live hold hlive)
  | resumed hcall hcommits hsnap =>
    obtain ⟨q, hold, hlive⟩ := hG _ _ _ hcall hcommits hsnap
    exact hother (hne_live hold hlive)
  | expire now =>
    intro query' hget'
    rw [get?_doExpireQueries hk.keyedStore, hget] at hget'
    rw [← Option.some.inj hget', Query.expireIfDue, isExpirable_eq_not_isTerminal, hterm]
    exact ⟨rfl, rfl⟩
  | purge =>
    intro query' hget'
    rw [get?_doPurgeExpired hk.keyedStore] at hget'
    exact hself query' (Option.filter_eq_some_iff.mp hget').1
  | clear =>
    intro query' hget'
    cases hget'

end

/-- What a run may later rely on for one id that was settled as `query`. -/
def Absorbed (query : Query) (id : String) (s : State) : Prop :=
  id ∈ s.minted ∧ (s.store.get? id = none ∨
    ∃ query', s.store.get? id = some query' ∧ isTerminal query'.status = true ∧
      query'.status = query.status ∧ query'.paymentStatus = query.paymentStatus)

variable {deps : ServiceDeps} {id : String} {s s' : State} {evs : List Event} {query : Query}
  {a : Action} {actions : List Action}

theorem Absorbed.step (ha : Absorbed query id s) (hk : Keyed s) (hG : WritesLive s a)
    (h : Requests.step deps s a = some (s', evs)) :
    Absorbed query id s' := by
  have hstore := storeStep_of_step h
  obtain ⟨hm, hnone | ⟨q, hget, hterm, hs, hp⟩⟩ := ha
  · exact ⟨hstore.minted hm, .inl (hstore.absent hk hG hm hnone)⟩
  · refine ⟨hstore.minted hm, ?_⟩
    cases hget' : s'.store.get? id with
    | none => exact .inl rfl
    | some q' =>
      obtain ⟨hs', hp'⟩ := hstore.settled hk hG hget hterm q' hget'
      exact .inr ⟨q', rfl, by rw [hs']; exact hterm, hs'.trans hs, hp'.trans hp⟩

theorem absorbed_of_run {tr : List Event} (hk : Keyed s) (ha : Absorbed query id s)
    (h : Run (queryService deps) WritesLive s tr s') : Absorbed query id s' :=
  (Run.invariant (I := fun _ s => Keyed s ∧ Absorbed query id s) ⟨hk, ha⟩
    (fun hI hG hstep => ⟨hI.1.step hstep, hI.2.step hI.1 hG hstep⟩) h).2

theorem purged_of_step (hk : Keyed s) (h : step deps s a = some (s', evs)) (hev : .purged id ∈ evs) :
    id ∈ s'.minted ∧ s'.store.get? id = none := by
  have hpurge : a = .purgeExpiredFromStore := by
    have hemits := (stepShape_of_step h).emits hev fun _ _ hof => hof
    cases a <;> first | rfl | exact hemits.elim
  subst hpurge
  have hmint : ∀ {id : String}, id ∈ s.minted → id ∈ s'.minted := (storeStep_of_step h).minted
  cases h
  obtain ⟨query, hq, he⟩ := List.mem_map.mp hev
  obtain rfl : query.id = id := by injection he
  rcases mem_purged _ _ hq with hnil | ⟨hval, hexp⟩
  · cases hnil
  · obtain ⟨k, hget⟩ := JsMap.mem_values.mp hval
    obtain ⟨rfl, hk'⟩ := hk.store k query hget
    refine ⟨hmint hk', ?_⟩
    rw [get?_doPurgeExpired hk.keyedStore, hget]
    simp [Option.filter, hexp]

/--
Terminal records are absorbing in every run in which ids are fresh and a resumed call that writes
finds a live record: a purged query does not come back, and from any state on a terminal record
keeps its status and payment status for as long as it exists.
-/
theorem terminal_absorbing (deps : ServiceDeps) (registry : Option OracleRegistry)
    (preimages : JsMap String String) (tr : List Event) (s : State)
    (h : Run (queryService deps) WritesLive (State.init registry preimages) tr s) :
    (∀ id, .purged id ∈ tr → s.store.get? id = none) ∧
      ∀ tr' s', Run (queryService deps) WritesLive s tr' s' →
        ∀ id query, s.store.get? id = some query → isTerminal query.status = true →
          SettledAs query s'.store id := by
  have hk := keyed_of_run (Keyed.init registry preimages) h
  constructor
  · -- a purged id was given out and stays absent
    have hpurged : Keyed s ∧ ∀ id, .purged id ∈ tr → id ∈ s.minted ∧ s.store.get? id = none := by
      refine Run.invariant
        (I := fun tr s => Keyed s ∧ ∀ id, .purged id ∈ tr → id ∈ s.minted ∧ s.store.get? id = none)
        ⟨Keyed.init registry preimages, by simp⟩ ?_ h
      rintro tr s a s' evs ⟨hk, hI⟩ hG hstep
      refine ⟨hk.step hstep, fun id hid => ?_⟩
      rcases List.mem_append.mp hid with hold | hnew
      · obtain ⟨hm, hnone⟩ := hI id hold
        have hstore := storeStep_of_step hstep
        exact ⟨hstore.minted hm, hstore.absent hk hG hm hnone⟩
      · exact purged_of_step hk hstep hnew
    exact fun id hid => (hpurged.2 id hid).2
  · intro tr' s' hrun id query hget hterm query' hget'
    have ha : Absorbed query id s :=
      ⟨(hk.store id query hget).2, .inr ⟨query, hget, hterm, rfl, rfl⟩⟩
    obtain ⟨-, hnone | ⟨q, hq, -, hs, hp⟩⟩ := absorbed_of_run hk ha hrun
    · rw [hnone] at hget'
      cases hget'
    · rw [hget'] at hq
      rw [Option.some.inj hq]
      exact ⟨hs, hp⟩

/-- A result is submitted. -/
def submitted : List Action :=
  [.createQuery { description := "weather" } (some { oracleIds := some ["a"] }) (.ofInt 0) "q" "n",
    .submitQueryResult "q" { attachments := [] } { executorType := .human } (some "a") none
      (.ofInt 1)]

/-- The Oracle approves. -/
def approval : Action :=
  .resume 0 (.attestations [Oracle.verdict ⟨"a"⟩ "q" true]) (.ofInt 2)

/-- No records, and one Oracle. -/
def oneOracle : State := State.init (some (OracleRegistry.empty.register ⟨"a"⟩)) .empty

/-- No ports. -/
def bareDeps : ServiceDeps := .wired false false false

/-- The status of the record after these actions. -/
def statusAfter (deps : ServiceDeps) (s : State) (actions : List Action) (id : String) :
    Option (QueryStatus × PaymentStatus) :=
  (((queryService deps).exec s actions).bind fun r => r.1.store.get? id).map fun q =>
    (q.status, q.paymentStatus)

theorem exists_of_statusAfter {status : QueryStatus × PaymentStatus}
    (h : statusAfter deps s actions id = some status) :
    ∃ s' tr query, (queryService deps).exec s actions = some (s', tr) ∧
      s'.store.get? id = some query ∧ (query.status, query.paymentStatus) = status := by
  obtain ⟨query, hquery, hstatus⟩ := Option.map_eq_some_iff.mp h
  obtain ⟨⟨s', tr⟩, hexec, hget⟩ := Option.bind_eq_some_iff.mp hquery
  exact ⟨s', tr, query, hexec, hget, hstatus⟩

def recordAfter {β : Type} (deps : ServiceDeps) (s : State) (actions : List Action) (id : String)
    (f : State → Query → β) : Option β :=
  ((queryService deps).exec s actions).bind fun r => (r.1.store.get? id).map (f r.1)

theorem exists_of_recordAfter {β : Type} {f : State → Query → β} {b : β}
    (h : recordAfter deps s actions id f = some b) :
    ∃ tr s' query, Run (queryService deps) AnyStep s tr s' ∧ s'.store.get? id = some query ∧
      f s' query = b := by
  obtain ⟨⟨s', tr⟩, hexec, hread⟩ := Option.bind_eq_some_iff.mp h
  obtain ⟨query, hget, hb⟩ := Option.map_eq_some_iff.mp hread
  have hrun := Run.of_exec _ .start (Machine.admits_anyStep _ _ _) hexec
  rw [List.nil_append] at hrun
  exact ⟨tr, s', query, hrun, hget, hb⟩

/-- A cancelled query, here with a submission still under verification, stays cancelled. -/
theorem terminal_absorbing_cancelled :
    ∃ tr s query, Run (queryService bareDeps) WritesLive oneOracle tr s ∧
      s.store.get? "q" = some query ∧ query.status = .rejected ∧
      ∀ tr' s', Run (queryService bareDeps) WritesLive s tr' s' →
        SettledAs query s'.store "q" := by
  have hstatus : statusAfter bareDeps oneOracle
      (submitted ++ [.cancelQuery "q"]) "q" = some (.rejected, .cancelled) := by decide +kernel
  obtain ⟨s, tr, query, hexec, hget, hq⟩ := exists_of_statusAfter hstatus
  obtain ⟨hrej, -⟩ := Prod.mk.inj hq
  have hadmits : (queryService bareDeps).Admits WritesLive oneOracle
      (submitted ++ [.cancelQuery "q"]) :=
    ⟨List.not_mem_nil, fun _ _ => ⟨trivial, fun _ _ => ⟨trivial, fun _ _ => trivial⟩⟩⟩
  have hrun := Run.of_exec _ .start hadmits hexec
  rw [List.nil_append] at hrun
  refine ⟨tr, s, query, hrun, hget, hrej, fun tr' s' hrun' => ?_⟩
  exact (terminal_absorbing _ _ _ tr s hrun).2 tr' s' hrun' "q" query hget (by rw [hrej]; rfl)

/-- A customer cancels while the Oracle works; the approval then releases the payment. A query
that expired and was purged in the meantime is stored again. -/
theorem cancelled_then_released :
    statusAfter bareDeps oneOracle (submitted ++ [.cancelQuery "q"]) "q"
        = some (.rejected, .cancelled) ∧
      statusAfter bareDeps oneOracle
        (submitted ++ [.cancelQuery "q", approval]) "q" = some (.approved, .released) ∧
      statusAfter bareDeps oneOracle
        (submitted ++ [.expireQueries (.ofInt 600001), .purgeExpiredFromStore]) "q" = none ∧
      statusAfter bareDeps oneOracle
        (submitted ++ [.expireQueries (.ofInt 600001), .purgeExpiredFromStore, approval]) "q"
          = some (.approved, .released) := by
  refine ⟨?_, ?_, ?_, ?_⟩ <;> decide +kernel

end Anchr.Requests
