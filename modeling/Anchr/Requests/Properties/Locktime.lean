import Anchr.Requests.Properties.Terminal

/-!
# The locktime of an escrow

A new escrow has to be locked for ten minutes at least. The check is skipped where the locktime is
falsy, so `0` and NaN get through.
-/

namespace Anchr.Requests

open Infra

/-- The escrow of the record, if it has one, is locked until ten minutes after the creation or
later. -/
def LocktimeKept (query : Query) : Prop :=
  ∀ escrow ∈ query.escrow, escrow.locktime.isFinite = true ∧
    ((query.createdAt.scale (1 / 1000)).floor.add minEscrowLocktimeSecs).le escrow.locktime = true

instance (query : Query) : Decidable (LocktimeKept query) := by
  unfold LocktimeKept
  infer_instance

/-- The clock gives a time, and an escrow is created with a locktime that is neither `0` nor NaN. -/
def LocktimeGiven (_ : State) : Action → Prop
  | .createQuery _ options now _ _ => now.isFinite = true ∧
      ∀ escrow, options.bind (·.escrow) = some escrow → escrow.locktime.truthy = true
  | _ => True

/-! ## At the creation -/

theorem validateEscrowLocktime_none {P : Platform} {locktime nowSecs : JsNumber}
    (hnow : nowSecs.isFinite = true)
    (h : validateEscrowLocktime P locktime nowSecs minEscrowLocktimeSecs = none) :
    locktime.isFinite = true ∧ (nowSecs.add minEscrowLocktimeSecs).le locktime = true := by
  unfold validateEscrowLocktime at h
  split at h
  · cases h
  · next hfinite =>
    dsimp only at h
    split at h
    · cases h
    · next hfar =>
      cases locktime with
      | fin l =>
        cases nowSecs with
        | fin n =>
          refine ⟨rfl, JsNumber.le_of_not_lt rfl rfl ?_⟩
          -- both sides are finite, so the subtraction can be undone
          have hle : 600 ≤ l - n := by
            simpa [JsNumber.sub, JsNumber.neg, JsNumber.add, JsNumber.lt, minEscrowLocktimeSecs,
              JsNumber.ofInt, sub_eq_add_neg] using hfar
          have hlt : ¬l < n + 600 := by linarith
          simpa [JsNumber.add, JsNumber.lt, minEscrowLocktimeSecs, JsNumber.ofInt] using hlt
        | _ => cases hnow
      | _ => exact absurd rfl hfinite

theorem locktimeKept_created {deps : ServiceDeps} {input : QueryInput}
    {options : Option CreateQueryOptions} {now : JsNumber} {newQueryId newChallengeNonce : String}
    {query : Query} (hnow : now.isFinite = true)
    (hgiven : ∀ escrow, options.bind (·.escrow) = some escrow → escrow.locktime.truthy = true)
    (h : doCreateQuery deps input options now newQueryId newChallengeNonce = .ok query) :
    LocktimeKept query := by
  unfold doCreateQuery createQueryAggregate at h
  split at h
  · cases h
  · split at h
    · cases h
    · next hchecked =>
      cases h
      intro escrow hescrow
      have htruthy := hgiven escrow hescrow
      dsimp only at hescrow hchecked
      rw [hescrow, locktimeError, if_pos htruthy] at hchecked
      have hsecs : (now.scale (1 / 1000)).floor.isFinite = true := by
        cases now with
        | fin => rfl
        | _ => cases hnow
      exact validateEscrowLocktime_none hsecs hchecked

/-! ## Later on -/

theorem LocktimeKept.congr {query query' : Query} (h : LocktimeKept query)
    (hcreated : query'.createdAt = query.createdAt)
    (hlocktime : query'.escrow.map (·.locktime) = query.escrow.map (·.locktime)) :
    LocktimeKept query' := by
  intro escrow' hescrow'
  rw [hescrow', Option.map_some] at hlocktime
  obtain ⟨escrow, hescrow, hsame⟩ := Option.map_eq_some_iff.mp hlocktime.symm
  rw [hcreated, ← hsame]
  exact h escrow hescrow

theorem locktimeKept_writes : RecordWrites LocktimeKept where
  expired h _ := h.congr rfl rfl
  cancelled h _ := h.congr rfl rfl
  addOffer offer query query' h hok := by
    obtain ⟨-, -, rfl⟩ := addOffer_ok hok
    exact h.congr rfl rfl
  selectProvider pk updates query query' h hok := by
    obtain ⟨escrow, hescrow, -, rfl⟩ := selectProvider_ok hok
    refine h.congr rfl ?_
    -- a selection may not touch the locktime
    rw [hescrow]
    rfl
  beginWork query query' h hok := by
    obtain ⟨-, -, rfl⟩ := beginWork_ok hok
    exact h.congr rfl rfl
  recordResult result pk blossomKeys now query query' h hok := by
    obtain ⟨escrow, -, -, -, rfl⟩ := recordResult_ok hok
    exact h.congr rfl rfl
  completeVerification passed verification oracleId attestations query query' h hok := by
    obtain ⟨-, -, rfl⟩ := completeVerification_ok hok
    exact h.congr rfl rfl
  submitted p v now h _ := h.congr rfl rfl
  finalized v h _ := h.congr rfl rfl

/--
In every run from an empty store, whatever the interleaving, whose escrows are created with a
locktime other than `0` and NaN: every stored record with an escrow has a finite locktime that is at
least ten minutes after its creation.
-/
theorem escrow_locktime_kept (deps : ServiceDeps) (registry : Option OracleRegistry)
    (preimages : JsMap String String) (tr : List Event) (s : State)
    (h : Run (queryService deps) LocktimeGiven (State.init registry preimages) tr s) (id : String)
    (query : Query) (hget : s.store.get? id = some query) : LocktimeKept query := by
  have hcreates : ∀ s a, LocktimeGiven s a → Action.CreatesWith deps LocktimeKept a := by
    intro s a hgiven
    cases a with
    | createQuery => exact fun _ hok => locktimeKept_created hgiven.1 hgiven.2 hok
    | _ => trivial
  exact (locktimeKept_writes.run hcreates h).store id query hget

/-! ## Runs -/

def createLocked (locktime : JsNumber) : Action :=
  .createQuery { description := "weather" }
    (some { escrow := some { openEscrow (.htlc "h") with locktime := locktime } })
    (.ofInt 1767225600000) "q" "n"

/-- An escrow whose Provider is selected. -/
theorem escrow_locktime_kept_selected :
    ∃ tr s query, Run (queryService bareDeps) LocktimeGiven oneOracle tr s ∧
      s.store.get? "q" = some query ∧ query.status = .providerSelected ∧ LocktimeKept query := by
  have hstatus : statusAfter bareDeps oneOracle
      [createLocked (.ofInt 1767226200), .selectProvider "q" "pk" none] "q" =
        some (.providerSelected, .escrowLocked) := by decide +kernel
  obtain ⟨s, tr, query, hexec, hget, hq⟩ := exists_of_statusAfter hstatus
  have hadmits : (queryService bareDeps).Admits LocktimeGiven oneOracle
      [createLocked (.ofInt 1767226200), .selectProvider "q" "pk" none] := by
    refine ⟨⟨rfl, fun escrow hescrow => ?_⟩, fun _ _ => ⟨trivial, fun _ _ => trivial⟩⟩
    cases hescrow
    decide
  have hrun := Run.of_exec _ .start hadmits hexec
  rw [List.nil_append] at hrun
  exact ⟨tr, s, query, hrun, hget, (Prod.mk.inj hq).1,
    escrow_locktime_kept _ _ _ tr s hrun "q" query hget⟩

/-- Whether the locktime is kept. -/
def keptAfter (locktime : JsNumber) : Option Bool :=
  recordAfter bareDeps oneOracle [createLocked locktime] "q" fun _ query =>
    decide (LocktimeKept query)

/-- With the locktime `0` the record is created, and its locktime is not kept; so with NaN. -/
theorem escrow_locktime_unchecked :
    (∃ tr s query, Run (queryService bareDeps) AnyStep oneOracle tr s ∧
      s.store.get? "q" = some query ∧ ¬LocktimeKept query) ∧
    keptAfter (.ofInt 0) = some false ∧ keptAfter .nan = some false := by
  have hzero : keptAfter (.ofInt 0) = some false := by decide +kernel
  obtain ⟨tr, s, query, hrun, hget, hkept⟩ := exists_of_recordAfter hzero
  exact ⟨⟨tr, s, query, hrun, hget, of_decide_eq_false hkept⟩, hzero, by decide⟩

end Anchr.Requests
