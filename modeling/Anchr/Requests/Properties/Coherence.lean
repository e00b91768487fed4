import Anchr.Requests.Properties.Terminal

/-!
# Coherent records

Status, payment status, escrow and result of a record are written by different functions, some of
them outside the aggregate and after an `await`.
-/

namespace Anchr.Requests

open Infra

/-- The members of a record fit together. -/
structure Coherent (query : Query) : Prop where
  approved : query.status = .approved ↔ query.paymentStatus = .released
  cancelled : query.status = .rejected ∨ query.status = .expired ↔ query.paymentStatus = .cancelled
  locked : isTerminal query.status = false → query.escrow = none → query.paymentStatus = .locked
  escrowLocked : isTerminal query.status = false → query.escrow ≠ none →
    query.paymentStatus = .escrowLocked ∨ query.paymentStatus = .escrowSwapped
  pending : query.status = .pending → query.escrow = none
  escrowed : query.status = .awaitingOffers ∨ query.status = .providerSelected ∨
    query.status = .processing ∨ query.status = .verifying → query.escrow ≠ none
  result : query.status = .verifying ∨ query.status = .approved ∧ query.escrow ≠ none →
    query.result ≠ none

/-! ## By the kind of record -/

variable {query : Query}

theorem coherent_plain (hs : query.status = .pending) (he : query.escrow = none)
    (hp : query.paymentStatus = .locked) : Coherent query := by
  constructor <;> simp [hs, he, hp]

theorem coherent_escrow (hlive : isTerminal query.status = false)
    (hpending : query.status ≠ .pending) (he : query.escrow ≠ none)
    (hp : query.paymentStatus = .escrowLocked ∨ query.paymentStatus = .escrowSwapped)
    (hr : query.status = .verifying → query.result ≠ none) : Coherent query := by
  have hreleased : query.paymentStatus ≠ .released := by rcases hp with hp | hp <;> simp [hp]
  have hcancelled : query.paymentStatus ≠ .cancelled := by rcases hp with hp | hp <;> simp [hp]
  refine ⟨?_, ?_, fun _ hnone => absurd hnone he, fun _ _ => hp, fun hs => absurd hs hpending,
    fun _ => he, ?_⟩
  · refine ⟨fun hs => ?_, fun h => absurd h hreleased⟩
    rw [hs] at hlive
    cases hlive
  · refine ⟨?_, fun h => absurd h hcancelled⟩
    rintro (hs | hs) <;> rw [hs] at hlive <;> cases hlive
  · rintro (hs | ⟨hs, -⟩)
    · exact hr hs
    · rw [hs] at hlive
      cases hlive

theorem coherent_cancelled (hs : query.status = .rejected ∨ query.status = .expired)
    (hp : query.paymentStatus = .cancelled) : Coherent query := by
  rcases hs with hs | hs <;> constructor <;> simp [hs, hp, isTerminal, terminalStatuses]

theorem coherent_released (hs : query.status = .approved) (hp : query.paymentStatus = .released)
    (hr : query.escrow ≠ none → query.result ≠ none) :
    Coherent query := by
  constructor <;> simp [hs, hp, isTerminal, terminalStatuses]
  simpa using hr

theorem coherent_verdict {passed : Bool}
    (hs : query.status = if passed then .approved else .rejected)
    (hp : query.paymentStatus = if passed then .released else .cancelled)
    (hr : query.escrow ≠ none → query.result ≠ none) : Coherent query := by
  cases passed with
  | true => exact coherent_released hs hp hr
  | false => exact coherent_cancelled (.inl hs) hp

/-! ## Every write -/

theorem coherent_created {deps : ServiceDeps} {input : QueryInput}
    {options : Option CreateQueryOptions} {now : JsNumber} {newQueryId newChallengeNonce : String}
    (h : doCreateQuery deps input options now newQueryId newChallengeNonce = .ok query) :
    Coherent query := by
  unfold doCreateQuery createQueryAggregate at h
  split at h
  · cases h
  · split at h
    · cases h
    · rw [← Except.ok.inj h]
      cases he : options.bind (·.escrow) with
      | none => exact coherent_plain rfl rfl rfl
      | some escrow =>
        refine coherent_escrow rfl ?_ ?_ (.inl rfl) ?_ <;> simp

/-- Every way of writing a record keeps it. -/
theorem coherent_recordInvariant (deps : ServiceDeps) : RecordInvariant deps Coherent where
  created := coherent_created
  expired := fun _ _ => coherent_cancelled (.inr rfl) rfl
  cancelled := fun _ _ => coherent_cancelled (.inl rfl) rfl
  addOffer := by
    intro offer query query' h hok
    obtain ⟨he, hs, rfl⟩ := addOffer_ok hok
    have he : query.escrow ≠ none := Option.isSome_iff_ne_none.mp he
    have hlive : isTerminal query.status = false := by rw [hs]; rfl
    refine coherent_escrow hlive ?_ he (h.escrowLocked hlive he) ?_ <;> simp [hs]
  selectProvider := by
    intro pk updates query query' h hok
    obtain ⟨escrow, he, hs, rfl⟩ := selectProvider_ok hok
    have hp := h.escrowLocked (by rw [hs]; rfl) (by simp [he])
    refine coherent_escrow rfl ?_ ?_ ?_ ?_
    · simp
    · simp
    · -- a new token marks the payment as swapped
      dsimp only
      split
      · exact .inr rfl
      · exact hp
    · simp
  beginWork := by
    intro query query' h hok
    obtain ⟨he, hs, rfl⟩ := beginWork_ok hok
    have he : query.escrow ≠ none := Option.isSome_iff_ne_none.mp he
    have hp := h.escrowLocked (isTerminal_of_isValidTransition hs) he
    refine coherent_escrow rfl ?_ he hp ?_ <;> simp
  recordResult := by
    intro result pk blossomKeys now query query' h hok
    obtain ⟨escrow, he, hs, -, rfl⟩ := recordResult_ok hok
    have hp := h.escrowLocked (by rw [hs]; rfl) (by simp [he])
    refine coherent_escrow rfl ?_ ?_ hp ?_ <;> simp [he]
  completeVerification := by
    intro passed verification oracleId attestations query query' h hok
    obtain ⟨-, hs, rfl⟩ := completeVerification_ok hok
    exact coherent_verdict rfl rfl fun _ => h.result (.inl hs)
  submitted := by
    intro p v now h hs
    refine coherent_verdict rfl rfl fun _ => ?_
    simp
  finalized := by
    intro query v h hs
    exact coherent_verdict rfl rfl fun _ => h.result (.inl hs)

/-! ## Every run -/

/-- In every run from an empty store, whatever the interleaving, every stored record is coherent. -/
theorem records_coherent (deps : ServiceDeps) (registry : Option OracleRegistry)
    (preimages : JsMap String String) (tr : List Event) (s : State)
    (h : Run (queryService deps) AnyStep (State.init registry preimages) tr s) (id : String)
    (query : Query) (hget : s.store.get? id = some query) : Coherent query :=
  ((coherent_recordInvariant deps).run h).store id query hget

/-- An escrow query is created, a Provider is selected, works and hands in, and is approved. -/
def escrowActions : List Action :=
  [.createQuery { description := "weather" }
      (some { oracleIds := some ["a"], escrow := some (openEscrow (.htlc "h")) }) (.ofInt 0) "q"
      "n",
    .selectProvider "q" "pk" none, .beginWork "q",
    .submitEscrowResult "q" { attachments := [] } "pk" (some "a") none (.ofInt 1),
    .resume 1 (.attestations [Oracle.verdict ⟨"a"⟩ "q" true]) (.ofInt 2)]

/-- An escrow that is approved. -/
theorem records_coherent_approved :
    ∃ tr s query, Run (queryService bareDeps) AnyStep oneOracle tr s ∧
      s.store.get? "q" = some query ∧ query.status = .approved ∧ Coherent query := by
  have hstatus : recordAfter bareDeps oneOracle escrowActions "q" (fun _ q => q.status) =
      some .approved := by decide +kernel
  obtain ⟨tr, s, query, hrun, hget, hq⟩ := exists_of_recordAfter hstatus
  exact ⟨tr, s, query, hrun, hget, hq, records_coherent _ _ _ tr s hrun "q" query hget⟩

end Anchr.Requests
