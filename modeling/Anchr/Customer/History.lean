import Anchr.Customer.Request
import Anchr.Infra.Stages

/-!
# The history of a request

Once a lock is bound, every answer takes a request to a later stage, so it is settled after a few
answers.
-/

namespace Anchr.Customer

open Infra Protocol

/-! ## Stages -/

def Event.stage : Event → Nat
  | .requestStarted .. => 0
  | .hashRequestPublished .. => 1
  | .requestPublished .. => 2
  | .stateWritten _ .requestPublished _ _ => 3
  | .offerSelected .. => 4
  | .bindCalled .. => 5
  | .lockBound .. => 6
  | .changeReported .. => 7
  | .selectionPublished .. => 8
  | .stateWritten _ .providerSelected _ _ => 9
  | .resultReceived .. => 11
  | .verifierCalled .. => 12
  | .stateWritten _ .resultReceived _ _ => 13
  | .resolvedWith .. => 14
  | .rejected .. => 14

def Event.isSettlement : Event → Bool
  | .resolvedWith .. | .rejected .. => true
  | _ => false

section

variable {N : NostrTools} {cfg : CustomerContext}

def Pending.stage : Pending N cfg → Nat
  | .requestingHash _ | .publishingHash _ _ _ | .awaitingHash _ _ => 2
  | .publishingRequest _ => 3
  | .writingRequest _ | .collectingOffers _ _ => 4
  | .binding _ => 6
  | .reportingChange _ => 8
  | .publishingSelection _ => 9
  | .writingSelection _ => 10
  | .awaitingResult _ => 11
  | .verifying _ _ => 13
  | .writingResult _ _ => 14

/-! ## What the history says -/

variable (call : Nat) (evs : List Event)

def Request.Known (r : Request N cfg) : Prop := .requestStarted call r.options ∈ evs

def Published.Known (r : Published N cfg) : Prop :=
  r.toRequest.Known call evs ∧ .requestPublished call r.requestEvent ∈ evs

def Chosen.Known (r : Chosen N cfg) : Prop :=
  r.toPublished.Known call evs ∧ .offerSelected call r.selected ∈ evs ∧
    .bindCalled call r.bindParams ∈ evs

/-- The lock is bound, whatever its amount. -/
def Chosen.LockKnown (r : Chosen N cfg) (lock : CashuToken) : Prop :=
  r.Known call evs ∧ .lockBound call lock ∈ evs

def Pending.Known : Pending N cfg → Prop
  | .requestingHash r | .publishingHash r _ _ | .awaitingHash r _ => r.Known call evs
  | .publishingRequest r | .writingRequest r | .collectingOffers r _ => r.Known call evs
  | .binding r => r.Known call evs
  | .reportingChange r => r.toChosen.LockKnown call evs r.lock
  | .publishingSelection r | .writingSelection r | .awaitingResult r | .verifying r _
  | .writingResult r _ => r.toChosen.LockKnown call evs r.lock

variable {call evs}

variable {evs' : List Event}

variable {r : Request N cfg} {lock : CashuToken} {p : Pending N cfg} {draws : Draws} {e : Event}
  {key : String} {err : Thrown} {response : QueryResponsePayload}

theorem Request.Known.subset (h : r.Known call evs) (hsub : evs ⊆ evs') :
    r.Known call evs' := hsub h

theorem Published.Known.subset {r : Published N cfg} (h : r.Known call evs) (hsub : evs ⊆ evs') :
    r.Known call evs' := ⟨h.1.subset hsub, hsub h.2⟩

theorem Chosen.Known.subset {r : Chosen N cfg} (h : r.Known call evs) (hsub : evs ⊆ evs') :
    r.Known call evs' := ⟨h.1.subset hsub, hsub h.2.1, hsub h.2.2⟩

theorem Chosen.LockKnown.subset {r : Chosen N cfg} {lock : CashuToken}
    (h : r.LockKnown call evs lock) (hsub : evs ⊆ evs') : r.LockKnown call evs' lock :=
  ⟨h.1.subset hsub, hsub h.2⟩

theorem Request.Known.mono (h : r.Known call evs) (evs' : List Event) :
    r.Known call (evs ++ evs') := h.subset (List.subset_append_left _ _)

theorem Published.Known.mono {r : Published N cfg} (h : r.Known call evs) (evs' : List Event) :
    r.Known call (evs ++ evs') := h.subset (List.subset_append_left _ _)

theorem Chosen.Known.mono {r : Chosen N cfg} (h : r.Known call evs) (evs' : List Event) :
    r.Known call (evs ++ evs') := h.subset (List.subset_append_left _ _)

theorem Chosen.LockKnown.mono {r : Chosen N cfg} (h : r.LockKnown call evs lock)
    (evs' : List Event) : r.LockKnown call (evs ++ evs') lock :=
  h.subset (List.subset_append_left _ _)

/-! ## What justifies an event -/

/-- An error that the code has made. -/
def Fresh (err : Thrown) : Prop :=
  ∃ error : ErrorObject, err = .error error ∧ error.extensible = true ∧ error.properties = .empty

def attachedReason (err : Thrown) (lock : CashuToken) (refundSecretKey : String) : Thrown :=
  match attachPaymentRecoveryMaterial err lock refundSecretKey with
  | .ok error | .error error => .error error

variable (N cfg) (V : CashuToken → String → Thrown → Prop)

/-- Only a bound lock is selected with, and given back. -/
def Justifies (call : Nat) (evs : List Event) : Event → Prop
  | .bindCalled _ params => ∃ r : Chosen N cfg, r.toRequest.Known call evs ∧
      .offerSelected call r.selected ∈ evs ∧ params = r.bindParams
  | .selectionPublished _ selectionEvent => ∃ r : Sent N cfg,
      r.toChosen.LockKnown call evs r.lock ∧ selectionEvent = r.selectionEvent
  | .resolvedWith _ result => ∃ (r : Bound N cfg) (response : QueryResponsePayload),
      r.toChosen.LockKnown call evs r.lock ∧ result = r.result response
  | .rejected _ reason => (∀ lock, .lockBound call lock ∉ evs) ∨
      ∃ (r : Chosen N cfg) (lock : CashuToken) (err : Thrown), r.LockKnown call evs lock ∧
        (Fresh err ∨ V lock r.identity.secretKey err) ∧
        reason = attachedReason err lock r.identity.secretKey
  | _ => True

abbrev stages : Stages (Pending N cfg) Event where
  callOf := Event.callOf
  event := Event.stage
  pending := Pending.stage
  Known := fun call evs p => p.Known call evs
  Justifies := Justifies N cfg V
  Over := fun evs => ∃ e ∈ evs, e.isSettlement = true
  Waits := fun p => p.stage ≤ 4
  About := fun _ => True

variable {N cfg} {V}

theorem lockBound_not_mem {stage : Nat} (hstage : stage ≤ 6) (h : ∀ e ∈ evs, e.stage < stage)
    (lock : CashuToken) : .lockBound call lock ∉ evs := fun hmem => by
  have hlt := h _ hmem
  have hsix : (Event.lockBound call lock).stage = 6 := rfl
  omega

/-! ## Turns before the lock -/

variable {t : Tables} {stage : Nat} {K : List Event → Prop}

theorem over_append (h : e.isSettlement = true) (evs : List Event) :
    ∃ e' ∈ evs ++ [e], e'.isSettlement = true :=
  ⟨e, List.mem_concat_self, h⟩

theorem advances_rejected {reason : Thrown} (hstage : stage ≤ 6) :
    (stages N cfg V).Advances call stage K (rejected t call [] reason) :=
  .ended rfl (Nat.le_trans hstage (by decide : 6 ≤ 14)) (over_append rfl) fun _ hbefore _ =>
    .inl (lockBound_not_mem hstage hbefore)

theorem advances_write {record : CustomerStateRecord}
    (hafter : ∀ key value, stage ≤ (Event.stateWritten call record.status key value).stage)
    (hbefore : ∀ key value, (Event.stateWritten call record.status key value).stage < p.stage)
    (hknown : ∀ evs evs', K evs → p.Known call (evs ++ evs')) :
    (stages N cfg V).Advances call stage K (writeCustomerState t call [] record p) :=
  .emit rfl (hafter _ _) (hbefore _ _) (fun _ _ _ => trivial) trivial fun evs h => hknown evs _ h

variable {client : Bool} {successes failures : List String} {ephemeral : Keypair N}
  {event : Protocol.Event}

theorem advances_requestHash :
    (stages N cfg V).Advances call 1 (fun evs => r.Known call evs)
      (requestHash t call [] r client draws) := by
  unfold requestHash
  split
  next => exact .waiting (by decide : 1 ≤ 2) (.inl (by decide : 1 < 2)) trivial fun _ h => h
  split
  next => exact advances_rejected (by decide)
  dsimp only
  split
  next => exact advances_rejected (by decide)
  exact .emit rfl (Nat.le_refl 1) (by decide : 1 < 2) (fun _ _ _ => trivial) trivial
    fun _ h => h.mono _

theorem requestHash_cons :
    requestHash t call [e] r client draws =
      { requestHash t call [] r client draws with
        events := e :: (requestHash t call [] r client draws).events } := by
  unfold requestHash
  split
  next => rfl
  split
  next => rfl
  dsimp only
  split <;> rfl

theorem advances_request (t : Tables) (call : Nat) (a : RequestOptions × Draws) :
    (stages N cfg V).Advances call 0 (· = []) (request t call a) := by
  have hrejected : ∀ reason, (stages N cfg V).Advances call 0 (· = [])
      (rejected t call [.requestStarted call a.1] reason) := fun reason =>
    .cons rfl (Nat.le_refl 0) (by decide : 0 < 1) (fun _ _ _ => trivial) (fun _ _ => trivial)
      (advances_rejected (K := fun _ => True) (by decide))
  unfold request
  dsimp only
  split
  next => exact hrejected _
  next hvalid =>
    split
    next => exact hrejected _
    split
    next => exact hrejected _
    split
    next => exact hrejected _
    rw [requestHash_cons]
    refine .cons rfl (Nat.le_refl 0) (by decide : 0 < 1) (fun _ _ _ => trivial) ?_
      advances_requestHash
    intro evs _
    exact List.mem_concat_self

theorem advances_hashReady {hash : String} :
    (stages N cfg V).Advances call 2 (fun evs => r.Known call evs)
      (hashReady t call r hash draws) := by
  refine .emit rfl (Nat.le_refl 2) (by decide : 2 < 3) (fun _ _ _ => trivial) trivial fun evs h => ?_
  exact ⟨h.mono _, List.mem_concat_self⟩

theorem advances_hashSettled (hash : Option String) :
    (stages N cfg V).Advances call 2 (fun evs => r.Known call evs)
      (hashSettled t call r draws hash) := by
  cases hash with
  | none => exact advances_rejected (by decide)
  | some hash => exact advances_hashReady

theorem advances_hashRequestSent {settled : Option (Option String)} :
    (stages N cfg V).Advances call 2 (fun evs => r.Known call evs)
      (hashRequestSent t call r ephemeral settled successes failures draws) := by
  unfold hashRequestSent
  split
  next => exact advances_rejected (by decide)
  split
  next => exact .waiting (Nat.le_refl 2) (.inr (by decide : 2 ≤ 4)) trivial fun _ h => h
  next hash => exact advances_hashSettled hash

theorem advances_hashArrived :
    (stages N cfg V).Advances call 2 (fun evs => r.Known call evs)
      (hashArrived t call r ephemeral event draws) := by
  unfold hashArrived
  split
  next => exact .waiting (Nat.le_refl 2) (.inr (by decide : 2 ≤ 4)) trivial fun _ h => h
  next => exact advances_hashReady

theorem advances_requestSent {r : Published N cfg} :
    (stages N cfg V).Advances call 3 (fun evs => r.Known call evs)
      (requestSent t call r successes failures draws) := by
  unfold requestSent
  split
  next => exact advances_rejected (by decide)
  split
  next =>
    exact advances_write (fun _ _ => Nat.le_refl 3) (fun _ _ => (by decide : 3 < 4))
      fun _ _ h => h.mono _
  next => exact .waiting (by decide : 3 ≤ 4) (.inl (by decide : 3 < 4)) trivial fun _ h => h

theorem advances_bind (r : Chosen N cfg) :
    (stages N cfg V).Advances call 4 (fun evs => r.toPublished.Known call evs)
      { shared := t
        events := [.offerSelected call r.selected, .bindCalled call r.bindParams]
        pending := some (.binding r) } := by
  have hbind : (stages N cfg V).Advances call 5
      (fun evs => r.toPublished.Known call evs ∧ .offerSelected call r.selected ∈ evs)
      { shared := t, events := [.bindCalled call r.bindParams], pending := some (.binding r) } :=
    .emit rfl (Nat.le_refl 5) (by decide : 5 < 6) (fun evs _ h => ⟨r, h.1.1, h.2, rfl⟩) trivial
      fun evs h => ⟨h.1.mono _, List.mem_append_left _ h.2,
        List.mem_concat_self⟩
  refine hbind.cons rfl (Nat.le_refl 4) (by decide : 4 < 5) (fun _ _ _ => trivial) ?_
  exact fun evs h => ⟨h.mono _, List.mem_concat_self⟩

theorem offersCollected_cases (t : Tables) (call : Nat) (r : Published N cfg)
    (collected : List Offer × Nat) (draws : Draws) :
    (∃ reason, offersCollected t call r collected draws = rejected t call [] reason) ∨
      ∃ chosen : Chosen N cfg, chosen.toPublished = r ∧ offersCollected t call r collected draws =
        { shared := t
          events := [.offerSelected call chosen.selected, .bindCalled call chosen.bindParams]
          pending := some (.binding chosen) } := by
  unfold offersCollected
  split
  next err _ => exact .inl ⟨err, rfl⟩
  next => exact .inl ⟨_, rfl⟩
  next selected _ =>
    split
    next hvalid =>
      split
      next haffordable =>
        exact .inr ⟨{ r with selected, valid := hvalid, affordable := haffordable
                             selectedAt := draws.clockNow }, rfl, rfl⟩
      next => exact .inl ⟨_, rfl⟩
    next => exact .inl ⟨_, rfl⟩

theorem advances_offersCollected {r : Published N cfg} {collected : List Offer × Nat} :
    (stages N cfg V).Advances call 4 (fun evs => r.Known call evs)
      (offersCollected t call r collected draws) := by
  rcases offersCollected_cases t call r collected draws with ⟨reason, heq⟩ | ⟨chosen, rfl, heq⟩
  · rw [heq]
    exact advances_rejected (by decide)
  · rw [heq]
    exact advances_bind chosen

/-! ## Turns after it -/

/-- The values that the surroundings may throw in a turn. -/
def thrownIn (b : Answer × Draws) : List Thrown :=
  b.2.thrown ::
    ((match b.2.verifier with
      | .error err => [err]
      | .ok _ => []) ++
    match b.1 with
      | .threw value => [value]
      | _ => [])

/-- The lock that is bound while the answer is taken, and its refund key. -/
def Pending.lockAt : Pending N cfg → Answer → Option (CashuToken × String)
  | .binding r, .bound lock => some (lock, r.identity.secretKey)
  | p, _ => p.recovery?

theorem lockFailed_eq {events : List Event} :
    (lockFailed t call events lock key err : Turn N cfg) =
      rejected t call events (attachedReason err lock key) := by
  unfold lockFailed attachedReason
  cases attachPaymentRecoveryMaterial err lock key <;> rfl

theorem advances_lockFailed {r : Chosen N cfg} (hstage : stage ≤ 14)
    (hK : ∀ evs, K evs → r.LockKnown call evs lock)
    (herr : Fresh err ∨ V lock r.identity.secretKey err) :
    (stages N cfg V).Advances call stage K
      (lockFailed t call [] lock r.identity.secretKey err) := by
  rw [lockFailed_eq]
  exact .ended rfl hstage (over_append rfl) fun evs _ h => .inr ⟨r, lock, err, hK evs h, herr, rfl⟩

theorem lockFailed_cons :
    (lockFailed t call [e] lock key err : Turn N cfg) =
      { (lockFailed t call [] lock key err : Turn N cfg) with
        events := e :: (lockFailed t call [] lock key err : Turn N cfg).events } := by
  rw [lockFailed_eq, lockFailed_eq]
  rfl

theorem advances_sendSelection {r : Bound N cfg} (hstage : stage ≤ 8)
    (hK : ∀ evs, K evs → r.toChosen.LockKnown call evs r.lock)
    (hthrown : V r.lock r.identity.secretKey draws.thrown) :
    (stages N cfg V).Advances call stage K (sendSelection t call [] r draws) := by
  unfold sendSelection
  split
  next =>
    exact advances_lockFailed (Nat.le_trans hstage (by decide)) hK (.inr hthrown)
  next selectionEvent hbuilt =>
    refine .emit rfl hstage (by decide : 8 < 9) (fun evs _ h => ?_) trivial
      fun evs h => (hK evs h).mono _
    exact ⟨{ r with selectionEvent, selects := ⟨draws.m, hbuilt⟩ }, hK evs h, rfl⟩

theorem sendSelection_cons {r : Bound N cfg} :
    sendSelection t call [e] r draws =
      { sendSelection t call [] r draws with
        events := e :: (sendSelection t call [] r draws).events } := by
  unfold sendSelection
  split
  next => exact lockFailed_cons
  next => rfl

theorem advances_lockBound {r : Chosen N cfg} (hthrown : V lock r.identity.secretKey draws.thrown) :
    (stages N cfg V).Advances call 6 (fun evs => r.Known call evs)
      (lockBound t call r lock draws) := by
  have hbound : ∀ {t' : Tables} {events o}, (stages N cfg V).Advances call 7
      (fun evs => r.LockKnown call evs lock) { shared := t', events := events, pending := o } →
      (stages N cfg V).Advances call 6 (fun evs => r.Known call evs)
        { shared := t', events := .lockBound call lock :: events, pending := o } := fun h =>
    h.cons rfl (Nat.le_refl 6) (by decide : 6 < 7) (fun _ _ _ => trivial) fun evs hknown =>
      ⟨hknown.mono _, List.mem_concat_self⟩
  unfold lockBound
  dsimp only
  split
  next hamount =>
    split
    next =>
      rw [sendSelection_cons]
      exact hbound (advances_sendSelection (r := { r with lock, amount := hamount }) (by decide)
        (fun _ h => h) hthrown)
    refine hbound ?_
    split
    next =>
      exact .emit rfl (Nat.le_refl 7) (by decide : 7 < 8) (fun _ _ _ => trivial) trivial
        fun _ h => h.mono _
    next => exact .waiting (by decide : 7 ≤ 8) (.inl (by decide : 7 < 8)) trivial fun _ h => h
  rw [lockFailed_cons]
  exact hbound (advances_lockFailed (by decide) (fun _ h => h) (.inl ⟨_, rfl, rfl, rfl⟩))

theorem advances_selectionSent {r : Sent N cfg} :
    (stages N cfg V).Advances call 9 (fun evs => r.toChosen.LockKnown call evs r.lock)
      (selectionSent t call r draws) := by
  unfold selectionSent
  split
  next =>
    exact advances_write (fun _ _ => Nat.le_refl 9) (fun _ _ => (by decide : 9 < 10))
      fun _ _ h => h.mono _
  next => exact .waiting (by decide : 9 ≤ 11) (.inl (by decide : 9 < 11)) trivial fun _ h => h

theorem advances_resolved {r : Bound N cfg} (hstage : stage ≤ 14)
    (hK : ∀ evs, K evs → r.toChosen.LockKnown call evs r.lock) :
    (stages N cfg V).Advances call stage K
      { shared := t, events := [.resolvedWith call (r.result response)] } :=
  .ended rfl hstage (over_append rfl) fun evs _ h => ⟨r, response, hK evs h, rfl⟩

theorem advances_resultAccepted {r : Sent N cfg} (hstage : stage ≤ 13)
    (hK : ∀ evs, K evs → r.toChosen.LockKnown call evs r.lock) :
    (stages N cfg V).Advances call stage K (resultAccepted t call [] r response draws) := by
  unfold resultAccepted
  split
  next =>
    exact advances_write (fun _ _ => hstage) (fun _ _ => (by decide : 13 < 14))
      fun evs _ h => (hK evs h).mono _
  next => exact advances_resolved (Nat.le_trans hstage (by decide)) hK

theorem resultAccepted_cons {r : Sent N cfg} :
    resultAccepted t call [e] r response draws =
      { resultAccepted t call [] r response draws with
        events := e :: (resultAccepted t call [] r response draws).events } := by
  unfold resultAccepted
  split <;> rfl

theorem advances_resultArrived {r : Sent N cfg}
    (hthrown : ∀ err, draws.verifier = .error err → V r.lock r.identity.secretKey err) :
    (stages N cfg V).Advances call 11 (fun evs => r.toChosen.LockKnown call evs r.lock)
      (resultArrived t call r event draws) := by
  have hreceived : ∀ {t' : Tables} {events o}, (stages N cfg V).Advances call 12
      (fun evs => r.toChosen.LockKnown call evs r.lock)
        { shared := t', events := events, pending := o } →
      (stages N cfg V).Advances call 11 (fun evs => r.toChosen.LockKnown call evs r.lock)
        { shared := t', events := .resultReceived call event :: events, pending := o } := fun h =>
    h.cons rfl (Nat.le_refl 11) (by decide : 11 < 12) (fun _ _ _ => trivial) fun _ hknown =>
      hknown.mono _
  unfold resultArrived
  dsimp only
  split
  next =>
    rw [lockFailed_cons]
    exact hreceived (advances_lockFailed (by decide) (fun _ h => h) (.inl ⟨_, rfl, rfl, rfl⟩))
  split
  next err hverifier =>
    rw [lockFailed_cons]
    exact hreceived
      (advances_lockFailed (by decide) (fun _ h => h) (.inr (hthrown err hverifier)))
  next =>
    rw [resultAccepted_cons]
    exact hreceived (advances_resultAccepted (by decide) fun _ h => h)
  exact hreceived (.emit rfl (Nat.le_refl 12) (by decide : 12 < 13) (fun _ _ _ => trivial) trivial
    fun _ h => h.mono _)

theorem advances_proofVerified {r : Sent N cfg} {ok : Bool} :
    (stages N cfg V).Advances call 13 (fun evs => r.toChosen.LockKnown call evs r.lock)
      (proofVerified t call r response ok draws) := by
  unfold proofVerified
  split
  next => exact advances_resultAccepted (Nat.le_refl 13) fun _ h => h
  next => exact advances_lockFailed (by decide) (fun _ h => h) (.inl ⟨_, rfl, rfl, rfl⟩)

theorem lockKnown_of_recovery (call : Nat) (h : p.recovery? = some (lock, key)) :
    p.stage ≤ 14 ∧ ∃ r : Chosen N cfg, key = r.identity.secretKey ∧
      ∀ evs, p.Known call evs → r.LockKnown call evs lock := by
  cases p with
  | reportingChange r =>
    cases h
    exact ⟨by simp [Pending.stage], r.toChosen, rfl, fun _ h => h⟩
  | publishingSelection r | writingSelection r | awaitingResult r | verifying r _
  | writingResult r _ =>
    cases h
    exact ⟨by simp [Pending.stage], r.toChosen, rfl, fun _ h => h⟩
  | requestingHash _ | publishingHash _ _ _ | awaitingHash _ _ | publishingRequest _
  | writingRequest _ | collectingOffers _ _ | binding _ => cases h

theorem lockAt_of_recovery {answer : Answer} {recovery : CashuToken × String}
    (h : p.recovery? = some recovery) : p.lockAt answer = some recovery := by
  unfold Pending.lockAt
  split
  next => cases h
  next => exact h

theorem stage_of_recovery_none (h : p.recovery? = none) : p.stage ≤ 6 := by
  cases p with
  | requestingHash _ | publishingHash _ _ _ | awaitingHash _ _ | publishingRequest _
  | writingRequest _ | collectingOffers _ _ | binding _ => simp [Pending.stage]
  | reportingChange _ | publishingSelection _ | writingSelection _ | awaitingResult _
  | verifying _ _ | writingResult _ _ => cases h

theorem advances_threw {value : Thrown}
    (hthrown : ∀ lock key, p.recovery? = some (lock, key) → V lock key value) :
    (stages N cfg V).Advances call p.stage (fun evs => p.Known call evs)
      (threw t call p value) := by
  unfold threw
  split
  next lock key hrecovery =>
    obtain ⟨hstage, r, rfl, hknown⟩ := lockKnown_of_recovery call hrecovery
    exact advances_lockFailed hstage hknown (.inr (hthrown lock _ hrecovery))
  next hrecovery => exact advances_rejected (stage_of_recovery_none hrecovery)

/-! ## Requests -/

/-- One case for each line of `resume`. -/
theorem advances_of_resume {b : Answer × Draws} {turn : Turn N cfg}
    (hthrown : ∀ lock key, p.lockAt b.1 = some (lock, key) → ∀ v ∈ thrownIn b, V lock key v)
    (h : resume N cfg t call p b = some turn) :
    (stages N cfg V).Advances call p.stage (fun evs => p.Known call evs) turn := by
  unfold resume at h
  split at h
  all_goals cases h
  next value hanswer =>
    refine advances_threw fun lock key hrecovery => hthrown lock key ?_ _ ?_
    · rw [hanswer]
      exact lockAt_of_recovery hrecovery
    · simp [thrownIn, hanswer]
  next => exact advances_hashReady
  next => exact advances_hashRequestSent
  next => exact .waiting (Nat.le_refl 2) (.inr (by decide : 2 ≤ 4)) trivial fun _ h => h
  next => exact .waiting (Nat.le_refl 2) (.inr (by decide : 2 ≤ 4)) trivial fun _ h => h
  next => exact advances_hashArrived
  next => exact advances_hashSettled none
  next => exact advances_requestSent
  next => exact .waiting (Nat.le_refl 4) (.inr (Nat.le_refl 4)) trivial fun _ h => h
  next => exact .waiting (Nat.le_refl 4) (.inr (Nat.le_refl 4)) trivial fun _ h => h
  next => exact advances_offersCollected
  next lock hanswer =>
    exact advances_lockBound (hthrown lock _ (by rw [hanswer]; rfl) _ List.mem_cons_self)
  next hanswer =>
    exact advances_sendSelection (Nat.le_refl 8) (fun _ h => h)
      (hthrown _ _ (lockAt_of_recovery rfl) _ List.mem_cons_self)
  next => exact advances_selectionSent
  next => exact .waiting (by decide : 10 ≤ 11) (.inl (by decide : 10 < 11)) trivial fun _ h => h
  next =>
    refine advances_resultArrived fun err hverifier =>
      hthrown _ _ (lockAt_of_recovery rfl) _ ?_
    simp [thrownIn, hverifier]
  next =>
    exact advances_lockFailed (by decide : 11 ≤ 14) (fun _ h => h) (.inl ⟨_, rfl, rfl, rfl⟩)
  next => exact advances_proofVerified
  next => exact advances_resolved (Nat.le_refl 14) fun _ h => h

theorem names (N : NostrTools) (cfg : CustomerContext) :
    (customerService N cfg).Names Event.callOf where
  begin t call a := (advances_request (V := fun _ _ _ => True) t call a).names
  resume h := (advances_of_resume (V := fun _ _ _ => True) (fun _ _ _ _ _ => trivial) h).names

/-- After the lock there is no stage at which a request may stay. -/
theorem settlesWithin_of_stage (call : Nat) (h : 6 < p.stage) :
    (customerService N cfg).SettlesWithin call 7 p := by
  have hafter : 8 ≤ p.stage := by
    cases p <;> simp [Pending.stage] at h ⊢
  refine CallService.settlesWithin_of_rank (C := fun p => 8 ≤ p.stage) ?_
    (fun p _ => (?_ : p.stage < 15)) 7 p hafter ?_
  · intro t p b turn q hp hresume hq
    have hturn := advances_of_resume (V := fun _ _ _ => True) (fun _ _ _ _ _ => trivial) hresume
    have hle : p.stage ≤ q.stage := (hturn.next q hq).1
    rcases hturn.moves q hq with hlt | hwaits
    · exact ⟨Nat.le_trans hp hle, hlt⟩
    · have hfour : q.stage ≤ 4 := hwaits
      omega
  · cases p <;> simp [Pending.stage]
  · omega

/-- The guard: what is thrown while a lock is bound satisfies `V`. -/
def Throws (V : CashuToken → String → Thrown → Prop) (s : CallState Tables (Pending N cfg)) :
    CallAction (RequestOptions × Draws) (Answer × Draws) → Prop
  | .begin _ => True
  | .resume call b => ∀ p lock key, s.calls.get? call = some p →
      p.lockAt b.1 = some (lock, key) → ∀ v ∈ thrownIn b, V lock key v

variable {G : CallState Tables (Pending N cfg) →
  CallAction (RequestOptions × Draws) (Answer × Draws) → Prop} {store : JsMap String String}
  {tr : List Event} {s : CallState Tables (Pending N cfg)}

/-- So does every request. -/
theorem progress_of_run (hG : ∀ s a, G s a → Throws V s a)
    (h : Run (customerService N cfg).machine G (initialState N cfg store) tr s) :
    Histories (stages N cfg V).Progress Event.callOf tr s :=
  Stages.progress_of_run (L := stages N cfg V) (names N cfg)
    (fun _ => advances_request _ _ _)
    (fun hg hget hturn => advances_of_resume (fun lock key => hG _ _ hg _ lock key hget) hturn)
    rfl rfl h

/-- An event of a run is one of a request that has begun, and what justifies it has happened. -/
theorem justifies_of_run (hG : ∀ s a, G s a → Throws V s a)
    (h : Run (customerService N cfg).machine G (initialState N cfg store) tr s) (he : e ∈ tr) :
    ∃ pre, pre ⊆ tr ∧ Justifies N cfg V e.callOf pre e := by
  have hcall := (names N cfg).begun_of_mem rfl rfl h he
  have hprogress := (progress_of_run hG h).begun _ hcall
  have hown : e ∈ ownEvents Event.callOf e.callOf tr :=
    List.mem_filter.mpr ⟨he, decide_eq_true rfl⟩
  obtain ⟨pre, post, heq, hjustified⟩ := hprogress.justifies hown
  refine ⟨pre, fun e' he' => ?_, hjustified⟩
  have hmem : e' ∈ ownEvents Event.callOf e.callOf tr := by
    rw [heq]
    exact List.mem_append_left _ he'
  exact List.mem_of_mem_filter hmem

end

end Anchr.Customer
