import Anchr.Infra.Stages
import Anchr.Provider.Properties.Paid

/-!
# Working and redeeming under a verified lock

What a job needs at a stage it has found out before, and what it has found out it does not change.
-/

namespace Anchr.Provider

open Infra Protocol

/-! ## Stages -/

def Event.stage : Event → Nat
  | .jobStarted .. => 0
  | .handlerCalled .. => 1
  | .offerPublished .. => 2
  | .stateWritten _ .offerPublished _ _ => 3
  | .selectionAccepted .. => 4
  | .hashRequestPublished .. => 5
  | .hashReceived .. => 6
  | .lockVerified .. => 7
  | .produceCalled .. => 8
  | .produceResolved .. => 9
  | .resultPublished .. => 10
  | .stateWritten _ .resultPublished _ _ => 11
  | .preimageReceived .. => 12
  | .redeemCalled .. => 13
  | .stateWritten _ .redeemed _ _ => 14

section

variable {N : NostrTools} {cfg : JobContext N}

/-- All events so far are of an earlier stage, and none to come is. -/
def Pending.stage : Pending cfg → Nat
  | .handling _ => 2
  | .publishingOffer _ => 3
  | .writingOffer _ | .awaitingSelection _ => 4
  | .requestingHash .. | .publishingHash .. | .awaitingHash .. => 6
  | .verifyingLock _ => 7
  | .producing _ => 9
  | .publishingResult _ => 11
  | .writingResult _ | .awaitingPreimage _ => 12
  | .redeeming _ => 14
  | .writingRedeemed _ => 15

def Pending.job : Pending cfg → Job cfg
  | .handling job => job
  | .publishingOffer job | .writingOffer job | .awaitingSelection job => job.toJob
  | .requestingHash job _ | .publishingHash job _ _ | .awaitingHash job _ => job.toJob
  | .verifyingLock job | .producing job => job.toJob
  | .publishingResult job | .writingResult job | .awaitingPreimage job | .redeeming job
  | .writingRedeemed job => job.toJob

/-! ## What the history says -/

def OfferKnown (call : Nat) (evs : List Event) (job : Offered cfg) : Prop :=
  .offerPublished call job.amountSats job.offerEvent ∈ evs

def SelectionKnown (call : Nat) (evs : List Event) (job : Selected cfg) : Prop :=
  OfferKnown call evs job.toOffered ∧
    .selectionAccepted call job.selectionEvent job.selection ∈ evs

def HashKnown (call : Nat) (evs : List Event) (job : Locked cfg) : Prop :=
  SelectionKnown call evs job.toSelected ∧
    .hashReceived call job.payload.oraclePubkey job.payload.queryId job.hash.hash job.hash.source
      ∈ evs

def LockKnown (call : Nat) (evs : List Event) (job : Locked cfg) : Prop :=
  HashKnown call evs job ∧ .lockVerified call job.paymentLock ∈ evs

/-- What the history of a job says where the job is suspended. -/
def Pending.Known (call : Nat) (evs : List Event) : Pending cfg → Prop
  | .handling _ => True
  | .publishingOffer job | .writingOffer job | .awaitingSelection job => OfferKnown call evs job
  | .requestingHash job _ | .publishingHash job _ _ | .awaitingHash job _ =>
    SelectionKnown call evs job
  | .verifyingLock job => HashKnown call evs job
  | .producing job => LockKnown call evs job
  | .publishingResult job | .writingResult job | .awaitingPreimage job | .redeeming job
  | .writingRedeemed job => LockKnown call evs job.toLocked

section

variable {call : Nat} {evs evs' : List Event}

theorem OfferKnown.mono {job : Offered cfg} (h : OfferKnown call evs job) :
    OfferKnown call (evs ++ evs') job := List.mem_append_left _ h

theorem SelectionKnown.mono {job : Selected cfg} (h : SelectionKnown call evs job) :
    SelectionKnown call (evs ++ evs') job := ⟨h.1.mono, List.mem_append_left _ h.2⟩

theorem HashKnown.mono {job : Locked cfg} (h : HashKnown call evs job) :
    HashKnown call (evs ++ evs') job := ⟨h.1.mono, List.mem_append_left _ h.2⟩

theorem LockKnown.mono {job : Locked cfg} (h : LockKnown call evs job) :
    LockKnown call (evs ++ evs') job := ⟨h.1.mono, List.mem_append_left _ h.2⟩

end

/-! ## Statement -/

variable (cfg)

/-- Before `pre` is over, the lock has been verified for exactly the token of the accepted
selection, the amount of the published offer, the Oracle's hash for the query id, the keys of the
Provider and of the request's Customer, and the selection's locktime. -/
def VerifiedLock (call : Nat) (event : Protocol.Event) (pre : List Event)
    (payload : QueryRequestPayload) (selection : Selection) : Prop :=
  parseQueryRequestEvent cfg.text event = some payload ∧
  ∃ amountSats offerEvent m selectionEvent hash source,
    -- the Provider's own offer
    Event.offerPublished call amountSats offerEvent ∈ pre ∧
    offerEvent = buildOfferFeedbackEvent N cfg.text cfg.identity event.id payload.customerPubkey
      cfg.identity.publicKey amountSats m ∧
    -- the selection that the job accepted
    Event.selectionAccepted call selectionEvent selection ∈ pre ∧
    matchSelection cfg payload.customerPubkey selectionEvent = some selection ∧
    -- the hash of the request's Oracle
    Event.hashReceived call payload.oraclePubkey payload.queryId hash source ∈ pre ∧
    source.Gives cfg payload hash ∧
    -- the verification of just this lock
    Event.lockVerified call
      { token := selection.providerRedemptionToken
        amountSats := amountSats
        hashHex := hash
        providerPubkey := cfg.identity.publicKey
        customerPubkey := payload.customerPubkey
        locktimeSeconds := selection.execution.locktimeSeconds } ∈ pre

/-- Work, results and redemptions need a verified lock before them. -/
def JobJustified (call : Nat) (event : Protocol.Event) (pre : List Event) : Event → Prop
  | .produceCalled _ _ => ∃ payload selection, VerifiedLock cfg call event pre payload selection
  | .resultPublished _ _ => ∃ data proof, Event.produceResolved call data proof ∈ pre
  | .redeemCalled _ params =>
    ∃ payload selection dm, VerifiedLock cfg call event pre payload selection ∧
      params.token = selection.providerRedemptionToken ∧
      Event.preimageReceived call dm params.preimageHex ∈ pre ∧
      -- the message is of the request's Oracle, and names the request
      ∃ p, decryptDmJson N cfg.text dm cfg.identity.secretKey payload.oraclePubkey = some p ∧
        p.string? "query_id" = some payload.queryId ∧
        p.string? "request_event_id" = some event.id ∧
        p.string? "preimage" = some params.preimageHex
  | _ => True

def Event.isLockVerification : Event → Bool
  | .lockVerified .. => true
  | _ => false

def Event.isProduceCall : Event → Bool
  | .produceCalled .. => true
  | _ => false

def Event.isRedeemCall : Event → Bool
  | .redeemCalled .. => true
  | _ => false

variable {cfg}

variable {evs : List Event} {p q : Pending cfg} {draws : Draws} {event : Protocol.Event}
  {job : Selected cfg}

theorem verifiedLock_of_known {call : Nat} {job : Locked cfg} (h : LockKnown call evs job) :
    VerifiedLock cfg call job.event evs job.payload job.selection := by
  obtain ⟨⟨⟨hoffer, hselection⟩, hhash⟩, hlock⟩ := h
  obtain ⟨m, hbuilt⟩ := job.built
  exact ⟨job.parsed, job.amountSats, job.offerEvent, m, job.selectionEvent, job.hash.hash,
    job.hash.source, hoffer, hbuilt, hselection, job.matched, hhash, job.hash.given, hlock⟩

theorem decrypt_of_matchPreimage {T : NumberText} {identity : Keypair N}
    {oraclePubkey queryId requestEventId preimage : String} {dm : Protocol.Event}
    (h : Oracle.matchPreimage N T identity oraclePubkey queryId requestEventId dm = some preimage) :
    ∃ p, decryptDmJson N T dm identity.secretKey oraclePubkey = some p ∧
      p.string? "query_id" = some queryId ∧ p.string? "request_event_id" = some requestEventId ∧
      p.string? "preimage" = some preimage := by
  unfold Oracle.matchPreimage at h
  split at h
  next => cases h
  next parsed hparsed =>
    obtain ⟨p, hp, hqueryId, hrequestEventId, hpreimage⟩ :=
      decryptDmJson_of_parsePreimageDeliveryEvent hparsed
    split at h
    next => cases h
    next hid =>
      split at h
      next => cases h
      next hrequest =>
        cases h
        rw [not_not.mp hid] at hqueryId
        rw [not_not.mp hrequest] at hrequestEventId
        exact ⟨p, hp, hqueryId, hrequestEventId, hpreimage⟩

/-! ## Turns -/

variable (cfg) in
/-- The stages of a job for a request event. -/
abbrev stages (event : Protocol.Event) : Stages (Pending cfg) Event where
  callOf := Event.callOf
  event := Event.stage
  pending := Pending.stage
  Known := fun call evs p => p.Known call evs
  Justifies := fun call => JobJustified cfg call event
  Over := fun _ => True
  Waits := fun _ => True
  About := fun p => p.job.event = event

variable {call stage : Nat} {t : Tables} {K : List Event → Prop}

theorem advances_ended : (stages cfg event).Advances call stage K (ended t []) :=
  .silent fun _ _ => trivial

theorem advances_write {record : ProviderStateRecord}
    (hafter : ∀ key value, stage ≤ (Event.stateWritten call record.status key value).stage)
    (hbefore : ∀ key value, (Event.stateWritten call record.status key value).stage < q.stage)
    (hknown : ∀ evs evs', K evs → q.Known call (evs ++ evs')) (habout : q.job.event = event) :
    (stages cfg event).Advances call stage K (writeProviderState t call [] record q) :=
  .emit rfl (hafter _ _) (hbefore _ _) (fun _ _ _ => trivial) habout fun evs h => hknown evs _ h

theorem advances_handlerReturned {job : Job cfg} {offer : Option ProviderOffer} :
    (stages cfg job.event).Advances call 2 K (handlerReturned t call job offer draws) := by
  unfold handlerReturned
  split
  next => exact advances_ended
  split
  next => exact advances_ended
  split
  next =>
    exact .emit rfl (Nat.le_refl 2) (by decide : 2 < 3) (fun _ _ _ => trivial) rfl
      fun evs _ => List.mem_concat_self
  next => exact advances_ended

theorem advances_offerSent {job : Offered cfg} :
    (stages cfg job.event).Advances call 3 (fun evs => OfferKnown call evs job)
      (offerSent t call job draws) := by
  unfold offerSent
  split
  next =>
    exact advances_write (fun _ _ => Nat.le_refl 3) (fun _ _ => (by decide : 3 < 4))
      (fun _ _ h => OfferKnown.mono h) rfl
  next => exact .waiting (by decide : 3 ≤ 4) (.inr trivial) rfl fun _ h => h

theorem advances_requestHash (job : Selected cfg) :
    (stages cfg job.event).Advances call 4 (fun evs => OfferKnown call evs job.toOffered)
      (requestHash t call [.selectionAccepted call job.selectionEvent job.selection] job
        draws) := by
  have hselected : ∀ {events o}, (stages cfg job.event).Advances call 5
      (fun evs => SelectionKnown call evs job) { shared := t, events := events, pending := o } →
      (stages cfg job.event).Advances call 4 (fun evs => OfferKnown call evs job.toOffered)
        { shared := t
          events := .selectionAccepted call job.selectionEvent job.selection :: events
          pending := o } := fun h =>
    h.cons rfl (Nat.le_refl 4) (by decide : 4 < 5) (fun _ _ _ => trivial) fun _ hknown =>
      ⟨hknown.mono, List.mem_concat_self⟩
  unfold requestHash
  split
  next => exact hselected (.waiting (by decide : 5 ≤ 6) (.inr trivial) rfl fun _ h => h)
  split
  next => exact hselected advances_ended
  dsimp only
  split
  next => exact hselected advances_ended
  exact hselected (.emit rfl (Nat.le_refl 5) (by decide : 5 < 6) (fun _ _ _ => trivial) rfl
    fun _ h => h.mono)

theorem advances_selectionArrived {job : Offered cfg} {selectionEvent : Protocol.Event} :
    (stages cfg job.event).Advances call 4 (fun evs => OfferKnown call evs job)
      (selectionArrived t call job selectionEvent draws) := by
  unfold selectionArrived
  split
  next => exact .waiting (Nat.le_refl 4) (.inr trivial) rfl fun _ h => h
  next selection hmatched =>
    split
    next hagrees =>
      exact advances_requestHash
        { job with selectionEvent, selection, matched := hmatched, agrees := hagrees }
    next => exact advances_ended

theorem advances_hashReady {hash : OracleHash cfg job.payload} :
    (stages cfg job.event).Advances call 6 (fun evs => SelectionKnown call evs job)
      (hashReady t call job hash) :=
  .emit rfl (Nat.le_refl 6) (by decide : 6 < 7) (fun _ _ _ => trivial) rfl fun _ h =>
    ⟨h.mono, List.mem_concat_self⟩

variable {ephemeral : Keypair N} {turn : Turn cfg}

theorem advances_hashRequestSent {settled : Option (Option (OracleHash cfg job.payload))}
    {successes : List String} :
    (stages cfg job.event).Advances call 6 (fun evs => SelectionKnown call evs job)
      (hashRequestSent t call job ephemeral settled successes) := by
  unfold hashRequestSent
  split
  next => exact advances_ended
  split
  next => exact .waiting (Nat.le_refl 6) (.inr trivial) rfl fun _ h => h
  next => exact advances_ended
  next => exact advances_hashReady

theorem advances_hashArrived {hashEvent : Protocol.Event} :
    (stages cfg job.event).Advances call 6 (fun evs => SelectionKnown call evs job)
      (hashArrived t call job ephemeral hashEvent) := by
  unfold hashArrived
  split
  next => exact .waiting (Nat.le_refl 6) (.inr trivial) rfl fun _ h => h
  next => exact advances_hashReady

/-- The work begins right after the verification of the lock. -/
theorem advances_lockResolved {job : Locked cfg} :
    (stages cfg job.event).Advances call 7 (fun evs => HashKnown call evs job)
      (lockResolved t call job) := by
  have hproducing : (stages cfg job.event).Advances call 8 (fun evs => LockKnown call evs job)
      { shared := t, events := [.produceCalled call job.context], pending := some (.producing job) } :=
    .emit rfl (Nat.le_refl 8) (by decide : 8 < 9)
      (fun _ _ h => ⟨job.payload, job.selection, verifiedLock_of_known h⟩) rfl fun _ h => h.mono
  exact hproducing.cons rfl (Nat.le_refl 7) (by decide : 7 < 8) (fun _ _ _ => trivial) fun _ h =>
    ⟨h.mono, List.mem_concat_self⟩

theorem advances_produceReturned {job : Locked cfg} {data : Option Json} {proof : ProofEvidence} :
    (stages cfg job.event).Advances call 9 (fun evs => LockKnown call evs job)
      (produceReturned t call job data proof draws) := by
  have hproduced : ∀ {events o}, (stages cfg job.event).Advances call 10
      (fun evs => LockKnown call evs job ∧ .produceResolved call data proof ∈ evs)
        { shared := t, events := events, pending := o } →
      (stages cfg job.event).Advances call 9 (fun evs => LockKnown call evs job)
        { shared := t, events := .produceResolved call data proof :: events, pending := o } :=
    fun h => h.cons rfl (Nat.le_refl 9) (by decide : 9 < 10) (fun _ _ _ => trivial) fun _ hknown =>
      ⟨hknown.mono, List.mem_concat_self⟩
  unfold produceReturned
  split
  next => exact hproduced advances_ended
  exact hproduced (.emit rfl (Nat.le_refl 10) (by decide : 10 < 11)
    (fun _ _ h => ⟨data, proof, h.2⟩) rfl fun _ h => h.1.mono)

theorem advances_resultSent {job : Answered cfg} :
    (stages cfg job.event).Advances call 11 (fun evs => LockKnown call evs job.toLocked)
      (resultSent t call job draws) := by
  unfold resultSent
  split
  next =>
    exact advances_write (fun _ _ => Nat.le_refl 11) (fun _ _ => (by decide : 11 < 12))
      (fun _ _ h => LockKnown.mono h) rfl
  next => exact .waiting (by decide : 11 ≤ 12) (.inr trivial) rfl fun _ h => h

/-- The preimage comes from a message of the Oracle, and is used for the token that was verified. -/
theorem advances_preimageArrived {job : Answered cfg} {dm : Protocol.Event} :
    (stages cfg job.event).Advances call 12 (fun evs => LockKnown call evs job.toLocked)
      (preimageArrived t call job dm) := by
  unfold preimageArrived
  split
  next => exact .waiting (Nat.le_refl 12) (.inr trivial) rfl fun _ h => h
  next preimage hpreimage =>
    have hredeeming : (stages cfg job.event).Advances call 13
        (fun evs => LockKnown call evs job.toLocked ∧ .preimageReceived call dm preimage ∈ evs)
        { shared := t
          events := [.redeemCalled call ⟨job.selection.providerRedemptionToken, preimage,
            cfg.identity.secretKey⟩]
          pending := some (.redeeming job) } :=
      .emit rfl (Nat.le_refl 13) (by decide : 13 < 14)
        (fun _ _ h => ⟨job.payload, job.selection, dm, verifiedLock_of_known h.1, rfl, h.2,
          decrypt_of_matchPreimage hpreimage⟩) rfl fun _ h => h.1.mono
    exact hredeeming.cons rfl (Nat.le_refl 12) (by decide : 12 < 13) (fun _ _ _ => trivial)
      fun _ h => ⟨h.mono, List.mem_concat_self⟩

theorem advances_redeemed {job : Answered cfg} :
    (stages cfg job.event).Advances call 14 (fun evs => LockKnown call evs job.toLocked)
      (redeemed t call job draws) := by
  unfold redeemed
  split
  next =>
    exact advances_write (fun _ _ => Nat.le_refl 14) (fun _ _ => (by decide : 14 < 15))
      (fun _ _ h => LockKnown.mono h) rfl
  next => exact advances_ended

theorem advances_of_resume {b : Answer × Draws} (h : resume cfg t call p b = some turn) :
    (stages cfg p.job.event).Advances call p.stage (fun evs => p.Known call evs) turn := by
  unfold resume at h
  split at h
  all_goals cases h
  -- in the order of the lines of `resume`
  · exact advances_ended
  · exact advances_handlerReturned
  · exact advances_offerSent
  · exact .waiting (Nat.le_refl 4) (.inr trivial) rfl fun _ h => h
  · exact advances_selectionArrived
  · exact advances_ended
  · exact advances_hashReady
  · exact advances_hashRequestSent
  · exact .waiting (Nat.le_refl 6) (.inr trivial) rfl fun _ h => h
  · exact .waiting (Nat.le_refl 6) (.inr trivial) rfl fun _ h => h
  · exact advances_hashArrived
  · exact advances_ended
  · exact advances_lockResolved
  · exact advances_produceReturned
  · exact advances_resultSent
  · exact .waiting (Nat.le_refl 12) (.inr trivial) rfl fun _ h => h
  · exact advances_preimageArrived
  · exact advances_ended
  · exact advances_redeemed
  · exact advances_ended

/-! ## Jobs -/

theorem handleJob_cases (cfg : JobContext N) (t : Tables) (call : Nat) (event : Protocol.Event) :
    handleJob cfg t call event = { shared := t, events := [.jobStarted call event] } ∨
    ∃ (job : Job cfg) (request : ProviderRequestEvent), job.event = event ∧
      handleJob cfg t call event =
        { shared := t
          events := [.jobStarted call event, .handlerCalled call request]
          pending := some (.handling job) } := by
  unfold handleJob
  split
  next => exact .inl rfl
  split
  next =>
    split
    next => exact .inl rfl
    next => exact .inr ⟨_, _, rfl, rfl⟩
  next => exact .inl rfl

theorem advances_handleJob (t : Tables) (call : Nat) (event : Protocol.Event) :
    (stages cfg event).Advances call 0 (· = []) (handleJob cfg t call event) := by
  have hstarted : ∀ {events o}, (stages cfg event).Advances call 1 (fun _ => True)
        { shared := t, events := events, pending := o } →
      (stages cfg event).Advances call 0 (· = [])
        { shared := t, events := .jobStarted call event :: events, pending := o } := fun h =>
    h.cons rfl (Nat.le_refl 0) (by decide : 0 < 1) (fun _ _ _ => trivial) fun _ _ => trivial
  rcases handleJob_cases cfg t call event with hignored | ⟨job, request, rfl, hhandling⟩
  · rw [hignored]
    exact hstarted advances_ended
  · rw [hhandling]
    exact hstarted (.emit rfl (Nat.le_refl 1) (by decide : 1 < 2) (fun _ _ _ => trivial) rfl
      fun _ _ => trivial)

theorem names (cfg : JobContext N) : (providerService cfg).Names Event.callOf where
  begin t call event := (advances_handleJob t call event).names
  resume h := (advances_of_resume h).names

variable {o : Option (Pending cfg)}

/-- By induction over the turns of the job. -/
theorem progress_of_trace (h : (providerService cfg).Trace call event evs o) :
    (stages cfg event).Progress call evs o := by
  induction h with
  | begin t => exact .begin (advances_handleJob t call event)
  | @resume evs p t b turn _ hresume ih =>
    have hturn := advances_of_resume hresume
    rw [ih.about p rfl] at hturn
    exact ih.resume hturn

theorem started_of_trace (h : (providerService cfg).Trace call event evs o) :
    evs.head? = some (.jobStarted call event) := by
  induction h with
  | begin t =>
    show (handleJob cfg t call event).events.head? = _
    rcases handleJob_cases cfg t call event with heq | ⟨job, request, -, heq⟩ <;> rw [heq] <;> rfl
  | resume _ _ ih =>
    rw [List.head?_append, ih]
    rfl

/--
Take any run of the Provider, with any requests, relay events and answers in any order, and any job
of it. The job has at most one lock verified, and calls `produce` at most once and `redeemHtlc` at
most once. It calls `produce` after the lock has been verified for just its selection, publishes a
result after `produce` has resolved, and calls `redeemHtlc` with the token of that selection and a
preimage that a message of the request's Oracle carries for this request.
-/
theorem work_under_verified_lock (cfg : JobContext N) (store : JsMap String String)
    {G : CallState Tables (Pending cfg) → CallAction Protocol.Event (Answer × Draws) → Prop}
    {tr : List Event} {s : CallState Tables (Pending cfg)}
    (hrun : Run (providerService cfg).machine G (initialState cfg store) tr s) {call : Nat}
    (hcall : call < s.nextCall) :
    ∃ event, (ownEvents Event.callOf call tr).head? = some (.jobStarted call event) ∧
      (ownEvents Event.callOf call tr).countP Event.isLockVerification ≤ 1 ∧
      (ownEvents Event.callOf call tr).countP Event.isProduceCall ≤ 1 ∧
      (ownEvents Event.callOf call tr).countP Event.isRedeemCall ≤ 1 ∧
      Justified (JobJustified cfg call event) (ownEvents Event.callOf call tr) := by
  obtain ⟨event, htrace⟩ := (names cfg).trace_of_run rfl rfl hrun hcall
  have hprogress := progress_of_trace htrace
  refine ⟨event, started_of_trace htrace, hprogress.countP_le_one (n := 7) ?_,
    hprogress.countP_le_one (n := 8) ?_, hprogress.countP_le_one (n := 13) ?_,
    hprogress.justified⟩
  all_goals
    intro e he
    cases e <;> first | rfl | cases he

end

/-- A job that is served: the token `t` is redeemed under the lock that was verified. -/
theorem work_under_verified_lock_paid :
    ∃ tr s event, Run (providerService plainContext).machine AnyStep
        (initialState plainContext .empty) tr s ∧
      tr.filterMap Event.redemption = [("t", "p")] ∧
      (ownEvents Event.callOf 0 tr).head? = some (.jobStarted 0 event) ∧
      Justified (JobJustified plainContext 0 event) (ownEvents Event.callOf 0 tr) := by
  obtain ⟨h, hserve⟩ := serve_plainJob
  obtain ⟨tr, s, hrun, hredeemed⟩ := redeems_of_serve hserve rfl (by decide) rfl
  -- the redemption is an event, so a job has begun
  obtain ⟨e, he, -⟩ := List.mem_filterMap.mp (hredeemed ▸ List.mem_singleton_self ("t", "p"))
  have hbegun : 0 < s.nextCall :=
    Nat.lt_of_le_of_lt (Nat.zero_le _) ((names plainContext).begun_of_mem rfl rfl hrun he)
  obtain ⟨event, hstarted, -, -, -, hjustified⟩ :=
    work_under_verified_lock plainContext .empty hrun hbegun
  exact ⟨tr, s, event, hrun, hredeemed, hstarted, hjustified⟩

end Anchr.Provider
