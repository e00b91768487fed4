import Anchr.Requests.Turns

/-!
# The settlement artifact of an accepted result

`submitEscrowResult` commits the approval first and looks for the artifact afterwards, and it
returns `ok` whether it finds one or not.
-/

namespace Anchr.Requests

open Infra

/-! ## One call on its own -/

/-- The arguments of `submitEscrowResult`. -/
structure EscrowArgs where
  queryId : String
  result : QueryResult
  providerPubkey : String
  oracleId : Option String := none
  blossomKeys : Option BlossomKeyMap := none
  now : JsNumber

/-- What the Oracles, the preimage store and the FROST port answer. -/
structure EscrowAnswers where
  /-- The attestation of the Oracle that is asked at this position. -/
  attest : Nat → Oracle → OracleAttestation
  verifyRejects : Bool := false
  getRejects : Bool := false
  /-- `delete` rejects after the entry is gone. -/
  deleteRejects : Bool := false
  /-- What `requestSignature` resolves to; `none` when it rejects. -/
  signature : Option (Option (List String)) := none

def EscrowArgs.action (args : EscrowArgs) : Action :=
  .submitEscrowResult args.queryId args.result args.providerPubkey args.oracleId args.blossomKeys
    args.now

def EscrowAnswers.verification (ans : EscrowAnswers) (request : QuorumRequest) : Answer :=
  if ans.verifyRejects && !request.asked.isEmpty then .rejected
  else .attestations (request.asked.mapIdx ans.attest)

def EscrowAnswers.next (ans : EscrowAnswers) (call : Nat) (now : JsNumber) : Pending → Action
  | .escrowVerify p => .resume call (ans.verification p.request) now
  | .escrowGot .. => .resume call (if ans.getRejects then .rejected else .stored) now
  | .escrowDeleted .. => .resume call (if ans.deleteRejects then .rejected else .stored) now
  | .escrowFrost _ =>
    .resume call
      (match ans.signature with
        | some signature => .signature signature
        | none => .rejected) now
  | _ => .serve call

/-- Take a suspended call to its end; `none` if it is not reached. -/
def finishCall (deps : ServiceDeps) (ans : EscrowAnswers) (call : Nat) (now : JsNumber) :
    Nat → State → Option (State × List Event)
  | 0, _ => none
  | fuel + 1, s =>
    match s.calls.get? call with
    | none => some (s, [])
    | some p =>
      match step deps s (ans.next call now p) with
      | none => none
      | some (s', evs) =>
        (finishCall deps ans call now fuel s').map fun r => (r.1, evs ++ r.2)

/-- The call has at most six turns. -/
def submitEscrowAlone (deps : ServiceDeps) (s : State) (args : EscrowArgs) (ans : EscrowAnswers) :
    Option (State × List Event) :=
  match step deps s args.action with
  | none => none
  | some (s', evs) =>
    (finishCall deps ans s.nextCall args.now 6 s').map fun r => (r.1, evs ++ r.2)

def returnedOutcome (call : Nat) (evs : List Event) : Option EscrowSubmitOutcome :=
  evs.findSome? fun
    | .escrowReturned c outcome => if c = call then some outcome else none
    | _ => none

/-! ## What a success has to come with -/

/-- Exactly one artifact is set, and it is the one of the escrow type. -/
def EscrowSubmitOutcome.HasArtifact (outcome : EscrowSubmitOutcome) : EscrowType → Prop
  | .htlc _ => outcome.preimage ≠ none ∧ outcome.frostSignature = none
  | .p2pkFrost _ =>
    outcome.preimage = none ∧ ∃ signatures, outcome.frostSignature = some signatures ∧
      signatures ≠ []

def IsApproved (store : QueryStore) (queryId : String) : Prop :=
  ∃ query, store.get? queryId = some query ∧ query.status = .approved ∧
    query.paymentStatus = .released

/-- A success has its artifact, and the call approves the query only with such a success. -/
structure SettlesWithArtifact (s : State) (args : EscrowArgs) (type : EscrowType) (s' : State)
    (evs : List Event) : Prop where
  success : ∀ outcome, returnedOutcome s.nextCall evs = some outcome → outcome.ok = true →
    outcome.HasArtifact type
  approval : ¬ IsApproved s.store args.queryId → IsApproved s'.store args.queryId →
    ∃ outcome, returnedOutcome s.nextCall evs = some outcome ∧ outcome.ok = true ∧
      outcome.HasArtifact type

/-- The Oracles answer, and their verdict is a pass. -/
def VerificationPasses (deps : ServiceDeps) (s : State) (args : EscrowArgs) (ans : EscrowAnswers)
    (verifying : Query) : Prop :=
  let request := verifyWithQuorum deps.platform s.registry verifying args.oracleId
  (ans.verifyRejects = false ∨ request.asked = []) ∧
    ∃ v, request.reply (request.asked.mapIdx ans.attest) = some v ∧ v.passed = true

/-- The store has the preimage and deletes it, or the FROST port signs. -/
def ArtifactAtHand (deps : ServiceDeps) (s : State) (ans : EscrowAnswers) : EscrowType → Prop
  | .htlc hash =>
    deps.preimageStore = true ∧ hash ≠ "" ∧
      (∃ preimage, s.preimages.get? hash = some preimage ∧ preimage ≠ "") ∧
      ans.getRejects = false ∧ ans.deleteRejects = false
  | .p2pkFrost _ =>
    deps.frostSignature = true ∧ ∃ signatures, ans.signature = some (some signatures) ∧
      signatures ≠ []

/-! ## Outcomes -/

section

variable {deps : ServiceDeps} {ans : EscrowAnswers} {call fuel : Nat} {now : JsNumber} {s : State}
  {updated : Query} {type : EscrowType} {evs : List Event} {p : Pending} {hash preimage : String}
  {store : QueryStore} {Q : Option EscrowSubmitOutcome → Prop}

theorem returnedOutcome_append (h : ∀ outcome, .escrowReturned call outcome ∉ evs)
    (evs' : List Event) : returnedOutcome call (evs ++ evs') = returnedOutcome call evs' := by
  unfold returnedOutcome
  rw [List.findSome?_append, List.findSome?_eq_none_iff.mpr, Option.none_or]
  intro e he
  cases e with
  | escrowReturned c outcome =>
    have hc : c ≠ call := by
      rintro rfl
      exact h outcome he
    simp [hc]
  | _ => rfl

theorem returnedOutcome_returned (call : Nat) (outcome : EscrowSubmitOutcome)
    (evs : List Event) :
    returnedOutcome call (.escrowReturned call outcome :: evs) = some outcome := by
  simp [returnedOutcome]

/-- A success with its artifact. -/
def Settled (type : EscrowType) (o : Option EscrowSubmitOutcome) : Prop :=
  ∃ outcome, o = some outcome ∧ outcome.ok = true ∧ outcome.HasArtifact type

theorem not_settled_verdict :
    ¬Settled type (returnedOutcome call (returnVerdict call updated true []).events) := by
  rintro ⟨outcome, houtcome, -, hart⟩
  rw [returnVerdict, returnedOutcome_returned] at houtcome
  cases houtcome
  cases type with
  | htlc hash => exact hart.1 rfl
  | p2pkFrost groupPubkey =>
    obtain ⟨-, signatures, hsome, -⟩ := hart
    cases hsome

theorem not_settled_none : ¬Settled type none := by
  rintro ⟨outcome, houtcome, -⟩
  cases houtcome

/-! ## Taking the call to its end -/

/-- The call comes to its end with this store, and `Q` holds of what it returns. -/
def Ends (deps : ServiceDeps) (ans : EscrowAnswers) (call : Nat) (now : JsNumber) (fuel : Nat)
    (s : State) (store : QueryStore) (Q : Option EscrowSubmitOutcome → Prop) : Prop :=
  ∃ s' evs, finishCall deps ans call now fuel s = some (s', evs) ∧ s'.store = store ∧
    Q (returnedOutcome call evs)

theorem ends_cons {s' : State} (hcall : s.calls.get? call = some p)
    (hstep : step deps s (ans.next call now p) = some (s', evs))
    (hquiet : ∀ outcome, .escrowReturned call outcome ∉ evs)
    (h : Ends deps ans call now fuel s' store Q) :
    Ends deps ans call now (fuel + 1) s store Q := by
  obtain ⟨t, evs', hfinish, hstore, hQ⟩ := h
  refine ⟨t, evs ++ evs', ?_, hstore, ?_⟩
  · simp only [finishCall, hcall, hstep, hfinish, Option.map_some]
  · rwa [returnedOutcome_append hquiet]

variable {answer : Answer} {turn : Turn} {v : QuorumVerificationResult}

theorem step_of_resume (hcall : s.calls.get? call = some p)
    (hr : p.resume deps call now answer = some turn) :
    step deps s (.resume call answer now) = some (s.continue call turn) := by
  simp only [step, hcall, hr, Option.map_some]

theorem ends_turn (answer : Answer) (hcall : s.calls.get? call = some p)
    (hnext : ans.next call now p = .resume call answer now)
    (hr : p.resume deps call now answer = some turn) (hover : turn.pending = none)
    (hQ : Q (returnedOutcome call turn.events)) :
    Ends deps ans call now (fuel + 2) s (commit s.store turn.write) Q := by
  have hstep : step deps s (ans.next call now p) = some (s.continue call turn) := by
    rw [hnext]
    exact step_of_resume hcall hr
  have hgone : (s.continue call turn).1.calls.get? call = none := by
    simp [State.continue, hover]
  refine ⟨(s.continue call turn).1, turn.events, ?_, rfl, hQ⟩
  simp only [finishCall, hcall, hstep, hgone, Option.map_some, List.append_nil]
  rfl

theorem ends_deleted (hcall : s.calls.get? call = some (.escrowDeleted hash preimage updated)) :
    Ends deps ans call now (fuel + 2) s s.store
      fun o => Settled (.htlc hash) o ↔ ans.deleteRejects = false := by
  cases hrej : ans.deleteRejects with
  | true =>
    refine ends_turn .rejected hcall (by simp [EscrowAnswers.next, hrej]) rfl rfl ?_
    exact iff_of_false not_settled_none (by simp)
  | false =>
    refine ends_turn .stored hcall (by simp [EscrowAnswers.next, hrej]) rfl rfl ?_
    exact iff_of_true ⟨_, returnedOutcome_returned .., rfl, by simp, rfl⟩ rfl

theorem ends_delete (hcall : s.calls.get? call = some (.escrowDelete hash preimage updated)) :
    Ends deps ans call now (fuel + 3) s s.store
      fun o => Settled (.htlc hash) o ↔ ans.deleteRejects = false := by
  have hstep : step deps s (ans.next call now (.escrowDelete hash preimage updated)) =
      some ({ s with
        preimages := s.preimages.delete hash
        calls := s.calls.set call (.escrowDeleted hash preimage updated) },
        [.preimageDeleted call hash]) := by
    simp only [EscrowAnswers.next, step, hcall, State.serve]
  exact ends_cons hcall hstep (by simp) (ends_deleted (JsMap.get?_set_self _ _ _))

/-- The preimage that was read is returned if it is one and nothing rejects. -/
def Released (ans : EscrowAnswers) (preimage : Option String) : Prop :=
  (∃ value, preimage = some value ∧ value ≠ "") ∧ ans.getRejects = false ∧
    ans.deleteRejects = false

theorem ends_got {preimage : Option String}
    (hcall : s.calls.get? call = some (.escrowGot hash preimage updated)) :
    Ends deps ans call now (fuel + 4) s s.store
      fun o => Settled (.htlc hash) o ↔ Released ans preimage := by
  cases hrej : ans.getRejects with
  | true =>
    refine ends_turn .rejected hcall (by simp [EscrowAnswers.next, hrej]) rfl rfl ?_
    exact iff_of_false not_settled_none fun h => by simp [h.2.1] at hrej
  | false =>
    have hnext : ans.next call now (.escrowGot hash preimage updated) =
        .resume call .stored now := by simp [EscrowAnswers.next, hrej]
    have hr : (Pending.escrowGot hash preimage updated).resume deps call now .stored =
        some (gotPreimage call hash preimage updated) := rfl
    unfold gotPreimage at hr
    split at hr
    next value hvalue =>
      have hstep := step_of_resume hcall hr
      rw [← hnext] at hstep
      obtain ⟨hread, hne⟩ := Option.filter_eq_some_iff.mp hvalue
      have hfound : ∃ value, preimage = some value ∧ value ≠ "" :=
        ⟨value, hread, by simpa using hne⟩
      simp only [Released, hfound, hrej, true_and]
      exact ends_cons hcall hstep (by simp) (ends_delete (JsMap.get?_set_self _ _ _))
    next hvalue =>
      refine ends_turn _ hcall hnext hr rfl (iff_of_false not_settled_verdict ?_)
      rintro ⟨⟨value, rfl, hne⟩, -⟩
      simp [Option.filter, hne] at hvalue

theorem ends_get (hcall : s.calls.get? call = some (.escrowGet hash updated)) :
    Ends deps ans call now (fuel + 5) s s.store
      fun o => Settled (.htlc hash) o ↔ Released ans (s.preimages.get? hash) := by
  have hstep : step deps s (ans.next call now (.escrowGet hash updated)) =
      some ({ s with
        calls := s.calls.set call (.escrowGot hash (s.preimages.get? hash) updated) },
        [.preimageRead call hash (s.preimages.get? hash)]) := by
    simp only [EscrowAnswers.next, step, hcall, State.serve]
  exact ends_cons hcall hstep (by simp) (ends_got (JsMap.get?_set_self _ _ _))

theorem ends_frost {groupPubkey : String}
    (hcall : s.calls.get? call = some (.escrowFrost updated)) :
    Ends deps ans call now (fuel + 2) s s.store fun o => Settled (.p2pkFrost groupPubkey) o ↔
      ∃ signatures, ans.signature = some (some signatures) ∧ signatures ≠ [] := by
  have hverdict : ∀ answer, ans.next call now (.escrowFrost updated) = .resume call answer now →
      (Pending.escrowFrost updated).resume deps call now answer =
        some (returnVerdict call updated true []) →
      (¬∃ signatures, ans.signature = some (some signatures) ∧ signatures ≠ []) →
      Ends deps ans call now (fuel + 2) s s.store fun o => Settled (.p2pkFrost groupPubkey) o ↔
        ∃ signatures, ans.signature = some (some signatures) ∧ signatures ≠ [] :=
    fun answer hnext hr hnone => ends_turn answer hcall hnext hr rfl
      (iff_of_false not_settled_verdict hnone)
  match hsig : ans.signature with
  | none =>
    exact hsig ▸ hverdict .rejected (by simp [EscrowAnswers.next, hsig]) rfl (by simp [hsig])
  | some none =>
    exact hsig ▸ hverdict (.signature none) (by simp [EscrowAnswers.next, hsig]) rfl
      (by simp [hsig])
  | some (some signatures) =>
    refine ends_turn (.signature (some signatures)) hcall
      (by simp [EscrowAnswers.next, hsig]) rfl rfl ?_
    simp [Settled, gotSignature, returnedOutcome, EscrowSubmitOutcome.HasArtifact]

/-- After the verification has passed, the call succeeds with its artifact exactly when the artifact
is at hand. -/
theorem ends_settle {p : EscrowSubmission} {escrow : EscrowInfo}
    (hcall : s.calls.get? call = some (.escrowVerify p)) (hescrow : p.query.escrow = some escrow)
    (hnext : ans.next call now (.escrowVerify p) =
      .resume call (.attestations (p.request.asked.mapIdx ans.attest)) now)
    (hreply : p.request.reply (p.request.asked.mapIdx ans.attest) = some v)
    (hpass : v.passed = true) :
    Ends deps ans call now (fuel + 6) s (s.store.set p.queryId (p.verifyingQuery.finalized v))
      fun o => Settled escrow.type o ↔ ArtifactAtHand deps s ans escrow.type := by
  have hr : (Pending.escrowVerify p).resume deps call now
      (.attestations (p.request.asked.mapIdx ans.attest)) = some (p.finish deps call v) := by
    simp only [Pending.resume, hreply, Option.map_some]
  simp only [EscrowSubmission.finish, hpass, if_true, settle, hescrow, Option.map_some] at hr
  have hverdict : ∀ events, (∀ outcome, .escrowReturned call outcome ∉ events) →
      ¬Settled escrow.type (returnedOutcome call
        (events ++ (returnVerdict call (p.verifyingQuery.finalized v) true []).events)) :=
    fun events hquiet => by
      rw [returnedOutcome_append hquiet]
      exact not_settled_verdict
  have hquiet : ∀ outcome, Event.escrowReturned call outcome ∉
      [.verified call p.normalizedResult true] := by simp
  cases htype : escrow.type with
  | htlc hash =>
    rw [htype] at hr hverdict
    dsimp only at hr
    simp only [ArtifactAtHand]
    by_cases hport : (deps.preimageStore && hash ≠ "") = true
    · rw [if_pos hport] at hr
      obtain ⟨hstore, hhash⟩ : deps.preimageStore = true ∧ hash ≠ "" := by simpa using hport
      have hstep := step_of_resume hcall hr
      rw [← hnext] at hstep
      simp only [hstore, hhash, ne_eq, not_false_eq_true, true_and]
      exact ends_cons hcall hstep hquiet (ends_get (JsMap.get?_set_self _ _ _))
    · rw [if_neg hport] at hr
      refine ends_turn _ hcall hnext hr rfl (iff_of_false (hverdict _ hquiet) ?_)
      rintro ⟨hstore, hhash, -⟩
      exact hport (by simp [hstore, hhash])
  | p2pkFrost groupPubkey =>
    rw [htype] at hr hverdict
    dsimp only at hr
    simp only [ArtifactAtHand]
    by_cases hport : deps.frostSignature = true
    · rw [if_pos hport] at hr
      have hstep := step_of_resume hcall hr
      rw [← hnext] at hstep
      simp only [hport, true_and]
      exact ends_cons hcall hstep (by simp) (ends_frost (JsMap.get?_set_self _ _ _))
    · rw [if_neg hport] at hr
      exact ends_turn _ hcall hnext hr rfl (iff_of_false (hverdict _ hquiet) fun h => hport h.1)

theorem ends_refused {p : EscrowSubmission} (hcall : s.calls.get? call = some (.escrowVerify p))
    (hnext : ans.next call now (.escrowVerify p) =
      .resume call (.attestations (p.request.asked.mapIdx ans.attest)) now)
    (hreply : p.request.reply (p.request.asked.mapIdx ans.attest) = some v)
    (hfail : v.passed = false) :
    Ends deps ans call now (fuel + 2) s (s.store.set p.queryId (p.verifyingQuery.finalized v))
      fun o => ∀ outcome, o = some outcome → outcome.ok = false := by
  have hr : (Pending.escrowVerify p).resume deps call now
      (.attestations (p.request.asked.mapIdx ans.attest)) = some (p.finish deps call v) := by
    simp only [Pending.resume, hreply, Option.map_some]
  simp only [EscrowSubmission.finish, hfail, Bool.false_eq_true, if_false] at hr
  refine ends_turn _ hcall hnext hr rfl fun outcome houtcome => ?_
  rw [← List.singleton_append, returnedOutcome_append (by simp), returnVerdict,
    returnedOutcome_returned] at houtcome
  rw [← Option.some.inj houtcome]

end

/-! ## When the artifact is there -/

section

variable {deps : ServiceDeps} {s s' : State} {args : EscrowArgs} {ans : EscrowAnswers}
  {type : EscrowType} {evs : List Event} {query : Query}

theorem settlesWithArtifact_of_refused
    (hreturned : ∀ outcome, returnedOutcome s.nextCall evs = some outcome → outcome.ok = false)
    (hstore : IsApproved s'.store args.queryId → IsApproved s.store args.queryId) :
    SettlesWithArtifact s args type s' evs where
  success outcome houtcome hok := by
    rw [hreturned outcome houtcome] at hok
    cases hok
  approval hbefore hafter := absurd (hstore hafter) hbefore

theorem settlesWithArtifact_iff_of_approved (hbefore : ¬ IsApproved s.store args.queryId)
    (hafter : IsApproved s'.store args.queryId) :
    SettlesWithArtifact s args type s' evs ↔ Settled type (returnedOutcome s.nextCall evs) := by
  constructor
  · exact fun h => h.approval hbefore hafter
  · rintro ⟨outcome, houtcome, hok, hart⟩
    refine ⟨fun outcome' houtcome' _ => ?_, fun _ _ => ⟨outcome, houtcome, hok, hart⟩⟩
    rw [houtcome] at houtcome'
    rw [← Option.some.inj houtcome']
    exact hart

theorem exists_reply {request : QuorumRequest} {atts : List OracleAttestation}
    (hlen : atts.length = request.asked.length) : ∃ v, request.reply atts = some v := by
  unfold QuorumRequest.reply
  rw [if_neg (by simp [hlen])]
  cases request with
  | settled result => exact ⟨result, rfl⟩
  | single oracle =>
    cases atts with
    | nil => cases hlen
    | cons att rest => exact ⟨_, rfl⟩
  | quorum oracles minApprovals => exact ⟨_, rfl⟩

def EscrowArgs.submission (args : EscrowArgs) (deps : ServiceDeps) (s : State)
    (query verifying : Query) : EscrowSubmission where
  queryId := args.queryId
  query := query
  verifyingQuery := verifying
  normalizedResult := deps.normalizeResult args.result
  blossomKeys := args.blossomKeys
  request := verifyWithQuorum deps.platform s.registry verifying args.oracleId

theorem step_submitEscrow {verifying : Query} (hget : s.store.get? args.queryId = some query)
    (hok : recordResult query (deps.normalizeResult args.result) args.providerPubkey
      args.blossomKeys args.now = .ok verifying) :
    step deps s args.action = some (s.begin
      { write := some (args.queryId, verifying)
        events := [.escrowBegan s.nextCall query args.result args.providerPubkey]
        pending := some (.escrowVerify (args.submission deps s query verifying)) }) := by
  obtain ⟨escrow, hescrow, -⟩ := recordResult_ok hok
  simp only [EscrowArgs.action, step, doSubmitEscrowResult, hget, hescrow, Option.isNone_some,
    Bool.false_eq_true, if_false, hok, EscrowArgs.submission]

theorem not_isApproved_set {store : QueryStore} {queryId : String} (h : query.status ≠ .approved) :
    ¬ IsApproved (store.set queryId query) queryId := by
  rintro ⟨query', hget, hs, -⟩
  rw [JsMap.get?_set_self] at hget
  rw [← Option.some.inj hget] at hs
  exact h hs

end

theorem submitEscrowAlone_of_ends {deps : ServiceDeps} {s s₁ : State} {args : EscrowArgs}
    {ans : EscrowAnswers} {began : Event} {store : QueryStore}
    {Q : Option EscrowSubmitOutcome → Prop}
    (hstep : step deps s args.action = some (s₁, [began]))
    (hbegan : ∀ outcome, began ≠ .escrowReturned s.nextCall outcome)
    (h : Ends deps ans s.nextCall args.now 6 s₁ store Q) :
    ∃ s' evs, submitEscrowAlone deps s args ans = some (s', evs) ∧ s'.store = store ∧
      Q (returnedOutcome s.nextCall evs) := by
  obtain ⟨s', evs, hfinish, hstore, hQ⟩ := h
  refine ⟨s', [began] ++ evs, ?_, hstore, ?_⟩
  · simp only [submitEscrowAlone, hstep, hfinish, Option.map_some]
  · rwa [returnedOutcome_append (by simpa using fun outcome h => hbegan outcome h.symm)]

/-! ## Once the result is recorded -/

section

variable {deps : ServiceDeps} {s : State} {args : EscrowArgs} {ans : EscrowAnswers}
  {p : EscrowSubmission} {began : Event} {type : EscrowType} {v : QuorumVerificationResult}

variable (hstep : step deps s args.action = some (s.begin
    { write := some (args.queryId, p.verifyingQuery)
      events := [began]
      pending := some (.escrowVerify p) }))
  (hbegan : ∀ outcome, began ≠ .escrowReturned s.nextCall outcome)

include hstep hbegan

/-- An Oracle rejects: the call rejects, and the record stays in `verifying`. -/
theorem settles_of_rejected
    (hverifying : p.verifyingQuery.status = .verifying)
    (hrej : (ans.verifyRejects && !p.request.asked.isEmpty) = true) :
    ∃ s' evs, submitEscrowAlone deps s args ans = some (s', evs) ∧
      SettlesWithArtifact s args type s' evs := by
  have hcall := JsMap.get?_set_self s.calls s.nextCall (Pending.escrowVerify p)
  have hnext : ans.next s.nextCall args.now (.escrowVerify p) =
      .resume s.nextCall .rejected args.now := by
    simp only [EscrowAnswers.next, EscrowAnswers.verification, if_pos hrej]
  obtain ⟨s', evs, halone, hstore, hnone⟩ := submitEscrowAlone_of_ends hstep hbegan
    (ends_turn (Q := (· = none)) _ hcall hnext rfl rfl rfl)
  refine ⟨s', evs, halone, settlesWithArtifact_of_refused (fun outcome houtcome => ?_) ?_⟩
  · rw [hnone] at houtcome
    cases houtcome
  · intro happroved
    rw [hstore] at happroved
    exact absurd happroved (not_isApproved_set (by rw [hverifying]; decide))

/-- The verification fails: the record is rejected, and so is the submission. -/
theorem settles_of_refused
    (hid : p.queryId = args.queryId)
    (hnext : ans.next s.nextCall args.now (.escrowVerify p) =
      .resume s.nextCall (.attestations (p.request.asked.mapIdx ans.attest)) args.now)
    (hreply : p.request.reply (p.request.asked.mapIdx ans.attest) = some v)
    (hfailed : v.passed = false) :
    ∃ s' evs, submitEscrowAlone deps s args ans = some (s', evs) ∧
      SettlesWithArtifact s args type s' evs := by
  have hcall := JsMap.get?_set_self s.calls s.nextCall (Pending.escrowVerify p)
  obtain ⟨s', evs, halone, hstore, hrefused⟩ := submitEscrowAlone_of_ends hstep hbegan
    (ends_refused hcall hnext hreply hfailed)
  refine ⟨s', evs, halone, settlesWithArtifact_of_refused hrefused fun happroved => ?_⟩
  rw [hstore, hid] at happroved
  refine absurd happroved (not_isApproved_set ?_)
  simp [Query.finalized, hfailed]

variable {escrow : EscrowInfo}

/-- The verification passes: the record is approved, whether the artifact is at hand or not. -/
theorem settles_iff_of_passed (hid : p.queryId = args.queryId)
    (hescrow : p.query.escrow = some escrow)
    (hnext : ans.next s.nextCall args.now (.escrowVerify p) =
      .resume s.nextCall (.attestations (p.request.asked.mapIdx ans.attest)) args.now)
    (hreply : p.request.reply (p.request.asked.mapIdx ans.attest) = some v)
    (hpassed : v.passed = true) (hbefore : ¬ IsApproved s.store args.queryId) :
    ∃ s' evs, submitEscrowAlone deps s args ans = some (s', evs) ∧
      (SettlesWithArtifact s args escrow.type s' evs ↔
        ArtifactAtHand deps s ans escrow.type) := by
  have hcall := JsMap.get?_set_self s.calls s.nextCall (Pending.escrowVerify p)
  obtain ⟨s', evs, halone, hstore, hsettled⟩ := submitEscrowAlone_of_ends hstep hbegan
    (ends_settle hcall hescrow hnext hreply hpassed)
  have hafter : IsApproved s'.store args.queryId := by
    rw [hstore, hid]
    refine ⟨p.verifyingQuery.finalized v, JsMap.get?_set_self _ _ _, ?_, ?_⟩
    · simp [Query.finalized, hpassed]
    · simp [Query.finalized, hpassed]
  exact ⟨s', evs, halone, (settlesWithArtifact_iff_of_approved hbefore hafter).trans hsettled⟩

theorem settles_iff_of_recorded (ans : EscrowAnswers) (hid : p.queryId = args.queryId)
    (hescrow : p.query.escrow = some escrow)
    (hrequest : p.request =
      verifyWithQuorum deps.platform s.registry p.verifyingQuery args.oracleId)
    (hverifying : p.verifyingQuery.status = .verifying)
    (hbefore : ¬ IsApproved s.store args.queryId) :
    ∃ s' evs, submitEscrowAlone deps s args ans = some (s', evs) ∧
      (SettlesWithArtifact s args escrow.type s' evs ↔
        (VerificationPasses deps s args ans p.verifyingQuery →
          ArtifactAtHand deps s ans escrow.type)) := by
  by_cases hrej : (ans.verifyRejects && !p.request.asked.isEmpty) = true
  · obtain ⟨s', evs, halone, hsettles⟩ := settles_of_rejected hstep hbegan hverifying hrej
    refine ⟨s', evs, halone, fun _ hpass => ?_, fun _ => hsettles⟩
    rw [VerificationPasses, ← hrequest] at hpass
    rcases hpass.1 with hfalse | hnil
    · simp [hfalse] at hrej
    · simp [hnil] at hrej
  · have hnext : ans.next s.nextCall args.now (.escrowVerify p) =
        .resume s.nextCall (.attestations (p.request.asked.mapIdx ans.attest)) args.now := by
      simp only [EscrowAnswers.next, EscrowAnswers.verification, if_neg hrej]
    have hlen : (p.request.asked.mapIdx ans.attest).length = p.request.asked.length := by simp
    obtain ⟨v, hreply⟩ := exists_reply hlen
    have hpasses : VerificationPasses deps s args ans p.verifyingQuery ↔ v.passed = true := by
      rw [VerificationPasses, ← hrequest]
      simp only [hreply, Option.some.injEq, exists_eq_left', and_iff_right_iff_imp]
      rintro -
      by_cases hnil : p.request.asked = []
      · exact .inr hnil
      · simpa [hnil] using hrej
    cases hpassed : v.passed with
    | false =>
      obtain ⟨s', evs, halone, hsettles⟩ := settles_of_refused hstep hbegan hid hnext hreply hpassed
      refine ⟨s', evs, halone, fun _ hpass => ?_, fun _ => hsettles⟩
      rw [hpasses, hpassed] at hpass
      cases hpass
    | true =>
      obtain ⟨s', evs, halone, hsettles⟩ :=
        settles_iff_of_passed hstep hbegan hid hescrow hnext hreply hpassed hbefore
      refine ⟨s', evs, halone, ?_⟩
      rw [hsettles, hpasses]
      exact ⟨fun h _ => h, fun h => h hpassed⟩

end

/--
One `submitEscrowResult` call for a stored query with an escrow, with any answers of the Oracles,
the preimage store and the FROST port, comes to its end. It keeps to the contract of its outcome,
with the approval stored only when an artifact is returned, exactly if either the verification
does not pass or the artifact is at hand.
-/
theorem settles_with_artifact_iff (deps : ServiceDeps) (s : State) (args : EscrowArgs)
    (ans : EscrowAnswers) (query : Query) (escrow : EscrowInfo) (hcalls : s.calls = .empty)
    (hget : s.store.get? args.queryId = some query) (hescrow : query.escrow = some escrow) :
    ∃ s' evs, submitEscrowAlone deps s args ans = some (s', evs) ∧
      (SettlesWithArtifact s args escrow.type s' evs ↔
        ∀ verifying, recordResult query (deps.normalizeResult args.result) args.providerPubkey
          args.blossomKeys args.now = .ok verifying →
            VerificationPasses deps s args ans verifying →
              ArtifactAtHand deps s ans escrow.type) := by
  cases hrec : recordResult query (deps.normalizeResult args.result) args.providerPubkey
    args.blossomKeys args.now with
  | error error =>
    -- the result is refused: the call returns at once and writes nothing
    have hstep : step deps s args.action = some (s.begin
        { events := [.escrowReturned s.nextCall
            { ok := false, query := some query, message := error }] }) := by
      simp only [EscrowArgs.action, step, doSubmitEscrowResult, hget, hescrow, Option.isNone_some,
        Bool.false_eq_true, if_false, hrec]
    have hover : s.calls.get? s.nextCall = none := by
      rw [hcalls]
      rfl
    have halone : submitEscrowAlone deps s args ans = step deps s args.action := by
      simp only [submitEscrowAlone, hstep]
      simp [finishCall, State.begin, hover]
    rw [hstep] at halone
    refine ⟨_, _, halone, fun _ verifying hok => absurd hok (by simp), fun _ => ?_⟩
    refine settlesWithArtifact_of_refused (fun outcome houtcome => ?_) id
    rw [returnedOutcome_returned] at houtcome
    rw [← Option.some.inj houtcome]
  | ok verifying =>
    obtain ⟨_, -, hprocessing, -, hverifying⟩ := recordResult_ok hrec
    have hbefore : ¬ IsApproved s.store args.queryId := by
      rintro ⟨query', hget', hs, -⟩
      rw [hget] at hget'
      rw [← Option.some.inj hget', hprocessing] at hs
      cases hs
    have hstep := step_submitEscrow hget hrec
    have hstatus : verifying.status = .verifying := by rw [hverifying]
    obtain ⟨s', evs, halone, hiff⟩ := settles_iff_of_recorded
      (p := args.submission deps s query verifying) hstep (by simp) ans rfl hescrow rfl hstatus
      hbefore
    refine ⟨s', evs, halone, hiff.trans ⟨fun h verifying' hok => ?_, fun h => h verifying rfl⟩⟩
    rw [← Except.ok.inj hok]
    exact h

/-- A query in work. -/
def atWork (type : EscrowType) (preimages : JsMap String String) : State :=
  .holding (escrowQuery .processing { openEscrow type with providerPubkey := some "pk" })
    (some (OracleRegistry.empty.register ⟨"a"⟩)) preimages

/-- A result is handed in for it. -/
def handIn : EscrowArgs where
  queryId := "q"
  result := { attachments := [] }
  providerPubkey := "pk"
  oracleId := some "a"
  now := .ofInt 1

/-- The Oracle approves. -/
def approving : EscrowAnswers where
  attest _ oracle := oracle.verdict "q" true

/-- The preimage is there. -/
theorem settles_with_artifact_htlc :
    ∃ s' evs, submitEscrowAlone (.wired false true false)
        (atWork (.htlc "h") (JsMap.empty.set "h" "p")) handIn approving = some (s', evs) ∧
      SettlesWithArtifact (atWork (.htlc "h") (JsMap.empty.set "h" "p")) handIn (.htlc "h") s'
        evs := by
  obtain ⟨s', evs, halone, hiff⟩ := settles_with_artifact_iff (.wired false true false)
    (atWork (.htlc "h") (JsMap.empty.set "h" "p")) handIn approving _ _ rfl rfl rfl
  refine ⟨s', evs, halone, hiff.mpr fun _ _ _ => ?_⟩
  exact ⟨rfl, by decide, ⟨"p", rfl, by decide⟩, rfl, rfl⟩

/-- What is left of a call: `ok` and artifacts of its outcome, if it returned, and status and
payment status of the record. -/
structure Settlement where
  outcome : Option (Bool × Option String × Option (List String))
  record : Option (QueryStatus × PaymentStatus)
  deriving DecidableEq

/-- What a call leaves behind. -/
def settlement (deps : ServiceDeps) (s : State) (ans : EscrowAnswers) : Option Settlement :=
  (submitEscrowAlone deps s handIn ans).map fun r =>
    { outcome := (returnedOutcome s.nextCall r.2).map fun o => (o.ok, o.preimage, o.frostSignature)
      record := (r.1.store.get? "q").map fun q => (q.status, q.paymentStatus) }

/-- The store has no preimage, the FROST port rejects, it answers with no signature: each time the
call reports a success without an artifact. When the deletion of the preimage rejects, so does the
call. The query is approved in every case. -/
theorem approved_without_artifact :
    settlement (.wired false true false) (atWork (.htlc "h") .empty) approving
        = some ⟨some (true, none, none), some (.approved, .released)⟩ ∧
      settlement (.wired false false true) (atWork (.p2pkFrost "g") .empty) approving
        = some ⟨some (true, none, none), some (.approved, .released)⟩ ∧
      settlement (.wired false false true) (atWork (.p2pkFrost "g") .empty)
        { approving with signature := some (some []) }
        = some ⟨some (true, none, some []), some (.approved, .released)⟩ ∧
      settlement (.wired false true false) (atWork (.htlc "h") (JsMap.empty.set "h" "p"))
        { approving with deleteRejects := true } = some ⟨none, some (.approved, .released)⟩ := by
  refine ⟨?_, ?_, ?_, ?_⟩ <;> decide

end Anchr.Requests
