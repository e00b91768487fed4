import Anchr.Requests.Turns

/-!
# What one step of the query service can do

The proofs about runs are by cases on these and do not unfold `step` again.
-/

namespace Anchr.Requests

open Infra

/-! ## What a step does to the store -/

/-- Everything one step can do to the store and to the ids given out. -/
inductive StoreStep (deps : ServiceDeps) (s : State) : Action → QueryStore → List String → Prop
  | keep (a : Action) : StoreStep deps s a s.store s.minted
  | create {input : QueryInput} {options : Option CreateQueryOptions} {now : JsNumber}
      {newQueryId newChallengeNonce : String} {query : Query} (hid : query.id = newQueryId) :
      StoreStep deps s (.createQuery input options now newQueryId newChallengeNonce)
        (s.store.set newQueryId query) (newQueryId :: s.minted)
  /-- A turn that reads the record it writes. -/
  | transition (a : Action) {id : String} {query query' : Query}
      (hget : s.store.get? id = some query) (hlive : isTerminal query.status = false)
      (hid : query'.id = query.id) : StoreStep deps s a (s.store.set id query') s.minted
  /-- A turn that writes what it read in an earlier one. -/
  | resumed {call : Nat} {answer : Answer} {now : JsNumber} {p : Pending} {id : String}
      {query query' : Query} (hcall : s.calls.get? call = some p) (hcommits : p.Commits answer)
      (hsnap : p.snapshot = some (id, query)) (hid : query'.id = query.id) :
      StoreStep deps s (.resume call answer now) (s.store.set id query') s.minted
  | expire (now : JsNumber) :
      StoreStep deps s (.expireQueries now) (doExpireQueries s.store now).1 s.minted
  | purge : StoreStep deps s .purgeExpiredFromStore (doPurgeExpired s.store).1 s.minted
  | clear : StoreStep deps s .clearQueryStore .empty s.minted

variable {deps : ServiceDeps} {s s' : State} {evs : List Event} {call : Nat} {a : Action}

/-! ## First turns -/

def Event.TurnsDown (call : Nat) : Method → Event → Prop
  | .submit, .submitReturned c _ => c = call
  | .escrow, .escrowReturned c outcome =>
    c = call ∧ outcome.preimage = none ∧ outcome.frostSignature = none
  | _, _ => False

/-- The first turn of a call. -/
inductive Begins (deps : ServiceDeps) (s : State) : Action → Method → Turn → Prop
  | refuses {a : Action} {m : Method} {e : Event} (he : e.TurnsDown s.nextCall m) :
      Begins deps s a m { events := [e] }
  | expires {a : Action} {id : String} {query : Query} {outcome : SubmitQueryOutcome}
      (hget : s.store.get? id = some query) (hpending : query.status = .pending) :
      Begins deps s a .submit
        { write := some (id, query.expired), events := [.submitReturned s.nextCall outcome] }
  | submits {a : Action} {p : Submission} (hget : s.store.get? p.id = some p.query)
      (hpending : p.query.status = .pending) :
      Begins deps s a .submit { pending := some (.submitResult p) }
  | selects (queryId pk : String) (token : Option String) :
      Begins deps s (.selectProvider queryId pk token) .select
        (doSelectProvider deps s.store s.nextCall queryId pk token)
  | records {result : QueryResult} {pk : String} {oracleId : Option String} {now : JsNumber}
      {p : EscrowSubmission} (hget : s.store.get? p.queryId = some p.query)
      (hnormal : p.normalizedResult = deps.normalizeResult result)
      (hok : recordResult p.query p.normalizedResult pk p.blossomKeys now = .ok p.verifyingQuery) :
      Begins deps s (.submitEscrowResult p.queryId result pk oracleId p.blossomKeys now) .escrow
        { write := some (p.queryId, p.verifyingQuery)
          events := [.escrowBegan s.nextCall p.query result pk]
          pending := some (.escrowVerify p) }

theorem begins_doSubmitQueryResult {id : String} {result : QueryResult}
    {submissionMeta : SubmissionMeta} {oracleId : Option String}
    {blossomKeys : Option BlossomKeyMap} {now : JsNumber} :
    Begins deps s (.submitQueryResult id result submissionMeta oracleId blossomKeys now) .submit
      (doSubmitQueryResult deps s.store s.registry s.nextCall id result submissionMeta oracleId
        blossomKeys now) := by
  unfold doSubmitQueryResult
  split
  · exact .refuses rfl
  · next query hget =>
    split
    · exact .refuses rfl
    · next hpending =>
      have hpending : query.status = .pending := by simpa using hpending
      split
      · exact .expires hget hpending
      · exact .submits hget hpending

theorem begins_doSubmitEscrowResult {queryId : String} {result : QueryResult} {pk : String}
    {oracleId : Option String} {blossomKeys : Option BlossomKeyMap} {now : JsNumber} :
    Begins deps s (.submitEscrowResult queryId result pk oracleId blossomKeys now) .escrow
      (doSubmitEscrowResult deps s.store s.registry s.nextCall queryId result pk oracleId
        blossomKeys now) := by
  unfold doSubmitEscrowResult
  split
  · exact .refuses ⟨rfl, rfl, rfl⟩
  · next query hget =>
    split
    · exact .refuses ⟨rfl, rfl, rfl⟩
    · dsimp only
      split
      · exact .refuses ⟨rfl, rfl, rfl⟩
      · next verifying hok =>
        exact .records (p := ⟨queryId, query, verifying, _, blossomKeys, _⟩) hget rfl hok

theorem Begins.of {m : Method} {turn : Turn} (h : Begins deps s a m turn) :
    turn.Of s.nextCall m := by
  cases h with
  | @refuses _ m e he =>
    refine ⟨fun e' he' => ?_, fun p hp => by cases hp⟩
    rw [List.mem_singleton.mp he']
    cases m <;> cases e <;> simp_all [Event.TurnsDown, Event.Of]
  | selects => exact of_doSelectProvider
  | _ => simp [Turn.Of, Event.Of, Pending.method]

theorem Begins.liveWrite {m : Method} {turn : Turn} (h : Begins deps s a m turn) :
    LiveWrite s.store turn.write := by
  cases h with
  | refuses | submits => exact liveWrite_none _
  | expires hget hpending => exact liveWrite_some hget (by rw [hpending]; rfl) rfl
  | selects => exact liveWrite_doSelectProvider
  | records hget _ hok =>
    obtain ⟨hlive, hid⟩ := liveTransition_recordResult _ _ _ _ _ _ hok
    exact liveWrite_some hget hlive hid

/-! ## Writes -/

theorem storeStep_of_liveWrite {write : Write} (a : Action) (h : LiveWrite s.store write) :
    StoreStep deps s a (commit s.store write) s.minted := by
  cases write with
  | none => exact .keep a
  | some w =>
    obtain ⟨query, hget, hlive, hid⟩ := h w.1 w.2 rfl
    exact .transition a hget hlive hid

variable {now : JsNumber} {turn : Turn} {p : Pending}

theorem doCreateQuery_id {input : QueryInput} {options : Option CreateQueryOptions}
    {newQueryId newChallengeNonce : String} {query : Query}
    (h : doCreateQuery deps input options now newQueryId newChallengeNonce = .ok query) :
    query.id = newQueryId := by
  unfold doCreateQuery createQueryAggregate at h
  split at h
  · cases h
  · split at h
    · cases h
    · rw [← Except.ok.inj h]

theorem step_resume {answer : Answer} (h : step deps s (.resume call answer now) = some (s', evs)) :
    ∃ p turn, s.calls.get? call = some p ∧ p.resume deps call now answer = some turn ∧
      s' = (s.continue call turn).1 ∧ evs = turn.events := by
  simp only [step] at h
  split at h
  · cases h
  · next p hcall =>
    obtain ⟨turn, hresume, hcont⟩ := Option.map_eq_some_iff.mp h
    obtain ⟨hs', hevs⟩ := Prod.mk.inj hcont
    exact ⟨p, turn, hcall, hresume, hs'.symm, hevs.symm⟩

theorem storeStep_of_step (h : step deps s a = some (s', evs)) :
    StoreStep deps s a s'.store s'.minted := by
  cases a with
  | createQuery input options now newQueryId newChallengeNonce =>
    simp only [step] at h
    split at h
    · cases h
      exact .keep _
    · next query hok =>
      cases h
      have hid := doCreateQuery_id hok
      rw [hid]
      exact .create hid
  | submitQueryResult id result submissionMeta oracleId blossomKeys now =>
    cases h
    exact storeStep_of_liveWrite _ begins_doSubmitQueryResult.liveWrite
  | cancelQuery id =>
    cases h
    refine storeStep_of_liveWrite _ ?_
    apply liveWrite_doCancelQuery
  | expireQueries now =>
    cases h
    exact .expire now
  | purgeExpiredFromStore =>
    cases h
    exact .purge
  | clearQueryStore =>
    cases h
    exact .clear
  | recordOffer queryId offer =>
    cases h
    refine storeStep_of_liveWrite _ (LiveTransition.liveWrite ?_ _ _ _)
    apply liveTransition_addOffer
  | selectProvider queryId pk token =>
    cases h
    exact storeStep_of_liveWrite _ liveWrite_doSelectProvider
  | beginWork queryId =>
    cases h
    exact storeStep_of_liveWrite _ (liveTransition_beginWork.liveWrite _ _ _)
  | recordResult queryId result pk blossomKeys now =>
    cases h
    refine storeStep_of_liveWrite _ (LiveTransition.liveWrite ?_ _ _ _)
    apply liveTransition_recordResult
  | completeVerification queryId passed oracleId =>
    cases h
    refine storeStep_of_liveWrite _ (LiveTransition.liveWrite ?_ _ _ _)
    apply liveTransition_completeVerification
  | submitEscrowResult queryId result pk oracleId blossomKeys now =>
    cases h
    exact storeStep_of_liveWrite _ begins_doSubmitEscrowResult.liveWrite
  | resume call answer now =>
    obtain ⟨p, turn, hcall, hresume, rfl, -⟩ := step_resume h
    show StoreStep deps s _ (commit s.store turn.write) s.minted
    cases hw : turn.write with
    | none => exact .keep _
    | some w =>
      obtain ⟨hcommits, query, hsnap, hid⟩ := resume_write hresume hw
      exact .resumed hcall hcommits hsnap hid
  | serve call =>
    simp only [step] at h
    split at h
    · cases h
    · next p hcall =>
      unfold State.serve at h
      split at h
      · cases h
        exact .keep _
      · cases h
        exact .keep _
      · cases h
  | registerOracle oracle =>
    cases h
    exact .keep _
  | setPreimages preimages =>
    cases h
    exact .keep _

/-! ## The suspended calls after a turn -/

theorem calls_begin (h : (s.begin turn).1.calls.get? call = some p) :
    (call = s.nextCall ∧ turn.pending = some p) ∨ s.calls.get? call = some p := by
  cases hp : turn.pending with
  | none =>
    simp only [State.begin, hp] at h
    exact .inr h
  | some p₀ =>
    simp only [State.begin, hp] at h
    rcases JsMap.get?_of_set h with ⟨hcall, rfl⟩ | hold
    · exact .inl ⟨hcall, rfl⟩
    · exact .inr hold

theorem calls_continue {call' : Nat} (h : (s.continue call turn).1.calls.get? call' = some p) :
    (call' = call ∧ turn.pending = some p) ∨ s.calls.get? call' = some p := by
  cases hp : turn.pending with
  | none =>
    simp only [State.continue, hp] at h
    exact .inr (JsMap.get?_of_delete h)
  | some p₀ =>
    simp only [State.continue, hp] at h
    rcases JsMap.get?_of_set h with ⟨hcall, rfl⟩ | hold
    · exact .inl ⟨hcall, rfl⟩
    · exact .inr hold

/-! ## The shape of a step -/

def Action.Emits : Action → Event → Prop
  | .createQuery _ _ _ newQueryId _, .created query => query.id = newQueryId
  | .purgeExpiredFromStore, .purged _ => True
  | .recordOffer queryId offer, .offerRecorded queryId' offer' =>
    queryId' = queryId ∧ offer' = offer
  | _, _ => False

/-- The preimage store carries out what a call has asked of it. -/
inductive Serves (preimages : JsMap String String) (call : Nat) :
    Pending → Pending → Event → JsMap String String → Prop
  | read (hash : String) (updated : Query) :
      Serves preimages call (.escrowGet hash updated)
        (.escrowGot hash (preimages.get? hash) updated)
        (.preimageRead call hash (preimages.get? hash)) preimages
  | delete (hash preimage : String) (updated : Query) :
      Serves preimages call (.escrowDelete hash preimage updated)
        (.escrowDeleted hash preimage updated) (.preimageDeleted call hash) (preimages.delete hash)

theorem Serves.of {preimages preimages' : JsMap String String} {p p' : Pending} {e : Event}
    (h : Serves preimages call p p' e preimages') : e.Of call .serve := by
  cases h <;> exact ⟨rfl, rfl⟩

/-- A step is a synchronous method, one of these, or a later turn of a call; `stepShape_of_step`. -/
inductive StepShape (deps : ServiceDeps) (s : State) : Action → State → List Event → Prop
  | sync {a : Action} {s' : State} {evs : List Event} (hcalls : s'.calls = s.calls)
      (hnext : s'.nextCall = s.nextCall)
      (hpre : s'.preimages = s.preimages ∨ ∃ preimages, a = .setPreimages preimages)
      (hevs : ∀ e ∈ evs, a.Emits e) : StepShape deps s a s' evs
  | begin {a : Action} {m : Method} {turn : Turn} (h : Begins deps s a m turn) :
      StepShape deps s a (s.begin turn).1 turn.events
  | resume {call : Nat} {answer : Answer} {now : JsNumber} {p : Pending} {turn : Turn}
      (hcall : s.calls.get? call = some p) (hresume : p.resume deps call now answer = some turn) :
      StepShape deps s (.resume call answer now) (s.continue call turn).1 turn.events
  | serve {call : Nat} {p p' : Pending} {e : Event} {preimages : JsMap String String}
      (hcall : s.calls.get? call = some p) (h : Serves s.preimages call p p' e preimages) :
      StepShape deps s (.serve call) { s with preimages, calls := s.calls.set call p' } [e]

theorem stepShape_of_step (h : step deps s a = some (s', evs)) : StepShape deps s a s' evs := by
  cases a with
  | createQuery input options now newQueryId newChallengeNonce =>
    simp only [step] at h
    split at h
    · cases h
      exact .sync rfl rfl (Or.inl rfl) (by simp)
    · next query hok =>
      cases h
      exact .sync rfl rfl (Or.inl rfl) (by simpa [Action.Emits] using doCreateQuery_id hok)
  | submitQueryResult id result submissionMeta oracleId blossomKeys now =>
    cases h
    exact .begin begins_doSubmitQueryResult
  | purgeExpiredFromStore =>
    cases h
    exact .sync rfl rfl (Or.inl rfl) (by simp [Action.Emits])
  | recordOffer queryId offer =>
    cases h
    refine .sync rfl rfl (.inl rfl) ?_
    intro e he
    by_cases hok : (doRecordOffer s.store queryId offer).2.ok = true
    · rw [if_pos hok] at he
      rw [List.mem_singleton.mp he]
      exact ⟨rfl, rfl⟩
    · rw [if_neg hok] at he
      cases he
  | selectProvider queryId pk token =>
    cases h
    exact .begin (.selects queryId pk token)
  | submitEscrowResult queryId result pk oracleId blossomKeys now =>
    cases h
    exact .begin begins_doSubmitEscrowResult
  | resume call answer now =>
    obtain ⟨p, turn, hcall, hresume, rfl, rfl⟩ := step_resume h
    exact .resume hcall hresume
  | serve call =>
    simp only [step] at h
    split at h
    · cases h
    · next p hcall =>
      unfold State.serve at h
      split at h
      · cases h
        exact .serve hcall (.read ..)
      · cases h
        exact .serve hcall (.delete ..)
      · cases h
  | setPreimages preimages =>
    cases h
    exact .sync rfl rfl (Or.inr ⟨preimages, rfl⟩) (by simp)
  | _ =>
    cases h
    exact .sync rfl rfl (Or.inl rfl) (by simp)

theorem StepShape.emits (h : StepShape deps s a s' evs) {e : Event} (he : e ∈ evs)
    (hof : ∀ call m, ¬ e.Of call m) :
    a.Emits e := by
  cases h with
  | sync _ _ _ hevs => exact hevs e he
  | begin hbegins => exact absurd (hbegins.of.1 e he) (hof _ _)
  | resume _ hresume => exact absurd ((of_resume hresume).1 e he) (hof _ _)
  | serve _ hserves =>
    rw [List.mem_singleton.mp he] at hof
    exact absurd hserves.of (hof _ _)

/-- Either no call takes part in a step, or one: a new one, or one that was suspended. -/
inductive Takes (s : State) (a : Action) (s' : State) (evs : List Event) : Prop
  | none (hcalls : s'.calls = s.calls) (hnext : s'.nextCall = s.nextCall)
      (hevs : ∀ e ∈ evs, a.Emits e)
  | one {call : Nat} {m : Method} (hevs : ∀ e ∈ evs, e.Of call m)
      (hcall : call = s.nextCall ∧ s'.nextCall = s.nextCall + 1 ∨
        (∃ p, s.calls.get? call = some p) ∧ s'.nextCall = s.nextCall)
      (hcalls : ∀ c p, s'.calls.get? c = some p → c = call ∨ s.calls.get? c = some p)

theorem StepShape.takes (h : StepShape deps s a s' evs) : Takes s a s' evs := by
  cases h with
  | sync hcalls hnext _ hevs => exact .none hcalls hnext hevs
  | begin hbegins =>
    refine .one hbegins.of.1 (.inl ⟨rfl, rfl⟩) fun c p hp => ?_
    exact (calls_begin hp).imp_left And.left
  | resume hcall hresume =>
    refine .one (of_resume hresume).1 (.inr ⟨⟨_, hcall⟩, rfl⟩) fun c p hp => ?_
    exact (calls_continue hp).imp_left And.left
  | serve hcall hserves =>
    refine .one (List.forall_mem_singleton.mpr hserves.of) (.inr ⟨⟨_, hcall⟩, rfl⟩) fun c p hp => ?_
    exact (JsMap.get?_of_set hp).imp_left And.left

end Anchr.Requests
