import Anchr.Oracle.Service

/-!
# What a step of the Oracle service can do

One description of every turn. Properties of single steps are read off it.
-/

namespace Anchr.Oracle

open Infra Protocol Requests

/-! ## Description -/

inductive Origin where
  | begin (r : Request)
  | resume (p : Pending) (answer : Answer)

section

variable {N : NostrTools} (cfg : Config N)

/-- The query id a request asks a hash for, when none of the maps has one. -/
def missOf (t : Tables) : Request → Option String
  | .generateRequestHash queryId _ =>
    if t.queryHashMap.get? queryId = none then some queryId else none
  | .directMessage event _ _ =>
    match parseHashRequestEvent N cfg.text event cfg.identity.secretKey event.pubkey with
    | none => none
    | some request =>
      if t.issued.get? request.queryId = none ∧ t.queryHashMap.get? request.queryId = none then
        some request.queryId
      else none
  | _ => none

/-- What an event says about its turn, from `t` to `t'`. -/
def Event.Tells (t : Tables) (call : Nat) (o : Origin) (t' : Tables) : Event → Prop
  | .hashIssued c queryId hash =>
    c = call ∧ t'.queryHashMap.get? queryId = some hash ∧ queryId ∈ t'.committed ∧
      ∃ asker, o = .resume (.creating asker queryId hash) .resolved
  | .resultAccepted _ queryId entry _ _ => t.watched.get? queryId = some entry
  | .verified _ query result passed =>
    ∃ p detail d, o = .resume p (.verified detail) ∧ detail.passed = passed ∧
      (p = .verifying d ∨ ∃ groupPubkey, p = .verifyingFrost d groupPubkey) ∧
      d.query = query ∧ d.result = result
  | .preimageRead _ hash preimage => t.preimages.get? hash = preimage
  | _ => True

/-- The description. -/
structure TurnSpec (t : Tables) (call : Nat) (o : Origin) (turn : Turn) : Prop where
  events : ∀ e ∈ turn.events, e.Tells t call o turn.shared
  /-- A preimage is not removed without an event. -/
  deleted : ∀ {hash preimage}, t.preimages.get? hash = some preimage →
    turn.shared.preimages.get? hash = none → Event.preimageDeleted call hash ∈ turn.events
  /-- Commitments are not forgotten, and a new one comes with an event. -/
  kept : ∀ q ∈ t.committed, q ∈ turn.shared.committed
  committed : ∀ q ∈ turn.shared.committed, q ∈ t.committed ∨
    ∃ hash, Event.hashIssued call q hash ∈ turn.events
  /-- An entry is created only for a request that none of the maps answers. -/
  creating : ∀ {asker q hash}, turn.pending = some (.creating asker q hash) →
    ∃ r, o = .begin r ∧ missOf cfg t r = some q

end

/-! ## Every turn -/

section

variable {N : NostrTools} (cfg : Config N)

/-- The checks of `handleResponseEvent`. -/
structure Accepts (entry : WatchedQuery) (event : Protocol.Event)
    (payload : OracleQueryResponsePayload) : Prop where
  selected : entry.selectedProviderPubkey = some event.pubkey
  parsed : parseOracleQueryResponseEvent N cfg.text event cfg.identity.secretKey event.pubkey
    = some payload
  queryId : payload.queryId = entry.query.id
  requestEventId : payload.requestEventId = entry.queryEventId

def deliveryOf (queryId : String) (entry : WatchedQuery) (event : Protocol.Event)
    (payload : OracleQueryResponsePayload) : Delivery where
  caller := .handleResponseEvent
  queryId := queryId
  query := entry.query
  result := oracleResponseToResult cfg.resolveSchemaEvidence entry.query payload
  providerPubkey := event.pubkey

/-- The turn goes on with a delivery, and has reported these events. -/
inductive Opens (t : Tables) (call : Nat) : Origin → Delivery → List Event → Prop
  | result {queryId : String} {event : Protocol.Event} {m : Moment} {entry : WatchedQuery}
      {payload : OracleQueryResponsePayload} (hentry : t.watched.get? queryId = some entry)
      (haccepts : Accepts cfg entry event payload) (hpubkey : event.pubkey ≠ "") :
      Opens t call (.begin (.responseEvent queryId event m))
        (deliveryOf cfg queryId entry event payload)
        [.resultAccepted call queryId entry event payload]
  | direct {r : Request} {queryId : String} {query : Query} {result : QueryResult}
      {providerPubkey : String} {m : Moment}
      (hr : r = .verifyAndDeliver queryId query result providerPubkey m ∨
        r = .verifyAndDeliverWithFrost queryId query result providerPubkey m) :
      Opens t call (.begin r)
        { caller := .verifyAndDeliver, queryId, query, result, providerPubkey } []
  | verified {p : Pending} {d : Delivery} (detail : VerificationDetail)
      (hp : p = .verifying d ∨ ∃ groupPubkey, p = .verifyingFrost d groupPubkey) :
      Opens t call (.resume p (.verified detail)) d
        [.verified call d.query d.result detail.passed]
  | read (d : Delivery) (detail : VerificationDetail) (hash : String) (preimage : Option String) :
      Opens t call (.resume (.reading d detail hash preimage) .resolved) d []
  | signing (d : Delivery) (groupPubkey : String) (rest groupSignatures : List String)
      (signature : Option String) :
      Opens t call (.resume (.signing d groupPubkey rest groupSignatures) (.signed signature)) d []

/-- Every turn of the service; `outcome_begin`, `outcome_resume`. -/
inductive Outcome (t : Tables) (call : Nat) : Origin → Turn → Prop
  /-- What arrives is ignored, or the call ends with an exception. -/
  | silent {o : Origin} : Outcome t call o { shared := t }
  | found {r : Request} {asker : Asker} {queryId hash : String}
      (hhash : t.queryHashMap.get? queryId = some hash) :
      Outcome t call (.begin r) { shared := t, pending := some (.issuing asker queryId hash) }
  | creates {r : Request} {asker : Asker} {queryId : String} (preimage : String)
      (hmiss : missOf cfg t r = some queryId) :
      Outcome t call (.begin r)
        { shared := { t with preimages := t.preimages.set (cfg.sha256 preimage) preimage }
          events := [.preimageCreated call queryId (cfg.sha256 preimage) preimage]
          pending := some (.creating asker queryId (cfg.sha256 preimage)) }
  | created (asker : Asker) (queryId hash : String) :
      Outcome t call (.resume (.creating asker queryId hash) .resolved)
        (created t call asker queryId hash)
  | returned (queryId hash : String) :
      Outcome t call (.resume (.issuing .generateRequestHash queryId hash) .resolved)
        { shared := t, events := [.hashReturned call queryId hash] }
  | repeated {r : Request} {sender queryId hash : String}
      (hissued : t.issued.get? queryId = some hash) (dm : Option Protocol.Event) :
      Outcome t call (.begin r)
        { shared := t, events := dm.toList.map (.hashSent call queryId hash sender) }
  | responded (sender queryId hash : String) (dm : Option Protocol.Event) :
      Outcome t call (.resume (.issuing (.hashRequest sender) queryId hash) .resolved)
        { shared := { t with issued := t.issued.set queryId hash }
          events := dm.toList.map (.hashSent call queryId hash sender) }
  | watches {r : Request} (watched : JsMap String WatchedQuery)
      (offer : Option (String × ParsedOfferFeedback)) :
      Outcome t call (.begin r)
        { shared := { t with watched }
          events := offer.toList.map fun offer => .offered offer.1 offer.2 }
  | throws {o : Origin} {d : Delivery} {events : List Event} (h : Opens cfg t call o d events) :
      Outcome t call o { shared := t, events := events }
  | rejects {o : Origin} {d : Delivery} {events : List Event} (h : Opens cfg t call o d events)
      (reason : String) (dm : Protocol.Event) :
      Outcome t call o
        { shared := t
          events := events ++ [.rejectionPublished call d.queryId d.providerPubkey reason dm]
          pending := some (.rejecting d) }
  | verifies {r : Request} {d : Delivery} {events : List Event}
      (h : Opens cfg t call (.begin r) d events) (hquorum : d.query.quorum = none) :
      Outcome t call (.begin r)
        { shared := t, events := events, pending := some (.verifying d) }
  | verifiesFrost {r : Request} {d : Delivery} {events : List Event}
      (h : Opens cfg t call (.begin r) d events) (groupPubkey : String) :
      Outcome t call (.begin r)
        { shared := t, events := events, pending := some (.verifyingFrost d groupPubkey) }
  | reads {d : Delivery} (detail : VerificationDetail) {hash : String}
      (hhash : t.queryHashMap.get? d.queryId = some hash) :
      Outcome t call (.resume (.verifying d) (.verified detail))
        { shared := t
          events := [.verified call d.query d.result detail.passed,
            .preimageRead call hash (t.preimages.get? hash)]
          pending := some (.reading d detail hash (t.preimages.get? hash)) }
  | attempts {d : Delivery} {detail : VerificationDetail} {hash preimage : String} {m : Moment}
      {dm : Protocol.Event} (hpassed : detail.passed = true)
      (hdm : buildPreimageDM N cfg.text cfg.identity d.providerPubkey d.queryId preimage m
        = some dm) :
      Outcome t call (.resume (.reading d detail hash (some preimage)) .resolved)
        (attempt t call d [] hash preimage dm 1)
  | retries (d : Delivery) (hash preimage : String) (dm : Protocol.Event) (n : Nat) :
      Outcome t call (.resume (.retrying d hash preimage dm n) .resolved)
        (attempt t call d [] hash preimage dm (n + 1))
  | delivered {d : Delivery} {hash preimage : String} {dm : Protocol.Event} {n : Nat}
      {successes : List String} (hne : successes ≠ []) :
      Outcome t call (.resume (.delivering d hash preimage dm n) (.published successes))
        { shared := { t with preimages := t.preimages.delete hash }
          events := [.attemptAnswered call dm successes, .preimageDeleted call hash]
          pending := some (.deleting d hash) }
  /-- No relay has taken the message: it is sent once more, or this is the end. -/
  | undelivered {d : Delivery} {hash preimage : String} {dm : Protocol.Event} {n : Nat}
      (successes : List String) {p : Pending}
      (hp : p = .retrying d hash preimage dm n ∨ ∃ outcome, p = .settling d outcome) :
      Outcome t call (.resume (.delivering d hash preimage dm n) (.published successes))
        { shared := t, events := [.attemptAnswered call dm successes], pending := some p }
  | signs {p : Pending} {answer : Answer} {d : Delivery} {events : List Event}
      (h : Opens cfg t call (.resume p answer) d events) (groupPubkey : String)
      (rest groupSignatures : List String) :
      Outcome t call (.resume p answer)
        { shared := t, events := events
          pending := some (.signing d groupPubkey rest groupSignatures) }
  | signed {o : Origin} {d : Delivery} {events : List Event} (h : Opens cfg t call o d events)
      {groupSignatures : List String} {groupPubkey : String} {m : Moment} {dm : Protocol.Event}
      (hdm : buildFrostSignatureDM N cfg.text cfg.identity d.providerPubkey d.queryId
        groupSignatures groupPubkey m = some dm) :
      Outcome t call o
        { shared := t
          events := events ++
            [.signaturePublished call d.queryId d.providerPubkey groupSignatures dm]
          pending := some (.deliveringFrost d) }
  | deleted (d : Delivery) (hash : String) :
      Outcome t call (.resume (.deleting d hash) .resolved)
        (returning { t with queryHashMap := t.queryHashMap.delete d.queryId } d []
          { passed := true, terminal := true })
  | published {p : Pending} {d : Delivery} (hp : p = .deliveringFrost d ∨ p = .rejecting d)
      (successes : List String) (outcome : DeliveryOutcome) :
      Outcome t call (.resume p (.published successes)) (returning t d [] outcome)
  | settled (d : Delivery) (outcome : DeliveryOutcome) :
      Outcome t call (.resume (.settling d outcome) .resolved) (settle t call d outcome)

variable {cfg} {t : Tables} {call : Nat} {o : Origin} {d : Delivery} {events : List Event}
  {m : Moment} {asker : Asker} {queryId preimage : String}

theorem outcome_reject (h : Opens cfg t call o d events) (reason : String) :
    Outcome cfg t call o (reject cfg t call d events reason m) := by
  unfold reject
  split
  next => exact .throws h
  next dm _ => exact .rejects h reason dm

theorem outcome_signingTurn {p : Pending} {answer : Answer} {groupPubkey : String}
    (h : Opens cfg t call (.resume p answer) d events) (messages groupSignatures : List String) :
    Outcome cfg t call (.resume p answer)
      (signingTurn cfg t call d groupPubkey events messages groupSignatures m) := by
  unfold signingTurn
  split
  next rest => exact .signs h groupPubkey rest groupSignatures
  split
  next => exact .throws h
  next hdm => exact .signed h hdm

theorem outcome_dispatch {r : Request} (h : Opens cfg t call (.begin r) d events) :
    Outcome cfg t call (.begin r) (dispatchVerifyAndDeliver cfg t call d events m) := by
  unfold dispatchVerifyAndDeliver
  split
  next =>
    split
    next groupPubkey _ _ => exact .verifiesFrost h groupPubkey
    next => exact outcome_reject h _
  next hquorum => exact .verifies h (by simpa using hquorum)

theorem outcome_issueHash {r : Request}
    (hmiss : t.queryHashMap.get? queryId = none → missOf cfg t r = some queryId) :
    Outcome cfg t call (.begin r) (issueHash cfg t call asker queryId preimage) := by
  unfold issueHash
  split
  next hash hhash => exact .found hhash
  next hnone => exact .creates preimage (hmiss hnone)

theorem respond_eq (cfg : Config N) (t : Tables) (sender hash : String) :
    ∃ dm : Option Protocol.Event, respond cfg t call sender queryId hash m =
      { shared := t, events := dm.toList.map (.hashSent call queryId hash sender) } := by
  unfold respond
  split
  next => exact ⟨none, rfl⟩
  next dm _ => exact ⟨some dm, rfl⟩

theorem outcome_handleHashRequest {event : Protocol.Event} :
    Outcome cfg t call (.begin (.directMessage event preimage m))
      (handleHashRequest cfg t call event preimage m) := by
  unfold handleHashRequest
  split
  next => exact .silent
  next request hrequest =>
    split
    next hash hissued =>
      obtain ⟨dm, hdm⟩ := respond_eq cfg t event.pubkey hash
      rw [hdm]
      exact .repeated hissued dm
    next hissued =>
      refine outcome_issueHash fun hnone => ?_
      simp [missOf, hrequest, hissued, hnone]

/-- A result event is ignored, or it is of the selected Provider and goes to the dispatcher. -/
theorem handleResponseEvent_cases (t : Tables) (call : Nat) (queryId : String)
    (event : Protocol.Event) (m : Moment) :
    handleResponseEvent cfg t call queryId event m = { shared := t } ∨
    ∃ entry payload, t.watched.get? queryId = some entry ∧ Accepts cfg entry event payload ∧
      event.pubkey ≠ "" ∧
      handleResponseEvent cfg t call queryId event m =
        dispatchVerifyAndDeliver cfg t call (deliveryOf cfg queryId entry event payload)
          [.resultAccepted call queryId entry event payload] m := by
  unfold handleResponseEvent
  split
  next => exact .inl rfl
  next entry hentry =>
    split
    next => exact .inl rfl
    next selected hselected =>
      split
      next => exact .inl rfl
      next hpubkey =>
        obtain ⟨hne, hsame⟩ := not_or.mp hpubkey
        have hevent : event.pubkey = selected := not_not.mp hsame
        split
        next => exact .inl rfl
        next payload hparsed =>
          split
          next => exact .inl rfl
          next hids =>
            obtain ⟨hqueryId, hrequestEventId⟩ := not_or.mp hids
            refine .inr ⟨entry, payload, hentry, ⟨?_, hparsed, not_not.mp hqueryId,
              not_not.mp hrequestEventId⟩, ?_, rfl⟩
            · rw [hselected, hevent]
            · rw [hevent]
              exact hne

theorem outcome_begin (r : Request) : Outcome cfg t call (.begin r) (begin cfg t call r) := by
  cases r with
  | generateRequestHash => exact outcome_issueHash fun hnone => by simp [missOf, hnone]
  | directMessage => exact outcome_handleHashRequest
  | watchRequest => exact .watches _ none
  | recordSelectedProvider =>
    simp only [begin]
    split
    next => exact .silent
    next => exact .watches _ none
  | feedbackEvent queryId =>
    simp only [begin]
    split
    next => exact .silent
    split
    next => exact .silent
    next offer _ => exact .watches _ (some (queryId, offer))
  | responseEvent queryId event m =>
    show Outcome cfg t call _ (handleResponseEvent cfg t call queryId event m)
    rcases handleResponseEvent_cases t call queryId event m with
      hignored | ⟨entry, payload, hentry, haccepts, hpubkey, hdispatched⟩
    · rw [hignored]
      exact .silent
    · rw [hdispatched]
      exact outcome_dispatch (.result hentry haccepts hpubkey)
  | verifyAndDeliver => exact outcome_dispatch (.direct (.inl rfl))
  | verifyAndDeliverWithFrost =>
    simp only [begin]
    split
    next => exact outcome_reject (.direct (.inr rfl)) _
    next groupPubkey _ => exact .verifiesFrost (.direct (.inr rfl)) groupPubkey
  | stop => exact .watches _ none

theorem outcome_deliver {detail : VerificationDetail} {hash : String} {preimage : Option String} :
    Outcome cfg t call (.resume (.reading d detail hash preimage) .resolved)
      (deliver cfg t call d detail [] hash preimage m) := by
  unfold deliver
  split
  next =>
    split
    next hready =>
      split
      next => exact .silent
      next hdm => exact .attempts hready.1 hdm
    next => exact outcome_reject (.read ..) _
  next => exact outcome_reject (.read ..) _

theorem outcome_resume {p : Pending} {b : Answer × Moment} {turn : Turn}
    (h : resume cfg t call p b = some turn) : Outcome cfg t call (.resume p b.1) turn := by
  obtain ⟨answer, m⟩ := b
  dsimp only [resume] at h
  split at h
  next =>
    split at h
    next =>
      cases h
      exact .silent
    next => cases h
  all_goals cases h
  next => exact .created ..
  next asker queryId hash =>
    cases asker with
    | generateRequestHash => exact .returned queryId hash
    | hashRequest sender =>
      obtain ⟨dm, hdm⟩ := respond_eq cfg
        { t with issued := t.issued.set queryId hash } sender hash
      show Outcome cfg t call _ (respond cfg _ call sender queryId hash m)
      rw [hdm]
      exact .responded sender queryId hash dm
  next d detail =>
    unfold verifiedTurn
    dsimp only
    split
    next hhash =>
      split
      next => exact .reads detail hhash
      next => exact outcome_reject (.verified detail (.inl rfl)) _
    next => exact outcome_reject (.verified detail (.inl rfl)) _
  next => exact outcome_deliver
  next successes =>
    unfold attemptAnswered
    dsimp only
    split
    next hne => exact .delivered hne
    split
    next => exact .undelivered successes (.inl rfl)
    next => exact .undelivered successes (.inr ⟨_, rfl⟩)
  next => exact .retries ..
  next => exact .deleted ..
  next d groupPubkey detail =>
    have hopens : Opens cfg t call (.resume (.verifyingFrost d groupPubkey) (.verified detail)) d
        [.verified call d.query d.result detail.passed] := .verified detail (.inr ⟨_, rfl⟩)
    unfold verifiedFrostTurn
    dsimp only
    split
    next => exact outcome_reject hopens _
    split
    next => exact .throws hopens
    next => exact outcome_signingTurn hopens _ _
  next => exact outcome_signingTurn (.signing ..) _ _
  next => exact outcome_reject (.signing ..) _
  next => exact .published (.inl rfl) ..
  next => exact .published (.inr rfl) ..
  next => exact .settled ..

end

/-! ## The description holds -/

section

variable {N : NostrTools} {cfg : Config N} {t : Tables} {call : Nat} {o : Origin}

variable {turn : Turn} {events : List Event} {d : Delivery}

theorem spec_of_kept (hpreimages : turn.shared.preimages = t.preimages)
    (hcommitted : turn.shared.committed = t.committed)
    (hpending : ∀ asker q hash, turn.pending ≠ some (.creating asker q hash))
    (hev : ∀ e ∈ turn.events, e.Tells t call o turn.shared) : TurnSpec cfg t call o turn where
  events := hev
  deleted hsome hnone := by
    rw [hpreimages, hsome] at hnone
    cases hnone
  kept q hq := hcommitted ▸ hq
  committed q hq := .inl (hcommitted ▸ hq)
  creating h := absurd h (hpending _ _ _)

theorem Opens.tells (h : Opens cfg t call o d events) : ∀ e ∈ events, e.Tells t call o t := by
  cases h with
  | result hentry => simpa [Event.Tells] using hentry
  | verified detail hp => simpa using ⟨_, detail, d, rfl, rfl, hp, rfl, rfl⟩
  | _ => simp

theorem tells_append {e : Event} (h : Opens cfg t call o d events) (he : e.Tells t call o t) :
    ∀ e' ∈ events ++ [e], e'.Tells t call o t :=
  List.forall_mem_append.mpr ⟨h.tells, List.forall_mem_singleton.mpr he⟩

theorem Outcome.spec (h : Outcome cfg t call o turn) : TurnSpec cfg t call o turn := by
  cases h with
  | creates preimage hmiss =>
    refine ⟨by simp [Event.Tells], fun {hash p} hsome hgone => ?_, fun q hq => hq,
      fun q hq => .inl hq, fun hpending => ?_⟩
    · -- a new entry takes none away
      dsimp only at hgone
      rw [JsMap.get?_set] at hgone
      split at hgone
      next => cases hgone
      next => cases hsome.symm.trans hgone
    · cases hpending
      exact ⟨_, rfl, hmiss⟩
  | created asker queryId hash =>
    refine ⟨fun e he => ?_, fun hsome hgone => ?_, fun q hq => List.mem_cons_of_mem _ hq,
      fun q hq => ?_, fun h => by cases h⟩
    · obtain rfl := List.mem_singleton.mp he
      exact ⟨rfl, by simp [Oracle.created], by simp [Oracle.created], asker, rfl⟩
    · simp only [Oracle.created, hsome] at hgone
      cases hgone
    · rcases List.mem_cons.mp hq with rfl | hq
      · exact .inr ⟨hash, List.mem_singleton_self _⟩
      · exact .inl hq
  | throws h => exact spec_of_kept rfl rfl (by simp) h.tells
  | rejects h | signed h => exact spec_of_kept rfl rfl (by simp) (tells_append h trivial)
  | verifies h | verifiesFrost h | signs h => exact spec_of_kept rfl rfl (by simp) h.tells
  | reads detail =>
    refine spec_of_kept rfl rfl (by simp) fun e he => ?_
    rcases List.mem_pair.mp he with rfl | rfl
    · exact ⟨_, detail, _, rfl, rfl, .inl rfl, rfl, rfl⟩
    · exact rfl
  | delivered =>
    refine ⟨by simp [Event.Tells], fun {hash' p} hsome hgone => ?_, fun q hq => hq,
      fun q hq => .inl hq, fun h => by cases h⟩
    dsimp only at hgone
    rw [JsMap.get?_delete] at hgone
    split at hgone
    next heq => simp [heq]
    next => cases hsome.symm.trans hgone
  | undelivered successes hp =>
    rcases hp with rfl | ⟨outcome, rfl⟩
    all_goals exact spec_of_kept rfl rfl (by simp) (by simp [Event.Tells])
  | watches watched offer =>
    cases offer
    all_goals exact spec_of_kept rfl rfl (by simp) (by simp [Event.Tells])
  | attempts | retries =>
    exact spec_of_kept rfl rfl (by simp [attempt]) (by simp [attempt, Event.Tells])
  | deleted | published =>
    exact spec_of_kept rfl rfl (by simp [returning]) (by simp [returning])
  | settled =>
    unfold settle
    split <;> exact spec_of_kept rfl rfl (by simp) (by simp [Event.Tells])
  | _ => exact spec_of_kept rfl rfl (by simp) (by simp [Event.Tells])

inductive StartsAt (s : CallState Tables Pending) :
    CallAction Request (Answer × Moment) → Nat → Origin → Prop
  | begin (r : Request) : StartsAt s (.begin r) s.nextCall (.begin r)
  | resume {call : Nat} {p : Pending} {b : Answer × Moment} : s.calls.get? call = some p →
      StartsAt s (.resume call b) call (.resume p b.1)

theorem spec_step {s s' : CallState Tables Pending} {a : CallAction Request (Answer × Moment)}
    {evs : List Event} (h : (oracleService cfg).machine.step s a = some (s', evs)) :
    ∃ call o turn, StartsAt s a call o ∧ TurnSpec cfg s.shared call o turn ∧
      s'.shared = turn.shared ∧ s'.calls = s.calls.place call turn.pending ∧
      evs = turn.events := by
  obtain ⟨call, turn, htakes, hshared, hcalls, hevs⟩ := CallService.takes_of_step h
  cases htakes with
  | begin r => exact ⟨_, _, _, .begin r, (outcome_begin r).spec, hshared, hcalls, hevs⟩
  | resume hp hresume =>
    exact ⟨_, _, _, .resume hp, (outcome_resume hresume).spec, hshared, hcalls, hevs⟩

end

end Anchr.Oracle
