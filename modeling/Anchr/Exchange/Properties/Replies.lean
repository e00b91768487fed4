import Anchr.Customer.Properties.RelayView
import Anchr.Customer.Properties.SelectionTaken
import Anchr.Exchange.Lawful

/-!
# Replies and the waits for them

Each party publishes, writes its state if a store is given, and only then subscribes to the reply.
Whoever reacts to a publication reacts after its publisher has gone on, so the subscription is open
unless the publisher is still writing its state.
-/

namespace Anchr.Exchange

open Infra Protocol

variable {N : NostrTools} {cfg : Parties N}

/-! ## Replies -/

section

def Pending.awaitsOffers : Pending cfg → Option (Customer.Published N cfg.customer)
  | .customer (.publishingRequest r) | .customer (.writingRequest r)
  | .customer (.collectingOffers r _) => some r
  | _ => none

def Pending.awaitsSelection : Pending cfg → Option (Provider.Offered cfg.provider)
  | .provider (.publishingOffer job) | .provider (.writingOffer job)
  | .provider (.awaitingSelection job) => some job
  | _ => none

def Pending.awaitsResult : Pending cfg → Option (Customer.Sent N cfg.customer)
  | .customer (.publishingSelection r) | .customer (.writingSelection r)
  | .customer (.awaitingResult r) => some r
  | _ => none

def Pending.awaitsRelease : Pending cfg → Option (Provider.Answered cfg.provider)
  | .provider (.publishingResult job) | .provider (.writingResult job)
  | .provider (.awaitingPreimage job) => some job
  | _ => none

/-- What a Customer has chosen when it is about to publish the selection. -/
def chosenAt : Customer.Pending N cfg.customer → Option (Customer.Chosen N cfg.customer)
  | .binding r => some r
  | .reportingChange r => some r.toChosen
  | _ => none

/-- A call at `q` publishes `e`, which is the reply that a call at `p` waits for, or will wait for
once its own publication and its state are written. -/
inductive Replies : Pending cfg → PartyEvent → Pending cfg → Prop
  | offer {job : Provider.Job cfg.provider} {p : Pending cfg}
      {r : Customer.Published N cfg.customer} {call : Nat} {amountSats : JsNumber}
      {event : Protocol.Event} (waits : p.awaitsOffers = some r)
      (request : job.event = r.requestEvent) :
      Replies (.provider (.handling job)) (.provider (.offerPublished call amountSats event)) p
  | selection {q : Customer.Pending N cfg.customer} {r : Customer.Chosen N cfg.customer}
      {p : Pending cfg} {job : Provider.Offered cfg.provider} {call : Nat}
      {event : Protocol.Event} (chosen : chosenAt q = some r) (numbers : r.Numbers)
      (waits : p.awaitsSelection = some job) (request : job.event = r.requestEvent) :
      Replies (.customer q) (.customer (.selectionPublished call event)) p
  | result {job : Provider.Locked cfg.provider} {p : Pending cfg}
      {r : Customer.Sent N cfg.customer} {call : Nat} {event : Protocol.Event}
      (waits : p.awaitsResult = some r) (request : job.event = r.requestEvent)
      (selection : job.selectionEvent = r.selectionEvent) :
      Replies (.provider (.producing job)) (.provider (.resultPublished call event)) p
  | preimage {q : Oracle.Pending} {p : Pending cfg} {job : Provider.Answered cfg.provider}
      {call : Nat} {queryId hash preimage : String} {event : Protocol.Event}
      (waits : p.awaitsRelease = some job)
      (oracle : job.payload.oraclePubkey = cfg.oracle.identity.publicKey) :
      Replies (.oracle q) (.oracle (.preimagePublished call queryId
        cfg.provider.identity.publicKey hash preimage event)) p
  | signature {q : Oracle.Pending} {p : Pending cfg} {job : Provider.Answered cfg.provider}
      {call : Nat} {queryId : String} {signatures : List String} {event : Protocol.Event}
      (waits : p.awaitsRelease = some job)
      (oracle : job.payload.oraclePubkey = cfg.oracle.identity.publicKey) :
      Replies (.oracle q) (.oracle (.signaturePublished call queryId
        cfg.provider.identity.publicKey signatures event)) p

/-- A call at `p` awaits its publication, writes its state, or has its wait open. -/
def Pending.GoesTo (p : Pending cfg) (filter : Filter) : Prop :=
  p.sends = true ∨ (p.writes = true ∧ p.wait = none) ∨ (p.writes = false ∧ p.wait = some filter)

variable {p : Pending cfg} {event : Protocol.Event} {call k : Nat} {requestEventId : String}
  {identity : Keypair N} {T : NumberText} {m : Moment}

theorem goesTo_of_awaitsOffers {r : Customer.Published N cfg.customer}
    (h : p.awaitsOffers = some r) : p.GoesTo (offersFilter r.requestEvent.id) := by
  unfold Pending.awaitsOffers at h
  split at h <;> cases h
  · exact .inl rfl
  · exact .inr (.inl ⟨rfl, rfl⟩)
  · exact .inr (.inr ⟨rfl, rfl⟩)

theorem goesTo_of_awaitsSelection {job : Provider.Offered cfg.provider}
    (h : p.awaitsSelection = some job) :
    p.GoesTo (selectionFilter job.event.id job.payload.customerPubkey) := by
  unfold Pending.awaitsSelection at h
  split at h <;> cases h
  · exact .inl rfl
  · exact .inr (.inl ⟨rfl, rfl⟩)
  · exact .inr (.inr ⟨rfl, rfl⟩)

variable {r : Customer.Sent N cfg.customer} {q : Pending cfg} {e : PartyEvent}
  {b : Provider.Answer × Provider.Draws} {pcfg : Provider.JobContext N} {turn : Provider.Turn pcfg}
  {amountSats : JsNumber} {t : Provider.Tables} {customerPubkey providerPubkey : String}

theorem goesTo_of_awaitsResult (h : p.awaitsResult = some r) :
    p.GoesTo (resultFilter r.requestEvent.id r.selected.providerPubkey) := by
  unfold Pending.awaitsResult at h
  split at h <;> cases h
  · exact .inl rfl
  · exact .inr (.inl ⟨rfl, rfl⟩)
  · exact .inr (.inr ⟨rfl, rfl⟩)

theorem goesTo_of_awaitsRelease {job : Provider.Answered cfg.provider}
    (h : p.awaitsRelease = some job) :
    p.GoesTo (releaseFilter job.payload.oraclePubkey cfg.provider.identity.publicKey) := by
  unfold Pending.awaitsRelease at h
  split at h <;> cases h
  · exact .inl rfl
  · exact .inr (.inl ⟨rfl, rfl⟩)
  · exact .inr (.inr ⟨rfl, rfl⟩)

theorem Replies.ne (h : Replies q e p) : p ≠ q := by
  rintro rfl
  cases h with
  | offer waits | result waits => cases waits
  | selection _ _ waits => cases waits
  | preimage waits | signature waits => cases waits

/-! ## What a reply looks like -/

theorem offer_of_resume {job : Provider.Job pcfg}
    (h : Provider.resume pcfg t k (.handling job) b = some turn)
    (hmem : .offerPublished call amountSats event ∈ turn.events) :
    ∃ m, event = buildOfferFeedbackEvent N pcfg.text pcfg.identity job.event.id
      job.payload.customerPubkey pcfg.identity.publicKey amountSats m := by
  obtain ⟨answer, draws⟩ := b
  cases answer with
  | threw =>
    cases h
    cases hmem
  | offered offer =>
    cases h
    unfold Provider.handlerReturned at hmem
    split at hmem
    next => cases hmem
    split at hmem
    next => cases hmem
    split at hmem
    next =>
      cases List.mem_singleton.mp hmem
      exact ⟨_, rfl⟩
    next => cases hmem
  | _ => cases h

theorem result_of_resume {job : Provider.Locked pcfg}
    (h : Provider.resume pcfg t k (.producing job) b = some turn)
    (hmem : .resultPublished call event ∈ turn.events) :
    ∃ data proof m nonce, buildQueryResponseEvent N pcfg.text pcfg.identity job.event.id
      job.payload.customerPubkey job.payload.schema data proof (some job.payload.oraclePubkey)
      (some job.payload.queryId) m nonce = some event := by
  obtain ⟨answer, draws⟩ := b
  cases answer with
  | threw =>
    cases h
    cases hmem
  | produced data proof =>
    cases h
    unfold Provider.produceReturned at hmem
    split at hmem
    next => simp [Provider.ended] at hmem
    next responseEvent hbuilt =>
      obtain ⟨-, rfl⟩ : call = k ∧ event = responseEvent := by simpa using hmem
      exact ⟨data, proof, _, _, hbuilt⟩
  | _ => cases h

section

variable {ccfg : Customer.CustomerContext} {t : Customer.Tables} {k call : Nat}
  {event : Protocol.Event}

theorem selection_of_sendSelection {r : Customer.Bound N ccfg} {events : List Customer.Event}
    {draws : Customer.Draws} (hevents : .selectionPublished call event ∉ events)
    (hmem : .selectionPublished call event ∈ (Customer.sendSelection t k events r draws).events) :
    ∃ m, buildSelectionFeedbackEvent N ccfg.text r.identity r.requestEvent.id
      (r.toChosen.selection r.lock) m = some event := by
  unfold Customer.sendSelection at hmem
  split at hmem
  next =>
    rw [Customer.lockFailed_eq] at hmem
    rcases List.mem_append.mp hmem with hmem | hmem
    · exact absurd hmem hevents
    · cases List.mem_singleton.mp hmem
  next selectionEvent hbuilt =>
    rcases List.mem_append.mp hmem with hmem | hmem
    · exact absurd hmem hevents
    · cases List.mem_singleton.mp hmem
      exact ⟨_, hbuilt⟩

theorem selection_of_resume {q : Customer.Pending N cfg.customer}
    {r : Customer.Chosen N cfg.customer} (hq : chosenAt q = some r)
    {b : Customer.Answer × Customer.Draws} {turn : Customer.Turn N cfg.customer}
    (h : Customer.resume N cfg.customer t k q b = some turn)
    (hmem : .selectionPublished call event ∈ turn.events) :
    ∃ lock m, buildSelectionFeedbackEvent N cfg.customer.text r.identity r.requestEvent.id
      (r.selection lock) m = some event := by
  obtain ⟨answer, draws⟩ := b
  unfold chosenAt at hq
  split at hq <;> cases hq
  next =>
    cases answer with
    | threw value =>
      cases h
      cases List.mem_singleton.mp hmem
    | bound lock =>
      cases h
      unfold Customer.lockBound at hmem
      dsimp only at hmem
      split at hmem
      next hamount =>
        split at hmem
        next =>
          obtain ⟨m, hbuilt⟩ := selection_of_sendSelection (by simp) hmem
          exact ⟨lock, m, hbuilt⟩
        split at hmem <;> simp at hmem
      rw [Customer.lockFailed_eq] at hmem
      simp [Customer.rejected] at hmem
    | _ => cases h
  next bound =>
    rcases Customer.resume_reportingChange h with ⟨reason, rfl⟩ | rfl
    · cases List.mem_singleton.mp hmem
    · obtain ⟨m, hbuilt⟩ := selection_of_sendSelection (by simp) hmem
      exact ⟨bound.lock, m, hbuilt⟩

end

/-! ## Filters take the replies -/

theorem matches_offer :
    matchesFilter (offersFilter requestEventId) (buildOfferFeedbackEvent N T identity requestEventId
      customerPubkey providerPubkey amountSats m) = true := by
  simp [matchesFilter, offersFilter, buildOfferFeedbackEvent, signEvent, kindQueryFeedback]

theorem matches_selection {payload : SelectionContent}
    (h : buildSelectionFeedbackEvent N T identity requestEventId payload m = some event) :
    matchesFilter (selectionFilter requestEventId identity.publicKey) event = true := by
  obtain ⟨plaintext, -, hevent⟩ := Option.bind_eq_some_iff.mp h
  obtain ⟨ciphertext, -, rfl⟩ := Option.map_eq_some_iff.mp hevent
  simp [matchesFilter, selectionFilter, signEvent, kindQueryFeedback, identity.derived]

theorem matches_result {schema nonce : String} {data : Option Json} {proof : ProofEvidence}
    {oraclePubkey queryId : Option String}
    (h : buildQueryResponseEvent N T identity requestEventId customerPubkey schema data proof
      oraclePubkey queryId m nonce = some event) :
    matchesFilter (resultFilter requestEventId identity.publicKey) event = true := by
  obtain ⟨ciphertext, -, hevent⟩ := Option.bind_eq_some_iff.mp h
  obtain ⟨tags, -, hevent⟩ := Option.bind_eq_some_iff.mp hevent
  cases hevent
  simp [matchesFilter, resultFilter, signEvent, kindQueryResponse, identity.derived]

theorem matches_release {oracle : Keypair N} {dm : Protocol.Event}
    (h : Oracle.Envelope oracle providerPubkey dm) :
    matchesFilter (releaseFilter oracle.publicKey providerPubkey) dm = true := by
  simp [matchesFilter, releaseFilter, h.kind, h.pubkey, h.tags, kindDirectMessage]

theorem providerPubkey_of_selection {job : Provider.Selected cfg.provider}
    (h : job.selectionEvent = r.selectionEvent) :
    r.selected.providerPubkey = cfg.provider.identity.publicKey := by
  obtain ⟨m, hbuilt⟩ := r.selects
  have htag := findTagValue_selection hbuilt
  have hmatched := job.matched
  rw [Provider.matchSelection] at hmatched
  split at hmatched
  next => cases hmatched
  next hself =>
    rw [not_not, h, htag] at hself
    exact Option.some.inj hself

/-- The filter of the wait takes it. -/
theorem Replies.matches (h : Replies q e p) (hq : q.Addressed) {t : Tables} {b : Answer}
    {turn : CallTurn Tables (Pending cfg) Event} (hturn : resume cfg t k q b = some turn)
    (hmem : (call, e) ∈ turn.events) (hevent : e.published = some event) :
    ∃ filter, p.GoesTo filter ∧ matchesFilter filter event = true := by
  have hown : ∀ {τ' π' ε' : Type} {turn : CallTurn τ' π' ε'} {f : ε' → PartyEvent}
      {shared : τ' → Tables} {pending : π' → Pending cfg},
      (call, e) ∈ (turn.embed shared pending fun e => (k, f e)).events →
        ∃ e' ∈ turn.events, f e' = e := by
    intro τ' π' ε' turn f shared pending hmem
    obtain ⟨e', he', heq⟩ := List.mem_map.mp hmem
    exact ⟨e', he', (Prod.mk.inj heq).2⟩
  -- the turn is one of the party at `q`, and the event one of its events
  cases h <;> cases b <;> try cases hturn
  all_goals
    obtain ⟨turn, hresume, rfl⟩ := Option.map_eq_some_iff.mp hturn
    obtain ⟨e', he', heq⟩ := hown hmem
    cases heq
    cases hevent
  next request waits _ =>
    obtain ⟨m, rfl⟩ := offer_of_resume hresume he'
    refine ⟨_, goesTo_of_awaitsOffers waits, ?_⟩
    rw [← request]
    exact matches_offer
  next chosen numbers request waits _ =>
    obtain ⟨lock, m, hbuilt⟩ := selection_of_resume chosen hresume he'
    refine ⟨_, goesTo_of_awaitsSelection waits, ?_⟩
    rw [request, Customer.payload_of_job cfg.text numbers request]
    exact matches_selection hbuilt
  next request selection waits _ =>
    obtain ⟨data, proof, m, nonce, hbuilt⟩ := result_of_resume hresume he'
    refine ⟨_, goesTo_of_awaitsResult waits, ?_⟩
    rw [← request, providerPubkey_of_selection selection]
    exact matches_result hbuilt
  all_goals
    next oracle waits _ =>
      refine ⟨_, goesTo_of_awaitsRelease waits, ?_⟩
      rw [oracle]
      exact matches_release ((Oracle.addressed_resume hq hresume).events _ he')

/-! ## Replies are not missed -/

variable {G : State cfg → LoopAction Start Answer Filter Listener Draws → Prop}

/-- Call `k` was handed the last publication of `c`, number `n`, and publishes a reply to it as
number `i`. The reply has got to `c` once the queue is empty, unless `c` was writing its state. -/
theorem reply_heard_iff {t : Tables} {tr : List Event} {s s' : State cfg}
    (hrun : Run (loop cfg).machine G (initialState cfg t) tr s)
    {action : LoopAction Start Answer Filter Listener Draws} {evs : List Event}
    (hstep : (loop cfg).machine.step s action = some (s', evs))
    {k c n i : Nat} {p q : Pending cfg} {e : PartyEvent} {event : Protocol.Event}
    (hq : s.calls.calls.get? k = some q) (hp : s.calls.calls.get? c = some p)
    (hreply : Replies q e p) (hheard : (k, n) ∈ s.heard)
    (hlast : EventLoop.IsLast s.log c n) (hopen : s.due.get? c = none ∨ p.wait = none)
    (hmem : (k, e) ∈ evs) (hevent : e.published = some event)
    (hi : s.log.length ≤ i) (hget : s'.log[i]? = some (k, event))
    {tr' : List Event} {s'' : State cfg} (hrun' : Run (loop cfg).machine G s' tr' s'')
    (hdrained : s''.queue = []) : (c, i) ∈ s''.heard ↔ p.writes = false := by
  have hcoherent : (loop cfg).Coherent s := EventLoop.coherent_of_run (lawful cfg) hrun
  have hne : c ≠ k := by
    rintro rfl
    exact hreply.ne (Option.some.inj (hp.symm.trans hq))
  obtain ⟨x, m, rest, b, turn, rfl, hqueue, hturn, rfl, hs'⟩ :=
    hcoherent.proceeds (lawful cfg) hstep hmem hq
  obtain ⟨filter, hgoes, hmatches⟩ := hreply.matches ((places_addressed cfg).of_run hrun k q hq)
    hturn hmem hevent
  obtain ⟨hsent, hhears, hmisses⟩ := hcoherent.reply (G := G) hqueue hheard hlast hne hp hs' hi hget
  rcases hgoes with hsends | ⟨hwrites, hwait⟩ | ⟨hwrites, hwait⟩
  · cases hsends.symm.trans hsent
  · rw [hwrites]
    exact iff_of_false (hmisses hwait hrun') (by decide)
  · rw [hwrites]
    have hdue : s.due.get? c = none := hopen.resolve_right fun hnone => by
      cases hwait.symm.trans hnone
    exact iff_of_true (hhears filter hwait hdue hmatches hrun' hdrained) rfl

end

/-! ## An offer that arrives during the write of the state -/

variable {t : Tables} {call : Nat} {event : Protocol.Event}
  {turn : CallTurn Tables (Pending cfg) Event} {x : Draws}

theorem begin_request {a : Customer.RequestOptions × Customer.Draws}
    {turn : Customer.Turn N cfg.customer} (h : Customer.request t.customer call a = turn) :
    begin cfg t call (.request a) =
      turn.embed (fun customer => { t with customer }) .customer fun e => (call, .customer e) := by
  subst h
  rfl

theorem begin_job {turn : Provider.Turn cfg.provider}
    (h : Provider.handleJob cfg.provider t.provider call event = turn) :
    begin cfg t call (.job event) =
      turn.embed (fun provider => { t with provider }) .provider fun e => (call, .provider e) := by
  subst h
  rfl

variable {s : State cfg}

theorem step_begin {a : Start} (h : begin cfg s.calls.shared s.calls.nextCall a = turn) :
    (loop cfg).machine.step s (.begin a x) =
      some ((loop cfg).take
        { s with calls := { s.calls with nextCall := s.calls.nextCall + 1 } } s.calls.nextCall turn x,
        turn.events) := by
  subst h
  rfl

theorem step_spawn {sub : Subscription Filter Listener} {listener : Listener} {n : Nat}
    {rest : List (Task Protocol.Event Filter Listener)}
    (hqueue : s.queue = .deliver sub n event :: rest) (hsub : sub.handler = .standing listener)
    (h : begin cfg s.calls.shared s.calls.nextCall (listener.spawn event x) = turn) :
    (loop cfg).machine.step s (.run x) =
      some ((loop cfg).take
        { s with
          queue := rest
          heard := s.heard ++ [(s.calls.nextCall, n)]
          calls := { s.calls with nextCall := s.calls.nextCall + 1 } } s.calls.nextCall turn x,
        turn.events) := by
  subst h
  simp only [EventLoop.machine, EventLoop.step, hqueue, EventLoop.runTask, hsub]
  rfl

theorem step_queue {s' : State cfg} {action : LoopAction Start Answer Filter Listener Draws}
    {evs : List Event} (h : (loop cfg).machine.step s action = some (s', evs))
    {queue : List (Task Protocol.Event Filter Listener)} (hqueue : s'.queue = queue) :
    (loop cfg).machine.step s action = some ({ s' with queue }, evs) := by
  subst hqueue
  exact h

def plainCustomer (stateStore : Bool) : Customer.CustomerContext :=
  { Customer.plainContext with stateStore }

theorem serve_plainCustomer (stateStore : Bool) :
    Customer.plainHelpers.Serve (plainCustomer stateStore) (Customer.plainOptions .undefined) :=
  { Customer.serve_plainOptions .undefined with }

/-- The plain parties, which know each other. -/
def plainParties (stateStore : Bool) : Parties Oracle.plainNostr where
  customer := plainCustomer stateStore
  provider := Customer.plainJobContext
  oracle := Oracle.plainConfig
  text := rfl

def plainTables : Tables where
  oracle := { preimages := .empty }

def plainDraws : Draws where
  customer := Customer.plainDraws
  provider :=
    { m := Customer.plainDraws.m
      oracleNonce := "nonce"
      ephemeralKey := "ephemeral"
      clockNow := .ofInt 1000000 }
  oracle := Customer.plainDraws.m
  preimage := "s"

section

variable (stateStore : Bool)

def plainRequest : Customer.Published Oracle.plainNostr (plainParties stateStore).customer :=
  (serve_plainCustomer stateStore).published

theorem parse_plainRequest :
    parseQueryRequestEvent .safeIntegers (plainRequest stateStore).requestEvent =
      some ((plainRequest stateStore).payload (.ofInt 1000000)) := by
  have hmax : IsDouble .safeIntegers (.ofInt 100) := ⟨rfl, by decide⟩
  have hexpires : IsDouble .safeIntegers
      ((plainRequest stateStore).payload (.ofInt 1000000)).expiresAt := by
    show IsDouble _ (((Customer.plainContext.wholeSeconds (Customer.plainContext.add
      (.ofInt 1000000) Customer.plainContext.offerWindowMs)).scale 1000).rounded
        Customer.plainContext.round)
    rw [Customer.expiresAt_plain]
    exact ⟨rfl, by decide⟩
  exact (readAs_request safeIntegers_zero hmax hexpires).payload

def plainJob : Provider.Job (plainParties stateStore).provider where
  event := (plainRequest stateStore).requestEvent
  payload := (plainRequest stateStore).payload (.ofInt 1000000)
  parsed := parse_plainRequest stateStore
  whitelisted := rfl

/-- The offer of the Provider. -/
def plainOffer : Protocol.Event :=
  buildOfferFeedbackEvent Oracle.plainNostr .safeIntegers (Oracle.plainKeypair "pk")
    (plainRequest stateStore).requestEvent.id (plainRequest stateStore).identity.publicKey "pk"
    (.ofInt 21) Customer.plainDraws.m

def plainOffered : Provider.Offered (plainParties stateStore).provider :=
  { plainJob stateStore with
    amountSats := .ofInt 21
    offerEvent := plainOffer stateStore
    withinBudget := Customer.withinBudget_plain
    built := ⟨Customer.plainDraws.m, rfl⟩ }

/-! ### On its way -/

def serving : Subscription Filter Listener where
  id := 0
  filter := { kinds := some [5300] }
  handler := .standing .serve

def collecting : Subscription Filter Listener where
  id := 1
  filter := offersFilter (plainRequest stateStore).requestEvent.id
  handler := .wait 0

def plainSent : State (plainParties stateStore) where
  calls :=
    { shared := plainTables
      calls := JsMap.empty.set 0 (.customer (.publishingRequest (plainRequest stateStore)))
      nextCall := 1 }
  subs := [serving]
  nextSub := 1
  due := JsMap.empty.set 0
    (.customer (.published ["mock://in-memory-relay"] [], Customer.plainDraws))
  queue := [.deliver serving 0 (plainRequest stateStore).requestEvent, .proceed 0 (some 0)]
  log := [(0, (plainRequest stateStore).requestEvent)]

theorem run_plainSent : ∃ tr, Run (loop (plainParties stateStore)).machine AnyStep
    (initialState (plainParties stateStore) plainTables) tr (plainSent stateStore) := by
  have hlisten : (loop (plainParties stateStore)).machine.step (initialState _ plainTables)
      (.listen serving.filter .serve) = some _ := rfl
  have hrun := Run.start.next (G := AnyStep) trivial hlisten
  have hrequested := hrun.next trivial (step_begin (x := plainDraws)
    (begin_request (Customer.request_of_serve (serve_plainCustomer stateStore))))
  exact ⟨_, Run.of_exec [.settle 0 (.customer (.hash "hash", Customer.plainDraws)), .enqueue 0,
    .run plainDraws] hrequested (Machine.admits_anyStep _ _ _) rfl⟩

/-- Where the Customer is when the offer is published. -/
def plainWaiting : Customer.Pending Oracle.plainNostr (plainParties stateStore).customer :=
  if stateStore then .writingRequest (plainRequest stateStore)
  else .collectingOffers (plainRequest stateStore) ([], 0)

/-- What the Customer's turn after its publication leaves in its store. -/
def plainStored : Tables :=
  { plainTables with
    customer := (Customer.requestSent {} 0 (plainRequest stateStore) ["mock://in-memory-relay"] []
      Customer.plainDraws).shared }

/-- The Provider has the request, and the Customer writes its state or collects offers. -/
def plainOffering : State (plainParties stateStore) where
  calls :=
    { shared := plainStored stateStore
      calls := (JsMap.empty.set 1 (.provider (.handling (plainJob stateStore)))).set 0
        (.customer (plainWaiting stateStore))
      nextCall := 2 }
  subs := if stateStore then [serving] else [serving, collecting stateStore]
  nextSub := if stateStore then 1 else 2
  due := JsMap.empty.set 1
    (.provider (.offered (some ⟨some (.ofInt 21)⟩), plainDraws.provider))
  queue := [.proceed 1 none]
  log := [(0, (plainRequest stateStore).requestEvent)]
  heard := [(1, 0)]

theorem run_plainOffering : ∃ tr, Run (loop (plainParties stateStore)).machine AnyStep
    (initialState (plainParties stateStore) plainTables) tr (plainOffering stateStore) := by
  obtain ⟨tr, hsent⟩ := run_plainSent stateStore
  obtain ⟨request, hjob⟩ := Provider.handleJob_of_job (plainJob stateStore) rfl rfl {} 1
  have hbegin : begin (plainParties stateStore) plainTables 1
      (.job (plainRequest stateStore).requestEvent) = _ := begin_job (t := plainTables) hjob
  have hstarted := hsent.next (a := .run plainDraws) trivial (step_spawn rfl rfl hbegin)
  have hoffering : ∀ evs, (loop (plainParties stateStore)).machine.exec _
      [.settle 1 (.provider (.offered (some ⟨some (.ofInt 21)⟩), plainDraws.provider)),
        .run plainDraws, .enqueue 1] = some (plainOffering stateStore, evs) → _ :=
    fun evs hexec => Run.of_exec _ hstarted (Machine.admits_anyStep _ _ _) hexec
  cases stateStore with
  | true => exact ⟨_, hoffering _ rfl⟩
  | false => exact ⟨_, hoffering _ rfl⟩

/-- The offer is published. -/
def plainReplied : State (plainParties stateStore) where
  calls :=
    { shared := plainStored stateStore
      calls := (JsMap.empty.set 0 (.customer (plainWaiting stateStore))).set 1
        (.provider (.publishingOffer (plainOffered stateStore)))
      nextCall := 2 }
  subs := if stateStore then [serving] else [serving, collecting stateStore]
  nextSub := if stateStore then 1 else 2
  due := JsMap.empty.set 1 (.provider (.published ["mock://in-memory-relay"], plainDraws.provider))
  queue := (if stateStore then [] else [.deliver (collecting stateStore) 1 (plainOffer stateStore)]) ++
    [.proceed 1 (some 1)]
  log := [(0, (plainRequest stateStore).requestEvent), (1, plainOffer stateStore)]
  heard := [(1, 0)]

theorem filter_plainOffer :
    [serving, collecting stateStore].filter
      (fun sub => matchesFilter sub.filter (plainOffer stateStore)) = [collecting stateStore] := by
  have hserving : matchesFilter serving.filter (plainOffer stateStore) = false := rfl
  have hcollecting : matchesFilter (collecting stateStore).filter (plainOffer stateStore) = true :=
    matches_offer
  simp [hserving, hcollecting]

theorem step_plainOffering :
    (loop (plainParties stateStore)).machine.step (plainOffering stateStore) (.run plainDraws) =
      some (plainReplied stateStore,
        [(1, .provider (.offerPublished 1 (.ofInt 21) (plainOffer stateStore)))]) := by
  cases stateStore with
  | true => rfl
  | false =>
    have hqueue := congrArg (fun subs => subs.map (fun sub =>
      Task.deliver sub 1 (plainOffer false)) ++ [Task.proceed 1 (some 1)]) (filter_plainOffer false)
    have hstep : (loop (plainParties false)).machine.step (plainOffering false)
        (.run plainDraws) = some _ := rfl
    exact step_queue hstep hqueue

theorem run_plainReplied : ∃ tr s, Run (loop (plainParties stateStore)).machine AnyStep
    (plainReplied stateStore) tr s ∧ s.queue = [] := by
  cases stateStore with
  | true => exact ⟨_, _, Run.of_exec [.run plainDraws] .start (Machine.admits_anyStep _ _ _) rfl, rfl⟩
  | false =>
    exact ⟨_, _, Run.of_exec [.run plainDraws, .run plainDraws] .start
      (Machine.admits_anyStep _ _ _) rfl, rfl⟩

theorem replies_plain : Replies (.provider (.handling (plainJob stateStore)))
    (.provider (.offerPublished 1 (.ofInt 21) (plainOffer stateStore)))
    (.customer (plainWaiting stateStore) : Pending (plainParties stateStore)) := by
  cases stateStore with
  | true => exact .offer (r := plainRequest true) rfl rfl
  | false => exact .offer (r := plainRequest false) rfl rfl

theorem isLast_plain : EventLoop.IsLast (plainOffering stateStore).log 0 0 :=
  EventLoop.isLast_self [] 0 (plainRequest stateStore).requestEvent

end

/-- Without a state store the Customer gets the offer. -/
theorem reply_heard_plain : ∃ tr s, Run (loop (plainParties false)).machine AnyStep
    (plainReplied false) tr s ∧ s.queue = [] ∧ (0, 1) ∈ s.heard := by
  obtain ⟨tr, hrun⟩ := run_plainOffering false
  obtain ⟨tr', s, hrun', hdrained⟩ := run_plainReplied false
  refine ⟨tr', s, hrun', hdrained, ?_⟩
  exact (reply_heard_iff hrun (step_plainOffering false) rfl rfl (replies_plain false)
    (List.mem_singleton_self _) (isLast_plain false) (.inl rfl) (List.mem_singleton_self _) rfl
    (Nat.le_refl 1) rfl hrun' hdrained).mpr rfl

/-- While the Customer writes its state, the Provider offers; the Customer never gets the offer. -/
theorem offer_missed : ∃ tr tr' s, Run (loop (plainParties true)).machine AnyStep
      (initialState (plainParties true) plainTables) tr (plainOffering true) ∧
    Replies (.provider (.handling (plainJob true)))
      (.provider (.offerPublished 1 (.ofInt 21) (plainOffer true)))
      (.customer (plainWaiting true) : Pending (plainParties true)) ∧
    (1, 0) ∈ (plainOffering true).heard ∧
    (loop (plainParties true)).machine.step (plainOffering true) (.run plainDraws) =
      some (plainReplied true, [(1, .provider (.offerPublished 1 (.ofInt 21) (plainOffer true)))]) ∧
    Run (loop (plainParties true)).machine AnyStep (plainReplied true) tr' s ∧ s.queue = [] ∧
    (0, 1) ∉ s.heard := by
  obtain ⟨tr, hrun⟩ := run_plainOffering true
  have hdrains : (loop (plainParties true)).machine.exec (plainReplied true) [.run plainDraws] =
      some _ := rfl
  have hrun' := Run.of_exec (G := AnyStep) _ .start (Machine.admits_anyStep _ _ _) hdrains
  exact ⟨tr, _, _, hrun, replies_plain true, List.mem_singleton_self _, step_plainOffering true,
    hrun', rfl, by decide⟩

end Anchr.Exchange
