import Anchr.Customer.History
import Anchr.Oracle.Service
import Anchr.Protocol.Properties.WireCodec

/-!
# A request that everyone serves

A request that gets from the others what it waits for goes on to its selection, with the lock bound.
-/

namespace Anchr.Customer

open Infra Protocol

/-- What the others answer. -/
structure Helpers where
  draws : Draws
  oraclePubkey : String
  queryId : String
  hash : String
  offerEvent : Protocol.Event
  offer : ParsedOfferFeedback
  lock : CashuToken

/-- What a request has to show for it. -/
inductive Purchase where
  | started (options : RequestOptions)
  | locked (lock : CashuToken)
  | selected (selectionEvent : Protocol.Event)
  | resolved (result : RequestResult)
  | rejected (reason : Thrown)

/-- What an event says about the purchase. -/
def Event.purchase : Event → Option (Nat × Purchase)
  | .requestStarted call options => some (call, .started options)
  | .lockBound call lock => some (call, .locked lock)
  | .selectionPublished call selectionEvent => some (call, .selected selectionEvent)
  | .resolvedWith call result => some (call, .resolved result)
  | .rejected call reason => some (call, .rejected reason)
  | _ => none

section

variable {N : NostrTools} {cfg : CustomerContext}

/-- The answers up to the selection. -/
def Helpers.inputs (h : Helpers) : List (Answer × Draws) :=
  [(.hash h.hash, h.draws), (.published ["relay"] [], h.draws), (.relayEvent h.offerEvent, h.draws),
    (.timedOut, h.draws), (.bound h.lock, h.draws)]

def Helpers.collected (h : Helpers) : Offer where
  providerPubkey := h.offer.providerPubkey
  amountSats := h.offer.amountSats
  offerEventId := h.offerEvent.id
  receivedAt := h.draws.clockNow

variable (cfg) in
/-- The options pass, the Oracle has a client, one offer arrives that can be taken, and the lock is
over its amount. -/
structure Helpers.Serve (h : Helpers) (options : RequestOptions) : Prop where
  accepted : validateRequest cfg options = none
  oracle : h.draws.oracleSelector (cfg.oracles.map CustomerOracle.pubkey) = .ok h.oraclePubkey
  client : findCustomerOracle cfg.oracles h.oraclePubkey =
    some { pubkey := h.oraclePubkey, client := true }
  query : h.draws.newQueryId = .ok h.queryId
  selector : h.draws.offerSelector = fun offers => .ok (selectCheapestOffer offers)
  parsed : parseOfferFeedbackEvent cfg.text h.offerEvent = some h.offer
  valid : isPositiveInteger h.offer.amountSats = true
  affordable : options.payment.maxAmount.lt h.offer.amountSats = false
  wanted : options.provider.any (· ≠ h.offer.providerPubkey) = false
  amount : h.lock.amountSats.strictEq h.offer.amountSats = true

variable {h : Helpers} {options : RequestOptions}

/-! ## What the request knows on its way -/

def Helpers.Serve.request (hs : h.Serve cfg options) : Request N cfg where
  options := options
  accepted := hs.accepted
  identity := ⟨h.draws.identityKey, N.getPublicKey h.draws.identityKey, rfl⟩
  queryId := h.queryId
  oraclePubkey := h.oraclePubkey

def Helpers.Serve.published (hs : h.Serve cfg options) : Published N cfg :=
  { hs.request with
    hash := h.hash
    requestedAt := h.draws.clockNow
    requestEvent := buildQueryRequestEvent N cfg.text cfg.toUpperCase hs.request.identity
      (hs.request.payload h.draws.clockNow) options.regionCode h.draws.m.nowMs
    requested := ⟨h.draws.m.nowMs, rfl⟩ }

def Helpers.Serve.bound (hs : h.Serve cfg options) : Bound N cfg :=
  { hs.published with
    selected := h.collected
    valid := hs.valid
    affordable := hs.affordable
    selectedAt := h.draws.clockNow
    lock := h.lock
    amount := hs.amount }

/-! ## Turns -/

variable {t : Tables} {call : Nat}

theorem request_of_accepted (haccepted : validateRequest cfg options = none) (draws : Draws) :
    (request t call (options, draws) : Turn N cfg) =
      match draws.oracleSelector (cfg.oracles.map CustomerOracle.pubkey) with
      | .error err => rejected t call [.requestStarted call options] err
      | .ok expectedOracle =>
        match findCustomerOracle cfg.oracles expectedOracle with
        | none =>
          rejected t call [.requestStarted call options]
            (.error (customerConfigError "oracleSelector returned an oracle outside the whitelist"))
        | some selectedOracle =>
          match draws.newQueryId with
          | .error err => rejected t call [.requestStarted call options] err
          | .ok queryId =>
            requestHash t call [.requestStarted call options]
              { options := options
                accepted := haccepted
                identity := ⟨draws.identityKey, N.getPublicKey draws.identityKey, rfl⟩
                queryId := queryId
                oraclePubkey := expectedOracle }
              selectedOracle.client draws := by
  unfold request
  dsimp only
  split
  next error herror =>
    rw [haccepted] at herror
    cases herror
  next => rfl

theorem request_of_serve (hs : h.Serve cfg options) :
    (request t call (options, h.draws) : Turn N cfg) =
      { shared := t
        events := [.requestStarted call options]
        pending := some (.requestingHash hs.request) } := by
  rw [request_of_accepted hs.accepted, hs.oracle]
  dsimp only
  rw [hs.client]
  dsimp only
  rw [hs.query]
  rfl

variable (t call)

theorem resume_sent (hs : h.Serve cfg options) (hstore : cfg.stateStore = false) :
    resume N cfg t call (.publishingRequest hs.published) (.published ["relay"] [], h.draws) =
      some { shared := t, pending := some (.collectingOffers hs.published ([], 0)) } := by
  show some (requestSent t call hs.published ["relay"] [] h.draws) = _
  rw [requestSent, if_neg (by simp), hstore]
  rfl

theorem resume_received (hs : h.Serve cfg options) :
    resume N cfg t call (.collectingOffers hs.published ([], 0)) (.relayEvent h.offerEvent, h.draws) =
      some { shared := t
             pending := some (.collectingOffers hs.published ([h.collected], 1)) } := by
  have htaken : (!isPositiveInteger h.offer.amountSats ||
      options.payment.maxAmount.lt h.offer.amountSats ||
      options.provider.any (· ≠ h.offer.providerPubkey)) = false := by
    rw [hs.valid, hs.affordable, hs.wanted]
    rfl
  have hreceived : receiveOffer cfg options h.draws.clockNow ([], 0) h.offerEvent =
      ([h.collected], 1) := by
    rw [receiveOffer, hs.parsed]
    dsimp only
    rw [htaken]
    rfl
  rw [← hreceived]
  rfl

theorem resume_collected (hs : h.Serve cfg options) :
    resume N cfg t call (.collectingOffers hs.published ([h.collected], 1)) (.timedOut, h.draws) =
      some { shared := t
             events := [.offerSelected call h.collected,
               .bindCalled call (hs.bound : Bound N cfg).bindParams]
             pending := some (.binding (hs.bound : Bound N cfg).toChosen) } := by
  have hselected : h.draws.offerSelector [h.collected] = .ok (some h.collected) := by
    rw [hs.selector]
    rfl
  show some (offersCollected t call hs.published ([h.collected], 1) h.draws) = _
  unfold offersCollected
  dsimp only
  rw [hselected]
  exact congrArg some ((dif_pos hs.valid).trans (dif_pos hs.affordable))

variable {selectionEvent : Protocol.Event}

theorem resume_bound (hs : h.Serve cfg options) (hchange : h.lock.paymentChangeProofs = [])
    (hbuilt : buildSelectionFeedbackEvent N cfg.text hs.bound.identity hs.bound.requestEvent.id
      (hs.bound.toChosen.selection h.lock) h.draws.m = some selectionEvent) :
    resume N cfg t call (.binding (hs.bound : Bound N cfg).toChosen) (.bound h.lock, h.draws) =
      some { shared := t
             events := [.lockBound call h.lock, .selectionPublished call selectionEvent]
             pending := some (.publishingSelection
               { (hs.bound : Bound N cfg) with
                 selectionEvent, selects := ⟨h.draws.m, hbuilt⟩ }) } := by
  have hsent : sendSelection t call [.lockBound call h.lock] (hs.bound : Bound N cfg) h.draws =
      { shared := t
        events := [.lockBound call h.lock, .selectionPublished call selectionEvent]
        pending := some (.publishingSelection
          { (hs.bound : Bound N cfg) with selectionEvent, selects := ⟨h.draws.m, hbuilt⟩ }) } := by
    unfold sendSelection
    split
    next hnone => cases hnone.symm.trans hbuilt
    next event hevent =>
      obtain rfl := Option.some.inj (hevent.symm.trans hbuilt)
      rfl
  rw [← hsent]
  refine congrArg some ((dif_pos hs.amount).trans ?_)
  rw [hchange]
  rfl

/-- A request that everyone serves comes to its selection. -/
theorem run_of_serve (hs : h.Serve cfg options) (hstore : cfg.stateStore = false)
    (hchange : h.lock.paymentChangeProofs = [])
    (hbuilt : buildSelectionFeedbackEvent N cfg.text hs.bound.identity hs.bound.requestEvent.id
      (hs.bound.toChosen.selection h.lock) h.draws.m = some selectionEvent)
    {G : CallState Tables (Pending N cfg) →
      CallAction (RequestOptions × Draws) (Answer × Draws) → Prop}
    (hbegin : ∀ s a, G s (.begin a)) (hG : ∀ s, ∀ b ∈ h.inputs, G s (.resume 0 b)) :
    (customerService N cfg).Gets G (initialState N cfg .empty) 0
      [.requestStarted 0 options,
        .requestPublished 0 (hs.published : Published N cfg).requestEvent,
        .offerSelected 0 h.collected, .bindCalled 0 (hs.bound : Bound N cfg).bindParams,
        .lockBound 0 h.lock, .selectionPublished 0 selectionEvent] {}
      (some (.publishingSelection
        { (hs.bound : Bound N cfg) with selectionEvent, selects := ⟨h.draws.m, hbuilt⟩ })) := by
  have hanswers : ∀ b ∈ h.inputs, ∀ s, G s (.resume 0 b) := fun b hb s => hG s b hb
  simp only [Helpers.inputs, List.forall_mem_cons] at hanswers
  obtain ⟨hhash, hpublished, hoffer, htimer, hbound, -⟩ := hanswers
  have hstarted := CallService.Gets.begin (S := customerService N cfg)
    (hbegin (initialState N cfg .empty) _) (request_of_serve hs)
  exact ((((hstarted.resume hhash rfl).resume hpublished (resume_sent {} 0 hs hstore)).resume hoffer
    (resume_received {} 0 hs)).resume htimer (resume_collected {} 0 hs)).resume hbound
    (resume_bound {} 0 hs hchange hbuilt)

end

/-! ## One such request -/

/-- A Customer with one Oracle and no state store. -/
def plainContext : CustomerContext where
  text := .safeIntegers
  round := .fin
  toUpperCase := String.toUpper
  isSchemaUri uri := uri = "https://anchr-spec.org/spec/proof/tlsn/v1"
  oracles := [{ pubkey := "oracle", client := true }]
  mint := "https://m.test"
  stateStore := false

/-- A request with this predicate. -/
def plainOptions (predicate : JsValue) : RequestOptions where
  spec := { schema := "https://anchr-spec.org/spec/proof/tlsn/v1", predicate := predicate }
  payment := { maxAmount := .ofInt 100 }
  fundingProofs := some [.obj [("amount", .num (.ofInt 32))]]

/-- The Oracle and the cheapest offer are selected, and nothing throws. -/
def plainDraws : Draws where
  m := { nonce := "nonce", nowMs := .ofInt 1000000 }
  clockNow := .ofInt 1000000
  identityKey := "customer"
  ephemeralKey := "ephemeral"
  newQueryId := .ok "q"
  oracleSelector := fun _ => .ok "oracle"
  offerSelector := fun offers => .ok (selectCheapestOffer offers)
  verifier := .ok false
  thrown := .error (typeError "Do not know how to serialize a BigInt")

/-- The request event is `r`. -/
def plainOfferEvent : Protocol.Event :=
  buildOfferFeedbackEvent Oracle.plainNostr .safeIntegers (Oracle.plainKeypair "pk") "r" "customer"
    "pk" (.ofInt 21) plainDraws.m

/-- The Provider `pk` offers the work for 21 sats, and a lock over them is bound. -/
def plainHelpers : Helpers where
  draws := plainDraws
  oraclePubkey := "oracle"
  queryId := "q"
  hash := "hash"
  offerEvent := plainOfferEvent
  offer := ⟨"pk", .ofInt 21, "r", "customer"⟩
  lock := { token := "t", amountSats := .ofInt 21, proofs := [.obj [("amount", .num (.ofInt 21))]] }

theorem accepted_plainOptions (predicate : JsValue) :
    Accepted plainContext (plainOptions predicate) where
  schema := by simp [plainContext, plainOptions]
  maxAmount := show isPositiveInteger (.ofInt 100) = true by decide
  fundingProofs := rfl
  finite := rfl
  integer := show (JsNumber.ofInt 3600).isInteger = true by decide
  duration := show (JsNumber.ofInt 3600).lt minLockDurationSeconds = false by decide

theorem parse_plainOfferEvent : parseOfferFeedbackEvent .safeIntegers plainOfferEvent =
    some plainHelpers.offer := by
  have hamount : IsDouble .safeIntegers (.ofInt 21) := ⟨rfl, by decide⟩
  have hread : ReadAs _ (parseOfferFeedbackEvent .safeIntegers plainOfferEvent)
      ⟨(Oracle.plainKeypair "pk").publicKey, .ofInt 21, "r", "customer"⟩ :=
    readAs_offer safeIntegers_zero (by decide) (by decide) hamount
  exact hread.payload

theorem serve_plainOptions (predicate : JsValue) :
    plainHelpers.Serve plainContext (plainOptions predicate) where
  accepted := validateRequest_none.mpr (accepted_plainOptions predicate)
  oracle := rfl
  client := rfl
  query := rfl
  selector := rfl
  parsed := parse_plainOfferEvent
  valid := show isPositiveInteger (.ofInt 21) = true by decide
  affordable := show (JsNumber.ofInt 100).lt (.ofInt 21) = false by decide
  wanted := rfl
  amount := show (JsNumber.ofInt 21).strictEq (.ofInt 21) = true by decide

/-- The request with this predicate, with its lock. -/
def plainBound (predicate : JsValue) : Bound Oracle.plainNostr plainContext :=
  (serve_plainOptions predicate).bound

theorem plainNostr_builds {T : NumberText} (identity : Keypair Oracle.plainNostr)
    (requestEventId : String) (payload : SelectionContent) (m : Moment)
    (hpredicate : payload.execution.predicate.written ≠ .threw)
    (hcontext : payload.execution.context.written ≠ .threw) :
    ∃ selectionEvent, buildSelectionFeedbackEvent Oracle.plainNostr T identity requestEventId payload
      m = some selectionEvent := by
  rw [buildSelectionFeedbackEvent, stringifyJsPayload_selection hpredicate hcontext]
  exact ⟨_, rfl⟩

/-- The publication of the selection throws. -/
theorem run_plain (predicate : JsValue) (hpredicate : predicate.written ≠ .threw) (value : Thrown)
    {G : CallState Tables (Pending Oracle.plainNostr plainContext) →
      CallAction (RequestOptions × Draws) (Answer × Draws) → Prop}
    (hbegin : ∀ s a, G s (.begin a))
    (hG : ∀ s, ∀ b ∈ plainHelpers.inputs ++ [(.threw value, plainDraws)], G s (.resume 0 b)) :
    ∃ tr s selectionEvent,
      Run (customerService Oracle.plainNostr plainContext).machine G
        (initialState Oracle.plainNostr plainContext .empty) tr s ∧
      tr.filterMap Event.purchase = [(0, .started (plainOptions predicate)),
        (0, .locked plainHelpers.lock), (0, .selected selectionEvent),
        (0, .rejected (attachedReason value plainHelpers.lock "customer"))] ∧
      buildSelectionFeedbackEvent Oracle.plainNostr .safeIntegers
        (plainBound predicate).identity (plainBound predicate).requestEvent.id
        ((plainBound predicate).toChosen.selection plainHelpers.lock) plainDraws.m =
          some selectionEvent := by
  obtain ⟨selectionEvent, hbuilt⟩ := plainNostr_builds (T := .safeIntegers)
    (plainBound predicate).identity (plainBound predicate).requestEvent.id
    ((plainBound predicate).toChosen.selection plainHelpers.lock) plainDraws.m hpredicate
    (fun h => by cases h)
  have hsent := run_of_serve (serve_plainOptions predicate) rfl rfl hbuilt hbegin
    fun s b hb => hG s b (List.mem_append_left _ hb)
  obtain ⟨s, hrun, -⟩ := hsent.resume (fun s => hG s _ (List.mem_append_right _
    (List.mem_singleton_self _))) (congrArg some lockFailed_eq)
  exact ⟨_, s, selectionEvent, hrun, rfl, hbuilt⟩

end Anchr.Customer
