import Anchr.Customer.Types
import Anchr.Infra.CallTrace

/-!
# A Customer's requests

`request` of `packages/sdk/src/customer.ts`, with `requestHash` of `oracle.ts` and
`waitForFirstEvent`, as a service with suspended calls. Once a lock is bound, every value that is
thrown goes through `attachPaymentRecoveryMaterial`.
-/

namespace Anchr.Customer

open Infra Protocol

/-- What the surroundings give in a turn. The selectors, the id generator and what `JSON.stringify`
and the encryption call may throw any value. -/
structure Draws where
  m : Moment
  /-- `clock.now()`. -/
  clockNow : JsNumber
  /-- The secret keys of the two calls of `generateEphemeralIdentity`. -/
  identityKey : String
  ephemeralKey : String
  newQueryId : Except Thrown String
  oracleSelector : List String → Except Thrown String
  offerSelector : List Offer → Except Thrown (Option Offer)
  /-- Whether `resolveVerifierAdapter` finds a verifier. -/
  verifier : Except Thrown Bool
  /-- What building an event throws, if it throws. -/
  thrown : Thrown

section

variable (N : NostrTools) (cfg : CustomerContext)

/-! ## What a request knows -/

structure Request where
  options : RequestOptions
  accepted : validateRequest cfg options = none
  identity : Keypair N
  queryId : String
  oraclePubkey : String

variable {N cfg} in
/-- `expires_at` is cut to whole seconds. -/
def Request.payload (r : Request N cfg) (now : JsNumber) : QueryRequestPayload where
  queryId := r.queryId
  schema := r.options.spec.schema
  customerPubkey := r.identity.publicKey
  oraclePubkey := r.oraclePubkey
  maxAmountSats := r.options.payment.maxAmount
  expiresAt := ((cfg.wholeSeconds (cfg.add now cfg.offerWindowMs)).scale 1000).rounded cfg.round

/-- The hash is there, and the request event is published. -/
structure Published extends Request N cfg where
  hash : String
  requestedAt : JsNumber
  requestEvent : Protocol.Event
  requested : ∃ nowMs, requestEvent = buildQueryRequestEvent N cfg.text cfg.toUpperCase identity
    (toRequest.payload requestedAt) options.regionCode nowMs

structure Chosen extends Published N cfg where
  selected : Offer
  valid : isPositiveInteger selected.amountSats = true
  affordable : options.payment.maxAmount.lt selected.amountSats = false
  selectedAt : JsNumber

/-- `bindProvider` has resolved with a lock over the amount of the offer. -/
structure Bound extends Chosen N cfg where
  lock : CashuToken
  amount : lock.amountSats.strictEq selected.amountSats = true

variable {N cfg}

def Chosen.locktimeSeconds (r : Chosen N cfg) : JsNumber :=
  cfg.add (cfg.wholeSeconds r.selectedAt) r.options.locktimeDurationSeconds

/-- What the Cashu client is asked to lock. -/
def Chosen.bindParams (r : Chosen N cfg) : BindProviderParams where
  amountSats := r.selected.amountSats
  fundingProofs := r.options.fundingProofs.getD []
  providerPubkey := r.selected.providerPubkey
  hashHex := r.hash
  locktimeSeconds := r.locktimeSeconds
  customerPubkey := r.identity.publicKey
  customerSecretKey := r.identity.secretKey

/-- `selectionPayload`, with the token of the lock. -/
def Chosen.selection (r : Chosen N cfg) (lock : CashuToken) : SelectionContent where
  selectedProviderPubkey := r.selected.providerPubkey
  providerRedemptionToken := lock.token
  execution :=
    { schema := r.options.spec.schema
      predicate := r.options.spec.predicate
      description := r.options.spec.description
      context := r.options.spec.context
      mintUrl := cfg.mint
      maxAmountSats := r.options.payment.maxAmount
      amountSats := r.selected.amountSats
      locktimeSeconds := r.locktimeSeconds }

variable (N cfg) in
/-- The selection is built from the lock. -/
structure Sent extends Bound N cfg where
  selectionEvent : Protocol.Event
  selects : ∃ m, buildSelectionFeedbackEvent N cfg.text identity requestEvent.id
    (toChosen.selection lock) m = some selectionEvent

def Bound.result (r : Bound N cfg) (response : QueryResponsePayload) : RequestResult where
  data := response.data
  proof := response.proof
  providerPubkey := r.selected.providerPubkey
  schema := response.schema
  paymentChangeProofs :=
    if r.lock.paymentChangeProofs.isEmpty then none else some r.lock.paymentChangeProofs
  paymentLockProofs := r.lock.proofs
  paymentLockToken := r.lock.token
  paymentLockRefundSecretKey := r.identity.secretKey

def Published.record (r : Published N cfg) (status : CustomerStateStatus) (offer : Option Offer)
    (now : JsNumber) : CustomerStateRecord where
  queryId := r.queryId
  requestEventId := r.requestEvent.id
  schema := r.options.spec.schema
  status := status
  offer := offer.map fun offer => (offer.providerPubkey, offer.offerEventId)
  updatedAt := now

end

/-! ## State -/

/-- The state store. -/
structure Tables where
  store : JsMap String String := .empty

/-- Where it is suspended. -/
inductive Pending (N : NostrTools) (cfg : CustomerContext) where
  /-- At `await requestHash(..)` of the client that is given for the Oracle. -/
  | requestingHash (r : Request N cfg)
  /-- In `requestHash` of the relay client, at `await relayClient.publish(request)`; the wait for
  the answer may have settled already. -/
  | publishingHash (r : Request N cfg) (ephemeral : Keypair N) (settled : Option (Option String))
  /-- At `await wait.result`. -/
  | awaitingHash (r : Request N cfg) (ephemeral : Keypair N)
  | publishingRequest (r : Published N cfg)
  | writingRequest (r : Published N cfg)
  /-- Within the offer window, with the offers so far and the number of those received. -/
  | collectingOffers (r : Published N cfg) (collected : List Offer × Nat)
  /-- At `await cashuClient.bindProvider(..)`. -/
  | binding (r : Chosen N cfg)
  /-- At `await req.onPaymentChange?.(..)`. -/
  | reportingChange (r : Bound N cfg)
  | publishingSelection (r : Sent N cfg)
  | writingSelection (r : Sent N cfg)
  | awaitingResult (r : Sent N cfg)
  | verifying (r : Sent N cfg) (response : QueryResponsePayload)
  | writingResult (r : Sent N cfg) (response : QueryResponsePayload)

/-- The lock and the refund key, inside the `try` that follows `bindProvider`. -/
def Pending.recovery? {N : NostrTools} {cfg : CustomerContext} :
    Pending N cfg → Option (CashuToken × String)
  | .reportingChange r => some (r.lock, r.identity.secretKey)
  | .publishingSelection r | .writingSelection r | .awaitingResult r | .verifying r _
  | .writingResult r _ => some (r.lock, r.identity.secretKey)
  | _ => none

/-- The Oracle clients, the Cashu client, the callbacks, the verifiers, the state store and the
relay give any answer, or throw any value. A relay may deliver any event at any time, and a wait may
time out at any time. -/
inductive Answer where
  | threw (value : Thrown)
  | resolved
  | hash (hash : String)
  /-- The relays that accepted the event, and the reasons of the others. -/
  | published (successes failures : List String)
  | relayEvent (event : Protocol.Event)
  | timedOut
  | bound (lock : CashuToken)
  | verified (ok : Bool)

/-- What it does. -/
inductive Event where
  | requestStarted (call : Nat) (options : RequestOptions)
  | hashRequestPublished (call : Nat) (dm : Protocol.Event)
  | requestPublished (call : Nat) (requestEvent : Protocol.Event)
  | stateWritten (call : Nat) (status : CustomerStateStatus) (key value : String)
  | offerSelected (call : Nat) (offer : Offer)
  | bindCalled (call : Nat) (params : BindProviderParams)
  | lockBound (call : Nat) (lock : CashuToken)
  | changeReported (call : Nat) (proofs : List CashuProof)
  | selectionPublished (call : Nat) (selectionEvent : Protocol.Event)
  | resultReceived (call : Nat) (resultEvent : Protocol.Event)
  | verifierCalled (call : Nat) (response : QueryResponsePayload)
  | resolvedWith (call : Nat) (result : RequestResult)
  | rejected (call : Nat) (reason : Thrown)

def Event.callOf : Event → Nat
  | .requestStarted call _ | .hashRequestPublished call _ | .requestPublished call _
  | .stateWritten call _ _ _ | .offerSelected call _ | .bindCalled call _ | .lockBound call _
  | .changeReported call _ | .selectionPublished call _ | .resultReceived call _
  | .verifierCalled call _ | .resolvedWith call _ | .rejected call _ => call

abbrev Turn (N : NostrTools) (cfg : CustomerContext) := CallTurn Tables (Pending N cfg) Event

section

variable {N : NostrTools} {cfg : CustomerContext}

/-! ## Ends of a request -/

/-- The value is thrown outside the `try` that follows `bindProvider`. -/
def rejected (t : Tables) (call : Nat) (events : List Event) (reason : Thrown) : Turn N cfg where
  shared := t
  events := events ++ [.rejected call reason]

/-- The value is thrown inside it. -/
def lockFailed (t : Tables) (call : Nat) (events : List Event) (lock : CashuToken)
    (refundSecretKey : String) (err : Thrown) : Turn N cfg :=
  match attachPaymentRecoveryMaterial err lock refundSecretKey with
  | .ok error | .error error => rejected t call events (.error error)

/-- `await writeCustomerState(..)`, called with the events so far. -/
def writeCustomerState (t : Tables) (call : Nat) (events : List Event)
    (record : CustomerStateRecord) (p : Pending N cfg) : Turn N cfg :=
  let key := customerStateKey record.queryId
  let value := record.toJson.stringify cfg.text
  { shared := { store := t.store.set key value }
    events := events ++ [.stateWritten call record.status key value]
    pending := some p }

/-! ## Turns before the lock -/

/-- `requestHash` of the Oracle's client. -/
def requestHash (t : Tables) (call : Nat) (events : List Event) (r : Request N cfg) (client : Bool)
    (draws : Draws) : Turn N cfg :=
  if client then { shared := t, events := events, pending := some (.requestingHash r) }
  else if r.oraclePubkey = "" then
    rejected t call events (.error (oracleConfigError "oraclePubkey must be a non-empty string"))
  else
    let ephemeral : Keypair N := ⟨draws.ephemeralKey, N.getPublicKey draws.ephemeralKey, rfl⟩
    match buildHashRequestEvent N cfg.text ephemeral r.oraclePubkey { queryId := r.queryId }
      draws.m with
    | none => rejected t call events draws.thrown
    | some dm =>
      { shared := t
        events := events ++ [.hashRequestPublished call dm]
        pending := some (.publishingHash r ephemeral none) }

/-- `request`, up to the hash request. -/
def request (t : Tables) (call : Nat) (a : RequestOptions × Draws) : Turn N cfg :=
  let events := [Event.requestStarted call a.1]
  match h : validateRequest cfg a.1 with
  | some error => rejected t call events (.error error)
  | none =>
    match a.2.oracleSelector (cfg.oracles.map CustomerOracle.pubkey) with
    | .error err => rejected t call events err
    | .ok expectedOracle =>
      match findCustomerOracle cfg.oracles expectedOracle with
      | none =>
        rejected t call events
          (.error (customerConfigError "oracleSelector returned an oracle outside the whitelist"))
      | some selectedOracle =>
        match a.2.newQueryId with
        | .error err => rejected t call events err
        | .ok queryId =>
          requestHash t call events
            { options := a.1
              accepted := h
              identity := ⟨a.2.identityKey, N.getPublicKey a.2.identityKey, rfl⟩
              queryId := queryId
              oraclePubkey := expectedOracle }
            selectedOracle.client a.2

/-- The hash is there: the request event is published. -/
def hashReady (t : Tables) (call : Nat) (r : Request N cfg) (hash : String) (draws : Draws) :
    Turn N cfg :=
  let requestEvent := buildQueryRequestEvent N cfg.text cfg.toUpperCase r.identity
    (r.payload draws.clockNow) r.options.regionCode draws.m.nowMs
  { shared := t
    events := [.requestPublished call requestEvent]
    pending := some (.publishingRequest
      { r with
        hash
        requestedAt := draws.clockNow
        requestEvent
        requested := ⟨draws.m.nowMs, rfl⟩ }) }

/-- The matcher of `requestHash`. -/
def matchHash (r : Request N cfg) (ephemeral : Keypair N) (event : Protocol.Event) :
    Option String :=
  match parseHashResponseEvent N cfg.text event ephemeral.secretKey r.oraclePubkey with
  | none => none
  | some payload => if payload.queryId ≠ r.queryId then none else some payload.hash

/-- What the wait has come to. -/
def hashSettled (t : Tables) (call : Nat) (r : Request N cfg) (draws : Draws) :
    Option String → Turn N cfg
  | none => rejected t call [] (.error oracleTimeoutError)
  | some hash => hashReady t call r hash draws

/-- The hash request was published; `settled` is what the wait has come to meanwhile. -/
def hashRequestSent (t : Tables) (call : Nat) (r : Request N cfg) (ephemeral : Keypair N)
    (settled : Option (Option String)) (successes failures : List String) (draws : Draws) :
    Turn N cfg :=
  if successes = [] then rejected t call [] (.error (oracleResponseError failures))
  else
    match settled with
    | none => { shared := t, pending := some (.awaitingHash r ephemeral) }
    | some hash => hashSettled t call r draws hash

def hashArrived (t : Tables) (call : Nat) (r : Request N cfg) (ephemeral : Keypair N)
    (event : Protocol.Event) (draws : Draws) : Turn N cfg :=
  match matchHash r ephemeral event with
  | none => { shared := t, pending := some (.awaitingHash r ephemeral) }
  | some hash => hashReady t call r hash draws

def requestSent (t : Tables) (call : Nat) (r : Published N cfg) (successes failures : List String)
    (draws : Draws) : Turn N cfg :=
  if successes = [] then rejected t call [] (.error (relayPublishError failures))
  else if cfg.stateStore then
    writeCustomerState t call [] (r.record .requestPublished none draws.clockNow)
      (.writingRequest r)
  else { shared := t, pending := some (.collectingOffers r ([], 0)) }

def offersCollected (t : Tables) (call : Nat) (r : Published N cfg) (collected : List Offer × Nat)
    (draws : Draws) : Turn N cfg :=
  match draws.offerSelector collected.1 with
  | .error err => rejected t call [] err
  | .ok none =>
    rejected t call [] (.error (noOffersReceivedError cfg.text cfg.offerWindowMs collected.2))
  | .ok (some selected) =>
    if hvalid : isPositiveInteger selected.amountSats = true then
      if haffordable : r.options.payment.maxAmount.lt selected.amountSats = false then
        let r' : Chosen N cfg :=
          { r with
            selected
            valid := hvalid
            affordable := haffordable
            selectedAt := draws.clockNow }
        { shared := t
          events := [.offerSelected call selected, .bindCalled call r'.bindParams]
          pending := some (.binding r') }
      else
        rejected t call []
          (.error (customerConfigError "offerSelector returned an offer above payment.maxAmount"))
    else
      rejected t call []
        (.error (customerConfigError "offerSelector returned an invalid offer amount"))

/-! ## Turns after it -/

def sendSelection (t : Tables) (call : Nat) (events : List Event) (r : Bound N cfg)
    (draws : Draws) : Turn N cfg :=
  match h : buildSelectionFeedbackEvent N cfg.text r.identity r.requestEvent.id
    (r.toChosen.selection r.lock) draws.m with
  | none => lockFailed t call events r.lock r.identity.secretKey draws.thrown
  | some selectionEvent =>
    { shared := t
      events := events ++ [.selectionPublished call selectionEvent]
      pending := some (.publishingSelection { r with selectionEvent, selects := ⟨draws.m, h⟩ }) }

/-- The lock has to be of the amount that was offered. -/
def lockBound (t : Tables) (call : Nat) (r : Chosen N cfg) (lock : CashuToken) (draws : Draws) :
    Turn N cfg :=
  let events := [Event.lockBound call lock]
  if h : lock.amountSats.strictEq r.selected.amountSats = true then
    let r' : Bound N cfg := { r with lock, amount := h }
    if lock.paymentChangeProofs.isEmpty then sendSelection t call events r' draws
    else
      { shared := t
        events := events ++ if r.options.onPaymentChange
          then [.changeReported call lock.paymentChangeProofs] else []
        pending := some (.reportingChange r') }
  else
    lockFailed t call events lock r.identity.secretKey (.error (customerConfigError
      "bound Payment Lock amount does not match the selected offer amount"))

/-- The selection event was published; what the relays said is not looked at. -/
def selectionSent (t : Tables) (call : Nat) (r : Sent N cfg) (draws : Draws) : Turn N cfg :=
  if cfg.stateStore then
    writeCustomerState t call [] (r.record .providerSelected (some r.selected) draws.clockNow)
      (.writingSelection r)
  else { shared := t, pending := some (.awaitingResult r) }

def resultAccepted (t : Tables) (call : Nat) (events : List Event) (r : Sent N cfg)
    (response : QueryResponsePayload) (draws : Draws) : Turn N cfg :=
  if cfg.stateStore then
    writeCustomerState t call events (r.record .resultReceived (some r.selected) draws.clockNow)
      (.writingResult r response)
  else { shared := t, events := events ++ [.resolvedWith call (r.result response)] }

/-- The wait for a result takes the first event of its subscription. -/
def resultArrived (t : Tables) (call : Nat) (r : Sent N cfg) (event : Protocol.Event)
    (draws : Draws) : Turn N cfg :=
  let events := [Event.resultReceived call event]
  match parseQueryResponseEvent N cfg.text event r.identity.secretKey r.selected.providerPubkey with
  | none =>
    lockFailed t call events r.lock r.identity.secretKey
      (.error (resultTimeoutError cfg.text cfg.resultTimeoutMs r.selected.providerPubkey))
  | some response =>
    match draws.verifier with
    | .error err => lockFailed t call events r.lock r.identity.secretKey err
    | .ok false => resultAccepted t call events r response draws
    | .ok true =>
      { shared := t
        events := events ++ [.verifierCalled call response]
        pending := some (.verifying r response) }

def proofVerified (t : Tables) (call : Nat) (r : Sent N cfg) (response : QueryResponsePayload)
    (ok : Bool) (draws : Draws) : Turn N cfg :=
  if ok then resultAccepted t call [] r response draws
  else
    lockFailed t call [] r.lock r.identity.secretKey
      (.error (schemaVerificationError r.options.spec.schema))

def threw (t : Tables) (call : Nat) (p : Pending N cfg) (value : Thrown) : Turn N cfg :=
  match p.recovery? with
  | some (lock, refundSecretKey) => lockFailed t call [] lock refundSecretKey value
  | none => rejected t call [] value

end

/-! ## The service -/

variable (N : NostrTools) (cfg : CustomerContext)

/-- A suspended request gets an answer of the kind it waits for. -/
def resume (t : Tables) (call : Nat) (p : Pending N cfg) (b : Answer × Draws) :
    Option (Turn N cfg) :=
  match p, b.1 with
  | p, .threw value => some (threw t call p value)
  | .requestingHash r, .hash hash => some (hashReady t call r hash b.2)
  | .publishingHash r ephemeral settled, .published successes failures =>
    some (hashRequestSent t call r ephemeral settled successes failures b.2)
  -- the first match settles the wait, also while the request is being published
  | .publishingHash r ephemeral settled, .relayEvent event =>
    some { shared := t
           pending := some (.publishingHash r ephemeral
            (settled.orElse fun _ => (matchHash r ephemeral event).map some)) }
  | .publishingHash r ephemeral settled, .timedOut =>
    some { shared := t
           pending := some (.publishingHash r ephemeral (settled.orElse fun _ => some none)) }
  | .awaitingHash r ephemeral, .relayEvent event => some (hashArrived t call r ephemeral event b.2)
  | .awaitingHash r _, .timedOut => some (hashSettled t call r b.2 none)
  | .publishingRequest r, .published successes failures =>
    some (requestSent t call r successes failures b.2)
  | .writingRequest r, .resolved =>
    some { shared := t, pending := some (.collectingOffers r ([], 0)) }
  | .collectingOffers r collected, .relayEvent event =>
    some { shared := t
           pending := some (.collectingOffers r
            (receiveOffer cfg r.options b.2.clockNow collected event)) }
  | .collectingOffers r collected, .timedOut => some (offersCollected t call r collected b.2)
  | .binding r, .bound lock => some (lockBound t call r lock b.2)
  | .reportingChange r, .resolved => some (sendSelection t call [] r b.2)
  | .publishingSelection r, .published _ _ => some (selectionSent t call r b.2)
  | .writingSelection r, .resolved => some { shared := t, pending := some (.awaitingResult r) }
  | .awaitingResult r, .relayEvent event => some (resultArrived t call r event b.2)
  | .awaitingResult r, .timedOut =>
    some (lockFailed t call [] r.lock r.identity.secretKey
      (.error (resultTimeoutError cfg.text cfg.resultTimeoutMs r.selected.providerPubkey)))
  | .verifying r response, .verified ok => some (proofVerified t call r response ok b.2)
  | .writingResult r response, .resolved =>
    some { shared := t, events := [.resolvedWith call (r.result response)] }
  | _, _ => none

/-- The service. -/
def customerService :
    CallService Tables (Pending N cfg) Event (RequestOptions × Draws) (Answer × Draws) where
  begin := request
  resume := resume N cfg

/-- No request has begun; the store may hold anything. -/
def initialState (store : JsMap String String) : CallState Tables (Pending N cfg) where
  shared := { store := store }

end Anchr.Customer
