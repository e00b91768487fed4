import Anchr.Infra.CallTrace
import Anchr.Oracle.Messages
import Anchr.Protocol.Jobs

/-!
# A Provider's jobs

`handleJob` of `packages/sdk/src/provider.ts` with `waitForSelection`, `waitForPreimage` and the
hash request of `oracle.ts`, as a service with suspended calls. `serve` calls it for every request
event, and jobs run beside each other.
-/

namespace Anchr.Provider

open Infra Protocol

/-! ## Configuration -/

/-- `ProofGenerator`, without `produce`, which only the handler calls. -/
structure ProofGenerator where
  canHandle : String → Bool

/-- `JobContext`, without the adapters and the timeouts. -/
structure JobContext (N : NostrTools) where
  text : NumberText
  identity : Keypair N
  oracles : List String
  /-- `cashuClient.mintUrl`. -/
  mintUrl : String
  stateStore : Bool
  proofGenerators : List ProofGenerator := []
  /-- The generator of the registered bundle of a schema, if it has a producer. -/
  bundleGenerator : String → Option ProofGenerator := fun _ => none
  schemaOptions : Option Json := none
  /-- The Oracles that a client is given for. -/
  oracleClients : List String := []
  /-- `isSchemaUri`, which parses a URL. -/
  isSchemaUri : String → Bool

/-- What the surroundings give in a turn. -/
structure Draws where
  m : Moment
  /-- The nonce of a second encryption. -/
  oracleNonce : String
  /-- The secret key of `generateEphemeralIdentity`. -/
  ephemeralKey : String
  /-- `ctx.clock.now()`. -/
  clockNow : JsNumber

/-! ## What is handed to others -/

structure Spec where
  schema : String
  predicate : Option Json := none
  description : Option String := none
  context : Option Json := none

structure ProviderRequestEvent where
  customerPubkey : String
  spec : Spec
  maxAmountSats : JsNumber
  oraclePubkey : String
  proofGenerator : Option ProofGenerator
  schemaOptions : Option Json

/-- `ProviderOffer`; the amount is `none` when it is no number. -/
structure ProviderOffer where
  amountSats : Option JsNumber

structure ProviderSelectionContext where
  spec : Spec
  mint : String
  amountSats : JsNumber
  maxAmountSats : JsNumber
  locktimeSeconds : JsNumber

structure VerifyProviderPaymentLockParams where
  token : String
  amountSats : JsNumber
  hashHex : String
  providerPubkey : String
  customerPubkey : String
  locktimeSeconds : JsNumber

structure RedeemHtlcParams where
  token : String
  preimageHex : String
  providerSecretKey : String

structure Selection where
  providerRedemptionToken : String
  execution : SelectionExecutionPayload

inductive ProviderStateStatus where
  | offerPublished
  | resultPublished
  | redeemed
  deriving DecidableEq

def ProviderStateStatus.text : ProviderStateStatus → String
  | .offerPublished => "offer_published"
  | .resultPublished => "result_published"
  | .redeemed => "redeemed"

structure ProviderStateRecord where
  requestEventId : String
  queryId : String
  customerPubkey : String
  schema : String
  status : ProviderStateStatus
  amountSats : JsNumber
  offerEventId : String
  responseEventId : Option String
  updatedAt : JsNumber

def ProviderStateRecord.toJson (record : ProviderStateRecord) : Json :=
  .obj ([("requestEventId", .str record.requestEventId), ("queryId", .str record.queryId),
      ("customerPubkey", .str record.customerPubkey), ("schema", .str record.schema),
      ("status", .str record.status.text), ("amountSats", .num record.amountSats),
      ("offerEventId", .str record.offerEventId)] ++
    optionalMember "responseEventId" (record.responseEventId.map .str) ++
    [("updatedAt", .num record.updatedAt)])

def providerStateKey (requestEventId : String) : String := "provider:" ++ requestEventId

/-! ## Matchers and checks -/

def canOfferForRequest (providerOracles : List String) (requestOraclePubkey : String) : Bool :=
  providerOracles.contains requestOraclePubkey

section

variable {N : NostrTools} (cfg : JobContext N)

def resolveProofGenerator (uri : String) : Option ProofGenerator :=
  match cfg.proofGenerators.find? fun generator => generator.canHandle uri with
  | some configured => some configured
  | none => cfg.bundleGenerator uri

/-- The generator of the job, if any are configured. -/
def proofGeneratorFor (schema : String) : Option ProofGenerator :=
  if cfg.proofGenerators.isEmpty then none else resolveProofGenerator cfg schema

/-- The matcher of `waitForSelection`. -/
def matchSelection (customerPubkey : String) (event : Protocol.Event) : Option Selection :=
  if findTagValue event "p" ≠ some cfg.identity.publicKey then none
  else
    (parseSelectionFeedbackEvent N cfg.text event cfg.identity.secretKey customerPubkey).map
      fun parsed => ⟨parsed.providerRedemptionToken, parsed.execution⟩

/-- The selection is for the request and the offer, with the Provider's own mint. -/
def Selection.Agrees (payload : QueryRequestPayload) (amountSats : JsNumber)
    (selection : Selection) : Prop :=
  selection.execution.schema = payload.schema ∧
    selection.execution.maxAmountSats.strictEq payload.maxAmountSats = true ∧
    selection.execution.amountSats.strictEq amountSats = true ∧
    selection.execution.mintUrl = cfg.mintUrl

instance (payload : QueryRequestPayload) (amountSats : JsNumber) (selection : Selection) :
    Decidable (selection.Agrees cfg payload amountSats) :=
  inferInstanceAs (Decidable (_ ∧ _ ∧ _ ∧ _))

/-- Where the Oracle's hash comes from: the client that is given for the Oracle, or a message to an
ephemeral key. -/
inductive HashSource where
  | client
  | dm (event : Protocol.Event) (ephemeralKey : String)

def HashSource.Gives (payload : QueryRequestPayload) (hash : String) : HashSource → Prop
  | .client => cfg.oracleClients.contains payload.oraclePubkey = true
  | .dm event ephemeralKey =>
    parseHashResponseEvent N cfg.text event ephemeralKey payload.oraclePubkey =
      some { queryId := payload.queryId, hash := hash }

structure OracleHash (payload : QueryRequestPayload) where
  hash : String
  source : HashSource
  given : source.Gives cfg payload hash

/-- The matcher of `requestHash`. -/
def matchHash (payload : QueryRequestPayload) (ephemeralKey : String) (event : Protocol.Event) :
    Option (OracleHash cfg payload) :=
  match h : parseHashResponseEvent N cfg.text event ephemeralKey payload.oraclePubkey with
  | none => none
  | some parsed =>
    if hid : parsed.queryId = payload.queryId then
      some ⟨parsed.hash, .dm event ephemeralKey, by rw [HashSource.Gives, h, ← hid]⟩
    else none

/-! ## What a job knows -/

structure Job where
  event : Protocol.Event
  payload : QueryRequestPayload
  parsed : parseQueryRequestEvent cfg.text event = some payload
  whitelisted : canOfferForRequest cfg.oracles payload.oraclePubkey = true

/-- The offer is within the budget of the request. -/
structure Offered extends Job cfg where
  amountSats : JsNumber
  offerEvent : Protocol.Event
  withinBudget : payload.maxAmountSats.lt amountSats = false
  built : ∃ m, offerEvent = buildOfferFeedbackEvent N cfg.text cfg.identity event.id
    payload.customerPubkey cfg.identity.publicKey amountSats m

structure Selected extends Offered cfg where
  selectionEvent : Protocol.Event
  selection : Selection
  matched : matchSelection cfg payload.customerPubkey selectionEvent = some selection
  agrees : selection.Agrees cfg payload amountSats

structure Locked extends Selected cfg where
  hash : OracleHash cfg payload

structure Answered extends Locked cfg where
  responseEvent : Protocol.Event

variable {cfg}

def Locked.paymentLock (job : Locked cfg) : VerifyProviderPaymentLockParams where
  token := job.selection.providerRedemptionToken
  amountSats := job.amountSats
  hashHex := job.hash.hash
  providerPubkey := cfg.identity.publicKey
  customerPubkey := job.payload.customerPubkey
  locktimeSeconds := job.selection.execution.locktimeSeconds

/-- The argument of `offer.produce`. -/
def Selected.context (job : Selected cfg) : ProviderSelectionContext where
  spec :=
    { schema := job.selection.execution.schema
      predicate := some job.selection.execution.predicate
      description := job.selection.execution.description
      context := job.selection.execution.context }
  mint := job.selection.execution.mintUrl
  amountSats := job.selection.execution.amountSats
  maxAmountSats := job.selection.execution.maxAmountSats
  locktimeSeconds := job.selection.execution.locktimeSeconds

def Offered.record (job : Offered cfg) (status : ProviderStateStatus)
    (responseEventId : Option String) (now : JsNumber) : ProviderStateRecord where
  requestEventId := job.event.id
  queryId := job.payload.queryId
  customerPubkey := job.payload.customerPubkey
  schema := job.payload.schema
  status := status
  amountSats := job.amountSats
  offerEventId := job.offerEvent.id
  responseEventId := responseEventId
  updatedAt := now

end

/-! ## State -/

/-- The state store. -/
structure Tables where
  store : JsMap String String := .empty

section

variable {N : NostrTools}

/-- Where a job is suspended. -/
inductive Pending (cfg : JobContext N) where
  /-- At `await handler(request)`. -/
  | handling (job : Job cfg)
  /-- At `await relayClient.publish(offerEvent)`. -/
  | publishingOffer (job : Offered cfg)
  | writingOffer (job : Offered cfg)
  | awaitingSelection (job : Offered cfg)
  /-- At `await requestHash(..)` of the client that is given for the Oracle. -/
  | requestingHash (job : Selected cfg)
      (client : cfg.oracleClients.contains job.payload.oraclePubkey = true)
  /-- In `requestHash` of the relay client, at `await relayClient.publish(request)`; the wait for
  the answer may have settled already. -/
  | publishingHash (job : Selected cfg) (ephemeral : Keypair N)
      (settled : Option (Option (OracleHash cfg job.payload)))
  /-- At `await wait.result`. -/
  | awaitingHash (job : Selected cfg) (ephemeral : Keypair N)
  | verifyingLock (job : Locked cfg)
  | producing (job : Locked cfg)
  /-- At `await relayClient.publish(responseEvent)`. -/
  | publishingResult (job : Answered cfg)
  | writingResult (job : Answered cfg)
  | awaitingPreimage (job : Answered cfg)
  | redeeming (job : Answered cfg)
  | writingRedeemed (job : Answered cfg)

/-- The handler, the Oracle clients, the Cashu client, `produce`, the state store and `publish` give
any answer or reject. A relay may deliver any event to a wait at any time, and a wait may time out
at any time: the filter of a subscription is not relied on. -/
inductive Answer where
  | threw
  | resolved
  | offered (offer : Option ProviderOffer)
  | published (successes : List String)
  | relayEvent (event : Protocol.Event)
  | timedOut
  | hash (hash : String)
  | produced (data : Option Json) (proof : ProofEvidence)

/-- What a job does. -/
inductive Event where
  | jobStarted (call : Nat) (event : Protocol.Event)
  | handlerCalled (call : Nat) (request : ProviderRequestEvent)
  | offerPublished (call : Nat) (amountSats : JsNumber) (offerEvent : Protocol.Event)
  | stateWritten (call : Nat) (status : ProviderStateStatus) (key value : String)
  | selectionAccepted (call : Nat) (selectionEvent : Protocol.Event) (selection : Selection)
  | hashRequestPublished (call : Nat) (dm : Protocol.Event)
  | hashReceived (call : Nat) (oraclePubkey queryId hash : String) (source : HashSource)
  | lockVerified (call : Nat) (params : VerifyProviderPaymentLockParams)
  | produceCalled (call : Nat) (context : ProviderSelectionContext)
  | produceResolved (call : Nat) (data : Option Json) (proof : ProofEvidence)
  | resultPublished (call : Nat) (responseEvent : Protocol.Event)
  | preimageReceived (call : Nat) (dm : Protocol.Event) (preimage : String)
  | redeemCalled (call : Nat) (params : RedeemHtlcParams)

/-- The job that an event is about. -/
def Event.callOf : Event → Nat
  | .jobStarted call _ | .handlerCalled call _ | .offerPublished call _ _
  | .stateWritten call _ _ _ | .selectionAccepted call _ _ | .hashRequestPublished call _
  | .hashReceived call _ _ _ _ | .lockVerified call _ | .produceCalled call _
  | .produceResolved call _ _ | .resultPublished call _ | .preimageReceived call _ _
  | .redeemCalled call _ => call

abbrev Turn (cfg : JobContext N) := CallTurn Tables (Pending cfg) Event

/-! ## Turns -/

variable (cfg : JobContext N)

/-- `handleJob`, up to the call of the handler. -/
def handleJob (t : Tables) (call : Nat) (event : Protocol.Event) : Turn cfg :=
  match h : parseQueryRequestEvent cfg.text event with
  | none => { shared := t, events := [.jobStarted call event] }
  | some payload =>
    if horacle : canOfferForRequest cfg.oracles payload.oraclePubkey = true then
      if !cfg.isSchemaUri payload.schema ||
        (!cfg.proofGenerators.isEmpty && (proofGeneratorFor cfg payload.schema).isNone)
      then { shared := t, events := [.jobStarted call event] }
      else
        { shared := t
          events := [.jobStarted call event, .handlerCalled call
            { customerPubkey := payload.customerPubkey
              spec := { schema := payload.schema }
              maxAmountSats := payload.maxAmountSats
              oraclePubkey := payload.oraclePubkey
              proofGenerator := proofGeneratorFor cfg payload.schema
              schemaOptions := cfg.schemaOptions }]
          pending := some (.handling ⟨event, payload, h, horacle⟩) }
    else { shared := t, events := [.jobStarted call event] }

variable {cfg}

def ended (t : Tables) (events : List Event) : Turn cfg := { shared := t, events := events }

/-- `await writeProviderState(..)`, called with the events so far. -/
def writeProviderState (t : Tables) (call : Nat) (events : List Event)
    (record : ProviderStateRecord) (p : Pending cfg) : Turn cfg :=
  let key := providerStateKey record.requestEventId
  let value := record.toJson.stringify cfg.text
  { shared := { store := t.store.set key value }
    events := events ++ [.stateWritten call record.status key value]
    pending := some p }

def handlerReturned (t : Tables) (call : Nat) (job : Job cfg) (offer : Option ProviderOffer)
    (draws : Draws) : Turn cfg :=
  match offer.bind ProviderOffer.amountSats with
  | none => ended t []
  | some amountSats =>
    if amountSats.le (.ofInt 0) then ended t []
    else if h : job.payload.maxAmountSats.lt amountSats = false then
      let offerEvent := buildOfferFeedbackEvent N cfg.text cfg.identity job.event.id
        job.payload.customerPubkey cfg.identity.publicKey amountSats draws.m
      { shared := t
        events := [.offerPublished call amountSats offerEvent]
        pending := some (.publishingOffer
          { job with amountSats, offerEvent, withinBudget := h, built := ⟨draws.m, rfl⟩ }) }
    else ended t []

def offerSent (t : Tables) (call : Nat) (job : Offered cfg) (draws : Draws) : Turn cfg :=
  if cfg.stateStore then
    writeProviderState t call [] (job.record .offerPublished none draws.clockNow)
      (.writingOffer job)
  else { shared := t, pending := some (.awaitingSelection job) }

/-- `getOracleClient(..).requestHash(..)`. -/
def requestHash (t : Tables) (call : Nat) (events : List Event) (job : Selected cfg)
    (draws : Draws) : Turn cfg :=
  if client : cfg.oracleClients.contains job.payload.oraclePubkey = true then
    { shared := t, events := events, pending := some (.requestingHash job client) }
  else if job.payload.oraclePubkey = "" then ended t events
  else
    let ephemeral : Keypair N := ⟨draws.ephemeralKey, N.getPublicKey draws.ephemeralKey, rfl⟩
    match buildHashRequestEvent N cfg.text ephemeral job.payload.oraclePubkey
      { queryId := job.payload.queryId } draws.m with
    | none => ended t events
    | some dm =>
      { shared := t
        events := events ++ [.hashRequestPublished call dm]
        pending := some (.publishingHash job ephemeral none) }

def selectionArrived (t : Tables) (call : Nat) (job : Offered cfg) (event : Protocol.Event)
    (draws : Draws) : Turn cfg :=
  match h : matchSelection cfg job.payload.customerPubkey event with
  | none => { shared := t, pending := some (.awaitingSelection job) }
  | some selection =>
    if hagrees : selection.Agrees cfg job.payload job.amountSats then
      requestHash t call [.selectionAccepted call event selection]
        { job with selectionEvent := event, selection, matched := h, agrees := hagrees } draws
    else ended t []

/-- `verifyProviderPaymentLock(..)`, once the hash is there. -/
def hashReady (t : Tables) (call : Nat) (job : Selected cfg)
    (hash : OracleHash cfg job.payload) : Turn cfg where
  shared := t
  events := [.hashReceived call job.payload.oraclePubkey job.payload.queryId hash.hash hash.source]
  pending := some (.verifyingLock { job with hash })

/-- The hash request was published; `settled` is what the wait has come to meanwhile. -/
def hashRequestSent (t : Tables) (call : Nat) (job : Selected cfg) (ephemeral : Keypair N)
    (settled : Option (Option (OracleHash cfg job.payload))) (successes : List String) : Turn cfg :=
  if successes = [] then ended t []
  else
    match settled with
    | none => { shared := t, pending := some (.awaitingHash job ephemeral) }
    | some none => ended t []
    | some (some hash) => hashReady t call job hash

/-- An event reaches the wait for a hash while the request is being published. The first match
settles the wait. -/
def hashArrivedEarly (t : Tables) (job : Selected cfg) (ephemeral : Keypair N)
    (settled : Option (Option (OracleHash cfg job.payload))) (event : Protocol.Event) :
    Turn cfg where
  shared := t
  pending := some (.publishingHash job ephemeral
    (settled.orElse fun _ => (matchHash cfg job.payload ephemeral.secretKey event).map some))

def hashArrived (t : Tables) (call : Nat) (job : Selected cfg) (ephemeral : Keypair N)
    (event : Protocol.Event) : Turn cfg :=
  match matchHash cfg job.payload ephemeral.secretKey event with
  | none => { shared := t, pending := some (.awaitingHash job ephemeral) }
  | some hash => hashReady t call job hash

/-- The lock is verified: the work begins. -/
def lockResolved (t : Tables) (call : Nat) (job : Locked cfg) : Turn cfg where
  shared := t
  events := [.lockVerified call job.paymentLock, .produceCalled call job.context]
  pending := some (.producing job)

def produceReturned (t : Tables) (call : Nat) (job : Locked cfg) (data : Option Json)
    (proof : ProofEvidence) (draws : Draws) : Turn cfg :=
  match buildQueryResponseEvent N cfg.text cfg.identity job.event.id job.payload.customerPubkey
    job.payload.schema data proof (some job.payload.oraclePubkey) (some job.payload.queryId)
    draws.m draws.oracleNonce with
  | none => ended t [.produceResolved call data proof]
  | some responseEvent =>
    { shared := t
      events := [.produceResolved call data proof, .resultPublished call responseEvent]
      pending := some (.publishingResult { job with responseEvent }) }

def resultSent (t : Tables) (call : Nat) (job : Answered cfg) (draws : Draws) : Turn cfg :=
  if cfg.stateStore then
    writeProviderState t call []
      (job.record .resultPublished (some job.responseEvent.id) draws.clockNow) (.writingResult job)
  else { shared := t, pending := some (.awaitingPreimage job) }

def preimageArrived (t : Tables) (call : Nat) (job : Answered cfg) (event : Protocol.Event) :
    Turn cfg :=
  match Oracle.matchPreimage N cfg.text cfg.identity job.payload.oraclePubkey job.payload.queryId
    job.event.id event with
  | none => { shared := t, pending := some (.awaitingPreimage job) }
  | some preimage =>
    { shared := t
      events := [.preimageReceived call event preimage, .redeemCalled call
        { token := job.selection.providerRedemptionToken
          preimageHex := preimage
          providerSecretKey := cfg.identity.secretKey }]
      pending := some (.redeeming job) }

def redeemed (t : Tables) (call : Nat) (job : Answered cfg) (draws : Draws) : Turn cfg :=
  if cfg.stateStore then
    writeProviderState t call []
      (job.record .redeemed (some job.responseEvent.id) draws.clockNow) (.writingRedeemed job)
  else ended t []

/-! ## The service -/

variable (cfg)

/-- A suspended job gets an answer of the kind it waits for. -/
def resume (t : Tables) (call : Nat) (p : Pending cfg) (b : Answer × Draws) : Option (Turn cfg) :=
  match p, b.1 with
  | _, .threw => some (ended t [])
  | .handling job, .offered offer => some (handlerReturned t call job offer b.2)
  | .publishingOffer job, .published _ => some (offerSent t call job b.2)
  | .writingOffer job, .resolved => some { shared := t, pending := some (.awaitingSelection job) }
  | .awaitingSelection job, .relayEvent event => some (selectionArrived t call job event b.2)
  | .awaitingSelection _, .timedOut => some (ended t [])
  | .requestingHash job client, .hash hash =>
    some (hashReady t call job ⟨hash, .client, client⟩)
  | .publishingHash job ephemeral settled, .published successes =>
    some (hashRequestSent t call job ephemeral settled successes)
  | .publishingHash job ephemeral settled, .relayEvent event =>
    some (hashArrivedEarly t job ephemeral settled event)
  | .publishingHash job ephemeral settled, .timedOut =>
    some { shared := t
           pending := some (.publishingHash job ephemeral (settled.orElse fun _ => some none)) }
  | .awaitingHash job ephemeral, .relayEvent event => some (hashArrived t call job ephemeral event)
  | .awaitingHash _ _, .timedOut => some (ended t [])
  | .verifyingLock job, .resolved => some (lockResolved t call job)
  | .producing job, .produced data proof => some (produceReturned t call job data proof b.2)
  | .publishingResult job, .published _ => some (resultSent t call job b.2)
  | .writingResult job, .resolved => some { shared := t, pending := some (.awaitingPreimage job) }
  | .awaitingPreimage job, .relayEvent event => some (preimageArrived t call job event)
  | .awaitingPreimage _, .timedOut => some (ended t [])
  | .redeeming job, .resolved => some (redeemed t call job b.2)
  | .writingRedeemed _, .resolved => some (ended t [])
  | _, _ => none

/-- The service. -/
def providerService :
    CallService Tables (Pending cfg) Event Protocol.Event (Answer × Draws) where
  begin := handleJob cfg
  resume := resume cfg

variable {cfg} in
theorem handleJob_of_job (job : Job cfg) (hschema : cfg.isSchemaUri job.payload.schema = true)
    (hgenerators : cfg.proofGenerators = []) (t : Tables) (call : Nat) :
    ∃ request, handleJob cfg t call job.event =
      { shared := t
        events := [.jobStarted call job.event, .handlerCalled call request]
        pending := some (.handling job) } := by
  unfold handleJob
  split
  next h => cases h.symm.trans job.parsed
  next payload h =>
    obtain rfl := Option.some.inj (h.symm.trans job.parsed)
    rw [dif_pos job.whitelisted, if_neg (by simp [hschema, hgenerators])]
    exact ⟨_, rfl⟩

/-- No job has begun; the store may hold anything. -/
def initialState (store : JsMap String String) : CallState Tables (Pending cfg) where
  shared := { store := store }

end

end Anchr.Provider
