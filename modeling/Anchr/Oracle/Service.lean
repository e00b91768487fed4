import Anchr.Infra.CallService
import Anchr.Oracle.Messages

/-!
# The Oracle Nostr service

`createOracleNostrService` of `adapters/nostr/oracle-service.ts` with the hash responder of
`adapters/nostr/hash-responder.ts` and the preimage store behind `issueQueryHash`, as a service with
suspended calls. Every `await` of the source is a suspension.
-/

namespace Anchr.Oracle

open Infra Protocol Requests

/-! ## Configuration -/

/-- `OracleNostrServiceConfig`, and what the service calls outside its own modules. -/
structure Config (N : NostrTools) where
  text : NumberText
  identity : Keypair N
  /-- Whether `frostCoordinator` and `frostConfig` are given. -/
  frostCoordinator : Bool := false
  frostConfig : Bool := false
  /-- The group public key of `frostNodeConfig`. -/
  frostNodeConfig : Option String := none
  deliveryRetryDelaysMs : Option (List JsNumber) := none
  /-- The SHA-256 of the bytes a hex preimage stands for, in hex. -/
  sha256 : String → String
  resolveSchemaEvidence : String → Json → String → Option Json
  deriveFrostP2pkMessages : String → Option (List String)
  deriveFrostSigningMessage : String → String

/-! ## State -/

/-- What the service remembers. `PreimageStore.create` and `delete` change the entries when they are
called and may settle at any later turn, also by rejecting. This is what both stores of
`payments/cashu/preimage-store.ts` do. -/
structure Tables where
  /-- The entries of the preimage store: hash to preimage. -/
  preimages : JsMap String String
  queryHashMap : JsMap String String := .empty
  /-- `issued` of the hash responder. -/
  issued : JsMap String String := .empty
  watched : JsMap String WatchedQuery := .empty
  /-- The query ids that have been given a hash so far. No code reads it. -/
  committed : List String := []

structure DeliveryOutcome where
  passed : Bool
  terminal : Bool

inductive Asker where
  | generateRequestHash
  | hashRequest (sender : String)

inductive Caller where
  | handleResponseEvent
  | verifyAndDeliver

structure Delivery where
  caller : Caller
  queryId : String
  query : Query
  result : QueryResult
  providerPubkey : String

/-- Where a call is suspended, with its local variables. -/
inductive Pending where
  /-- In `issueQueryHash`, at `await preimageStore.create()`. -/
  | creating (asker : Asker) (queryId hash : String)
  /-- At `await issueHash(..)`, which will give the hash. -/
  | issuing (asker : Asker) (queryId hash : String)
  /-- In `verifyAndDeliverInternal`, at `await verifyFn(..)`. -/
  | verifying (d : Delivery)
  /-- At `await preimageStore.getPreimage(hash)`. -/
  | reading (d : Delivery) (detail : VerificationDetail) (hash : String) (preimage : Option String)
  /-- At `await relayClient.publish(dm)`. -/
  | delivering (d : Delivery) (hash preimage : String) (dm : Protocol.Event) (attempt : Nat)
  /-- At the delay before the next attempt. -/
  | retrying (d : Delivery) (hash preimage : String) (dm : Protocol.Event) (attempt : Nat)
  /-- At `await preimageStore.delete(hash)`. -/
  | deleting (d : Delivery) (hash : String)
  /-- In `verifyAndDeliverWithFrostInternal`, at `await verifyFn(..)`. -/
  | verifyingFrost (d : Delivery) (groupPubkey : String)
  /-- At `await coordinateSigning(..)`, with the messages still to sign. -/
  | signing (d : Delivery) (groupPubkey : String) (rest groupSignatures : List String)
  /-- At `await relayClient.publish(dm)` of a group signature. -/
  | deliveringFrost (d : Delivery)
  /-- At `await relayClient.publish(dm)` of a rejection. -/
  | rejecting (d : Delivery)
  /-- At `await dispatchVerifyAndDeliver(..)`, which will give the outcome. -/
  | settling (d : Delivery) (outcome : DeliveryOutcome)

/-- Whether what the call awaits can reject. The hash of `issuing` and the outcome of `settling` are
there already, and a delay does not reject. -/
def Pending.mayThrow : Pending → Bool
  | .issuing .. | .retrying .. | .settling .. => false
  | _ => true

/-- The verifier, the relay's `publish` and `coordinateSigning` give any answer or reject. -/
inductive Answer where
  | threw
  /-- The promise resolves, with nothing or with what the call already holds. -/
  | resolved
  | verified (detail : VerificationDetail)
  | published (successes : List String)
  | signed (signature : Option String)

/-- What happens that the properties speak about. -/
inductive Event where
  /-- The store has a new entry, made for the query id. -/
  | preimageCreated (call : Nat) (queryId hash preimage : String)
  /-- `queryHashMap.set(queryId, hash)`. -/
  | hashIssued (call : Nat) (queryId hash : String)
  | hashReturned (call : Nat) (queryId hash : String)
  | hashSent (call : Nat) (queryId hash recipient : String) (dm : Protocol.Event)
  /-- A result event for a watched request passed the checks of `handleResponseEvent`. -/
  | resultAccepted (call : Nat) (queryId : String) (entry : WatchedQuery) (event : Protocol.Event)
      (payload : OracleQueryResponsePayload)
  | verified (call : Nat) (query : Query) (result : QueryResult) (passed : Bool)
  | preimageRead (call : Nat) (hash : String) (preimage : Option String)
  | preimagePublished (call : Nat) (queryId providerPubkey hash preimage : String)
      (dm : Protocol.Event)
  /-- The relay answered an attempt with these successes. -/
  | attemptAnswered (call : Nat) (dm : Protocol.Event) (successes : List String)
  | preimageDeleted (call : Nat) (hash : String)
  | rejectionPublished (call : Nat) (queryId providerPubkey reason : String) (dm : Protocol.Event)
  | signaturePublished (call : Nat) (queryId providerPubkey : String) (signatures : List String)
      (dm : Protocol.Event)
  /-- `onOffer`. -/
  | offered (queryId : String) (offer : ParsedOfferFeedback)
  /-- `onVerification`, or the resolution of `verifyAndDeliver`. -/
  | settled (call : Nat) (queryId providerPubkey : String) (passed : Bool)

/-- The hash that leaves the service, and its query. -/
def Event.commitment : Event → Option (String × String)
  | .hashReturned _ queryId hash | .hashSent _ queryId hash _ _ => some (queryId, hash)
  | _ => none

/-- The query, the Provider and the preimage of a release. -/
def Event.release : Event → Option (String × String × String)
  | .preimagePublished _ queryId providerPubkey _ preimage _ =>
    some (queryId, providerPubkey, preimage)
  | _ => none

abbrev Turn := CallTurn Tables Pending Event

/-! ## Hash issuance -/

section

variable {N : NostrTools} (cfg : Config N)

/-- `issueHash`, called by `asker`. `preimage` is what the store draws if it has to create one. -/
def issueHash (t : Tables) (call : Nat) (asker : Asker) (queryId preimage : String) : Turn :=
  match t.queryHashMap.get? queryId with
  | some existing => { shared := t, pending := some (.issuing asker queryId existing) }
  | none =>
    let hash := cfg.sha256 preimage
    { shared := { t with preimages := t.preimages.set hash preimage }
      events := [.preimageCreated call queryId hash preimage]
      pending := some (.creating asker queryId hash) }

/-- After `await preimageStore.create()` in `issueQueryHash`. -/
def created (t : Tables) (call : Nat) (asker : Asker) (queryId hash : String) : Turn where
  shared := { t with
    queryHashMap := t.queryHashMap.set queryId hash
    committed := queryId :: t.committed }
  events := [.hashIssued call queryId hash]
  pending := some (.issuing asker queryId hash)

/-- The end of the responder's callback: build and publish the answer. Nobody awaits the publish,
and a builder that throws is logged. -/
def respond (t : Tables) (call : Nat) (sender queryId hash : String) (m : Moment) : Turn :=
  match buildHashResponseEvent N cfg.text cfg.identity sender { queryId, hash } m with
  | none => { shared := t }
  | some dm => { shared := t, events := [.hashSent call queryId hash sender dm] }

/-- After `await issueHash(..)`. -/
def hashReady (t : Tables) (call : Nat) (asker : Asker) (queryId hash : String) (m : Moment) :
    Turn :=
  match asker with
  | .generateRequestHash => { shared := t, events := [.hashReturned call queryId hash] }
  | .hashRequest sender =>
    respond cfg { t with issued := t.issued.set queryId hash } call sender queryId hash m

def handleHashRequest (t : Tables) (call : Nat) (event : Protocol.Event) (preimage : String)
    (m : Moment) : Turn :=
  match parseHashRequestEvent N cfg.text event cfg.identity.secretKey event.pubkey with
  | none => { shared := t }
  | some request =>
    match t.issued.get? request.queryId with
    | some hash => respond cfg t call event.pubkey request.queryId hash m
    | none => issueHash cfg t call (.hashRequest event.pubkey) request.queryId preimage

/-! ## Verify and deliver -/

/-- The turn ends the call with an exception: logged by `handleResponseEvent`, passed on by the
direct methods. -/
def throwing (t : Tables) (events : List Event) : Turn := { shared := t, events := events }

/-- `return outcome` to the `await` of the caller. -/
def returning (t : Tables) (d : Delivery) (events : List Event) (outcome : DeliveryOutcome) :
    Turn :=
  { shared := t, events := events, pending := some (.settling d outcome) }

/-- Build a rejection and publish it. -/
def reject (t : Tables) (call : Nat) (d : Delivery) (events : List Event) (reason : String)
    (m : Moment) : Turn :=
  match buildRejectionDM N cfg.text cfg.identity d.providerPubkey d.queryId reason m with
  | none => throwing t events
  | some dm =>
    { shared := t
      events := events ++ [.rejectionPublished call d.queryId d.providerPubkey reason dm]
      pending := some (.rejecting d) }

/-- `detail.failures.join(", ") || "Verification failed"`. -/
def rejectionReason (detail : VerificationDetail) : String :=
  let joined := ", ".intercalate detail.failures
  if joined = "" then "Verification failed" else joined

/-- `relayClient.publish(dm)`, for the given attempt. -/
def attempt (t : Tables) (call : Nat) (d : Delivery) (events : List Event)
    (hash preimage : String) (dm : Protocol.Event) (n : Nat) : Turn where
  shared := t
  events := events ++ [.preimagePublished call d.queryId d.providerPubkey hash preimage dm]
  pending := some (.delivering d hash preimage dm n)

/-- `verifyAndDeliverInternal` once detail and preimage are there: deliver or reject. -/
def deliver (t : Tables) (call : Nat) (d : Delivery) (detail : VerificationDetail)
    (events : List Event) (hash : String) (preimage : Option String) (m : Moment) : Turn :=
  match preimage with
  | some p =>
    if detail.passed ∧ p ≠ "" ∧ hash ≠ "" then
      match buildPreimageDM N cfg.text cfg.identity d.providerPubkey d.queryId p m with
      | none => throwing t events
      | some dm => attempt t call d events hash p dm 1
    else reject cfg t call d events (rejectionReason detail) m
  | none => reject cfg t call d events (rejectionReason detail) m

/-- After `await verifyFn(..)` in `verifyAndDeliverInternal`. -/
def verifiedTurn (t : Tables) (call : Nat) (d : Delivery) (detail : VerificationDetail)
    (m : Moment) : Turn :=
  let verified := Event.verified call d.query d.result detail.passed
  match t.queryHashMap.get? d.queryId with
  | some hash =>
    if hash ≠ "" then
      { shared := t
        events := [verified, .preimageRead call hash (t.preimages.get? hash)]
        pending := some (.reading d detail hash (t.preimages.get? hash)) }
    else deliver cfg t call d detail [verified] hash none m
  | none => deliver cfg t call d detail [verified] "" none m

def retryDelaysMs : List JsNumber := cfg.deliveryRetryDelaysMs.getD [.ofInt 2000, .ofInt 4000]

def attemptAnswered (t : Tables) (call : Nat) (d : Delivery) (hash preimage : String)
    (dm : Protocol.Event) (n : Nat) (successes : List String) : Turn :=
  let answered := Event.attemptAnswered call dm successes
  if successes ≠ [] then
    { shared := { t with preimages := t.preimages.delete hash }
      events := [answered, .preimageDeleted call hash]
      pending := some (.deleting d hash) }
  else if n ≤ (retryDelaysMs cfg).length then
    { shared := t, events := [answered], pending := some (.retrying d hash preimage dm n) }
  else returning t d [answered] { passed := false, terminal := false }

/-- The rounds of the signing loop that are left. -/
def signingTurn (t : Tables) (call : Nat) (d : Delivery) (groupPubkey : String)
    (events : List Event) (messages groupSignatures : List String) (m : Moment) : Turn :=
  match messages with
  | _ :: rest =>
    { shared := t, events := events
      pending := some (.signing d groupPubkey rest groupSignatures) }
  | [] =>
    match buildFrostSignatureDM N cfg.text cfg.identity d.providerPubkey d.queryId groupSignatures
      groupPubkey m with
    | none => throwing t events
    | some dm =>
      { shared := t
        events := events ++
          [.signaturePublished call d.queryId d.providerPubkey groupSignatures dm]
        pending := some (.deliveringFrost d) }

def frostEscrowToken (query : Query) : Option String :=
  query.escrow.bind fun e =>
    match e.type with
    | .p2pkFrost _ => e.escrowToken
    | .htlc _ => none

/-- The messages to sign; `none` when the token cannot be decoded. -/
def frostMessages (d : Delivery) : Option (List String) :=
  match frostEscrowToken d.query with
  | some token =>
    if token ≠ "" then cfg.deriveFrostP2pkMessages token
    else some [cfg.deriveFrostSigningMessage d.queryId]
  | none => some [cfg.deriveFrostSigningMessage d.queryId]

/-- After `await verifyFn(..)` in `verifyAndDeliverWithFrostInternal`. -/
def verifiedFrostTurn (t : Tables) (call : Nat) (d : Delivery) (groupPubkey : String)
    (detail : VerificationDetail) (m : Moment) : Turn :=
  let verified := Event.verified call d.query d.result detail.passed
  if !detail.passed then reject cfg t call d [verified] (rejectionReason detail) m
  else
    match frostMessages cfg d with
    | none => throwing t [verified]
    | some messages => signingTurn cfg t call d groupPubkey [verified] messages [] m

def rejectQuorumWithoutFrost (t : Tables) (call : Nat) (d : Delivery) (events : List Event)
    (m : Moment) : Turn :=
  reject cfg t call d events
    "Quorum verification requested but FROST is not configured on this Oracle" m

def dispatchVerifyAndDeliver (t : Tables) (call : Nat) (d : Delivery) (events : List Event)
    (m : Moment) : Turn :=
  if d.query.quorum.isSome then
    match cfg.frostCoordinator && cfg.frostConfig, cfg.frostNodeConfig with
    | true, some groupPubkey =>
      { shared := t, events := events, pending := some (.verifyingFrost d groupPubkey) }
    | _, _ => rejectQuorumWithoutFrost cfg t call d events m
  else { shared := t, events := events, pending := some (.verifying d) }

def unwatchRequest (t : Tables) (queryId : String) : Tables :=
  { t with watched := t.watched.delete queryId }

def settle (t : Tables) (call : Nat) (d : Delivery) (outcome : DeliveryOutcome) : Turn where
  shared := if outcome.terminal then unwatchRequest t d.queryId else t
  events := [.settled call d.queryId d.providerPubkey outcome.passed]

def handleResponseEvent (t : Tables) (call : Nat) (queryId : String) (event : Protocol.Event)
    (m : Moment) : Turn :=
  match t.watched.get? queryId with
  | none => { shared := t }
  | some entry =>
    match entry.selectedProviderPubkey with
    | none => { shared := t }
    | some selected =>
      if selected = "" ∨ event.pubkey ≠ selected then { shared := t }
      else
        match parseOracleQueryResponseEvent N cfg.text event cfg.identity.secretKey
          event.pubkey with
        | none => { shared := t }
        | some payload =>
          if payload.queryId ≠ entry.query.id ∨ payload.requestEventId ≠ entry.queryEventId then
            { shared := t }
          else
            dispatchVerifyAndDeliver cfg t call
              { caller := .handleResponseEvent
                queryId := queryId
                query := entry.query
                result := oracleResponseToResult cfg.resolveSchemaEvidence entry.query payload
                providerPubkey := event.pubkey }
              [.resultAccepted call queryId entry event payload] m

/-! ## The service -/

/-- A relay may deliver any event for any query id at any time. Neither the filter of a subscription
nor that it has been closed is relied on. -/
inductive Request where
  | generateRequestHash (queryId preimage : String)
  /-- A kind 4 event reaches the hash responder. -/
  | directMessage (event : Protocol.Event) (preimage : String) (m : Moment)
  | watchRequest (request : Query) (queryEventId customerPubkey : String)
  | recordSelectedProvider (queryId providerPubkey : String)
  /-- An event reaches the feedback subscription of a query id. -/
  | feedbackEvent (queryId : String) (event : Protocol.Event)
  /-- An event reaches the response subscription of a query id. -/
  | responseEvent (queryId : String) (event : Protocol.Event) (m : Moment)
  | verifyAndDeliver (queryId : String) (query : Query) (result : QueryResult)
      (providerPubkey : String) (m : Moment)
  | verifyAndDeliverWithFrost (queryId : String) (query : Query) (result : QueryResult)
      (providerPubkey : String) (m : Moment)
  | stop

def begin (t : Tables) (call : Nat) : Request → Turn
  | .generateRequestHash queryId preimage =>
    issueHash cfg t call .generateRequestHash queryId preimage
  | .directMessage event preimage m => handleHashRequest cfg t call event preimage m
  | .watchRequest request queryEventId customerPubkey =>
    { shared := { t with
        watched := t.watched.set request.id { query := request, queryEventId, customerPubkey } } }
  | .recordSelectedProvider queryId providerPubkey =>
    match t.watched.get? queryId with
    | none => { shared := t }
    | some entry =>
      { shared := { t with
          watched := t.watched.set queryId
            { entry with selectedProviderPubkey := some providerPubkey } } }
  | .feedbackEvent queryId event =>
    match t.watched.get? queryId with
    | none => { shared := t }
    | some entry =>
      match handleFeedbackEvent cfg.text entry event with
      | none => { shared := t }
      | some (entry', offer) =>
        { shared := { t with watched := t.watched.set queryId entry' }
          events := [.offered queryId offer] }
  | .responseEvent queryId event m => handleResponseEvent cfg t call queryId event m
  | .verifyAndDeliver queryId query result providerPubkey m =>
    dispatchVerifyAndDeliver cfg t call
      { caller := .verifyAndDeliver, queryId, query, result, providerPubkey } [] m
  | .verifyAndDeliverWithFrost queryId query result providerPubkey m =>
    let d : Delivery := { caller := .verifyAndDeliver, queryId, query, result, providerPubkey }
    match cfg.frostNodeConfig with
    | none => rejectQuorumWithoutFrost cfg t call d [] m
    | some groupPubkey => { shared := t, pending := some (.verifyingFrost d groupPubkey) }
  | .stop => { shared := { t with watched := .empty } }

/-- A suspended call gets an answer of the kind it waits for. -/
def resume (t : Tables) (call : Nat) (p : Pending) (b : Answer × Moment) : Option Turn :=
  match p, b.1 with
  | p, .threw => if p.mayThrow then some (throwing t []) else none
  | .creating asker queryId hash, .resolved => some (created t call asker queryId hash)
  | .issuing asker queryId hash, .resolved => some (hashReady cfg t call asker queryId hash b.2)
  | .verifying d, .verified detail => some (verifiedTurn cfg t call d detail b.2)
  | .reading d detail hash preimage, .resolved =>
    some (deliver cfg t call d detail [] hash preimage b.2)
  | .delivering d hash preimage dm n, .published successes =>
    some (attemptAnswered cfg t call d hash preimage dm n successes)
  | .retrying d hash preimage dm n, .resolved =>
    some (attempt t call d [] hash preimage dm (n + 1))
  | .deleting d _, .resolved =>
    some (returning { t with queryHashMap := t.queryHashMap.delete d.queryId } d []
      { passed := true, terminal := true })
  | .verifyingFrost d groupPubkey, .verified detail =>
    some (verifiedFrostTurn cfg t call d groupPubkey detail b.2)
  | .signing d groupPubkey rest groupSignatures, .signed (some signature) =>
    some (signingTurn cfg t call d groupPubkey [] rest (groupSignatures ++ [signature]) b.2)
  | .signing d _ _ _, .signed none =>
    some (reject cfg t call d []
      "FROST threshold not met — insufficient Oracle approvals" b.2)
  | .deliveringFrost d, .published successes =>
    some (returning t d []
      (if successes ≠ [] then { passed := true, terminal := true }
        else { passed := false, terminal := false }))
  | .rejecting d, .published _ => some (returning t d [] { passed := false, terminal := true })
  | .settling d outcome, .resolved => some (settle t call d outcome)
  | _, _ => none

/-- The service. -/
def oracleService : CallService Tables Pending Event Request (Answer × Moment) where
  begin := begin cfg
  resume := resume cfg

end

/-- Only the store has entries. -/
def initialState (preimages : JsMap String String) : CallState Tables Pending where
  shared := { preimages := preimages }

/-! ## A service for fixed inputs -/

def plainKey (a b : String) : String := if a ≤ b then a ++ "/" ++ b else b ++ "/" ++ a

theorem plainKey_comm (a b : String) : plainKey a b = plainKey b a := by
  unfold plainKey
  by_cases hab : a ≤ b <;> by_cases hba : b ≤ a
  · rw [String.le_antisymm hab hba]
  · rw [if_pos hab, if_neg hba]
  · rw [if_neg hab, if_pos hba]
  · exact absurd ((String.le_total a b).resolve_left hab) hba

/-- Encryption that puts the conversation key in front of the text. Under another key it does not
decrypt. -/
def plainNostr : NostrTools where
  getPublicKey secretKey := secretKey
  getConversationKey secretKey pubkey := some (plainKey secretKey pubkey)
  nip44Encrypt content key _ := some (key ++ content)
  nip44Decrypt ciphertext key :=
    if key.toList.isPrefixOf ciphertext.toList then
      some (String.ofList (ciphertext.toList.drop key.toList.length))
    else none
  getEventHash pubkey template := pubkey ++ template.content

theorem plainNostr_lawful : plainNostr.Lawful where
  conversation_symm a b key h := by
    rw [← h]
    exact congrArg some (plainKey_comm b a)
  decrypt_encrypt content key nonce ciphertext h := by
    cases h
    simp [plainNostr]

theorem decryptNip44_plainNostr (sender recipient text : String) :
    decryptNip44 plainNostr (plainKey sender recipient ++ text) recipient sender = some text := by
  simp [decryptNip44, plainNostr, plainKey_comm recipient sender]

def plainKeypair (key : String) : Keypair plainNostr := ⟨key, key, rfl⟩

/-- An Oracle without FROST. -/
def plainConfig : Config plainNostr where
  text := .safeIntegers
  identity := plainKeypair "oracle"
  sha256 preimage := "hash of " ++ preimage
  resolveSchemaEvidence _ _ _ := none
  deriveFrostP2pkMessages _ := none
  deriveFrostSigningMessage queryId := queryId

def plainQuery : Query where
  id := "q"
  status := .processing
  description := "weather"
  verificationRequirements := []
  createdAt := .ofInt 0
  expiresAt := .ofInt 600000
  paymentStatus := .escrowSwapped

def plainMoment : Moment := { nonce := "nonce", nowMs := .ofInt 1000 }

def plainResult : Protocol.Event where
  id := "r"
  pubkey := "pk"
  kind := kindQueryResponse
  createdAt := .ofInt 1
  tags := [["oracle_payload", plainKey "oracle" "pk" ++ stringifyPayload .safeIntegers
    [("schema", .str "s"), ("query_id", .str "q"), ("request_event_id", .str "e"),
      ("data", .obj []), ("proof", .str "p")] payloadVersion]]
  content := ""

def passedDetail : VerificationDetail where
  passed := true
  checks := []
  failures := []

/-- Watch the request, select `pk`, and take its result to a delivered preimage. The first of these
calls has the given number. -/
def deliveryActions (call : Nat) : List (CallAction Request (Answer × Moment)) :=
  [.begin (.watchRequest plainQuery "e" "customer"),
    .begin (.recordSelectedProvider "q" "pk"),
    .begin (.responseEvent "q" plainResult plainMoment),
    .resume (call + 2) (.verified passedDetail, plainMoment),
    .resume (call + 2) (.resolved, plainMoment),
    .resume (call + 2) (.published ["relay"], plainMoment),
    .resume (call + 2) (.resolved, plainMoment),
    .resume (call + 2) (.resolved, plainMoment)]

def hashActions (call : Nat) (preimage : String) : List (CallAction Request (Answer × Moment)) :=
  [.begin (.generateRequestHash "q" preimage), .resume call (.resolved, plainMoment),
    .resume call (.resolved, plainMoment)]

end Anchr.Oracle
