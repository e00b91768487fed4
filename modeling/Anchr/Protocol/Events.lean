import Anchr.Protocol.Nostr

/-!
# Anchr payloads in events

Builders and parsers of `packages/protocol/src/events.ts`. The payload records leave out the
version, which is always `0`.
-/

namespace Anchr.Protocol

open Infra

/-- Every format of this module is at version `0`. -/
def payloadVersion : JsNumber := .ofInt 0

variable (N : NostrTools) (T : NumberText)

/-! ## Shared parts -/

def stringifyPayload (payload : List (String × Json)) (version : JsNumber) : String :=
  (Json.obj (payload ++ [("version", .num version)])).stringify T

def hasVersion (payload : Json) (version : JsNumber) : Bool := payload.hasNumber "version" version

/-- `JSON.parse`, of an object or an array. -/
def parseObject (text : String) : Option Json := (Json.parse T text).filter Json.isObject

/-- The decrypted JSON object of a direct message. -/
def decryptDmJson (event : Event) (recipientSecretKey senderPubkey : String) : Option Json :=
  if event.kind ≠ kindDirectMessage then none
  else (decryptNip44 N event.content recipientSecretKey senderPubkey).bind (parseObject T)

/-- A kind 4 event to the recipient, with the text encrypted. -/
def encryptedDm (identity : Keypair N) (recipientPubkey text : String) (m : Moment) :
    Option Event :=
  (encryptNip44 N text identity.secretKey recipientPubkey m.nonce).map fun ciphertext =>
    signEvent N
      { kind := kindDirectMessage
        createdAt := (m.nowMs.scale (1 / 1000)).floor
        tags := [["p", recipientPubkey]]
        content := ciphertext }
      identity.secretKey

/-! ## Preimage delivery -/

structure PreimageDeliveryPayload where
  queryId : String
  requestEventId : String
  preimage : String
  deriving DecidableEq

def buildPreimageDeliveryEvent (identity : Keypair N) (recipientPubkey : String)
    (payload : PreimageDeliveryPayload) (m : Moment) : Option Event :=
  encryptedDm N identity recipientPubkey
    (stringifyPayload T
      [("query_id", .str payload.queryId), ("request_event_id", .str payload.requestEventId),
        ("preimage", .str payload.preimage)] payloadVersion) m

def parsePreimageDeliveryEvent (event : Event) (recipientSecretKey senderPubkey : String) :
    Option PreimageDeliveryPayload := do
  let p ← decryptDmJson N T event recipientSecretKey senderPubkey
  if !hasVersion p payloadVersion then none
  else
    let queryId ← p.string? "query_id"
    let requestEventId ← p.string? "request_event_id"
    let preimage ← p.string? "preimage"
    return { queryId, requestEventId, preimage }

/-! ## Hash bootstrap -/

structure HashRequestPayload where
  queryId : String
  deriving DecidableEq

structure HashResponsePayload where
  queryId : String
  hash : String
  deriving DecidableEq

def buildHashRequestEvent (identity : Keypair N) (oraclePubkey : String)
    (payload : HashRequestPayload) (m : Moment) : Option Event :=
  encryptedDm N identity oraclePubkey
    (stringifyPayload T [("type", .str "hash_request"), ("query_id", .str payload.queryId)]
      payloadVersion) m

def parseHashRequestEvent (event : Event) (recipientSecretKey senderPubkey : String) :
    Option HashRequestPayload := do
  let p ← decryptDmJson N T event recipientSecretKey senderPubkey
  if !hasVersion p payloadVersion || p.string? "type" ≠ some "hash_request" then none
  else
    let queryId ← p.string? "query_id"
    return { queryId }

def buildHashResponseEvent (identity : Keypair N) (recipientPubkey : String)
    (payload : HashResponsePayload) (m : Moment) : Option Event :=
  encryptedDm N identity recipientPubkey
    (stringifyPayload T
      [("type", .str "hash_response"), ("query_id", .str payload.queryId),
        ("hash", .str payload.hash)] payloadVersion) m

def parseHashResponseEvent (event : Event) (recipientSecretKey senderPubkey : String) :
    Option HashResponsePayload := do
  let p ← decryptDmJson N T event recipientSecretKey senderPubkey
  if !hasVersion p payloadVersion || p.string? "type" ≠ some "hash_response" then none
  else
    let queryId ← p.string? "query_id"
    let hash ← p.string? "hash"
    return { queryId, hash }

/-! ## Results and offers -/

/-- The copy of a result that is made for the Oracle. -/
structure OracleQueryResponsePayload where
  schema : String
  queryId : String
  requestEventId : String
  data : Json
  proof : String

/-- The Oracle's copy of a result. -/
def parseOracleQueryResponseEvent (event : Event) (oracleSecretKey providerPubkey : String) :
    Option OracleQueryResponsePayload := do
  if event.kind ≠ kindQueryResponse then none
  else
    let ciphertext ← findFilledTag event.tags "oracle_payload"
    let plaintext ← decryptNip44 N ciphertext oracleSecretKey providerPubkey
    let p ← parseObject T plaintext
    if !hasVersion p payloadVersion then none
    else
      let schema ← p.string? "schema"
      let queryId ← p.string? "query_id"
      let requestEventId ← p.string? "request_event_id"
      let data ← p.get? "data"
      let proof ← p.string? "proof"
      return { schema, queryId, requestEventId, data, proof }

structure ParsedOfferFeedback where
  providerPubkey : String
  amountSats : JsNumber
  requestEventId : String
  customerPubkey : String

/-- An offer. -/
def parseOfferFeedbackEvent (event : Event) : Option ParsedOfferFeedback := do
  if event.kind ≠ kindQueryFeedback then none
  else
    let p ← parseObject T event.content
    if !hasVersion p payloadVersion || p.string? "status" ≠ some "payment-required" then none
    else
      let providerPubkey ← p.string? "provider_pubkey"
      let amountSats ← p.number? "amount_sats"
      if providerPubkey ≠ event.pubkey then none
      else
        let requestEventId ← findFilledTag event.tags "e"
        let customerPubkey ← findFilledTag event.tags "p"
        return { providerPubkey, amountSats, requestEventId, customerPubkey }

/-! ## Reading back -/

variable {N T}

theorem parseObject_stringifyPayload {payload : List (String × Json)} {version : JsNumber}
    (h : (Json.obj (payload ++ [("version", .num version)])).Doubles T) :
    parseObject T (stringifyPayload T payload version) =
      some (.obj (payload ++ [("version", .num version)])) := by
  simp [parseObject, stringifyPayload, Json.parse_stringify h, Json.isObject]

theorem decryptDmJson_encryptedDm (hN : N.Lawful) {sender recipient : Keypair N} {value : Json}
    {m : Moment} {event : Event} (hv : value.Doubles T) (hobj : value.isObject = true)
    (h : encryptedDm N sender recipient.publicKey (value.stringify T) m = some event) :
    decryptDmJson N T event recipient.secretKey sender.publicKey = some value := by
  obtain ⟨ciphertext, henc, rfl⟩ := Option.map_eq_some_iff.mp h
  have hdec := decryptNip44_encryptNip44 hN henc
  simp [decryptDmJson, signEvent, hdec, parseObject, Json.parse_stringify hv, hobj]

end Anchr.Protocol
