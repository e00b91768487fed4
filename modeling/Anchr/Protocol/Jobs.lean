import Anchr.Infra.Text
import Anchr.Protocol.Events

/-!
# Requests, offers, selections and results

The rest of `packages/protocol/src/events.ts` that a Provider uses: it reads requests and
selections, and writes offers and results.
-/

namespace Anchr.Protocol

open Infra

variable (N : NostrTools) (T : NumberText)

def findTagValue (event : Event) (key : String) : Option String :=
  (event.tags.find? fun tag => tag.head? = some key).bind (·[1]?)

/-! ## Requests -/

structure QueryRequestPayload where
  queryId : String
  schema : String
  customerPubkey : String
  oraclePubkey : String
  maxAmountSats : JsNumber
  expiresAt : JsNumber

/-- What only the selected Provider may see does not stand in a Request Notice. -/
def providerOnlyFields : List String :=
  ["predicate", "context", "mint_url", "payment_lock_token", "payment_lock", "bounty_token",
    "provider_redemption_token", "locktime_seconds"]

/-- The Request Notice of a kind 5300 event. -/
def parseQueryRequestEvent (event : Event) : Option QueryRequestPayload := do
  if event.kind ≠ kindQueryRequest then none
  else
    let p ← parseObject T event.content
    if !hasVersion p payloadVersion || providerOnlyFields.any (fun name => (p.get? name).isSome)
    then none
    else
      let queryId ← p.string? "query_id"
      let schema ← p.string? "schema"
      let customerPubkey ← p.string? "customer_pubkey"
      let oraclePubkey ← p.string? "oracle_pubkey"
      let maxAmountSats ← p.number? "max_amount_sats"
      let expiresAt ← p.number? "expires_at"
      return { queryId, schema, customerPubkey, oraclePubkey, maxAmountSats, expiresAt }

/-! ## Offers -/

/-- `buildOfferFeedbackEvent`; the status is always `payment-required`. -/
def buildOfferFeedbackEvent (identity : Keypair N) (requestEventId customerPubkey : String)
    (providerPubkey : String) (amountSats : JsNumber) (m : Moment) : Event :=
  signEvent N
    { kind := kindQueryFeedback
      createdAt := (m.nowMs.scale (1 / 1000)).floor
      tags := [["e", requestEventId, "", "request"], ["p", customerPubkey],
        ["status", "payment-required"]]
      content := stringifyPayload T
        [("status", .str "payment-required"), ("provider_pubkey", .str providerPubkey),
          ("amount_sats", .num amountSats)] payloadVersion }
    identity.secretKey

/-! ## Selections -/

structure SelectionExecutionPayload where
  schema : String
  predicate : Json
  description : Option String
  context : Option Json
  mintUrl : String
  maxAmountSats : JsNumber
  amountSats : JsNumber
  locktimeSeconds : JsNumber

/-- The selection of a Provider, with the token that pays it. -/
structure SelectionFeedbackPayload where
  selectedProviderPubkey : String
  providerRedemptionToken : String
  execution : SelectionExecutionPayload

def parseSelectionExecution (execution : Json) : Option SelectionExecutionPayload := do
  let schema ← execution.string? "schema"
  let predicate ← execution.get? "predicate"
  let maxAmountSats ← execution.number? "max_amount_sats"
  let amountSats ← execution.number? "amount_sats"
  let mintUrl ← execution.string? "mint_url"
  let locktimeSeconds ← execution.number? "locktime_seconds"
  return { schema, predicate, description := execution.string? "description"
           context := (execution.get? "context").filter Json.isObject
           mintUrl, maxAmountSats, amountSats, locktimeSeconds }

/-- What a Customer encrypts for the Provider it has selected. -/
def parseSelectionFeedbackEvent (event : Event) (recipientSecretKey senderPubkey : String) :
    Option SelectionFeedbackPayload := do
  if event.kind ≠ kindQueryFeedback then none
  else
    let plaintext ← decryptNip44 N event.content recipientSecretKey senderPubkey
    let p ← parseObject T plaintext
    if !hasVersion p payloadVersion || p.string? "status" ≠ some "processing" then none
    else
      let selectedProviderPubkey ← p.string? "selected_provider_pubkey"
      let providerRedemptionToken ← p.string? "provider_redemption_token"
      let execution ← ((p.get? "execution").filter Json.isObject).bind parseSelectionExecution
      if findTagValue event "p" ≠ some selectedProviderPubkey then none
      else return { selectedProviderPubkey, providerRedemptionToken, execution }

/-! ## Results -/

/-- `Uint8Array | string`. -/
inductive ProofEvidence where
  | bytes (bytes : List UInt8)
  | text (text : String)

def ProofEvidence.forJson : ProofEvidence → String
  | .bytes b => base64Encode b
  | .text s => s

/-- A member whose value is `undefined` is left out. -/
def optionalMember (name : String) (value : Option Json) : List (String × Json) :=
  (value.map fun v => (name, v)).toList

/-- The members of a result in front of its ids. -/
def resultMembers (schema : String) (data : Option Json) (proof : ProofEvidence) :
    List (String × Json) :=
  [("version", .num payloadVersion), ("schema", .str schema)] ++ optionalMember "data" data ++
    [("proof", .str proof.forJson)]

/-- The tags for an Oracle, if there is one: its copy is under `queryId ?? requestEventId`. -/
def oracleTags (identity : Keypair N) (requestEventId schema : String) (data : Option Json)
    (proof : ProofEvidence) (oraclePubkey queryId : Option String) (oracleNonce : String) :
    Option (List (List String)) :=
  match oraclePubkey with
  | none => some []
  | some oracle =>
    (encryptNip44 N ((Json.obj (resultMembers schema data proof ++
        [("query_id", .str (queryId.getD requestEventId)),
          ("request_event_id", .str requestEventId)])).stringify T)
      identity.secretKey oracle oracleNonce).map fun ciphertext =>
        [["p", oracle, "", "oracle"], ["oracle_payload", ciphertext]]

/-- `none` when an encryption throws; `data` is `none` for `undefined`. -/
def buildQueryResponseEvent (identity : Keypair N) (requestEventId customerPubkey schema : String)
    (data : Option Json) (proof : ProofEvidence) (oraclePubkey queryId : Option String)
    (m : Moment) (oracleNonce : String) : Option Event := do
  let ciphertext ← encryptNip44 N ((Json.obj (resultMembers schema data proof)).stringify T)
    identity.secretKey customerPubkey m.nonce
  let tags ← oracleTags N T identity requestEventId schema data proof oraclePubkey queryId
    oracleNonce
  return signEvent N
    { kind := kindQueryResponse
      createdAt := (m.nowMs.scale (1 / 1000)).floor
      tags := [["e", requestEventId, "", "request"], ["p", customerPubkey]] ++ tags
      content := ciphertext }
    identity.secretKey

/-! ## Reading -/

variable {N T}

/-- What an accepted preimage message says. -/
theorem decryptDmJson_of_parsePreimageDeliveryEvent {event : Event}
    {recipientSecretKey senderPubkey : String} {payload : PreimageDeliveryPayload}
    (h : parsePreimageDeliveryEvent N T event recipientSecretKey senderPubkey = some payload) :
    ∃ p, decryptDmJson N T event recipientSecretKey senderPubkey = some p ∧
      p.string? "query_id" = some payload.queryId ∧
      p.string? "request_event_id" = some payload.requestEventId ∧
      p.string? "preimage" = some payload.preimage := by
  simp only [parsePreimageDeliveryEvent, Option.bind_eq_bind, Option.bind_eq_some_iff] at h
  obtain ⟨p, hp, h⟩ := h
  split at h
  next => cases h
  simp only [Option.pure_def, Option.bind_eq_some_iff] at h
  obtain ⟨queryId, hqueryId, requestEventId, hrequestEventId, preimage, hpreimage, heq⟩ := h
  cases heq
  exact ⟨p, hp, hqueryId, hrequestEventId, hpreimage⟩

end Anchr.Protocol
