import Anchr.Infra.JsValue
import Anchr.Protocol.Jobs

/-!
# What a Customer writes and reads

The rest of `packages/protocol/src/events.ts`: a Customer writes Request Notices and selections, and
reads results. The free-form members of a selection are any JavaScript values.
-/

namespace Anchr.Protocol

open Infra

variable (N : NostrTools) (T : NumberText)

/-! ## Requests -/

/-- The `region` tag; `toUpperCase` is the language's, on all of Unicode. -/
def regionTags (toUpperCase : String → String) (regionCode : Option String) : List (List String) :=
  match regionCode with
  | none => []
  | some code => if code = "" then [] else [["region", toUpperCase code]]

def queryRequestMembers (payload : QueryRequestPayload) : List (String × Json) :=
  [("query_id", .str payload.queryId), ("schema", .str payload.schema),
    ("customer_pubkey", .str payload.customerPubkey), ("oracle_pubkey", .str payload.oraclePubkey),
    ("max_amount_sats", .num payload.maxAmountSats), ("expires_at", .num payload.expiresAt)]

/-- A kind 5300 event. -/
def buildQueryRequestEvent (toUpperCase : String → String) (identity : Keypair N)
    (payload : QueryRequestPayload) (regionCode : Option String) (nowMs : JsNumber) : Event :=
  signEvent N
    { kind := kindQueryRequest
      createdAt := (nowMs.scale (1 / 1000)).floor
      tags := [["d", payload.queryId], ["t", "anchr"], ["p", payload.oraclePubkey, "", "oracle"],
        ["s", payload.schema]] ++ regionTags toUpperCase regionCode
      content := stringifyPayload T (queryRequestMembers payload) payloadVersion }
    identity.secretKey

/-! ## Selections -/

/-- `SelectionExecutionPayload` as a Customer has it in memory. -/
structure SelectionExecution where
  schema : String
  predicate : JsValue
  description : Option String
  context : JsValue
  mintUrl : String
  maxAmountSats : JsNumber
  amountSats : JsNumber
  locktimeSeconds : JsNumber

/-- `SelectionFeedbackPayload` without its version; the status is always `processing`. -/
structure SelectionContent where
  selectedProviderPubkey : String
  providerRedemptionToken : String
  execution : SelectionExecution

/-- A string or `undefined`. -/
def optionalString : Option String → JsValue
  | some s => .str s
  | none => .undefined

def SelectionExecution.toJs (execution : SelectionExecution) : JsValue :=
  .obj [("schema", .str execution.schema), ("predicate", execution.predicate),
    ("description", optionalString execution.description), ("context", execution.context),
    ("mint_url", .str execution.mintUrl), ("max_amount_sats", .num execution.maxAmountSats),
    ("amount_sats", .num execution.amountSats),
    ("locktime_seconds", .num execution.locktimeSeconds)]

def SelectionContent.members (payload : SelectionContent) : List (String × JsValue) :=
  [("status", .str "processing"),
    ("selected_provider_pubkey", .str payload.selectedProviderPubkey),
    ("provider_redemption_token", .str payload.providerRedemptionToken),
    ("execution", payload.execution.toJs)]

/-- `stringifyPayload` on values of any kind; `none` when `JSON.stringify` throws. -/
def stringifyJsPayload (payload : List (String × JsValue)) (version : JsNumber) : Option String :=
  (JsValue.writtenMembers (payload ++ [("version", .num version)])).map fun members =>
    (Json.obj members).stringify T

/-- `none` when `JSON.stringify` or the encryption throws. -/
def buildSelectionFeedbackEvent (identity : Keypair N) (requestEventId : String)
    (payload : SelectionContent) (m : Moment) : Option Event :=
  (stringifyJsPayload T payload.members payloadVersion).bind fun plaintext =>
    (encryptNip44 N plaintext identity.secretKey payload.selectedProviderPubkey m.nonce).map
      fun ciphertext =>
        signEvent N
          { kind := kindQueryFeedback
            createdAt := (m.nowMs.scale (1 / 1000)).floor
            tags := [["e", requestEventId, "", "request"], ["p", payload.selectedProviderPubkey],
              ["status", "processing"]]
            content := ciphertext }
          identity.secretKey

/-! ## Results -/

structure QueryResponsePayload where
  schema : String
  data : Json
  proof : String

/-- A result. -/
def parseQueryResponseEvent (event : Event) (recipientSecretKey senderPubkey : String) :
    Option QueryResponsePayload := do
  if event.kind ≠ kindQueryResponse then none
  else
    let plaintext ← decryptNip44 N event.content recipientSecretKey senderPubkey
    let p ← parseObject T plaintext
    if !hasVersion p payloadVersion then none
    else
      let schema ← p.string? "schema"
      let data ← p.get? "data"
      let proof ← p.string? "proof"
      return { schema, data, proof }

end Anchr.Protocol
