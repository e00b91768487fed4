import Anchr.Protocol.Events
import Anchr.Requests.Types

/-!
# Messages of the Oracle

The direct messages of `adapters/nostr/events/dm.ts`, the handlers of
`adapters/nostr/oracle-handlers.ts`, and the matcher with which a Provider waits for its preimage
(`waitForPreimage` of `provider.ts`).
-/

namespace Anchr.Oracle

open Infra Protocol Requests

variable (N : NostrTools) (T : NumberText)

/-! ## Direct messages -/

/-- The shape of the three builders: a payload without a version, encrypted to the Provider. -/
def buildOracleDM (oracleIdentity : Keypair N) (providerPubKey : String)
    (payload : List (String × Json)) (m : Moment) : Option Protocol.Event :=
  encryptedDm N oracleIdentity providerPubKey ((Json.obj payload).stringify T) m

def buildPreimageDM (oracleIdentity : Keypair N) (providerPubKey queryId preimage : String)
    (m : Moment) : Option Protocol.Event :=
  buildOracleDM N T oracleIdentity providerPubKey
    [("type", .str "preimage"), ("query_id", .str queryId), ("preimage", .str preimage)] m

def buildRejectionDM (oracleIdentity : Keypair N) (providerPubKey queryId reason : String)
    (m : Moment) : Option Protocol.Event :=
  buildOracleDM N T oracleIdentity providerPubKey
    [("type", .str "rejection"), ("query_id", .str queryId), ("reason", .str reason)] m

def buildFrostSignatureDM (oracleIdentity : Keypair N) (providerPubKey queryId : String)
    (groupSignature : List String) (groupPubkey : String) (m : Moment) : Option Protocol.Event :=
  buildOracleDM N T oracleIdentity providerPubKey
    [("type", .str "frost_signature"), ("query_id", .str queryId),
      ("group_signature", .arr (groupSignature.map .str)), ("group_pubkey", .str groupPubkey)] m

/-! ## Watched requests -/

/-- `WatchedQuery`, without the handles of its subscriptions. -/
structure WatchedQuery where
  query : Query
  queryEventId : String
  customerPubkey : String
  selectedProviderPubkey : Option String := none
  offeredProviders : List String := []

def parseStorageKind : String → Option AttachmentStorageKind
  | "blossom" => some .blossom
  | "external" => some .external
  | _ => none

/-- `blossom_servers`, when all its members are strings. -/
def parseServers (value : Json) : Option (List String) :=
  match value.get? "blossom_servers" with
  | some (.arr elems) => elems.mapM Json.asString?
  | _ => none

def parseAttachment (value : Json) : Option AttachmentRef := do
  let id ← value.string? "id"
  let uri ← value.string? "uri"
  let mimeType ← value.string? "mime_type"
  let storageKind ← (value.string? "storage_kind").bind parseStorageKind
  return {
    id, uri, mimeType, storageKind
    filename := value.string? "filename"
    sizeBytes := value.number? "size_bytes"
    blossomHash := value.string? "blossom_hash"
    blossomServers := parseServers value }

def defaultQuerySchema : String := "https://anchr-spec.org/spec/proof/photo/v1"

/-- The evidence of a result payload. What the registered schema bundle of a schema makes of data
and proof is a parameter. -/
def oracleResponseToResult (resolveSchemaEvidence : String → Json → String → Option Json)
    (query : Query) (payload : OracleQueryResponsePayload) : QueryResult :=
  let data := if payload.data.isObject then payload.data else .obj []
  { attachments :=
      match data.get? "attachments" with
      | some (.arr entries) => entries.filterMap parseAttachment
      | _ => []
    notes := data.string? "notes"
    schemaEvidence :=
      resolveSchemaEvidence (query.schema.getD defaultQuerySchema) data payload.proof }

/-- An offer for a watched request: the entry with its Provider recorded, and what `onOffer` is
told. -/
def handleFeedbackEvent (entry : WatchedQuery) (event : Protocol.Event) :
    Option (WatchedQuery × ParsedOfferFeedback) :=
  (parseOfferFeedbackEvent T event).map fun offer =>
    ({ entry with
        offeredProviders :=
          if entry.offeredProviders.contains offer.providerPubkey then entry.offeredProviders
          else entry.offeredProviders ++ [offer.providerPubkey] }, offer)

/-! ## The Provider's end -/

/-- The subscription of the Provider. -/
def preimageFilter (identity : Keypair N) (oraclePubkey : String) (event : Protocol.Event) : Bool :=
  event.kind = kindDirectMessage ∧ event.pubkey = oraclePubkey ∧
    event.tags.any fun t => t.take 2 = ["p", identity.publicKey]

/-- Whether a Provider takes an event for its preimage. -/
def matchPreimage (identity : Keypair N) (oraclePubkey queryId requestEventId : String)
    (event : Protocol.Event) : Option String :=
  match parsePreimageDeliveryEvent N T event identity.secretKey oraclePubkey with
  | none => none
  | some parsed =>
    if parsed.queryId ≠ queryId then none
    else if parsed.requestEventId ≠ requestEventId then none
    else some parsed.preimage

variable {N T}

theorem decryptDmJson_buildPreimageDM (hN : N.Lawful) {oracle provider : Keypair N}
    {queryId preimage : String} {m : Moment} {dm : Protocol.Event}
    (h : buildPreimageDM N T oracle provider.publicKey queryId preimage m = some dm) :
    decryptDmJson N T dm provider.secretKey oracle.publicKey = some
      (.obj [("type", .str "preimage"), ("query_id", .str queryId), ("preimage", .str preimage)]) :=
  decryptDmJson_encryptedDm hN (by simp [Json.Doubles, Json.DoublesMembers]) rfl h

end Anchr.Oracle
