import Anchr.Infra.Json
import Anchr.Infra.JsMap

/-!
# The `Query` record

Types of `requests/domain/types.ts`. Optional members are `Option`s; a member of type `unknown`
is a JSON value.
-/

namespace Anchr.Requests

open Infra

/-- The status of a query. -/
inductive QueryStatus where
  | pending
  | awaitingOffers
  | providerSelected
  | processing
  | verifying
  | approved
  | rejected
  | expired
  deriving DecidableEq

def QueryStatus.text : QueryStatus → String
  | .pending => "pending"
  | .awaitingOffers => "awaiting_offers"
  | .providerSelected => "provider_selected"
  | .processing => "processing"
  | .verifying => "verifying"
  | .approved => "approved"
  | .rejected => "rejected"
  | .expired => "expired"

/-- What has become of the payment. -/
inductive PaymentStatus where
  | none
  | escrowPending
  | escrowLocked
  | escrowSwapped
  | locked
  | released
  | cancelled
  deriving DecidableEq

inductive AttachmentStorageKind where
  | blossom
  | external
  deriving DecidableEq

/-- Where an attachment is. -/
structure AttachmentRef where
  id : String
  uri : String
  mimeType : String
  storageKind : AttachmentStorageKind
  filename : Option String := none
  sizeBytes : Option JsNumber := none
  blossomHash : Option String := none
  blossomServers : Option (List String) := none

/-- What decrypts a blob, in hexadecimal. -/
structure BlossomKeyMaterial where
  encryptKey : String
  encryptIv : String

abbrev BlossomKeyMap := List (String × BlossomKeyMaterial)

structure QueryInput where
  description : String
  schema : Option String := none
  locationHint : Option String := none
  verificationRequirements : Option (List String) := none
  schemaRequirement : Option Json := none

/-- What a Provider hands in. -/
structure QueryResult where
  attachments : List AttachmentRef
  notes : Option String := none
  schemaEvidence : Option Json := none

inductive CustomerType where
  | agent
  | human
  | app
  deriving DecidableEq

structure CustomerMeta where
  customerType : CustomerType
  customerId : Option String := none
  clientName : Option String := none

inductive ExecutorType where
  | human
  | agent
  | service
  deriving DecidableEq

/-- `SubmissionMeta`. The only submission channel is `"adapter"`. -/
structure SubmissionMeta where
  executorType : ExecutorType

structure PaymentLockInfo where
  amountSats : JsNumber
  escrowToken : Option String := none

/-- The `type` of an escrow with the member that comes with it. -/
inductive EscrowType where
  | htlc (hash : String)
  | p2pkFrost (groupPubkey : String)
  deriving DecidableEq

/-- The escrow of a query. -/
structure EscrowInfo where
  type : EscrowType
  oraclePubkeys : List String
  customerPubkey : String
  /-- Set after Provider selection. -/
  providerPubkey : Option String := none
  locktime : JsNumber
  escrowToken : Option String := none
  verifiedEscrowSats : Option JsNumber := none
  escrowRef : Option String := none

def EscrowInfo.paymentHash (e : EscrowInfo) : Option String :=
  match e.type with
  | .htlc hash => some hash
  | .p2pkFrost _ => none

/-- An offer that was recorded. -/
structure OfferInfo where
  providerPubkey : String
  amountSats : Option JsNumber := none
  offerEventId : String
  receivedAt : JsNumber

/-- How many Oracles have to approve. -/
structure QuorumConfig where
  minApprovals : Int

/-- What an Oracle attests. -/
structure OracleAttestation where
  oracleId : String
  queryId : String
  passed : Bool
  checks : List String
  failures : List String
  attestedAt : JsNumber
  schemaVerdict : Option Json := none

/-- What is kept of it. -/
structure OracleAttestationRecord where
  oracleId : String
  passed : Bool
  checks : List String
  failures : List String
  attestedAt : JsNumber
  schemaVerdict : Option Json := none

/-- `VerificationDetail` of `proofs/verification/contract.ts`. -/
structure VerificationDetail where
  passed : Bool
  checks : List String
  failures : List String
  warnings : Option (List String) := none
  schemaVerdict : Option Json := none

/-- The record of a query. -/
structure Query where
  id : String
  schema : Option String := none
  status : QueryStatus
  description : String
  locationHint : Option String := none
  challengeNonce : Option String := none
  verificationRequirements : List String
  createdAt : JsNumber
  expiresAt : JsNumber
  customerMeta : Option CustomerMeta := none
  paymentLock : Option PaymentLockInfo := none
  oracleIds : Option (List String) := none
  assignedOracleId : Option String := none
  submittedAt : Option JsNumber := none
  result : Option QueryResult := none
  verification : Option VerificationDetail := none
  submissionMeta : Option SubmissionMeta := none
  paymentStatus : PaymentStatus
  escrow : Option EscrowInfo := none
  offers : Option (List OfferInfo) := none
  nostrEventId : Option String := none
  blossomKeys : Option BlossomKeyMap := none
  schemaRequirement : Option Json := none
  quorum : Option QuorumConfig := none
  attestations : Option (List OracleAttestationRecord) := none

/-- `createQueryStore`: the in-memory map from query id to record. -/
abbrev QueryStore := JsMap String Query

/-- What the code asks of the platform: number text, and the URL parser behind `isSchemaUri`. -/
structure Platform where
  text : NumberText
  isSchemaUri : String → Bool

/-- A platform for fixed inputs: integers only, and no schema URL is given. -/
def Platform.integers : Platform where
  text := .safeIntegers
  isSchemaUri := fun _ => false

end Anchr.Requests
