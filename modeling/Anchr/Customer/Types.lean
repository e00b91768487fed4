import Anchr.Customer.Recovery
import Anchr.Protocol.Purchases

/-!
# What a Customer is given

The options of `createCustomer` and of `request` in `packages/sdk/src/customer-types.ts`, the checks
of `packages/sdk/src/customer.ts` on them, and its errors.
-/

namespace Anchr.Customer

open Infra Protocol

structure CustomerOracle where
  pubkey : String
  /-- Whether a client is given for it. -/
  client : Bool := false

/-- `CustomerOptions`, without the adapters and callbacks. -/
structure CustomerContext where
  text : NumberText
  /-- The double nearest to the exact result of an operation, or an infinity. -/
  round : ℚ → JsNumber
  /-- `toUpperCase` on all of Unicode. -/
  toUpperCase : String → String
  /-- `isSchemaUri`, which parses a URL. -/
  isSchemaUri : String → Bool
  oracles : List CustomerOracle
  mint : String
  stateStore : Bool
  offerWindowMs : JsNumber := .ofInt 30000
  resultTimeoutMs : JsNumber := .ofInt 300000

namespace CustomerContext

variable (cfg : CustomerContext)

def add (a b : JsNumber) : JsNumber := (a.add b).rounded cfg.round

/-- `Math.floor(ms / 1000)`. -/
def wholeSeconds (ms : JsNumber) : JsNumber := ((ms.scale (1 / 1000)).rounded cfg.round).floor

end CustomerContext

/-- `Spec`: the predicate is `unknown`, the context a record or `undefined`. -/
structure Spec where
  schema : String
  predicate : JsValue
  description : Option String := none
  context : JsValue := .undefined

structure Payment where
  maxAmount : JsNumber
  locktimeSeconds : Option JsNumber := none

/-- The argument of `request`. -/
structure RequestOptions where
  spec : Spec
  payment : Payment
  /-- `none` when it is no array. -/
  fundingProofs : Option (List CashuProof)
  onPaymentChange : Bool := false
  provider : Option String := none
  regionCode : Option String := none

/-- An offer as it was collected. -/
structure Offer where
  providerPubkey : String
  amountSats : JsNumber
  offerEventId : String
  receivedAt : JsNumber

structure BindProviderParams where
  amountSats : JsNumber
  fundingProofs : List CashuProof
  providerPubkey : String
  hashHex : String
  locktimeSeconds : JsNumber
  customerPubkey : String
  customerSecretKey : String

structure RequestResult where
  data : Json
  proof : String
  providerPubkey : String
  schema : String
  paymentChangeProofs : Option (List CashuProof)
  paymentLockProofs : List CashuProof
  paymentLockToken : String
  paymentLockRefundSecretKey : String

/-! ## Errors -/

def customerConfigError (message : String) : ErrorObject :=
  { name := "CustomerConfigError", message := message }

def invalidSchemaUriError (value : String) : ErrorObject :=
  { name := "InvalidSchemaUriError", message := "Invalid Proof Schema URL: " ++ value }

def relayPublishError (failures : List String) : ErrorObject :=
  { name := "RelayPublishError"
    message := "No relay accepted the Job Request event (" ++ toString failures.length ++
      " failures, 0 successes)." }

def noOffersReceivedError (text : NumberText) (offerWindowMs : JsNumber) (receivedCount : Nat) :
    ErrorObject :=
  { name := "NoOffersReceivedError"
    message := "No selectable offer received within " ++ text.toString offerWindowMs ++
      "ms (received " ++ toString receivedCount ++ " candidate offer(s) total)." }

def resultTimeoutError (text : NumberText) (timeoutMs : JsNumber) (providerPubkey : String) :
    ErrorObject :=
  { name := "ResultTimeoutError"
    message := "Provider " ++ String.ofList (providerPubkey.toList.take 16) ++
      "… did not deliver a kind 6300 result within " ++ text.toString timeoutMs ++ "ms." }

def schemaVerificationError (schema : String) : ErrorObject :=
  { name := "SchemaVerificationError"
    message := "Local schema verifier rejected the proof for schema " ++ schema ++ "." }

def oracleConfigError (message : String) : ErrorObject :=
  { name := "OracleConfigError", message := message }

def oracleResponseError (failures : List String) : ErrorObject :=
  { name := "OracleResponseError"
    message := "no relay accepted the hash bootstrap DM: " ++ String.intercalate ", " failures }

def oracleTimeoutError : ErrorObject :=
  { name := "OracleTimeoutError", message := "Oracle hash bootstrap timed out after 10000ms" }

/-! ## Checks -/

/-- `Number.isFinite(n) && Number.isInteger(n) && n > 0`. -/
def isPositiveInteger (n : JsNumber) : Bool := n.isFinite && n.isInteger && (JsNumber.ofInt 0).lt n

/-- `MIN_CUSTOMER_PAYMENT_LOCK_DURATION_SECONDS`. -/
def minLockDurationSeconds : JsNumber := .ofInt 660

/-- `req.payment.locktimeSeconds ?? DEFAULT_LOCKTIME_SECONDS`. -/
def RequestOptions.locktimeDurationSeconds (req : RequestOptions) : JsNumber :=
  req.payment.locktimeSeconds.getD (.ofInt 3600)

/-- What `request` throws before anything is done; `none` when it goes on. -/
def validateRequest (cfg : CustomerContext) (req : RequestOptions) : Option ErrorObject :=
  let duration := req.locktimeDurationSeconds
  if !cfg.isSchemaUri req.spec.schema then some (invalidSchemaUriError req.spec.schema)
  else if !isPositiveInteger req.payment.maxAmount then
    some (customerConfigError "payment.maxAmount must be a positive integer")
  else if req.fundingProofs.isNone then
    some (customerConfigError "fundingProofs must be an array of Cashu proofs")
  else if !duration.isFinite || !duration.isInteger || duration.lt minLockDurationSeconds then
    some (customerConfigError "payment.locktimeSeconds must be an integer >= 660")
  else none

/-- What options have to satisfy. -/
structure Accepted (cfg : CustomerContext) (req : RequestOptions) : Prop where
  schema : cfg.isSchemaUri req.spec.schema = true
  maxAmount : isPositiveInteger req.payment.maxAmount = true
  fundingProofs : req.fundingProofs.isSome = true
  finite : req.locktimeDurationSeconds.isFinite = true
  integer : req.locktimeDurationSeconds.isInteger = true
  duration : req.locktimeDurationSeconds.lt minLockDurationSeconds = false

theorem validateRequest_none {cfg : CustomerContext} {req : RequestOptions} :
    validateRequest cfg req = none ↔ Accepted cfg req := by
  constructor
  · intro h
    simp only [validateRequest] at h
    split at h
    next => cases h
    next hschema =>
      split at h
      next => cases h
      next hmax =>
        split at h
        next => cases h
        next hproofs =>
          split at h
          next => cases h
          next hduration =>
            simp only [Bool.or_eq_true, Bool.not_eq_true', not_or, Bool.not_eq_false,
              Bool.not_eq_true] at hduration
            have hsome : req.fundingProofs ≠ none := by simpa using hproofs
            exact ⟨by simpa using hschema, by simpa using hmax,
              Option.isSome_iff_ne_none.mpr hsome, hduration.1.1, hduration.1.2, hduration.2⟩
  · rintro ⟨hschema, hmax, hproofs, hfinite, hinteger, hduration⟩
    have hnone : req.fundingProofs.isNone = false := by simpa using hproofs
    simp [validateRequest, hschema, hmax, hnone, hfinite, hinteger, hduration]

theorem isFinite_of_isPositiveInteger {n : JsNumber} (h : isPositiveInteger n = true) :
    n.isFinite = true := by
  simp only [isPositiveInteger, Bool.and_eq_true] at h
  exact h.1.1

/-! ## Oracles and state -/

def findCustomerOracle (oracles : List CustomerOracle) (pubkey : String) : Option CustomerOracle :=
  oracles.find? fun entry => entry.pubkey == pubkey

inductive CustomerStateStatus where
  | requestPublished
  | providerSelected
  | resultReceived
  deriving DecidableEq

def CustomerStateStatus.text : CustomerStateStatus → String
  | .requestPublished => "request_published"
  | .providerSelected => "provider_selected"
  | .resultReceived => "result_received"

/-- An entry of the state store. -/
structure CustomerStateRecord where
  queryId : String
  requestEventId : String
  schema : String
  status : CustomerStateStatus
  /-- `providerPubkey` and `offerEventId`, which stand in a record together. -/
  offer : Option (String × String) := none
  updatedAt : JsNumber

def CustomerStateRecord.toJson (record : CustomerStateRecord) : Json :=
  .obj ([("queryId", .str record.queryId), ("requestEventId", .str record.requestEventId),
      ("schema", .str record.schema), ("status", .str record.status.text)] ++
    (match record.offer with
      | none => []
      | some (providerPubkey, offerEventId) =>
        [("providerPubkey", .str providerPubkey), ("offerEventId", .str offerEventId)]) ++
    [("updatedAt", .num record.updatedAt)])

def customerStateKey (queryId : String) : String := "customer:" ++ queryId

/-! ## Offers -/

/-- What the subscription does with an event: the offers so far, and how many were received. -/
def receiveOffer (cfg : CustomerContext) (req : RequestOptions) (now : JsNumber)
    (collected : List Offer × Nat) (event : Protocol.Event) : List Offer × Nat :=
  match parseOfferFeedbackEvent cfg.text event with
  | none => collected
  | some parsed =>
    if !isPositiveInteger parsed.amountSats || req.payment.maxAmount.lt parsed.amountSats ||
      req.provider.any (· ≠ parsed.providerPubkey) then (collected.1, collected.2 + 1)
    else
      (collected.1 ++ [{ providerPubkey := parsed.providerPubkey, amountSats := parsed.amountSats
                         offerEventId := event.id, receivedAt := now }], collected.2 + 1)

/-- The default selector. -/
def selectCheapestOffer : List Offer → Option Offer
  | [] => none
  | offer :: offers =>
    some (offers.foldl (fun cheapest o => if o.amountSats.lt cheapest.amountSats then o else cheapest)
      offer)

end Anchr.Customer
