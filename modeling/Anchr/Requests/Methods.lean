import Anchr.Requests.Verification

/-!
# The methods of the query service

`requests/application/{query-lifecycle-methods, escrow-flow-methods,
verification-orchestration}.ts`. A method that never awaits is a function of the store. An
asynchronous method is cut at its `await`s into turns.
-/

namespace Anchr.Requests

open Infra

/-! ## Outcomes and events -/

/-- `message` is optional because `lockCheck.message!` may be `undefined`. -/
structure HtlcOutcome where
  ok : Bool
  message : Option String

structure SubmitQueryOutcome where
  ok : Bool
  query : Option Query
  message : String

/-- What `submitEscrowResult` returns. -/
structure EscrowSubmitOutcome where
  ok : Bool
  query : Option Query
  message : String
  preimage : Option String := none
  frostSignature : Option (List String) := none

/-- `EscrowAmountResult`, the answer of `verifyEscrowAmount`. -/
structure EscrowAmountResult where
  valid : Bool
  amountSats : Option JsNumber := none
  error : Option String := none
  deriving DecidableEq

/-- `EscrowTokenLockResult`, the answer of `verifyEscrowLock`. -/
structure EscrowTokenLockResult where
  ok : Bool
  message : Option String := none
  deriving DecidableEq

/-- What can be observed of the service. Asynchronous calls are told apart by a number. -/
inductive Event where
  | created (query : Query)
  | purged (queryId : String)
  | offerRecorded (queryId : String) (offer : OfferInfo)
  /-- `selectProvider` read this record. -/
  | selectBegan (call : Nat) (query : Query) (providerPubkey : String)
      (escrowToken : Option String)
  | amountChecked (call : Nat) (escrowRef : String) (expectedSats : JsNumber)
      (answer : EscrowAmountResult)
  | lockChecked (call : Nat) (escrowRef paymentHash providerPubkey : String)
      (answer : EscrowTokenLockResult)
  /-- `selectProvider` wrote this record. -/
  | providerSelected (call : Nat) (queryId : String) (stored : Query)
  | selectReturned (call : Nat) (outcome : HtlcOutcome)
  /-- `submitEscrowResult` read this record. -/
  | escrowBegan (call : Nat) (query : Query) (result : QueryResult) (providerPubkey : String)
  /-- `verifyWithQuorum` returned for this (normalised) result. -/
  | verified (call : Nat) (result : QueryResult) (passed : Bool)
  | preimageRead (call : Nat) (hash : String) (preimage : Option String)
  | preimageDeleted (call : Nat) (hash : String)
  | frostRequested (call : Nat) (query : Query) (result : QueryResult)
  | frostAnswered (call : Nat) (signature : List String)
  | escrowReturned (call : Nat) (outcome : EscrowSubmitOutcome)
  | submitReturned (call : Nat) (outcome : SubmitQueryOutcome)
  | threw (call : Nat)

/-! ## Dependencies -/

/-- `ServiceDeps`, without the store and the resolvers. A port is external: the model knows
whether it is wired, and its answers come with the action that resumes a call. -/
structure ServiceDeps where
  platform : Platform
  normalizeResult : QueryResult → QueryResult
  escrowProvider : Bool
  preimageStore : Bool
  frostSignature : Bool

/-- The ports that are given. -/
def ServiceDeps.wired (escrowProvider preimageStore frostSignature : Bool) : ServiceDeps where
  platform := .integers
  normalizeResult := id
  escrowProvider := escrowProvider
  preimageStore := preimageStore
  frostSignature := frostSignature

def defaultTtlMs : JsNumber := .ofInt (10 * 60 * 1000)

structure CreateQueryOptions where
  ttlMs : Option JsNumber := none
  ttlSeconds : Option JsNumber := none
  customerMeta : Option CustomerMeta := none
  paymentLock : Option PaymentLockInfo := none
  oracleIds : Option (List String) := none
  escrow : Option EscrowInfo := none
  nostrEventId : Option String := none
  quorum : Option QuorumConfig := none

def resolveTtlMs (options : Option CreateQueryOptions) : JsNumber :=
  match options with
  | none => defaultTtlMs
  | some o =>
    match o.ttlMs, o.ttlSeconds with
    | some ms, _ => ms
    | none, some secs => secs.scale 1000
    | none, none => defaultTtlMs

/-! ## Lifecycle methods -/

/-- The record to be stored, or the text of the `Error` that is thrown. -/
def doCreateQuery (deps : ServiceDeps) (input : QueryInput) (options : Option CreateQueryOptions)
    (now : JsNumber) (newQueryId newChallengeNonce : String) : Except String Query :=
  createQueryAggregate deps.platform input
    { ttlMs := resolveTtlMs options
      customerMeta := options.bind (·.customerMeta)
      paymentLock := options.bind (·.paymentLock)
      oracleIds := options.bind (·.oracleIds)
      escrow := options.bind (·.escrow)
      nostrEventId := options.bind (·.nostrEventId)
      quorum := options.bind (·.quorum) }
    now newQueryId newChallengeNonce

/-- `{ ...query, status: "expired", payment_status: "cancelled" }`. -/
def Query.expired (query : Query) : Query :=
  { query with status := .expired, paymentStatus := .cancelled }

/-- `{ ...query, status: "rejected", payment_status: "cancelled" }`. -/
def Query.cancelled (query : Query) : Query :=
  { query with status := .rejected, paymentStatus := .cancelled }

/-- A record to be stored under a query id. -/
abbrev Write := Option (String × Query)

/-- `store.set`, if anything is to be written. -/
def commit (store : QueryStore) : Write → QueryStore
  | some (id, query) => store.set id query
  | none => store

def doCancelQuery (store : QueryStore) (id : String) : Write × HtlcOutcome :=
  match store.get? id with
  | none => (none, { ok := false, message := some "Query not found" })
  | some query =>
    if !isOpenStatus query.status then
      (none, { ok := false, message := some ("Query is already " ++ query.status.text) })
    else (some (id, query.cancelled), { ok := true, message := some "Query cancelled" })

/-- One round of the loop of `doExpireQueries`. -/
def expireOne (now : JsNumber) (acc : QueryStore × Nat) (query : Query) : QueryStore × Nat :=
  if isExpirable query.status && query.expiresAt.lt now then
    (acc.1.set query.id query.expired, acc.2 + 1)
  else acc

/-- `values()` is a copy, so the loop runs over the records as they were before it. -/
def doExpireQueries (store : QueryStore) (now : JsNumber) : QueryStore × Nat :=
  store.values.foldl (expireOne now) (store, 0)

/-- One round of the loop of `doPurgeExpired`. -/
def purgeOne (acc : QueryStore × List Query) (query : Query) : QueryStore × List Query :=
  if query.status = .expired then (acc.1.delete query.id, acc.2 ++ [query]) else acc

def doPurgeExpired (store : QueryStore) : QueryStore × List Query :=
  store.values.foldl purgeOne (store, [])

/-! ## Escrow methods without `await` -/

/-- The shape these methods share. -/
def transact (store : QueryStore) (queryId : String) (transition : Query → Except String Query)
    (message : String) : Write × HtlcOutcome :=
  match store.get? queryId with
  | none => (none, { ok := false, message := some "Query not found" })
  | some query =>
    match transition query with
    | .error error => (none, { ok := false, message := some error })
    | .ok query' => (some (queryId, query'), { ok := true, message := some message })

def doRecordOffer (store : QueryStore) (queryId : String) (offer : OfferInfo) :
    Write × HtlcOutcome :=
  transact store queryId (addOffer · offer) "Offer recorded"

def doBeginWork (store : QueryStore) (queryId : String) : Write × HtlcOutcome :=
  transact store queryId beginWork "Work begun"

def doRecordResult (deps : ServiceDeps) (store : QueryStore) (queryId : String)
    (result : QueryResult) (providerPubkey : String) (blossomKeys : Option BlossomKeyMap)
    (now : JsNumber) : Write × HtlcOutcome :=
  transact store queryId
    (recordResult · (deps.normalizeResult result) providerPubkey blossomKeys now)
    "Result recorded, verification in progress"

def doCompleteVerification (store : QueryStore) (queryId : String) (passed : Bool)
    (oracleId : Option String) : Write × HtlcOutcome :=
  transact store queryId (completeVerification · passed none oracleId none)
    (if passed then "Verification passed" else "Verification failed")

/-! ## Suspended calls -/

/-- `doSubmitQueryResult` at its `await`. -/
structure Submission where
  id : String
  query : Query
  normalizedResult : QueryResult
  submissionMeta : SubmissionMeta
  blossomKeys : Option BlossomKeyMap
  request : QuorumRequest

/-- `doSelectProvider` at one of its `await`s. -/
structure Selection where
  queryId : String
  query : Query
  providerPubkey : String
  escrowRef : String
  updates : EscrowSelectionUpdates

/-- `doSubmitEscrowResult` at its first `await`. -/
structure EscrowSubmission where
  queryId : String
  query : Query
  verifyingQuery : Query
  normalizedResult : QueryResult
  blossomKeys : Option BlossomKeyMap
  request : QuorumRequest

/-- The snapshot of the record that a call read before it was suspended is among its local
variables, and it is this snapshot that the next turn continues with. -/
inductive Pending where
  | submitResult (p : Submission)
  | selectAmount (p : Selection) (expectedSats : JsNumber)
  | selectLock (p : Selection) (paymentHash : String)
  | escrowVerify (p : EscrowSubmission)
  /-- `getPreimage` is called; the store has not looked yet. -/
  | escrowGet (hash : String) (updated : Query)
  /-- The store has looked; its promise is not settled. -/
  | escrowGot (hash : String) (preimage : Option String) (updated : Query)
  /-- `delete` is called; the store has not deleted yet. -/
  | escrowDelete (hash preimage : String) (updated : Query)
  /-- The store has deleted; its promise is not settled. -/
  | escrowDeleted (hash preimage : String) (updated : Query)
  | escrowFrost (updated : Query)

inductive Answer where
  | attestations (atts : List OracleAttestation)
  | amount (check : EscrowAmountResult)
  | lock (check : EscrowTokenLockResult)
  | stored
  | signature (frostSignature : Option (List String))
  | rejected

/-- A piece of an asynchronous call between two `await`s. -/
structure Turn where
  write : Write := none
  events : List Event := []
  /-- Where the call is suspended next; `none` when it is over. -/
  pending : Option Pending := none

/-! ## `submitQueryResult` -/

def doSubmitQueryResult (deps : ServiceDeps) (store : QueryStore)
    (registry : Option OracleRegistry) (call : Nat) (id : String) (result : QueryResult)
    (submissionMeta : SubmissionMeta) (oracleId : Option String)
    (blossomKeys : Option BlossomKeyMap) (now : JsNumber) : Turn :=
  match store.get? id with
  | none =>
    { events := [.submitReturned call
        { ok := false, query := none, message := "Query not found" }] }
  | some query =>
    if query.status ≠ .pending then
      { events := [.submitReturned call
          { ok := false
            query := some query
            message := "Query is " ++ query.status.text ++ ", not pending" }] }
    else if query.expiresAt.lt now then
      { write := some (id, query.expired)
        events := [.submitReturned call
          { ok := false, query := some query, message := "Query has expired" }] }
    else
      { pending := some (.submitResult
          { id := id
            query := query
            normalizedResult := deps.normalizeResult result
            submissionMeta := submissionMeta
            blossomKeys := blossomKeys
            request := verifyWithQuorum deps.platform registry query oracleId }) }

def Query.finalized (query : Query) (v : QuorumVerificationResult) : Query :=
  { query with
    status := if v.passed then .approved else .rejected
    paymentStatus := if v.passed then .released else .cancelled
    verification := some v.verification
    assignedOracleId := v.attestations.head?.map (·.oracleId)
    attestations := if query.quorum.isSome then some v.attestations else none }

/-- `doSubmitQueryResult` after its `await`. -/
def Submission.finish (p : Submission) (call : Nat) (v : QuorumVerificationResult)
    (now : JsNumber) : Turn :=
  if !v.passed && v.attestations.isEmpty then
    { events :=
        [.verified call p.normalizedResult v.passed,
          .submitReturned call
            { ok := false
              query := some p.query
              message := v.verification.failures.head?.getD "No oracle available" }] }
  else
    let final : Query :=
      { p.query.finalized v with
        submittedAt := some now
        result := some p.normalizedResult
        submissionMeta := some p.submissionMeta
        blossomKeys := p.blossomKeys }
    { write := some (p.id, final)
      events :=
        [.verified call p.normalizedResult v.passed,
          .submitReturned call
            { ok := v.passed
              query := some final
              message :=
                if v.passed then "Verification passed. Result accepted."
                else "Verification failed: " ++ ", ".intercalate v.verification.failures }] }

/-! ## `selectProvider` -/

/-- `query.escrow?.escrow_ref ?? query.escrow?.escrow_token ?? escrowToken`. -/
def settledRef (query : Query) (escrowToken : Option String) : Option String :=
  ((query.escrow.bind (·.escrowRef)).or (query.escrow.bind (·.escrowToken))).or escrowToken

/-- The locked amount, if it is truthy. -/
def Query.expectedSats (query : Query) : Option JsNumber :=
  (query.paymentLock.map (·.amountSats)).filter JsNumber.truthy

/-- The hash of an HTLC escrow, if it is truthy. -/
def Query.paymentHash (query : Query) : Option String :=
  (query.escrow.bind (·.paymentHash)).filter (· ≠ "")

/-- The committing call of `doSelectProvider`: the transition is applied to the snapshot. -/
def commitSelection (call : Nat) (queryId : String) (query : Query) (providerPubkey : String)
    (updates : EscrowSelectionUpdates) : Turn :=
  match selectProvider query providerPubkey updates with
  | .error error => { events := [.selectReturned call { ok := false, message := some error }] }
  | .ok query' =>
    { write := some (queryId, query')
      events :=
        [.providerSelected call queryId query',
          .selectReturned call { ok := true, message := some "Provider selected" }] }

/-- From the lock check on, with an escrow provider and a reference to check. -/
def Selection.checkLock (p : Selection) (call : Nat) : Turn :=
  match p.query.paymentHash with
  | some hash => { pending := some (.selectLock p hash) }
  | none => commitSelection call p.queryId p.query p.providerPubkey p.updates

/-- From the amount check on, with an escrow provider and a reference to check. -/
def Selection.checkAmount (p : Selection) (call : Nat) : Turn :=
  match p.query.expectedSats with
  | some sats => { pending := some (.selectAmount p sats) }
  | none => p.checkLock call

def doSelectProvider (deps : ServiceDeps) (store : QueryStore) (call : Nat) (queryId : String)
    (providerPubkey : String) (escrowToken : Option String) : Turn :=
  match store.get? queryId with
  | none =>
    { events := [.selectReturned call { ok := false, message := some "Query not found" }] }
  | some query =>
    -- the dry run: state errors surface before any escrow I/O
    match selectProvider query providerPubkey {} with
    | .error error => { events := [.selectReturned call { ok := false, message := some error }] }
    | .ok _ =>
      let updates : EscrowSelectionUpdates := { escrowToken := escrowToken.map some }
      let turn : Turn :=
        match (settledRef query escrowToken).filter (· ≠ "") with
        | none => commitSelection call queryId query providerPubkey updates
        | some ref =>
          if deps.escrowProvider then
            Selection.checkAmount
              { queryId := queryId
                query := query
                providerPubkey := providerPubkey
                escrowRef := ref
                updates := updates } call
          else if query.expectedSats.isSome || query.paymentHash.isSome then
            { events := [.selectReturned call
                { ok := false
                  message := some ("Escrow provider port not configured — cannot verify escrow "
                    ++ "token before selection") }] }
          else commitSelection call queryId query providerPubkey updates
      { turn with events := .selectBegan call query providerPubkey escrowToken :: turn.events }

def Selection.amountChecked (p : Selection) (call : Nat) (sats : JsNumber)
    (check : EscrowAmountResult) : Turn :=
  let turn : Turn :=
    if check.valid then
      Selection.checkLock
        { p with updates := { p.updates with verifiedEscrowSats := some check.amountSats } } call
    else
      { events := [.selectReturned call
          { ok := false
            message := some ("Escrow token verification failed: "
              ++ check.error.getD "undefined") }] }
  { turn with events := .amountChecked call p.escrowRef sats check :: turn.events }

def Selection.lockChecked (p : Selection) (call : Nat) (hash : String)
    (check : EscrowTokenLockResult) : Turn :=
  let turn : Turn :=
    if check.ok then commitSelection call p.queryId p.query p.providerPubkey p.updates
    else { events := [.selectReturned call { ok := false, message := check.message }] }
  { turn with
    events := .lockChecked call p.escrowRef hash p.providerPubkey check :: turn.events }

/-! ## `submitEscrowResult` -/

def doSubmitEscrowResult (deps : ServiceDeps) (store : QueryStore)
    (registry : Option OracleRegistry) (call : Nat) (queryId : String) (result : QueryResult)
    (providerPubkey : String) (oracleId : Option String) (blossomKeys : Option BlossomKeyMap)
    (now : JsNumber) : Turn :=
  match store.get? queryId with
  | none =>
    { events := [.escrowReturned call
        { ok := false, query := none, message := "Query not found" }] }
  | some query =>
    if query.escrow.isNone then
      { events := [.escrowReturned call
          { ok := false, query := some query, message := "Not an escrow query" }] }
    else
      let normalizedResult := deps.normalizeResult result
      match recordResult query normalizedResult providerPubkey blossomKeys now with
      | .error error =>
        { events := [.escrowReturned call { ok := false, query := some query, message := error }] }
      | .ok verifyingQuery =>
        { write := some (queryId, verifyingQuery)
          events := [.escrowBegan call query result providerPubkey]
          pending := some (.escrowVerify
            { queryId := queryId
              query := query
              verifyingQuery := verifyingQuery
              normalizedResult := normalizedResult
              blossomKeys := blossomKeys
              request := verifyWithQuorum deps.platform registry verifyingQuery oracleId }) }

/-- The last `return` of `doSubmitEscrowResult`, when there is nothing to hand over. -/
def returnVerdict (call : Nat) (updated : Query) (passed : Bool) (failures : List String) : Turn :=
  { events := [.escrowReturned call
      { ok := passed
        query := some updated
        message :=
          if passed then "Verification passed."
          else "Verification failed: " ++ ", ".intercalate failures }] }

/-- The call settles by escrow type once verification passed. -/
def settle (deps : ServiceDeps) (p : EscrowSubmission) (call : Nat) (updated : Query) : Turn :=
  match p.query.escrow.map EscrowInfo.type with
  | some (.htlc hash) =>
    if deps.preimageStore && hash ≠ "" then { pending := some (.escrowGet hash updated) }
    else returnVerdict call updated true []
  | some (.p2pkFrost _) =>
    if deps.frostSignature then
      { events := [.frostRequested call p.verifyingQuery p.normalizedResult]
        pending := some (.escrowFrost updated) }
    else returnVerdict call updated true []
  | none => returnVerdict call updated true []

/-- `doSubmitEscrowResult` after `verifyAndFinalize`. -/
def EscrowSubmission.finish (deps : ServiceDeps) (p : EscrowSubmission) (call : Nat)
    (v : QuorumVerificationResult) : Turn :=
  let updated := p.verifyingQuery.finalized v
  let turn : Turn :=
    if v.passed then settle deps p call updated
    else returnVerdict call updated false v.verification.failures
  { turn with
    write := some (p.queryId, updated)
    events := .verified call p.normalizedResult v.passed :: turn.events }

/-- `tryRevealPreimage` once the store has answered. -/
def gotPreimage (call : Nat) (hash : String) (preimage : Option String) (updated : Query) : Turn :=
  match preimage.filter (· ≠ "") with
  | some preimage => { pending := some (.escrowDelete hash preimage updated) }
  | none => returnVerdict call updated true []

def returnPreimage (call : Nat) (preimage : String) (updated : Query) : Turn :=
  { events := [.escrowReturned call
      { ok := true
        query := some updated
        message := "Verification passed. Preimage revealed for HTLC redemption."
        preimage := some preimage }] }

/-- An array of signatures is handed over even when it is empty. -/
def gotSignature (call : Nat) (frostSignature : Option (List String)) (updated : Query) : Turn :=
  match frostSignature with
  | some signature =>
    { events :=
        [.frostAnswered call signature,
          .escrowReturned call
            { ok := true
              query := some updated
              message :=
                "Verification passed. FROST group signature delivered for P2PK redemption."
              frostSignature := some signature }] }
  | none => returnVerdict call updated true []

/-! ## Resuming -/

/-- The turn of a suspended call that an answer sets off; `none` if it cannot be the answer. A
rejected promise rejects the call, except that `requestSignature` is caught. -/
def Pending.resume (deps : ServiceDeps) (call : Nat) (now : JsNumber) :
    Pending → Answer → Option Turn
  | .submitResult p, .attestations atts =>
    (p.request.reply atts).map fun v => p.finish call v now
  | .selectAmount p sats, .amount check => some (p.amountChecked call sats check)
  | .selectLock p hash, .lock check => some (p.lockChecked call hash check)
  | .escrowVerify p, .attestations atts =>
    (p.request.reply atts).map fun v => p.finish deps call v
  | .escrowGot hash preimage updated, .stored => some (gotPreimage call hash preimage updated)
  | .escrowDeleted _ preimage updated, .stored => some (returnPreimage call preimage updated)
  | .escrowFrost updated, .signature frostSignature =>
    some (gotSignature call frostSignature updated)
  | .escrowFrost updated, .rejected => some (gotSignature call none updated)
  | _, .rejected => some { events := [.threw call] }
  | _, _ => none

end Anchr.Requests
