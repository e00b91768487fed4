import Anchr.Infra.Text
import Anchr.Requests.Types

/-!
# The query aggregate

The pure transition functions of `requests/domain/query-aggregate.ts`, with the transition tables of
`query-transitions.ts` and the checks of `value-objects.ts`. Clock readings, ids and nonces come in
as arguments.
-/

namespace Anchr.Requests

open Infra

/-! ## Transition tables -/

def simpleTransitions : QueryStatus → List QueryStatus
  | .pending => [.approved, .rejected, .expired]
  | _ => []

def escrowTransitions : QueryStatus → List QueryStatus
  | .awaitingOffers => [.providerSelected, .expired]
  | .providerSelected => [.processing, .expired]
  | .processing => [.verifying, .expired]
  | .verifying => [.approved, .rejected, .expired]
  | _ => []

def terminalStatuses : List QueryStatus := [.approved, .rejected, .expired]

def openStatuses : List QueryStatus := [.pending, .awaitingOffers, .providerSelected, .processing]

def expirableStatuses : List QueryStatus :=
  [.pending, .awaitingOffers, .providerSelected, .processing, .verifying]

def isValidTransition (from_ to_ : QueryStatus) (isHtlc : Bool) : Bool :=
  (if isHtlc then escrowTransitions from_ else simpleTransitions from_).contains to_

def isExpirable (status : QueryStatus) : Bool := expirableStatuses.contains status

def isTerminal (status : QueryStatus) : Bool := terminalStatuses.contains status

def isOpenStatus (status : QueryStatus) : Bool := openStatuses.contains status

theorem isExpirable_eq_not_isTerminal (status : QueryStatus) :
    isExpirable status = !isTerminal status := by
  cases status <;> decide

variable {status : QueryStatus} {query query' : Query} {providerPubkey : String}

theorem isTerminal_of_isOpenStatus (h : isOpenStatus status = true) :
    isTerminal status = false := by
  cases status <;> first | rfl | exact absurd h (by decide)

theorem isTerminal_of_isValidTransition {from_ to_ : QueryStatus} {isHtlc : Bool}
    (h : isValidTransition from_ to_ isHtlc = true) : isTerminal from_ = false := by
  cases from_ <;> first | rfl | (cases isHtlc <;> simp [isValidTransition, escrowTransitions,
    simpleTransitions] at h)

theorem eq_awaitingOffers (h : isValidTransition status .providerSelected true = true) :
    status = .awaitingOffers := by
  cases status <;> first | rfl | exact absurd h (by decide)

theorem eq_processing (h : isValidTransition status .verifying true = true) :
    status = .processing := by
  cases status <;> first | rfl | exact absurd h (by decide)

variable {passed : Bool}

theorem eq_verifying
    (h : isValidTransition status (if passed then .approved else .rejected) true = true) :
    status = .verifying := by
  cases status <;> first | rfl | (cases passed <;> exact absurd h (by decide))

/-! ## Value objects -/

/-- `!s || s.trim().length === 0`. -/
def isBlank (s : String) : Bool := s.toList.all isJsSpace

def minEscrowLocktimeSecs : JsNumber := .ofInt 600

def validateEscrowLocktime (P : Platform) (locktime nowSecs minSecs : JsNumber) : Option String :=
  if !locktime.isFinite then some "locktime must be a finite number"
  else
    let remaining := locktime.sub nowSecs
    if remaining.lt minSecs then
      some ("escrow locktime must be at least " ++ P.text.toString minSecs
        ++ "s in the future (got " ++ P.text.toString remaining ++ "s)")
    else none

def validateQueryInput (P : Platform) (input : QueryInput) : Option String :=
  if isBlank input.description then some "description must not be empty"
  else
    match input.schema with
    | some uri => if P.isSchemaUri uri then none else some "schema must be a valid Proof Schema URL"
    | none => none

def validateOfferInfo (offer : OfferInfo) : Option String :=
  if isBlank offer.providerPubkey then some "provider_pubkey must not be empty"
  else if isBlank offer.offerEventId then some "offer_event_id must not be empty"
  else none

/-! ## Creation -/

def defaultQuerySchema : String := "https://anchr-spec.org/spec/proof/photo/v1"

structure CreateQueryAggregateOptions where
  ttlMs : JsNumber
  customerMeta : Option CustomerMeta := none
  paymentLock : Option PaymentLockInfo := none
  oracleIds : Option (List String) := none
  escrow : Option EscrowInfo := none
  nostrEventId : Option String := none
  quorum : Option QuorumConfig := none

/-- The locktime is checked only when it is truthy. -/
def locktimeError (P : Platform) (escrow : Option EscrowInfo) (now : JsNumber) : Option String :=
  match escrow with
  | some e =>
    if e.locktime.truthy then
      validateEscrowLocktime P e.locktime (now.scale (1 / 1000)).floor minEscrowLocktimeSecs
    else none
  | none => none

def createQueryAggregate (P : Platform) (input : QueryInput) (options : CreateQueryAggregateOptions)
    (now : JsNumber) (newQueryId newChallengeNonce : String) : Except String Query :=
  match validateQueryInput P input with
  | some error => .error error
  | none =>
    match locktimeError P options.escrow now with
    | some error => .error error
    | none =>
      let requirements := input.verificationRequirements.getD []
      let isEscrow := options.escrow.isSome
      .ok
        { id := newQueryId
          schema := some (input.schema.getD defaultQuerySchema)
          status := if isEscrow then .awaitingOffers else .pending
          description := input.description
          locationHint := input.locationHint
          challengeNonce := if requirements.contains "nonce" then some newChallengeNonce else none
          verificationRequirements := requirements
          createdAt := now
          expiresAt := now.add options.ttlMs
          customerMeta := options.customerMeta
          paymentLock := options.paymentLock
          oracleIds := options.oracleIds
          paymentStatus := if isEscrow then .escrowLocked else .locked
          escrow := options.escrow
          offers := if isEscrow then some [] else none
          nostrEventId := options.nostrEventId
          schemaRequirement := input.schemaRequirement
          quorum := options.quorum }

/-! ## Transitions of every query

The service has its own copies of these three (`doSubmitQueryResult`, `doExpireQueries` and
`doCancelQuery`).
-/

/-- Simple path: `pending` to `approved` or `rejected`. A record past its deadline expires, which is
no refusal. -/
def submitResult (query : Query) (result : QueryResult) (verification : VerificationDetail)
    (submissionMeta : SubmissionMeta) (oracleId : Option String)
    (attestations : Option (List OracleAttestationRecord)) (blossomKeys : Option BlossomKeyMap)
    (now : JsNumber) : Except String Query :=
  if query.escrow.isSome then .error "Use the escrow-mode functions for queries with an escrow"
  else if query.status ≠ .pending then
    .error ("Query is " ++ query.status.text ++ ", not pending")
  else if query.expiresAt.lt now then
    .ok { query with status := .expired, paymentStatus := .cancelled }
  else
    .ok
      { query with
        status := if verification.passed then .approved else .rejected
        submittedAt := some now
        result := some result
        verification := some verification
        submissionMeta := some submissionMeta
        paymentStatus := if verification.passed then .released else .cancelled
        assignedOracleId :=
          ((attestations.bind List.head?).map OracleAttestationRecord.oracleId).or oracleId
        blossomKeys := blossomKeys
        attestations := if query.quorum.isSome then attestations else none }

def expireQuery (query : Query) (now : JsNumber) : Except String Query :=
  if !isExpirable query.status then
    .error ("Query is " ++ query.status.text ++ ", cannot expire")
  else if now.le query.expiresAt then .error "Query has not expired yet"
  else .ok { query with status := .expired, paymentStatus := .cancelled }

def cancelQuery (query : Query) : Except String Query :=
  if !isOpenStatus query.status then .error ("Query is already " ++ query.status.text)
  else .ok { query with status := .rejected, paymentStatus := .cancelled }

/-! ## Escrow transitions -/

def addOffer (query : Query) (offer : OfferInfo) : Except String Query :=
  if query.escrow.isNone then .error "Not an escrow query"
  else if query.status ≠ .awaitingOffers then
    .error ("Query is " ++ query.status.text ++ ", not awaiting_offers")
  else
    match validateOfferInfo offer with
    | some error => .error error
    | none => .ok { query with offers := some (query.offers.getD [] ++ [offer]) }

/--
Members a selection may overwrite. The outer `Option` is whether the key is present at all:
spreading a present key with value `undefined` erases the old value.
-/
structure EscrowSelectionUpdates where
  escrowToken : Option (Option String) := none
  verifiedEscrowSats : Option (Option JsNumber) := none
  escrowRef : Option (Option String) := none
  providerPubkey : Option (Option String) := none

/-- `{ ...escrow, provider_pubkey, ...updates }`. -/
def EscrowInfo.applySelection (escrow : EscrowInfo) (providerPubkey : String)
    (updates : EscrowSelectionUpdates) : EscrowInfo :=
  { escrow with
    providerPubkey := updates.providerPubkey.getD (some providerPubkey)
    escrowToken := updates.escrowToken.getD escrow.escrowToken
    verifiedEscrowSats := updates.verifiedEscrowSats.getD escrow.verifiedEscrowSats
    escrowRef := updates.escrowRef.getD escrow.escrowRef }

/-- Boolean coercion of an optional string. -/
def truthyString (s : Option String) : Bool := s.any (· ≠ "")

def selectProvider (query : Query) (providerPubkey : String) (updates : EscrowSelectionUpdates) :
    Except String Query :=
  match query.escrow with
  | none => .error "Not an escrow query"
  | some escrow =>
    if !isValidTransition query.status .providerSelected true then
      .error ("Query is " ++ query.status.text ++ ", not awaiting_offers")
    else
      .ok
        { query with
          status := .providerSelected
          escrow := some (escrow.applySelection providerPubkey updates)
          paymentStatus :=
            if truthyString updates.escrowToken.join then .escrowSwapped else query.paymentStatus }

def beginWork (query : Query) : Except String Query :=
  if query.escrow.isNone then .error "Not an escrow query"
  else if !isValidTransition query.status .processing true then
    .error ("Query is " ++ query.status.text ++ ", not provider_selected")
  else .ok { query with status := .processing }

/-- Only the selected Provider may hand in a result. -/
def recordResult (query : Query) (result : QueryResult) (providerPubkey : String)
    (blossomKeys : Option BlossomKeyMap) (now : JsNumber) : Except String Query :=
  match query.escrow with
  | none => .error "Not an escrow query"
  | some escrow =>
    if !isValidTransition query.status .verifying true then
      .error ("Query is " ++ query.status.text ++ ", not processing")
    else if truthyString escrow.providerPubkey && escrow.providerPubkey ≠ some providerPubkey then
      .error "Provider pubkey does not match selected provider"
    else
      .ok
        { query with
          status := .verifying
          result := some result
          submittedAt := some now
          submissionMeta := some { executorType := .human }
          blossomKeys := blossomKeys }

def completeVerification (query : Query) (passed : Bool) (verification : Option VerificationDetail)
    (oracleId : Option String) (attestations : Option (List OracleAttestationRecord)) :
    Except String Query :=
  if query.escrow.isNone then .error "Not an escrow query"
  else
    let target : QueryStatus := if passed then .approved else .rejected
    if !isValidTransition query.status target true then
      .error ("Query is " ++ query.status.text ++ ", not verifying")
    else
      .ok
        { query with
          status := target
          paymentStatus := if passed then .released else .cancelled
          verification := verification.or query.verification
          assignedOracleId :=
            oracleId.or ((attestations.bind List.head?).map OracleAttestationRecord.oracleId)
          attestations := if query.quorum.isSome then attestations else none }

/-! ## What a transition keeps

Each transition is refused on a terminal record and keeps the query id. These are all the later
proofs need to know about the bodies above.
-/

theorem addOffer_ok {offer : OfferInfo} (h : addOffer query offer = .ok query') :
    query.escrow.isSome ∧ query.status = .awaitingOffers ∧
      query' = { query with offers := some (query.offers.getD [] ++ [offer]) } := by
  unfold addOffer at h
  split at h
  · simp at h
  · next he =>
    split at h
    · simp at h
    · next hs =>
      split at h
      · simp at h
      · exact ⟨by simpa [Option.isSome_iff_ne_none] using he, by simpa using hs,
          (Except.ok.inj h).symm⟩

theorem selectProvider_ok {updates : EscrowSelectionUpdates}
    (h : selectProvider query providerPubkey updates = .ok query') :
    ∃ escrow, query.escrow = some escrow ∧ query.status = .awaitingOffers ∧
      query' =
        { query with
          status := .providerSelected
          escrow := some (escrow.applySelection providerPubkey updates)
          paymentStatus :=
            if truthyString updates.escrowToken.join then .escrowSwapped
            else query.paymentStatus } := by
  unfold selectProvider at h
  split at h
  · simp at h
  · next escrow he =>
    split at h
    · simp at h
    · next hs => exact ⟨escrow, he, eq_awaitingOffers (by simpa using hs), (Except.ok.inj h).symm⟩

theorem beginWork_ok (h : beginWork query = .ok query') :
    query.escrow.isSome ∧ isValidTransition query.status .processing true = true ∧
      query' = { query with status := .processing } := by
  unfold beginWork at h
  split at h
  · simp at h
  · next he =>
    split at h
    · simp at h
    · next hs =>
      exact ⟨by simpa [Option.isSome_iff_ne_none] using he, by simpa using hs,
        (Except.ok.inj h).symm⟩

theorem recordResult_ok {result : QueryResult} {blossomKeys : Option BlossomKeyMap}
    {now : JsNumber} (h : recordResult query result providerPubkey blossomKeys now = .ok query') :
    ∃ escrow, query.escrow = some escrow ∧ query.status = .processing ∧
      (truthyString escrow.providerPubkey = true → escrow.providerPubkey = some providerPubkey) ∧
      query' =
        { query with
          status := .verifying
          result := some result
          submittedAt := some now
          submissionMeta := some { executorType := .human }
          blossomKeys := blossomKeys } := by
  unfold recordResult at h
  split at h
  · simp at h
  · next escrow he =>
    split at h
    · simp at h
    · next hs =>
      split at h
      · simp at h
      · next hp =>
        refine ⟨escrow, he, eq_processing (by simpa using hs), ?_, (Except.ok.inj h).symm⟩
        intro ht
        simpa [ht] using hp

/-- The record is waiting for the result of this Provider. -/
def Query.Accepts (query : Query) (providerPubkey : String) : Prop :=
  query.status = .processing ∧ ∃ escrow, query.escrow = some escrow ∧
    (truthyString escrow.providerPubkey = true → escrow.providerPubkey = some providerPubkey)

theorem recordResult_accepts (h : query.Accepts providerPubkey) (result : QueryResult)
    (blossomKeys : Option BlossomKeyMap) (now : JsNumber) :
    recordResult query result providerPubkey blossomKeys now =
      .ok
        { query with
          status := .verifying
          result := some result
          submittedAt := some now
          submissionMeta := some { executorType := .human }
          blossomKeys := blossomKeys } := by
  obtain ⟨hstatus, escrow, hescrow, hprovider⟩ := h
  unfold recordResult
  rw [hescrow, hstatus]
  simpa [isValidTransition, escrowTransitions] using hprovider

theorem recordResult_error (h : ¬query.Accepts providerPubkey) (result : QueryResult)
    (blossomKeys : Option BlossomKeyMap) (now : JsNumber) :
    ∃ error, recordResult query result providerPubkey blossomKeys now = .error error := by
  cases hr : recordResult query result providerPubkey blossomKeys now with
  | error error => exact ⟨error, rfl⟩
  | ok query' =>
    obtain ⟨escrow, hescrow, hstatus, hprovider, -⟩ := recordResult_ok hr
    exact absurd ⟨hstatus, escrow, hescrow, hprovider⟩ h

theorem completeVerification_accepts (hescrow : query.escrow.isSome = true)
    (hstatus : query.status = .verifying) (passed : Bool)
    (verification : Option VerificationDetail) (oracleId : Option String)
    (attestations : Option (List OracleAttestationRecord)) :
    completeVerification query passed verification oracleId attestations =
      .ok
        { query with
          status := if passed then .approved else .rejected
          paymentStatus := if passed then .released else .cancelled
          verification := verification.or query.verification
          assignedOracleId :=
            oracleId.or ((attestations.bind List.head?).map OracleAttestationRecord.oracleId)
          attestations := if query.quorum.isSome then attestations else none } := by
  have hnone : ¬query.escrow.isNone = true := by
    simpa [Option.isSome_iff_ne_none] using hescrow
  have hvalid : isValidTransition .verifying (if passed then .approved else .rejected) true =
      true := by
    cases passed <;> rfl
  unfold completeVerification
  rw [if_neg hnone, hstatus]
  dsimp only
  rw [hvalid]
  rfl

theorem completeVerification_ok {verification : Option VerificationDetail}
    {oracleId : Option String} {attestations : Option (List OracleAttestationRecord)}
    (h : completeVerification query passed verification oracleId attestations = .ok query') :
    query.escrow.isSome ∧ query.status = .verifying ∧
      query' =
        { query with
          status := if passed then .approved else .rejected
          paymentStatus := if passed then .released else .cancelled
          verification := verification.or query.verification
          assignedOracleId :=
            oracleId.or ((attestations.bind List.head?).map OracleAttestationRecord.oracleId)
          attestations := if query.quorum.isSome then attestations else none } := by
  unfold completeVerification at h
  split at h
  · simp at h
  · next he =>
    have hsome : query.escrow.isSome := by simpa [Option.isSome_iff_ne_none] using he
    by_cases hv :
      isValidTransition query.status (if passed then .approved else .rejected) true = true
    · simp only [hv, Bool.not_true, Bool.false_eq_true, if_false, Except.ok.injEq] at h
      exact ⟨hsome, eq_verifying hv, h.symm⟩
    · simp [hv] at h

end Anchr.Requests
