import Anchr.Requests.Aggregate

/-!
# Oracle verification

The registry of `adapters/oracle-client/registry.ts` and `verifyWithQuorum` of
`requests/application/query-verification.ts`. What the `verify` of an Oracle answers comes from
outside, so a verification is cut at its `await`.
-/

namespace Anchr.Requests

open Infra

/-! ## Registry -/

/-- An Oracle, by the id in its `info`. -/
structure Oracle where
  id : String
  deriving DecidableEq

/-- `createOracleRegistry`: Oracles are kept under their own id. -/
structure OracleRegistry where
  oracles : JsMap String Oracle
  keyed : ∀ id o, oracles.get? id = some o → o.id = id

namespace OracleRegistry

def empty : OracleRegistry := ⟨.empty, by simp⟩

/-- An Oracle is registered under its id. -/
def register (registry : OracleRegistry) (oracle : Oracle) : OracleRegistry where
  oracles := registry.oracles.set oracle.id oracle
  keyed := by
    intro id o h
    rw [JsMap.get?_set] at h
    split at h
    · next he => rw [← Option.some.inj h, he]
    · exact registry.keyed id o h

/-- An id list that is `undefined` or empty does not restrict anything. -/
def restricts (acceptableIds : Option (List String)) : Bool :=
  acceptableIds.any fun ids => !ids.isEmpty

def resolve (registry : OracleRegistry) (oracleId : Option String)
    (acceptableIds : Option (List String)) : Option Oracle :=
  match oracleId.filter (· ≠ "") with
  | some id =>
    if restricts acceptableIds && !(acceptableIds.getD []).contains id then none
    else registry.oracles.get? id
  | none =>
    match acceptableIds with
    | some [id] => registry.oracles.get? id
    | _ => none

/-- The loop of `resolveMultiple`: stop as soon as `count` Oracles are found. -/
def collect {α : Type} (lookup : α → Option Oracle) (count : Int) :
    List α → List Oracle → List Oracle
  | [], result => result
  | x :: xs, result =>
    if count ≤ result.length then result
    else
      match lookup x with
      | some o => collect lookup count xs (result ++ [o])
      | none => collect lookup count xs result

def resolveMultiple (registry : OracleRegistry) (acceptableIds : Option (List String))
    (count : Int) : List Oracle :=
  if restricts acceptableIds then
    collect registry.oracles.get? count (acceptableIds.getD []) []
  else collect some count registry.oracles.values []

end OracleRegistry

/-! ## Verification -/

/-- The verdict, with its attestations. -/
structure QuorumVerificationResult where
  passed : Bool
  attestations : List OracleAttestationRecord
  verification : VerificationDetail

def toAttestationRecord (a : OracleAttestation) : OracleAttestationRecord where
  oracleId := a.oracleId
  passed := a.passed
  checks := a.checks
  failures := a.failures
  attestedAt := a.attestedAt
  schemaVerdict := a.schemaVerdict

/-- An attestation of this Oracle. -/
def Oracle.verdict (o : Oracle) (queryId : String) (passed : Bool) : OracleAttestation where
  oracleId := o.id
  queryId := queryId
  passed := passed
  checks := []
  failures := []
  attestedAt := .ofInt 0

def unavailable (failure : String) : QuorumVerificationResult where
  passed := false
  attestations := []
  verification := { passed := false, checks := [], failures := [failure] }

/-- Who is to be asked. -/
inductive QuorumRequest where
  /-- No Oracle is asked; the result is already known. -/
  | settled (result : QuorumVerificationResult)
  /-- One Oracle decides. -/
  | single (oracle : Oracle)
  /-- Every Oracle of the list is asked and approvals are counted. -/
  | quorum (oracles : List Oracle) (minApprovals : Int)

/-- The Oracles that are asked. -/
def QuorumRequest.asked : QuorumRequest → List Oracle
  | .settled _ => []
  | .single o => [o]
  | .quorum os _ => os

/-- Neither resolver finds anything when the service has no registry. -/
def verifySingleOracle (registry : Option OracleRegistry) (query : Query)
    (effectiveOracleId : Option String) : QuorumRequest :=
  match registry.bind fun r => r.resolve effectiveOracleId query.oracleIds with
  | some o => .single o
  | none =>
    .settled (unavailable
      (match effectiveOracleId.filter (· ≠ "") with
        | some id => "Oracle \"" ++ id ++ "\" is not available or not accepted for this query"
        | none => "No oracle available for this query"))

def verifyQuorum (P : Platform) (registry : Option OracleRegistry) (query : Query)
    (quorum : QuorumConfig) : QuorumRequest :=
  match registry with
  | none => .settled (unavailable "No oracle registry with resolveMultiple support")
  | some r =>
    let needed := quorum.minApprovals + 2
    let oracles := r.resolveMultiple query.oracleIds needed
    if (oracles.length : Int) < quorum.minApprovals then
      .settled (unavailable
        ("Need " ++ P.text.toString (.ofInt quorum.minApprovals) ++ " oracles but only "
          ++ P.text.toString (.ofInt oracles.length) ++ " available"))
    else .quorum oracles quorum.minApprovals

/-- Everything up to the `await`: which Oracles are asked, or a result that needs no Oracle at all.
-/
def verifyWithQuorum (P : Platform) (registry : Option OracleRegistry) (query : Query)
    (oracleId : Option String) : QuorumRequest :=
  let effectiveOracleId := if OracleRegistry.restricts query.oracleIds then oracleId else none
  match query.quorum with
  | none => verifySingleOracle registry query effectiveOracleId
  | some quorum => verifyQuorum P registry query quorum

/-- The result of a quorum from the attestations collected. -/
def tally (minApprovals : Int) (rawAtts : List OracleAttestation) : QuorumVerificationResult :=
  let records := rawAtts.map toAttestationRecord
  let passCount := (records.filter OracleAttestationRecord.passed).length
  let passed := decide (minApprovals ≤ passCount)
  { passed := passed
    attestations := records
    verification :=
      { passed := passed
        checks := records.flatMap OracleAttestationRecord.checks
        failures := records.flatMap OracleAttestationRecord.failures
        schemaVerdict := (records.find? OracleAttestationRecord.passed).bind
          OracleAttestationRecord.schemaVerdict } }

/-- The verdict, once every asked Oracle has answered. If one of them rejects, `await` (or
`Promise.all`) rejects with it and there is no reply. -/
def QuorumRequest.reply (request : QuorumRequest) (atts : List OracleAttestation) :
    Option QuorumVerificationResult :=
  if atts.length ≠ request.asked.length then none
  else
    match request, atts with
    | .settled result, _ => some result
    | .single _, att :: _ =>
      some
        { passed := att.passed
          attestations := [toAttestationRecord att]
          verification :=
            { passed := att.passed
              checks := att.checks
              failures := att.failures
              schemaVerdict := att.schemaVerdict } }
    | .single _, [] => none
    | .quorum _ minApprovals, _ => some (tally minApprovals atts)

end Anchr.Requests
