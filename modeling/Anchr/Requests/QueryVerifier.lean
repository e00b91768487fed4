import Anchr.Proofs.Contract
import Anchr.Requests.Aggregate

/-!
# From queries to the verifier's contract

`requests/application/query-verifier.ts`: what a query asks of the verifier, and what a result gives
it.
-/

namespace Anchr.Requests

open Infra Proofs

/-- The token a FROST escrow is bound to, unless it is empty. -/
def boundEscrowToken (request : Query) : Option String :=
  (request.escrow.bind fun escrow =>
    match escrow.type with
    | .p2pkFrost _ => escrow.escrowToken
    | .htlc _ => none).filter (· ≠ "")

def requestToRequirement (sha256 : List UInt8 → List UInt8) (request : Query) :
    VerificationRequirement where
  id := request.id
  schema := some (request.schema.getD defaultQuerySchema)
  factors := request.verificationRequirements
  description := some request.description
  challengeNonce := request.challengeNonce
  schemaRequirement := request.schemaRequirement
  escrowTokenHash := (boundEscrowToken request).map fun token => bytesToHex (sha256 (utf8 token))

def resultToVerificationInput (result : QueryResult) : VerificationInput where
  attachments := result.attachments
  schemaEvidence := result.schemaEvidence

end Anchr.Requests
