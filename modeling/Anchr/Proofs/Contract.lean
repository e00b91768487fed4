import Anchr.Requests.Types

/-!
# What a verifier checks

`VerificationRequirement` and `VerificationInput` of `proofs/verification/contract.ts`. The verdict
is `VerificationDetail`, which a `Query` carries too.
-/

namespace Anchr.Proofs

open Infra Requests

/-- What is required of a Result. -/
structure VerificationRequirement where
  id : String
  schema : Option String := none
  factors : List String := []
  description : Option String := none
  challengeNonce : Option String := none
  schemaRequirement : Option Json := none
  /-- SHA-256 over the encoded escrow token, when signing is bound to a token. -/
  escrowTokenHash : Option String := none

/-- What was submitted. -/
structure VerificationInput where
  attachments : List AttachmentRef := []
  schemaEvidence : Option Json := none

end Anchr.Proofs
