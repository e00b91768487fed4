import Anchr.Frost.SigningMessage
import Anchr.Requests.QueryVerifier

/-!
# Asking the peers for group signatures

`requestSignature` of `payments/frost/frost-signature-adapter.ts`. The loop asks for one signature
after another and gives up at the first that does not come about.
-/

namespace Anchr.Frost

open Infra Proofs Requests

/-- How a promise is settled. -/
inductive Settled (α : Type) where
  | value (a : α)
  | null
  | threw (message : String)

/-- `query.escrow?.type === "p2pk_frost" ? query.escrow.escrow_token : undefined`. -/
def frostEscrowToken (query : Query) : Option String :=
  query.escrow.bind fun escrow =>
    match escrow.type with
    | .p2pkFrost _ => escrow.escrowToken
    | .htlc _ => none

section

variable {K : FrostTools} {query : Query} {token : String}
  (htoken : frostEscrowToken query = some token) (hne : token ≠ "")
  (decodeError : String → String)
  (coordinateSigning : Nat → SigningCoordinatorConfig → String → Settled String)
  (result : QueryResult) (blossomKeys : Option BlossomKeyMap)

include htoken hne

end

end Anchr.Frost
