import Anchr.Payments.FrostRedeem

/-!
# Group signatures and the proofs they are for

The signatures of a release travel as a list without labels.
-/

namespace Anchr.Frost

open Infra Payments Proofs Requests

/-- The proofs in their order, each countersigned with the signature in its place. -/
structure HandedOver (text : NumberText) (proofs signed : List SpendableProof)
    (signatures : List String) (handed : List SpendableProof) : Prop where
  order : handed.map SpendableProof.unwitnessed = proofs.map SpendableProof.unwitnessed
  witnesses : ∀ (i : Nat) proof, signed[i]? = some proof → ∃ signature final,
    signatures[i]? = some signature ∧ handed[i]? = some final ∧
      Countersigned text proof signature final

section

variable {R : RedeemTools} {decodeError : String → String}
  {coordinateSigning : Nat → SigningCoordinatorConfig → String → Settled String} {query : Query}
  {result : QueryResult} {blossomKeys : Option BlossomKeyMap} {token : String}

variable {signatures : List String}

end

end Anchr.Frost
