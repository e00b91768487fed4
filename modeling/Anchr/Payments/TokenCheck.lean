import Anchr.Payments.RedeemSwap

/-!
# Checking a token at the mint

`verifyToken` of `payments/cashu/cashu-wallet.ts`.
-/

namespace Anchr.Payments

open Infra

/-- A mint as a wallet sees it; an error is the text of what is thrown. -/
structure Mint where
  loadMint : Except String Unit
  checkProofsStates : List Proof → Except String (List CheckState)

def Mint.states (mint : Mint) (proofs : List Proof) : Except String (List CheckState) := do
  mint.loadMint
  mint.checkProofsStates proofs

variable {T : NumberText} {getDecodedToken : String → Except String DecodedToken}
  {mintUrl : Option String} {mints : String → Mint} {token : String}

end Anchr.Payments
