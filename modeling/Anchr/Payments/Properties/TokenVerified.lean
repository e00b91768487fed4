import Anchr.Payments.TokenCheck

/-!
# What a verified token is worth

What `verifyToken` does not check: the mint of the token, the number of answers, and repeated
proofs.
-/

namespace Anchr.Payments

open Infra

variable {proofs : List Proof}

variable {T : NumberText} {getDecodedToken : String → Except String DecodedToken} {url : String}
  {mints : String → Mint} {token : String} {expected : JsNumber}

end Anchr.Payments
