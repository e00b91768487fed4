import Anchr.Payments.RedeemSwap

/-!
# Redeeming a Provider-bound HTLC

`redeemHtlcToken` of `payments/cashu/cashu-escrow.ts`, and `redeemHtlc` of the client in
`adapters/cashu.ts`. Both put the preimage into the witness of each proof, sign with the Provider's
key and hand over to `redeemSignedProofs`; they check different things before that.
-/

namespace Anchr.Payments

open Infra Frost

/-- What redeeming an HTLC takes from the Cashu library besides. `none` where it throws. -/
structure HtlcTools extends RedeemTools where
  verifyHTLCHash : String → String → Option Bool
  isHTLCSpendAuthorised : SpendableProof → Option Bool

/-! ## Witnesses -/

/-- `{ preimage, signatures: [] }`. -/
def preimageRecord (preimage : String) : List (String × Json) :=
  [("preimage", .str preimage), ("signatures", .arr [])]

/-- The proof with the preimage in its witness. -/
def withPreimage (text : NumberText) (preimage : String) (proof : SpendableProof) :
    SpendableProof :=
  { proof with witness := some (.str ((Json.obj (preimageRecord preimage)).stringify text)) }

variable (H : HtlcTools)

/-- `none` when signing throws. -/
def prepareHtlcWitness (proofs : List SpendableProof) (preimage providerPrivateKey : String) :
    Option (List SpendableProof) :=
  H.signP2PKProofs (proofs.map (withPreimage H.text preimage)) providerPrivateKey

/-- The client's own copy of `prepareHtlcWitness`. -/
def prepareHtlcRedemption (proofs : List SpendableProof) (preimageHex privkeyHex : String) :
    Option (List SpendableProof) :=
  H.signP2PKProofs (proofs.map (withPreimage H.text preimageHex)) privkeyHex

/-! ## `redeemHtlcToken` -/

structure HtlcRedeemResult where
  token : String
  proofs : List SpendableProof
  amountSats : JsNumber

/-- The outcome of `redeemHtlcToken` and the text of its log entry, without the appended detail. -/
structure TokenRedemption where
  outcome : Settled HtlcRedeemResult
  log : Option String

/-- Each function is cut at the swap, into what leads to it and what becomes of its result. -/
inductive HtlcTokenStart where
  | settled (redemption : TokenRedemption)
  /-- `redeemSignedProofs` is called. -/
  | swap (mintUrl : String) (signedProofs : List SpendableProof) (signingPrivateKey : String)

/-- The result of the loop; `none` when the check throws. -/
def verifyHtlcSpendAuth : List SpendableProof → Option (Option String)
  | [] => some none
  | proof :: rest =>
    match H.isHTLCSpendAuthorised proof with
    | none => none
    | some true => verifyHtlcSpendAuth rest
    | some false => some (some "HTLC spending condition not met")

/-- `redeemHtlcToken` up to the swap. `libraryError` is the text of what the library throws. -/
def redeemHtlcTokenStart (libraryError : String) (walletAndConfig : Settled String)
    (htlcProofs : List SpendableProof) (preimage providerPrivateKey : String) : HtlcTokenStart :=
  match walletAndConfig with
  | .null => .settled ⟨.null, none⟩
  | .threw message => .settled ⟨.threw message, none⟩
  | .value mintUrl =>
    match prepareHtlcWitness H htlcProofs preimage providerPrivateKey with
    | none => .settled ⟨.null, some "Failed to prepare HTLC witness:"⟩
    | some signedProofs =>
      match verifyHtlcSpendAuth H signedProofs with
      | none => .settled ⟨.threw libraryError, none⟩
      | some (some _) => .settled ⟨.null, some "HTLC spending condition NOT met:"⟩
      | some none => .swap mintUrl signedProofs providerPrivateKey

def inputsUnspentLog : String := "Failed to redeem HTLC token (inputs unspent — safe to retry):"

/-- After the swap; `none` when `redeemSignedProofs` rejects. -/
def redeemHtlcTokenEnd (libraryError mintUrl : String) :
    Option RedeemSwapResult → TokenRedemption
  | none => ⟨.threw libraryError, none⟩
  | some (.ok proofs amountSats _) =>
    ⟨.value { token := H.encodeProofs mintUrl proofs, proofs, amountSats }, none⟩
  | some (.failed reason _ uncertain) =>
    if reason = .feeExceedsAmount then ⟨.null, some "Fee exceeds total amount"⟩
    else if reason ≠ .inputsUnspent ∧ uncertain = true then
      ⟨.threw ("redeemHtlcToken: mint swap failed with inputs spent or unknowable — check the " ++
        "mint before retrying; do not treat the token as burned"), none⟩
    else ⟨.null, some inputsUnspentLog⟩

def redeemHtlcToken (wallet : CashuRedeemWallet) (libraryError : String)
    (walletAndConfig : Settled String) (htlcProofs : List SpendableProof)
    (preimage providerPrivateKey : String) : TokenRedemption :=
  match redeemHtlcTokenStart H libraryError walletAndConfig htlcProofs preimage
    providerPrivateKey with
  | .settled redemption => redemption
  | .swap mintUrl signedProofs signingPrivateKey =>
    redeemHtlcTokenEnd H libraryError mintUrl
      (redeemSignedProofs wallet signedProofs (some signingPrivateKey))

/-! ## `redeemHtlc` -/

/-- What `redeemHtlc` throws. -/
inductive ClientError where
  | cashuClientError (message : String)
  | cashuMintError (message : String)
  | cashuMintUncertainError (message : String)
  | other (message : String)
  deriving DecidableEq

structure RedeemResult where
  proofs : List SpendableProof
  amountSats : JsNumber

/-- `secret[1]?.data` of a secret that is an array with `"HTLC"` in front. -/
def htlcData (secret : Json) : Option (Option Json) :=
  match secret with
  | .arr (.str kind :: rest) =>
    if kind = "HTLC" then some (rest.head?.bind fun body => body.get? "data") else none
  | _ => none

def checkHashlock (libraryError preimageHex : String) (i : Nat) (proof : SpendableProof) :
    Except ClientError Unit :=
  match Json.parse H.text proof.secret with
  | none => .error (.cashuClientError ("redeemHtlc: proof " ++ toString i ++
      " has malformed secret"))
  | some secret =>
    match htlcData secret with
    | none => .error (.cashuClientError ("redeemHtlc: proof " ++ toString i ++
        " is not an HTLC proof"))
    | some (some (.str expectedHash)) =>
      match H.verifyHTLCHash preimageHex expectedHash with
      | none => .error (.other libraryError)
      | some true => .ok ()
      | some false => .error (.cashuClientError
          ("redeemHtlc: preimage does not match proof " ++ toString i ++ "'s hashlock"))
    | some _ => .error (.cashuClientError ("redeemHtlc: proof " ++ toString i ++
        " has no hashlock data"))

def checkHashlocks (libraryError preimageHex : String) :
    Nat → List SpendableProof → Except ClientError Unit
  | _, [] => .ok ()
  | i, proof :: rest => do
    checkHashlock H libraryError preimageHex i proof
    checkHashlocks libraryError preimageHex (i + 1) rest

/-- The argument of `redeemHtlc`. -/
structure RedeemHtlcParams where
  token : String
  preimageHex : String
  providerSecretKey : List UInt8

/-- `redeemHtlc` up to the swap: the signed proofs and the private key. -/
def redeemHtlcStart (libraryError : String) (p : RedeemHtlcParams) :
    Except ClientError (List SpendableProof × String) :=
  match H.getDecodedProofs p.token with
  | none => .error (.other libraryError)
  | some proofs =>
    if proofs.isEmpty then .error (.cashuClientError "redeemHtlc: token has no proofs")
    else do
      checkHashlocks H libraryError p.preimageHex 0 proofs
      let privkeyHex := bytesToHex p.providerSecretKey
      match prepareHtlcRedemption H proofs p.preimageHex privkeyHex with
      | none => .error (.other libraryError)
      | some signedProofs => .ok (signedProofs, privkeyHex)

def safeRetryMessage : String :=
  "redeemHtlc: mint swap failed; inputs are unspent — safe to retry with the same token"

/-- `fee` and `totalAmount` are those of the failed result. -/
def mapRedeemFailure (fee totalAmount : JsNumber) : RedeemSwapFailureReason → ClientError
  | .feeExceedsAmount => .cashuMintError ("redeemHtlc: mint fee " ++ H.text.toString fee ++
      " exceeds available " ++ H.text.toString totalAmount ++ " sats")
  | .mintError => .cashuMintError "redeemHtlc: mint swap failed"
  | .stateUnknown => .cashuMintUncertainError ("redeemHtlc: mint swap failed and the input state " ++
      "could not be checked — keep the token and retry once the mint is reachable")
  | .inputsUnspent => .cashuMintError safeRetryMessage
  | .outputsNotRegistered => .cashuMintUncertainError ("redeemHtlc: inputs are spent at the mint " ++
      "but no recoverable outputs were registered — check the mint before retrying")
  | .restoreFailed => .cashuMintUncertainError ("redeemHtlc: inputs are spent and NUT-09 restore " ++
      "failed — outputs remain recoverable; check the mint")
  | .restoreEmpty => .cashuMintUncertainError ("redeemHtlc: inputs are spent but the mint " ++
      "returned no signatures for the registered outputs — check the mint")

def redeemHtlcEnd (wallet : CashuRedeemWallet) (libraryError : String)
    (signedProofs : List SpendableProof) : Option RedeemSwapResult → Except ClientError RedeemResult
  | none => .error (.other libraryError)
  | some (.ok proofs amountSats _) => .ok { proofs, amountSats }
  | some (.failed reason _ _) =>
    .error (mapRedeemFailure H (wallet.getFeesForProofs signedProofs)
      (sumProofAmounts signedProofs) reason)

/-- With the wallet at hand: a wallet that cannot be loaded is thrown before this. -/
def redeemHtlc (wallet : CashuRedeemWallet) (libraryError : String) (p : RedeemHtlcParams) :
    Except ClientError RedeemResult := do
  let (signedProofs, privkeyHex) ← redeemHtlcStart H libraryError p
  redeemHtlcEnd H wallet libraryError signedProofs
    (redeemSignedProofs wallet signedProofs (some privkeyHex))

/-! ## What reaches the swap -/

variable {H}

variable {signedProofs : List SpendableProof} {libraryError mintUrl key preimageHex : String}
  {result : Option RedeemSwapResult}

theorem verifyHtlcSpendAuth_none :
    verifyHtlcSpendAuth H signedProofs = some none ↔
      ∀ proof ∈ signedProofs, H.isHTLCSpendAuthorised proof = some true := by
  induction signedProofs with
  | nil => simp [verifyHtlcSpendAuth]
  | cons proof rest ih =>
    rw [verifyHtlcSpendAuth, List.forall_mem_cons, ← ih]
    split
    next h => simp [h]
    next h => simp [h]
    next h => simp [h]

theorem redeemHtlcTokenStart_swap {preimage providerPrivateKey : String}
    {walletAndConfig : Settled String} {htlcProofs : List SpendableProof}
    (h : redeemHtlcTokenStart H libraryError walletAndConfig htlcProofs preimage
      providerPrivateKey = .swap mintUrl signedProofs key) :
    walletAndConfig = .value mintUrl ∧ key = providerPrivateKey ∧
      prepareHtlcWitness H htlcProofs preimage providerPrivateKey = some signedProofs ∧
      ∀ proof ∈ signedProofs, H.isHTLCSpendAuthorised proof = some true := by
  unfold redeemHtlcTokenStart at h
  split at h
  next => cases h
  next => cases h
  split at h
  next => cases h
  next signed hsigned =>
    split at h
    next => cases h
    next => cases h
    next hverified =>
      cases h
      exact ⟨rfl, rfl, hsigned, verifyHtlcSpendAuth_none.mp hverified⟩

/-- The log entry about unspent inputs is written for every failure that is not uncertain. -/
theorem redeemHtlcTokenEnd_unspent
    (h : (redeemHtlcTokenEnd H libraryError mintUrl result).log = some inputsUnspentLog) :
    ∃ reason retrySafe uncertain, result = some (.failed reason retrySafe uncertain) ∧
      reason ≠ .feeExceedsAmount ∧ (reason = .inputsUnspent ∨ uncertain = false) := by
  cases result with
  | none => cases h
  | some result =>
    cases result with
    | ok proofs amountSats recovered => cases h
    | failed reason retrySafe uncertain =>
      refine ⟨reason, retrySafe, uncertain, rfl, ?_⟩
      rw [redeemHtlcTokenEnd] at h
      split at h
      next hfee =>
        have hne : "Fee exceeds total amount" ≠ inputsUnspentLog := by decide
        exact absurd (Option.some.inj h) hne
      next hfee =>
        split at h
        next => cases h
        next hcertain =>
          refine ⟨hfee, ?_⟩
          by_cases hreason : reason = .inputsUnspent
          · exact .inl hreason
          · refine .inr (Bool.eq_false_iff.mpr fun huncertain => hcertain ⟨hreason, huncertain⟩)

theorem mapRedeemFailure_safeRetry {fee totalAmount : JsNumber} {reason : RedeemSwapFailureReason}
    (h : mapRedeemFailure H fee totalAmount reason = .cashuMintError safeRetryMessage) :
    reason = .inputsUnspent := by
  cases reason with
  | feeExceedsAmount =>
    have htext := congrArg (fun s : String => s.toList.take 18)
      (ClientError.cashuMintError.inj h)
    simp only [String.append_assoc, String.toList_append] at htext
    rw [List.take_append_of_le_length (by decide)] at htext
    exact absurd htext (by decide)
  | mintError =>
    have hne : "redeemHtlc: mint swap failed" ≠ safeRetryMessage := by decide
    exact absurd (ClientError.cashuMintError.inj h) hne
  | inputsUnspent => rfl
  | _ => cases h

theorem redeemHtlcEnd_safeRetry {wallet : CashuRedeemWallet}
    (h : redeemHtlcEnd H wallet libraryError signedProofs result =
      .error (.cashuMintError safeRetryMessage)) :
    ∃ retrySafe uncertain, result = some (.failed .inputsUnspent retrySafe uncertain) := by
  cases result with
  | none => cases h
  | some result =>
    cases result with
    | ok proofs amountSats recovered => cases h
    | failed reason retrySafe uncertain =>
      obtain rfl := mapRedeemFailure_safeRetry (Except.error.inj h)
      exact ⟨retrySafe, uncertain, rfl⟩

/-- The preimage opens the hashlock that the client reads in the proof's secret. -/
def OpensHashlock (H : HtlcTools) (preimageHex : String) (proof : SpendableProof) : Prop :=
  ∃ secret expectedHash, Json.parse H.text proof.secret = some secret ∧
    htlcData secret = some (some (.str expectedHash)) ∧
    H.verifyHTLCHash preimageHex expectedHash = some true

theorem checkHashlock_ok {i : Nat} {proof : SpendableProof} :
    checkHashlock H libraryError preimageHex i proof = .ok () ↔
      OpensHashlock H preimageHex proof := by
  constructor
  · intro h
    unfold checkHashlock at h
    split at h
    next => cases h
    next secret hsecret =>
      split at h
      next => cases h
      next expectedHash hdata =>
        split at h
        next => cases h
        next hverified => exact ⟨secret, expectedHash, hsecret, hdata, hverified⟩
        next => cases h
      next => cases h
  · rintro ⟨secret, expectedHash, hsecret, hdata, hverified⟩
    unfold checkHashlock
    rw [hsecret]
    simp only [hdata, hverified]

theorem checkHashlocks_ok {proofs : List SpendableProof} :
    ∀ {i : Nat}, checkHashlocks H libraryError preimageHex i proofs = .ok () ↔
      ∀ proof ∈ proofs, OpensHashlock H preimageHex proof := by
  induction proofs with
  | nil => simp [checkHashlocks]
  | cons proof rest ih =>
    intro i
    rw [checkHashlocks, List.forall_mem_cons, ← checkHashlock_ok, ← ih]
    cases checkHashlock H libraryError preimageHex i proof with
    | error e => exact ⟨nofun, fun h => nomatch h.1⟩
    | ok _ => exact ⟨fun h => ⟨rfl, h⟩, fun h => h.2⟩

/-- The client checks the hashlocks, and nothing after the proofs are signed. -/
theorem redeemHtlcStart_ok {p : RedeemHtlcParams} :
    redeemHtlcStart H libraryError p = .ok (signedProofs, key) ↔
      ∃ proofs, H.getDecodedProofs p.token = some proofs ∧ proofs ≠ [] ∧
        (∀ proof ∈ proofs, OpensHashlock H p.preimageHex proof) ∧
        key = bytesToHex p.providerSecretKey ∧
        prepareHtlcRedemption H proofs p.preimageHex key = some signedProofs := by
  constructor
  · intro h
    unfold redeemHtlcStart at h
    split at h
    next => cases h
    next proofs hproofs =>
      split at h
      next => cases h
      next hne =>
        cases hchecked : checkHashlocks H libraryError p.preimageHex 0 proofs with
        | error e =>
          rw [hchecked] at h
          cases h
        | ok _ =>
          rw [hchecked] at h
          simp only [bind, Except.bind] at h
          split at h
          next => cases h
          next signed hsigned =>
            cases h
            refine ⟨proofs, hproofs, ?_, checkHashlocks_ok.mp hchecked, rfl, hsigned⟩
            rintro rfl
            exact hne rfl
  · rintro ⟨proofs, hproofs, hne, hopens, rfl, hsigned⟩
    have hchecked : checkHashlocks H libraryError p.preimageHex 0 proofs = .ok () :=
      checkHashlocks_ok.mpr hopens
    have hnonempty : proofs.isEmpty = false := by simpa using hne
    unfold redeemHtlcStart
    rw [hproofs]
    simp only [hnonempty, hchecked, bind, Except.bind, hsigned]
    rfl

end Anchr.Payments
