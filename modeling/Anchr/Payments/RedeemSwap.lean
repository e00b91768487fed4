import Anchr.Payments.FrostRedeem

/-!
# The redeem swap

`redeemSignedProofs` and `recoverInterruptedRedeem` of `payments/cashu/redeem-swap.ts`: signed
proofs are swapped at the mint, and where the answer to the swap is lost the outputs are asked back
with NUT-09.
-/

namespace Anchr.Payments

open Infra

/-! ## The wallet -/

/-- `CheckStateEnum`, and what else a mint may write there. -/
inductive CheckState where
  | unspent
  | pending
  | spent
  | other (state : String)
  deriving DecidableEq

structure Keyset where
  id : String
  keys : List (String × String)

/-- `OutputData` of the Cashu library. -/
structure OutputData where
  /-- `blindedMessage.B_`. -/
  blindedMessage : String
  amount : JsNumber
  secret : String
  deriving DecidableEq

/-- `SerializedBlindedSignature`. -/
structure BlindSignature where
  amount : JsNumber
  /-- `id`, `C_`, `dleq`. -/
  others : List (String × Json)

structure RestoreAnswer where
  outputs : List String
  signatures : List BlindSignature

/-- `CashuRedeemWallet`, with the two functions of `OutputData`. -/
structure CashuRedeemWallet where
  getFeesForProofs : List SpendableProof → JsNumber
  getKeyset : Option (Option Keyset)
  /-- Whether the chain that `ops.send` gives has `asCustom`. -/
  asCustom : Bool
  createRandomData : JsNumber → Keyset → Option (List OutputData)
  /-- `run` of the chain for an amount, the inputs, a private key and registered outputs. -/
  run : JsNumber → List SpendableProof → Option String → Option (List OutputData) →
    Option (List SpendableProof)
  checkProofsStates : Option (List SpendableProof → Option (List CheckState))
  restore : Option (List OutputData → Option RestoreAnswer)
  toProof : OutputData → BlindSignature → Keyset → Option SpendableProof

def sumProofAmounts (proofs : List SpendableProof) : JsNumber :=
  sumAmounts (proofs.map SpendableProof.toProof)

variable (wallet : CashuRedeemWallet)

/-! ## Recovery -/

/-- `new Map(outputData.map((o) => [o.blindedMessage.B_, o]))`. -/
def byBlindedMessage (outputData : List OutputData) : JsMap String OutputData :=
  outputData.foldl (fun m o => m.set o.blindedMessage o) .empty

/-- The loop over the restore answer. A position with no output or no signature is passed over. -/
def recoverProofs (keyset : Keyset) (registered : JsMap String OutputData) :
    List (String × BlindSignature) → Option (List SpendableProof)
  | [] => some []
  | (restoredOutput, signature) :: rest =>
    match registered.get? restoredOutput with
    | none => recoverProofs keyset registered rest
    | some data =>
      match wallet.toProof data signature keyset with
      | none => none
      | some proof => (recoverProofs keyset registered rest).map (proof :: ·)

def recoverInterruptedRedeem (inputs : List SpendableProof)
    (outputData : Option (List OutputData)) (keyset : Option Keyset) : Option RedeemSwapResult :=
  match wallet.checkProofsStates with
  | none => some (.failed .mintError false false)
  | some checkProofsStates =>
    match checkProofsStates inputs with
    | none => some (.failed .stateUnknown false true)
    | some states =>
      if !states.any (· = .spent) then some (.failed .inputsUnspent true false)
      else
        match outputData, keyset, wallet.restore with
        | some outputs, some keyset, some restore =>
          match restore outputs with
          | none => some (.failed .restoreFailed false true)
          | some restored =>
            match recoverProofs wallet keyset (byBlindedMessage outputs)
                (restored.outputs.zip restored.signatures) with
            | none => none
            | some recovered =>
              if recovered.isEmpty then some (.failed .restoreEmpty false true)
              else some (.ok recovered (sumProofAmounts recovered) true)
        | _, _, _ => some (.failed .outputsNotRegistered false true)

/-! ## The swap -/

def registerOutputs (swapAmount : JsNumber) (keyset : Option Keyset) :
    Option (Option (List OutputData)) :=
  match keyset with
  | some keyset =>
    if wallet.asCustom then (wallet.createRandomData swapAmount keyset).map some else some none
  | none => some none

/-- `totalAmount - fee`. -/
def swapAmount (signedProofs : List SpendableProof) : JsNumber :=
  (sumProofAmounts signedProofs).sub (wallet.getFeesForProofs signedProofs)

/-- `wallet.getKeyset?.()`. -/
def keysetOf : Option (Option Keyset) :=
  match wallet.getKeyset with
  | none => some none
  | some none => none
  | some (some keyset) => some (some keyset)

/-- What the swap is attempted with: the keyset and the registered outputs. -/
def prepareSwap (signedProofs : List SpendableProof) :
    Option (Option Keyset × Option (List OutputData)) :=
  match keysetOf wallet with
  | none => none
  | some keyset =>
    (registerOutputs wallet (swapAmount wallet signedProofs) keyset).map (keyset, ·)

/-- What is left after the fee is swapped. -/
def redeemSignedProofs (signedProofs : List SpendableProof) (signingPrivateKey : Option String) :
    Option RedeemSwapResult :=
  if (swapAmount wallet signedProofs).le (.ofInt 0) then
    some (.failed .feeExceedsAmount false false)
  else
    match prepareSwap wallet signedProofs with
    | none => none
    | some (keyset, outputData) =>
      match wallet.run (swapAmount wallet signedProofs) signedProofs signingPrivateKey
          outputData with
      | some send => some (.ok send (sumProofAmounts send) false)
      | none => recoverInterruptedRedeem wallet signedProofs outputData keyset

/-- The mint is asked to swap. -/
def startsSwap (signedProofs : List SpendableProof) : Bool :=
  !(swapAmount wallet signedProofs).le (.ofInt 0) && (prepareSwap wallet signedProofs).isSome

/-! ## What comes of a restore answer -/

theorem get?_register : ∀ (outputData : List OutputData) (m : JsMap String OutputData),
    (outputData.map OutputData.blindedMessage).Nodup → ∀ b o,
    ((outputData.foldl (fun m o => m.set o.blindedMessage o) m).get? b = some o ↔
      (o ∈ outputData ∧ o.blindedMessage = b) ∨
        (b ∉ outputData.map OutputData.blindedMessage ∧ m.get? b = some o))
  | [], _, _, _, _ => by simp
  | data :: rest, m, hnodup, b, o => by
    rw [List.map_cons, List.nodup_cons] at hnodup
    rw [List.foldl_cons, get?_register rest _ hnodup.2, JsMap.get?_set]
    by_cases hb : b = data.blindedMessage
    · subst hb
      have habsent : ∀ o ∈ rest, o.blindedMessage ≠ data.blindedMessage := by
        intro o ho heq
        exact hnodup.1 (heq ▸ List.mem_map_of_mem ho)
      constructor
      · rintro (⟨ho, heq⟩ | ⟨-, heq⟩)
        · exact absurd heq (habsent o ho)
        · rw [if_pos rfl] at heq
          cases heq
          exact .inl ⟨List.mem_cons_self, rfl⟩
      · rintro (⟨ho, heq⟩ | ⟨hnot, -⟩)
        · rcases List.mem_cons.mp ho with rfl | ho
          · exact .inr ⟨hnodup.1, if_pos rfl⟩
          · exact absurd heq (habsent o ho)
        · exact absurd List.mem_cons_self hnot
    · rw [if_neg hb]
      constructor
      · rintro (⟨ho, heq⟩ | ⟨hnot, heq⟩)
        · exact .inl ⟨List.mem_cons_of_mem _ ho, heq⟩
        · refine .inr ⟨?_, heq⟩
          rw [List.map_cons, List.mem_cons]
          exact not_or.mpr ⟨hb, hnot⟩
      · rintro (⟨ho, heq⟩ | ⟨hnot, heq⟩)
        · rcases List.mem_cons.mp ho with rfl | ho
          · exact absurd heq.symm hb
          · exact .inl ⟨ho, heq⟩
        · rw [List.map_cons, List.mem_cons, not_or] at hnot
          exact .inr ⟨hnot.2, heq⟩

theorem get?_byBlindedMessage {outputData : List OutputData}
    (hnodup : (outputData.map OutputData.blindedMessage).Nodup) {b : String} {o : OutputData} :
    (byBlindedMessage outputData).get? b = some o ↔ o ∈ outputData ∧ o.blindedMessage = b := by
  unfold byBlindedMessage
  rw [get?_register outputData _ hnodup]
  simp

/-- The registered outputs of an answer, each with its signature, in the order of the answer. -/
def matchedOutputs (registered : JsMap String OutputData)
    (pairs : List (String × BlindSignature)) : List (OutputData × BlindSignature) :=
  pairs.filterMap fun e => (registered.get? e.1).map (·, e.2)

/-- The proofs that come of a restore answer. -/
theorem recoverProofs_some {keyset : Keyset} {registered : JsMap String OutputData} :
    ∀ {pairs : List (String × BlindSignature)} {recovered : List SpendableProof},
    recoverProofs wallet keyset registered pairs = some recovered →
      List.Forall₂ (fun e proof => wallet.toProof e.1 e.2 keyset = some proof)
        (matchedOutputs registered pairs) recovered
  | [], recovered, h => by
    cases h
    exact .nil
  | (restoredOutput, signature) :: rest, recovered, h => by
    rw [recoverProofs] at h
    cases hget : registered.get? restoredOutput with
    | none =>
      have hskip : matchedOutputs registered ((restoredOutput, signature) :: rest) =
          matchedOutputs registered rest := by simp [matchedOutputs, hget]
      rw [hget] at h
      rw [hskip]
      exact recoverProofs_some h
    | some data =>
      have htake : matchedOutputs registered ((restoredOutput, signature) :: rest) =
          (data, signature) :: matchedOutputs registered rest := by simp [matchedOutputs, hget]
      rw [htake]
      simp only [hget] at h
      cases hproof : wallet.toProof data signature keyset with
      | none => simp [hproof] at h
      | some proof =>
        simp only [hproof, Option.map_eq_some_iff] at h
        obtain ⟨later, hlater, rfl⟩ := h
        exact .cons hproof (recoverProofs_some hlater)

variable {wallet}

variable {outputData : Option (List OutputData)} {keyset : Option Keyset}
  {inputs signedProofs : List SpendableProof}

/-- Where the swap fails, the inputs are spent and the answer to the restore request is read. -/
theorem recoverInterruptedRedeem_ok {out : List SpendableProof} {amountSats : JsNumber}
    {recovered : Bool}
    (h : recoverInterruptedRedeem wallet inputs outputData keyset =
      some (.ok out amountSats recovered)) :
    ∃ outputs ks restore restored, outputData = some outputs ∧ keyset = some ks ∧
      wallet.restore = some restore ∧ restore outputs = some restored ∧
      recoverProofs wallet ks (byBlindedMessage outputs)
        (restored.outputs.zip restored.signatures) = some out ∧
      amountSats = sumProofAmounts out ∧ recovered = true := by
  unfold recoverInterruptedRedeem at h
  split at h
  next => simp at h
  split at h
  next => simp at h
  split at h
  next => simp at h
  split at h
  next outputs ks restore hrestore =>
    split at h
    next => simp at h
    next restored hrestored =>
      split at h
      next => cases h
      next proofs hproofs =>
        split at h
        next => simp at h
        simp only [Option.some.injEq, RedeemSwapResult.ok.injEq] at h
        obtain ⟨rfl, rfl, rfl⟩ := h
        exact ⟨outputs, ks, restore, restored, rfl, rfl, hrestore, hrestored, hproofs,
          rfl, rfl⟩
  next => simp at h

/-- How a failed swap is classified, by what the wallet says about the inputs. -/
theorem recoverInterruptedRedeem_failed {reason : RedeemSwapFailureReason}
    {retrySafe uncertain : Bool}
    (h : recoverInterruptedRedeem wallet inputs outputData keyset =
      some (.failed reason retrySafe uncertain)) :
    (wallet.checkProofsStates = none ∧ reason = .mintError ∧ retrySafe = false ∧
      uncertain = false) ∨
    ∃ checkProofsStates, wallet.checkProofsStates = some checkProofsStates ∧
      ((∃ states, checkProofsStates inputs = some states ∧ .spent ∉ states ∧
          reason = .inputsUnspent ∧ retrySafe = true ∧ uncertain = false) ∨
        (reason ≠ .inputsUnspent ∧ retrySafe = false ∧ uncertain = true ∧
          ∀ states, checkProofsStates inputs = some states → .spent ∈ states)) := by
  unfold recoverInterruptedRedeem at h
  split at h
  next hcheck =>
    cases h
    exact .inl ⟨hcheck, rfl, rfl, rfl⟩
  next checkProofsStates hcheck =>
    refine .inr ⟨checkProofsStates, hcheck, ?_⟩
    split at h
    next hnone =>
      cases h
      exact .inr ⟨nofun, rfl, rfl, fun states hstates => by simp [hnone] at hstates⟩
    next states hstates =>
      split at h
      next hspent =>
        cases h
        have hnone : ∀ state ∈ states, ¬state = .spent := by simpa using hspent
        exact .inl ⟨states, hstates, fun hmem => hnone _ hmem rfl, rfl, rfl, rfl⟩
      next hspent =>
        have hmem : ∀ states', checkProofsStates inputs = some states' → .spent ∈ states' := by
          intro states' hstates'
          rw [hstates] at hstates'
          obtain rfl := Option.some.inj hstates'
          simpa using hspent
        refine .inr ?_
        split at h
        next =>
          split at h
          next =>
            cases h
            exact ⟨nofun, rfl, rfl, hmem⟩
          split at h
          next => cases h
          split at h
          next =>
            cases h
            exact ⟨nofun, rfl, rfl, hmem⟩
          next => cases h
        cases h
        exact ⟨nofun, rfl, rfl, hmem⟩

theorem prepareSwap_outputs {outputs : List OutputData}
    (h : prepareSwap wallet signedProofs = some (keyset, some outputs)) :
    ∃ ks, keyset = some ks ∧
      wallet.createRandomData (swapAmount wallet signedProofs) ks = some outputs := by
  unfold prepareSwap at h
  split at h
  next => cases h
  next found _ =>
    obtain ⟨registered, hregistered, hpair⟩ := Option.map_eq_some_iff.mp h
    cases hpair
    unfold registerOutputs at hregistered
    split at hregistered
    next ks _ =>
      split at hregistered
      next =>
        obtain ⟨_, hcreated, hsame⟩ := Option.map_eq_some_iff.mp hregistered
        cases hsame
        exact ⟨ks, rfl, hcreated⟩
      next => cases hregistered
    next => cases hregistered

/-- What the result comes from. -/
theorem redeemSignedProofs_some {key : Option String} {result : RedeemSwapResult}
    (h : redeemSignedProofs wallet signedProofs key = some result) :
    ((swapAmount wallet signedProofs).le (.ofInt 0) = true ∧
      result = .failed .feeExceedsAmount false false) ∨
    ∃ keyset outputData, prepareSwap wallet signedProofs = some (keyset, outputData) ∧
      (swapAmount wallet signedProofs).le (.ofInt 0) = false ∧
      ((∃ send, wallet.run (swapAmount wallet signedProofs) signedProofs key outputData =
          some send ∧ result = .ok send (sumProofAmounts send) false) ∨
        (wallet.run (swapAmount wallet signedProofs) signedProofs key outputData = none ∧
          recoverInterruptedRedeem wallet signedProofs outputData keyset = some result)) := by
  unfold redeemSignedProofs at h
  split at h
  next hfee => exact .inl ⟨hfee, (Option.some.inj h).symm⟩
  next hfee =>
    refine .inr ?_
    split at h
    next => cases h
    next keyset outputData hprepared =>
      refine ⟨keyset, outputData, hprepared, by simpa using hfee, ?_⟩
      split at h
      next send hrun => exact .inl ⟨send, hrun, (Option.some.inj h).symm⟩
      next hrun => exact .inr ⟨hrun, h⟩

end Anchr.Payments
