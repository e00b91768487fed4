import Anchr.Payments.HtlcRedeem

/-!
# How a failed redemption is reported

The report of a failed redemption is compared with every state the inputs may be in at the mint,
given what the wallet has answered.
-/

namespace Anchr.Payments

open Infra Frost

/-! ## What the mint may know -/

/-- The states of the inputs agree with the answer of the mint, as far as there is one. -/
def Agrees (wallet : CashuRedeemWallet) (inputs : List SpendableProof)
    (actual : List CheckState) : Prop :=
  actual.length = inputs.length ∧
    ∀ checkProofsStates states, wallet.checkProofsStates = some checkProofsStates →
      checkProofsStates inputs = some states →
      ∀ (i : Nat) state, i < inputs.length → states[i]? = some state → actual[i]? = some state

/-- The input can have been spent by the attempt: a pending one is being spent. -/
def MayBeSpent (wallet : CashuRedeemWallet) (inputs : List SpendableProof) (i : Nat) : Prop :=
  ∃ actual, Agrees wallet inputs actual ∧
    (actual[i]? = some .spent ∨ actual[i]? = some .pending)

def ReportedUnspent (wallet : CashuRedeemWallet) (inputs : List SpendableProof) : Prop :=
  ∃ checkProofsStates states, wallet.checkProofsStates = some checkProofsStates ∧
    checkProofsStates inputs = some states ∧
    ∀ i < inputs.length, states[i]? = some CheckState.unspent

/-- The swap was attempted, and has failed. -/
def AttemptFails (wallet : CashuRedeemWallet) (signedProofs : List SpendableProof)
    (key : Option String) : Prop :=
  (swapAmount wallet signedProofs).le (.ofInt 0) = false ∧
    ∃ keyset outputData, prepareSwap wallet signedProofs = some (keyset, outputData) ∧
      wallet.run (swapAmount wallet signedProofs) signedProofs key outputData = none

/-- State checks are offered and, if they are answered, the answer has a spent input or says of every
input that it is unspent. -/
def Accounts (wallet : CashuRedeemWallet) (inputs : List SpendableProof) : Prop :=
  ∀ i < inputs.length, ∃ checkProofsStates, wallet.checkProofsStates = some checkProofsStates ∧
    ∀ states, checkProofsStates inputs = some states →
      .spent ∈ states ∨ states[i]? = some CheckState.unspent

/-- What an answer leaves open is filled with spent inputs. -/
def worstStates (states : List CheckState) (n : Nat) : List CheckState :=
  (List.range n).map fun i => (states[i]?).getD .spent

variable {i : Nat} {states : List CheckState} {key : Option String}
  {reason : RedeemSwapFailureReason} {retrySafe uncertain : Bool}

theorem getElem?_worstStates (states : List CheckState) {n : Nat} (hi : i < n) :
    (worstStates states n)[i]? = some ((states[i]?).getD .spent) := by
  simp [worstStates, List.getElem?_map, List.getElem?_range hi]

theorem agrees_worstStates {wallet : CashuRedeemWallet} {inputs : List SpendableProof}
    (h : ∀ checkProofsStates answer, wallet.checkProofsStates = some checkProofsStates →
      checkProofsStates inputs = some answer → answer = states) :
    Agrees wallet inputs (worstStates states inputs.length) := by
  refine ⟨by simp [worstStates], ?_⟩
  intro checkProofsStates answer hcheck hanswer i state hi hstate
  rw [h checkProofsStates answer hcheck hanswer] at hstate
  rw [getElem?_worstStates states hi, hstate]
  rfl

variable {wallet : CashuRedeemWallet} {inputs signedProofs : List SpendableProof}

theorem mayBeSpent_of_silent (hnone : wallet.checkProofsStates = none) (hi : i < inputs.length) :
    MayBeSpent wallet inputs i := by
  refine ⟨worstStates [] inputs.length, agrees_worstStates ?_, .inl ?_⟩
  · intro checkProofsStates answer hcheck
    rw [hnone] at hcheck
    cases hcheck
  · rw [getElem?_worstStates [] hi]
    rfl

theorem not_mayBeSpent_of_reportedUnspent (h : ReportedUnspent wallet inputs) (i : Nat) :
    ¬MayBeSpent wallet inputs i := by
  obtain ⟨checkProofsStates, states, hcheck, hstates, hunspent⟩ := h
  rintro ⟨actual, ⟨hlength, hagrees⟩, hspent⟩
  have hi : i < inputs.length := by
    rw [← hlength]
    rcases hspent with h | h
    · exact (List.getElem?_eq_some_iff.mp h).1
    · exact (List.getElem?_eq_some_iff.mp h).1
  have hactual := hagrees checkProofsStates states hcheck hstates i .unspent hi (hunspent i hi)
  rw [hactual] at hspent
  rcases hspent with h | h <;> cases h

theorem reportedUnspent_of_accounts
    {checkProofsStates : List SpendableProof →
      Option (List CheckState)} (haccounts : Accounts wallet inputs)
    (hcheck : wallet.checkProofsStates = some checkProofsStates)
    (hstates : checkProofsStates inputs = some states) (hspent : .spent ∉ states) :
    ReportedUnspent wallet inputs := by
  refine ⟨checkProofsStates, states, hcheck, hstates, ?_⟩
  intro i hi
  obtain ⟨check', hcheck', hall⟩ := haccounts i hi
  rw [hcheck] at hcheck'
  obtain rfl := Option.some.inj hcheck'
  rcases hall states hstates with h | h
  · exact absurd h hspent
  · exact h

/-! ## The reports -/

/-- What the caller is told holds in every state of the mint that agrees with its answer. -/
structure Truthful (wallet : CashuRedeemWallet) (signedProofs : List SpendableProof)
    (key : Option String) : Prop where
  retrySafe : ∀ reason uncertain,
    redeemSignedProofs wallet signedProofs key = some (.failed reason true uncertain) →
    ReportedUnspent wallet signedProofs
  certain : ∀ reason retrySafe, AttemptFails wallet signedProofs key →
    redeemSignedProofs wallet signedProofs key = some (.failed reason retrySafe false) →
    ∀ i, ¬MayBeSpent wallet signedProofs i
  token : ∀ H libraryError walletAndConfig htlcProofs preimage mintUrl providerKey,
    key = some providerKey →
    redeemHtlcTokenStart H libraryError walletAndConfig htlcProofs preimage providerKey =
      .swap mintUrl signedProofs providerKey →
    (redeemHtlcToken H wallet libraryError walletAndConfig htlcProofs preimage providerKey).log =
      some inputsUnspentLog →
    ∀ i, ¬MayBeSpent wallet signedProofs i
  client : ∀ H libraryError p providerKey, key = some providerKey →
    redeemHtlcStart H libraryError p = .ok (signedProofs, providerKey) →
    redeemHtlc H wallet libraryError p = .error (.cashuMintError safeRetryMessage) →
    ∀ i, ¬MayBeSpent wallet signedProofs i

theorem redeemSignedProofs_of_attemptFails (h : AttemptFails wallet signedProofs key) :
    ∃ keyset outputData, redeemSignedProofs wallet signedProofs key =
      recoverInterruptedRedeem wallet signedProofs outputData keyset := by
  obtain ⟨hfee, keyset, outputData, hprepared, hrun⟩ := h
  refine ⟨keyset, outputData, ?_⟩
  unfold redeemSignedProofs
  simp [hfee, hprepared, hrun]

theorem attemptFails_of_failed
    (h : redeemSignedProofs wallet signedProofs key = some (.failed reason retrySafe uncertain))
    (hfee : reason ≠ .feeExceedsAmount) : AttemptFails wallet signedProofs key := by
  rcases redeemSignedProofs_some h with ⟨-, hfailed⟩ | ⟨keyset, outputData, hprepared, hle, hswap⟩
  · cases hfailed
    exact absurd rfl hfee
  · rcases hswap with ⟨send, -, hresult⟩ | ⟨hrun, -⟩
    · cases hresult
    · exact ⟨hle, keyset, outputData, hprepared, hrun⟩

theorem not_mayBeSpent_of_failed (haccounts : Accounts wallet signedProofs)
    (hattempt : AttemptFails wallet signedProofs key)
    (h : redeemSignedProofs wallet signedProofs key = some (.failed reason retrySafe false))
    (i : Nat) : ¬MayBeSpent wallet signedProofs i := by
  obtain ⟨keyset, outputData, hrecover⟩ := redeemSignedProofs_of_attemptFails hattempt
  rw [hrecover] at h
  rcases recoverInterruptedRedeem_failed h with
    ⟨hnone, -⟩ | ⟨checkProofsStates, hcheck, ⟨states, hstates, hspent, -⟩ | ⟨-, -, huncertain, -⟩⟩
  · rintro ⟨actual, ⟨hlength, -⟩, hspent⟩
    have hi : i < signedProofs.length := by
      rw [← hlength]
      rcases hspent with h | h <;> exact (List.getElem?_eq_some_iff.mp h).1
    obtain ⟨check, hcheck, -⟩ := haccounts i hi
    rw [hnone] at hcheck
    cases hcheck
  · exact not_mayBeSpent_of_reportedUnspent
      (reportedUnspent_of_accounts haccounts hcheck hstates hspent) i
  · cases huncertain

theorem certain_of_inputsUnspent
    (h : redeemSignedProofs wallet signedProofs key =
      some (.failed .inputsUnspent retrySafe uncertain)) : uncertain = false := by
  obtain ⟨keyset, outputData, hrecover⟩ :=
    redeemSignedProofs_of_attemptFails (attemptFails_of_failed h nofun)
  rw [hrecover] at h
  rcases recoverInterruptedRedeem_failed h with
    ⟨-, -, -, hcertain⟩ | ⟨-, -, ⟨-, -, -, -, -, hcertain⟩ | ⟨hreason, -⟩⟩
  · exact hcertain
  · exact hcertain
  · exact absurd rfl hreason

/-- The reports are justified if and only if the mint accounts for the inputs of a failed swap. -/
theorem failure_truthful_iff (wallet : CashuRedeemWallet) (signedProofs : List SpendableProof)
    (key : Option String) :
    Truthful wallet signedProofs key ↔
      (AttemptFails wallet signedProofs key → Accounts wallet signedProofs) := by
  constructor
  · intro htruthful hattempt i hi
    obtain ⟨keyset, outputData, hrecover⟩ := redeemSignedProofs_of_attemptFails hattempt
    cases hcheck : wallet.checkProofsStates with
    | none =>
      -- no state checks: the failure is called certain, and nothing is known
      have hresult : redeemSignedProofs wallet signedProofs key =
          some (.failed .mintError false false) := by
        rw [hrecover]
        simp [recoverInterruptedRedeem, hcheck]
      exact absurd (mayBeSpent_of_silent hcheck hi)
        (htruthful.certain _ _ hattempt hresult i)
    | some checkProofsStates =>
      refine ⟨checkProofsStates, rfl, ?_⟩
      intro states hstates
      by_cases hspent : .spent ∈ states
      · exact .inl hspent
      · have hresult : redeemSignedProofs wallet signedProofs key =
            some (.failed .inputsUnspent true false) := by
          rw [hrecover]
          simp [recoverInterruptedRedeem, hcheck, hstates, hspent]
        obtain ⟨check', states', hcheck', hstates', hunspent⟩ :=
          htruthful.retrySafe _ _ hresult
        rw [hcheck] at hcheck'
        obtain rfl := Option.some.inj hcheck'
        rw [hstates] at hstates'
        obtain rfl := Option.some.inj hstates'
        exact .inr (hunspent i hi)
  · intro hcondition
    refine ⟨?_, ?_, ?_, ?_⟩
    · intro reason uncertain h
      rcases redeemSignedProofs_some h with
        ⟨-, hfailed⟩ | ⟨keyset, outputData, hprepared, hle, ⟨_, -, hresult⟩ | ⟨hrun, hrecover⟩⟩
      · cases hfailed
      · cases hresult
      · have haccounts := hcondition ⟨hle, keyset, outputData, hprepared, hrun⟩
        rcases recoverInterruptedRedeem_failed hrecover with
          ⟨-, -, hretry, -⟩ | ⟨_, hcheck, ⟨_, hstates, hspent, -⟩ | ⟨-, hretry, -⟩⟩
        · cases hretry
        · exact reportedUnspent_of_accounts haccounts hcheck hstates hspent
        · cases hretry
    · intro reason retrySafe hattempt h
      exact not_mayBeSpent_of_failed (hcondition hattempt) hattempt h
    · rintro H libraryError walletAndConfig htlcProofs preimage mintUrl providerKey rfl hstart hlog
      rw [redeemHtlcToken, hstart] at hlog
      obtain ⟨reason, retrySafe, uncertain, hresult, hfee, hkind⟩ :=
        redeemHtlcTokenEnd_unspent hlog
      obtain rfl : uncertain = false := by
        rcases hkind with rfl | hcertain
        · exact certain_of_inputsUnspent hresult
        · exact hcertain
      have hattempt := attemptFails_of_failed hresult hfee
      exact not_mayBeSpent_of_failed (hcondition hattempt) hattempt hresult
    · rintro H libraryError p providerKey rfl hstart herror
      have hend : redeemHtlcEnd H wallet libraryError signedProofs
          (redeemSignedProofs wallet signedProofs (some providerKey)) =
            .error (.cashuMintError safeRetryMessage) := by
        rw [redeemHtlc, hstart] at herror
        exact herror
      obtain ⟨retrySafe, uncertain, hresult⟩ := redeemHtlcEnd_safeRetry hend
      obtain rfl := certain_of_inputsUnspent hresult
      have hattempt := attemptFails_of_failed hresult nofun
      exact not_mayBeSpent_of_failed (hcondition hattempt) hattempt hresult

/-! ## A failed swap -/

/-- A proof of three sats. -/
def coin : SpendableProof := { amount := .ofInt 3, secret := "coin", witness := none, others := [] }

/-- A wallet whose swap fails. -/
def failedSwap (checkProofsStates : Option (List SpendableProof → Option (List CheckState))) :
    CashuRedeemWallet where
  getFeesForProofs _ := .ofInt 0
  getKeyset := none
  asCustom := false
  createRandomData _ _ := none
  run _ _ _ _ := none
  checkProofsStates := checkProofsStates
  restore := none
  toProof _ _ _ := none

theorem redeem_failedSwap
    (checkProofsStates : Option (List SpendableProof → Option (List CheckState))) :
    redeemSignedProofs (failedSwap checkProofsStates) [coin] none =
      recoverInterruptedRedeem (failedSwap checkProofsStates) [coin] none none := by
  have hamount : swapAmount (failedSwap checkProofsStates) [coin] = .ofInt 3 := by
    show (sumAmounts [⟨.ofInt 3, "coin"⟩]).sub (.ofInt 0) = _
    decide +kernel
  unfold redeemSignedProofs prepareSwap
  rw [hamount]
  rfl

theorem mayBeSpent_failedSwap
    (hstate : (states[0]?).getD .spent = .spent ∨ (states[0]?).getD .spent = .pending) :
    MayBeSpent (failedSwap (some fun _ => some states)) [coin] 0 := by
  refine ⟨worstStates states 1, agrees_worstStates ?_, ?_⟩
  · intro checkProofsStates answer hcheck hanswer
    cases hcheck
    exact (Option.some.inj hanswer).symm
  · rw [getElem?_worstStates states Nat.zero_lt_one]
    exact hstate.imp (congrArg some) (congrArg some)

/-- A pending coin, or one the mint says nothing about, is called safe to retry; and a wallet that
offers no state checks is logged as if its coin was unspent. -/
theorem retry_called_safe :
    (redeemSignedProofs (failedSwap (some fun _ => some [.pending])) [coin] none =
        some (.failed .inputsUnspent true false) ∧
      MayBeSpent (failedSwap (some fun _ => some [.pending])) [coin] 0) ∧
    (redeemSignedProofs (failedSwap (some fun _ => some [])) [coin] none =
        some (.failed .inputsUnspent true false) ∧
      MayBeSpent (failedSwap (some fun _ => some [])) [coin] 0) ∧
    (∀ H libraryError mintUrl, (redeemHtlcTokenEnd H libraryError mintUrl
        (redeemSignedProofs (failedSwap none) [coin] none)).log = some inputsUnspentLog) ∧
      MayBeSpent (failedSwap none) [coin] 0 := by
  refine ⟨⟨?_, mayBeSpent_failedSwap (.inr rfl)⟩, ⟨?_, mayBeSpent_failedSwap (.inl rfl)⟩, ?_, ?_⟩
  · rw [redeem_failedSwap]
    rfl
  · rw [redeem_failedSwap]
    rfl
  · intro H libraryError mintUrl
    rw [redeem_failedSwap]
    rfl
  · exact mayBeSpent_of_silent rfl (by decide)

end Anchr.Payments
