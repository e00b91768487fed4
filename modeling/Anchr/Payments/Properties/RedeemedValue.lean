import Anchr.Infra.Amounts
import Anchr.Payments.RedeemSwap

/-!
# What a redemption is worth

With a fair mint, `redeemSignedProofs` hands out the whole of what the inputs are worth after the
fee, unless the swap has to be recovered.
-/

namespace Anchr.Payments

open Infra

/-! ## A fair mint -/

/-- The library and the mint keep to what they are for, whatever is lost on the way. -/
structure CashuRedeemWallet.Fair (wallet : CashuRedeemWallet) : Prop where
  /-- A swap that succeeds gives different proofs for the requested amount. -/
  swaps : ∀ amount inputs key outputs send, wallet.run amount inputs key outputs = some send →
    (send.map fun p => p.secret).Nodup ∧ sumProofAmounts send = amount
  /-- `createRandomData` splits the amount into outputs with random secrets and blinding factors. -/
  splits : ∀ amount keyset outputs, wallet.createRandomData amount keyset = some outputs →
    (outputs.map OutputData.secret).Nodup ∧ (outputs.map OutputData.blindedMessage).Nodup ∧
      (∀ o ∈ outputs, ∃ q, 0 < q ∧ o.amount = .fin q) ∧
      JsNumber.total (outputs.map OutputData.amount) = amount
  /-- A proof has the secret of its output and the amount that was signed. -/
  unblinds : ∀ data signature keyset proof, wallet.toProof data signature keyset = some proof →
    proof.secret = data.secret ∧ proof.amount = signature.amount

/-- The signature at each position of a restore answer is for the amount of the output there. -/
def CashuRedeemWallet.Paired (wallet : CashuRedeemWallet) : Prop :=
  ∀ restore outputs restored, wallet.restore = some restore → restore outputs = some restored →
    ∀ e ∈ restored.outputs.zip restored.signatures, ∀ o ∈ outputs,
      o.blindedMessage = e.1 → e.2.amount = o.amount

/-- The proofs are different and worth the inputs without the fee. -/
def Conserves (wallet : CashuRedeemWallet) (signedProofs out : List SpendableProof)
    (amountSats : JsNumber) : Prop :=
  (out.map fun p => p.secret).Nodup ∧ sumProofAmounts out = swapAmount wallet signedProofs ∧
    amountSats = swapAmount wallet signedProofs

/-- The answer has each output once. -/
def RestoresEach (outputs : List OutputData) (restored : RestoreAnswer) : Prop :=
  ∀ o ∈ outputs,
    ((restored.outputs.zip restored.signatures).map Prod.fst).count o.blindedMessage = 1

/-- No output is in the answer twice, and the signatures next to outputs are for the amount. -/
def RestoresValue (amount : JsNumber) (outputs : List OutputData) (restored : RestoreAnswer) :
    Prop :=
  (∀ o ∈ outputs,
    ((restored.outputs.zip restored.signatures).map Prod.fst).count o.blindedMessage ≤ 1) ∧
  JsNumber.total (((restored.outputs.zip restored.signatures).filter fun e =>
    e.1 ∈ outputs.map OutputData.blindedMessage).map fun e => e.2.amount) = amount

/-- If the answer to the swap is lost and the mint answers the restore request, its answer is as
`P` says. -/
def IfRestored (wallet : CashuRedeemWallet) (signedProofs : List SpendableProof)
    (key : Option String) (P : List OutputData → RestoreAnswer → Prop) : Prop :=
  ∀ keyset outputs restore restored,
    prepareSwap wallet signedProofs = some (keyset, some outputs) →
    wallet.run (swapAmount wallet signedProofs) signedProofs key (some outputs) = none →
    wallet.restore = some restore → restore outputs = some restored → P outputs restored

/-! ## The outputs of an answer -/

variable {outputs : List OutputData}

theorem count_matchedOutputs (hnodup : (outputs.map OutputData.blindedMessage).Nodup)
    {o : OutputData} (ho : o ∈ outputs) (pairs : List (String × BlindSignature)) :
    ((matchedOutputs (byBlindedMessage outputs) pairs).map Prod.fst).count o =
      (pairs.map Prod.fst).count o.blindedMessage := by
  have hown : (byBlindedMessage outputs).get? o.blindedMessage = some o :=
    (get?_byBlindedMessage hnodup).mpr ⟨ho, rfl⟩
  induction pairs with
  | nil => rfl
  | cons e rest ih =>
    unfold matchedOutputs at ih ⊢
    rw [List.map_cons, List.count_cons, ← ih]
    cases hget : (byBlindedMessage outputs).get? e.1 with
    | none =>
      have hne : e.1 ≠ o.blindedMessage := by
        intro heq
        rw [heq, hown] at hget
        cases hget
      simp [hget, hne]
    | some data =>
      obtain ⟨-, hdata⟩ := (get?_byBlindedMessage hnodup).mp hget
      -- the map finds this output under this message, and only there
      have hsame : data = o ↔ e.1 = o.blindedMessage := by
        constructor
        · rintro rfl
          exact hdata.symm
        · intro heq
          rw [heq, hown] at hget
          exact (Option.some.inj hget).symm
      simp [hget, List.count_cons, hsame]

theorem mem_matchedOutputs (hnodup : (outputs.map OutputData.blindedMessage).Nodup)
    {pairs : List (String × BlindSignature)} {x : OutputData × BlindSignature}
    (hx : x ∈ matchedOutputs (byBlindedMessage outputs) pairs) :
    x.1 ∈ outputs ∧ (x.1.blindedMessage, x.2) ∈ pairs := by
  obtain ⟨e, he, hmatch⟩ := List.mem_filterMap.mp hx
  obtain ⟨data, hdata, rfl⟩ := Option.map_eq_some_iff.mp hmatch
  obtain ⟨hmem, hmessage⟩ := (get?_byBlindedMessage hnodup).mp hdata
  refine ⟨hmem, ?_⟩
  rw [hmessage]
  exact he

theorem mem_outputs_of_matched (hnodup : (outputs.map OutputData.blindedMessage).Nodup)
    {pairs : List (String × BlindSignature)} (o : OutputData)
    (ho : o ∈ (matchedOutputs (byBlindedMessage outputs) pairs).map Prod.fst) : o ∈ outputs := by
  obtain ⟨x, hx, rfl⟩ := List.mem_map.mp ho
  exact (mem_matchedOutputs hnodup hx).1

theorem signatures_matchedOutputs (hnodup : (outputs.map OutputData.blindedMessage).Nodup)
    (pairs : List (String × BlindSignature)) :
    (matchedOutputs (byBlindedMessage outputs) pairs).map (fun e => e.2.amount) =
      (pairs.filter fun e => e.1 ∈ outputs.map OutputData.blindedMessage).map
        fun e => e.2.amount := by
  induction pairs with
  | nil => rfl
  | cons e rest ih =>
    unfold matchedOutputs at ih ⊢
    cases hget : (byBlindedMessage outputs).get? e.1 with
    | none =>
      have habsent : e.1 ∉ outputs.map OutputData.blindedMessage := by
        intro hmem
        obtain ⟨o, ho, hmessage⟩ := List.mem_map.mp hmem
        rw [(get?_byBlindedMessage hnodup).mpr ⟨ho, hmessage⟩] at hget
        cases hget
      rw [List.filter_cons_of_neg (by simpa using habsent), ← ih]
      simp [hget]
    | some data =>
      obtain ⟨ho, hmessage⟩ := (get?_byBlindedMessage hnodup).mp hget
      have hpresent : e.1 ∈ outputs.map OutputData.blindedMessage :=
        List.mem_map.mpr ⟨data, ho, hmessage⟩
      rw [List.filter_cons_of_pos (by simpa using hpresent), List.map_cons, ← ih]
      simp [hget]

/-! ## Sums -/

theorem sumProofAmounts_eq (proofs : List SpendableProof) :
    sumProofAmounts proofs = JsNumber.total (proofs.map fun p => p.amount) := by
  unfold sumProofAmounts sumAmounts JsNumber.total
  rw [List.foldl_map, List.foldl_map]

def satsOf : JsNumber → ℚ
  | .fin q => q
  | _ => 0

theorem total_amounts {l : List OutputData} (hfin : ∀ o ∈ l, ∃ q, 0 < q ∧ o.amount = .fin q) :
    JsNumber.total (l.map OutputData.amount) = .fin (l.map fun o => satsOf o.amount).sum := by
  rw [← JsNumber.total_fin, List.map_map]
  congr 1
  refine List.map_congr_left fun o ho => ?_
  obtain ⟨q, -, hq⟩ := hfin o ho
  simp [hq, satsOf]

/-! ## Recovery -/

section

variable {wallet : CashuRedeemWallet} {keyset : Keyset}
  {matched : List (OutputData × BlindSignature)} {out : List SpendableProof}

theorem secrets_of_unblinded (hfair : wallet.Fair)
    (h : List.Forall₂ (fun e proof => wallet.toProof e.1 e.2 keyset = some proof) matched out) :
    out.map (fun p => p.secret) = (matched.map Prod.fst).map OutputData.secret := by
  induction h with
  | nil => rfl
  | cons hproof _ ih =>
    simp only [List.map_cons, ih, (hfair.unblinds _ _ _ _ hproof).1]

theorem amounts_of_unblinded (hfair : wallet.Fair)
    (h : List.Forall₂ (fun e proof => wallet.toProof e.1 e.2 keyset = some proof) matched out) :
    out.map (fun p => p.amount) = matched.map fun e => e.2.amount := by
  induction h with
  | nil => rfl
  | cons hproof _ ih =>
    simp only [List.map_cons, ih, (hfair.unblinds _ _ _ _ hproof).2]

theorem nodup_secrets_iff {l : List OutputData} (hsecrets : (outputs.map OutputData.secret).Nodup)
    (hmem : ∀ o ∈ l, o ∈ outputs) : (l.map OutputData.secret).Nodup ↔ l.Nodup := by
  refine ⟨List.Nodup.of_map _, fun hnodup => hnodup.map_on ?_⟩
  intro o ho o' ho' hsame
  exact List.inj_on_of_nodup_map hsecrets (hmem o ho) (hmem o' ho') hsame

variable {restored : RestoreAnswer} {amount : JsNumber}

/-- What is recovered is worth the amount if and only if the answer is. -/
theorem recovered_value_iff (hfair : wallet.Fair)
    (hsplit : wallet.createRandomData amount keyset = some outputs)
    (hout : recoverProofs wallet keyset (byBlindedMessage outputs)
      (restored.outputs.zip restored.signatures) = some out) :
    ((out.map fun p => p.secret).Nodup ∧ sumProofAmounts out = amount) ↔
      RestoresValue amount outputs restored := by
  obtain ⟨hsecrets, hmessages, -, -⟩ := hfair.splits amount keyset outputs hsplit
  have hmatched := recoverProofs_some wallet hout
  rw [sumProofAmounts_eq, secrets_of_unblinded hfair hmatched,
    amounts_of_unblinded hfair hmatched, signatures_matchedOutputs hmessages,
    nodup_secrets_iff hsecrets (mem_outputs_of_matched hmessages), List.nodup_iff_count_le_one]
  refine and_congr_left' ?_
  constructor
  · intro hcount o ho
    rw [← count_matchedOutputs hmessages ho]
    exact hcount o
  · intro hcount o
    by_cases ho : o ∈ outputs
    · rw [count_matchedOutputs hmessages ho]
      exact hcount o ho
    · rw [List.count_eq_zero_of_not_mem fun h =>
        ho (mem_outputs_of_matched hmessages o h)]
      exact Nat.zero_le 1

/-- With each signature next to its output, that is so if and only if the answer has each output
once. -/
theorem recovered_conserves_iff (hfair : wallet.Fair) (hpaired : wallet.Paired)
    (hsplit : wallet.createRandomData amount keyset = some outputs)
    {restore : List OutputData → Option RestoreAnswer} (hrestore : wallet.restore = some restore)
    (hrestored : restore outputs = some restored)
    (hout : recoverProofs wallet keyset (byBlindedMessage outputs)
      (restored.outputs.zip restored.signatures) = some out) :
    ((out.map fun p => p.secret).Nodup ∧ sumProofAmounts out = amount) ↔
      RestoresEach outputs restored := by
  obtain ⟨hsecrets, hmessages, hfin, htotal⟩ := hfair.splits amount keyset outputs hsplit
  have hmatched := recoverProofs_some wallet hout
  have hsigned : ∀ e ∈ matchedOutputs (byBlindedMessage outputs)
      (restored.outputs.zip restored.signatures), e.2.amount = e.1.amount := by
    intro e he
    obtain ⟨ho, hpair⟩ := mem_matchedOutputs hmessages he
    exact hpaired restore outputs restored hrestore hrestored _ hpair _ ho rfl
  have hpos : ∀ o ∈ outputs, 0 < satsOf o.amount := by
    intro o ho
    obtain ⟨q, hq, hamount⟩ := hfin o ho
    rw [hamount]
    exact hq
  have hamounts : (matchedOutputs (byBlindedMessage outputs)
      (restored.outputs.zip restored.signatures)).map (fun e => e.2.amount) =
        ((matchedOutputs (byBlindedMessage outputs)
          (restored.outputs.zip restored.signatures)).map Prod.fst).map OutputData.amount := by
    rw [List.map_map]
    exact List.map_congr_left hsigned
  rw [sumProofAmounts_eq, secrets_of_unblinded hfair hmatched,
    amounts_of_unblinded hfair hmatched, hamounts, ← htotal,
    total_amounts fun o ho => hfin o (mem_outputs_of_matched hmessages o ho), total_amounts hfin,
    JsNumber.fin.injEq, sum_eq_iff_count hsecrets hpos (mem_outputs_of_matched hmessages)]
  unfold RestoresEach
  refine forall₂_congr fun o ho => ?_
  rw [count_matchedOutputs hmessages ho]

end

/-! ## The whole redemption -/

variable {out : List SpendableProof} {restored : RestoreAnswer}

theorem conserves_iff_ifRestored {wallet : CashuRedeemWallet} (hfair : wallet.Fair)
    {signedProofs : List SpendableProof} {key : Option String} {amountSats : JsNumber}
    {recovered : Bool}
    (h : redeemSignedProofs wallet signedProofs key = some (.ok out amountSats recovered))
    {P : List OutputData → RestoreAnswer → Prop}
    (hP : ∀ keyset outputs restore restored,
      wallet.createRandomData (swapAmount wallet signedProofs) keyset = some outputs →
      wallet.restore = some restore → restore outputs = some restored →
      recoverProofs wallet keyset (byBlindedMessage outputs)
        (restored.outputs.zip restored.signatures) = some out →
      (((out.map fun p => p.secret).Nodup ∧ sumProofAmounts out = swapAmount wallet signedProofs) ↔
        P outputs restored)) :
    Conserves wallet signedProofs out amountSats ↔ IfRestored wallet signedProofs key P := by
  rcases redeemSignedProofs_some h with ⟨-, hfailed⟩ | ⟨keyset, outputData, hprepared, -, hswap⟩
  · cases hfailed
  rcases hswap with ⟨send, hrun, hresult⟩ | ⟨hrun, hrecovered⟩
  · -- the swap has given the proofs, and nothing was asked back
    obtain ⟨rfl, rfl, rfl⟩ := RedeemSwapResult.ok.inj hresult
    obtain ⟨hnodup, hsum⟩ := hfair.swaps _ _ _ _ _ hrun
    refine iff_of_true ⟨hnodup, hsum, hsum⟩ ?_
    intro keyset' outputs restore restored hprepared' hlost
    rw [hprepared] at hprepared'
    obtain ⟨rfl, rfl⟩ := Prod.mk.inj (Option.some.inj hprepared')
    rw [hrun] at hlost
    cases hlost
  · obtain ⟨outputs, ks, restore, restored, rfl, rfl, hrestore, hrestored, hout, rfl, rfl⟩ :=
      recoverInterruptedRedeem_ok hrecovered
    obtain ⟨_, hks, hsplit⟩ := prepareSwap_outputs hprepared
    cases hks
    have hiff := hP ks outputs restore restored hsplit hrestore hrestored hout
    constructor
    · rintro ⟨hnodup, hsum, -⟩ keyset' outputs' restore' restored' hprepared' - hrestore' hrestored'
      rw [hprepared] at hprepared'
      obtain ⟨rfl, hsame⟩ := Prod.mk.inj (Option.some.inj hprepared')
      cases hsame
      rw [hrestore] at hrestore'
      obtain rfl := Option.some.inj hrestore'
      rw [hrestored] at hrestored'
      obtain rfl := Option.some.inj hrestored'
      exact hiff.mp ⟨hnodup, hsum⟩
    · intro hfull
      obtain ⟨hnodup, hsum⟩ :=
        hiff.mpr (hfull (some ks) outputs restore restored hprepared hrun hrestore hrestored)
      exact ⟨hnodup, hsum, hsum⟩

/-- The value is conserved if and only if a restore answer, where one is needed, has the value; with
each signature next to its output, if and only if it has every registered output once. -/
theorem redemption_conserves_iff {wallet : CashuRedeemWallet} (hfair : wallet.Fair)
    {signedProofs out : List SpendableProof} {key : Option String} {amountSats : JsNumber}
    {recovered : Bool}
    (h : redeemSignedProofs wallet signedProofs key = some (.ok out amountSats recovered)) :
    (Conserves wallet signedProofs out amountSats ↔
      IfRestored wallet signedProofs key (RestoresValue (swapAmount wallet signedProofs))) ∧
    (wallet.Paired → (Conserves wallet signedProofs out amountSats ↔
      IfRestored wallet signedProofs key RestoresEach)) := by
  constructor
  · refine conserves_iff_ifRestored hfair h ?_
    intro keyset outputs restore restored hsplit _ _ hout
    exact recovered_value_iff hfair hsplit hout
  · intro hpaired
    refine conserves_iff_ifRestored hfair h ?_
    intro keyset outputs restore restored hsplit hrestore hrestored hout
    exact recovered_conserves_iff hfair hpaired hsplit hrestore hrestored hout

/-! ## A lost answer -/

def plainOutputs : List OutputData :=
  [⟨"02aa", .ofInt 1, "first"⟩, ⟨"02bb", .ofInt 2, "second"⟩]

def plainKeyset : Keyset := ⟨"00ad", [("1", "02cc"), ("2", "02dd")]⟩

def plainSignature (amount : Int) : BlindSignature := ⟨.ofInt amount, []⟩

/-- The answer to the swap is lost, and the mint restores this. -/
def lostSwap (restored : RestoreAnswer) : CashuRedeemWallet where
  getFeesForProofs _ := .ofInt 0
  getKeyset := some (some plainKeyset)
  asCustom := true
  createRandomData amount _ := if amount = .ofInt 3 then some plainOutputs else none
  run _ _ _ _ := none
  checkProofsStates := some fun inputs => some (inputs.map fun _ => .spent)
  restore := some fun outputs => if outputs = plainOutputs then some restored else none
  toProof data signature _ :=
    some { amount := signature.amount, secret := data.secret, witness := none, others := [] }

def SignsPlain (restored : RestoreAnswer) : Prop :=
  ∀ e ∈ restored.outputs.zip restored.signatures, ∀ o ∈ plainOutputs,
    o.blindedMessage = e.1 → e.2.amount = o.amount

theorem lostSwap_fair (restored : RestoreAnswer) : (lostSwap restored).Fair where
  swaps amount inputs key outputs send h := by cases h
  splits amount keyset outputs h := by
    simp only [lostSwap] at h
    split at h
    next hamount =>
      cases h
      refine ⟨by decide, by decide, ?_, ?_⟩
      · intro o ho
        rcases List.mem_cons.mp ho with rfl | ho
        · exact ⟨1, by norm_num, rfl⟩
        · obtain rfl := List.mem_singleton.mp ho
          exact ⟨2, by norm_num, rfl⟩
      · rw [hamount]
        decide +kernel
    next => cases h
  unblinds data signature keyset proof h := by
    cases h
    exact ⟨rfl, rfl⟩

theorem lostSwap_paired (hsigns : SignsPlain restored) :
    (lostSwap restored).Paired := by
  intro restore outputs restored' hrestore hrestored
  cases hrestore
  simp only at hrestored
  split at hrestored
  next houtputs =>
    cases hrestored
    rw [houtputs]
    exact hsigns
  next => cases hrestored

/-- Both outputs are restored, in another order and next to one of somebody else. -/
def fullAnswer : RestoreAnswer :=
  ⟨["02bb", "02ee", "02aa"], [plainSignature 2, plainSignature 8, plainSignature 1]⟩

def plainProof (amount : Int) (secret : String) : SpendableProof :=
  { amount := .ofInt amount, secret, witness := none, others := [] }

theorem swapAmount_lostSwap (restored : RestoreAnswer) :
    swapAmount (lostSwap restored) [plainProof 3 "input"] = .ofInt 3 := by
  show (sumAmounts [⟨.ofInt 3, "input"⟩]).sub (.ofInt 0) = _
  decide +kernel

theorem prepareSwap_lostSwap (restored : RestoreAnswer) :
    prepareSwap (lostSwap restored) [plainProof 3 "input"] =
      some (some plainKeyset, some plainOutputs) := by
  unfold prepareSwap
  rw [swapAmount_lostSwap]
  rfl

theorem redeem_lostSwap {amount : JsNumber}
    (hout : recoverProofs (lostSwap restored) plainKeyset (byBlindedMessage plainOutputs)
      (restored.outputs.zip restored.signatures) = some out) (hne : out.isEmpty = false)
    (hsum : sumProofAmounts out = amount) :
    redeemSignedProofs (lostSwap restored) [plainProof 3 "input"] none =
      some (.ok out amount true) := by
  unfold redeemSignedProofs
  rw [prepareSwap_lostSwap, swapAmount_lostSwap]
  have hpositive : (JsNumber.ofInt 3).le (.ofInt 0) = false := by simp
  have hlost : (lostSwap restored).run (.ofInt 3) [plainProof 3 "input"] none (some plainOutputs) =
      none := rfl
  have hrestore : recoverInterruptedRedeem (lostSwap restored) [plainProof 3 "input"]
      (some plainOutputs) (some plainKeyset) = some (.ok out amount true) := by
    have hstates : (lostSwap restored).checkProofsStates =
        some fun inputs => some (inputs.map fun _ => .spent) := rfl
    have hanswer : (lostSwap restored).restore =
        some fun outputs => if outputs = plainOutputs then some restored else none := rfl
    simp [recoverInterruptedRedeem, hstates, hanswer, hout, hne, hsum]
  simp [hpositive, hlost, hrestore]

/-- Nothing is lost with the whole answer. -/
theorem redemption_conserves_plain :
    Conserves (lostSwap fullAnswer) [plainProof 3 "input"]
      [plainProof 2 "second", plainProof 1 "first"] (.ofInt 3) := by
  have hpaired : (lostSwap fullAnswer).Paired := by
    refine lostSwap_paired ?_
    unfold SignsPlain
    decide
  have hrun : redeemSignedProofs (lostSwap fullAnswer) [plainProof 3 "input"] none =
      some (.ok [plainProof 2 "second", plainProof 1 "first"] (.ofInt 3) true) :=
    redeem_lostSwap rfl rfl (by decide +kernel)
  refine ((redemption_conserves_iff (lostSwap_fair _) hrun).2 hpaired).mpr ?_
  intro keyset outputs restore restored hprepared _ hrestore hrestored
  rw [prepareSwap_lostSwap] at hprepared
  obtain ⟨-, houtputs⟩ := Prod.mk.inj (Option.some.inj hprepared)
  cases houtputs
  cases hrestore
  cases hrestored
  unfold RestoresEach
  decide

/-- An output is missing. -/
def shortAnswer : RestoreAnswer := ⟨["02aa"], [plainSignature 1]⟩

/-- An output is there twice. -/
def repeatedAnswer : RestoreAnswer :=
  ⟨["02aa", "02bb", "02bb"], [plainSignature 1, plainSignature 2, plainSignature 2]⟩

/-- The mint restores the smaller output only, and a third of the value is handed out; with the same
output twice the sum has one that can be spent once. -/
theorem redemption_falls_short :
    ((lostSwap shortAnswer).Fair ∧ (lostSwap shortAnswer).Paired ∧
      redeemSignedProofs (lostSwap shortAnswer) [plainProof 3 "input"] none =
        some (.ok [plainProof 1 "first"] (.ofInt 1) true) ∧
      ¬Conserves (lostSwap shortAnswer) [plainProof 3 "input"] [plainProof 1 "first"] (.ofInt 1)) ∧
    (lostSwap repeatedAnswer).Fair ∧ (lostSwap repeatedAnswer).Paired ∧
      redeemSignedProofs (lostSwap repeatedAnswer) [plainProof 3 "input"] none =
        some (.ok [plainProof 1 "first", plainProof 2 "second", plainProof 2 "second"]
          (.ofInt 5) true) ∧
      ¬Conserves (lostSwap repeatedAnswer) [plainProof 3 "input"]
        [plainProof 1 "first", plainProof 2 "second", plainProof 2 "second"] (.ofInt 5) := by
  refine ⟨⟨lostSwap_fair _, lostSwap_paired ?_, ?_, ?_⟩, lostSwap_fair _, lostSwap_paired ?_, ?_, ?_⟩
  · unfold SignsPlain
    decide
  · exact redeem_lostSwap rfl rfl (by decide +kernel)
  · rintro ⟨-, -, hamount⟩
    rw [swapAmount_lostSwap] at hamount
    exact absurd hamount (by decide)
  · unfold SignsPlain
    decide
  · exact redeem_lostSwap rfl rfl (by decide +kernel)
  · rintro ⟨hdistinct, -⟩
    exact absurd hdistinct (by decide)

end Anchr.Payments
