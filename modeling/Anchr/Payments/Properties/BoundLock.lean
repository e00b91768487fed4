import Anchr.Payments.HtlcOptions

/-!
# From `bindProvider` to the Provider's validation

The Customer locks with the options of `buildHtlcP2PKOptions`; the Provider validates with the same
hash, keys, locktime and amount. The two sides normalise differently: the builder keeps the hash as
it is, the validator compares with the hash in lower case; the builder prefixes every x-only key,
the validator takes a key that begins with `02` or `03` for one that already has its prefix.
-/

namespace Anchr.Payments

open Infra

variable {T : NumberText} {B : BuilderKeys}

/-! ## The two sides -/

/-- What the Provider validates a lock against that was bound with `p`. -/
def BindProviderParams.toVerify (p : BindProviderParams) (amountSats : JsNumber) :
    VerifyProviderPaymentLockParams where
  amountSats := amountSats
  hashHex := p.hashHex
  providerPubkey := p.providerPubkey
  customerPubkey := p.customerPubkey
  locktimeSeconds := p.locktimeSeconds

theorem lockTags_final (p : BindProviderParams) :
    (buildHtlcP2PKOptions B p).lockTags T =
      [["pubkeys", B.normalize p.providerPubkey], ["locktime", T.toString p.locktimeSeconds],
        ["refund", B.normalize p.customerPubkey], ["sigflag", "SIG_ALL"]] := rfl

theorem countTags_final (p : BindProviderParams) :
    (buildHtlcP2PKOptions B p).countTags = [["n_sigs", "1"], ["n_sigs_refund", "1"]] := by
  have hone : String.ofList (natChars 1) = "1" := by decide
  simp [buildHtlcP2PKOptions, buildHtlcFinalOptions, P2PKOptions.countTags, memberTag,
    P2PKOptions.addHashlock, P2PKOptions.addLockPubkey, P2PKOptions.requireLockSignatures,
    P2PKOptions.lockUntil, P2PKOptions.addRefundPubkey, P2PKOptions.requireRefundSignatures,
    P2PKOptions.sigAll, hone]

/-! ## One proof -/

section
variable {p : BindProviderParams} {counts tags : List (List String)}

theorem nodup_names (hcounts : counts.Sublist [["n_sigs", "1"], ["n_sigs_refund", "1"]])
    (htags : tags.Perm ((buildHtlcP2PKOptions B p).lockTags T ++ counts)) :
    (tags.map List.head?).Nodup := by
  have hsub : ((buildHtlcP2PKOptions B p).lockTags T ++ counts).Sublist
      ((buildHtlcP2PKOptions B p).lockTags T ++ [["n_sigs", "1"], ["n_sigs_refund", "1"]]) :=
    hcounts.append_left _
  rw [(htags.map List.head?).nodup_iff]
  apply (hsub.map List.head?).nodup
  rw [lockTags_final]
  simp

theorem count_eq_one {name : String} {vs : List String}
    (hname : name = "n_sigs" ∨ name = "n_sigs_refund")
    (hcounts : counts.Sublist [["n_sigs", "1"], ["n_sigs_refund", "1"]])
    (htags : tags.Perm ((buildHtlcP2PKOptions B p).lockTags T ++ counts))
    (h : findSecretTag (some (.arr (tags.map stringTag))) name = some (name :: vs)) :
    vs.head? = some "1" := by
  rw [findSecretTag_strings] at h
  have hmem := htags.mem_iff.mp (List.mem_of_find?_eq_some h)
  rw [List.mem_append, lockTags_final] at hmem
  rcases hmem with hmem | hmem
  · rcases hname with rfl | rfl <;> simp at hmem
  · have hcount := hcounts.subset hmem
    simp only [List.mem_cons, List.cons.injEq, List.not_mem_nil, or_false] at hcount
    rcases hcount with ⟨_, rfl⟩ | ⟨_, rfl⟩ <;> rfl

theorem tagsPass_rendered_iff {amountSats : JsNumber}
    (hprovider : isHex 64 p.providerPubkey = true) (hcustomer : isHex 64 p.customerPubkey = true)
    (hcounts : counts.Sublist [["n_sigs", "1"], ["n_sigs_refund", "1"]])
    (htags : tags.Perm ((buildHtlcP2PKOptions B p).lockTags T ++ counts)) :
    TagsPass T (p.toVerify amountSats) (some (.arr (tags.map stringTag))) ↔
      hasKeyPrefix p.providerPubkey = false ∧ hasKeyPrefix p.customerPubkey = false := by
  have hfind (name : String) (members : List String)
      (hmem : (name :: members) ∈ (buildHtlcP2PKOptions B p).lockTags T) :
      findSecretTag (some (.arr (tags.map stringTag))) name = some (name :: members) :=
    findSecretTag_of_mem (nodup_names hcounts htags)
      (htags.mem_iff.mpr (List.mem_append_left _ hmem))
  have hpubkeys := hfind "pubkeys" [B.normalize p.providerPubkey] (by simp [lockTags_final])
  have hrefund := hfind "refund" [B.normalize p.customerPubkey] (by simp [lockTags_final])
  have hlocktime := hfind "locktime" [T.toString p.locktimeSeconds] (by simp [lockTags_final])
  have hsigflag := hfind "sigflag" ["SIG_ALL"] (by simp [lockTags_final])
  rw [B.normalize_xonly _ hprovider] at hpubkeys
  rw [B.normalize_xonly _ hcustomer] at hrefund
  constructor
  · intro h
    obtain ⟨pk, hpk, hpk'⟩ := h.pubkeys
    obtain ⟨rk, hrk, hrk'⟩ := h.refund
    rw [hpubkeys] at hpk'
    rw [hrefund] at hrk'
    obtain rfl : "02" ++ p.providerPubkey = pk := by simpa using hpk'
    obtain rfl : "02" ++ p.customerPubkey = rk := by simpa using hrk'
    exact ⟨even_mem_p2pkVariants.mp hpk, even_mem_p2pkVariants.mp hrk⟩
  · rintro ⟨hpk, hrk⟩
    exact
      { pubkeys := ⟨_, even_mem_p2pkVariants.mpr hpk, hpubkeys⟩
        refund := ⟨_, even_mem_p2pkVariants.mpr hrk, hrefund⟩
        locktime := ⟨[], hlocktime⟩
        sigflag := ⟨[], hsigflag⟩
        nSigs := fun _ => count_eq_one (.inl rfl) hcounts htags
        nSigsRefund := fun _ => count_eq_one (.inr rfl) hcounts htags }

/-- A rendered proof passes exactly when its hash is in lower case and no key looks prefixed. -/
theorem proofPasses_rendered_iff (amountSats : JsNumber) {proof : Proof}
    (hprovider : isHex 64 p.providerPubkey = true) (hcustomer : isHex 64 p.customerPubkey = true)
    (hrenders : Renders T (buildHtlcP2PKOptions B p) proof.secret) :
    ProofPasses T (p.toVerify amountSats) (lowerHex p.hashHex) proof ↔
      lowerHex p.hashHex = p.hashHex ∧ hasKeyPrefix p.providerPubkey = false ∧
        hasKeyPrefix p.customerPubkey = false := by
  obtain ⟨nonce, hash, counts, tags, hhash, hcounts, -, htags, hsecret⟩ := hrenders
  obtain rfl : p.hashHex = hash := Option.some.inj hhash
  obtain ⟨amount, secret⟩ := proof
  subst hsecret
  rw [countTags_final] at hcounts
  rw [proofPasses_htlcSecret, tagsPass_rendered_iff hprovider hcustomer hcounts htags, eq_comm]

end

/-! ## The whole token -/

/-- The validator's ten minutes, met by an integer locktime that is as far ahead. -/
theorem validateMinimumProviderLocktime_ahead {locktime now : Int} (h : now + 600 ≤ locktime) :
    validateMinimumProviderLocktime T (.ofInt locktime) (.ofInt now) = .ok () := by
  rw [validateMinimumProviderLocktime_ok]
  have hlate : ¬locktime ≤ now := by omega
  have hremaining : ¬locktime - now < 600 := by omega
  simp [minProviderPaymentLockRemainingSeconds, hlate, hremaining]

/--
Proofs rendered from the options `bindProvider` builds pass the Provider's validation if and only if
the hash has no upper-case digit and neither key begins with `02` or `03`.
-/
theorem bound_lock_accepted_iff (T : NumberText) (B : BuilderKeys) (p : BindProviderParams)
    (amount locktime now : Int) (proofs : List Proof) (providerRedeemFeeSats : JsNumber)
    (hhash : isHex 64 p.hashHex = true)
    (hprovider : isHex 64 p.providerPubkey = true)
    (hcustomer : isHex 64 p.customerPubkey = true)
    (hlocktime : p.locktimeSeconds = .ofInt locktime) (hahead : now + 600 ≤ locktime)
    (hproofs : proofs ≠ []) (hfresh : (proofs.map Proof.secret).Nodup)
    (hrenders : ∀ proof ∈ proofs, Renders T (buildHtlcP2PKOptions B p) proof.secret)
    (hnet : (sumAmounts proofs).sub providerRedeemFeeSats = .ofInt amount) :
    validateProviderPaymentLockProofs T (.ofInt now) proofs (p.toVerify (.ofInt amount))
        providerRedeemFeeSats = .ok (.ofInt amount) ↔
      lowerHex p.hashHex = p.hashHex ∧ hasKeyPrefix p.providerPubkey = false ∧
        hasKeyPrefix p.customerPubkey = false := by
  have hlock : validateMinimumProviderLocktime T p.locktimeSeconds (.ofInt now) = .ok () :=
    hlocktime ▸ validateMinimumProviderLocktime_ahead hahead
  have hpasses (proof : Proof) (hmem : proof ∈ proofs) :=
    proofPasses_rendered_iff (.ofInt amount) hprovider hcustomer (hrenders proof hmem)
  rw [validateProviderPaymentLockProofs_ok]
  constructor
  · rintro ⟨-, -, -, -, -, hall, -⟩
    obtain ⟨proof, hmem⟩ := List.exists_mem_of_ne_nil proofs hproofs
    exact (hpasses proof hmem).mp (hall proof hmem)
  · intro h
    refine ⟨hproofs, hhash, hlock, hfresh, ?_, fun proof hmem => (hpasses proof hmem).mpr h, hnet⟩
    rw [hnet]
    simp [BindProviderParams.toVerify, JsNumber.ofInt]

/-! ## Fixed locks -/

def BuilderKeys.evenPrefix : BuilderKeys where
  normalize key := if isHex 64 key then "02" ++ key else key
  normalize_xonly key h := by rw [if_pos h]

/-- 64 digits. -/
def hexString (c d e : Char) : String := String.ofList (c :: d :: List.replicate 62 e)

variable {c d e : Char}

theorem isHex_hexString (hc : isHexDigit c = true) (hd : isHexDigit d = true)
    (he : isHexDigit e = true) : isHex 64 (hexString c d e) = true := by
  simp [isHex, hexString, hc, hd, he]

theorem lowerHex_hexString_eq_self :
    lowerHex (hexString c d e) = hexString c d e ↔
      c.toLower = c ∧ d.toLower = d ∧ e.toLower = e := by
  simp [lowerHex, hexString, List.replicate_succ]

theorem hasKeyPrefix_hexString (c d e : Char) :
    hasKeyPrefix (hexString c d e) = ('0' == c && ('2' == d || '3' == d)) := by
  simp [hasKeyPrefix, hexString, List.isPrefixOf, Bool.and_or_distrib_left]

/-- A binding with this hash and these keys. -/
def fixedBinding (hashHex providerPubkey customerPubkey : String) : BindProviderParams where
  hashHex := hashHex
  providerPubkey := providerPubkey
  customerPubkey := customerPubkey
  locktimeSeconds := .ofInt 2000

/-- A proof that is locked so. -/
def boundProof (p : BindProviderParams) : Proof where
  amount := .ofInt 100
  secret := (htlcSecret "5d11" p.hashHex
    ((buildHtlcP2PKOptions .evenPrefix p).lockTags .safeIntegers)).stringify .safeIntegers

theorem renders_boundProof (p : BindProviderParams) :
    Renders .safeIntegers (buildHtlcP2PKOptions .evenPrefix p) (boundProof p).secret := by
  refine ⟨"5d11", p.hashHex, [], _, rfl, List.nil_sublist _, ?_, ?_, rfl⟩
  · rw [countTags_final]
    simp
  · rw [List.append_nil]

theorem net_boundProof (p : BindProviderParams) :
    (sumAmounts [boundProof p]).sub (.ofInt 0) = .ofInt 100 := by
  show ((JsNumber.ofInt 0).add (.ofInt 100)).sub (.ofInt 0) = .ofInt 100
  decide +kernel

/-- Lower case, and no key that looks prefixed. -/
theorem bound_lock_accepted_lower_case :
    validateProviderPaymentLockProofs .safeIntegers (.ofInt 1000)
      [boundProof (fixedBinding (hexString 'a' 'b' 'c') (hexString 'b' '2' 'd')
        (hexString '1' '2' 'e'))]
      ((fixedBinding (hexString 'a' 'b' 'c') (hexString 'b' '2' 'd')
        (hexString '1' '2' 'e')).toVerify (.ofInt 100))
      (.ofInt 0) = .ok (.ofInt 100) := by
  refine (bound_lock_accepted_iff .safeIntegers .evenPrefix _ 100 2000 1000 _ (.ofInt 0) ?_ ?_ ?_
    rfl (by decide) (by simp) (by simp) ?_ (net_boundProof _)).mpr ⟨?_, ?_, ?_⟩
  · exact isHex_hexString rfl rfl rfl
  · exact isHex_hexString rfl rfl rfl
  · exact isHex_hexString rfl rfl rfl
  · intro proof hmem
    obtain rfl := List.mem_singleton.mp hmem
    exact renders_boundProof _
  · exact lowerHex_hexString_eq_self.mpr ⟨rfl, rfl, rfl⟩
  · exact hasKeyPrefix_hexString ..
  · exact hasKeyPrefix_hexString ..

/-- The binding is well formed, and the Provider refuses it. -/
def RefusesBound (p : BindProviderParams) : Prop :=
  isHex 64 p.hashHex = true ∧
  (isHex 64 p.providerPubkey = true ∧ lowerHex p.providerPubkey = p.providerPubkey) ∧
  (isHex 64 p.customerPubkey = true ∧ lowerHex p.customerPubkey = p.customerPubkey) ∧
  Renders .safeIntegers (buildHtlcP2PKOptions .evenPrefix p) (boundProof p).secret ∧
  (sumAmounts [boundProof p]).sub (.ofInt 0) = .ofInt 100 ∧
  ∀ n, validateProviderPaymentLockProofs .safeIntegers (.ofInt 1000) [boundProof p]
    (p.toVerify (.ofInt 100)) (.ofInt 0) ≠ .ok n

theorem refusesBound {p : BindProviderParams} (hhash : isHex 64 p.hashHex = true)
    (hprovider : isHex 64 p.providerPubkey = true ∧ lowerHex p.providerPubkey = p.providerPubkey)
    (hcustomer : isHex 64 p.customerPubkey = true ∧ lowerHex p.customerPubkey = p.customerPubkey)
    (hdiffers : ¬(lowerHex p.hashHex = p.hashHex ∧ hasKeyPrefix p.providerPubkey = false ∧
      hasKeyPrefix p.customerPubkey = false)) : RefusesBound p := by
  refine ⟨hhash, hprovider, hcustomer, renders_boundProof p, net_boundProof p, fun n hok => ?_⟩
  obtain ⟨-, -, -, -, -, hall, -⟩ := (validateProviderPaymentLockProofs_ok _).mp hok
  exact hdiffers ((proofPasses_rendered_iff _ hprovider.1 hcustomer.1 (renders_boundProof p)).mp
    (hall _ (List.mem_singleton_self _)))

/-- An upper-case digit in the hash, a Provider key that begins with `02`, and a Customer key that
begins with `03`. -/
theorem bound_lock_refused :
    RefusesBound
      (fixedBinding (hexString 'A' 'b' 'c') (hexString 'b' '2' 'd') (hexString '1' '2' 'e')) ∧
    RefusesBound
      (fixedBinding (hexString 'a' 'b' 'c') (hexString '0' '2' 'd') (hexString '1' '2' 'e')) ∧
    RefusesBound
      (fixedBinding (hexString 'a' 'b' 'c') (hexString 'b' '2' 'd') (hexString '0' '3' 'e')) := by
  have hkey {c d e : Char} (hc : isHexDigit c = true ∧ c.toLower = c)
      (hd : isHexDigit d = true ∧ d.toLower = d) (he : isHexDigit e = true ∧ e.toLower = e) :
      isHex 64 (hexString c d e) = true ∧ lowerHex (hexString c d e) = hexString c d e :=
    ⟨isHex_hexString hc.1 hd.1 he.1, lowerHex_hexString_eq_self.mpr ⟨hc.2, hd.2, he.2⟩⟩
  refine ⟨?_, ?_, ?_⟩
  · refine refusesBound (isHex_hexString rfl rfl rfl) (hkey ⟨rfl, rfl⟩ ⟨rfl, rfl⟩ ⟨rfl, rfl⟩)
      (hkey ⟨rfl, rfl⟩ ⟨rfl, rfl⟩ ⟨rfl, rfl⟩) ?_
    rintro ⟨hlower, -, -⟩
    exact absurd (lowerHex_hexString_eq_self.mp hlower).1 (by decide)
  · refine refusesBound (isHex_hexString rfl rfl rfl) (hkey ⟨rfl, rfl⟩ ⟨rfl, rfl⟩ ⟨rfl, rfl⟩)
      (hkey ⟨rfl, rfl⟩ ⟨rfl, rfl⟩ ⟨rfl, rfl⟩) ?_
    rintro ⟨-, hprovider, -⟩
    exact absurd ((hasKeyPrefix_hexString ..).symm.trans hprovider) (by decide)
  · refine refusesBound (isHex_hexString rfl rfl rfl) (hkey ⟨rfl, rfl⟩ ⟨rfl, rfl⟩ ⟨rfl, rfl⟩)
      (hkey ⟨rfl, rfl⟩ ⟨rfl, rfl⟩ ⟨rfl, rfl⟩) ?_
    rintro ⟨-, -, hcustomer⟩
    exact absurd ((hasKeyPrefix_hexString ..).symm.trans hcustomer) (by decide)

end Anchr.Payments
