import Anchr.Infra.Json

/-!
# Validating a Payment Lock

`validateProviderPaymentLockProofs` of `adapters/cashu.ts` and what it calls. A thrown
`CashuClientError` is its message. The current time in seconds is an argument, and so is the fee the
wallet asks for the proofs.
-/

namespace Anchr.Payments

open Infra

/-! ## Hashes, locktimes and keys -/

/-- `[0-9a-fA-F]`. -/
def isHexDigit (c : Char) : Bool :=
  ('0' ≤ c && c ≤ '9') || ('a' ≤ c && c ≤ 'f') || ('A' ≤ c && c ≤ 'F')

/-- `/^[0-9a-fA-F]{n}$/`. -/
def isHex (n : Nat) (s : String) : Bool := s.toList.length = n && s.toList.all isHexDigit

/-- `toLowerCase`, on hexadecimal digits. -/
def lowerHex (s : String) : String := String.ofList (s.toList.map Char.toLower)

def validateHashHex (hash : String) : Except String String :=
  if isHex 64 hash then .ok (lowerHex hash)
  else .error ("Invalid hash hex (expected 64-char hex): " ++ hash)

variable (T : NumberText)

def validateLocktime (locktimeSeconds nowSeconds : JsNumber) : Except String Unit :=
  if !locktimeSeconds.isInteger then
    .error ("Locktime must be an integer: " ++ T.toString locktimeSeconds)
  else if locktimeSeconds.le nowSeconds then
    .error ("Locktime must be in the future (got " ++ T.toString locktimeSeconds ++ ", now "
      ++ T.toString nowSeconds ++ ")")
  else .ok ()

def minProviderPaymentLockRemainingSeconds : JsNumber := .ofInt (10 * 60)

def validateMinimumProviderLocktime (locktimeSeconds nowSeconds : JsNumber) :
    Except String Unit := do
  validateLocktime T locktimeSeconds nowSeconds
  let remainingSeconds := locktimeSeconds.sub nowSeconds
  if remainingSeconds.lt minProviderPaymentLockRemainingSeconds then
    .error ("verifyProviderPaymentLock: token locktime has only " ++ T.toString remainingSeconds
      ++ "s remaining")
  else .ok ()

/-- `pubkey.startsWith("02") || pubkey.startsWith("03")`. -/
def hasKeyPrefix (pubkey : String) : Bool :=
  ['0', '2'].isPrefixOf pubkey.toList || ['0', '3'].isPrefixOf pubkey.toList

def p2pkVariants (pubkey : String) : List String :=
  if hasKeyPrefix pubkey then [pubkey] else [pubkey, "02" ++ pubkey]

/-- A key with the even prefix byte in front is a known form of the key, unless the key's own digits
look like a prefix byte. -/
theorem even_mem_p2pkVariants {key : String} :
    "02" ++ key ∈ p2pkVariants key ↔ hasKeyPrefix key = false := by
  unfold p2pkVariants
  by_cases h : hasKeyPrefix key = true
  · have hne : "02" ++ key ≠ key := by
      intro heq
      have hlen := congrArg (List.length ∘ String.toList) heq
      simp only [Function.comp_apply, String.toList_append, List.length_append] at hlen
      have htwo : "02".toList.length = 2 := rfl
      omega
    simp [h, hne]
  · simp [h]

/-! ## Tags of a secret -/

/-- The members of a tag, when it is an array of strings. -/
def tagStrings? : Json → Option (List String)
  | .arr elems => elems.mapM Json.asString?
  | _ => none

/-- The first tag of a name whose members are all strings. -/
def findSecretTag (tags : Option Json) (name : String) : Option (List String) :=
  match tags with
  | some (.arr elems) =>
    elems.findSome? fun tag => (tagStrings? tag).filter fun t => t.head? = some name
  | _ => none

def requireTagValue (tags : Option Json) (name value message : String) : Except String Unit :=
  match findSecretTag tags name with
  | some tag => if tag[1]? = some value then .ok () else .error message
  | none => .error message

/-- The shape of `rejectUnsupportedExtraSignatures` and `rejectUnsupportedRefundSignatures`. -/
def rejectOtherThanOne (tags : Option Json) (name message : String) : Except String Unit :=
  match findSecretTag tags name with
  | some tag => if tag[1]? = some "1" then .ok () else .error message
  | none => .ok ()

def rejectUnsupportedExtraSignatures (tags : Option Json) : Except String Unit :=
  rejectOtherThanOne tags "n_sigs"
    "verifyProviderPaymentLock: token requires unsupported extra signatures"

def rejectUnsupportedRefundSignatures (tags : Option Json) : Except String Unit :=
  rejectOtherThanOne tags "n_sigs_refund"
    "verifyProviderPaymentLock: token refund path requires unsupported extra signatures"

def requireSingleKeyTag (tags : Option Json) (name : String) (acceptedKeys : List String)
    (message : String) : Except String Unit :=
  match findSecretTag tags name with
  | some [_, key] => if acceptedKeys.contains key then .ok () else .error message
  | _ => .error message

/-! ## Proofs -/

/-- A proof of a decoded token, with the members the validation reads. -/
structure Proof where
  amount : JsNumber
  secret : String

/-- `VerifyProviderPaymentLockParams`, without the token the proofs were decoded from. -/
structure VerifyProviderPaymentLockParams where
  amountSats : JsNumber
  hashHex : String
  providerPubkey : String
  customerPubkey : String
  locktimeSeconds : JsNumber

/-- In the order of the proofs. -/
def sumAmounts (proofs : List Proof) : JsNumber :=
  proofs.foldl (fun acc p => acc.add p.amount) (.ofInt 0)

/-- The loop of `rejectDuplicateProofs`. -/
def rejectDuplicates : List Proof → List String → Except String Unit
  | [], _ => .ok ()
  | proof :: proofs, seenSecrets =>
    if seenSecrets.contains proof.secret then
      .error "verifyProviderPaymentLock: token contains duplicate proofs"
    else rejectDuplicates proofs (proof.secret :: seenSecrets)

def rejectDuplicateProofs (proofs : List Proof) : Except String Unit := rejectDuplicates proofs []

def checkTags (params : VerifyProviderPaymentLockParams) (tags : Option Json) :
    Except String Unit := do
  requireSingleKeyTag tags "pubkeys" (p2pkVariants params.providerPubkey)
    "verifyProviderPaymentLock: token is not locked only to the selected provider"
  requireSingleKeyTag tags "refund" (p2pkVariants params.customerPubkey)
    "verifyProviderPaymentLock: token refund key does not match customer"
  requireTagValue tags "locktime" (T.toString params.locktimeSeconds)
    "verifyProviderPaymentLock: token locktime mismatch"
  requireTagValue tags "sigflag" "SIG_ALL" "verifyProviderPaymentLock: token must require SIG_ALL"
  rejectUnsupportedExtraSignatures tags
  rejectUnsupportedRefundSignatures tags

def checkProof (params : VerifyProviderPaymentLockParams) (expectedHash : String) (i : Nat)
    (proof : Proof) : Except String Unit :=
  match Json.parse T proof.secret with
  | none =>
    .error ("verifyProviderPaymentLock: proof " ++ T.toString (.ofInt i) ++ " has malformed secret")
  | some (.arr (.str kind :: rest)) =>
    if kind ≠ "HTLC" then
      .error ("verifyProviderPaymentLock: proof " ++ T.toString (.ofInt i)
        ++ " is not an HTLC proof")
    else
      let body := rest.head?
      match body.bind (·.get? "data") with
      | some (.str data) =>
        if data = expectedHash then checkTags T params (body.bind (·.get? "tags"))
        else .error "verifyProviderPaymentLock: HTLC hash mismatch"
      | _ => .error "verifyProviderPaymentLock: HTLC hash mismatch"
  | some _ =>
    .error ("verifyProviderPaymentLock: proof " ++ T.toString (.ofInt i)
      ++ " is not an HTLC proof")

def checkProofs (params : VerifyProviderPaymentLockParams) (expectedHash : String) :
    Nat → List Proof → Except String Unit
  | _, [] => .ok ()
  | i, proof :: proofs => do
    checkProof T params expectedHash i proof
    checkProofs params expectedHash (i + 1) proofs

/-- The whole validation. -/
def validateProviderPaymentLockProofs (nowSeconds : JsNumber) (proofs : List Proof)
    (params : VerifyProviderPaymentLockParams) (providerRedeemFeeSats : JsNumber) :
    Except String JsNumber :=
  if proofs.isEmpty then .error "verifyProviderPaymentLock: token has no proofs"
  else do
    let expectedHash ← validateHashHex params.hashHex
    validateMinimumProviderLocktime T params.locktimeSeconds nowSeconds
    rejectDuplicateProofs proofs
    let redeemableAmountSats := (sumAmounts proofs).sub providerRedeemFeeSats
    if !redeemableAmountSats.strictEq params.amountSats then
      .error ("verifyProviderPaymentLock: token redeemable amount "
        ++ T.toString redeemableAmountSats ++ " does not match " ++ T.toString params.amountSats)
    else do
      checkProofs T params expectedHash 0 proofs
      .ok redeemableAmountSats

/-! ## What each check establishes -/

variable {α β : Type} {b : β} {nowSeconds : JsNumber} {x : Except String α}

theorem bind_ok {f : α → Except String β} :
    (x >>= f) = .ok b ↔ ∃ a, x = .ok a ∧ f a = .ok b := by
  cases x <;> simp [bind, Except.bind]

theorem check_bind_ok {x : Except String Unit} {f : Unit → Except String β} :
    (x >>= f) = .ok b ↔ x = .ok () ∧ f () = .ok b := by
  cases x <;> simp [bind, Except.bind]

theorem ite_error_ok {c : Prop} [Decidable c] {e : String} {a : α} :
    (if c then .error e else x) = .ok a ↔ ¬c ∧ x = .ok a := by
  by_cases h : c <;> simp [h]

theorem validateHashHex_ok {hash lower : String} :
    validateHashHex hash = .ok lower ↔ isHex 64 hash = true ∧ lowerHex hash = lower := by
  unfold validateHashHex
  by_cases h : isHex 64 hash = true <;> simp [h]

/-- Being at least ten minutes ahead already puts a locktime in the future. -/
theorem validateMinimumProviderLocktime_ok {locktimeSeconds : JsNumber} :
    validateMinimumProviderLocktime T locktimeSeconds nowSeconds = .ok () ↔
      locktimeSeconds.isInteger = true ∧ locktimeSeconds.le nowSeconds = false ∧
      (locktimeSeconds.sub nowSeconds).lt minProviderPaymentLockRemainingSeconds = false := by
  unfold validateMinimumProviderLocktime validateLocktime
  simp [check_bind_ok, ite_error_ok, and_assoc]

theorem tagStrings?_eq_some {tag : Json} {l : List String} :
    tagStrings? tag = some l ↔ tag = .arr (l.map .str) := by
  cases tag with
  | arr elems =>
    simp only [tagStrings?, Json.arr.injEq]
    induction elems generalizing l with
    | nil => cases l <;> simp
    | cons e es ih =>
      simp only [List.mapM_cons, Option.bind_eq_bind, Option.bind_eq_some_iff, ih]
      cases l <;> cases e <;> simp [Json.asString?, and_comm]
  | _ => simp [tagStrings?]

variable {tags : Option Json} {name message : String} {params : VerifyProviderPaymentLockParams}

theorem findSecretTag_eq_some {tag : List String} (h : findSecretTag tags name = some tag) :
    ∃ elems vs, tags = some (.arr elems) ∧ tag = name :: vs ∧
      Json.arr (.str name :: vs.map .str) ∈ elems := by
  unfold findSecretTag at h
  split at h
  next elems =>
    obtain ⟨t, ht, h⟩ := List.exists_of_findSome?_eq_some h
    rw [Option.filter_eq_some_iff, tagStrings?_eq_some] at h
    obtain ⟨rfl, hhead⟩ := h
    cases tag with
    | nil => simp at hhead
    | cons v vs =>
      obtain rfl : v = name := by simpa using hhead
      exact ⟨elems, vs, rfl, rfl, by simpa using ht⟩
  next => exact absurd h (by simp)

theorem findSecretTag_isSome {elems : List Json} {vs : List String}
    (h : Json.arr (.str name :: vs.map .str) ∈ elems) :
    ∃ us, findSecretTag (some (.arr elems)) name = some (name :: us) := by
  cases hf : findSecretTag (some (.arr elems)) name with
  | some tag =>
    obtain ⟨_, us, _, rfl, _⟩ := findSecretTag_eq_some hf
    exact ⟨us, rfl⟩
  | none =>
    have hnone := List.findSome?_eq_none_iff.mp hf _ h
    have hstrings : tagStrings? (.arr (.str name :: vs.map .str)) = some (name :: vs) :=
      tagStrings?_eq_some.mpr rfl
    simp [hstrings, Option.filter] at hnone

theorem requireSingleKeyTag_ok {keys : List String} :
    requireSingleKeyTag tags name keys message = .ok () ↔
      ∃ key ∈ keys, findSecretTag tags name = some [name, key] := by
  unfold requireSingleKeyTag
  constructor
  · intro h
    split at h
    next first key hf =>
      obtain ⟨_, vs, _, hcons, _⟩ := findSecretTag_eq_some hf
      obtain ⟨rfl, -⟩ := List.cons.inj hcons
      by_cases hk : keys.contains key = true
      · exact ⟨key, by simpa using hk, hf⟩
      · rw [if_neg hk] at h; cases h
    next => cases h
  · rintro ⟨key, hk, hf⟩
    simp [hf, hk]

theorem requireTagValue_ok {value : String} :
    requireTagValue tags name value message = .ok () ↔
      ∃ more, findSecretTag tags name = some (name :: value :: more) := by
  unfold requireTagValue
  cases hf : findSecretTag tags name with
  | none => simp
  | some tag =>
    obtain ⟨_, vs, _, rfl, _⟩ := findSecretTag_eq_some hf
    cases vs with
    | nil => simp
    | cons v vs => by_cases hv : v = value <;> simp [hv]

theorem rejectOtherThanOne_ok :
    rejectOtherThanOne tags name message = .ok () ↔
      ∀ vs, findSecretTag tags name = some (name :: vs) → vs.head? = some "1" := by
  unfold rejectOtherThanOne
  cases hf : findSecretTag tags name with
  | none => simp
  | some tag =>
    obtain ⟨_, vs, _, rfl, _⟩ := findSecretTag_eq_some hf
    cases vs with
    | nil => simp
    | cons v vs => by_cases hv : v = "1" <;> simp [hv]

structure TagsPass (params : VerifyProviderPaymentLockParams) (tags : Option Json) : Prop where
  pubkeys : ∃ key ∈ p2pkVariants params.providerPubkey,
    findSecretTag tags "pubkeys" = some ["pubkeys", key]
  refund : ∃ key ∈ p2pkVariants params.customerPubkey,
    findSecretTag tags "refund" = some ["refund", key]
  locktime : ∃ more, findSecretTag tags "locktime" =
    some ("locktime" :: T.toString params.locktimeSeconds :: more)
  sigflag : ∃ more, findSecretTag tags "sigflag" = some ("sigflag" :: "SIG_ALL" :: more)
  nSigs : ∀ vs, findSecretTag tags "n_sigs" = some ("n_sigs" :: vs) → vs.head? = some "1"
  nSigsRefund : ∀ vs, findSecretTag tags "n_sigs_refund" = some ("n_sigs_refund" :: vs) →
    vs.head? = some "1"

theorem checkTags_ok :
    checkTags T params tags = .ok () ↔ TagsPass T params tags := by
  simp only [checkTags, rejectUnsupportedExtraSignatures, rejectUnsupportedRefundSignatures,
    check_bind_ok, requireSingleKeyTag_ok, requireTagValue_ok, rejectOtherThanOne_ok]
  constructor
  · rintro ⟨h1, h2, h3, h4, h5, h6⟩
    exact ⟨h1, h2, h3, h4, h5, h6⟩
  · rintro ⟨h1, h2, h3, h4, h5, h6⟩
    exact ⟨h1, h2, h3, h4, h5, h6⟩

def ProofPasses (params : VerifyProviderPaymentLockParams) (expectedHash : String)
    (proof : Proof) : Prop :=
  ∃ body more, Json.parse T proof.secret = some (.arr (.str "HTLC" :: body :: more)) ∧
    body.get? "data" = some (.str expectedHash) ∧ TagsPass T params (body.get? "tags")

/-- What a proof has passed. -/
theorem checkProof_ok {expectedHash : String} {i : Nat} {proof : Proof} :
    checkProof T params expectedHash i proof = .ok () ↔
      ProofPasses T params expectedHash proof := by
  unfold checkProof ProofPasses
  constructor
  · intro h
    split at h
    next => cases h
    next kind rest hparse =>
      rw [ite_error_ok, not_ne_iff] at h
      obtain ⟨rfl, h⟩ := h
      dsimp only at h
      split at h
      next data hdata =>
        by_cases hd : data = expectedHash
        · rw [if_pos hd] at h
          cases rest with
          | nil => cases hdata
          | cons body more => exact ⟨body, more, hparse, hd ▸ hdata, (checkTags_ok T).mp h⟩
        · rw [if_neg hd] at h; cases h
      next => cases h
    next => cases h
  · rintro ⟨body, more, hparse, hdata, htags⟩
    simp [hparse, hdata, (checkTags_ok T).mpr htags]

theorem checkProofs_ok {params : VerifyProviderPaymentLockParams} {expectedHash : String} :
    ∀ (proofs : List Proof) (i : Nat), checkProofs T params expectedHash i proofs = .ok () ↔
      ∀ proof ∈ proofs, ProofPasses T params expectedHash proof
  | [], _ => by simp [checkProofs]
  | proof :: proofs, i => by
    simp [checkProofs, check_bind_ok, checkProof_ok, checkProofs_ok proofs (i + 1)]

theorem rejectDuplicates_ok : ∀ (proofs : List Proof) (seenSecrets : List String),
    rejectDuplicates proofs seenSecrets = .ok () ↔
      (proofs.map Proof.secret).Nodup ∧ ∀ proof ∈ proofs, proof.secret ∉ seenSecrets
  | [], _ => by simp [rejectDuplicates]
  | proof :: proofs, seenSecrets => by
    simp only [rejectDuplicates, ite_error_ok, rejectDuplicates_ok proofs, List.map_cons,
      List.nodup_cons, List.mem_map, List.mem_cons, List.contains_iff_mem]
    constructor
    · rintro ⟨hseen, hnodup, hfresh⟩
      refine ⟨⟨?_, hnodup⟩, ?_⟩
      · rintro ⟨other, hmem, hsame⟩
        exact hfresh other hmem (.inl hsame)
      · rintro other (rfl | hmem)
        · exact hseen
        · exact fun h => hfresh other hmem (.inr h)
    · rintro ⟨⟨hhead, hnodup⟩, hfresh⟩
      refine ⟨hfresh proof (.inl rfl), hnodup, ?_⟩
      rintro other hmem (hsame | h)
      · exact hhead ⟨other, hmem, hsame⟩
      · exact hfresh other (.inr hmem) h

theorem validateProviderPaymentLockProofs_ok {proofs : List Proof}
    {providerRedeemFeeSats amountSats : JsNumber} :
    validateProviderPaymentLockProofs T nowSeconds proofs params providerRedeemFeeSats
        = .ok amountSats ↔
      proofs ≠ [] ∧ isHex 64 params.hashHex = true ∧
      validateMinimumProviderLocktime T params.locktimeSeconds nowSeconds = .ok () ∧
      (proofs.map Proof.secret).Nodup ∧
      ((sumAmounts proofs).sub providerRedeemFeeSats).strictEq params.amountSats = true ∧
      (∀ proof ∈ proofs, ProofPasses T params (lowerHex params.hashHex) proof) ∧
      (sumAmounts proofs).sub providerRedeemFeeSats = amountSats := by
  simp [validateProviderPaymentLockProofs, ite_error_ok, check_bind_ok, @bind_ok String,
    validateHashHex_ok, rejectDuplicateProofs, rejectDuplicates_ok, checkProofs_ok, and_assoc]

end Anchr.Payments
