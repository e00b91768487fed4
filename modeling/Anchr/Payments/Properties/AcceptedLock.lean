import Anchr.Payments.HtlcOptions
import Anchr.Payments.SpendingConditions

/-!
# What an accepted Payment Lock promises

`validateProviderPaymentLockProofs` looks at the first tag of each name. A mint may read another
one.
-/

namespace Anchr.Payments

open Infra

variable (T : NumberText)

/-! ## The expected lock -/

/-- Every tag the lock depends on states the expected value. -/
structure StatesLock (params : VerifyProviderPaymentLockParams) (tags : List Json) : Prop where
  pubkeys : States tags "pubkeys" (compressedKey · = compressedKey params.providerPubkey)
  refund : States tags "refund" (compressedKey · = compressedKey params.customerPubkey)
  locktime : States tags "locktime" (· = T.toString params.locktimeSeconds)
  sigflag : States tags "sigflag" (· = "SIG_ALL")
  nSigs : States tags "n_sigs" (· = "1")
  nSigsRefund : States tags "n_sigs_refund" (· = "1")

def SpendAttempt.SignedBy (a : SpendAttempt) (pubkey : String) : Prop :=
  ∃ key, compressedKey key = compressedKey pubkey ∧ a.signed key = true

/-- Under every reading only the Provider, with the preimage, can spend, and after the agreed
locktime the Customer. -/
def SpendsAsAgreed (params : VerifyProviderPaymentLockParams) (tags : List Json) : Prop :=
  ∀ c a, Reads tags c → c.SpendsHtlc a →
    (a.preimage = true ∧ a.SignedBy params.providerPubkey) ∨
    (a.passed (T.toString params.locktimeSeconds) = true ∧ a.SignedBy params.customerPubkey)

/-- The secret is an HTLC on the expected hash whose tags, all of them, state the expected lock. -/
def LockHolds (params : VerifyProviderPaymentLockParams) (proof : Proof) : Prop :=
  ∃ body more tags, Json.parse T proof.secret = some (.arr (.str "HTLC" :: body :: more)) ∧
    body.get? "data" = some (.str (lowerHex params.hashHex)) ∧
    body.get? "tags" = some (.arr tags) ∧
    StatesLock T params tags ∧ SpendsAsAgreed T params tags

variable {params : VerifyProviderPaymentLockParams} {name expected : String} {f : String → String}
  {tags : List (List String)} {c : Char}

/-- When every tag states the expected lock, no reading lets anybody else spend. -/
theorem StatesLock.spendsAsAgreed {T : NumberText} {tags keys members : List Json}
    (h : StatesLock T params tags) (hpubkeys : Json.arr (.str "pubkeys" :: keys) ∈ tags)
    (hrefund : Json.arr (.str "refund" :: members) ∈ tags) : SpendsAsAgreed T params tags := by
  rintro c a hreads (⟨hpre, hnil | hsigs⟩ | ⟨t, ht, hpassed, hsigs⟩)
  · exact absurd hnil (h.pubkeys.members_ne_nil hpubkeys hreads.pubkeys)
  · -- the receiver path
    rw [h.nSigs.sigsNeeded_eq hreads.nSigs, SpendAttempt.one_le_signatures] at hsigs
    obtain ⟨key, hmem, hsigned⟩ := hsigs
    exact .inl ⟨hpre, key, h.pubkeys.members hreads.pubkeys key hmem, hsigned⟩
  · -- the refund path; it is not open to everybody because a refund tag exists
    have hlock : ReadsValue tags "locktime" (some t) := ht ▸ hreads.locktime
    rw [h.locktime.value hlock] at hpassed
    rcases hsigs with hnil | hsigs
    · exact absurd hnil (h.refund.members_ne_nil hrefund hreads.refund)
    · rw [h.nSigsRefund.sigsNeeded_eq hreads.nSigsRefund, SpendAttempt.one_le_signatures] at hsigs
      obtain ⟨key, hmem, hsigned⟩ := hsigs
      exact .inr ⟨hpassed, key, h.refund.members hreads.refund key hmem, hsigned⟩

/-! ## Tags that do not contradict each other -/

/-- Every tag of the name has one string member beside the name, and up to `f` they carry the same
one. -/
def Agree (tags : List Json) (name : String) (f : String → String) : Prop :=
  (∀ members, Json.arr (.str name :: members) ∈ tags → ∃ v, members = [.str v]) ∧
  ∀ v w, Json.arr [.str name, .str v] ∈ tags → Json.arr [.str name, .str w] ∈ tags → f v = f w

structure LockTagsAgree (tags : List Json) : Prop where
  pubkeys : Agree tags "pubkeys" compressedKey
  refund : Agree tags "refund" compressedKey
  locktime : Agree tags "locktime" id
  sigflag : Agree tags "sigflag" id
  nSigs : Agree tags "n_sigs" id
  nSigsRefund : Agree tags "n_sigs_refund" id

/-- Tags of one name are well formed and carry one value. -/
def TagsAgree (proof : Proof) : Prop :=
  ∀ kind body more tags, Json.parse T proof.secret = some (.arr (kind :: body :: more)) →
    body.get? "tags" = some (.arr tags) → LockTagsAgree tags

/-- The first tag of a name is right. Then all are, if and only if they agree with it. -/
theorem states_iff_agree {tags : List Json}
    (hfirst : ∀ vs, findSecretTag (some (.arr tags)) name = some (name :: vs) →
      ∃ v more, vs = v :: more ∧ f v = f expected) :
    States tags name (f · = f expected) ↔ Agree tags name f := by
  constructor
  · intro h
    refine ⟨fun members hmem => ?_, fun v w hv hw => ?_⟩
    · obtain ⟨v, rfl, _⟩ := h members hmem
      exact ⟨v, rfl⟩
    · obtain ⟨v', hv', hfv⟩ := h _ hv
      obtain ⟨w', hw', hfw⟩ := h _ hw
      simp only [List.cons.injEq, Json.str.injEq, and_true] at hv' hw'
      rw [hv', hw', hfv, hfw]
  · rintro ⟨hform, hsame⟩ members hmem
    obtain ⟨v, rfl⟩ := hform members hmem
    -- a well-formed tag is visible to the search, so the first one has been checked
    have hvisible : Json.arr (.str name :: [v].map .str) ∈ tags := hmem
    obtain ⟨us, hus⟩ := findSecretTag_isSome hvisible
    obtain ⟨u, more, rfl, hu⟩ := hfirst us hus
    obtain ⟨_, _, helems, hcons, hin⟩ := findSecretTag_eq_some hus
    obtain ⟨-, rfl⟩ := List.cons.inj hcons
    cases helems
    obtain ⟨w, hw⟩ := hform _ hin
    simp only [List.map_cons, List.cons.injEq, Json.str.injEq] at hw
    obtain ⟨rfl, hmore⟩ := hw
    rw [List.map_cons, hmore] at hin
    exact ⟨v, rfl, (hsame v u hmem hin).trans hu⟩

theorem first_of_exact {tags : Option Json} {us : List String}
    (h : findSecretTag tags name = some (name :: us))
    (hus : ∃ v more, us = v :: more ∧ f v = f expected) :
    ∀ vs, findSecretTag tags name = some (name :: vs) →
      ∃ v more, vs = v :: more ∧ f v = f expected := by
  intro vs hvs
  rw [h] at hvs
  obtain rfl : us = vs := by simpa using hvs
  exact hus

theorem first_of_head {tags : Option Json}
    (h : ∀ vs, findSecretTag tags name = some (name :: vs) → vs.head? = some "1") :
    ∀ vs, findSecretTag tags name = some (name :: vs) →
      ∃ v more, vs = v :: more ∧ id v = id "1" := by
  intro vs hvs
  obtain ⟨more, rfl⟩ := List.head?_eq_some_iff.mp (h vs hvs)
  exact ⟨"1", more, rfl, rfl⟩

theorem TagsPass.statesLock_iff {T : NumberText} {tags : List Json}
    (h : TagsPass T params (some (.arr tags))) :
    StatesLock T params tags ↔ LockTagsAgree tags := by
  obtain ⟨pk, hpk, hpubkeys⟩ := h.pubkeys
  obtain ⟨rk, hrk, hrefund⟩ := h.refund
  obtain ⟨lmore, hlocktime⟩ := h.locktime
  obtain ⟨smore, hsigflag⟩ := h.sigflag
  have h1 := states_iff_agree
    (first_of_exact hpubkeys ⟨pk, [], rfl, compressedKey_of_mem_p2pkVariants hpk⟩)
  have h2 := states_iff_agree
    (first_of_exact hrefund ⟨rk, [], rfl, compressedKey_of_mem_p2pkVariants hrk⟩)
  have h3 := states_iff_agree (f := id) (first_of_exact hlocktime ⟨_, lmore, rfl, rfl⟩)
  have h4 := states_iff_agree (f := id) (first_of_exact hsigflag ⟨_, smore, rfl, rfl⟩)
  have h5 := states_iff_agree (first_of_head h.nSigs)
  have h6 := states_iff_agree (first_of_head h.nSigsRefund)
  constructor
  · rintro ⟨s1, s2, s3, s4, s5, s6⟩
    exact ⟨h1.mp s1, h2.mp s2, h3.mp s3, h4.mp s4, h5.mp s5, h6.mp s6⟩
  · rintro ⟨a1, a2, a3, a4, a5, a6⟩
    exact ⟨h1.mpr a1, h2.mpr a2, h3.mpr a3, h4.mpr a4, h5.mpr a5, h6.mpr a6⟩

theorem ProofPasses.lockHolds_iff {proof : Proof}
    (h : ProofPasses T params (lowerHex params.hashHex) proof) :
    LockHolds T params proof ↔ TagsAgree T proof := by
  obtain ⟨body, more, hparse, hdata, htags⟩ := h
  obtain ⟨rk, _, hrefund⟩ := htags.refund
  obtain ⟨tags, vs, hbody, hcons, hin⟩ := findSecretTag_eq_some hrefund
  rw [hbody] at htags
  obtain ⟨pk, -, hpubkeys⟩ := htags.pubkeys
  obtain ⟨_, _, helems, -, hpub⟩ := findSecretTag_eq_some hpubkeys
  cases helems
  constructor
  · rintro ⟨body', more', tags', hparse', -, htags', hstates, -⟩
    -- parsing is a function, so all speak of the same tags
    intro kind body'' more'' tags'' hp ht
    rw [hparse'] at hp
    obtain ⟨⟩ := hp
    rw [htags'] at ht
    obtain ⟨⟩ := ht
    rw [hparse'] at hparse
    obtain ⟨⟩ := hparse
    rw [htags'] at hbody
    obtain ⟨⟩ := hbody
    exact htags.statesLock_iff.mp hstates
  · intro hagree
    have hstates := htags.statesLock_iff.mpr (hagree _ body more tags hparse hbody)
    exact ⟨body, more, tags, hparse, hdata, hbody, hstates, hstates.spendsAsAgreed hpub hin⟩

/-- In every accepted token, a proof carries the expected lock under every reading of its tags if
and only if its tags agree. -/
theorem accepted_lock_holds_iff (nowSeconds : JsNumber) (proofs : List Proof)
    (params : VerifyProviderPaymentLockParams) (providerRedeemFeeSats amountSats : JsNumber)
    (haccepted : validateProviderPaymentLockProofs T nowSeconds proofs params
      providerRedeemFeeSats = .ok amountSats) :
    ∀ proof ∈ proofs, LockHolds T params proof ↔ TagsAgree T proof := by
  intro proof hmem
  obtain ⟨_, _, _, _, _, hpasses, _⟩ := (validateProviderPaymentLockProofs_ok T).mp haccepted
  exact (hpasses proof hmem).lockHolds_iff

theorem readsMembers_of_mem {members : List String} (h : name :: members ∈ tags) :
    ReadsMembers (tags.map stringTag) name members := by
  refine .inr (mem_occurrences.mpr ⟨_, List.mem_map_of_mem h, ?_⟩)
  simp [List.filterMap_map, Function.comp_def, Json.asString?]

/-! ## Fixed tokens -/

def repeatedHex (c : Char) : String := String.ofList (List.replicate 64 c)

theorem isHex_repeatedHex (h : isHexDigit c = true) :
    isHex 64 (repeatedHex c) = true := by
  simp [isHex, repeatedHex, h]

theorem hasKeyPrefix_repeatedHex (h : c ≠ '0') :
    hasKeyPrefix (repeatedHex c) = false := by
  simp [hasKeyPrefix, repeatedHex, List.replicate_succ, List.isPrefixOf, h.symm]

theorem lowerHex_repeatedHex (h : c.toLower = c) :
    lowerHex (repeatedHex c) = repeatedHex c := by
  simp [lowerHex, repeatedHex, h]

/-- A lock of 100 sats. -/
def agreedLock : VerifyProviderPaymentLockParams where
  amountSats := .ofInt 100
  hashHex := repeatedHex 'a'
  providerPubkey := repeatedHex 'b'
  customerPubkey := repeatedHex 'c'
  locktimeSeconds := .ofInt 2000

/-- The tags of that lock. -/
def agreedTags : List (List String) :=
  [["pubkeys", "02" ++ repeatedHex 'b'], ["locktime", "2000"],
    ["refund", "02" ++ repeatedHex 'c'], ["sigflag", "SIG_ALL"]]

/-- A proof with these tags. -/
def lockedProof (tags : List (List String)) : Proof where
  amount := .ofInt 100
  secret := (htlcSecret "5d11" (repeatedHex 'a') tags).stringify .safeIntegers

theorem tagsPass_agreedTags (others : List String) :
    TagsPass .safeIntegers agreedLock
      (some (.arr ((agreedTags ++ others.map (["pubkeys", ·])).map stringTag))) := by
  have hfind (name : String) :=
    findSecretTag_strings (agreedTags ++ others.map (["pubkeys", ·])) name
  refine ⟨⟨"02" ++ repeatedHex 'b', ?_, ?_⟩, ⟨"02" ++ repeatedHex 'c', ?_, ?_⟩, ⟨[], ?_⟩, ⟨[], ?_⟩,
    fun vs h => ?_, fun vs h => ?_⟩
  · exact even_mem_p2pkVariants.mpr (hasKeyPrefix_repeatedHex (by decide))
  · rw [hfind]; rfl
  · exact even_mem_p2pkVariants.mpr (hasKeyPrefix_repeatedHex (by decide))
  · rw [hfind]; rfl
  · rw [hfind]; rfl
  · rw [hfind]; rfl
  · rw [hfind] at h
    simpa [agreedTags] using List.mem_of_find?_eq_some h
  · rw [hfind] at h
    simpa [agreedTags] using List.mem_of_find?_eq_some h

theorem accepted_agreedTags (others : List String) :
    validateProviderPaymentLockProofs .safeIntegers (.ofInt 1000)
      [lockedProof (agreedTags ++ others.map (["pubkeys", ·]))] agreedLock (.ofInt 0)
      = .ok (.ofInt 100) := by
  have hamount : ((JsNumber.ofInt 0).add (.ofInt 100)).sub (.ofInt 0) = .ofInt 100 := by
    decide +kernel
  rw [validateProviderPaymentLockProofs_ok]
  refine ⟨by simp, isHex_repeatedHex rfl, by decide +kernel, by simp, ?_, ?_, hamount⟩
  · show (((JsNumber.ofInt 0).add (.ofInt 100)).sub (.ofInt 0)).strictEq (.ofInt 100) = true
    decide +kernel
  · intro proof hmem
    obtain rfl := List.mem_singleton.mp hmem
    exact proofPasses_htlcSecret.mpr ⟨(lowerHex_repeatedHex rfl).symm, tagsPass_agreedTags others⟩

theorem tagsAgree_lockedProof (h : LockTagsAgree (tags.map stringTag)) :
    TagsAgree .safeIntegers (lockedProof tags) := by
  intro kind body more tags' hparse htags
  rw [lockedProof, parse_htlcSecret] at hparse
  obtain ⟨⟩ := hparse
  obtain ⟨⟩ := htags
  exact h

/-- The lock with one tag of each name is accepted, and it holds. -/
theorem accepted_lock_holds_single :
    LockHolds .safeIntegers agreedLock (lockedProof agreedTags) := by
  refine (accepted_lock_holds_iff .safeIntegers (.ofInt 1000) [lockedProof agreedTags] agreedLock
    (.ofInt 0) (.ofInt 100) (accepted_agreedTags []) _ (List.mem_singleton_self _)).mpr ?_
  apply tagsAgree_lockedProof
  constructor <;> simp [Agree, agreedTags, stringTag]

/-- A second tag lists another key. -/
def twoKeyTags : List (List String) :=
  agreedTags ++ ["02" ++ repeatedHex 'd'].map (["pubkeys", ·])

theorem not_spendsAsAgreed_twoKeyTags :
    ¬SpendsAsAgreed .safeIntegers agreedLock (twoKeyTags.map stringTag) := by
  intro h
  have hother := h
    { pubkeys := ["02" ++ repeatedHex 'd'], nSigs := none, locktime := some "2000",
      refund := ["02" ++ repeatedHex 'c'], nSigsRefund := none }
    { preimage := true, signed := (· = "02" ++ repeatedHex 'd'), passed := fun _ => false }
    { pubkeys := readsMembers_of_mem (by simp [twoKeyTags])
      nSigs := ⟨[], .inl (by decide), rfl⟩
      locktime := ⟨["2000"], readsMembers_of_mem (by simp [twoKeyTags, agreedTags]),
        List.mem_singleton_self _⟩
      refund := readsMembers_of_mem (by simp [twoKeyTags, agreedTags])
      nSigsRefund := ⟨[], .inl (by decide), rfl⟩ }
    (.inl ⟨rfl, .inr (SpendAttempt.one_le_signatures.mpr
      ⟨_, List.mem_singleton_self _, by simp⟩)⟩)
  -- neither path of the agreed lock explains the spend
  rcases hother with ⟨-, key, hkey, hsigned⟩ | ⟨hpassed, -⟩
  · rw [of_decide_eq_true hsigned] at hkey
    exact absurd hkey (by decide)
  · cases hpassed

/-- The token is accepted all the same, and a mint that reads the second tag lets the other key
spend. -/
theorem second_pubkeys_accepted :
    validateProviderPaymentLockProofs .safeIntegers (.ofInt 1000) [lockedProof twoKeyTags]
        agreedLock (.ofInt 0) = .ok (.ofInt 100) ∧
      ¬LockHolds .safeIntegers agreedLock (lockedProof twoKeyTags) ∧
      ¬SpendsAsAgreed .safeIntegers agreedLock (twoKeyTags.map stringTag) := by
  refine ⟨accepted_agreedTags _, ?_, not_spendsAsAgreed_twoKeyTags⟩
  rintro ⟨body, more, tags, hparse, -, htags, -, hspends⟩
  rw [lockedProof, parse_htlcSecret] at hparse
  obtain ⟨⟩ := hparse
  obtain ⟨⟩ := htags
  exact not_spendsAsAgreed_twoKeyTags hspends

end Anchr.Payments
