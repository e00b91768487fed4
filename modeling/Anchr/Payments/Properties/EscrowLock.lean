import Anchr.Payments.EscrowProvider
import Anchr.Payments.HtlcOptions
import Anchr.Payments.SpendingConditions

/-!
# What an escrow provider's lock check promises

Both `verifyLock` functions look for the keys they expect among the keys of the first tag. They do
not ask which other keys are there, what the other tags say, or who is refunded.
-/

namespace Anchr.Payments

open Infra Frost

/-! ## Secrets and readings -/

/-- A secret of the kind, with tags of strings. A mint takes any other text for a secret without
conditions. -/
def WellKnown (T : NumberText) (secret kind data : String) (tags : List (List String)) : Prop :=
  ∃ body, Json.parse T secret = some (.arr [.str kind, body]) ∧
    body.get? "data" = some (.str data) ∧ body.get? "tags" = some (.arr (tags.map stringTag))

theorem stringTag_injective : Function.Injective stringTag := by
  intro tag tag' h
  have hstrings := tagStrings?_eq_some.mpr (show stringTag tag = .arr (tag.map .str) from rfl)
  rw [h, tagStrings?_eq_some.mpr (show stringTag tag' = .arr (tag'.map .str) from rfl)] at hstrings
  exact (Option.some.inj hstrings).symm

theorem WellKnown.unique {T : NumberText} {secret kind data data' : String}
    {tags tags' : List (List String)} (h : WellKnown T secret kind data tags)
    (h' : WellKnown T secret kind data' tags') : data = data' ∧ tags = tags' := by
  obtain ⟨body, hparse, hdata, htags⟩ := h
  obtain ⟨body', hparse', hdata', htags'⟩ := h'
  rw [hparse] at hparse'
  obtain ⟨⟩ := hparse'
  rw [hdata] at hdata'
  obtain ⟨⟩ := hdata'
  rw [htags, Option.some.injEq, Json.arr.injEq] at htags'
  exact ⟨rfl, List.map_injective_iff.mpr stringTag_injective htags'⟩

section

variable {tags : List (List String)} {name : String}

variable {vs : List String}

theorem mem_occurrences_strings :
    vs ∈ occurrences (tags.map stringTag) name ↔ name :: vs ∈ tags := by
  rw [mem_occurrences]
  constructor
  · rintro ⟨members, hmem, hvs⟩
    obtain ⟨tag, htag, heq⟩ := List.mem_map.mp hmem
    cases tag with
    | nil => cases heq
    | cons first rest =>
      obtain ⟨⟩ := heq
      have hrest : (rest.map Json.str).filterMap Json.asString? = rest := by
        simp [List.filterMap_map, Function.comp_def, Json.asString?]
      rw [hrest] at hvs
      exact hvs ▸ htag
  · intro hmem
    refine ⟨vs.map .str, List.mem_map.mpr ⟨_, hmem, rfl⟩, ?_⟩
    simp [List.filterMap_map, Function.comp_def, Json.asString?]

variable {members : List String} {v : String}

theorem mem_of_readsMembers (h : ReadsMembers (tags.map stringTag) name members) (hv : v ∈ members) :
    ∃ vs, name :: vs ∈ tags ∧ v ∈ vs := by
  rcases h with rfl | h
  · obtain ⟨vs, hvs, hmem⟩ := List.mem_flatten.mp hv
    exact ⟨vs, mem_occurrences_strings.mp hvs, hmem⟩
  · exact ⟨members, mem_occurrences_strings.mp h, hv⟩

theorem readsMembers_ne_nil (hmem : name :: vs ∈ tags) (hfull : ∀ vs, name :: vs ∈ tags → vs ≠ [])
    (h : ReadsMembers (tags.map stringTag) name members) :
    members ≠ [] := by
  rcases h with rfl | h
  · intro hnil
    exact hfull vs hmem (List.flatten_eq_nil_iff.mp hnil vs (mem_occurrences_strings.mpr hmem))
  · exact hfull members (mem_occurrences_strings.mp h)

theorem readsMembers_of_tag (h : name :: vs ∈ tags) :
    ReadsMembers (tags.map stringTag) name vs := .inr (mem_occurrences_strings.mpr h)

theorem readsValue_of_tag (h : name :: vs ∈ tags) (hv : v ∈ vs) :
    ReadsValue (tags.map stringTag) name (some v) := ⟨vs, readsMembers_of_tag h, hv⟩

theorem sigsNeeded_of_tags {n : Nat} (hgive : ∀ vs, name :: vs ∈ tags → ∀ v ∈ vs,
      sigsNeeded (some v) = n) {value : Option String}
    (hsome : value = none → n = 1) (h : ReadsValue (tags.map stringTag) name value) :
    sigsNeeded value = n := by
  cases value with
  | none => exact (hsome rfl).symm
  | some v =>
    obtain ⟨members, hread, hv⟩ := h
    obtain ⟨vs, htag, hmem⟩ := mem_of_readsMembers hread hv
    exact hgive vs htag v hmem

end

/-! ## The expected locks -/

def SpendAttempt.SignedAs (K : FrostTools) (a : SpendAttempt) (pubkey : String) : Prop :=
  ∃ key, sameXOnlyPubkey K key pubkey = true ∧ a.signed key = true

/-- Before any locktime only the Provider spends, and with the preimage. -/
structure OnlyProvider (K : FrostTools) (providerPubkey : String) (c : SpendingConditions) :
    Prop where
  spends : ∀ a : SpendAttempt, a.Early → c.SpendsHtlc a →
    a.preimage = true ∧ a.SignedAs K providerPubkey
  keys : ∀ key ∈ c.pubkeys, sameXOnlyPubkey K key providerPubkey = true
  signatures : sigsNeeded c.nSigs = 1
  refund : c.locktime ≠ none → c.refund ≠ []

/-- Before any locktime only the Provider and the group together spend. -/
structure ProviderWithGroup (K : FrostTools) (groupPubkey providerPubkey data : String)
    (c : SpendingConditions) : Prop where
  spends : ∀ a : SpendAttempt, a.Early → c.SpendsP2pk data a →
    a.SignedAs K providerPubkey ∧ a.SignedAs K groupPubkey
  keys : ∀ key ∈ data :: c.pubkeys,
    sameXOnlyPubkey K key providerPubkey = true ∨ sameXOnlyPubkey K key groupPubkey = true
  signatures : sigsNeeded c.nSigs = 2
  refund : c.locktime ≠ none → c.refund ≠ []

/-- Under every reading, only the Provider can spend. -/
def HtlcLockHolds (K : FrostTools) (paymentHash providerPubkey : String) (proof : Proof) : Prop :=
  ∃ tags, WellKnown K.text proof.secret "HTLC" paymentHash tags ∧
    ∀ c, Reads (tags.map stringTag) c → OnlyProvider K providerPubkey c

/-- Under every reading, the Provider needs the group. -/
def FrostLockHolds (K : FrostTools) (groupPubkey providerPubkey : String) (proof : Proof) : Prop :=
  ∃ data tags, WellKnown K.text proof.secret "P2PK" data tags ∧
    ∀ c, Reads (tags.map stringTag) c → ProviderWithGroup K groupPubkey providerPubkey data c

/-! ## What the tags have to say -/

/-- A locktime comes with refund keys. -/
def RefundGiven (tags : List (List String)) : Prop :=
  ∀ t more, "locktime" :: t :: more ∈ tags →
    (∃ keys, "refund" :: keys ∈ tags) ∧ ∀ keys, "refund" :: keys ∈ tags → keys ≠ []

/-- Every `pubkeys` tag lists the Provider's key and no other, and every `n_sigs` tag says one. -/
structure HtlcTags (K : FrostTools) (providerPubkey : String) (tags : List (List String)) :
    Prop where
  pubkeys : ∀ keys, "pubkeys" :: keys ∈ tags → keys ≠ [] ∧
    ∀ key ∈ keys, sameXOnlyPubkey K key providerPubkey = true
  nSigs : ∀ values, "n_sigs" :: values ∈ tags → ∀ v ∈ values, digitsValue v.toList = 1
  refund : RefundGiven tags

def ListsKey (data : String) (tags : List (List String)) (key : String) : Prop :=
  key = data ∨ ∃ keys, "pubkeys" :: keys ∈ tags ∧ key ∈ keys

/-- Of any two keys that are listed, one is the Provider's and the other the group's; and every
`n_sigs` tag says two. -/
structure FrostTags (K : FrostTools) (groupPubkey providerPubkey data : String)
    (tags : List (List String)) : Prop where
  keys : ∀ key key', ListsKey data tags key → ListsKey data tags key' → key ≠ key' →
    (sameXOnlyPubkey K key providerPubkey = true ∧ sameXOnlyPubkey K key' groupPubkey = true) ∨
    (sameXOnlyPubkey K key groupPubkey = true ∧ sameXOnlyPubkey K key' providerPubkey = true)
  nSigs : ∀ values, "n_sigs" :: values ∈ tags → values ≠ [] ∧
    ∀ v ∈ values, digitsValue v.toList = 2
  refund : RefundGiven tags

section

variable {K : FrostTools} {tags : List (List String)}

theorem refundGiven_iff :
    (∀ c, Reads (tags.map stringTag) c → c.locktime ≠ none → c.refund ≠ []) ↔
      RefundGiven tags := by
  constructor
  · intro h t more htag
    have hlock : ReadsValue (tags.map stringTag) "locktime" (some t) :=
      readsValue_of_tag htag List.mem_cons_self
    have hall : (occurrences (tags.map stringTag) "refund").flatten ≠ [] :=
      h { readAll (tags.map stringTag) with locktime := some t }
        { reads_readAll (tags.map stringTag) with locktime := hlock } (by simp)
    refine ⟨?_, fun keys hkeys => ?_⟩
    · obtain ⟨key, hkey⟩ := List.exists_mem_of_ne_nil _ hall
      obtain ⟨keys, hkeys, -⟩ := List.mem_flatten.mp hkey
      exact ⟨keys, mem_occurrences_strings.mp hkeys⟩
    · exact h { readAll (tags.map stringTag) with locktime := some t, refund := keys }
        { reads_readAll (tags.map stringTag) with
          locktime := hlock, refund := readsMembers_of_tag hkeys } (by simp)
  · intro h c hreads hlock
    obtain ⟨t, ht⟩ := Option.ne_none_iff_exists'.mp hlock
    obtain ⟨members, hmembers, hmem⟩ := ht ▸ hreads.locktime
    obtain ⟨values, htag, hin⟩ := mem_of_readsMembers hmembers hmem
    cases values with
    | nil => cases hin
    | cons first more =>
      obtain ⟨⟨keys, hkeys⟩, hfull⟩ := h first more htag
      exact readsMembers_ne_nil hkeys hfull hreads.refund

/-! ## HTLC -/

variable {providerPubkey key data groupPubkey : String} {c : SpendingConditions}

theorem HtlcTags.onlyProvider {keys : List String} (h : HtlcTags K providerPubkey tags)
    (hkeys : "pubkeys" :: keys ∈ tags) (hreads : Reads (tags.map stringTag) c) :
    OnlyProvider K providerPubkey c := by
  have hown : ∀ key ∈ c.pubkeys, sameXOnlyPubkey K key providerPubkey = true := by
    intro key hkey
    obtain ⟨keys', htag, hmem⟩ := mem_of_readsMembers hreads.pubkeys hkey
    exact (h.pubkeys keys' htag).2 key hmem
  have hsigs : sigsNeeded c.nSigs = 1 :=
    sigsNeeded_of_tags h.nSigs (fun _ => rfl) hreads.nSigs
  refine ⟨fun a hearly hspends => ?_, hown, hsigs, refundGiven_iff.mpr h.refund c hreads⟩
  rcases hspends with ⟨hpreimage, hnone | hsigned⟩ | hrefund
  · exact absurd hnone
      (readsMembers_ne_nil hkeys (fun keys' htag => (h.pubkeys keys' htag).1) hreads.pubkeys)
  · rw [hsigs, SpendAttempt.one_le_signatures] at hsigned
    obtain ⟨key, hkey, hkeySigned⟩ := hsigned
    exact ⟨hpreimage, key, hown key hkey, hkeySigned⟩
  · exact absurd hrefund (hearly.not_refunds c)

def preimageOnly : SpendAttempt where
  preimage := true
  signed _ := false
  passed _ := false

theorem htlcTags_of_onlyProvider
    (h : ∀ c, Reads (tags.map stringTag) c → OnlyProvider K providerPubkey c) :
    HtlcTags K providerPubkey tags := by
  refine ⟨fun keys hkeys => ?_, fun values hvalues v hv => ?_,
    refundGiven_iff.mp fun c hreads => (h c hreads).refund⟩
  · -- the reading of just this tag
    have honly := h { readAll (tags.map stringTag) with pubkeys := keys }
      { reads_readAll (tags.map stringTag) with pubkeys := readsMembers_of_tag hkeys }
    refine ⟨fun hnil => ?_, honly.keys⟩
    obtain ⟨-, key, -, hsigned⟩ := honly.spends preimageOnly (fun _ => rfl) (.inl ⟨rfl, .inl hnil⟩)
    cases hsigned
  · exact (h { readAll (tags.map stringTag) with nSigs := some v }
      { reads_readAll (tags.map stringTag) with nSigs := readsValue_of_tag hvalues hv }).signatures

theorem mem_of_findPubkeys : ∀ {tags : List (List String)} {lockedKeys : List Json},
    CashuEscrow.findPubkeys (tags.map stringTag) = .found lockedKeys →
      ∃ keys, "pubkeys" :: keys ∈ tags
  | [], _, h => by cases h
  | [] :: tags, lockedKeys, h => by
    have hrest : CashuEscrow.findPubkeys (tags.map stringTag) = .found lockedKeys := h
    obtain ⟨keys, hkeys⟩ := mem_of_findPubkeys hrest
    exact ⟨keys, List.mem_cons_of_mem _ hkeys⟩
  | (name :: keys) :: tags, lockedKeys, h => by
    simp only [List.map_cons, stringTag, CashuEscrow.findPubkeys] at h
    split at h
    next hname => exact ⟨keys, hname ▸ List.mem_cons_self⟩
    obtain ⟨keys, hkeys⟩ := mem_of_findPubkeys h
    exact ⟨keys, List.mem_cons_of_mem _ hkeys⟩

variable {proof : Proof}

theorem CashuEscrow.Passes.lockHolds_iff {paymentHash : String}
    (h : CashuEscrow.Passes K paymentHash providerPubkey proof) :
    HtlcLockHolds K paymentHash providerPubkey proof ↔
      ∃ data tags, WellKnown K.text proof.secret "HTLC" data tags ∧
        HtlcTags K providerPubkey tags := by
  obtain ⟨body, rest, lockedKeys, hparse, hdata, hfound, -⟩ := h
  constructor
  · rintro ⟨tags, hsecret, honly⟩
    exact ⟨paymentHash, tags, hsecret, htlcTags_of_onlyProvider honly⟩
  · rintro ⟨data, tags, hsecret, htags⟩
    have hsecret' := hsecret
    obtain ⟨body', hparse', hdata', htags'⟩ := hsecret'
    rw [hparse] at hparse'
    obtain ⟨⟩ := hparse'
    -- the hash and the tags are those that the check has seen
    have hhash : data = paymentHash := by
      rw [Json.string?, hdata'] at hdata
      exact Option.some.inj hdata
    rw [htags'] at hfound
    obtain ⟨keys, hkeys⟩ := mem_of_findPubkeys hfound
    exact ⟨tags, hhash ▸ hsecret, fun c hreads => htags.onlyProvider hkeys hreads⟩

/-! ## FROST -/

theorem sameXOnlyPubkey_iff {key' : String} : sameXOnlyPubkey K key key' = true ↔
    K.toLowerCase (toXOnly key) = K.toLowerCase (toXOnly key') := by
  rw [sameXOnlyPubkey, beq_iff_eq]

theorem listsKey_of_reads (hreads : Reads (tags.map stringTag) c) (hkey : key ∈ data :: c.pubkeys) :
    ListsKey data tags key := by
  rcases List.mem_cons.mp hkey with rfl | hkey
  · exact .inl rfl
  · exact .inr (mem_of_readsMembers hreads.pubkeys hkey)

theorem mem_readAll_of_listsKey (h : ListsKey data tags key) :
    key ∈ data :: (readAll (tags.map stringTag)).pubkeys := by
  rcases h with rfl | ⟨keys, hkeys, hmem⟩
  · exact List.mem_cons_self
  · exact List.mem_cons_of_mem _
      (List.mem_flatten.mpr ⟨keys, mem_occurrences_strings.mpr hkeys, hmem⟩)

theorem FrostTags.providerWithGroup {values : List String}
    (h : FrostTags K groupPubkey providerPubkey data tags) (hvalues : "n_sigs" :: values ∈ tags)
    (hkey : ListsKey data tags key) (hprovider : sameXOnlyPubkey K key providerPubkey = true)
    (hreads : Reads (tags.map stringTag) c) :
    ProviderWithGroup K groupPubkey providerPubkey data c := by
  have hsigs : sigsNeeded c.nSigs = 2 := by
    refine sigsNeeded_of_tags (fun values' htag => (h.nSigs values' htag).2) (fun hnone => ?_)
      hreads.nSigs
    -- some value is read, since no tag is bare
    obtain ⟨members, hmembers, hnil⟩ := hnone ▸ hreads.nSigs
    exact absurd hnil
      (readsMembers_ne_nil hvalues (fun values' htag => (h.nSigs values' htag).1) hmembers)
  refine ⟨fun a hearly hspends => ?_, fun key' hkey' => ?_, hsigs,
    refundGiven_iff.mpr h.refund c hreads⟩
  · rcases hspends with hsigned | hrefund
    · rw [hsigs, SpendAttempt.two_le_signatures] at hsigned
      obtain ⟨k, hk, k', hk', hne, hs, hs'⟩ := hsigned
      rcases h.keys k k' (listsKey_of_reads hreads hk) (listsKey_of_reads hreads hk') hne with
        ⟨hp, hg⟩ | ⟨hg, hp⟩
      · exact ⟨⟨k, hp, hs⟩, k', hg, hs'⟩
      · exact ⟨⟨k', hp, hs'⟩, k, hg, hs⟩
    · exact absurd hrefund (hearly.not_refunds c)
  · by_cases hsame : key' = key
    · exact .inl (hsame ▸ hprovider)
    · rcases h.keys key' key (listsKey_of_reads hreads hkey') hkey hsame with ⟨hp, -⟩ | ⟨hg, -⟩
      · exact .inl hp
      · exact .inr hg

def signedByTwo (key key' : String) : SpendAttempt where
  preimage := false
  signed k := k = key || k = key'
  passed _ := false

theorem frostTags_of_providerWithGroup
    (h : ∀ c, Reads (tags.map stringTag) c →
      ProviderWithGroup K groupPubkey providerPubkey data c) :
    FrostTags K groupPubkey providerPubkey data tags := by
  have hall := h _ (reads_readAll (tags.map stringTag))
  refine ⟨fun key key' hkey hkey' hne => ?_, fun values hvalues => ⟨fun hnil => ?_, fun v hv => ?_⟩,
    refundGiven_iff.mp fun c hreads => (h c hreads).refund⟩
  · have hmem := mem_readAll_of_listsKey hkey
    have hmem' := mem_readAll_of_listsKey hkey'
    have htwo : 2 ≤ (signedByTwo key key').signatures
        (data :: (readAll (tags.map stringTag)).pubkeys) :=
      SpendAttempt.two_le_signatures.mpr
        ⟨key, hmem, key', hmem', hne, by simp [signedByTwo], by simp [signedByTwo]⟩
    obtain ⟨⟨kp, hp, hsp⟩, kg, hg, hsg⟩ := hall.spends (signedByTwo key key') (fun _ => rfl)
      (.inl (by rw [hall.signatures]; exact htwo))
    simp only [signedByTwo, Bool.or_eq_true, decide_eq_true_eq] at hsp hsg
    have hkeys := hall.keys key hmem
    have hkeys' := hall.keys key' hmem'
    simp only [sameXOnlyPubkey_iff] at hp hg hkeys hkeys' ⊢
    -- when one key is both, Provider and group have the same key
    rcases hsp with rfl | rfl <;> rcases hsg with rfl | rfl
    · rcases hkeys' with hk | hk
      · exact .inr ⟨hg, hk⟩
      · exact .inl ⟨hp, hk⟩
    · exact .inl ⟨hp, hg⟩
    · exact .inr ⟨hg, hp⟩
    · rcases hkeys with hk | hk
      · exact .inl ⟨hk, hg⟩
      · exact .inr ⟨hk, hp⟩
  · -- a bare tag may be read as no number at all
    have hone := (h { readAll (tags.map stringTag) with nSigs := none }
      { reads_readAll (tags.map stringTag) with
        nSigs := ⟨values, readsMembers_of_tag hvalues, hnil⟩ }).signatures
    cases hone
  · exact (h { readAll (tags.map stringTag) with nSigs := some v }
      { reads_readAll (tags.map stringTag) with nSigs := readsValue_of_tag hvalues hv }).signatures

theorem readStringTags_strings (tags : List (List String)) :
    FrostEscrow.readStringTags (some (.arr (tags.map stringTag))) = tags := by
  have hread : ∀ tag, tagStrings? (stringTag tag) = some tag := fun tag =>
    tagStrings?_eq_some.mpr rfl
  simp [FrostEscrow.readStringTags, List.filterMap_map, hread]

theorem listsKey_of_lockPubkeys {body : Json} (hdata : body.get? "data" = some (.str data))
    (htags : body.get? "tags" = some (.arr (tags.map stringTag)))
    (hkey : key ∈ FrostEscrow.lockPubkeys body) : ListsKey data tags key := by
  rw [FrostEscrow.lockPubkeys, htags, readStringTags_strings] at hkey
  rcases List.mem_append.mp hkey with hkey | hkey
  · rw [Json.string?, hdata] at hkey
    exact .inl (List.mem_singleton.mp hkey)
  · cases hfind : FrostEscrow.findTag tags "pubkeys" with
    | none =>
      rw [hfind] at hkey
      cases hkey
    | some tag =>
      obtain ⟨keys, rfl, hmem⟩ := FrostEscrow.findTag_eq_some hfind
      rw [hfind] at hkey
      exact .inr ⟨keys, hmem, hkey⟩

theorem FrostEscrow.Passes.lockHolds_iff
    (h : FrostEscrow.Passes K groupPubkey providerPubkey proof) :
    FrostLockHolds K groupPubkey providerPubkey proof ↔
      ∃ data tags, WellKnown K.text proof.secret "P2PK" data tags ∧
        FrostTags K groupPubkey providerPubkey data tags := by
  obtain ⟨body, rest, hparse, ⟨more, hsigs⟩, ⟨key, hkey, hprovider⟩, -⟩ := h
  constructor
  · rintro ⟨data, tags, hsecret, hboth⟩
    exact ⟨data, tags, hsecret, frostTags_of_providerWithGroup hboth⟩
  · rintro ⟨data, tags, hsecret, htags⟩
    have hsecret' := hsecret
    obtain ⟨body', hparse', hdata, hbody⟩ := hsecret'
    rw [hparse] at hparse'
    obtain ⟨⟩ := hparse'
    rw [hbody, readStringTags_strings] at hsigs
    obtain ⟨-, -, hvalues⟩ := FrostEscrow.findTag_eq_some hsigs
    exact ⟨data, tags, hsecret, fun c hreads =>
      htags.providerWithGroup hvalues (listsKey_of_lockPubkeys hdata hbody hkey) hprovider hreads⟩

end

/-- The version 3 text of a token. -/
def encodeToken (proofs : List Proof) : String :=
  let proofJson : Proof → Json := fun proof =>
    .obj [("id", .str "00ad268c4d1f5826"), ("amount", .num proof.amount),
      ("secret", .str proof.secret), ("C", .str "02")]
  let json : Json :=
    .obj [("token", .arr [.obj [("mint", .str "https://m.test"),
      ("proofs", .arr (proofs.map proofJson))]]), ("unit", .str "sat")]
  let base64 := (base64Encode (utf8 (json.stringify .safeIntegers))).toList.filter (· ≠ '=')
  "cashuA" ++ String.ofList (base64.map fun c => if c = '+' then '-' else if c = '/' then '_' else c)

/-- The library, which decodes one token. -/
def tokenTools (proofs : List Proof) : FrostTools where
  text := .safeIntegers
  sha256 := plainTools.sha256
  getDecodedToken token := if token = encodeToken proofs then some proofs else none
  toLowerCase := plainTools.toLowerCase

theorem getDecodedToken_tokenTools (proofs : List Proof) :
    (tokenTools proofs).getDecodedToken (encodeToken proofs) = some proofs := by
  simp only [tokenTools, if_true]

def secretOf (kind data : String) (tags : List (List String)) : String :=
  (Json.arr [.str kind, .obj [("nonce", .str "5d11"), ("data", .str data),
    ("tags", .arr (tags.map stringTag))]]).stringify .safeIntegers

theorem wellKnown_secretOf (kind data : String) (tags : List (List String)) :
    WellKnown .safeIntegers (secretOf kind data tags) kind data tags := by
  have htags : Json.DoublesElems .safeIntegers (tags.map stringTag) := by
    rw [Json.doublesElems_iff]
    intro v hv
    obtain ⟨members, _, rfl⟩ := List.mem_map.mp hv
    exact doubles_stringTag members
  refine ⟨_, Json.parse_stringify ?_, rfl, rfl⟩
  simp [Json.Doubles, Json.DoublesElems, Json.DoublesMembers, htags]

def providerKey : String := "02c6047f9441ed7d6d3045406e95c07cd85c778e4b8cef3ca7abac09b95c709ee5"
def customerKey : String := "02f9308a019258c31049344f85f89d5229b531c845836f99b08601f113bce036f9"
def strangerKey : String := "02e493dbf1c10d80f3581e4904930b1404cc6c13900ee0758474fa94abe8c4cd13"
def lockHash : String := "e3b0c44298fc1c149afbf4c8996fb92427ae41e4649b934ca495991b7852b855"

/-- The Customer is refunded after the locktime. -/
def refundTags : List (List String) := [["locktime", "2000"], ["refund", customerKey]]

/-- A proof that lists these keys. -/
def htlcProof (keys : List String) : Proof where
  amount := .ofInt 1
  secret := secretOf "HTLC" lockHash (("pubkeys" :: keys) :: refundTags)

/-- A proof that lists these keys and needs two signatures. -/
def p2pkProof (keys : List String) (more : List (List String)) : Proof where
  amount := .ofInt 1
  secret := secretOf "P2PK" providerKey (("pubkeys" :: keys) :: ["n_sigs", "2"] :: more)

def plainErrors : ErrorTexts where
  decode _ := "Token version is not supported"
  parse _ := "Unexpected token"

/-- The proof in a token. -/
def storedToken (proof : Proof) : JsMap String String :=
  JsMap.empty.set "ref" (encodeToken [proof])

theorem accepted_p2pkProof (others : List String) (more : List (List String)) :
    FrostEscrow.verifyLock (tokenTools [p2pkProof (plainGroup :: others) more]) plainErrors
      plainGroup (storedToken (p2pkProof (plainGroup :: others) more)) "ref" lockHash providerKey =
      .ok := by
  rw [FrostEscrow.verifyLock_ok]
  refine ⟨_, _, JsMap.get?_set_self _ _ _, getDecodedToken_tokenTools _, ?_⟩
  intro proof hproof
  obtain rfl := List.mem_singleton.mp hproof
  obtain ⟨body, hparse, hdata, htags⟩ := wellKnown_secretOf "P2PK" providerKey
    (("pubkeys" :: plainGroup :: others) :: ["n_sigs", "2"] :: more)
  have hkeys : FrostEscrow.lockPubkeys body = providerKey :: plainGroup :: others := by
    rw [FrostEscrow.lockPubkeys, Json.string?, hdata, htags, readStringTags_strings]
    rfl
  refine ⟨body, [], hparse, ⟨[], ?_⟩, ⟨providerKey, ?_, ?_⟩, plainGroup, ?_, ?_⟩
  · rw [htags, readStringTags_strings]
    rfl
  · rw [hkeys]
    exact List.mem_cons_self
  · exact sameXOnlyPubkey_iff.mpr rfl
  · rw [hkeys]
    exact List.mem_cons_of_mem _ List.mem_cons_self
  · exact sameXOnlyPubkey_iff.mpr rfl

end Anchr.Payments
