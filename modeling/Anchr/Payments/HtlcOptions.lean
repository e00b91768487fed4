import Anchr.Infra.JsonRoundtrip
import Anchr.Payments.PaymentLock

/-!
# HTLC options and the secrets a wallet renders from them

The option builders of `payments/cashu/cashu-htlc-options.ts` and `buildHtlcP2PKOptions` of
`adapters/cashu.ts`. They call the `P2PKBuilder` of cashu-ts, which is outside the repository: what
is assumed of its keys is `BuilderKeys`, and of the secrets made from the options `Renders`.
-/

namespace Anchr.Payments

open Infra

/-! ## Options -/

/-- The form in which the builder stores a key: an x-only key gets the even prefix byte. -/
structure BuilderKeys where
  normalize : String → String
  normalize_xonly : ∀ key, isHex 64 key = true → normalize key = "02" ++ key

inductive SigFlag where
  | sigInputs
  | sigAll
  deriving DecidableEq

def SigFlag.text : SigFlag → String
  | .sigInputs => "SIG_INPUTS"
  | .sigAll => "SIG_ALL"

/-- The options of a lock. -/
structure P2PKOptions where
  hashlock : Option String := none
  pubkeys : List String := []
  requiredSignatures : Option Nat := none
  locktime : Option JsNumber := none
  refundKeys : List String := []
  requiredRefundSignatures : Option Nat := none
  sigFlag : Option SigFlag := none

namespace P2PKOptions

variable (B : BuilderKeys)

def addHashlock (hash : String) (o : P2PKOptions) : P2PKOptions := { o with hashlock := some hash }

def addLockPubkey (pubkey : String) (o : P2PKOptions) : P2PKOptions :=
  { o with pubkeys := o.pubkeys ++ [B.normalize pubkey] }

def requireLockSignatures (n : Nat) (o : P2PKOptions) : P2PKOptions :=
  { o with requiredSignatures := some n }

def lockUntil (locktime : JsNumber) (o : P2PKOptions) : P2PKOptions :=
  { o with locktime := some locktime }

def addRefundPubkey (pubkey : String) (o : P2PKOptions) : P2PKOptions :=
  { o with refundKeys := o.refundKeys ++ [B.normalize pubkey] }

def requireRefundSignatures (n : Nat) (o : P2PKOptions) : P2PKOptions :=
  { o with requiredRefundSignatures := some n }

def sigAll (o : P2PKOptions) : P2PKOptions := { o with sigFlag := some .sigAll }

end P2PKOptions

structure HtlcProviderBindParams where
  hash : String
  providerPubkey : String
  customerRefundPubkey : String
  locktimeSeconds : JsNumber

/-- The options of the Provider-bound lock. -/
def buildHtlcFinalOptions (B : BuilderKeys) (params : HtlcProviderBindParams) : P2PKOptions :=
  ({} : P2PKOptions)
    |>.addHashlock params.hash
    |>.addLockPubkey B params.providerPubkey
    |>.requireLockSignatures 1
    |>.lockUntil params.locktimeSeconds
    |>.addRefundPubkey B params.customerRefundPubkey
    |>.requireRefundSignatures 1
    |>.sigAll

/-- `BindProviderParams`, with the members that reach the options. -/
structure BindProviderParams where
  hashHex : String
  providerPubkey : String
  customerPubkey : String
  locktimeSeconds : JsNumber

/-- The options of the client's `bindProvider`. -/
def buildHtlcP2PKOptions (B : BuilderKeys) (p : BindProviderParams) : P2PKOptions :=
  buildHtlcFinalOptions B
    { hash := p.hashHex
      providerPubkey := p.providerPubkey
      customerRefundPubkey := p.customerPubkey
      locktimeSeconds := p.locktimeSeconds }

/-! ## Secrets -/

/-- A tag of strings. -/
def stringTag (members : List String) : Json := .arr (members.map .str)

def htlcSecret (nonce hash : String) (tags : List (List String)) : Json :=
  .arr [.str "HTLC",
    .obj [("nonce", .str nonce), ("data", .str hash), ("tags", .arr (tags.map stringTag))]]

/-- A tag with the given members, when there are any. -/
def memberTag (name : String) (members : List String) : List (List String) :=
  if members.isEmpty then [] else [name :: members]

def P2PKOptions.countTags (o : P2PKOptions) : List (List String) :=
  memberTag "n_sigs" (o.requiredSignatures.toList.map fun n => String.ofList (natChars n)) ++
  memberTag "n_sigs_refund"
    (o.requiredRefundSignatures.toList.map fun n => String.ofList (natChars n))

def P2PKOptions.lockTags (T : NumberText) (o : P2PKOptions) : List (List String) :=
  memberTag "pubkeys" o.pubkeys ++
  memberTag "locktime" (o.locktime.toList.map T.toString) ++
  memberTag "refund" o.refundKeys ++
  memberTag "sigflag" (o.sigFlag.toList.map SigFlag.text)

/--
The secret is a NUT-14 rendering of the options: the hash verbatim, and one tag for each option in
any order. A signature count of one is the default and may be left out.
-/
def Renders (T : NumberText) (o : P2PKOptions) (secret : String) : Prop :=
  ∃ nonce hash counts tags, o.hashlock = some hash ∧
    counts.Sublist o.countTags ∧
    (∀ tag ∈ o.countTags, tag ∉ counts → tag[1]? = some "1") ∧
    tags.Perm (o.lockTags T ++ counts) ∧
    secret = (htlcSecret nonce hash tags).stringify T

/-! ## Reading a rendered secret -/

variable {T : NumberText}

theorem doubles_stringTag (members : List String) : (stringTag members).Doubles T := by
  rw [stringTag, Json.Doubles, Json.doublesElems_iff]
  intro v hv
  obtain ⟨s, _, rfl⟩ := List.mem_map.mp hv
  trivial

theorem parse_htlcSecret (nonce hash : String) (tags : List (List String)) :
    Json.parse T ((htlcSecret nonce hash tags).stringify T)
      = some (htlcSecret nonce hash tags) := by
  apply Json.parse_stringify
  have htags : Json.DoublesElems T (tags.map stringTag) := by
    rw [Json.doublesElems_iff]
    intro v hv
    obtain ⟨members, _, rfl⟩ := List.mem_map.mp hv
    exact doubles_stringTag members
  simp [htlcSecret, Json.Doubles, Json.DoublesElems, Json.DoublesMembers, htags]

/-- The tag search on a list of string tags. -/
theorem findSecretTag_strings (tags : List (List String)) (name : String) :
    findSecretTag (some (.arr (tags.map stringTag))) name
      = tags.find? fun tag => tag.head? = some name := by
  show (tags.map stringTag).findSome? _ = _
  induction tags with
  | nil => rfl
  | cons tag tags ih =>
    have htag : tagStrings? (stringTag tag) = some tag := tagStrings?_eq_some.mpr rfl
    rw [List.map_cons, List.findSome?_cons, List.find?_cons, htag]
    by_cases h : tag.head? = some name
    · simp [Option.filter_some, h]
    · simp [Option.filter_some, h, ih]

variable {tags : List (List String)}

theorem findSecretTag_of_mem {name : String} {members : List String}
    (hnodup : (tags.map List.head?).Nodup) (hmem : (name :: members) ∈ tags) :
    findSecretTag (some (.arr (tags.map stringTag))) name = some (name :: members) := by
  rw [findSecretTag_strings]
  induction tags with
  | nil => cases hmem
  | cons tag tags ih =>
    rw [List.map_cons, List.nodup_cons] at hnodup
    rw [List.find?_cons]
    rcases List.mem_cons.mp hmem with rfl | hmem
    · simp
    · have hne : tag.head? ≠ some name := by
        intro h
        exact hnodup.1 (h ▸ List.mem_map.mpr ⟨_, hmem, rfl⟩)
      simp [hne, ih hnodup.2 hmem]

theorem proofPasses_htlcSecret {params : VerifyProviderPaymentLockParams}
    {nonce hash expectedHash : String} {amount : JsNumber} :
    ProofPasses T params expectedHash ⟨amount, (htlcSecret nonce hash tags).stringify T⟩ ↔
      hash = expectedHash ∧ TagsPass T params (some (.arr (tags.map stringTag))) := by
  unfold ProofPasses
  rw [parse_htlcSecret]
  constructor
  · rintro ⟨body, more, hparse, hdata, htags⟩
    obtain ⟨⟩ := hparse
    obtain ⟨⟩ := hdata
    exact ⟨rfl, htags⟩
  · rintro ⟨rfl, htags⟩
    exact ⟨_, [], rfl, rfl, htags⟩

end Anchr.Payments
