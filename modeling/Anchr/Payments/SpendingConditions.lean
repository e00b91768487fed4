import Anchr.Payments.PaymentLock
import Mathlib.Data.Finset.Card
import Mathlib.Data.Finset.Dedup

/-!
# How a mint reads the tags of a secret

NUT-11 and NUT-14 spending conditions. A secret may carry several tags of one name, and the
specifications do not say which of them counts.
-/

namespace Anchr.Payments

open Infra

/-- A key in compressed form; an x-only key stands for the one with the even prefix byte. -/
def compressedKey (key : String) : String := if hasKeyPrefix key then key else "02" ++ key

theorem hasKeyPrefix_even (key : String) : hasKeyPrefix ("02" ++ key) = true := by
  simp [hasKeyPrefix]

theorem compressedKey_of_mem_p2pkVariants {key pubkey : String} (h : key ∈ p2pkVariants pubkey) :
    compressedKey key = compressedKey pubkey := by
  unfold p2pkVariants at h
  by_cases hp : hasKeyPrefix pubkey = true
  · rw [if_pos hp, List.mem_singleton] at h
    rw [h]
  · rw [if_neg hp, List.mem_pair] at h
    rcases h with rfl | rfl
    · rfl
    · simp [compressedKey, hp, hasKeyPrefix_even]

/-! ## Readings -/

/-- The string members of each tag of a name. -/
def occurrences (tags : List Json) (name : String) : List (List String) :=
  tags.filterMap fun
    | .arr (.str n :: members) =>
      if n = name then some (members.filterMap Json.asString?) else none
    | _ => none

/-- The members a mint may read for a name: those of one tag, or those of all tags. -/
def ReadsMembers (tags : List Json) (name : String) (members : List String) : Prop :=
  members = (occurrences tags name).flatten ∨ members ∈ occurrences tags name

/-- The value a mint may read for a name. -/
def ReadsValue (tags : List Json) (name : String) (value : Option String) : Prop :=
  ∃ members, ReadsMembers tags name members ∧
    match value with
    | none => members = []
    | some v => v ∈ members

structure SpendingConditions where
  pubkeys : List String
  nSigs : Option String
  locktime : Option String
  refund : List String
  nSigsRefund : Option String

/-- The conditions a mint may read from a tag list. -/
structure Reads (tags : List Json) (c : SpendingConditions) : Prop where
  pubkeys : ReadsMembers tags "pubkeys" c.pubkeys
  nSigs : ReadsValue tags "n_sigs" c.nSigs
  locktime : ReadsValue tags "locktime" c.locktime
  refund : ReadsMembers tags "refund" c.refund
  nSigsRefund : ReadsValue tags "n_sigs_refund" c.nSigsRefund

/-- What somebody brings to the mint: whether the preimage is shown, which keys have signed, and
which locktimes have passed. -/
structure SpendAttempt where
  preimage : Bool
  signed : String → Bool
  passed : String → Bool

/-- One signature is needed unless a tag says otherwise. -/
def sigsNeeded : Option String → Nat
  | none => 1
  | some v => digitsValue v.toList

/-- The signatures of different keys. -/
def SpendAttempt.signatures (a : SpendAttempt) (keys : List String) : Nat :=
  (keys.toFinset.filter fun key => a.signed key = true).card

/-- No locktime has passed. -/
def SpendAttempt.Early (a : SpendAttempt) : Prop := ∀ t, a.passed t = false

/-- The refund path is open after the locktime, to everybody when no refund key is given. -/
def SpendingConditions.Refunds (c : SpendingConditions) (a : SpendAttempt) : Prop :=
  ∃ t, c.locktime = some t ∧ a.passed t = true ∧
    (c.refund = [] ∨ sigsNeeded c.nSigsRefund ≤ a.signatures c.refund)

/-- NUT-14: the receiver path needs the preimage, and signatures if there are lock keys. -/
def SpendingConditions.SpendsHtlc (c : SpendingConditions) (a : SpendAttempt) : Prop :=
  (a.preimage = true ∧ (c.pubkeys = [] ∨ sigsNeeded c.nSigs ≤ a.signatures c.pubkeys)) ∨
    c.Refunds a

/-- NUT-11: the key in `data` is a lock key like those in the tags. -/
def SpendingConditions.SpendsP2pk (c : SpendingConditions) (data : String) (a : SpendAttempt) :
    Prop :=
  sigsNeeded c.nSigs ≤ a.signatures (data :: c.pubkeys) ∨ c.Refunds a

variable {a : SpendAttempt} {keys : List String} {tags : List Json} {name : String}

theorem SpendAttempt.Early.not_refunds (h : a.Early) (c : SpendingConditions) :
    ¬c.Refunds a := by
  rintro ⟨t, -, hpassed, -⟩
  rw [h t] at hpassed
  cases hpassed

theorem SpendAttempt.one_le_signatures :
    1 ≤ a.signatures keys ↔ ∃ key ∈ keys, a.signed key = true := by
  rw [signatures, Nat.one_le_iff_ne_zero, Finset.card_ne_zero]
  simp [Finset.Nonempty]

theorem SpendAttempt.two_le_signatures :
    2 ≤ a.signatures keys ↔ ∃ key ∈ keys, ∃ key' ∈ keys, key ≠ key' ∧ a.signed key = true ∧
      a.signed key' = true := by
  rw [signatures, Nat.succ_le_iff, Finset.one_lt_card]
  simp only [Finset.mem_filter, List.mem_toFinset]
  constructor
  · rintro ⟨key, ⟨hkey, hsigned⟩, key', ⟨hkey', hsigned'⟩, hne⟩
    exact ⟨key, hkey, key', hkey', hne, hsigned, hsigned'⟩
  · rintro ⟨key, hkey, key', hkey', hne, hsigned, hsigned'⟩
    exact ⟨key, ⟨hkey, hsigned⟩, key', ⟨hkey', hsigned'⟩, hne⟩

/-! ## One reading -/

/-- The reading that takes the tags of a name together, and the first value among them. -/
def readAll (tags : List Json) : SpendingConditions where
  pubkeys := (occurrences tags "pubkeys").flatten
  nSigs := (occurrences tags "n_sigs").flatten.head?
  locktime := (occurrences tags "locktime").flatten.head?
  refund := (occurrences tags "refund").flatten
  nSigsRefund := (occurrences tags "n_sigs_refund").flatten.head?

theorem readsValue_head {members : List String} (h : ReadsMembers tags name members) :
    ReadsValue tags name members.head? := by
  refine ⟨members, h, ?_⟩
  cases members with
  | nil => rfl
  | cons v members => exact List.mem_cons_self

theorem reads_readAll (tags : List Json) : Reads tags (readAll tags) where
  pubkeys := .inl rfl
  nSigs := readsValue_head (.inl rfl)
  locktime := readsValue_head (.inl rfl)
  refund := .inl rfl
  nSigsRefund := readsValue_head (.inl rfl)

/-! ## Tags that state one value -/

/-- Every tag of the name has one string member beside the name, and it has the property. -/
def States (tags : List Json) (name : String) (P : String → Prop) : Prop :=
  ∀ members, Json.arr (.str name :: members) ∈ tags → ∃ v, members = [.str v] ∧ P v

theorem mem_occurrences {vs : List String} :
    vs ∈ occurrences tags name ↔
      ∃ members, Json.arr (.str name :: members) ∈ tags ∧
        members.filterMap Json.asString? = vs := by
  rw [occurrences, List.mem_filterMap]
  constructor
  · rintro ⟨tag, hmem, h⟩
    split at h
    next n members =>
      by_cases hn : n = name
      · rw [if_pos hn] at h
        exact ⟨members, hn ▸ hmem, Option.some.inj h⟩
      · rw [if_neg hn] at h; cases h
    next => cases h
  · rintro ⟨members, hmem, h⟩
    exact ⟨_, hmem, by simp [h]⟩

section
variable {tags : List Json} {name : String} {P : String → Prop}

theorem States.occurrence (hs : States tags name P) {vs : List String}
    (h : vs ∈ occurrences tags name) : ∃ v, vs = [v] ∧ P v := by
  obtain ⟨members, hmem, rfl⟩ := mem_occurrences.mp h
  obtain ⟨v, rfl, hv⟩ := hs members hmem
  exact ⟨v, rfl, hv⟩

theorem States.members (hs : States tags name P) {members : List String}
    (h : ReadsMembers tags name members) : ∀ v ∈ members, P v := by
  intro v hv
  have hin : ∃ vs ∈ occurrences tags name, v ∈ vs := by
    rcases h with rfl | h
    · exact List.mem_flatten.mp hv
    · exact ⟨members, h, hv⟩
  obtain ⟨vs, hocc, hv⟩ := hin
  obtain ⟨w, rfl, hw⟩ := hs.occurrence hocc
  obtain rfl : v = w := by simpa using hv
  exact hw

theorem States.members_ne_nil (hs : States tags name P) {rest : List Json}
    (htag : Json.arr (.str name :: rest) ∈ tags) {members : List String}
    (h : ReadsMembers tags name members) : members ≠ [] := by
  rintro rfl
  rcases h with h | h
  · have hocc : rest.filterMap Json.asString? ∈ occurrences tags name :=
      mem_occurrences.mpr ⟨rest, htag, rfl⟩
    obtain ⟨v, hv, _⟩ := hs.occurrence hocc
    have hnil := List.flatten_eq_nil_iff.mp h.symm _ hocc
    rw [hv] at hnil
    cases hnil
  · obtain ⟨v, hv, _⟩ := hs.occurrence h
    cases hv

theorem States.value (hs : States tags name P) {v : String}
    (h : ReadsValue tags name (some v)) : P v := by
  obtain ⟨members, hread, hmem⟩ := h
  exact hs.members hread v hmem

theorem States.sigsNeeded_eq (hs : States tags name (· = "1")) {value : Option String}
    (h : ReadsValue tags name value) : sigsNeeded value = 1 := by
  cases value with
  | none => rfl
  | some v =>
    rw [hs.value h]
    rfl

end

end Anchr.Payments
