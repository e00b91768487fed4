import Anchr.Payments.PreimageStore

/-!
# What `verify` takes for a preimage

`verify` is to accept the stored preimage, in either letter case, and to answer `false` to every
other string. It reads the string two characters at a time and with `parseInt`. A string in which no
two characters stand beside each other on one line makes it throw; an odd last character, a sign, a
space, a `0x` or a character that is no digit may pass unseen.
-/

namespace Anchr.Payments

open Infra

/-- A string of 64 hexadecimal digits that is `s` up to letter case. -/
def IsPreimage (s : String) (p : List UInt16) : Prop :=
  p.length = 64 ∧ (∀ u ∈ p, (hexUnit u).isSome) ∧ p.map lowerUnit = codeUnits s

instance (s : String) (p : List UInt16) : Decidable (IsPreimage s p) :=
  decidable_of_iff (p.length = 64 ∧ (p.all fun u => (hexUnit u).isSome) ∧
    p.map lowerUnit = codeUnits s) (by simp [IsPreimage])

variable {p : List UInt16}

theorem IsPreimage.hexText {s : String} (h : IsPreimage s p) : HexText p :=
  ⟨by rw [h.1], h.2.1⟩

theorem IsPreimage.looseBytes {bytes : List UInt8} {p : List UInt16}
    (h : IsPreimage (bytesToHex bytes) p) : looseBytes p = bytes := by
  rw [← looseBytes_lowerUnits h.hexText, h.2.2, looseBytes_codeUnits]

theorem isPreimage_of_looseBytes {raw : Vector UInt8 32} (hp : HexText p)
    (h : looseBytes p = raw.toList) : IsPreimage (bytesToHex raw.toList) p := by
  have hlower : p.map lowerUnit = raw.toList.flatMap unitsOfByte := by
    rw [lowerUnits_of_looseBytes hp, h]
  have hlength := congrArg List.length hlower
  rw [List.length_map, length_unitsOfBytes, Vector.length_toList] at hlength
  exact ⟨hlength, hp.2, by rw [hlower, codeUnits_bytesToHex]⟩

variable {sha256 : List UInt8 → List UInt8}

/-- Hashing loses nothing, so `verify` compares bytes. -/
theorem verifyPreimageHash_made (hsha : Function.Injective sha256) (raw : Vector UInt8 32)
    (hpairs : dotPairs p ≠ []) :
    verifyPreimageHash sha256 p (bytesToHex (sha256 raw.toList))
      = some (decide (looseBytes p = raw.toList)) := by
  have hbytes : bytesToHex (sha256 (looseBytes p)) = bytesToHex (sha256 raw.toList) ↔
      looseBytes p = raw.toList :=
    (bytesToHex_injective.comp hsha).eq_iff
  unfold verifyPreimageHash
  rw [if_neg (by simpa using hpairs), decide_eq_decide.mpr hbytes]

/-- The answer is right exactly for the strings that have a pair of characters to read, and that are
hexadecimal or do not spell the bytes of the preimage in another way. -/
theorem verify_exact_iff (hsha : Function.Injective sha256) (store : PreimageStore sha256)
    {hash s : String} (hstored : store.getPreimage hash = some s) (p : List UInt16) :
    store.verify hash p = some (decide (IsPreimage s p)) ↔
      HasPair p ∧ (HexText p ∨ ∀ bytes, s = bytesToHex bytes → ¬Spells p bytes) := by
  obtain ⟨entry, hentry, rfl⟩ := Option.map_eq_some_iff.mp hstored
  obtain ⟨hhash, raw, now, hmade⟩ := store.keyed hash entry hentry
  have hverify : store.verify hash p = verifyPreimageHash sha256 p entry.hash := by
    unfold PreimageStore.verify
    rw [hentry]
  have hpreimage : entry.preimage = bytesToHex raw.toList := by rw [hmade]; rfl
  have hdigest : entry.hash = bytesToHex (sha256 raw.toList) := by rw [hmade]; rfl
  have hspells : (∀ bytes, bytesToHex raw.toList = bytesToHex bytes → ¬Spells p bytes) ↔
      looseBytes p ≠ raw.toList := by
    rw [Ne, looseBytes_eq_iff]
    constructor
    · exact fun h => h _ rfl
    · rintro h bytes hbytes
      rwa [← bytesToHex_injective hbytes]
  rw [hverify, hdigest, hpreimage, hspells, ← dotPairs_ne_nil_iff]
  by_cases hpairs : dotPairs p = []
  · unfold verifyPreimageHash
    simp [hpairs]
  · rw [verifyPreimageHash_made hsha raw hpairs, Option.some.injEq, decide_eq_decide]
    constructor
    · intro hiff
      refine ⟨hpairs, ?_⟩
      by_cases hread : looseBytes p = raw.toList
      · exact .inl (hiff.mp hread).hexText
      · exact .inr hread
    · rintro ⟨-, hform⟩
      refine ⟨fun hread => ?_, IsPreimage.looseBytes⟩
      exact isPreimage_of_looseBytes (hform.resolve_right fun h => h hread) hread

/-! ## One stored preimage -/

def drawnText : String := "jklmnojklmnojklmnojklmnojklmnojk"

def drawnDigest : String := "e72868c135c4c3a0151abedb5fbe1f5fa7138bf0612b9a18028bb0373cce8291"

def drawn : Vector UInt8 32 := ⟨(utf8 drawnText).toArray, by decide⟩

/-- Their digest. -/
def drawnHash : List UInt8 → List UInt8 := digestTable [(drawnText, drawnDigest)]

theorem drawnHash_injective : Function.Injective drawnHash :=
  digestTable_injective (by simp) (by decide)

/-- The store with this preimage. -/
def drawnStore : PreimageStore drawnHash := PreimageStore.empty.create drawn (.fin 0)

theorem drawn_stored :
    drawnStore.getPreimage drawnDigest
      = some "6a6b6c6d6e6f6a6b6c6d6e6f6a6b6c6d6e6f6a6b6c6d6e6f6a6b6c6d6e6f6a6b" := by
  decide

/-- The preimage in capitals is accepted. -/
theorem verify_exact_capitals :
    drawnStore.verify drawnDigest
        (codeUnits "6A6B6C6D6E6F6A6B6C6D6E6F6A6B6C6D6E6F6A6B6C6D6E6F6A6B6C6D6E6F6A6B")
      = some true := by
  have hexact := (verify_exact_iff drawnHash_injective drawnStore drawn_stored
    (codeUnits "6A6B6C6D6E6F6A6B6C6D6E6F6A6B6C6D6E6F6A6B6C6D6E6F6A6B6C6D6E6F6A6B")).mpr
    ⟨dotPairs_ne_nil_iff.mp (by decide +kernel), .inl (by decide +kernel)⟩
  rw [hexact]
  decide

/-- A last odd character is dropped, and the empty string makes it throw. -/
theorem verify_not_exact :
    drawnStore.verify drawnDigest
        (codeUnits "6a6b6c6d6e6f6a6b6c6d6e6f6a6b6c6d6e6f6a6b6c6d6e6f6a6b6c6d6e6f6a6bz")
      = some true ∧
    ¬ IsPreimage "6a6b6c6d6e6f6a6b6c6d6e6f6a6b6c6d6e6f6a6b6c6d6e6f6a6b6c6d6e6f6a6b"
        (codeUnits "6a6b6c6d6e6f6a6b6c6d6e6f6a6b6c6d6e6f6a6b6c6d6e6f6a6b6c6d6e6f6a6bz") ∧
    drawnStore.verify drawnDigest (codeUnits "") = none := by
  decide +kernel

end Anchr.Payments
