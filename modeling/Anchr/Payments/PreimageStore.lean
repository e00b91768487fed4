import Anchr.Infra.CodeUnits
import Anchr.Infra.JsMap

/-!
# The preimage store

`payments/cashu/preimage-store.ts`: what both stores of the file do with their entries. SHA-256 is a
parameter.
-/

namespace Anchr.Payments

open Infra

/-- The Oracle draws a preimage and gives out its hash. -/
structure PreimageEntry where
  hash : String
  preimage : String
  createdAt : JsNumber
deriving DecidableEq

variable (sha256 : List UInt8 → List UInt8)

/-- `createPreimage` for the bytes drawn, and the entry `create` makes of it at the given time. -/
def createPreimage (raw : Vector UInt8 32) (now : JsNumber) : PreimageEntry where
  hash := bytesToHex (sha256 raw.toList)
  preimage := bytesToHex raw.toList
  createdAt := now

/-- `none` is a thrown `TypeError`: `match` gives `null` where the pattern fits nowhere. -/
def verifyPreimageHash (preimage : List UInt16) (hash : String) : Option Bool :=
  if (dotPairs preimage).isEmpty then none
  else some (decide (bytesToHex (sha256 (looseBytes preimage)) = hash))

def PreimageEntry.Made (entry : PreimageEntry) : Prop :=
  ∃ raw now, entry = createPreimage sha256 raw now

/-- The entries of a store, each made by `create` and kept under its hash. -/
structure PreimageStore where
  entries : JsMap String PreimageEntry
  keyed : ∀ hash entry, entries.get? hash = some entry → entry.hash = hash ∧ entry.Made sha256

variable {sha256}

namespace PreimageStore

def empty : PreimageStore sha256 := ⟨.empty, by simp⟩

/-- `create()` for the bytes drawn at the given time. -/
def create (store : PreimageStore sha256) (raw : Vector UInt8 32) (now : JsNumber) :
    PreimageStore sha256 where
  entries := store.entries.set (createPreimage sha256 raw now).hash (createPreimage sha256 raw now)
  keyed := by
    intro hash entry h
    rcases JsMap.get?_of_set h with ⟨rfl, rfl⟩ | hold
    · exact ⟨rfl, raw, now, rfl⟩
    · exact store.keyed hash entry hold

/-- The preimage under a hash. -/
def getPreimage (store : PreimageStore sha256) (hash : String) : Option String :=
  (store.entries.get? hash).map PreimageEntry.preimage

def has (store : PreimageStore sha256) (hash : String) : Bool := store.entries.has hash

/-- Throws in the store in memory and rejects in the persistent one: `none` is either. -/
def verify (store : PreimageStore sha256) (hash : String) (preimage : List UInt16) : Option Bool :=
  match store.entries.get? hash with
  | none => some false
  | some entry => verifyPreimageHash sha256 preimage entry.hash

def delete (store : PreimageStore sha256) (hash : String) : PreimageStore sha256 where
  entries := store.entries.delete hash
  keyed := fun hash' entry h => store.keyed hash' entry (JsMap.get?_of_delete h)

end PreimageStore

end Anchr.Payments
