import Anchr.Infra.JsonRoundtrip
import Anchr.Infra.WriteBehind
import Anchr.Payments.PreimageStore

/-!
# The persistent preimage store

`createPersistencePreimageStore` keeps its entries in memory and in a JSON file, which it replaces
as a whole on every `create` and `delete` (`replaceTextFileAtomically` of `internal/runtime/fs.ts`).

A hash has 64 digits, so none of the keys is an array index and the object keeps their order.
-/

namespace Anchr.Payments

open Infra

def PreimageEntry.toJson (entry : PreimageEntry) : Json :=
  .obj [("hash", .str entry.hash), ("preimage", .str entry.preimage),
    ("created_at", .num entry.createdAt)]

def PreimageEntry.ofJson (j : Json) : Option PreimageEntry := do
  let hash ← j.string? "hash"
  let preimage ← j.string? "preimage"
  let createdAt ← j.number? "created_at"
  some { hash, preimage, createdAt }

@[simp] theorem PreimageEntry.ofJson_toJson (entry : PreimageEntry) :
    ofJson entry.toJson = some entry := rfl

variable (T : NumberText)

/-- `JSON.stringify({ entries: Object.fromEntries(entries) }, null, 2)`. -/
def fileText (entries : JsMap String PreimageEntry) : String :=
  (Json.obj [("entries", .obj (entries.entries.map fun e => (e.1, e.2.toJson)))]).stringifyIndent T 2

/-- The entries of a parsed file, `Object.entries(data.entries)`. -/
def fileEntries (data : Json) : Option (List (String × PreimageEntry)) :=
  match data.get? "entries" with
  | some (.obj members) => members.mapM fun m => (PreimageEntry.ofJson m.2).map fun e => (m.1, e)
  | _ => none

/-- `loadFromPersistence`. There is no file before the first replacement. -/
def loadFromPersistence : Option String → Option (JsMap String PreimageEntry)
  | none => some .empty
  | some text => ((Json.parse T text).bind fileEntries).map JsMap.ofEntries

variable {T}

def Timed (T : NumberText) (entries : JsMap String PreimageEntry) : Prop :=
  ∀ hash entry, entries.get? hash = some entry → (Json.num entry.createdAt).Doubles T

theorem doubles_members {l : List (String × PreimageEntry)}
    (h : ∀ e ∈ l, (Json.num e.2.createdAt).Doubles T) :
    Json.DoublesMembers T (l.map fun e => (e.1, e.2.toJson)) := by
  induction l with
  | nil => trivial
  | cons e l ih =>
    refine ⟨⟨trivial, trivial, h e (by simp), trivial⟩, ih fun d hd => h d (by simp [hd])⟩

theorem fileEntries_members (l : List (String × PreimageEntry)) :
    fileEntries (.obj [("entries", .obj (l.map fun e => (e.1, e.2.toJson)))]) = some l := by
  show (l.map fun e => (e.1, e.2.toJson)).mapM
    (fun m => (PreimageEntry.ofJson m.2).map fun e => (m.1, e)) = some l
  induction l with
  | nil => rfl
  | cons e l ih => simp [ih]

theorem load_fileText {entries : JsMap String PreimageEntry} (h : Timed T entries) :
    loadFromPersistence T (some (fileText T entries)) = some entries := by
  have hdoubles : (Json.obj [("entries",
      .obj (entries.entries.map fun e => (e.1, e.2.toJson)))]).Doubles T := by
    refine ⟨doubles_members fun e he => ?_, trivial⟩
    exact h e.1 e.2 ((JsMap.get?_eq_some _ _ _).mpr he)
  show ((Json.parse T (fileText T entries)).bind fileEntries).map JsMap.ofEntries = _
  rw [fileText, Json.parse_stringifyIndent hdoubles, Option.bind_some, fileEntries_members,
    Option.map_some, JsMap.ofEntries_entries]

/-! ## The store with its file -/

variable (sha256 : List UInt8 → List UInt8) (T)

/-- Entries that can be written: `Date.now()` is a double. -/
structure TimedStore extends PreimageStore sha256 where
  timed : Timed T entries

/-- A value of `Date.now()`. -/
structure Instant where
  value : JsNumber
  double : (Json.num value).Doubles T

/-- The calls that change the store. -/
inductive StoreOp where
  /-- `create()`, with the bytes drawn. -/
  | create (raw : Vector UInt8 32) (now : Instant T)
  | delete (hash : String)

variable {sha256 T}

theorem TimedStore.ext {s t : TimedStore T sha256} (h : s.entries = t.entries) : s = t := by
  obtain ⟨⟨_, _⟩, _⟩ := s
  obtain ⟨⟨_, _⟩, _⟩ := t
  cases h
  rfl

instance : DecidableEq (TimedStore T sha256) := fun s t =>
  decidable_of_iff (s.entries.entries = t.entries.entries)
    ⟨fun h => TimedStore.ext (JsMap.ext h), fun h => by rw [h]⟩

/-- What `create` and `delete` do before their `await`. -/
def TimedStore.apply (s : TimedStore T sha256) : StoreOp T → TimedStore T sha256
  | .create raw now =>
    { s.toPreimageStore.create raw now.value with
      timed := by
        intro hash entry h
        rcases JsMap.get?_of_set h with ⟨-, rfl⟩ | hold
        · exact now.double
        · exact s.timed hash entry hold }
  | .delete hash =>
    { s.toPreimageStore.delete hash with
      timed := fun hash' entry h => s.timed hash' entry (JsMap.get?_of_delete h) }

variable (T sha256)

/-- `createPersistencePreimageStore`, from the time it has been opened. -/
def preimageFile : Machine (WriteBehind (TimedStore T sha256) (StoreOp T) String)
    (WriteAction (StoreOp T) String) Empty :=
  writeBehind TimedStore.apply fun s => fileText T s.entries

end Anchr.Payments
