import Anchr.Infra.JsMap
import Anchr.Infra.JsNumber

/-!
# The replay guard

`createReplayGuard` of `proofs/replay-guard.ts`: a set of keys that forgets by age and by number.
The time of each call is an argument.
-/

namespace Anchr.Proofs

open Infra

/-- The keys with the times of their `add`. -/
structure ReplayGuard where
  retentionMs : JsNumber := .ofInt (7 * 24 * 60 * 60 * 1000)
  maxEntries : JsNumber := .ofInt 100000
  /-- Key to the time of its latest `add`, in the order of the first. -/
  seen : JsMap String JsNumber := .empty

namespace ReplayGuard

variable {α : Type}

/-- `while (seen.size > maxEntries)`: drop the oldest entry. -/
def trim (maxEntries : JsNumber) : List α → List α
  | [] => []
  | entry :: rest =>
    if maxEntries.lt (.ofInt (rest.length + 1)) then trim maxEntries rest else entry :: rest

theorem trim_suffix (maxEntries : JsNumber) : ∀ l : List α, trim maxEntries l <:+ l
  | [] => List.suffix_rfl
  | entry :: rest => by
    unfold trim
    split
    · exact (trim_suffix maxEntries rest).trans (List.suffix_cons entry rest)
    · exact List.suffix_rfl

/-- The entries that survive `evict()`. The first loop stops at the first entry that is not older
than the cutoff. -/
def survivors (g : ReplayGuard) (now : JsNumber) : List (String × JsNumber) :=
  trim g.maxEntries
    (g.seen.entries.dropWhile fun entry => !(now.sub g.retentionMs).le entry.2)

theorem survivors_sublist (g : ReplayGuard) (now : JsNumber) :
    (g.survivors now).Sublist g.seen.entries :=
  ((trim_suffix _ _).trans (List.dropWhile_suffix _)).sublist

def evict (g : ReplayGuard) (now : JsNumber) : ReplayGuard :=
  { g with seen := g.seen.restrict (g.survivors now) (g.survivors_sublist now) }

/-- What `has` answers. -/
def remembers (g : ReplayGuard) (key : String) (now : JsNumber) : Bool := (g.evict now).seen.has key

/-- The source reads the clock for the entry and again to evict; here the two readings are one. -/
def add (g : ReplayGuard) (key : String) (now : JsNumber) : ReplayGuard :=
  { g with seen := g.seen.set key now }.evict now

/-- A call of another user of the guard. -/
inductive Use where
  | has (key : String) (now : JsNumber)
  | add (key : String) (now : JsNumber)

/-- One call. -/
def use (g : ReplayGuard) : Use → ReplayGuard
  | .has _ now => g.evict now
  | .add key now => g.add key now

/-! ## What stays -/

theorem trim_eq_self {maxEntries : JsNumber} {l : List α}
    (h : maxEntries.lt (.ofInt l.length) = false) : trim maxEntries l = l := by
  cases l with
  | nil => rfl
  | cons entry rest =>
    rw [trim, if_neg]
    simpa using h

def Roomy (g : ReplayGuard) : Prop := g.maxEntries.lt (.ofInt g.seen.entries.length) = false

theorem lt_ofInt_of_le {a : JsNumber} {m n : Nat} (hle : m ≤ n)
    (h : a.lt (.ofInt n) = false) : a.lt (.ofInt m) = false := by
  cases a with
  | fin q =>
    simp only [JsNumber.lt, JsNumber.ofInt, decide_eq_false_iff_not, not_lt] at h ⊢
    have hcast : ((m : Int) : ℚ) ≤ ((n : Int) : ℚ) := by exact_mod_cast hle
    exact hcast.trans h
  | nan | posInf => rfl
  | negInf => cases h

theorem length_survivors_le (g : ReplayGuard) (now : JsNumber) :
    (g.survivors now).length ≤ g.seen.entries.length :=
  (g.survivors_sublist now).length_le

theorem Roomy.evict {g : ReplayGuard} (h : g.Roomy) (now : JsNumber) : (g.evict now).Roomy :=
  lt_ofInt_of_le (g.length_survivors_le now) h

variable {g : ReplayGuard} {now v : JsNumber} {key : String}

/-- With room, an entry that is not older than the cutoff survives. -/
theorem get?_evict_of_live (hroom : g.Roomy) (hget : g.seen.get? key = some v)
    (hlive : (now.sub g.retentionMs).le v = true) : (g.evict now).seen.get? key = some v := by
  rw [JsMap.get?_eq_some] at hget ⊢
  show (key, v) ∈ g.survivors now
  unfold survivors
  rw [trim_eq_self]
  · -- the first loop only drops entries that are too old
    have hsplit : (key, v) ∈
        g.seen.entries.takeWhile (fun entry => !(now.sub g.retentionMs).le entry.2) ++
          g.seen.entries.dropWhile fun entry => !(now.sub g.retentionMs).le entry.2 := by
      rw [List.takeWhile_append_dropWhile]
      exact hget
    rcases List.mem_append.mp hsplit with hdropped | hkept
    · have hold := List.mem_takeWhile_imp hdropped
      simp [hlive] at hold
    · exact hkept
  · exact lt_ofInt_of_le (List.length_dropWhile_le _ _) hroom

theorem length_set_le (m : JsMap String JsNumber) (key : String) (v : JsNumber) :
    (m.set key v).entries.length ≤ m.entries.length + 1 := by
  unfold JsMap.set
  split
  · rw [List.length_map]
    omega
  · rw [List.length_append, List.length_singleton]

theorem roomy_set (h : g.maxEntries.lt (.ofInt (g.seen.entries.length + 1)) = false) :
    ({ g with seen := g.seen.set key now } : ReplayGuard).Roomy := by
  refine lt_ofInt_of_le (length_set_le _ _ _) ?_
  exact_mod_cast h

theorem Roomy.add {g : ReplayGuard} {key : String} {now : JsNumber}
    (h : g.maxEntries.lt (.ofInt (g.seen.entries.length + 1)) = false) : (g.add key now).Roomy :=
  (roomy_set h).evict now

theorem get?_add {key' : String}
    (hroom : g.maxEntries.lt (.ofInt (g.seen.entries.length + 1)) = false)
    (hget : (g.seen.set key now).get? key' = some v) (hlive : (now.sub g.retentionMs).le v = true) :
    (g.add key now).seen.get? key' = some v :=
  get?_evict_of_live (roomy_set hroom) hget hlive

end ReplayGuard

end Anchr.Proofs
