import Mathlib.Data.List.Nodup
import Mathlib.Data.List.Perm.Subperm

/-!
# Insertion-ordered maps

The language's `Map`.
-/

namespace Anchr.Infra

/-- The entries carry the proof that keys do not repeat, so no lemma about a lookup needs a side
condition. -/
structure JsMap (κ ν : Type) where
  entries : List (κ × ν)
  nodup : (entries.map Prod.fst).Nodup

namespace JsMap

variable {κ ν : Type} [DecidableEq κ]

def empty : JsMap κ ν := ⟨[], List.nodup_nil⟩

/-- `map.get(key)`; `none` is `undefined`. -/
def get? (m : JsMap κ ν) (k : κ) : Option ν := (m.entries.find? fun e => e.1 = k).map Prod.snd

def has (m : JsMap κ ν) (k : κ) : Bool := (m.get? k).isSome

/-- `map.values()`, in insertion order. -/
def values (m : JsMap κ ν) : List ν := m.entries.map Prod.snd

/-- Replace the value of a present key, leaving every key in place. -/
def replace (k : κ) (v : ν) (e : κ × ν) : κ × ν := if e.1 = k then (k, v) else e

theorem map_fst_replace (k : κ) (v : ν) (l : List (κ × ν)) :
    (l.map (replace k v)).map Prod.fst = l.map Prod.fst := by
  rw [List.map_map]
  refine List.map_congr_left fun e _ => ?_
  unfold replace
  simp only [Function.comp_apply]
  split
  · next h => exact h.symm
  · rfl

/-- On a present key `set` keeps its place, on an absent key it appends. -/
def set (m : JsMap κ ν) (k : κ) (v : ν) : JsMap κ ν :=
  if h : k ∈ m.entries.map Prod.fst then
    ⟨m.entries.map (replace k v), by rw [map_fst_replace]; exact m.nodup⟩
  else
    ⟨m.entries ++ [(k, v)], by
      rw [List.map_append, List.map_singleton]
      exact List.Nodup.append m.nodup (List.nodup_singleton _)
        (by simpa [List.disjoint_singleton] using h)⟩

/-- The order of the other entries stays. -/
def delete (m : JsMap κ ν) (k : κ) : JsMap κ ν :=
  ⟨m.entries.filter fun e => e.1 ≠ k, by
    refine List.Nodup.sublist ?_ m.nodup
    exact List.Sublist.map _ List.filter_sublist⟩

/-- Only the given entries, in their order. -/
def restrict (m : JsMap κ ν) (entries : List (κ × ν)) (h : entries.Sublist m.entries) : JsMap κ ν :=
  ⟨entries, List.Nodup.sublist (h.map Prod.fst) m.nodup⟩

/-! ## Lookup -/

@[simp] theorem get?_empty (k : κ) : (empty : JsMap κ ν).get? k = none := rfl

theorem get?_eq_none (m : JsMap κ ν) (k : κ) : m.get? k = none ↔ k ∉ m.entries.map Prod.fst := by
  unfold get?
  rw [Option.map_eq_none_iff, List.find?_eq_none]
  constructor
  · intro h hk
    obtain ⟨e, he, hek⟩ := List.mem_map.mp hk
    exact h e he (by simpa using hek)
  · intro h e he hek
    exact h (List.mem_map.mpr ⟨e, he, by simpa using hek⟩)

theorem get?_eq_some (m : JsMap κ ν) (k : κ) (v : ν) : m.get? k = some v ↔ (k, v) ∈ m.entries := by
  constructor
  · intro h
    unfold get? at h
    obtain ⟨e, he, hev⟩ := Option.map_eq_some_iff.mp h
    have hmem := List.mem_of_find?_eq_some he
    have hkey : e.1 = k := by simpa using List.find?_some he
    rw [← hkey, ← hev]
    exact hmem
  · intro h
    cases hg : m.get? k with
    | none =>
      rw [get?_eq_none] at hg
      exact absurd (List.mem_map.mpr ⟨(k, v), h, rfl⟩) hg
    | some w =>
      unfold get? at hg
      obtain ⟨e, he, hew⟩ := Option.map_eq_some_iff.mp hg
      have hmem := List.mem_of_find?_eq_some he
      have hkey : e.1 = k := by simpa using List.find?_some he
      -- two entries of one key are the same entry
      have heq : e = (k, v) := List.inj_on_of_nodup_map m.nodup hmem h hkey
      rw [← hew, heq]

variable {m : JsMap κ ν} {v : ν} {k k' : κ}

theorem mem_values : v ∈ m.values ↔ ∃ k, m.get? k = some v := by
  unfold values
  constructor
  · intro h
    obtain ⟨e, he, hev⟩ := List.mem_map.mp h
    exact ⟨e.1, (get?_eq_some m e.1 v).mpr (by rw [← hev]; exact he)⟩
  · rintro ⟨k, hk⟩
    exact List.mem_map.mpr ⟨(k, v), (get?_eq_some m k v).mp hk, rfl⟩

/-! ## Update -/

theorem mem_set {e : κ × ν} :
    e ∈ (m.set k v).entries ↔ e = (k, v) ∨ (e ∈ m.entries ∧ e.1 ≠ k) := by
  unfold set
  split
  · next hk =>
    constructor
    · intro he
      obtain ⟨e', he', heq⟩ := List.mem_map.mp he
      unfold replace at heq
      split at heq
      · exact .inl heq.symm
      · next hne => exact .inr (by rw [← heq]; exact ⟨he', hne⟩)
    · rintro (rfl | ⟨he, hne⟩)
      · obtain ⟨e', he', hek⟩ := List.mem_map.mp hk
        exact List.mem_map.mpr ⟨e', he', by rw [replace, if_pos hek]⟩
      · exact List.mem_map.mpr ⟨e, he, by rw [replace, if_neg hne]⟩
  · next hk =>
    constructor
    · intro he
      rcases List.mem_append.mp he with he | he
      · refine .inr ⟨he, fun hek => hk ?_⟩
        rw [← hek]
        exact List.mem_map.mpr ⟨e, he, rfl⟩
      · exact Or.inl (by simpa using he)
    · rintro (rfl | ⟨he, -⟩)
      · exact List.mem_append.mpr (Or.inr (by simp))
      · exact List.mem_append.mpr (.inl he)

@[simp] theorem get?_set_self (m : JsMap κ ν) (k : κ) (v : ν) : (m.set k v).get? k = some v := by
  rw [get?_eq_some, mem_set]
  exact .inl rfl

theorem get?_set_ne (m : JsMap κ ν) (v : ν) (h : k' ≠ k) :
    (m.set k v).get? k' = m.get? k' := by
  refine Option.ext fun w => ?_
  rw [get?_eq_some, get?_eq_some, mem_set]
  constructor
  · rintro (he | ⟨he, -⟩)
    · exact absurd (congrArg Prod.fst he) h
    · exact he
  · exact fun he => .inr ⟨he, h⟩

theorem get?_set (m : JsMap κ ν) (k k' : κ) (v : ν) :
    (m.set k v).get? k' = if k' = k then some v else m.get? k' := by
  split
  · next h => rw [h, get?_set_self]
  · next h => exact get?_set_ne m v h

theorem get?_of_set {v' : ν} (h : (m.set k v).get? k' = some v') :
    (k' = k ∧ v' = v) ∨ m.get? k' = some v' := by
  rw [get?_set] at h
  split at h
  · next hk => exact .inl ⟨hk, (Option.some.inj h).symm⟩
  · exact .inr h

theorem get?_set_eq_none : (m.set k v).get? k' = none ↔ k' ≠ k ∧ m.get? k' = none := by
  rw [get?_set]
  split <;> simp [*]

@[simp] theorem get?_delete_self (m : JsMap κ ν) (k : κ) : (m.delete k).get? k = none := by
  rw [get?_eq_none]
  intro h
  obtain ⟨e, he, hek⟩ := List.mem_map.mp h
  exact absurd hek (by simpa using (List.mem_filter.mp he).2)

theorem get?_delete_ne (m : JsMap κ ν) (h : k' ≠ k) :
    (m.delete k).get? k' = m.get? k' := by
  refine Option.ext fun w => ?_
  rw [get?_eq_some, get?_eq_some]
  constructor
  · exact fun he => (List.mem_filter.mp he).1
  · exact fun he => List.mem_filter.mpr ⟨he, by simpa using h⟩

theorem get?_delete (m : JsMap κ ν) (k k' : κ) :
    (m.delete k).get? k' = if k' = k then none else m.get? k' := by
  split
  · next h => rw [h, get?_delete_self]
  · next h => exact get?_delete_ne m h

theorem get?_of_delete (h : (m.delete k).get? k' = some v) :
    m.get? k' = some v := by
  rw [get?_delete] at h
  split at h
  · simp at h
  · exact h

/-! ## Membership -/

theorem has_iff_mem : m.has k = true ↔ k ∈ m.entries.map Prod.fst := by
  unfold has
  rw [← not_iff_not, Bool.not_eq_true, Option.isSome_eq_false_iff, Option.isNone_iff_eq_none,
    get?_eq_none]

@[simp] theorem has_set (m : JsMap κ ν) (k k' : κ) (v : ν) :
    (m.set k v).has k' = true ↔ k' = k ∨ m.has k' = true := by
  unfold has
  rw [get?_set]
  split
  · next h => simp [h]
  · next h => simp [h]

/-- A map whose keys are all in a list and that is as long as the list has every one of them. -/
theorem has_of_length {l : List κ} (hsub : ∀ k, m.has k = true → k ∈ l)
    (hlen : l.length ≤ m.entries.length) (hk : k ∈ l) : m.has k = true := by
  have hkeys : m.entries.map Prod.fst ⊆ l := fun k hk => hsub k (has_iff_mem.mpr hk)
  have hperm := (List.Nodup.subperm m.nodup hkeys).perm_of_length_le (by simpa using hlen)
  exact has_iff_mem.mpr (hperm.mem_iff.mpr hk)

/-! ## Sweeping -/

/-- `for (const [key, value] of map) if (..) map.delete(key)`, for some of the entries. -/
theorem get?_foldl_delete (p : κ × ν → Bool) (k : κ) : ∀ (l : List (κ × ν)) (m : JsMap κ ν),
    (l.foldl (fun m e => if p e then m.delete e.1 else m) m).get? k
      = if ∃ e ∈ l, e.1 = k ∧ p e = true then none else m.get? k
  | [], m => by simp
  | e :: l, m => by
    rw [List.foldl_cons, get?_foldl_delete p k l]
    by_cases hrest : ∃ e ∈ l, e.1 = k ∧ p e = true
    · obtain ⟨d, hd, hdk⟩ := hrest
      rw [if_pos ⟨d, hd, hdk⟩, if_pos ⟨d, List.mem_cons_of_mem _ hd, hdk⟩]
    · rw [if_neg hrest]
      by_cases he : p e = true
      · rw [if_pos he, get?_delete]
        by_cases hk : k = e.1
        · rw [if_pos hk, if_pos ⟨e, List.mem_cons_self, hk.symm, he⟩]
        · rw [if_neg hk, if_neg]
          rintro ⟨d, hd, hdk, hpd⟩
          rcases List.mem_cons.mp hd with rfl | hd
          · exact hk hdk.symm
          · exact hrest ⟨d, hd, hdk, hpd⟩
      · rw [if_neg he, if_neg]
        rintro ⟨d, hd, hdk, hpd⟩
        rcases List.mem_cons.mp hd with rfl | hd
        · exact he hpd
        · exact hrest ⟨d, hd, hdk, hpd⟩

/-- The whole loop leaves the entries that do not meet the condition. -/
theorem get?_sweep (p : κ × ν → Bool) (m : JsMap κ ν) (k : κ) (v : ν) :
    (m.entries.foldl (fun m e => if p e then m.delete e.1 else m) m).get? k = some v ↔
      m.get? k = some v ∧ p (k, v) = false := by
  rw [get?_foldl_delete]
  constructor
  · intro h
    split at h
    · simp at h
    · next hnone =>
      refine ⟨h, Bool.eq_false_iff.mpr fun hp => hnone ?_⟩
      exact ⟨(k, v), (get?_eq_some m k v).mp h, rfl, hp⟩
  · rintro ⟨hget, hp⟩
    rw [if_neg, hget]
    rintro ⟨⟨k', w⟩, he, rfl, hpe⟩
    rw [(get?_eq_some m _ w).mpr he] at hget
    rw [Option.some.inj hget, hp] at hpe
    exact absurd hpe (by decide)

/-! ## From a list of entries -/

omit [DecidableEq κ] in
theorem ext {m' : JsMap κ ν} (h : m.entries = m'.entries) : m = m' := by
  cases m
  cases m'
  cases h
  rfl

theorem entries_set_of_not_mem (hk : k ∉ m.entries.map Prod.fst) (v : ν) :
    (m.set k v).entries = m.entries ++ [(k, v)] := by
  unfold set
  rw [dif_neg hk]

theorem length_le_set (m : JsMap κ ν) (k : κ) (v : ν) :
    m.entries.length ≤ (m.set k v).entries.length := by
  unfold set
  split
  next => simp
  next => simp

/-- `new Map(entries)`. -/
def ofEntries (l : List (κ × ν)) : JsMap κ ν := l.foldl (fun m e => m.set e.1 e.2) empty

theorem entries_foldl_set : ∀ (l : List (κ × ν)) (m : JsMap κ ν),
    ((m.entries ++ l).map Prod.fst).Nodup →
    (l.foldl (fun m e => m.set e.1 e.2) m).entries = m.entries ++ l
  | [], m, _ => by rw [List.foldl_nil, List.append_nil]
  | e :: l, m, hnd => by
    have hk : e.1 ∉ m.entries.map Prod.fst := by
      intro hmem
      rw [List.map_append, List.map_cons] at hnd
      exact (List.nodup_append.mp hnd).2.2 e.1 hmem e.1 (by simp) rfl
    have hset := entries_set_of_not_mem hk e.2
    rw [List.foldl_cons, entries_foldl_set l _ (by rw [hset]; simpa using hnd), hset]
    simp

theorem mem_of_foldl_set {e : κ × ν} : ∀ (l : List (κ × ν)) (m : JsMap κ ν),
    e ∈ (l.foldl (fun m e => m.set e.1 e.2) m).entries → e ∈ l ∨ e ∈ m.entries
  | [], _, h => .inr h
  | d :: l, m, h => by
    rcases mem_of_foldl_set l (m.set d.1 d.2) h with hl | hm
    · exact .inl (List.mem_cons_of_mem _ hl)
    · rcases mem_set.mp hm with rfl | ⟨hm, -⟩
      · exact .inl List.mem_cons_self
      · exact .inr hm

theorem ofEntries_entries (m : JsMap κ ν) : ofEntries m.entries = m := by
  refine ext ?_
  exact entries_foldl_set m.entries empty m.nodup

/-! ## Looping over the values

A loop over a copy of `values()` that changes, for each value, at most the entry of that value.
-/

theorem map_values_of_keyed {key : ν → κ} (hkeyed : ∀ k v, m.get? k = some v → key v = k) :
    m.values.map key = m.entries.map Prod.fst := by
  unfold values
  rw [List.map_map]
  refine List.map_congr_left fun e he => ?_
  exact hkeyed e.1 e.2 ((get?_eq_some _ _ _).mpr he)

section Loop

variable {β : Type} {π : β → JsMap κ ν} {round : β → ν → β} {key : ν → κ} {g : ν → Option ν}

/-- If one round replaces the entry of its value by what `g` says, so does the whole loop. -/
theorem get?_foldl
    (hround : ∀ acc v, (π acc).get? (key v) = some v →
      ∀ k, (π (round acc v)).get? k = if k = key v then g v else (π acc).get? k) :
    ∀ (l : List ν) (acc : β), (l.map key).Nodup → (∀ v ∈ l, (π acc).get? (key v) = some v) →
      ∀ k, (π (l.foldl round acc)).get? k
        = if k ∈ l.map key then ((π acc).get? k).bind g else (π acc).get? k
  | [], _, _, _, _ => by simp
  | v :: l, acc, hnd, hacc, k => by
    rw [List.map_cons, List.nodup_cons] at hnd
    have hv := hround acc v (hacc v (by simp))
    -- the entries of the later values are not touched by this round
    have hrest : ∀ w ∈ l, (π (round acc v)).get? (key w) = some w := by
      intro w hw
      have hne : key w ≠ key v := fun he => hnd.1 (he ▸ List.mem_map_of_mem hw)
      rw [hv, if_neg hne]
      exact hacc w (List.mem_cons_of_mem _ hw)
    rw [List.foldl_cons, get?_foldl hround l _ hnd.2 hrest, hv]
    by_cases hk : k = key v
    · subst hk
      simp [hnd.1, hacc v (by simp)]
    · simp [hk]

theorem get?_foldl_values (π : β → JsMap κ ν) (key : ν → κ) (g : ν → Option ν)
    (hround : ∀ acc v, (π acc).get? (key v) = some v →
      ∀ k, (π (round acc v)).get? k = if k = key v then g v else (π acc).get? k)
    (acc : β) (hkeyed : ∀ k v, (π acc).get? k = some v → key v = k) (k : κ) :
    (π ((π acc).values.foldl round acc)).get? k = ((π acc).get? k).bind g := by
  have hkeys := map_values_of_keyed hkeyed
  rw [get?_foldl hround _ _ (by rw [hkeys]; exact (π acc).nodup)]
  · split
    · rfl
    · next hk =>
      rw [hkeys, ← get?_eq_none] at hk
      rw [hk]
      rfl
  · intro v hv
    obtain ⟨k', hk'⟩ := mem_values.mp hv
    rw [hkeyed k' v hk']
    exact hk'

end Loop

end JsMap

end Anchr.Infra
