import Anchr.Infra.JsMap
import Anchr.Infra.Machine

/-!
# Tables of single-use entries

A table whose entries are stored under ids never given before.
-/

namespace Anchr.Infra

variable {ν ε : Type}

structure TicketTable (ν : Type) where
  entries : JsMap String ν := .empty
  /-- The ids given so far. No code reads it. -/
  issued : List String := []

namespace TicketTable

def store (T : TicketTable ν) (id : String) (v : ν) : TicketTable ν where
  entries := T.entries.set id v
  issued := id :: T.issued

def consume (T : TicketTable ν) (id : String) : TicketTable ν :=
  { T with entries := T.entries.delete id }

/-- What the history `tr` says about the table; `P` is what it says about an entry. -/
structure Explained (made : ε → Option String) (used : ε → Option String)
    (P : List ε → String → ν → Prop) (tr : List ε) (T : TicketTable ν) : Prop where
  origin : ∀ id v, T.entries.get? id = some v → P tr id v
  unused : ∀ id v, T.entries.get? id = some v → ∀ e ∈ tr, used e ≠ some id
  issued : ∀ id v, T.entries.get? id = some v → id ∈ T.issued
  made : ∀ e ∈ tr, ∀ id, made e = some id → id ∈ T.issued
  used : ∀ e ∈ tr, ∀ id, used e = some id → id ∈ T.issued

variable {made used : ε → Option String} {P : List ε → String → ν → Prop} {tr evs : List ε}
  {T : TicketTable ν} {id : String}

theorem Explained.init : Explained made used P [] ({} : TicketTable ν) where
  origin id v h := by cases h
  unused id v h := by cases h
  issued id v h := by cases h
  made e he := by cases he
  used e he := by cases he

theorem Explained.keep (hP : ∀ {id v}, P tr id v → P (tr ++ evs) id v)
    (h : Explained made used P tr T) (hmade : ∀ e ∈ evs, made e = none)
    (hused : ∀ e ∈ evs, used e = none) : Explained made used P (tr ++ evs) T where
  origin id v hget := hP (h.origin id v hget)
  unused id v hget e he := by
    rcases List.mem_append.mp he with he | he
    · exact h.unused id v hget e he
    · rw [hused e he]
      exact Option.some_ne_none id ∘ Eq.symm
  issued := h.issued
  made e he id hid := by
    rcases List.mem_append.mp he with he | he
    · exact h.made e he id hid
    · rw [hmade e he] at hid
      cases hid
  used e he id hid := by
    rcases List.mem_append.mp he with he | he
    · exact h.used e he id hid
    · rw [hused e he] at hid
      cases hid

theorem Explained.store {v : ν} (hP : ∀ {id v}, P tr id v → P (tr ++ evs) id v)
    (h : Explained made used P tr T) (hfresh : id ∉ T.issued) (hv : P (tr ++ evs) id v)
    (hmade : ∀ e ∈ evs, ∀ id', made e = some id' → id' = id) (hused : ∀ e ∈ evs, used e = none) :
    Explained made used P (tr ++ evs) (T.store id v) := by
  refine ⟨fun id' v' hget => ?_, fun id' v' hget e he heq => ?_, fun id' v' hget => ?_,
    fun e he id' hid => ?_, fun e he id' hid => ?_⟩
  · rcases JsMap.get?_of_set hget with ⟨rfl, rfl⟩ | hget
    · exact hv
    · exact hP (h.origin id' v' hget)
  · rcases List.mem_append.mp he with he | he
    · rcases JsMap.get?_of_set hget with ⟨rfl, -⟩ | hget
      · exact hfresh (h.used e he _ heq)
      · exact h.unused id' v' hget e he heq
    · rw [hused e he] at heq
      cases heq
  · rcases JsMap.get?_of_set hget with ⟨rfl, -⟩ | hget
    · exact List.mem_cons_self
    · exact List.mem_cons_of_mem _ (h.issued id' v' hget)
  · rcases List.mem_append.mp he with he | he
    · exact List.mem_cons_of_mem _ (h.made e he id' hid)
    · rw [hmade e he id' hid]
      exact List.mem_cons_self
  · rcases List.mem_append.mp he with he | he
    · exact List.mem_cons_of_mem _ (h.used e he id' hid)
    · rw [hused e he] at hid
      cases hid

theorem Explained.consume {v : ν} (hP : ∀ {id v}, P tr id v → P (tr ++ evs) id v)
    (h : Explained made used P tr T) (hget : T.entries.get? id = some v)
    (hmade : ∀ e ∈ evs, made e = none) (hused : ∀ e ∈ evs, ∀ id', used e = some id' → id' = id) :
    Explained made used P (tr ++ evs) (T.consume id) := by
  refine ⟨fun id' v' hget' => ?_, fun id' v' hget' e he heq => ?_, fun id' v' hget' => ?_,
    fun e he id' hid => ?_, fun e he id' hid => ?_⟩
  · exact hP (h.origin id' v' (JsMap.get?_of_delete hget'))
  · rcases List.mem_append.mp he with he | he
    · exact h.unused id' v' (JsMap.get?_of_delete hget') e he heq
    · rw [hused e he id' heq] at hget'
      simp [TicketTable.consume] at hget'
  · exact h.issued id' v' (JsMap.get?_of_delete hget')
  · rcases List.mem_append.mp he with he | he
    · exact h.made e he id' hid
    · rw [hmade e he] at hid
      cases hid
  · rcases List.mem_append.mp he with he | he
    · exact h.used e he id' hid
    · rw [hused e he id' hid]
      exact h.issued id v hget

theorem Explained.forget (h : Explained made used P tr T) (id : String) :
    Explained made used P tr (T.consume id) where
  origin id' v hget := h.origin id' v (JsMap.get?_of_delete hget)
  unused id' v hget := h.unused id' v (JsMap.get?_of_delete hget)
  issued id' v hget := h.issued id' v (JsMap.get?_of_delete hget)
  made := h.made
  used := h.used

end TicketTable

/-- An id is made by one event. -/
theorem eq_of_made {made : ε → Option String} {id : String} : ∀ {tr : List ε},
    (tr.filterMap made).Nodup → ∀ {e e' : ε}, e ∈ tr → e' ∈ tr → made e = some id →
      made e' = some id → e = e'
  | [], _, _, _, he, _, _, _ => absurd he List.not_mem_nil
  | first :: rest, hnodup, e, e', he, he', hmade, hmade' => by
    -- an event of the rest that makes the id keeps the first one from making it
    have hlater : ∀ x ∈ rest, made x = some id → made first ≠ some id := by
      intro x hx hid hfirst
      rw [List.filterMap_cons_some hfirst, List.nodup_cons] at hnodup
      exact hnodup.1 (List.mem_filterMap.mpr ⟨x, hx, hid⟩)
    have hrest : (rest.filterMap made).Nodup := by
      cases hfirst : made first with
      | none => rwa [List.filterMap_cons_none hfirst] at hnodup
      | some id' =>
        rw [List.filterMap_cons_some hfirst, List.nodup_cons] at hnodup
        exact hnodup.2
    rcases List.mem_cons.mp he with rfl | hmem
    · rcases List.mem_cons.mp he' with rfl | hmem'
      · rfl
      · exact absurd hmade (hlater e' hmem' hmade')
    · rcases List.mem_cons.mp he' with rfl | hmem'
      · exact absurd hmade' (hlater e hmem hmade)
      · exact eq_of_made hrest hmem hmem' hmade hmade'

end Anchr.Infra
