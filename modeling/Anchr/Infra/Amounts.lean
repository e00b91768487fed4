import Mathlib.Algebra.Order.BigOperators.Group.Multiset
import Mathlib.Data.List.Perm.Subperm
import Anchr.Infra.JsNumber

/-!
# Adding up amounts

Sums of JavaScript numbers, and when a selection of weighted items has the weight of the whole.
-/

namespace Anchr.Infra

namespace JsNumber

/-- `numbers.reduce((sum, n) => sum + n, 0)`. -/
def total (numbers : List JsNumber) : JsNumber := numbers.foldl add (.ofInt 0)

theorem foldl_add_fin (start : ℚ) : ∀ l : List ℚ,
    (l.map JsNumber.fin).foldl add (.fin start) = .fin (start + l.sum)
  | [] => by simp
  | q :: rest => by
    rw [List.map_cons, List.foldl_cons]
    show (rest.map JsNumber.fin).foldl add (.fin (start + q)) = _
    rw [foldl_add_fin (start + q) rest, List.sum_cons, add_assoc]

theorem total_fin (l : List ℚ) : total (l.map JsNumber.fin) = .fin l.sum := by
  have h := foldl_add_fin 0 l
  rw [zero_add] at h
  exact h

end JsNumber

section Selection

variable {α κ : Type} [DecidableEq α] {key : α → κ} {weight : α → ℚ} {items selected : List α}

/-- Nothing that weighs something is left out of a part that weighs as much as the whole. -/
theorem perm_of_subperm_of_sum_eq (hpos : ∀ a ∈ items, 0 < weight a)
    (hsub : selected.Subperm items)
    (hsum : (selected.map weight).sum = (items.map weight).sum) : selected.Perm items := by
  obtain ⟨left, hleft⟩ := Multiset.le_iff_exists_add.mp (Multiset.coe_le.mpr hsub)
  have hweights : (left.map weight).sum = 0 := by
    have hmap := congrArg (fun m : Multiset α => (m.map weight).sum) hleft
    simp only [Multiset.map_coe, Multiset.sum_coe, Multiset.map_add, Multiset.sum_add] at hmap
    linarith
  have hnone : left = 0 := by
    by_contra hne
    obtain ⟨a, ha⟩ := Multiset.exists_mem_of_ne_zero hne
    have hitem : ∀ b ∈ left, b ∈ items := by
      intro b hb
      have hmem : b ∈ (items : Multiset α) := by
        rw [hleft]
        exact Multiset.mem_add.mpr (.inr hb)
      simpa using hmem
    have hle : weight a ≤ (left.map weight).sum := by
      refine Multiset.single_le_sum ?_ _ (Multiset.mem_map_of_mem weight ha)
      intro w hw
      obtain ⟨b, hb, rfl⟩ := Multiset.mem_map.mp hw
      exact (hpos b (hitem b hb)).le
    have hlt := hpos a (hitem a ha)
    linarith
  rw [hnone, add_zero] at hleft
  exact (Multiset.coe_eq_coe.mp hleft).symm

/-- A selection with different keys weighs as much as the whole if and only if it has every item
once. -/
theorem sum_eq_iff_count (hkeys : (items.map key).Nodup) (hpos : ∀ a ∈ items, 0 < weight a)
    (hmem : ∀ a ∈ selected, a ∈ items) :
    ((selected.map key).Nodup ∧ (selected.map weight).sum = (items.map weight).sum) ↔
      ∀ a ∈ items, selected.count a = 1 := by
  have hitems : items.Nodup := List.Nodup.of_map key hkeys
  constructor
  · rintro ⟨hnodup, hsum⟩ a ha
    have hsub : selected.Subperm items :=
      List.subperm_of_subset (List.Nodup.of_map key hnodup) hmem
    rw [(perm_of_subperm_of_sum_eq hpos hsub hsum).count_eq]
    exact List.count_eq_one_of_mem hitems ha
  · intro hcount
    have hperm : selected.Perm items := by
      rw [List.perm_iff_count]
      intro a
      by_cases ha : a ∈ items
      · rw [hcount a ha, List.count_eq_one_of_mem hitems ha]
      · rw [List.count_eq_zero_of_not_mem ha, List.count_eq_zero_of_not_mem fun h => ha (hmem a h)]
    exact ⟨(hperm.map key).nodup_iff.mpr hkeys, (hperm.map weight).sum_eq⟩

end Selection

end Anchr.Infra
