import Mathlib.Tactic.Common

/-!
# Machines and their runs

Interleavings need no separate notion: an asynchronous call is a pending entry of the state, and
resuming it is an action like any other. A run may take the actions in any order.
-/

namespace Anchr.Infra

variable {σ α ε : Type}

/-- A deterministic machine: the next state and the events emitted, or `none` if refused. -/
structure Machine (σ α ε : Type) where
  step : σ → α → Option (σ × List ε)

/-- Runs from `s₀` whose steps all meet the guard `G`. -/
inductive Run (M : Machine σ α ε) (G : σ → α → Prop) (s₀ : σ) : List ε → σ → Prop
  | start : Run M G s₀ [] s₀
  | next {tr : List ε} {s s' : σ} {a : α} {evs : List ε} :
      Run M G s₀ tr s → G s a → M.step s a = some (s', evs) → Run M G s₀ (tr ++ evs) s'

/-- The guard that admits every action. -/
def AnyStep : σ → α → Prop := fun _ _ => True

namespace Run

variable {M : Machine σ α ε} {G : σ → α → Prop} {s₀ : σ}

variable {tr : List ε} {s : σ}

/-- What holds at the start and is kept by every admitted step holds along the whole run. -/
theorem invariant {I : List ε → σ → Prop} (h₀ : I [] s₀)
    (hstep : ∀ {tr s a s' evs}, I tr s → G s a → M.step s a = some (s', evs) → I (tr ++ evs) s')
    (h : Run M G s₀ tr s) : I tr s := by
  induction h with
  | start => exact h₀
  | next _ hg hs ih => exact hstep ih hg hs

theorem cons {s₁ : σ} {a : α} {evs : List ε} (h : Run M G s₁ tr s) (hguard : G s₀ a)
    (hstep : M.step s₀ a = some (s₁, evs)) : Run M G s₀ (evs ++ tr) s := by
  induction h with
  | start =>
    rw [List.append_nil]
    exact start.next hguard hstep
  | next _ hg hs ih =>
    rw [← List.append_assoc]
    exact ih.next hg hs

/-- No step of a run emits anything that is not in its history. -/
theorem emits (h : Run M G s₀ tr s) :
    Run M (fun s a => G s a ∧ ∀ s' evs, M.step s a = some (s', evs) → evs ⊆ tr) s₀ tr s := by
  have hwithin : ∀ all, tr ⊆ all →
      Run M (fun s a => G s a ∧ ∀ s' evs, M.step s a = some (s', evs) → evs ⊆ all) s₀ tr s := by
    intro all
    induction h with
    | start => exact fun _ => .start
    | next _ hg hstep ih =>
      intro hall
      refine (ih fun e he => hall (List.mem_append_left _ he)).next ⟨hg, ?_⟩ hstep
      intro s'' evs' hstep' e he
      cases hstep.symm.trans hstep'
      exact hall (List.mem_append_right _ he)
  exact hwithin tr (List.Subset.refl tr)

end Run

/-! ## Guards that look at the history -/

/-- The machine with its history beside its state. -/
def Machine.recorded (M : Machine σ α ε) : Machine (σ × List ε) α ε where
  step s a := (M.step s.1 a).map fun r => ((r.1, s.2 ++ r.2), r.2)

variable {M : Machine σ α ε} {s : σ × List ε} {evs tr : List ε} {a : α}

theorem Machine.step_of_recorded {s' : σ × List ε} (h : M.recorded.step s a = some (s', evs)) :
    M.step s.1 a = some (s'.1, evs) ∧ s'.2 = s.2 ++ evs := by
  obtain ⟨⟨t, evs'⟩, hstep, heq⟩ := Option.map_eq_some_iff.mp h
  cases heq
  exact ⟨hstep, rfl⟩

theorem Machine.recorded_step {s s' : σ} (h : M.step s a = some (s', evs)) (tr : List ε) :
    M.recorded.step (s, tr) a = some ((s', tr ++ evs), evs) := by
  simp only [recorded, h, Option.map_some]

theorem Run.of_recorded {G : σ × List ε → α → Prop} {s₀ : σ × List ε}
    (h : Run M.recorded G s₀ tr s) : Run M AnyStep s₀.1 tr s.1 := by
  induction h with
  | start => exact .start
  | next _ _ hstep ih => exact ih.next trivial (Machine.step_of_recorded hstep).1

/-! ## Executing a list of actions -/

/-- Take the actions one after the other; `none` as soon as one is refused. -/
def Machine.exec (M : Machine σ α ε) : σ → List α → Option (σ × List ε)
  | s, [] => some (s, [])
  | s, a :: as =>
    match M.step s a with
    | none => none
    | some (s₁, evs) => (M.exec s₁ as).map fun r => (r.1, evs ++ r.2)

/-- The guard holds of every action at the state where it is taken. -/
def Machine.Admits (M : Machine σ α ε) (G : σ → α → Prop) : σ → List α → Prop
  | _, [] => True
  | s, a :: as => G s a ∧ ∀ r, M.step s a = some r → M.Admits G r.1 as

instance Machine.decidableAdmits (M : Machine σ α ε) (G : σ → α → Prop)
    [∀ s a, Decidable (G s a)] : ∀ (s : σ) (as : List α), Decidable (M.Admits G s as)
  | _, [] => .isTrue trivial
  | s, a :: as =>
    match hstep : M.step s a with
    | none => decidable_of_iff (G s a) ⟨fun h => ⟨h, by simp [hstep]⟩, And.left⟩
    | some r =>
      have := M.decidableAdmits G r.1 as
      decidable_of_iff (G s a ∧ M.Admits G r.1 as) (and_congr_right fun _ => by simp [hstep])

theorem Machine.Admits.append {M : Machine σ α ε} {G : σ → α → Prop} {bs : List α} :
    ∀ {as : List α} {s : σ}, M.Admits G s as →
      (∀ r, M.exec s as = some r → M.Admits G r.1 bs) → M.Admits G s (as ++ bs)
  | [], s, _, h => h (s, []) rfl
  | a :: as, s, has, h => by
    refine ⟨has.1, fun r hr => (has.2 r hr).append fun r' hr' => ?_⟩
    exact h (r'.1, r.2 ++ r'.2) (by simp [exec, hr, hr'])

theorem Machine.admits_of_forall (M : Machine σ α ε) {G : σ → α → Prop} :
    ∀ (as : List α) (s : σ), (∀ a ∈ as, ∀ s, G s a) → M.Admits G s as
  | [], _, _ => trivial
  | a :: as, s, h => ⟨h a List.mem_cons_self s, fun r _ =>
      M.admits_of_forall as r.1 fun a' ha' => h a' (List.mem_cons_of_mem _ ha')⟩

theorem Machine.admits_anyStep (M : Machine σ α ε) : ∀ (as : List α) (s : σ), M.Admits AnyStep s as
  | [], _ => trivial
  | _ :: as, _ => ⟨trivial, fun r _ => M.admits_anyStep as r.1⟩

theorem Run.of_exec {M : Machine σ α ε} {G : σ → α → Prop} {s₀ : σ} : ∀ (as : List α) {s s' : σ}
    {tr tr' : List ε}, Run M G s₀ tr s → M.Admits G s as → M.exec s as = some (s', tr') →
      Run M G s₀ (tr ++ tr') s'
  | [], s, s', tr, tr', hrun, _, hexec => by
    obtain ⟨rfl, rfl⟩ : s = s' ∧ [] = tr' := by simpa [Machine.exec] using hexec
    rw [List.append_nil]
    exact hrun
  | a :: as, s, s', tr, tr', hrun, hadmits, hexec => by
    unfold Machine.exec at hexec
    split at hexec
    · simp at hexec
    · next s₁ evs hstep =>
      obtain ⟨⟨s₂, evs'⟩, hrest, heq⟩ := Option.map_eq_some_iff.mp hexec
      cases heq
      have hrun₁ := hrun.next hadmits.1 hstep
      rw [← List.append_assoc]
      exact of_exec as hrun₁ (hadmits.2 _ hstep) hrest

theorem Run.exists_of_exec {β : Type} {G : σ → α → Prop} {s₀ : σ} {as : List α} {f : List ε → β}
    {b : β} (hadmits : M.Admits G s₀ as) (h : (M.exec s₀ as).map (fun r => f r.2) = some b) :
    ∃ tr s, Run M G s₀ tr s ∧ f tr = b := by
  obtain ⟨⟨s, tr⟩, hexec, hf⟩ := Option.map_eq_some_iff.mp h
  have hrun := Run.of_exec as .start hadmits hexec
  rw [List.nil_append] at hrun
  exact ⟨tr, s, hrun, hf⟩

/-! ## Order of events -/

/-- Every event of the history satisfies `J` with respect to the events before it. -/
def Justified (J : List ε → ε → Prop) (tr : List ε) : Prop :=
  ∀ pre e post, tr = pre ++ e :: post → J pre e

theorem Justified.nil (J : List ε → ε → Prop) : Justified J [] := by
  intro pre e post h
  simp at h

theorem Justified.snoc {J : List ε → ε → Prop} {e : ε} (h : Justified J tr) (he : J tr e) :
    Justified J (tr ++ [e]) := by
  intro pre d post heq
  rcases List.append_eq_append_iff.mp heq with ⟨mid, hpre, hmid⟩ | ⟨mid, htr, hmid⟩
  · cases mid with
    | nil =>
      rw [List.nil_append, List.cons.injEq] at hmid
      rw [hpre, List.append_nil, ← hmid.1]
      exact he
    | cons c mid => simp at hmid
  · cases mid with
    | nil =>
      rw [List.nil_append, List.cons.injEq] at hmid
      rw [List.append_nil] at htr
      rw [← htr, hmid.1]
      exact he
    | cons c mid =>
      rw [List.cons_append, List.cons.injEq] at hmid
      obtain ⟨rfl, -⟩ := hmid
      exact h pre d mid htr

/-- The events of `evs`, happening in this order after the history `tr`, are justified. -/
def JustifiedAfter (J : List ε → ε → Prop) : List ε → List ε → Prop
  | _, [] => True
  | tr, e :: evs => J tr e ∧ JustifiedAfter J (tr ++ [e]) evs

theorem Justified.append {J : List ε → ε → Prop} : ∀ {tr evs : List ε}, Justified J tr →
    JustifiedAfter J tr evs → Justified J (tr ++ evs)
  | tr, [], h, _ => by
    rw [List.append_nil]
    exact h
  | tr, e :: evs, h, ⟨he, hevs⟩ => by
    have h' := (h.snoc he).append hevs
    rwa [List.append_assoc, List.singleton_append] at h'

end Anchr.Infra
