import Anchr.Infra.JsMap
import Anchr.Infra.Machine

/-!
# Services with suspended calls

A service has memory that all its calls share. Turns of different calls alternate in any order, and
nothing happens inside a turn.
-/

namespace Anchr.Infra

variable {τ π ε α β : Type}

/-- What a turn leaves behind: the shared memory, the events, and where the call is suspended. -/
structure CallTurn (τ π ε : Type) where
  shared : τ
  events : List ε := []
  pending : Option π := none

/-- What the first turn of a call and each later one do. -/
structure CallService (τ π ε α β : Type) where
  begin : τ → Nat → α → CallTurn τ π ε
  resume : τ → Nat → π → β → Option (CallTurn τ π ε)

/-- The shared memory, and the local variables of each call that is suspended at an `await`. -/
structure CallState (τ π : Type) where
  shared : τ
  calls : JsMap Nat π := .empty
  nextCall : Nat := 0

/-- A call begins and runs to its first `await`, or an answer takes it one turn further. -/
inductive CallAction (α β : Type) where
  | begin (a : α)
  | resume (call : Nat) (b : β)

/-- Suspend the call again, or forget it. -/
def JsMap.place (calls : JsMap Nat π) (call : Nat) : Option π → JsMap Nat π
  | some p => calls.set call p
  | none => calls.delete call

theorem JsMap.get?_place (calls : JsMap Nat π) (call c : Nat) (o : Option π) :
    (calls.place call o).get? c = if c = call then o else calls.get? c := by
  cases o with
  | none => simp [place, get?_delete]
  | some p => simp [place, get?_set]

namespace CallService

variable (S : CallService τ π ε α β)

def step (s : CallState τ π) : CallAction α β → Option (CallState τ π × List ε)
  | .begin a =>
    let turn := S.begin s.shared s.nextCall a
    some ({ shared := turn.shared
            calls := s.calls.place s.nextCall turn.pending
            nextCall := s.nextCall + 1 }, turn.events)
  | .resume call b =>
    match s.calls.get? call with
    | none => none
    | some p =>
      (S.resume s.shared call p b).map fun turn =>
        ({ s with shared := turn.shared, calls := s.calls.place call turn.pending }, turn.events)

def machine : Machine (CallState τ π) (CallAction α β) ε where
  step := S.step

inductive Takes (s : CallState τ π) : CallAction α β → Nat → CallTurn τ π ε → Prop
  | begin (a : α) : Takes s (.begin a) s.nextCall (S.begin s.shared s.nextCall a)
  | resume {call : Nat} {p : π} {b : β} {turn : CallTurn τ π ε} :
      s.calls.get? call = some p → S.resume s.shared call p b = some turn →
        Takes s (.resume call b) call turn

variable {S}

theorem step_begin {s : CallState τ π} {a : α} {turn : CallTurn τ π ε}
    (h : S.begin s.shared s.nextCall a = turn) :
    S.machine.step s (.begin a) = some
      ({ shared := turn.shared
         calls := s.calls.place s.nextCall turn.pending
         nextCall := s.nextCall + 1 }, turn.events) := by
  subst h
  rfl

theorem step_resume {s : CallState τ π} {call : Nat} {p : π} {b : β} {turn : CallTurn τ π ε}
    (hget : s.calls.get? call = some p) (hresume : S.resume s.shared call p b = some turn) :
    S.machine.step s (.resume call b) = some
      ({ s with shared := turn.shared, calls := s.calls.place call turn.pending },
        turn.events) := by
  simp only [machine, step, hget, hresume, Option.map_some]

theorem takes_of_step {s s' : CallState τ π} {a : CallAction α β} {evs : List ε}
    (h : S.machine.step s a = some (s', evs)) :
    ∃ call turn, S.Takes s a call turn ∧ s'.shared = turn.shared ∧
      s'.calls = s.calls.place call turn.pending ∧ evs = turn.events := by
  cases a with
  | begin a =>
    cases h
    exact ⟨_, _, .begin a, rfl, rfl, rfl⟩
  | resume call b =>
    simp only [machine, step] at h
    split at h
    next => cases h
    next p hp =>
      obtain ⟨turn, hturn, heq⟩ := Option.map_eq_some_iff.mp h
      cases heq
      exact ⟨_, _, .resume hp hturn, rfl, rfl, rfl⟩

end CallService

namespace CallService

variable {S : CallService τ π ε α β} {s s₀ : CallState τ π} {call : Nat} {tr : List ε} {t : τ}
  {p : π} {b : β} {turn : CallTurn τ π ε} {G : CallState τ π → CallAction α β → Prop}

/-- After some run with this history, the memory is `t` and the call is at `o`. -/
def Gets (S : CallService τ π ε α β) (G : CallState τ π → CallAction α β → Prop)
    (s₀ : CallState τ π) (call : Nat) (tr : List ε) (t : τ) (o : Option π) : Prop :=
  ∃ s, Run S.machine G s₀ tr s ∧ s.shared = t ∧ s.calls.get? call = o

theorem Gets.begin {a : α} (hguard : G s (.begin a))
    (h : S.begin s.shared s.nextCall a = turn) :
    S.Gets G s s.nextCall turn.events turn.shared turn.pending :=
  ⟨_, .next .start hguard (step_begin h), rfl, by rw [JsMap.get?_place, if_pos rfl]⟩

theorem Gets.resume (h : S.Gets G s₀ call tr t (some p)) (hguard : ∀ s, G s (.resume call b))
    (hresume : S.resume t call p b = some turn) :
    S.Gets G s₀ call (tr ++ turn.events) turn.shared turn.pending := by
  obtain ⟨s, hrun, rfl, hget⟩ := h
  exact ⟨_, hrun.next (hguard s) (step_resume hget hresume), rfl,
    by rw [JsMap.get?_place, if_pos rfl]⟩

end CallService

/-! ## History, shared memory and suspended calls -/

/-- After the history `tr`, the events of the turn are justified, and what it leaves behind is
explained. -/
structure CallTurn.Explained (I : List ε → τ → Prop) (E : List ε → Nat → π → Prop)
    (J : List ε → ε → Prop) (tr : List ε) (call : Nat) (turn : CallTurn τ π ε) : Prop where
  events : JustifiedAfter J tr turn.events
  shared : I (tr ++ turn.events) turn.shared
  pending : ∀ p, turn.pending = some p → E (tr ++ turn.events) call p

namespace CallService

/-- Every turn keeps `I` of the shared memory, `E` of the suspended calls and `J` of the events;
calls begin only with what `A` admits. -/
structure Explains (S : CallService τ π ε α β) (A : α → Prop) (I : List ε → τ → Prop)
    (E : List ε → Nat → π → Prop) (J : List ε → ε → Prop) : Prop where
  mono : ∀ {tr evs call p}, E tr call p → E (tr ++ evs) call p
  begin : ∀ {tr t}, I tr t → ∀ call a, A a → (S.begin t call a).Explained I E J tr call
  resume : ∀ {tr t call p b turn}, I tr t → E tr call p → S.resume t call p b = some turn →
    turn.Explained I E J tr call

variable {S : CallService τ π ε α β} {A : α → Prop} {I : List ε → τ → Prop}
  {E : List ε → Nat → π → Prop} {J : List ε → ε → Prop}

def AllExplained (I : List ε → τ → Prop) (E : List ε → Nat → π → Prop) (tr : List ε)
    (s : CallState τ π) : Prop :=
  I tr s.shared ∧ ∀ call p, s.calls.get? call = some p → E tr call p

variable {evs : List ε} {s : CallState τ π} {G : CallState τ π → CallAction α β → Prop}
  {turn : CallTurn τ π ε} {ans : π → β} {call : Nat} {t t' : τ} {a : α}

theorem Explains.step (hS : S.Explains A I E J) {tr : List ε} {s' : CallState τ π}
    {a : CallAction α β} (ha : ∀ x, a = .begin x → A x) (h : AllExplained I E tr s)
    (hstep : S.machine.step s a = some (s', evs)) :
    JustifiedAfter J tr evs ∧ AllExplained I E (tr ++ evs) s' := by
  obtain ⟨call, turn, htakes, hshared, hcalls, rfl⟩ := takes_of_step hstep
  have hturn : turn.Explained I E J tr call := by
    cases htakes with
    | begin x => exact hS.begin h.1 _ x (ha x rfl)
    | resume hp hresume => exact hS.resume h.1 (h.2 _ _ hp) hresume
  refine ⟨hturn.events, hshared ▸ hturn.shared, fun c p hget => ?_⟩
  rw [hcalls, JsMap.get?_place] at hget
  by_cases hc : c = call
  · rw [if_pos hc] at hget
    exact hc ▸ hturn.pending p hget
  · rw [if_neg hc] at hget
    exact hS.mono (h.2 c p hget)

/-- In every run that starts with no call suspended. -/
theorem Explains.run (hS : S.Explains A I E J) (hG : ∀ s x, G s (.begin x) → A x)
    {s₀ : CallState τ π} {tr : List ε} (h₀ : I [] s₀.shared) (hcalls : s₀.calls = .empty)
    (h : Run S.machine G s₀ tr s) :
    Justified J tr ∧ AllExplained I E tr s := by
  refine Run.invariant (I := fun tr s => Justified J tr ∧ AllExplained I E tr s) ?_ ?_ h
  · refine ⟨Justified.nil J, h₀, fun call p hget => ?_⟩
    rw [hcalls] at hget
    cases hget
  · rintro tr s a s' evs ⟨hJ, hall⟩ hg hstep
    obtain ⟨hevs, hall'⟩ := hS.step (fun x hx => hG s x (hx ▸ hg)) hall hstep
    exact ⟨hJ.append hevs, hall'⟩

/-! ## One call by itself -/

/-- After the turn, the call gets the answers `ans` until it ends, and no other call has a turn.
Together these turns emit `evs` and leave the shared memory `t`. -/
inductive Completes (S : CallService τ π ε α β) (ans : π → β) (call : Nat) :
    CallTurn τ π ε → List ε → τ → Prop
  | ended {turn : CallTurn τ π ε} : turn.pending = none →
      Completes S ans call turn turn.events turn.shared
  | next {turn turn' : CallTurn τ π ε} {p : π} {evs : List ε} {t : τ} : turn.pending = some p →
      S.resume turn.shared call p (ans p) = some turn' → Completes S ans call turn' evs t →
        Completes S ans call turn (turn.events ++ evs) t

def CompletesFrom (S : CallService τ π ε α β) (ans : π → β) (t : τ) (call : Nat) (a : α)
    (evs : List ε) (t' : τ) : Prop :=
  S.Completes ans call (S.begin t call a) evs t'

theorem CompletesFrom.of_begin (hbegin : S.begin t call a = turn)
    (h : S.Completes ans call turn evs t') : S.CompletesFrom ans t call a evs t' := by
  rw [CompletesFrom, hbegin]
  exact h

theorem Completes.events {Q : ε → Prop} {W : π → Prop}
    (hstep : ∀ {t p turn}, W p → S.resume t call p (ans p) = some turn →
      (∀ e ∈ turn.events, Q e) ∧ ∀ q, turn.pending = some q → W q)
    (h : S.Completes ans call turn evs t) (hevents : ∀ e ∈ turn.events, Q e)
    (hp : ∀ q, turn.pending = some q → W q) :
    ∀ e ∈ evs, Q e := by
  induction h with
  | ended _ => exact hevents
  | next hpending hresume _ ih =>
    obtain ⟨hevents', hp'⟩ := hstep (hp _ hpending) hresume
    intro e he
    rcases List.mem_append.mp he with he | he
    · exact hevents e he
    · exact ih hevents' hp' e he

theorem Completes.rest {turn' : CallTurn τ π ε} {p : π} (h : S.Completes ans call turn evs t)
    (hpending : turn.pending = some p) (hresume : S.resume turn.shared call p (ans p) = some turn') :
    ∃ evs', evs = turn.events ++ evs' ∧ S.Completes ans call turn' evs' t := by
  cases h with
  | ended hover =>
    rw [hover] at hpending
    cases hpending
  | next hpending' hresume' hrest =>
    rw [hpending] at hpending'
    obtain rfl := Option.some.inj hpending'
    rw [hresume] at hresume'
    obtain rfl := Option.some.inj hresume'
    exact ⟨_, rfl, hrest⟩

theorem Completes.over (h : S.Completes ans call turn evs t) (hpending : turn.pending = none) :
    evs = turn.events := by
  cases h with
  | ended _ => rfl
  | next hpending' =>
    rw [hpending] at hpending'
    cases hpending'

theorem Completes.run (hG : ∀ s p, G s (.resume call (ans p)))
    (h : S.Completes ans call turn evs t) : ∀ {s : CallState τ π}, s.shared = turn.shared →
      s.calls.get? call = turn.pending →
        ∃ tr s', evs = turn.events ++ tr ∧ Run S.machine G s tr s' ∧ s'.shared = t := by
  induction h with
  | ended _ =>
    intro s hshared _
    exact ⟨[], s, (List.append_nil _).symm, .start, hshared⟩
  | @next turn turn' p evs t hpending hresume _ ih =>
    intro s hshared hcalls
    rw [hpending] at hcalls
    rw [← hshared] at hresume
    obtain ⟨tr, s', rfl, hrun, ht⟩ := ih (s := { s with
      shared := turn'.shared, calls := s.calls.place call turn'.pending }) rfl
      (by rw [JsMap.get?_place, if_pos rfl])
    exact ⟨_, s', rfl, hrun.cons (hG s p) (step_resume hcalls hresume), ht⟩

/-- A call by itself is a run of the machine, from any state with the same memory, if the guard
admits its steps. -/
theorem CompletesFrom.guarded (hG : ∀ s' p, G s' (.resume s.nextCall (ans p)))
    (h : S.CompletesFrom ans s.shared s.nextCall a evs t') :
    ∃ s₁ tr s', S.machine.step s (.begin a) =
        some (s₁, (S.begin s.shared s.nextCall a).events) ∧
      Run S.machine G s₁ tr s' ∧ evs = (S.begin s.shared s.nextCall a).events ++ tr ∧
      s'.shared = t' := by
  obtain ⟨tr, s', hevs, hrun, ht⟩ := Completes.run hG h (s :=
    { shared := (S.begin s.shared s.nextCall a).shared
      calls := s.calls.place s.nextCall (S.begin s.shared s.nextCall a).pending
      nextCall := s.nextCall + 1 }) rfl (by rw [JsMap.get?_place, if_pos rfl])
  exact ⟨_, tr, s', rfl, hrun, hevs, ht⟩

theorem CompletesFrom.run (h : S.CompletesFrom ans s.shared s.nextCall a evs t') :
    ∃ s₁ tr s', S.machine.step s (.begin a) =
        some (s₁, (S.begin s.shared s.nextCall a).events) ∧
      Run S.machine AnyStep s₁ tr s' ∧ evs = (S.begin s.shared s.nextCall a).events ++ tr ∧
      s'.shared = t' :=
  h.guarded fun _ _ => trivial

end CallService

end Anchr.Infra
