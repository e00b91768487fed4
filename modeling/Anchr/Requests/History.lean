import Anchr.Requests.Steps

/-!
# Calls and their history

A property of the service that speaks about order, "this was done before that within one call", has
two halves. While a call is suspended, its local variables reflect what has happened to it; and
every event is justified by what happened before.
-/

namespace Anchr.Requests

open Infra

/-- After the history `tr`, the events of the turn are justified, and where it ends is explained. -/
structure Turn.Explained (E : List Event → Nat → Pending → Prop) (J : List Event → Event → Prop)
    (tr : List Event) (call : Nat) (turn : Turn) : Prop where
  events : JustifiedAfter J tr turn.events
  pending : ∀ p, turn.pending = some p → E (tr ++ turn.events) call p

/-- Every turn of every call, and the preimage store, keep `E` and `J`. -/
structure Explains (deps : ServiceDeps) (E : List Event → Nat → Pending → Prop)
    (J : List Event → Event → Prop) : Prop where
  mono : ∀ {tr evs call p}, E tr call p → E (tr ++ evs) call p
  sync : ∀ {tr a e}, Action.Emits a e → J tr e
  begin : ∀ {tr s a m turn}, Begins deps s a m turn → turn.Explained E J tr s.nextCall
  resume : ∀ {tr call p now answer turn}, E tr call p →
    Pending.resume deps call now p answer = some turn → turn.Explained E J tr call
  serve : ∀ {tr preimages call p p' e preimages'}, Serves preimages call p p' e preimages' →
    E tr call p → J tr e ∧ E (tr ++ [e]) call p'

section

variable {deps : ServiceDeps} {E : List Event → Nat → Pending → Prop}
  {J : List Event → Event → Prop} {tr : List Event} {s s' : State}

theorem justifiedAfter_of_forall {J : List Event → Event → Prop} :
    ∀ {evs tr : List Event}, (∀ tr e, e ∈ evs → J tr e) → JustifiedAfter J tr evs
  | [], _, _ => trivial
  | _ :: _, _, h => ⟨h _ _ (by simp), justifiedAfter_of_forall fun tr e he =>
      h tr e (List.mem_cons_of_mem _ he)⟩

variable {evs : List Event} {call : Nat} {write : Write} {turn : Turn}

theorem Turn.Explained.returned (h : JustifiedAfter J tr evs) :
    Turn.Explained E J tr call { write := write, events := evs } :=
  ⟨h, fun p hp => by cases hp⟩

theorem Turn.Explained.cons {e : Event} (he : J tr e) (h : turn.Explained E J (tr ++ [e]) call) :
    Turn.Explained E J tr call
      { write := write, events := e :: turn.events, pending := turn.pending } := by
  refine ⟨⟨he, h.events⟩, fun p hp => ?_⟩
  have hE := h.pending p hp
  rwa [List.append_assoc] at hE

theorem Turn.Explained.of_forall (hJ : ∀ e ∈ turn.events, ∀ tr, J tr e)
    (hE : ∀ p, turn.pending = some p → ∀ tr, E tr call p) :
    turn.Explained E J tr call :=
  ⟨justifiedAfter_of_forall fun tr e he => hJ e he tr, fun p hp => hE p hp _⟩

def AllExplained (E : List Event → Nat → Pending → Prop) (tr : List Event) (s : State) : Prop :=
  ∀ call p, s.calls.get? call = some p → E tr call p

theorem AllExplained.mono (hE : Explains deps E J) {evs : List Event} (h : AllExplained E tr s)
    (hcalls : s'.calls = s.calls) : AllExplained E (tr ++ evs) s' := by
  intro call p hget
  rw [hcalls] at hget
  exact hE.mono (h call p hget)

theorem AllExplained.set (hE : Explains deps E J) {p : Pending} (h : AllExplained E tr s)
    (hp : E (tr ++ evs) call p) (hcalls : s'.calls = s.calls.set call p) :
    AllExplained E (tr ++ evs) s' := by
  intro call' p' hget
  rw [hcalls] at hget
  rcases JsMap.get?_of_set hget with ⟨rfl, rfl⟩ | hold
  · exact hp
  · exact hE.mono (h call' p' hold)

theorem AllExplained.begin (hE : Explains deps E J) {turn : Turn} (h : AllExplained E tr s)
    (ht : turn.Explained E J tr s.nextCall) :
    JustifiedAfter J tr turn.events ∧ AllExplained E (tr ++ turn.events) (s.begin turn).1 := by
  refine ⟨ht.events, fun call p hget => ?_⟩
  rcases calls_begin hget with ⟨rfl, hp⟩ | hold
  · exact ht.pending p hp
  · exact hE.mono (h call p hold)

theorem AllExplained.continue (hE : Explains deps E J) {turn : Turn} {call : Nat}
    (h : AllExplained E tr s) (ht : turn.Explained E J tr call) :
    JustifiedAfter J tr turn.events ∧
      AllExplained E (tr ++ turn.events) (s.continue call turn).1 := by
  refine ⟨ht.events, fun call' p hget => ?_⟩
  rcases calls_continue hget with ⟨rfl, hp⟩ | hold
  · exact ht.pending p hp
  · exact hE.mono (h call' p hold)

theorem Explains.step (hE : Explains deps E J) {a : Action} (h : AllExplained E tr s)
    (hstep : step deps s a = some (s', evs)) :
    JustifiedAfter J tr evs ∧ AllExplained E (tr ++ evs) s' := by
  cases stepShape_of_step hstep with
  | sync hcalls _ _ hevs =>
    exact ⟨justifiedAfter_of_forall fun tr e he => hE.sync (hevs e he), h.mono hE hcalls⟩
  | begin hbegins => exact h.begin hE (hE.begin hbegins)
  | resume hcall hresume => exact h.continue hE (hE.resume (h _ _ hcall) hresume)
  | serve hcall hserves =>
    obtain ⟨hj, hp⟩ := hE.serve hserves (h _ _ hcall)
    exact ⟨⟨hj, trivial⟩, h.set hE hp rfl⟩

/-- In every run that starts with no call suspended, every event is justified by the events
before it and every suspended call is explained by the history. -/
theorem Explains.run (hE : Explains deps E J) {G : State → Action → Prop} {s₀ : State}
    (h₀ : s₀.calls = .empty) (h : Run (queryService deps) G s₀ tr s) :
    Justified J tr ∧ AllExplained E tr s := by
  refine Run.invariant (I := fun tr s => Justified J tr ∧ AllExplained E tr s) ?_ ?_ h
  · refine ⟨Justified.nil J, fun call p hget => ?_⟩
    rw [h₀] at hget
    cases hget
  · rintro tr s a s' evs ⟨hJ, hall⟩ _ hstep
    obtain ⟨hevs, hall'⟩ := hE.step hall hstep
    exact ⟨hJ.append hevs, hall'⟩

end

/-! ## Calls are told apart -/

/-- The numbers in the history, and those of the suspended calls, have all been given out. -/
structure Numbered (tr : List Event) (s : State) : Prop where
  events : ∀ e ∈ tr, ∀ call m, e.Of call m → call < s.nextCall
  calls : ∀ call p, s.calls.get? call = some p → call < s.nextCall

variable {call : Nat} {e : Event}

theorem Event.Of.call_eq {call' : Nat} {m m' : Method} (h : e.Of call m) (h' : e.Of call' m') :
    call = call' := by
  cases e with
  | created => exact h.elim
  | purged => exact h.elim
  | offerRecorded => exact h.elim
  | threw c => exact Eq.trans (Eq.symm h) h'
  | _ => exact h.1.symm.trans h'.1

theorem Action.Emits.not_of {a : Action} (h : a.Emits e) (m : Method) : ¬e.Of call m := by
  intro hof
  cases e with
  | created => exact hof.elim
  | purged => exact hof.elim
  | offerRecorded => exact hof.elim
  | _ => cases a <;> exact h.elim

section

variable {deps : ServiceDeps} {tr : List Event} {s s' : State}

variable {evs : List Event}

theorem Numbered.step {a : Action} (h : Numbered tr s)
    (hstep : Requests.step deps s a = some (s', evs)) : Numbered (tr ++ evs) s' := by
  cases (stepShape_of_step hstep).takes with
  | none hcalls hnext hevs =>
    refine ⟨fun e he c m hc => ?_, fun c p hc => ?_⟩
    · rw [hnext]
      rcases List.mem_append.mp he with hold | hnew
      · exact h.events e hold c m hc
      · exact absurd hc ((hevs e hnew).not_of m)
    · rw [hcalls] at hc
      rw [hnext]
      exact h.calls c p hc
  | @one call m hevs hcall hcalls =>
    obtain ⟨hlt, hle⟩ : call < s'.nextCall ∧ s.nextCall ≤ s'.nextCall := by
      rcases hcall with ⟨rfl, hnext⟩ | ⟨⟨p, hp⟩, hnext⟩
      · omega
      · have hlt := h.calls call p hp
        omega
    refine ⟨fun e he c m' hc => ?_, fun c p hc => ?_⟩
    · rcases List.mem_append.mp he with hold | hnew
      · exact Nat.lt_of_lt_of_le (h.events e hold c m' hc) hle
      · rw [hc.call_eq (hevs e hnew)]
        exact hlt
    · rcases hcalls c p hc with rfl | hold
      · exact hlt
      · exact Nat.lt_of_lt_of_le (h.calls c p hold) hle

theorem numbered_of_run {G : State → Action → Prop} {s₀ : State} (h₀ : s₀.calls = .empty)
    (h : Run (queryService deps) G s₀ tr s) : Numbered tr s := by
  refine Run.invariant (I := Numbered) ⟨by simp, fun c p hc => ?_⟩
    (fun hI _ hstep => hI.step hstep) h
  rw [h₀] at hc
  cases hc

end

/-! ## Calls that are over -/

structure CallOver (call : Nat) (s : State) : Prop where
  given : call < s.nextCall
  gone : s.calls.get? call = none

section

variable {deps : ServiceDeps} {tr evs : List Event} {s s' : State} {call : Nat}

theorem CallOver.step {a : Action} (h : CallOver call s)
    (hstep : Requests.step deps s a = some (s', evs)) :
    CallOver call s' ∧ ∀ e ∈ evs, ∀ m, ¬e.Of call m := by
  cases (stepShape_of_step hstep).takes with
  | none hcalls hnext hevs =>
    refine ⟨⟨?_, ?_⟩, fun e he => (hevs e he).not_of⟩
    · rw [hnext]
      exact h.given
    · rw [hcalls]
      exact h.gone
  | @one call' m hevs hcall hcalls =>
    -- a call that takes part in the step is new or suspended, so it is not the one that is over
    obtain ⟨hne, hle⟩ : call ≠ call' ∧ s.nextCall ≤ s'.nextCall := by
      rcases hcall with ⟨rfl, hnext⟩ | ⟨⟨p, hp⟩, hnext⟩
      · exact ⟨Nat.ne_of_lt h.given, by omega⟩
      · refine ⟨?_, by omega⟩
        rintro rfl
        cases h.gone.symm.trans hp
    refine ⟨⟨Nat.lt_of_lt_of_le h.given hle, ?_⟩, fun e he m' hc => ?_⟩
    · cases hget : s'.calls.get? call with
      | none => rfl
      | some p => cases h.gone.symm.trans ((hcalls call p hget).resolve_left hne)
    · exact hne (hc.call_eq (hevs e he))

/-- A call that is over emits nothing any more and is not taken up again. -/
theorem CallOver.run {G : State → Action → Prop} (h : CallOver call s)
    (hrun : Run (queryService deps) G s tr s') :
    CallOver call s' ∧ ∀ e ∈ tr, ∀ m, ¬e.Of call m := by
  refine Run.invariant (I := fun tr s => CallOver call s ∧ ∀ e ∈ tr, ∀ m, ¬e.Of call m)
    ⟨h, by simp⟩ ?_ hrun
  rintro tr s a s' evs ⟨hover, hnone⟩ _ hstep
  obtain ⟨hover', hnone'⟩ := hover.step hstep
  refine ⟨hover', fun e he => ?_⟩
  rcases List.mem_append.mp he with hold | hnew
  · exact hnone e hold
  · exact hnone' e hnew

end

end Anchr.Requests
