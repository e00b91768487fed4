import Anchr.Infra.EventLoopOrder

/-!
# The service on the loop

On the loop, a call begins and goes on where its service lets it.
-/

namespace Anchr.Infra

variable {τ π ε α β ev φ l d : Type}

/-- The same, up to the order in which the calls were suspended. -/
structure CallState.Like (s s' : CallState τ π) : Prop where
  shared : s.shared = s'.shared
  nextCall : s.nextCall = s'.nextCall
  calls : ∀ call, s.calls.get? call = s'.calls.get? call

namespace EventLoop

variable {E : EventLoop τ π ε α β ev φ l d} {s s₀ : LoopState τ π β ev φ l} {call : Nat}

theorem like_take {calls : JsMap Nat π} (hcalls : ∀ c, s.calls.calls.get? c = calls.get? c)
    (turn : CallTurn τ π ε) (x : d) : (E.take s call turn x).calls.Like
      { s.calls with shared := turn.shared, calls := calls.place call turn.pending } := by
  have hframe := (publishAll_frame E call (turn.events.filterMap E.published)
    { s.withdraw call with calls := { (s.withdraw call).calls with shared := turn.shared } }).1
  have hplace : ∀ o c, (calls.place call o).get? c =
      if c = call then o else s.calls.calls.get? c := by
    intro o c
    rw [JsMap.get?_place, ← hcalls]
  unfold take suspend
  cases turn.pending with
  | none =>
    dsimp only
    rw [hframe]
    exact ⟨rfl, rfl, fun c => (withdraw_get? s call c).trans (hplace none c).symm⟩
  | some p =>
    have hset : ∀ c, ((s.withdraw call).calls.calls.set call p).get? c =
        (calls.place call (some p)).get? c := by
      intro c
      rw [hplace, JsMap.get?_set, withdraw_get?]
      split <;> rfl
    dsimp only
    rw [hframe]
    split
    next => exact ⟨rfl, rfl, hset⟩
    next => split <;> exact ⟨rfl, rfl, hset⟩

/-- A wait ignores the event, or makes it the answer that is due, or goes on with it. -/
theorem hear_cases {sub : Subscription φ l} {event : ev} {x : d}
    {r : LoopState τ π β ev φ l × List ε} (h : E.hear s sub call event x = r) :
    (r.1.queue = s.queue ∧ r.1.log = s.log ∧ r.1.heard = s.heard ∧
      r.1.calls.nextCall = s.calls.nextCall) ∧
    ((r.1.calls = s.calls ∧ r.2 = []) ∨ ∃ p b turn, s.calls.calls.get? call = some p ∧
      E.hears p event x = some (.stays b) ∧
      E.service.resume s.calls.shared call p b = some turn ∧ r.2 = turn.events ∧
      r.1.calls = { s.calls with
        shared := turn.shared, calls := s.calls.calls.place call turn.pending }) := by
  subst h
  unfold hear
  split
  next =>
    split
    next => exact ⟨⟨rfl, rfl, rfl, rfl⟩, .inl ⟨rfl, rfl⟩⟩
    next p hp =>
      split
      next => exact ⟨⟨rfl, rfl, rfl, rfl⟩, .inl ⟨rfl, rfl⟩⟩
      next => exact ⟨⟨rfl, rfl, rfl, rfl⟩, .inl ⟨rfl, rfl⟩⟩
      next b hhears =>
        split
        next => exact ⟨⟨rfl, rfl, rfl, rfl⟩, .inl ⟨rfl, rfl⟩⟩
        next turn hturn =>
          exact ⟨⟨rfl, rfl, rfl, rfl⟩, .inr ⟨p, b, turn, hp, hhears, hturn, rfl, rfl⟩⟩
  next => exact ⟨⟨rfl, rfl, rfl, rfl⟩, .inl ⟨rfl, rfl⟩⟩

/-- The answers that reach the calls of a run of the loop make it a run of its service. -/
theorem service_run {G : LoopState τ π β ev φ l → LoopAction α β φ l d → Prop} {tr : List ε}
    (h : Run E.machine G s₀ tr s) :
    ∃ c : CallState τ π, Run E.service.machine AnyStep s₀.calls tr c ∧ s.calls.Like c := by
  refine Run.invariant (I := fun tr (s : LoopState τ π β ev φ l) => ∃ c : CallState τ π,
    Run E.service.machine AnyStep s₀.calls tr c ∧ s.calls.Like c)
    ⟨_, .start, rfl, rfl, fun _ => rfl⟩ ?_ h
  rintro tr s action s' evs ⟨⟨shared, calls, nextCall⟩, hrun, rfl, rfl, hcalls⟩ _ hstep
  cases move_of_step hstep with
  | listens | settles | enqueues =>
    rw [List.append_nil]
    exact ⟨_, hrun, rfl, rfl, hcalls⟩
  | begins a x =>
    exact ⟨_, hrun.next (a := .begin a) trivial rfl, like_take (by exact hcalls) _ x⟩
  | spawns x _ _ a =>
    exact ⟨_, hrun.next (a := .begin a) trivial rfl, like_take (by exact hcalls) _ x⟩
  | proceeds x _ hp hturn =>
    exact ⟨_, hrun.next trivial (CallService.step_resume ((hcalls _).symm.trans hp) hturn),
      like_take (by exact hcalls) _ x⟩
  | hears x =>
    generalize hheard : E.hear _ _ _ _ x = r
    rcases (hear_cases hheard).2 with ⟨hsame, hevs⟩ | ⟨p, b, turn, hp, -, hturn, hevs, hsame⟩
    · rw [hevs, hsame, List.append_nil]
      exact ⟨_, hrun, rfl, rfl, hcalls⟩
    · -- the wait stays open, and the call goes on with the event at once
      have hstep' := CallService.step_resume ((hcalls _).symm.trans hp) hturn
      rw [hevs, hsame]
      refine ⟨_, hrun.next trivial hstep', rfl, rfl, fun c => ?_⟩
      rw [JsMap.get?_place, JsMap.get?_place, hcalls]

end EventLoop

end Anchr.Infra
