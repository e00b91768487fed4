import Anchr.Infra.CallService

/-!
# The history of one call

The calls of a service interleave, and only the shared memory connects them.
-/

namespace Anchr.Infra

variable {τ π ε α β : Type}

/-- The call begins and goes on in any memory. -/
inductive CallService.Trace (S : CallService τ π ε α β) (call : Nat) (a : α) :
    List ε → Option π → Prop
  | begin (t : τ) : Trace S call a (S.begin t call a).events (S.begin t call a).pending
  | resume {evs : List ε} {p : π} {t : τ} {b : β} {turn : CallTurn τ π ε} :
      Trace S call a evs (some p) → S.resume t call p b = some turn →
        Trace S call a (evs ++ turn.events) turn.pending

/-- After the turn, the call gets the answers one after the other, each in any memory. -/
inductive CallService.Feeds (S : CallService τ π ε α β) (call : Nat) :
    CallTurn τ π ε → List β → List ε → Option π → Prop
  | done (turn : CallTurn τ π ε) : Feeds S call turn [] turn.events turn.pending
  | next {turn turn' : CallTurn τ π ε} {p : π} {t : τ} {b : β} {bs : List β} {evs : List ε}
      {o : Option π} : turn.pending = some p → S.resume t call p b = some turn' →
        Feeds S call turn' bs evs o → Feeds S call turn (b :: bs) (turn.events ++ evs) o

/-- Every event names the call that emits it. -/
structure CallService.Names (S : CallService τ π ε α β) (callOf : ε → Nat) : Prop where
  begin : ∀ t call a, ∀ e ∈ (S.begin t call a).events, callOf e = call
  resume : ∀ {t call p b turn}, S.resume t call p b = some turn →
    ∀ e ∈ turn.events, callOf e = call

/-- The events of a call in a history. -/
def ownEvents (callOf : ε → Nat) (call : Nat) (tr : List ε) : List ε :=
  tr.filter fun e => callOf e = call

variable {callOf : ε → Nat} {call other : Nat} {tr evs : List ε}

theorem ownEvents_append_self (h : ∀ e ∈ evs, callOf e = call) :
    ownEvents callOf call (tr ++ evs) = ownEvents callOf call tr ++ evs := by
  have hall : evs.filter (fun e => callOf e = call) = evs :=
    List.filter_eq_self.mpr fun e he => decide_eq_true (h e he)
  rw [ownEvents, List.filter_append, hall, ownEvents]

theorem ownEvents_append_other (h : ∀ e ∈ evs, callOf e = other) (hne : call ≠ other) :
    ownEvents callOf call (tr ++ evs) = ownEvents callOf call tr := by
  have hnone : evs.filter (fun e => callOf e = call) = [] := by
    refine List.filter_eq_nil_iff.mpr fun e he => ?_
    rw [h e he]
    simpa using Ne.symm hne
  rw [ownEvents, List.filter_append, hnone, List.append_nil, ownEvents]

/-- Calls that have begun satisfy `P` with what they have emitted and where they are, and the others
have left nothing. -/
structure Histories (P : Nat → List ε → Option π → Prop) (callOf : ε → Nat) (tr : List ε)
    (s : CallState τ π) : Prop where
  begun : ∀ call, call < s.nextCall → P call (ownEvents callOf call tr) (s.calls.get? call)
  future : ∀ call, s.nextCall ≤ call → ownEvents callOf call tr = [] ∧ s.calls.get? call = none

structure Traced (S : CallService τ π ε α β) (callOf : ε → Nat) (tr : List ε)
    (s : CallState τ π) : Prop where
  begun : ∀ call, call < s.nextCall →
    ∃ a, S.Trace call a (ownEvents callOf call tr) (s.calls.get? call)
  future : ∀ call, s.nextCall ≤ call → ownEvents callOf call tr = [] ∧ s.calls.get? call = none

namespace CallService

variable {S : CallService τ π ε α β} {P : Nat → List ε → Option π → Prop}

variable {s s₀ : CallState τ π} {turn : CallTurn τ π ε} {G : CallState τ π → CallAction α β → Prop}

theorem Names.histories_begin (hS : S.Names callOf) (h : Histories P callOf tr s) (a : α)
    (hP : P s.nextCall (S.begin s.shared s.nextCall a).events
      (S.begin s.shared s.nextCall a).pending) :
    Histories P callOf (tr ++ (S.begin s.shared s.nextCall a).events)
      { shared := (S.begin s.shared s.nextCall a).shared
        calls := s.calls.place s.nextCall (S.begin s.shared s.nextCall a).pending
        nextCall := s.nextCall + 1 } := by
  have hnames := hS.begin s.shared s.nextCall a
  constructor
  · intro call hcall
    rw [JsMap.get?_place]
    by_cases hnew : call = s.nextCall
    · subst hnew
      rw [ownEvents_append_self hnames, (h.future _ (Nat.le_refl _)).1, if_pos rfl]
      exact hP
    · rw [ownEvents_append_other hnames hnew, if_neg hnew]
      exact h.begun call (Nat.lt_of_le_of_ne (Nat.lt_succ_iff.mp hcall) hnew)
  · intro call hcall
    have hnew : call ≠ s.nextCall := Nat.ne_of_gt hcall
    rw [JsMap.get?_place, if_neg hnew, ownEvents_append_other hnames hnew]
    exact h.future call (Nat.le_of_lt hcall)

variable {p : π} {b : β} {o : Option π} {bs : List β}

theorem Names.histories_resume (hS : S.Names callOf) (h : Histories P callOf tr s) {call : Nat}
    (hget : s.calls.get? call = some p) (hresume : S.resume s.shared call p b = some turn)
    (hP : ∀ {evs}, P call evs (some p) → P call (evs ++ turn.events) turn.pending) :
    Histories P callOf (tr ++ turn.events)
      { s with shared := turn.shared, calls := s.calls.place call turn.pending } := by
  have hnames := hS.resume hresume
  have hbegun : call < s.nextCall := by
    by_contra hge
    rw [(h.future call (Nat.le_of_not_lt hge)).2] at hget
    cases hget
  constructor
  · intro c hc
    rw [JsMap.get?_place]
    by_cases hsame : c = call
    · subst hsame
      rw [ownEvents_append_self hnames, if_pos rfl]
      exact hP (hget ▸ h.begun c hbegun)
    · rw [ownEvents_append_other hnames hsame, if_neg hsame]
      exact h.begun c hc
  · intro c hc
    have hother : c ≠ call := fun heq => absurd hbegun (Nat.not_lt.mpr (heq ▸ hc))
    rw [JsMap.get?_place, if_neg hother, ownEvents_append_other hnames hother]
    exact h.future c hc

/-- What the first turn of a call establishes and each later one keeps holds in every run. -/
theorem Names.histories_of_run (hS : S.Names callOf)
    (hbegin : ∀ {s a}, G s (.begin a) → P s.nextCall (S.begin s.shared s.nextCall a).events
      (S.begin s.shared s.nextCall a).pending)
    (hresume : ∀ {s call p b turn evs}, G s (.resume call b) → s.calls.get? call = some p →
      S.resume s.shared call p b = some turn → P call evs (some p) →
        P call (evs ++ turn.events) turn.pending) (hcalls : s₀.calls = .empty)
    (hnext : s₀.nextCall = 0) (h : Run S.machine G s₀ tr s) : Histories P callOf tr s := by
  refine Run.invariant (I := fun tr s => Histories P callOf tr s) ⟨?_, ?_⟩ ?_ h
  · intro c hc
    rw [hnext] at hc
    exact absurd hc (Nat.not_lt_zero c)
  · intro c _
    rw [hcalls]
    exact ⟨rfl, rfl⟩
  · intro tr s action s' evs hall hg hstep
    cases action with
    | begin a =>
      cases hstep
      exact hS.histories_begin hall a (hbegin hg)
    | resume c b =>
      simp only [machine, step] at hstep
      split at hstep
      next => cases hstep
      next p hget =>
        obtain ⟨turn, hturn, heq⟩ := Option.map_eq_some_iff.mp hstep
        cases heq
        exact hS.histories_resume hall hget hturn fun hP => hresume hg hget hturn hP

theorem Names.traced_of_run (hS : S.Names callOf) (hcalls : s₀.calls = .empty)
    (hnext : s₀.nextCall = 0) (h : Run S.machine G s₀ tr s) : Traced S callOf tr s := by
  have hall : Histories (fun call evs p => ∃ a, S.Trace call a evs p) callOf tr s := by
    refine hS.histories_of_run ?_ ?_ hcalls hnext h
    · intro s a _
      exact ⟨a, .begin s.shared⟩
    · rintro s call p b turn evs _ _ hturn ⟨a, htrace⟩
      exact ⟨a, htrace.resume hturn⟩
  exact ⟨hall.begun, hall.future⟩

theorem Names.trace_of_run (hS : S.Names callOf) (hcalls : s₀.calls = .empty)
    (hnext : s₀.nextCall = 0) (h : Run S.machine G s₀ tr s) {call : Nat}
    (hcall : call < s.nextCall) :
    ∃ a, S.Trace call a (ownEvents callOf call tr) (s.calls.get? call) :=
  (hS.traced_of_run hcalls hnext h).begun call hcall

/-- The events of the turn come first, and there are no others if the call has ended. -/
theorem Feeds.events_eq {call : Nat} {evs : List ε} (h : S.Feeds call turn bs evs o) :
    ∃ rest, evs = turn.events ++ rest ∧ (turn.pending = none → rest = []) := by
  cases h with
  | done => exact ⟨[], (List.append_nil _).symm, fun _ => rfl⟩
  | next hpending _ _ =>
    refine ⟨_, rfl, fun hnone => ?_⟩
    rw [hnone] at hpending
    cases hpending

theorem Feeds.snoc {call : Nat} {turn' : CallTurn τ π ε} {evs : List ε} {t : τ}
    (h : S.Feeds call turn bs evs o) (ho : o = some p) (hresume : S.resume t call p b = some turn') :
    S.Feeds call turn (bs ++ [b]) (evs ++ turn'.events) turn'.pending := by
  induction h with
  | done turn =>
    exact .next ho hresume (.done turn')
  | next hpending hresume' _ ih =>
    rw [List.append_assoc]
    exact .next hpending hresume' (ih ho)

theorem Trace.feeds {call : Nat} {a : α} {evs : List ε} (h : S.Trace call a evs o) :
    ∃ t bs, S.Feeds call (S.begin t call a) bs evs o := by
  induction h with
  | begin t => exact ⟨t, [], .done _⟩
  | resume _ hturn ih =>
    obtain ⟨t, bs, hfeeds⟩ := ih
    exact ⟨t, bs ++ [_], hfeeds.snoc rfl hturn⟩

theorem Names.begun_of_mem (hS : S.Names callOf) (hcalls : s₀.calls = .empty)
    (hnext : s₀.nextCall = 0) (h : Run S.machine G s₀ tr s) {e : ε} (he : e ∈ tr) :
    callOf e < s.nextCall := by
  by_contra hge
  have hnone := ((hS.traced_of_run hcalls hnext h).future _ (Nat.le_of_not_lt hge)).1
  have hown : e ∈ ownEvents callOf (callOf e) tr := List.mem_filter.mpr ⟨he, decide_eq_true rfl⟩
  rw [hnone] at hown
  cases hown

end CallService

end Anchr.Infra
