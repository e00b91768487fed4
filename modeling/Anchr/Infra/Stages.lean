import Anchr.Infra.CallTrace

/-!
# Calls that go through stages

The events of a call are numbered by stages, and a call that is suspended stands at one. What a call
needs at a stage is written in what it has emitted.
-/

namespace Anchr.Infra

variable {τ π ε α β : Type}

/-- The numbering, what is known of a suspended call, and what justifies an event. -/
structure Stages (π ε : Type) where
  callOf : ε → Nat
  event : ε → Nat
  pending : π → Nat
  /-- What the events of a call say about where it is suspended. -/
  Known : Nat → List ε → π → Prop
  /-- What they say before an event. -/
  Justifies : Nat → List ε → ε → Prop
  /-- What the events of a call that is over say. -/
  Over : List ε → Prop
  /-- Where a call may take an answer and stay. -/
  Waits : π → Prop
  /-- What the call is about, wherever it is suspended. -/
  About : π → Prop

namespace Stages

variable (L : Stages π ε)

/-- A turn of a call that stands at a stage and knows `K`. -/
structure Advances (call stage : Nat) (K : List ε → Prop) (turn : CallTurn τ π ε) : Prop where
  names : ∀ e ∈ turn.events, L.callOf e = call
  ordered : (turn.events.map L.event).Pairwise (· < ·)
  after : ∀ e ∈ turn.events, stage ≤ L.event e
  justified : ∀ evs, (∀ e ∈ evs, L.event e < stage) → K evs →
    JustifiedAfter (L.Justifies call) evs turn.events
  next : ∀ q, turn.pending = some q → stage ≤ L.pending q ∧
    (∀ e ∈ turn.events, L.event e < L.pending q) ∧
    ∀ evs, K evs → L.Known call (evs ++ turn.events) q
  ends : turn.pending = none → ∀ evs, K evs → L.Over (evs ++ turn.events)
  moves : ∀ q, turn.pending = some q → stage < L.pending q ∨ L.Waits q
  about : ∀ q, turn.pending = some q → L.About q

/-- What a call has emitted, and where it is. -/
structure Progress (call : Nat) (evs : List ε) (o : Option π) : Prop where
  ordered : (evs.map L.event).Pairwise (· < ·)
  justified : Justified (L.Justifies call) evs
  ended : o = none → L.Over evs
  suspended : ∀ p, o = some p → (∀ e ∈ evs, L.event e < L.pending p) ∧ L.Known call evs p
  about : ∀ p, o = some p → L.About p

variable {L} {call stage : Nat} {K : List ε → Prop} {t : τ}

/-! ## Turns -/

variable {q : π} {e : ε} {o : Option π} {turn : CallTurn τ π ε} {evs : List ε}

theorem Advances.waiting (hstage : stage ≤ L.pending q) (hmoves : stage < L.pending q ∨ L.Waits q)
    (habout : L.About q) (hknown : ∀ evs, K evs → L.Known call evs q) :
    L.Advances call stage K { shared := t, events := [], pending := some q } where
  names := by simp
  ordered := by simp
  after := by simp
  justified _ _ _ := trivial
  next q' hq' := by
    obtain rfl := Option.some.inj hq'
    refine ⟨hstage, by simp, fun evs h => ?_⟩
    rw [List.append_nil]
    exact hknown evs h
  ends h := by cases h
  moves q' hq' := by
    obtain rfl := Option.some.inj hq'
    exact hmoves
  about q' hq' := Option.some.inj hq' ▸ habout

theorem Advances.silent (hover : ∀ evs, K evs → L.Over evs) :
    L.Advances call stage K { shared := t, events := [], pending := none } where
  names := by simp
  ordered := by simp
  after := by simp
  justified _ _ _ := trivial
  next q hq := by cases hq
  ends _ evs h := (List.append_nil evs).symm ▸ hover evs h
  moves q hq := by cases hq
  about q hq := by cases hq

/-- An event before a turn: the call stands at a later stage after it, and knows more. -/
theorem Advances.cons {stage' : Nat} {K' : List ε → Prop} {events : List ε}
    (hname : L.callOf e = call) (hafter : stage ≤ L.event e) (hbefore : L.event e < stage')
    (hjustified : ∀ evs, (∀ e ∈ evs, L.event e < stage) → K evs → L.Justifies call evs e)
    (hK : ∀ evs, K evs → K' (evs ++ [e]))
    (h : L.Advances call stage' K' { shared := t, events := events, pending := o }) :
    L.Advances call stage K { shared := t, events := e :: events, pending := o } where
  names e' he' := by
    rcases List.mem_cons.mp he' with rfl | he'
    · exact hname
    · exact h.names e' he'
  ordered := by
    rw [List.map_cons, List.pairwise_cons]
    refine ⟨fun n hn => ?_, h.ordered⟩
    obtain ⟨e', he', rfl⟩ := List.mem_map.mp hn
    exact Nat.lt_of_lt_of_le hbefore (h.after e' he')
  after e' he' := by
    rcases List.mem_cons.mp he' with rfl | he'
    · exact hafter
    · exact Nat.le_trans (Nat.le_of_lt (Nat.lt_of_le_of_lt hafter hbefore)) (h.after e' he')
  justified evs hearlier hknown := by
    refine ⟨hjustified evs hearlier hknown, h.justified _ (fun e' he' => ?_) (hK evs hknown)⟩
    rcases List.mem_append.mp he' with he' | he'
    · exact Nat.lt_trans (Nat.lt_of_lt_of_le (hearlier e' he') hafter) hbefore
    · rw [List.mem_singleton.mp he']
      exact hbefore
  next q hq := by
    obtain ⟨hstage, hevents, hknown⟩ := h.next q hq
    refine ⟨Nat.le_trans (Nat.le_of_lt (Nat.lt_of_le_of_lt hafter hbefore)) hstage,
      fun e' he' => ?_, fun evs hevs => ?_⟩
    · rcases List.mem_cons.mp he' with rfl | he'
      · exact Nat.lt_of_lt_of_le hbefore hstage
      · exact hevents e' he'
    · have hcons := hknown _ (hK evs hevs)
      rwa [List.append_assoc, List.singleton_append] at hcons
  ends ho evs hevs := by
    have hcons := h.ends ho _ (hK evs hevs)
    rwa [List.append_assoc, List.singleton_append] at hcons
  moves q hq :=
    .inl (Nat.lt_of_lt_of_le (Nat.lt_of_le_of_lt hafter hbefore) (h.next q hq).1)
  about := h.about

theorem Advances.ended (hname : L.callOf e = call) (hstage : stage ≤ L.event e)
    (hover : ∀ evs, L.Over (evs ++ [e]))
    (hjustified : ∀ evs, (∀ e ∈ evs, L.event e < stage) → K evs → L.Justifies call evs e) :
    L.Advances call stage K { shared := t, events := [e], pending := none } :=
  .cons hname hstage (Nat.lt_succ_self _) hjustified (fun evs _ => hover evs) (.silent fun _ h => h)

theorem Advances.emit (hname : L.callOf e = call) (hafter : stage ≤ L.event e)
    (hbefore : L.event e < L.pending q)
    (hjustified : ∀ evs, (∀ e ∈ evs, L.event e < stage) → K evs → L.Justifies call evs e)
    (habout : L.About q) (hknown : ∀ evs, K evs → L.Known call (evs ++ [e]) q) :
    L.Advances call stage K { shared := t, events := [e], pending := some q } where
  names := by simpa using hname
  ordered := by simp
  after := by simpa using hafter
  justified evs hearlier h := ⟨hjustified evs hearlier h, trivial⟩
  next q' hq' := by
    obtain rfl := Option.some.inj hq'
    exact ⟨Nat.le_of_lt (Nat.lt_of_le_of_lt hafter hbefore), by simpa using hbefore, hknown⟩
  ends h := by cases h
  moves q' hq' := by
    obtain rfl := Option.some.inj hq'
    exact .inl (Nat.lt_of_le_of_lt hafter hbefore)
  about q' hq' := Option.some.inj hq' ▸ habout

/-! ## Calls -/

theorem Progress.begin (h : L.Advances call 0 (· = []) turn) :
    L.Progress call turn.events turn.pending where
  ordered := h.ordered
  justified := (Justified.nil _).append (h.justified [] (by simp) rfl)
  ended ho := h.ends ho [] rfl
  suspended q hq := by
    obtain ⟨-, hevents, hknown⟩ := h.next q hq
    exact ⟨hevents, hknown [] rfl⟩
  about := h.about

theorem Progress.resume {p : π} (h : L.Progress call evs (some p))
    (hturn : L.Advances call (L.pending p) (fun evs => L.Known call evs p) turn) :
    L.Progress call (evs ++ turn.events) turn.pending := by
  obtain ⟨hbefore, hknown⟩ := h.suspended p rfl
  refine ⟨?_, h.justified.append (hturn.justified evs hbefore hknown),
    fun ho => hturn.ends ho evs hknown, fun q hq => ?_, hturn.about⟩
  · rw [List.map_append, List.pairwise_append]
    refine ⟨h.ordered, hturn.ordered, ?_⟩
    intro a ha b hb
    obtain ⟨e, he, rfl⟩ := List.mem_map.mp ha
    obtain ⟨e', he', rfl⟩ := List.mem_map.mp hb
    exact Nat.lt_of_lt_of_le (hbefore e he) (hturn.after e' he')
  · obtain ⟨hstage, hnew, hnext⟩ := hturn.next q hq
    refine ⟨fun e he => ?_, hnext evs hknown⟩
    rcases List.mem_append.mp he with he | he
    · exact Nat.lt_of_lt_of_le (hbefore e he) hstage
    · exact hnew e he

theorem Progress.countP_le_one (h : L.Progress call evs o) {P : ε → Bool} {n : Nat}
    (hP : ∀ e, P e = true → L.event e = n) : evs.countP P ≤ 1 := by
  have hnodup : (evs.map L.event).Nodup := h.ordered.imp Nat.ne_of_lt
  calc evs.countP P ≤ evs.countP (fun e => L.event e == n) :=
        List.countP_mono_left fun e _ he => by simp [hP e he]
    _ = (evs.map L.event).count n := by rw [List.count, List.countP_map]; rfl
    _ ≤ 1 := List.nodup_iff_count_le_one.mp hnodup n

theorem Progress.eq_of_stage (h : L.Progress call evs o) {e' : ε} (he : e ∈ evs) (he' : e' ∈ evs)
    (hstage : L.event e = L.event e') : e = e' := by
  have hnodup : (evs.map L.event).Nodup := h.ordered.imp Nat.ne_of_lt
  exact List.inj_on_of_nodup_map hnodup he he' hstage

theorem Progress.justifies (h : L.Progress call evs o) (he : e ∈ evs) :
    ∃ pre post, evs = pre ++ e :: post ∧ L.Justifies call pre e := by
  obtain ⟨pre, post, heq⟩ := List.append_of_mem he
  exact ⟨pre, post, heq, h.justified pre e post heq⟩

variable {S : CallService τ π ε α β} {G : CallState τ π → CallAction α β → Prop}

theorem progress_of_run (hS : S.Names L.callOf)
    (hbegin : ∀ {s a}, G s (.begin a) →
      L.Advances s.nextCall 0 (· = []) (S.begin s.shared s.nextCall a))
    (hresume : ∀ {s call p b turn}, G s (.resume call b) → s.calls.get? call = some p →
      S.resume s.shared call p b = some turn →
        L.Advances call (L.pending p) (fun evs => L.Known call evs p) turn)
    {s₀ s : CallState τ π} (hcalls : s₀.calls = .empty) (hnext : s₀.nextCall = 0) {tr : List ε}
    (h : Run S.machine G s₀ tr s) : Histories L.Progress L.callOf tr s := by
  refine hS.histories_of_run ?_ ?_ hcalls hnext h
  · intro s a hg
    exact .begin (hbegin hg)
  · intro s call p b turn evs hg hget hturn hprogress
    exact hprogress.resume (hresume hg hget hturn)

end Stages

/-! ## The end of a call -/

/-- Whatever the answers are, the call has ended after `n` of them. -/
def CallService.SettlesWithin (S : CallService τ π ε α β) (call : Nat) : Nat → π → Prop
  | 0, _ => False
  | n + 1, p => ∀ t b turn, S.resume t call p b = some turn →
      ∀ q, turn.pending = some q → S.SettlesWithin call n q

/-- Each answer moves the call up, and there is only so far to go. -/
theorem CallService.settlesWithin_of_rank {S : CallService τ π ε α β} {call bound : Nat}
    {rank : π → Nat} {C : π → Prop}
    (hstep : ∀ {t p b turn q}, C p → S.resume t call p b = some turn → turn.pending = some q →
      C q ∧ rank p < rank q)
    (hbound : ∀ p, C p → rank p < bound) :
    ∀ (n : Nat) (p : π), C p → bound ≤ n + rank p → S.SettlesWithin call n p := by
  intro n
  induction n with
  | zero =>
    intro p hp hn
    have hlt := hbound p hp
    omega
  | succ n ih =>
    intro p hp hn t b turn hresume q hq
    obtain ⟨hC, hlt⟩ := hstep hp hresume hq
    exact ih q hC (by omega)

end Anchr.Infra
