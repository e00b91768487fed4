import Anchr.Infra.EventLoopRuns

/-!
# Events that are handed over

What becomes of an event that is published.
-/

namespace Anchr.Infra

variable {τ π ε α β ev φ l d : Type}

namespace EventLoop

variable {E : EventLoop τ π ε α β ev φ l d} {s : LoopState τ π β ev φ l} {callOf : ε → Nat}

/-! ## What is handed over -/

theorem publishAll_log (call : Nat) : ∀ (events : List ev) (s : LoopState τ π β ev φ l),
    (events.foldl (E.publish call) s).log = s.log ++ events.map fun event => (call, event)
  | [], s => (List.append_nil _).symm
  | event :: events, s => by
    rw [List.foldl_cons, publishAll_log call events]
    simp [publish]

theorem publishAll_queue (call : Nat) : ∀ (events : List ev) (s : LoopState τ π β ev φ l),
    s.queue ⊆ (events.foldl (E.publish call) s).queue
  | [], _ => List.Subset.refl _
  | event :: events, s =>
    List.Subset.trans (List.subset_append_left _ _)
      (publishAll_queue call events (E.publish call s event))

theorem publishAll_deliver {call : Nat} {sub : Subscription φ l} : ∀ {events : List ev}
    {s : LoopState τ π β ev φ l}, sub ∈ s.subs → ∀ {n c event}, s.log.length ≤ n →
      (events.foldl (E.publish call) s).log[n]? = some (c, event) →
      E.accepts sub.filter event = true →
        .deliver sub n event ∈ (events.foldl (E.publish call) s).queue
  | [], s, _, n, c, event, hn, hget, _ => by
    rw [List.foldl_nil, List.getElem?_eq_none hn] at hget
    cases hget
  | e :: events, s, hsub, n, c, event, hn, hget, haccepts => by
    by_cases hlt : n = s.log.length
    · subst hlt
      rw [publishAll_log, List.getElem?_append_right (Nat.le_refl _), Nat.sub_self] at hget
      cases hget
      refine publishAll_queue call events (E.publish call s e) (List.mem_append_right _ ?_)
      exact List.mem_map.mpr ⟨sub, List.mem_filter.mpr ⟨hsub, haccepts⟩, rfl⟩
    · refine publishAll_deliver (s := E.publish call s e) hsub ?_ hget haccepts
      simp only [publish, List.length_append, List.length_singleton]
      omega

theorem mem_publishAll_queue {call : Nat} {sub : Subscription φ l} {n : Nat} {event : ev} :
    ∀ {events : List ev} {s : LoopState τ π β ev φ l},
      .deliver sub n event ∈ (events.foldl (E.publish call) s).queue →
        .deliver sub n event ∈ s.queue ∨ (sub ∈ s.subs ∧ s.log.length ≤ n)
  | [], _, h => .inl h
  | e :: events, s, h => by
    rcases mem_publishAll_queue (s := E.publish call s e) h with h | ⟨hsub, hn⟩
    · rcases List.mem_append.mp h with h | h
      · exact .inl h
      · obtain ⟨sub', hsub', heq⟩ := List.mem_map.mp h
        obtain ⟨rfl, rfl, -⟩ := Task.deliver.inj heq
        exact .inr ⟨(List.mem_filter.mp hsub').1, Nat.le_refl _⟩
    · refine .inr ⟨hsub, Nat.le_trans ?_ hn⟩
      simp [publish]

theorem suspend_frame (s : LoopState τ π β ev φ l) (call : Nat) (pending : Option π) (x : d) :
    (E.suspend s call pending x).log = s.log ∧ (E.suspend s call pending x).heard = s.heard ∧
      (E.suspend s call pending x).calls.nextCall = s.calls.nextCall ∧
      ∃ tasks, (E.suspend s call pending x).queue = s.queue ++ tasks ∧
        ∀ sub n event, .deliver sub n event ∉ tasks := by
  unfold suspend
  split
  next => exact ⟨rfl, rfl, rfl, [], (List.append_nil _).symm, by simp⟩
  dsimp only
  split
  next => exact ⟨rfl, rfl, rfl, _, rfl, by simp⟩
  split
  next => exact ⟨rfl, rfl, rfl, [], (List.append_nil _).symm, by simp⟩
  next => exact ⟨rfl, rfl, rfl, [], (List.append_nil _).symm, by simp⟩

structure Hands (call : Nat) (s s' : LoopState τ π β ev φ l) : Prop where
  heard : s'.heard = s.heard
  nextCall : s'.calls.nextCall = s.calls.nextCall
  log : s.log.length ≤ s'.log.length
  kept : s.queue ⊆ s'.queue
  subscribed : ∀ sub n event, .deliver sub n event ∈ s'.queue → .deliver sub n event ∈ s.queue ∨
    (sub ∈ s.subs ∧ sub.handler ≠ .wait call ∧ s.log.length ≤ n)
  delivered : ∀ sub ∈ s.subs, sub.handler ≠ .wait call → ∀ n c event, s.log.length ≤ n →
    s'.log[n]? = some (c, event) → E.accepts sub.filter event = true →
      .deliver sub n event ∈ s'.queue

theorem hands_take (s : LoopState τ π β ev φ l) (call : Nat) (turn : CallTurn τ π ε) (x : d) :
    E.Hands call s (E.take s call turn x) := by
  obtain ⟨hcalls, -, hheard, -⟩ := publishAll_frame E call (turn.events.filterMap E.published)
    { s.withdraw call with calls := { (s.withdraw call).calls with shared := turn.shared } }
  obtain ⟨hlog, hheard', hnext, tasks, hqueue, htasks⟩ := suspend_frame (E := E)
    ((turn.events.filterMap E.published).foldl (E.publish call)
      { s.withdraw call with calls := { (s.withdraw call).calls with shared := turn.shared } })
    call turn.pending x
  constructor
  case heard => exact hheard'.trans hheard
  case nextCall =>
    rw [take, hnext, hcalls]
    rfl
  case log =>
    rw [take, hlog, publishAll_log, List.length_append]
    exact Nat.le_add_right _ _
  case kept =>
    rw [take, hqueue]
    exact fun task hmem => List.mem_append_left _ (publishAll_queue call _ _ hmem)
  case subscribed =>
    intro sub n event hmem
    rw [take, hqueue] at hmem
    rcases mem_publishAll_queue ((List.mem_append.mp hmem).resolve_right (htasks sub n event))
      with hold | ⟨hsub, hn⟩
    · exact .inl hold
    · obtain ⟨hsub, hne⟩ := mem_close.mp hsub
      exact .inr ⟨hsub, hne, hn⟩
  case delivered =>
    intro sub hsub hne n c event hn hget haccepts
    rw [take, hlog] at hget
    rw [take, hqueue]
    refine List.mem_append_left _ (publishAll_deliver ?_ hn hget haccepts)
    exact mem_close.mpr ⟨hsub, hne⟩

structure Effect (s s' : LoopState τ π β ev φ l) : Prop where
  nextCall : s.calls.nextCall ≤ s'.calls.nextCall
  log : s.log.length ≤ s'.log.length
  heard : s.heard ⊆ s'.heard
  /-- A delivery that leaves the queue has been made. -/
  kept : ∀ sub n event, .deliver sub n event ∈ s.queue → .deliver sub n event ∈ s'.queue ∨
    ∀ c, sub.handler = .wait c → (c, n) ∈ s'.heard
  numbered : ∀ sub n event, .deliver sub n event ∈ s'.queue → .deliver sub n event ∈ s.queue ∨
    s.log.length ≤ n
  /-- Only what was queued for a wait is heard there. -/
  justified : ∀ c n, (c, n) ∈ s'.heard → (c, n) ∈ s.heard ∨ s.calls.nextCall ≤ c ∨
    ∃ sub event, sub.handler = .wait c ∧ .deliver sub n event ∈ s.queue

theorem Effect.of_eq {s' : LoopState τ π β ev φ l} {tasks : List (Task ev φ l)}
    (hnext : s'.calls.nextCall = s.calls.nextCall) (hlog : s'.log = s.log)
    (hheard : s'.heard = s.heard) (hqueue : s'.queue = s.queue ++ tasks)
    (htasks : ∀ sub n event, .deliver sub n event ∉ tasks) : Effect s s' where
  nextCall := Nat.le_of_eq hnext.symm
  log := Nat.le_of_eq (by rw [hlog])
  heard := by
    rw [hheard]
    exact List.Subset.refl _
  kept sub n event hmem := .inl (by rw [hqueue]; exact List.mem_append_left _ hmem)
  numbered sub n event hmem := by
    rw [hqueue] at hmem
    exact .inl ((List.mem_append.mp hmem).resolve_right (htasks sub n event))
  justified c n hmem := .inl (hheard ▸ hmem)

variable {rest : List (Task ev φ l)} {k n c : Nat} {event : ev} {evs : List ε}

variable {m : Option Nat} {sub : Subscription φ l} {x : d} {action : LoopAction α β φ l d} {q p : π}
  {s' : LoopState τ π β ev φ l}

theorem Hands.effect_proceed {call : Nat} (hqueue : s.queue = .proceed k m :: rest)
    (h : E.Hands call { s with queue := rest } s') : Effect s s' where
  nextCall := Nat.le_of_eq h.nextCall.symm
  log := h.log
  heard := by
    rw [h.heard]
    exact List.Subset.refl _
  kept sub n event hmem := by
    rw [hqueue] at hmem
    exact .inl (h.kept ((List.mem_cons.mp hmem).resolve_left (by simp)))
  numbered sub n event hmem := by
    rcases h.subscribed sub n event hmem with hold | ⟨-, -, hn⟩
    · exact .inl (hqueue ▸ List.mem_cons_of_mem _ hold)
    · exact .inr hn
  justified c n hmem := .inl (h.heard ▸ hmem)

theorem effect_deliver (hqueue : s.queue = .deliver sub n event :: rest)
    (hk : s.calls.nextCall ≤ k ∨ sub.handler = .wait k) (hsub : ∀ c, sub.handler = .wait c → c = k)
    (hnext : s.calls.nextCall ≤ s'.calls.nextCall) (hlog : s.log.length ≤ s'.log.length)
    (hheard : s'.heard = s.heard ++ [(k, n)]) (hkept : rest ⊆ s'.queue)
    (hnumbered : ∀ sub n event, .deliver sub n event ∈ s'.queue →
      .deliver sub n event ∈ rest ∨ s.log.length ≤ n) : Effect s s' where
  nextCall := hnext
  log := hlog
  heard := by
    rw [hheard]
    exact List.subset_append_left _ _
  kept sub' n' event' hmem := by
    rw [hqueue] at hmem
    rcases List.mem_cons.mp hmem with heq | hmem
    · obtain ⟨rfl, rfl, rfl⟩ := Task.deliver.inj heq
      refine .inr fun c hc => ?_
      rw [hheard, hsub c hc]
      exact List.mem_concat_self
    · exact .inl (hkept hmem)
  numbered sub' n' event' hmem := by
    rcases hnumbered sub' n' event' hmem with hold | hn
    · exact .inl (hqueue ▸ List.mem_cons_of_mem _ hold)
    · exact .inr hn
  justified c m hmem := by
    rw [hheard] at hmem
    rcases List.mem_append.mp hmem with hmem | hmem
    · exact .inl hmem
    · obtain ⟨rfl, rfl⟩ := Prod.mk.inj (List.mem_singleton.mp hmem)
      rcases hk with hk | hk
      · exact .inr (.inl hk)
      · exact .inr (.inr ⟨sub, event, hk, hqueue ▸ List.mem_cons_self⟩)

theorem effect_step (hstep : E.step s action = some (s', evs)) : Effect s s' := by
  cases move_of_step hstep with
  | begins a x =>
    have hhands := hands_take (E := E)
      { s with calls := { s.calls with nextCall := s.calls.nextCall + 1 } } s.calls.nextCall
      (E.service.begin s.calls.shared s.calls.nextCall a) x
    refine ⟨?_, hhands.log, ?_, fun sub n event hmem => .inl (hhands.kept hmem),
      fun sub n event hmem => (hhands.subscribed sub n event hmem).imp_right (·.2.2),
      fun c n hmem => .inl (hhands.heard ▸ hmem)⟩
    · rw [beginCall, hhands.nextCall]
      exact Nat.le_succ _
    · rw [beginCall, hhands.heard]
      exact List.Subset.refl _
  | listens nextSub hwaits => exact .of_eq rfl rfl rfl (List.append_nil _).symm (by simp)
  | settles call b => exact .of_eq rfl rfl rfl (List.append_nil _).symm (by simp)
  | enqueues call => exact .of_eq rfl rfl rfl rfl (by simp)
  | proceeds x hqueue => exact (hands_take _ _ _ x).effect_proceed hqueue
  | @spawns sub n event rest listener x hqueue hsub a =>
    have hhands := hands_take (E := E)
      { s with
        queue := rest
        heard := s.heard ++ [(s.calls.nextCall, n)]
        calls := { s.calls with nextCall := s.calls.nextCall + 1 } }
      s.calls.nextCall (E.service.begin s.calls.shared s.calls.nextCall a) x
    refine effect_deliver hqueue (.inl (Nat.le_refl _)) (fun c hc => ?_) ?_ hhands.log
      hhands.heard hhands.kept
      fun sub n event hmem => (hhands.subscribed sub n event hmem).imp_right (·.2.2)
    · cases hsub.symm.trans hc
    · rw [beginCall, hhands.nextCall]
      exact Nat.le_succ _
  | @hears sub n event rest call x hqueue hsub =>
    obtain ⟨⟨hrest, hlog, hheard, hnext⟩, -⟩ := hear_cases (rfl : E.hear
      { s with queue := rest, heard := s.heard ++ [(call, n)] } sub call event x = _)
    refine effect_deliver hqueue (.inr hsub)
      (fun c hc => Handler.wait.inj (hc.symm.trans hsub)) (Nat.le_of_eq hnext.symm)
      (Nat.le_of_eq (congrArg List.length hlog.symm)) hheard ?_ fun sub n event hmem => ?_
    · rw [hrest]
      exact List.Subset.refl _
    · rw [hrest] at hmem
      exact .inl hmem

/-! ## Where calls are suspended -/

/-- What holds where calls are suspended and is kept by their turns. -/
structure Places (E : EventLoop τ π ε α β ev φ l d) (I : π → Prop) : Prop where
  begin : ∀ {t call a p}, (E.service.begin t call a).pending = some p → I p
  resume : ∀ {t call p b turn q}, I p → E.service.resume t call p b = some turn →
    turn.pending = some q → I q

theorem Places.of_run {I : π → Prop} (hE : E.Places I)
    {G : LoopState τ π β ev φ l → LoopAction α β φ l d → Prop} {shared : τ} {tr : List ε}
    (hrun : Run E.machine G { calls := { shared := shared } } tr s) :
    ∀ c p, s.calls.calls.get? c = some p → I p := by
  intro c p hp
  obtain ⟨s', hrun', hlike⟩ := service_run hrun
  refine Run.invariant (I := fun _ (s : CallState τ π) => ∀ c p, s.calls.get? c = some p → I p)
    (fun c p hp => by cases hp) ?_ hrun' c p (hlike.calls c ▸ hp)
  intro tr s a s' evs hall _ hstep c q hq
  obtain ⟨call, turn, htakes, -, hcalls, -⟩ := CallService.takes_of_step hstep
  rw [hcalls, JsMap.get?_place] at hq
  split at hq
  next =>
    cases htakes with
    | begin => exact hE.begin hq
    | resume hp hturn => exact hE.resume (hall _ _ hp) hturn hq
  next => exact hall c q hq

/-! ## What becomes of it -/

variable {G : LoopState τ π β ev φ l → LoopAction α β φ l d → Prop} {tr : List ε}

theorem delivered_of_run (h : Run E.machine G s tr s') (hsub : sub.handler = .wait c)
    (hqueue : .deliver sub n event ∈ s.queue) :
    .deliver sub n event ∈ s'.queue ∨ (c, n) ∈ s'.heard := by
  refine Run.invariant (I := fun _ s' => .deliver sub n event ∈ s'.queue ∨ (c, n) ∈ s'.heard)
    (.inl hqueue) ?_ h
  intro tr s₁ action s₂ evs ih _ hstep
  have heffect := effect_step hstep
  rcases ih with hmem | hmem
  · rcases heffect.kept sub n event hmem with hmem | hheard
    · exact .inl hmem
    · exact .inr (hheard c hsub)
  · exact .inr (heffect.heard hmem)

/-- A publication that was not handed to a call when it was made is never heard there. -/
theorem unheard_of_run (h : Run E.machine G s tr s') (hc : c < s.calls.nextCall)
    (hn : n < s.log.length) (hheard : (c, n) ∉ s.heard)
    (hqueue : ∀ sub event, sub.handler = .wait c → .deliver sub n event ∉ s.queue) :
    (c, n) ∉ s'.heard := by
  have hall : c < s'.calls.nextCall ∧ n < s'.log.length ∧ (c, n) ∉ s'.heard ∧
      ∀ sub event, sub.handler = .wait c → .deliver sub n event ∉ s'.queue := by
    refine Run.invariant (I := fun _ s' => c < s'.calls.nextCall ∧ n < s'.log.length ∧
      (c, n) ∉ s'.heard ∧ ∀ sub event, sub.handler = .wait c → .deliver sub n event ∉ s'.queue)
      ⟨hc, hn, hheard, hqueue⟩ ?_ h
    intro tr s₁ action s₂ evs ⟨hc, hn, hheard, hqueue⟩ _ hstep
    have heffect := effect_step hstep
    refine ⟨Nat.lt_of_lt_of_le hc heffect.nextCall, Nat.lt_of_lt_of_le hn heffect.log, ?_, ?_⟩
    · intro hmem
      rcases heffect.justified c n hmem with hold | hnew | ⟨sub, event, hsub, hmem⟩
      · exact hheard hold
      · omega
      · exact hqueue sub event hsub hmem
    · intro sub event hsub hmem
      rcases heffect.numbered sub n event hmem with hold | hnew
      · exact hqueue sub event hsub hold
      · omega
  exact hall.2.2.1

/-! ## Replies -/

theorem Coherent.proceeds (hE : E.Lawful callOf) (h : E.Coherent s)
    (hstep : E.step s action = some (s', evs)) {e : ε} (he : e ∈ evs)
    (hp : s.calls.calls.get? (callOf e) = some p) :
    ∃ x m rest b turn, action = .run x ∧ s.queue = .proceed (callOf e) m :: rest ∧
      E.service.resume s.calls.shared (callOf e) p b = some turn ∧ evs = turn.events ∧
      s' = E.take { s with queue := rest } (callOf e) turn x := by
  have hnew : ∀ a, e ∈ (E.service.begin s.calls.shared s.calls.nextCall a).events → False := by
    intro a hmem
    rw [hE.names.begin _ _ _ e hmem, h.fresh _ (Nat.le_refl _)] at hp
    cases hp
  cases move_of_step hstep with
  | begins a x => exact absurd he (hnew a)
  | listens | settles | enqueues => cases he
  | @proceeds call m rest q b turn x hqueue hq hturn =>
    obtain rfl := hE.names.resume hturn e he
    obtain rfl := Option.some.inj (hp.symm.trans hq)
    exact ⟨x, m, rest, b, turn, rfl, hqueue, hturn, rfl, rfl⟩
  | spawns x _ _ a => exact absurd he (hnew a)
  | hears x =>
    -- a wait that stays open emits nothing
    generalize hheard : E.hear _ _ _ _ x = r at he
    rcases (hear_cases hheard).2 with ⟨-, hevs⟩ | ⟨p, b, turn, -, hhears, hturn, hevs, -⟩
    · rw [hevs] at he
      cases he
    · rw [hevs, (hE.stays hhears hturn).1] at he
      cases he

/-- What becomes of a reply: call `k` was handed the last publication of `c`, and publishes `event`
as number `i`. Then `c` has gone on. It gets the event if it waits for such, and never if it does
not wait. -/
theorem Coherent.reply (h : E.Coherent s) {i : Nat} (hqueue : s.queue = .proceed k m :: rest)
    (hheard : (k, n) ∈ s.heard) (hlast : IsLast s.log c n) (hne : c ≠ k)
    (hp : s.calls.calls.get? c = some p) {turn : CallTurn τ π ε}
    (hs' : s' = E.take { s with queue := rest } k turn x) (hi : s.log.length ≤ i)
    (hget : s'.log[i]? = some (k, event)) :
    E.sends p = false ∧
      (∀ filter, E.wait p = some filter → s.due.get? c = none → E.accepts filter event = true →
        ∀ {tr s''}, Run E.machine G s' tr s'' → s''.queue = [] → (c, i) ∈ s''.heard) ∧
      (E.wait p = none → ∀ {tr s''}, Run E.machine G s' tr s'' → (c, i) ∉ s''.heard) := by
  have hhands : E.Hands k { s with queue := rest } s' := hs' ▸ hands_take _ k turn x
  refine ⟨h.unsent_of_heard hqueue hheard hlast hne hp, ?_, ?_⟩
  · intro filter hwait hdue haccepts tr s'' hrun hempty
    obtain ⟨id, hsub⟩ := h.opened c p filter hp hwait hdue
    have hhanded := hhands.delivered _ hsub (fun heq => hne (Handler.wait.inj heq)) i k event hi
      hget haccepts
    rcases delivered_of_run hrun rfl hhanded with hmem | hmem
    · rw [hempty] at hmem
      cases hmem
    · exact hmem
  · intro hwait tr s'' hrun
    refine unheard_of_run hrun (Nat.lt_of_lt_of_eq (h.begun hp) hhands.nextCall.symm)
      (List.getElem?_eq_some_iff.mp hget).1 (fun hmem => ?_) fun sub e hsub hmem => ?_
    · rw [hhands.heard] at hmem
      exact absurd (h.heardOf c i hmem) (Nat.not_lt.mpr hi)
    · rcases hhands.subscribed sub i e hmem with hold | ⟨hopen, -, -⟩
      · have hnumber := h.numbered sub i e (hqueue ▸ List.mem_cons_of_mem _ hold)
        exact absurd hnumber (Nat.not_lt.mpr hi)
      · obtain ⟨q, hq, hfilter⟩ := h.closed sub hopen c hsub
        obtain rfl := Option.some.inj (hp.symm.trans hq)
        rw [hwait] at hfilter
        cases hfilter

end EventLoop

end Anchr.Infra
