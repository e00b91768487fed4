import Anchr.Infra.EventLoop

/-!
# The order of microtasks

A call that is handed a publication cannot have been queued between its deliveries and its
publisher, so whoever acts on it acts later.
-/

namespace Anchr.Infra

variable {τ π ε α β ev φ l d : Type}

namespace EventLoop

variable (E : EventLoop τ π ε α β ev φ l d)

/-! ## What every step keeps -/

/-- What a loop relies on: events name their calls, a call awaits a publication in the turn that
makes it, and an event that a wait takes without ending leaves the call in the same wait. -/
structure Lawful (callOf : ε → Nat) : Prop where
  names : E.service.Names callOf
  begin_sends : ∀ t call a,
    (E.service.begin t call a).Announces E.sends fun e => (E.published e).isSome
  resume_sends : ∀ {t call p b turn}, E.service.resume t call p b = some turn →
    turn.Announces E.sends fun e => (E.published e).isSome
  stays : ∀ {t call p event x b turn}, E.hears p event x = some (.stays b) →
    E.service.resume t call p b = some turn → turn.events = [] ∧
      ∃ q, turn.pending = some q ∧ E.wait q = E.wait p ∧ E.sends q = false

/-- `n` is the last publication of the call. -/
def IsLast (log : List (Nat × ev)) (call n : Nat) : Prop :=
  (∃ event, log[n]? = some (call, event)) ∧
    ∀ m, n < m → ∀ event, log[m]? ≠ some (call, event)

structure Coherent (s : LoopState τ π β ev φ l) : Prop where
  fresh : ∀ call, s.calls.nextCall ≤ call → s.calls.calls.get? call = none
  numbered : ∀ sub n event, .deliver sub n event ∈ s.queue → n < s.log.length
  heardOf : ∀ call n, (call, n) ∈ s.heard → n < s.log.length
  /-- No call goes on between the deliveries of a publication and its publisher. -/
  apart : ∀ sub n event k m c,
    ¬ [.deliver sub n event, .proceed k m, .proceed c (some n)].Sublist s.queue
  /-- No call that was handed a publication goes on before its publisher. -/
  behind : ∀ k n m c, (k, n) ∈ s.heard → ¬ [.proceed k m, .proceed c (some n)].Sublist s.queue
  sent : ∀ c p, s.calls.calls.get? c = some p → E.sends p = true →
    ∃ n, .proceed c (some n) ∈ s.queue ∧ IsLast s.log c n
  opened : ∀ c p filter, s.calls.calls.get? c = some p → E.wait p = some filter →
    s.due.get? c = none → ∃ id, { id := id, filter := filter, handler := .wait c } ∈ s.subs
  closed : ∀ sub ∈ s.subs, ∀ c, sub.handler = .wait c →
    ∃ p, s.calls.calls.get? c = some p ∧ E.wait p = some sub.filter

end EventLoop

/-! ## Sublists of a queue that grows -/

variable {γ : Type} {z : γ} {ys : List γ}

theorem sublist_of_append (xs : List γ) {zs : List γ} (h : (xs ++ [z]).Sublist (ys ++ zs))
    (hz : z ∉ zs) : (xs ++ [z]).Sublist ys := by
  obtain ⟨front, back, heq, hfront, hback⟩ := List.sublist_append_iff.mp h
  rcases List.eq_nil_or_concat back with rfl | ⟨init, last, rfl⟩
  · rw [List.append_nil] at heq
    rwa [heq]
  · rw [List.concat_eq_append, ← List.append_assoc] at heq
    obtain ⟨-, rfl⟩ := List.append_inj' heq rfl |>.imp_right List.singleton_inj.mp
    exact absurd (hback.subset (by simp)) hz

theorem sublist_of_append_singleton (xs : List γ) {z' : γ} (h : (xs ++ [z]).Sublist (ys ++ [z'])) :
    (xs ++ [z]).Sublist ys ∨ (z = z' ∧ xs.Sublist ys) := by
  by_cases hz : z = z'
  · exact .inr ⟨hz, by simpa [hz] using h⟩
  · exact .inl (sublist_of_append xs h (by simpa using hz))

namespace EventLoop

variable {E : EventLoop τ π ε α β ev φ l d} {s : LoopState τ π β ev φ l}

variable {call c n : Nat} {sub : Subscription φ l} {subs : List (Subscription φ l)} {p : π}
  {rest : List (Task ev φ l)}

variable {log : List (Nat × ev)} {event : ev}

theorem IsLast.append (h : IsLast log c n) (hne : c ≠ call) :
    IsLast (log ++ [(call, event)]) c n := by
  obtain ⟨⟨e, he⟩, hlast⟩ := h
  have hlt : n < log.length := (List.getElem?_eq_some_iff.mp he).1
  refine ⟨⟨e, by rw [List.getElem?_append_left hlt, he]⟩, fun m hm event' hget => ?_⟩
  by_cases hmem : m < log.length
  · rw [List.getElem?_append_left hmem] at hget
    exact hlast m hm event' hget
  · rw [List.getElem?_append_right (Nat.le_of_not_lt hmem)] at hget
    cases hindex : m - log.length with
    | zero =>
      rw [hindex] at hget
      simp only [List.getElem?_cons_zero, Option.some.injEq, Prod.mk.injEq] at hget
      exact hne hget.1.symm
    | succ k =>
      rw [hindex] at hget
      simp at hget

theorem isLast_self (log : List (Nat × ev)) (call : Nat) (event : ev) :
    IsLast (log ++ [(call, event)]) call log.length := by
  refine ⟨⟨event, by simp⟩, fun m hm event' hget => ?_⟩
  have hlt := (List.getElem?_eq_some_iff.mp hget).1
  rw [List.length_append, List.length_singleton] at hlt
  omega

theorem IsLast.unique {m : Nat} (h : IsLast log c n) (h' : IsLast log c m) :
    n = m := by
  obtain ⟨⟨e, he⟩, hlast⟩ := h
  obtain ⟨⟨e', he'⟩, hlast'⟩ := h'
  rcases Nat.lt_trichotomy n m with hlt | heq | hgt
  · exact absurd he' (hlast m hlt e')
  · exact heq
  · exact absurd he (hlast' n hgt e)

/-! ## Parts of a step -/

theorem withdraw_get? (s : LoopState τ π β ev φ l) (call c : Nat) :
    (s.withdraw call).calls.calls.get? c =
      if c = call then none else s.calls.calls.get? c :=
  JsMap.get?_delete _ _ _

theorem withdraw_due (s : LoopState τ π β ev φ l) (call c : Nat) :
    (s.withdraw call).due.get? c = if c = call then none else s.due.get? c :=
  JsMap.get?_delete _ _ _

theorem get?_of_withdraw (h : (s.withdraw call).calls.calls.get? c = some p) :
    c ≠ call ∧ s.calls.calls.get? c = some p := by
  rw [withdraw_get?] at h
  split at h
  next => cases h
  next hne => exact ⟨hne, h⟩

theorem Coherent.withdraw (h : E.Coherent s) (call : Nat) : E.Coherent (s.withdraw call) where
  __ := h
  fresh c hc := by
    rw [withdraw_get?]
    split
    next => rfl
    next => exact h.fresh c hc
  sent c p hp hsends := h.sent c p (get?_of_withdraw hp).2 hsends
  opened c p filter hp hwait hdue := by
    obtain ⟨hne, hp⟩ := get?_of_withdraw hp
    rw [withdraw_due, if_neg hne] at hdue
    obtain ⟨id, hmem⟩ := h.opened c p filter hp hwait hdue
    exact ⟨id, mem_close.mpr ⟨hmem, fun heq => hne (Handler.wait.inj heq)⟩⟩
  closed sub hsub c hc := by
    obtain ⟨hsub, hne⟩ := mem_close.mp hsub
    obtain ⟨p, hp, hwait⟩ := h.closed sub hsub c hc
    refine ⟨p, ?_, hwait⟩
    rw [withdraw_get?, if_neg fun heq : c = call => hne (heq ▸ hc)]
    exact hp

theorem Coherent.pop (h : E.Coherent s) {task : Task ev φ l} (hqueue : s.queue = task :: rest)
    (htask : ∀ c p, s.calls.calls.get? c = some p → E.sends p = true →
      ∀ n, task ≠ .proceed c (some n)) : E.Coherent { s with queue := rest } where
  __ := h
  numbered sub n event hmem := h.numbered sub n event (hqueue ▸ List.mem_cons_of_mem _ hmem)
  apart sub n event k m c hsub :=
    h.apart sub n event k m c (hqueue ▸ hsub.trans (List.sublist_cons_self _ _))
  behind k n m c hheard hsub :=
    h.behind k n m c hheard (hqueue ▸ hsub.trans (List.sublist_cons_self _ _))
  sent c p hp hsends := by
    obtain ⟨n, hmem, hlast⟩ := h.sent c p hp hsends
    rw [hqueue] at hmem
    rcases List.mem_cons.mp hmem with heq | hmem
    · exact absurd heq.symm (htask c p hp hsends n)
    · exact ⟨n, hmem, hlast⟩

theorem Coherent.hearing (h : E.Coherent s) (hqueue : s.queue = .deliver sub n event :: rest)
    (k : Nat) :
    E.Coherent { s with queue := rest, heard := s.heard ++ [(k, n)] } := by
  have hpop := h.pop hqueue fun _ _ _ _ _ => by simp
  refine { hpop with heardOf := fun c m hmem => ?_, behind := fun c m tag c' hmem hsub => ?_ }
  · rcases List.mem_append.mp hmem with hmem | hmem
    · exact h.heardOf c m hmem
    · obtain ⟨rfl, rfl⟩ := Prod.mk.inj (List.mem_singleton.mp hmem)
      exact h.numbered sub m event (hqueue ▸ List.mem_cons_self)
  · rcases List.mem_append.mp hmem with hmem | hmem
    · exact hpop.behind c m tag c' hmem hsub
    · -- what stands between the delivery and its publisher are deliveries
      obtain ⟨rfl, rfl⟩ := Prod.mk.inj (List.mem_singleton.mp hmem)
      exact h.apart sub m event c tag c' (hqueue ▸ hsub.cons_cons _)

theorem Coherent.memory (h : E.Coherent s) (shared : τ) {nextCall : Nat}
    (hnext : s.calls.nextCall ≤ nextCall) :
    E.Coherent { s with calls := { s.calls with shared := shared, nextCall := nextCall } } :=
  { h with fresh := fun c hc => h.fresh c (Nat.le_trans hnext hc) }

theorem Coherent.publish (h : E.Coherent s) {call : Nat} (hcall : s.calls.calls.get? call = none)
    (event : ev) : E.Coherent (E.publish call s event) where
  __ := h
  numbered sub n e hmem := by
    rw [EventLoop.publish, List.length_append, List.length_singleton]
    rcases List.mem_append.mp hmem with hmem | hmem
    · exact Nat.lt_succ_of_lt (h.numbered sub n e hmem)
    · obtain ⟨_, -, heq⟩ := List.mem_map.mp hmem
      cases heq
      exact Nat.lt_succ_self _
  heardOf c n hmem := by
    rw [EventLoop.publish, List.length_append, List.length_singleton]
    exact Nat.lt_succ_of_lt (h.heardOf c n hmem)
  apart sub n e k m c hsub :=
    h.apart sub n e k m c (sublist_of_append [_, _] hsub (by simp))
  behind k n m c hheard hsub :=
    h.behind k n m c hheard (sublist_of_append [_] hsub (by simp))
  sent c p hp hsends := by
    obtain ⟨n, hmem, hlast⟩ := h.sent c p hp hsends
    have hne : c ≠ call := fun heq => by
      cases hcall.symm.trans (heq ▸ hp)
    exact ⟨n, List.mem_append_left _ hmem, hlast.append hne⟩

/-- The deliveries of the last publication, which the call has made, are the end of the queue. -/
def JustPublished (s : LoopState τ π β ev φ l) (call : Nat) : Prop :=
  ∃ queue deliveries log event, s.queue = queue ++ deliveries ∧ s.log = log ++ [(call, event)] ∧
    (∀ k m, .proceed k m ∉ deliveries) ∧ (∀ sub e, .deliver sub log.length e ∉ queue) ∧
    ∀ k, (k, log.length) ∉ s.heard

theorem Coherent.justPublished (h : E.Coherent s) (call : Nat) (event : ev) :
    JustPublished (E.publish call s event) call := by
  refine ⟨s.queue, _, s.log, event, rfl, rfl, by simp, fun sub e hmem => ?_, fun k hmem => ?_⟩
  · exact Nat.lt_irrefl _ (h.numbered sub _ e hmem)
  · exact Nat.lt_irrefl _ (h.heardOf k _ hmem)

theorem Coherent.publishAll {call : Nat} : ∀ (events : List ev) {s : LoopState τ π β ev φ l},
    E.Coherent s → s.calls.calls.get? call = none →
      E.Coherent (events.foldl (E.publish call) s) ∧
        (events ≠ [] → JustPublished (events.foldl (E.publish call) s) call)
  | [], _, h, _ => ⟨h, fun hne => absurd rfl hne⟩
  | event :: events, s, h, hcall => by
    obtain ⟨hrest, hjust⟩ := publishAll events (h.publish hcall event) hcall
    refine ⟨hrest, fun _ => ?_⟩
    cases events with
    | nil => exact h.justPublished call event
    | cons _ _ => exact hjust (by simp)

theorem publishAll_frame (E : EventLoop τ π ε α β ev φ l d) (call : Nat) : ∀ (events : List ev)
    (s : LoopState τ π β ev φ l), (events.foldl (E.publish call) s).calls = s.calls ∧
      (events.foldl (E.publish call) s).subs = s.subs ∧
      (events.foldl (E.publish call) s).heard = s.heard ∧
      (events.foldl (E.publish call) s).due = s.due
  | [], _ => ⟨rfl, rfl, rfl, rfl⟩
  | event :: events, s => publishAll_frame E call events (E.publish call s event)

theorem Coherent.await (h : E.Coherent s) (hcall : s.calls.calls.get? call = none)
    (hlt : call < s.calls.nextCall) (hjust : JustPublished s call) (p : π) (b : β) :
    E.Coherent { s with
      calls := { s.calls with calls := s.calls.calls.set call p }
      due := s.due.set call b
      queue := s.queue ++ [.proceed call (some (s.log.length - 1))] } := by
  obtain ⟨queue, deliveries, log, event, hqueue, hlog, hproceed, hdeliver, hheard⟩ := hjust
  have hnumber : s.log.length - 1 = log.length := by
    rw [hlog, List.length_append, List.length_singleton, Nat.add_sub_cancel]
  rw [hnumber]
  constructor
  case fresh =>
    intro c hc
    have hne : c ≠ call := fun heq => absurd hlt (Nat.not_lt.mpr (heq ▸ hc))
    show (s.calls.calls.set call p).get? c = none
    rw [JsMap.get?_set_ne _ _ hne]
    exact h.fresh c hc
  case numbered =>
    intro sub n e hmem
    rcases List.mem_append.mp hmem with hmem | hmem
    · exact h.numbered sub n e hmem
    · simp at hmem
  case heardOf => exact h.heardOf
  case apart =>
    intro sub n e k m c hsub
    rcases sublist_of_append_singleton [_, _] hsub with hold | ⟨heq, hpair⟩
    · exact h.apart sub n e k m c hold
    · obtain ⟨rfl, hn⟩ := Task.proceed.inj heq
      cases hn
      rw [hqueue] at hpair
      have hold := sublist_of_append [_] hpair (hproceed k m)
      exact hdeliver sub e (hold.subset List.mem_cons_self)
  case behind =>
    intro k n m c hmem hsub
    rcases sublist_of_append_singleton [_] hsub with hsub | ⟨heq, -⟩
    · exact h.behind k n m c hmem hsub
    · obtain ⟨rfl, hn⟩ := Task.proceed.inj heq
      cases hn
      exact hheard k hmem
  case sent =>
    intro c q hq hsends
    by_cases hc : c = call
    · subst hc
      refine ⟨log.length, List.mem_concat_self, ?_⟩
      show IsLast s.log c log.length
      rw [hlog]
      exact isLast_self log c event
    · obtain ⟨n, hmem, hlast⟩ := h.sent c q ((JsMap.get?_set_ne _ _ hc).symm.trans hq) hsends
      exact ⟨n, List.mem_append_left _ hmem, hlast⟩
  case opened =>
    intro c q filter hq hwait hdue
    obtain ⟨hc, hdue⟩ := JsMap.get?_set_eq_none.mp hdue
    exact h.opened c q filter ((JsMap.get?_set_ne _ _ hc).symm.trans hq) hwait hdue
  case closed =>
    intro sub hsub c hc
    obtain ⟨q, hq, hwait⟩ := h.closed sub hsub c hc
    have hne : c ≠ call := fun heq => by cases hcall.symm.trans (heq ▸ hq)
    refine ⟨q, ?_, hwait⟩
    show (s.calls.calls.set call p).get? c = some q
    rw [JsMap.get?_set_ne _ _ hne]
    exact hq

theorem Coherent.place (h : E.Coherent s) (hcall : s.calls.calls.get? call = none)
    (hlt : call < s.calls.nextCall) (hsends : E.sends p = false) (hsubs : s.subs ⊆ subs)
    (hwait : ∀ filter, E.wait p = some filter →
      ∃ id, { id := id, filter := filter, handler := .wait call } ∈ subs)
    (hnew : ∀ sub ∈ subs, sub ∉ s.subs → sub.handler = .wait call ∧ E.wait p = some sub.filter)
    (nextSub : Nat) :
    E.Coherent { s with
      calls := { s.calls with calls := s.calls.calls.set call p }
      subs := subs
      nextSub := nextSub } := by
  refine { h with fresh := ?fresh, sent := ?sent, opened := ?opened, closed := ?closed }
  case fresh =>
    intro c hc
    have hne : c ≠ call := fun heq => absurd hlt (Nat.not_lt.mpr (heq ▸ hc))
    show (s.calls.calls.set call p).get? c = none
    rw [JsMap.get?_set_ne _ _ hne]
    exact h.fresh c hc
  case sent =>
    intro c q hq hq'
    rcases JsMap.get?_of_set hq with ⟨-, rfl⟩ | hq
    · rw [hsends] at hq'
      cases hq'
    · exact h.sent c q hq hq'
  case opened =>
    intro c q filter hq hqwait hdue
    rcases JsMap.get?_of_set hq with ⟨rfl, rfl⟩ | hq
    · exact hwait filter hqwait
    · obtain ⟨id, hmem⟩ := h.opened c q filter hq hqwait hdue
      exact ⟨id, hsubs hmem⟩
  case closed =>
    intro sub hsub c hc
    show ∃ q, (s.calls.calls.set call p).get? c = some q ∧ _
    by_cases hmem : sub ∈ s.subs
    · obtain ⟨q, hq, hqwait⟩ := h.closed sub hmem c hc
      have hne : c ≠ call := fun heq => by cases hcall.symm.trans (heq ▸ hq)
      exact ⟨q, by rw [JsMap.get?_set_ne _ _ hne]; exact hq, hqwait⟩
    · obtain ⟨hhandler, hfilter⟩ := hnew sub hsub hmem
      obtain rfl := Handler.wait.inj (hc.symm.trans hhandler)
      exact ⟨p, JsMap.get?_set_self _ _ _, hfilter⟩

theorem Coherent.suspend (h : E.Coherent s) {call : Nat} (hcall : s.calls.calls.get? call = none)
    (hlt : call < s.calls.nextCall) {pending : Option π}
    (hjust : ∀ p, pending = some p → E.sends p = true → JustPublished s call) (x : d) :
    E.Coherent (E.suspend s call pending x) := by
  cases pending with
  | none => exact h
  | some p =>
    unfold EventLoop.suspend
    dsimp only
    split
    next hsends => exact h.await hcall hlt (hjust p rfl hsends) p _
    next hsends =>
      have hsends : E.sends p = false := by simpa using hsends
      split
      next filter hwait =>
        refine h.place hcall hlt hsends (List.subset_append_left _ _) ?_ ?_ _
        · intro filter' hwait'
          obtain rfl := Option.some.inj (hwait.symm.trans hwait')
          exact ⟨_, List.mem_concat_self⟩
        · intro sub hmem hnot
          obtain rfl := List.mem_singleton.mp ((List.mem_append.mp hmem).resolve_left hnot)
          exact ⟨rfl, hwait⟩
      next hwait =>
        refine h.place hcall hlt hsends (List.Subset.refl _) (fun filter hfilter => ?_)
          (fun sub hmem hnot => absurd hmem hnot) s.nextSub
        rw [hwait] at hfilter
        cases hfilter

theorem Coherent.take {call : Nat} (h : E.Coherent (s.withdraw call))
    (hlt : call < s.calls.nextCall) {turn : CallTurn τ π ε}
    (hannounces : turn.Announces E.sends fun e => (E.published e).isSome) (x : d) :
    E.Coherent (E.take s call turn x) := by
  have hsends : ∀ p, turn.pending = some p → E.sends p = true →
      turn.events.filterMap E.published ≠ [] := by
    intro p hp hsends hnil
    obtain ⟨e, he, hsome⟩ := hannounces p hp hsends
    have hnone : E.published e = none := List.filterMap_eq_nil_iff.mp hnil e he
    simp [hnone] at hsome
  have hcall : (s.withdraw call).calls.calls.get? call = none := by
    rw [withdraw_get?, if_pos rfl]
  obtain ⟨hpublished, hjust⟩ := publishAll (turn.events.filterMap E.published)
    (h.memory turn.shared (Nat.le_refl _)) hcall
  obtain ⟨hcalls, -⟩ := publishAll_frame E call (turn.events.filterMap E.published)
    { s.withdraw call with calls := { (s.withdraw call).calls with shared := turn.shared } }
  refine hpublished.suspend ?_ ?_ (fun p hp hsend => hjust (hsends p hp hsend)) x
  · rw [hcalls]
    exact hcall
  · rw [hcalls]
    exact hlt

theorem Coherent.stay (h : E.Coherent s) {q : π} (hp : s.calls.calls.get? call = some p)
    (hwait : E.wait q = E.wait p) (hsends : E.sends q = false) (shared : τ) :
    E.Coherent { s with
      calls := { s.calls with shared := shared, calls := s.calls.calls.set call q } } := by
  have hnone : ∀ {c}, s.calls.calls.get? c = none → c ≠ call := fun hc heq => by
    cases hc.symm.trans (heq ▸ hp)
  refine { h with fresh := fun c hc => ?_, sent := ?_, opened := ?_, closed := ?_ }
  · show (s.calls.calls.set call q).get? c = none
    rw [JsMap.get?_set_ne _ _ (hnone (h.fresh c hc))]
    exact h.fresh c hc
  · intro c r hr hr'
    rcases JsMap.get?_of_set hr with ⟨-, rfl⟩ | hr
    · rw [hsends] at hr'
      cases hr'
    · exact h.sent c r hr hr'
  · intro c r filter hr hrwait hdue
    rcases JsMap.get?_of_set hr with ⟨rfl, rfl⟩ | hr
    · exact h.opened c p filter hp (hwait ▸ hrwait) hdue
    · exact h.opened c r filter hr hrwait hdue
  · intro sub hsub c hc
    obtain ⟨r, hr, hrwait⟩ := h.closed sub hsub c hc
    show ∃ r, (s.calls.calls.set call q).get? c = some r ∧ _
    by_cases hne : c = call
    · subst hne
      obtain rfl := Option.some.inj (hp.symm.trans hr)
      exact ⟨q, JsMap.get?_set_self _ _ _, hwait.trans hrwait⟩
    · exact ⟨r, by rw [JsMap.get?_set_ne _ _ hne]; exact hr, hrwait⟩

theorem Coherent.answer (h : E.Coherent s) (b : β)
    (hkept : ∀ sub ∈ s.subs, sub.handler ≠ .wait call → sub ∈ subs) (hsub : subs ⊆ s.subs) :
    E.Coherent { s with subs := subs, due := s.due.set call b } := by
  refine { h with opened := ?_, closed := fun sub hmem => h.closed sub (hsub hmem) }
  intro c p filter hp hwait hdue
  obtain ⟨hne, hdue⟩ := JsMap.get?_set_eq_none.mp hdue
  obtain ⟨id, hmem⟩ := h.opened c p filter hp hwait hdue
  exact ⟨id, hkept _ hmem fun heq => hne (Handler.wait.inj heq)⟩

/-! ## Steps -/

variable {callOf : ε → Nat}

theorem Coherent.beginCall (hE : E.Lawful callOf) (h : E.Coherent s) (a : α) (x : d) :
    E.Coherent (E.beginCall s a x).1 := by
  have hnew : E.Coherent { s with
      calls := { s.calls with nextCall := s.calls.nextCall + 1 } } :=
    h.memory s.calls.shared (Nat.le_succ _)
  exact (hnew.withdraw s.calls.nextCall).take (Nat.lt_succ_self _)
    (hE.begin_sends _ _ _) x

theorem Coherent.hear (hE : E.Lawful callOf) (h : E.Coherent s) (sub : Subscription φ l)
    (call : Nat) (event : ev) (x : d) : E.Coherent (E.hear s sub call event x).1 := by
  unfold EventLoop.hear
  split
  next =>
    split
    next => exact h
    next p hp =>
      split
      next => exact h
      next b _ =>
        exact h.answer b (fun sub hmem hne => mem_close.mpr ⟨hmem, hne⟩)
          fun sub hmem => (mem_close.mp hmem).1
      next b hhears =>
        split
        next => exact h
        next turn hturn =>
          obtain ⟨-, q, hq, hwait, hsends⟩ := hE.stays hhears hturn
          rw [hq]
          exact h.stay hp hwait hsends turn.shared
  next => exact h

theorem Coherent.enqueue (h : E.Coherent s) (call : Nat) :
    E.Coherent { s with queue := s.queue ++ [.proceed call none] } where
  fresh := h.fresh
  numbered sub n event hmem :=
    h.numbered sub n event ((List.mem_append.mp hmem).resolve_right (by simp))
  heardOf := h.heardOf
  apart sub n event k m c hsub :=
    h.apart sub n event k m c (sublist_of_append [_, _] hsub (by simp))
  behind k n m c hheard hsub :=
    h.behind k n m c hheard (sublist_of_append [_] hsub (by simp))
  sent c p hp hsends := by
    obtain ⟨n, hmem, hlast⟩ := h.sent c p hp hsends
    exact ⟨n, List.mem_append_left _ hmem, hlast⟩
  opened := h.opened
  closed := h.closed

theorem Coherent.begun (h : E.Coherent s) (hp : s.calls.calls.get? call = some p) :
    call < s.calls.nextCall := by
  by_contra hge
  cases (h.fresh call (Nat.le_of_not_lt hge)).symm.trans hp

theorem Coherent.step (hE : E.Lawful callOf) (h : E.Coherent s) {action : LoopAction α β φ l d}
    {s' : LoopState τ π β ev φ l} {evs : List ε} (hstep : E.step s action = some (s', evs)) :
    E.Coherent s' := by
  cases move_of_step hstep with
  | begins a x => exact h.beginCall hE a x
  | listens nextSub hwaits =>
    refine { h with
      opened := fun c p filter hp hwait hdue => ?_
      closed := fun sub hmem c hc => h.closed sub ((hwaits sub c hc).mp hmem) c hc }
    obtain ⟨id, hmem⟩ := h.opened c p filter hp hwait hdue
    exact ⟨id, (hwaits _ c rfl).mpr hmem⟩
  | settles call b hkept hsubs => exact h.answer b hkept hsubs
  | enqueues call => exact h.enqueue call
  | @proceeds call n rest p b turn x hqueue hp hturn =>
    have hpop : E.Coherent { s.withdraw call with queue := rest } := by
      refine (h.withdraw call).pop hqueue fun c q hq _ n' heq => ?_
      exact (get?_of_withdraw hq).1 (Task.proceed.inj heq).1.symm
    exact Coherent.take (s := { s with queue := rest }) hpop (h.begun hp)
      (hE.resume_sends hturn) x
  | spawns x hqueue _ a => exact (h.hearing hqueue _).beginCall hE a x
  | hears x hqueue _ => exact (h.hearing hqueue _).hear hE _ _ _ x

theorem coherent_initial (shared : τ) : E.Coherent { calls := { shared := shared } } where
  fresh _ _ := rfl
  numbered _ _ _ hmem := by cases hmem
  heardOf _ _ hmem := by cases hmem
  apart _ _ _ _ _ _ hsub := by cases hsub
  behind _ _ _ _ hmem := by cases hmem
  sent _ _ hp := by cases hp
  opened _ _ _ hp := by cases hp
  closed _ hmem := by cases hmem

theorem coherent_of_run (hE : E.Lawful callOf)
    {G : LoopState τ π β ev φ l → LoopAction α β φ l d → Prop} {shared : τ} {tr : List ε}
    (h : Run E.machine G { calls := { shared := shared } } tr s) : E.Coherent s :=
  Run.invariant (I := fun _ s => E.Coherent s) (coherent_initial shared)
    (fun hs _ hstep => hs.step hE hstep) h

/-- Whoever was handed a publication and goes on now goes on after its publisher. -/
theorem Coherent.unsent_of_heard (h : E.Coherent s) {k : Nat} {m : Option Nat}
    (hqueue : s.queue = .proceed k m :: rest) (hheard : (k, n) ∈ s.heard)
    (hlast : IsLast s.log c n) (hne : c ≠ k) (hp : s.calls.calls.get? c = some p) :
    E.sends p = false := by
  by_contra hsends
  obtain ⟨n', hmem, hlast'⟩ := h.sent c p hp (by simpa using hsends)
  obtain rfl := hlast.unique hlast'
  rw [hqueue] at hmem
  rcases List.mem_cons.mp hmem with heq | hmem
  · exact hne (Task.proceed.inj heq).1
  · refine h.behind k n m c hheard ?_
    rw [hqueue]
    exact (List.singleton_sublist.mpr hmem).cons_cons _

end EventLoop

end Anchr.Infra
