import Anchr.Infra.CallTrace

/-!
# Services on one event loop

The calls of a service run on one event loop and talk over a relay in the same process. Microtasks
run in the order in which they were queued.
-/

namespace Anchr.Infra

variable {τ π ε α β ev φ l d : Type}

/-- A turn of one of several services, as a turn of all of them. -/
def CallTurn.embed {τ' π' ε' : Type} (turn : CallTurn τ π ε) (shared : τ → τ') (pending : π → π')
    (event : ε → ε') : CallTurn τ' π' ε' where
  shared := shared turn.shared
  events := turn.events.map event
  pending := turn.pending.map pending

/-- A turn that leaves its call at a place of this kind has emitted an event of that kind. -/
def CallTurn.Announces (sends : π → Bool) (emits : ε → Bool) (turn : CallTurn τ π ε) : Prop :=
  ∀ p, turn.pending = some p → sends p = true → ∃ e ∈ turn.events, emits e = true

variable {turn : CallTurn τ π ε} {sends : π → Bool} {emits : ε → Bool}

theorem CallTurn.Announces.ended (h : turn.pending = none) : turn.Announces sends emits := by
  intro p hp
  rw [h] at hp
  cases hp

theorem CallTurn.Announces.elsewhere {p : π} (h : turn.pending = some p) (hp : sends p = false) :
    turn.Announces sends emits := by
  intro q hq hsends
  obtain rfl := Option.some.inj (h.symm.trans hq)
  rw [hp] at hsends
  cases hsends

theorem CallTurn.Announces.embed {τ' π' ε' : Type} {turn : CallTurn τ π ε} (shared : τ → τ')
    (pending : π → π') (event : ε → ε') {sends : π' → Bool} {emits : ε' → Bool}
    (h : turn.Announces (fun p => sends (pending p)) fun e => emits (event e)) :
    (turn.embed shared pending event).Announces sends emits := by
  intro q hq hsends
  obtain ⟨p, hp, rfl⟩ := Option.map_eq_some_iff.mp hq
  obtain ⟨e, he, hemits⟩ := h p hp hsends
  exact ⟨event e, List.mem_map_of_mem he, hemits⟩

/-- Who gets the events of a subscription: the wait of a call, or a new call. -/
inductive Handler (l : Type) where
  | wait (call : Nat)
  | standing (listener : l)

structure Subscription (φ l : Type) where
  id : Nat
  filter : φ
  handler : Handler l

def Subscription.isWaitOf (call : Nat) (sub : Subscription φ l) : Bool :=
  match sub.handler with
  | .wait c => c = call
  | .standing _ => false

/-- A microtask. -/
inductive Task (ev φ l : Type) where
  /-- Publication `n` is handed to a subscription. -/
  | deliver (sub : Subscription φ l) (n : Nat) (event : ev)
  /-- A call goes on, after its publication `n` or after something else. -/
  | proceed (call : Nat) (n : Option Nat)

def Task.isProceedOf (call : Nat) : Task ev φ l → Bool
  | .proceed c _ => c = call
  | .deliver .. => false

inductive Hearing (β : Type) where
  /-- It takes the event as the answer and stays open. -/
  | stays (b : β)
  /-- It closes, and the answer is due. -/
  | ends (b : β)

/-- How the calls of a service use the relay. -/
structure EventLoop (τ π ε α β ev φ l d : Type) where
  service : CallService τ π ε α β
  accepts : φ → ev → Bool
  /-- The event that is put on the relay. -/
  published : ε → Option ev
  /-- Where a call awaits what it has published, and what it gets. -/
  sends : π → Bool
  relayed : π → d → β
  /-- The filter of the subscription that a call is suspended with. -/
  wait : π → Option φ
  hears : π → ev → d → Option (Hearing β)
  /-- The subscription stays open until the call goes on, also when its answer is due. -/
  late : π → Bool
  /-- The answers that do not come from the relay. -/
  answers : π → β → Bool
  /-- What a standing subscription begins. -/
  spawn : l → ev → d → α

/-- Publications are numbered. `log` and `heard` are there for the properties, and no step reads
them. -/
structure LoopState (τ π β ev φ l : Type) where
  calls : CallState τ π
  subs : List (Subscription φ l) := []
  nextSub : Nat := 0
  /-- The answers with which calls will go on. -/
  due : JsMap Nat β := .empty
  queue : List (Task ev φ l) := []
  /-- The publications so far, each with the call that made it. -/
  log : List (Nat × ev) := []
  /-- The calls that were handed a publication. -/
  heard : List (Nat × Nat) := []

/-- A call that awaits something else may get its answer at any time, and goes on in a microtask
that is queued at any time after that. Standing subscriptions may be opened and closed at any time.
-/
inductive LoopAction (α β φ l d : Type) where
  | begin (a : α) (x : d)
  | listen (filter : φ) (listener : l)
  | unlisten (id : Nat)
  /-- What a call awaits is settled. -/
  | settle (call : Nat) (b : β)
  | enqueue (call : Nat)
  /-- The next microtask runs. -/
  | run (x : d)

/-! ## Steps -/

/-- The call runs: it is not suspended, and its wait is closed. -/
def LoopState.withdraw (s : LoopState τ π β ev φ l) (call : Nat) : LoopState τ π β ev φ l :=
  { s with
    calls := { s.calls with calls := s.calls.calls.delete call }
    subs := s.subs.filter fun sub => !sub.isWaitOf call
    due := s.due.delete call }

namespace EventLoop

variable (E : EventLoop τ π ε α β ev φ l d)

/-- `publish`, up to its promise. -/
def publish (call : Nat) (s : LoopState τ π β ev φ l) (event : ev) : LoopState τ π β ev φ l :=
  { s with
    queue := s.queue ++ (s.subs.filter fun sub => E.accepts sub.filter event).map fun sub =>
      .deliver sub s.log.length event
    log := s.log ++ [(call, event)] }

def suspend (s : LoopState τ π β ev φ l) (call : Nat) (pending : Option π) (x : d) :
    LoopState τ π β ev φ l :=
  match pending with
  | none => s
  | some p =>
    let calls := { s.calls with calls := s.calls.calls.set call p }
    if E.sends p then
      { s with
        calls := calls
        due := s.due.set call (E.relayed p x)
        queue := s.queue ++ [.proceed call (some (s.log.length - 1))] }
    else
      match E.wait p with
      | some filter =>
        { s with
          calls := calls
          subs := s.subs ++ [{ id := s.nextSub, filter := filter, handler := .wait call }]
          nextSub := s.nextSub + 1 }
      | none => { s with calls := calls }

def take (s : LoopState τ π β ev φ l) (call : Nat) (turn : CallTurn τ π ε) (x : d) :
    LoopState τ π β ev φ l :=
  let s := s.withdraw call
  let s := { s with calls := { s.calls with shared := turn.shared } }
  E.suspend ((turn.events.filterMap E.published).foldl (E.publish call) s) call turn.pending x

def beginCall (s : LoopState τ π β ev φ l) (a : α) (x : d) :
    LoopState τ π β ev φ l × List ε :=
  let call := s.calls.nextCall
  let turn := E.service.begin s.calls.shared call a
  (E.take { s with calls := { s.calls with nextCall := call + 1 } } call turn x, turn.events)

/-- A wait takes an event; it is closed, or the call is not suspended there, if it is too late. -/
def hear (s : LoopState τ π β ev φ l) (sub : Subscription φ l) (call : Nat) (event : ev) (x : d) :
    LoopState τ π β ev φ l × List ε :=
  if s.subs.any fun open_ => open_.id = sub.id then
    match s.calls.calls.get? call with
    | none => (s, [])
    | some p =>
      match E.hears p event x with
      | none => (s, [])
      | some (.ends b) =>
        ({ s with
            subs := s.subs.filter fun open_ => !open_.isWaitOf call
            due := s.due.set call b }, [])
      | some (.stays b) =>
        match E.service.resume s.calls.shared call p b with
        | none => (s, [])
        | some turn =>
          ({ s with
              calls := { s.calls with
                shared := turn.shared
                calls := s.calls.calls.place call turn.pending } }, turn.events)
  else (s, [])

def runTask (s : LoopState τ π β ev φ l) (x : d) :
    Task ev φ l → Option (LoopState τ π β ev φ l × List ε)
  | .proceed call _ =>
    match s.calls.calls.get? call, s.due.get? call with
    | some p, some b =>
      (E.service.resume s.calls.shared call p b).map fun turn =>
        (E.take s call turn x, turn.events)
    | _, _ => none
  | .deliver sub n event =>
    match sub.handler with
    | .standing listener =>
      some (E.beginCall { s with heard := s.heard ++ [(s.calls.nextCall, n)] }
        (E.spawn listener event x) x)
    | .wait call =>
      some (E.hear { s with heard := s.heard ++ [(call, n)] } sub call event x)

def step (s : LoopState τ π β ev φ l) :
    LoopAction α β φ l d → Option (LoopState τ π β ev φ l × List ε)
  | .begin a x => some (E.beginCall s a x)
  | .listen filter listener =>
    some ({ s with
      subs := s.subs ++ [{ id := s.nextSub, filter := filter, handler := .standing listener }]
      nextSub := s.nextSub + 1 }, [])
  | .unlisten id =>
    some ({ s with
      subs := s.subs.filter fun sub =>
        match sub.handler with
        | .wait _ => true
        | .standing _ => sub.id ≠ id }, [])
  | .settle call b =>
    match s.calls.calls.get? call with
    | none => none
    | some p =>
      if s.due.has call = false ∧ E.answers p b = true ∧
        (E.service.resume s.calls.shared call p b).isSome = true
      then
        some ({ s with
          subs := if E.late p then s.subs else s.subs.filter fun sub => !sub.isWaitOf call
          due := s.due.set call b }, [])
      else none
  | .enqueue call =>
    if s.due.has call = true ∧ s.queue.any (Task.isProceedOf call) = false then
      some ({ s with queue := s.queue ++ [.proceed call none] }, [])
    else none
  | .run x =>
    match s.queue with
    | [] => none
    | task :: rest => E.runTask { s with queue := rest } x task

def machine : Machine (LoopState τ π β ev φ l) (LoopAction α β φ l d) ε where
  step := E.step

/-! ## What a step does -/

inductive Move (s : LoopState τ π β ev φ l) :
    LoopAction α β φ l d → LoopState τ π β ev φ l → List ε → Prop
  | begins (a : α) (x : d) : Move s (.begin a x) (E.beginCall s a x).1 (E.beginCall s a x).2
  /-- Subscriptions that begin calls are added or removed; the waits stay. -/
  | listens {action : LoopAction α β φ l d} {subs : List (Subscription φ l)} (nextSub : Nat)
      (hwaits : ∀ sub c, sub.handler = .wait c → (sub ∈ subs ↔ sub ∈ s.subs)) :
      Move s action { s with subs := subs, nextSub := nextSub } []
  /-- An answer is due, and only the wait of its call may be closed. -/
  | settles {subs : List (Subscription φ l)} (call : Nat) (b : β)
      (hkept : ∀ sub ∈ s.subs, sub.handler ≠ .wait call → sub ∈ subs) (hsubs : subs ⊆ s.subs) :
      Move s (.settle call b) { s with subs := subs, due := s.due.set call b } []
  | enqueues (call : Nat) :
      Move s (.enqueue call) { s with queue := s.queue ++ [.proceed call none] } []
  | proceeds {call : Nat} {n : Option Nat} {rest : List (Task ev φ l)} {p : π} {b : β}
      {turn : CallTurn τ π ε} (x : d) (hqueue : s.queue = .proceed call n :: rest)
      (hp : s.calls.calls.get? call = some p)
      (hturn : E.service.resume s.calls.shared call p b = some turn) :
      Move s (.run x) (E.take { s with queue := rest } call turn x) turn.events
  | spawns {sub : Subscription φ l} {n : Nat} {event : ev} {rest : List (Task ev φ l)} {listener : l}
      (x : d) (hqueue : s.queue = .deliver sub n event :: rest)
      (hsub : sub.handler = .standing listener) (a : α) :
      Move s (.run x)
        (E.beginCall
          { s with queue := rest, heard := s.heard ++ [(s.calls.nextCall, n)] } a x).1
        (E.service.begin s.calls.shared s.calls.nextCall a).events
  | hears {sub : Subscription φ l} {n : Nat} {event : ev} {rest : List (Task ev φ l)} {call : Nat}
      (x : d) (hqueue : s.queue = .deliver sub n event :: rest) (hsub : sub.handler = .wait call) :
      Move s (.run x)
        (E.hear { s with queue := rest, heard := s.heard ++ [(call, n)] } sub call event x).1
        (E.hear { s with queue := rest, heard := s.heard ++ [(call, n)] } sub call event x).2

variable {E} {s s' : LoopState τ π β ev φ l} {evs : List ε} {call : Nat}
  {sub : Subscription φ l} {subs : List (Subscription φ l)}

theorem Subscription.isWaitOf_iff :
    sub.isWaitOf call = true ↔ sub.handler = .wait call := by
  unfold Subscription.isWaitOf
  cases sub.handler <;> simp

theorem mem_close :
    sub ∈ subs.filter (fun sub => !sub.isWaitOf call) ↔
      sub ∈ subs ∧ sub.handler ≠ .wait call := by
  rw [List.mem_filter, Bool.not_eq_true', ← Bool.not_eq_true, Subscription.isWaitOf_iff]

theorem move_of_runTask {task : Task ev φ l} {rest : List (Task ev φ l)}
    (hqueue : s.queue = task :: rest) {x : d}
    (h : E.runTask { s with queue := rest } x task = some (s', evs)) :
    E.Move s (.run x) s' evs := by
  unfold runTask at h
  split at h
  next call n =>
    split at h
    next p b hp _ =>
      obtain ⟨turn, hturn, heq⟩ := Option.map_eq_some_iff.mp h
      cases heq
      exact .proceeds x hqueue hp hturn
    next => cases h
  next sub n event =>
    split at h
    next listener hsub =>
      cases h
      exact .spawns x hqueue hsub _
    next call hsub =>
      have hmove := Move.hears (E := E) x hqueue hsub
      rwa [Option.some.inj h] at hmove

theorem move_of_step {action : LoopAction α β φ l d} (h : E.step s action = some (s', evs)) :
    E.Move s action s' evs := by
  cases action with
  | begin a x =>
    cases h
    exact .begins a x
  | listen filter listener =>
    cases h
    refine .listens _ fun sub c hsub => ⟨fun hmem => ?_, List.mem_append_left _⟩
    refine (List.mem_append.mp hmem).resolve_right fun hnew => ?_
    cases List.mem_singleton.mp hnew
    cases hsub
  | unlisten id =>
    cases h
    refine .listens _ fun sub c hsub => ?_
    simp [hsub]
  | settle call b =>
    simp only [step] at h
    split at h
    next => cases h
    next p hp =>
      split at h
      next =>
        cases h
        refine .settles call b (fun sub hmem hne => ?_) fun sub hmem => ?_
        · split
          next => exact hmem
          next => exact mem_close.mpr ⟨hmem, hne⟩
        · split at hmem
          next => exact hmem
          next => exact (mem_close.mp hmem).1
      next => cases h
  | enqueue call =>
    simp only [step] at h
    split at h
    next =>
      cases h
      exact .enqueues call
    next => cases h
  | run x =>
    simp only [step] at h
    split at h
    next => cases h
    next task rest hqueue => exact move_of_runTask hqueue h

end EventLoop

end Anchr.Infra
