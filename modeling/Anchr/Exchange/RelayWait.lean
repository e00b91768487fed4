import Mathlib.Data.List.Basic

/-!
# Waiting for the first event

`waitForFirstEvent` of `relay-wait.ts`. A matcher that returns `null` gives `none`.
-/

namespace Anchr.Exchange.RelayWait

structure EventWait (τ : Type) where
  /-- `settle` is defined. -/
  settle : Bool
  /-- `handles.sub` is defined. -/
  sub : Bool
  /-- `handles.timeoutId` is defined. -/
  timeoutId : Bool
  /-- The subscription is open at the relay. -/
  subscribed : Bool
  timerPending : Bool
  /-- The arguments of the calls of `resolve`, in order. -/
  resolved : List (Option τ)

/-- What can happen to a wait that was returned. The deadline is the moment at which a pending timer
fires. -/
inductive Happening (ε : Type) where
  | event (e : ε)
  | deadline
  | cancel

variable {ε τ : Type} (matcher : ε → Option τ)

def finish (value : Option τ) (w : EventWait τ) : EventWait τ where
  sub := w.sub
  timeoutId := w.timeoutId
  subscribed := w.subscribed && !w.sub
  timerPending := w.timerPending && !w.timeoutId
  resolved := if w.settle then w.resolved ++ [value] else w.resolved
  settle := false

/-- The callback of the subscription. -/
def onEvent (w : EventWait τ) (event : ε) : EventWait τ :=
  match matcher event with
  | none => w
  | some value => finish (some value) w

/-- The wait as it is returned, when the relay delivered the events `early` inside `subscribe`. -/
def waitForFirstEvent (early : List ε) : EventWait τ :=
  let executor : EventWait τ :=
    { settle := true, sub := false, timeoutId := false, subscribed := true, timerPending := false
      resolved := [] }
  { early.foldl (onEvent matcher) executor with
    sub := true, timeoutId := true, timerPending := true }

def happen (w : EventWait τ) : Happening ε → EventWait τ
  | .event e => onEvent matcher w e
  | .deadline => if w.timerPending then finish none { w with timerPending := false } else w
  | .cancel => finish none w

/-- The relay delivers some events while `subscribe` runs, when neither handle is stored yet, and
others afterwards. -/
def exec (early : List ε) (run : List (Happening ε)) : EventWait τ :=
  run.foldl (happen matcher) (waitForFirstEvent matcher early)

/-! ## What a wait is for -/

/-- The value a happening decides the wait with, if it does. -/
def decides : Happening ε → Option (Option τ)
  | .event e => (matcher e).map some
  | .deadline | .cancel => some none

/-- The first accepted value before the deadline and before `cancel`, otherwise `null`; nothing yet
while none of these has come. -/
def outcome (early : List ε) (run : List (Happening ε)) : Option (Option τ) :=
  (early.map Happening.event ++ run).findSome? (decides matcher)

variable {matcher}

/-! ## The states of a wait -/

/-- Nothing has decided the wait. -/
def waiting : EventWait τ :=
  { settle := true, sub := true, timeoutId := true, subscribed := true, timerPending := true
    resolved := [] }

/-- It was decided with both handles stored. -/
def done (v : Option τ) : EventWait τ :=
  { settle := false, sub := true, timeoutId := true, subscribed := false, timerPending := false
    resolved := [v] }

end Anchr.Exchange.RelayWait
