import Mathlib.Logic.Function.Basic
import Mathlib.Data.List.Nodup
import Clearsync.Client

namespace clearsync.timer

/-- A `csTimer`. `time_t` values are unbounded integers (the code's are 64-bit, see
    `LONG_MIN`); the per-timer mutex is not modelled, every operation below being one
    critical section of it. -/
structure CsTimer where
  running : Bool
  id : Nat
  target : Client
  value : Int
  interval : Int
deriving DecidableEq, Repr

/-- `LONG_MIN` of `<climits>`, the least `time_t` on the platforms the code builds for,
    where `time_t` is a 64-bit `long`: `-2^63`. -/
def LONG_MIN : Int := -9223372036854775808

/-- `csTimer::csTimer`, before it registers itself with `AddTimer`. -/
def CsTimer.new (id : Nat) (value interval : Int) (target : Client) : CsTimer :=
  { running := false, id, target, value, interval }

def CsTimer.start (t : CsTimer) : CsTimer := { t with running := true }

def CsTimer.stop (t : CsTimer) : CsTimer := { t with running := false }

def CsTimer.set_value (t : CsTimer) (value : Int) : CsTimer := { t with value }

def CsTimer.set_interval (t : CsTimer) (interval : Int) : CsTimer := { t with interval }

def CsTimer.extend (t : CsTimer) (value : Int) : CsTimer := { t with value := t.value + value }

/-- The client a `csEventTimer` of `t` goes to: its target, or the thread's parent
    when the target is `NULL`. -/
def CsTimer.dispatch_target (parent : Client) (t : CsTimer) : Client :=
  if t.target = none then parent else t.target

/-- The body of `csThreadTimer::Tick`'s loop for one timer: `--value`, and on
    `value <= 0` a `csEventTimer` to the dispatch target, `value = interval` and
    `if (value > 0) running = true`. Returns the timer and the client it fired to. -/
def CsTimer.tick (parent : Client) (t : CsTimer) : CsTimer × Option Client :=
  if t.running then
    if t.value - 1 ≤ 0 then
      let reloaded := { t with value := t.interval }
      ({ reloaded with running := if reloaded.value > 0 then true else reloaded.running },
        some (t.dispatch_target parent))
    else ({ t with value := t.value - 1 }, none)
  else (t, none)

/-- The timer service: the parent client of `csThreadTimer`, its static
    `timer_vector` of `csTimer *`, and the timer objects, by address. -/
structure CsThreadTimer where
  parent : Client
  timer_vector : List Nat
  timers : Nat → CsTimer

/-- `csThreadTimer::Tick` from iterator position `ps` on: each timer is ticked in
    vector order; the `csEventTimer`s are returned as (timer address, client). -/
def CsThreadTimer.tick_loop (parent : Client) :
    List Nat → (Nat → CsTimer) → (Nat → CsTimer) × List (Nat × Client)
  | [], timers => (timers, [])
  | p :: ps, timers =>
    let (t, fired) := (timers p).tick parent
    let (timers', events) := tick_loop parent ps (Function.update timers p t)
    (timers', (fired.map (p, ·)).toList ++ events)

/-- `csThreadTimer::Tick`. -/
def CsThreadTimer.tick (s : CsThreadTimer) : CsThreadTimer × List (Nat × Client) :=
  let (timers, events) := CsThreadTimer.tick_loop s.parent s.timer_vector s.timers
  ({ s with timers }, events)

/-- `csThreadTimer::AddTimer`. -/
def CsThreadTimer.add_timer (s : CsThreadTimer) (p : Nat) : CsThreadTimer :=
  { s with timer_vector := s.timer_vector ++ [p] }

/-- `csThreadTimer::RemoveTimer`: erases the first occurrence of `p`. -/
def CsThreadTimer.remove_timer (s : CsThreadTimer) (p : Nat) : CsThreadTimer :=
  { s with timer_vector := s.timer_vector.erase p }

/-- Applies one of `csTimer`'s own operations to the timer at address `p`. -/
def CsThreadTimer.modify (s : CsThreadTimer) (p : Nat) (f : CsTimer → CsTimer) : CsThreadTimer :=
  { s with timers := Function.update s.timers p (f (s.timers p)) }

/-- `new csTimer(id, value, interval, target)` at address `p`: the constructor, then
    `AddTimer(this)`. -/
def CsThreadTimer.create (s : CsThreadTimer) (p id : Nat) (value interval : Int)
    (target : Client) : CsThreadTimer :=
  (s.modify p fun _ => CsTimer.new id value interval target).add_timer p

/-- `delete` of the timer at `p`: `Stop()`, then `RemoveTimer(this)`. -/
def CsThreadTimer.destroy (s : CsThreadTimer) (p : Nat) : CsThreadTimer :=
  (s.modify p CsTimer.stop).remove_timer p

/-- A call on the timer service: a tick of the realtime signal, one of `csTimer`'s
    public operations on the timer at an address, or its construction or destruction. -/
inductive TimerAction
  | tick
  | start (p : Nat)
  | stop (p : Nat)
  | set_value (p : Nat) (value : Int)
  | set_interval (p : Nat) (interval : Int)
  | extend (p : Nat) (value : Int)
  | create (p id : Nat) (value interval : Int) (target : Client)
  | destroy (p : Nat)
deriving DecidableEq, Repr

/-- The timer an action is applied to, if any. -/
def TimerAction.timer? : TimerAction → Option Nat
  | .tick => none
  | .start p | .stop p | .set_value p _ | .set_interval p _ | .extend p _ => some p
  | .create p _ _ _ _ | .destroy p => some p

/-- One action, with the `csEventTimer`s it dispatches. -/
def CsThreadTimer.step (s : CsThreadTimer) : TimerAction → CsThreadTimer × List (Nat × Client)
  | .tick => s.tick
  | .start p => (s.modify p CsTimer.start, [])
  | .stop p => (s.modify p CsTimer.stop, [])
  | .set_value p value => (s.modify p (·.set_value value), [])
  | .set_interval p interval => (s.modify p (·.set_interval interval), [])
  | .extend p value => (s.modify p (·.extend value), [])
  | .create p id value interval target => (s.create p id value interval target, [])
  | .destroy p => (s.destroy p, [])

/-- A run of actions, with all `csEventTimer`s dispatched, in order. -/
def CsThreadTimer.run (s : CsThreadTimer) : List TimerAction → CsThreadTimer × List (Nat × Client)
  | [] => (s, [])
  | a :: acts =>
    let (s₁, events₁) := s.step a
    let (s₂, events₂) := s₁.run acts
    (s₂, events₁ ++ events₂)

@[simp] theorem CsThreadTimer.modify_timer_vector (s : CsThreadTimer) (p : Nat)
    (f : CsTimer → CsTimer) : (s.modify p f).timer_vector = s.timer_vector := rfl

theorem CsThreadTimer.modify_timers_of_ne (s : CsThreadTimer) {p q : Nat}
    (f : CsTimer → CsTimer) (h : q ≠ p) : (s.modify p f).timers q = s.timers q :=
  Function.update_noteq h _ _

@[simp] theorem CsThreadTimer.tick_timer_vector (s : CsThreadTimer) :
    s.tick.1.timer_vector = s.timer_vector := rfl

end clearsync.timer
