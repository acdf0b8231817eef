import Clearsync.Timer.Basic

namespace clearsync.timer

/-- `n` consecutive ticks of one timer: the timer after them, and the clients of the
    `csEventTimer`s it fired, in order. -/
def CsTimer.ticks (parent : Client) : Nat → CsTimer → CsTimer × List Client
  | 0, t => (t, [])
  | n + 1, t =>
    let (t₁, fired) := t.tick parent
    let (t₂, clients) := ticks parent n t₁
    (t₂, fired.toList ++ clients)

/-- The clients of the `csEventTimer`s of the timer at address `p`. -/
def events_for (p : Nat) (events : List (Nat × Client)) : List Client :=
  (events.filter fun e => e.1 = p).map Prod.snd

@[simp] theorem events_for_nil (p : Nat) : events_for p [] = [] := rfl

@[simp] theorem events_for_append (p : Nat) (l₁ l₂ : List (Nat × Client)) :
    events_for p (l₁ ++ l₂) = events_for p l₁ ++ events_for p l₂ := by
  simp [events_for]

theorem events_for_fired (p q : Nat) (fired : Option Client) :
    events_for p (fired.map (q, ·)).toList = if q = p then fired.toList else [] := by
  cases fired <;> by_cases h : q = p <;> simp [events_for, h]

section running

variable (parent : Client) {t : CsTimer} (hrun : t.running = true)
include hrun

theorem CsTimer.tick_countdown (hvalue : 1 < t.value) :
    t.tick parent = ({ t with value := t.value - 1 }, none) := by
  simp [CsTimer.tick, hrun, show ¬t.value - 1 ≤ 0 by omega]

theorem CsTimer.tick_fire (hvalue : t.value ≤ 1) :
    t.tick parent = ({ t with value := t.interval }, some (t.dispatch_target parent)) := by
  simp [CsTimer.tick, hrun, show t.value - 1 ≤ 0 by omega]

/-- Fewer ticks than the remaining value only count it down. -/
theorem CsTimer.ticks_countdown (j : Nat) (hj : (j : Int) < t.value) :
    t.ticks parent j = ({ t with value := t.value - j }, []) := by
  induction j generalizing t with
  | zero => simp [CsTimer.ticks]
  | succ j ih =>
    have hnext := ih (t := { t with value := t.value - 1 }) hrun (by simp; omega)
    simp only [CsTimer.ticks, CsTimer.tick_countdown parent hrun (by omega : 1 < t.value), hnext]
    simp only [Option.toList_none, List.nil_append, Prod.mk.injEq, and_true]
    congr 1
    omega

end running

theorem CsTimer.ticks_add (parent : Client) (t : CsTimer) (a b : Nat) :
    t.ticks parent (a + b) =
      ((t.ticks parent a).1.ticks parent b |>.1,
        (t.ticks parent a).2 ++ ((t.ticks parent a).1.ticks parent b).2) := by
  induction a generalizing t with
  | zero => simp [CsTimer.ticks]
  | succ a ih => simp [Nat.succ_add, CsTimer.ticks, ih]

section running

variable (parent : Client) {t : CsTimer} (hrun : t.running = true)
include hrun

/-- A timer with `v + 1` seconds left fires on the `v + 1`-th tick and reloads. -/
theorem CsTimer.ticks_expire (v : Nat) (hvalue : t.value = v + 1) :
    t.ticks parent (v + 1) = ({ t with value := t.interval }, [t.dispatch_target parent]) := by
  rw [CsTimer.ticks_add, CsTimer.ticks_countdown parent hrun v (by omega)]
  simp [CsTimer.ticks, CsTimer.tick_fire parent (t := { t with value := t.value - v }) hrun (by simp; omega),
    CsTimer.dispatch_target]

/-- A timer reloaded with its interval `I + 1` comes back to the same state after every
    `I + 1` ticks, having fired once in each period. -/
theorem CsTimer.ticks_period (I : Nat) (hinterval : t.interval = I + 1)
    (hvalue : t.value = I + 1) (q : Nat) :
    t.ticks parent ((I + 1) * q) = (t, List.replicate q (t.dispatch_target parent)) := by
  induction q with
  | zero => rfl
  | succ q ih =>
    have hreload : { t with value := t.interval } = t := by cases t; simp_all
    rw [Nat.mul_succ, CsTimer.ticks_add, ih, CsTimer.ticks_expire parent hrun I hvalue, hreload]
    simp [List.replicate_succ']

/-- The closed form of a periodic timer: after `n` ticks from value `V` with interval
    `I`, it fired `0` times before `V` ticks and then once every `I` ticks. -/
theorem CsTimer.ticks_periodic (V I n : Nat) (hvalue : t.value = V) (hinterval : t.interval = I)
    (hV : 1 ≤ V) (hI : 1 ≤ I) :
    t.ticks parent n =
      ({ t with value := if n < V then ((V - n : Nat) : Int) else ((I - (n - V) % I : Nat) : Int) },
        List.replicate (if n < V then 0 else 1 + (n - V) / I) (t.dispatch_target parent)) := by
  by_cases hn : n < V
  · rw [CsTimer.ticks_countdown parent hrun n (by omega)]
    simp only [hn, if_true, List.replicate_zero, Prod.mk.injEq, and_true]
    congr 1
    omega
  · obtain ⟨v, rfl⟩ : ∃ v, V = v + 1 := ⟨V - 1, by omega⟩
    obtain ⟨i, rfl⟩ : ∃ i, I = i + 1 := ⟨I - 1, by omega⟩
    have hmod := Nat.mod_lt (n - (v + 1)) (by omega : 0 < i + 1)
    have hsplit : n = (v + 1) + ((i + 1) * ((n - (v + 1)) / (i + 1)) + (n - (v + 1)) % (i + 1)) := by
      rw [Nat.div_add_mod]; omega
    rw [hsplit, CsTimer.ticks_add, CsTimer.ticks_expire parent hrun v hvalue, CsTimer.ticks_add,
      CsTimer.ticks_period parent (t := { t with value := t.interval }) hrun i hinterval hinterval,
      CsTimer.ticks_countdown parent (t := { t with value := t.interval }) hrun _
        (by rw [show ({ t with value := t.interval } : CsTimer).value = t.interval from rfl, hinterval]
            exact_mod_cast hmod)]
    simp only [← hsplit, hn, if_false, hinterval, Prod.mk.injEq, CsTimer.dispatch_target]
    refine ⟨?_, by simp [Nat.add_comm 1, List.replicate_succ]⟩
    congr 1
    omega

/-- With interval `0`, `Tick` reloads the value `0` and leaves the timer running, so a
    timer with at most one second left fires on every tick. -/
theorem CsTimer.ticks_interval_zero (hinterval : t.interval = 0) (hvalue : t.value ≤ 1)
    (n : Nat) :
    t.ticks parent (n + 1) = ({ t with value := 0 }, List.replicate (n + 1) (t.dispatch_target parent)) := by
  induction n with
  | zero => simp [CsTimer.ticks, CsTimer.tick_fire parent hrun hvalue, hinterval]
  | succ n ih =>
    have hfire := CsTimer.tick_fire parent (t := { t with value := 0 }) hrun (by simp)
    rw [CsTimer.ticks_add, ih]
    simp only [CsTimer.ticks, hfire]
    simp [hinterval, CsTimer.dispatch_target, List.replicate_succ']

end running

end clearsync.timer
