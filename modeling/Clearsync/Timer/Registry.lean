import Clearsync.Timer.Tick

namespace clearsync.timer

theorem CsThreadTimer.tick_loop_of_not_mem (parent : Client) {p : Nat} :
    ∀ (ps : List Nat) (timers : Nat → CsTimer), p ∉ ps →
      (tick_loop parent ps timers).1 p = timers p ∧ events_for p (tick_loop parent ps timers).2 = []
  | [], _, _ => ⟨rfl, rfl⟩
  | q :: ps, timers, hp => by
    have hq : q ≠ p := fun h => hp (h ▸ List.mem_cons_self q ps)
    obtain ⟨hrest, hevents⟩ := tick_loop_of_not_mem parent ps
      (Function.update timers q ((timers q).tick parent).1) (fun h => hp (List.mem_cons_of_mem q h))
    simp only [tick_loop, events_for_append, events_for_fired, hq, if_false, List.nil_append]
    exact ⟨hrest.trans (Function.update_noteq hq.symm _ _), hevents⟩

/-- A timer listed once in `timer_vector` is ticked once by `Tick`, whatever the
    other timers are. -/
theorem CsThreadTimer.tick_loop_of_count_eq_one (parent : Client) {p : Nat} :
    ∀ (ps : List Nat) (timers : Nat → CsTimer), ps.count p = 1 →
      ((tick_loop parent ps timers).1 p, events_for p (tick_loop parent ps timers).2) =
        (timers p).ticks parent 1
  | [], _, h => by simp at h
  | q :: ps, timers, h => by
    by_cases hq : q = p
    · subst hq
      have hnot : q ∉ ps := List.count_eq_zero.mp (by simpa [List.count_cons] using h)
      obtain ⟨hrest, hevents⟩ := tick_loop_of_not_mem parent ps
        (Function.update timers q ((timers q).tick parent).1) hnot
      simp [tick_loop, hrest, hevents, events_for_fired, CsTimer.ticks]
    · have hcount : ps.count p = 1 := by simpa [List.count_cons, hq] using h
      have hrest := tick_loop_of_count_eq_one parent ps
        (Function.update timers q ((timers q).tick parent).1) hcount
      rw [Function.update_noteq (Ne.symm hq)] at hrest
      simpa [tick_loop, events_for_fired, hq] using hrest

/-- Over a `timer_vector` that lists each timer once, `Tick` ticks each listed timer once,
    leaves every other address alone, and dispatches the events in the vector's order. -/
theorem CsThreadTimer.tick_loop_of_nodup (parent : Client) :
    ∀ (ps : List Nat) (timers : Nat → CsTimer), ps.Nodup →
      tick_loop parent ps timers =
        (fun q => if q ∈ ps then ((timers q).tick parent).1 else timers q,
          ps.filterMap fun q => ((timers q).tick parent).2.map (q, ·))
  | [], _, _ => rfl
  | p :: ps, timers, hnodup => by
    obtain ⟨hp, hps⟩ := List.nodup_cons.mp hnodup
    have hframe : ∀ q ∈ ps, Function.update timers p ((timers p).tick parent).1 q = timers q :=
      fun q hq => Function.update_noteq (ne_of_mem_of_not_mem hq hp) _ _
    simp only [tick_loop, tick_loop_of_nodup parent ps _ hps, List.filterMap_cons]
    refine Prod.ext (funext fun q => ?_) ?_
    · by_cases hqp : q = p
      · subst hqp
        simp [hp]
      · simp [hqp]
    · rw [List.filterMap_congr fun q hq => by rw [hframe q hq]]
      cases ((timers p).tick parent).2 <;> rfl

section untouched

variable {p : Nat}

/-- An action other than a tick that is not applied to the timer at `p` leaves it, and
    its single entry in `timer_vector`, alone; a tick ticks it once. -/
theorem CsThreadTimer.step_untouched (s : CsThreadTimer) (hcount : s.timer_vector.count p = 1)
    (a : TimerAction) (ha : a.timer? ≠ some p) :
    (s.step a).1.parent = s.parent ∧ (s.step a).1.timer_vector.count p = 1 ∧
      ((s.step a).1.timers p, events_for p (s.step a).2) =
        (s.timers p).ticks s.parent (if a = .tick then 1 else 0) := by
  have hmodify (q : Nat) (f : CsTimer → CsTimer) (hq : some q ≠ some p) :
      (s.modify q f).timers p = s.timers p :=
    s.modify_timers_of_ne f fun h => hq (congrArg some h.symm)
  cases a with
  | tick => exact ⟨rfl, hcount, tick_loop_of_count_eq_one s.parent _ _ hcount⟩
  | start q | stop q | set_value q _ | set_interval q _ | extend q _ =>
    exact ⟨rfl, hcount, by simp [step, hmodify q _ ha, CsTimer.ticks]⟩
  | create q _ _ _ _ =>
    have hq : q ≠ p := fun h => ha (congrArg some h)
    refine ⟨rfl, ?_, by simp [step, CsThreadTimer.create, add_timer, hmodify q _ ha, CsTimer.ticks]⟩
    simpa [step, CsThreadTimer.create, add_timer, List.count_singleton', hq] using hcount
  | destroy q =>
    have hq : q ≠ p := fun h => ha (congrArg some h)
    refine ⟨rfl, ?_, by simp [step, destroy, remove_timer, hmodify q _ ha, CsTimer.ticks]⟩
    simpa [step, destroy, remove_timer, List.count_erase, hq] using hcount

/-- Over a run whose actions are not applied to the timer at `p`, that timer and its
    events evolve as `n` ticks of it alone, `n` being the number of ticks in the run. -/
theorem CsThreadTimer.run_untouched :
    ∀ (acts : List TimerAction) (s : CsThreadTimer), s.timer_vector.count p = 1 →
      (∀ a ∈ acts, a.timer? ≠ some p) →
      ((s.run acts).1.timers p, events_for p (s.run acts).2) =
        (s.timers p).ticks s.parent (acts.count .tick)
  | [], _, _, _ => rfl
  | a :: acts, s, hcount, hacts => by
    obtain ⟨hparent, hcount', hstep⟩ := step_untouched s hcount a (hacts a (List.mem_cons_self a acts))
    have hrest := run_untouched acts (s.step a).1 hcount' fun b hb => hacts b (List.mem_cons_of_mem a hb)
    rw [hparent, Prod.ext_iff] at hrest
    rw [Prod.ext_iff] at hstep
    have hcount_cons : (a :: acts).count .tick = (if a = .tick then 1 else 0) + acts.count .tick := by
      by_cases h : a = .tick <;> simp [List.count_cons, h, Nat.add_comm]
    rw [hcount_cons, CsTimer.ticks_add, ← hstep.1, ← hstep.2, ← hrest.1, ← hrest.2]
    simp [run]

end untouched

/-- `Tick` keeps a running timer with value `V ≥ 1` and interval `I ≥ 1` periodic: over
    any run whose other actions leave it alone, its events after `n` ticks, all to its
    target or else to the parent, number `0` before `V` ticks and `1 + (n - V) / I` from
    then on, it stays running, and its value stays in `[1, max V I]`. -/
theorem CsThreadTimer.run_periodic_timer (s : CsThreadTimer) (hnodup : s.timer_vector.Nodup)
    (p : Nat) (hp : p ∈ s.timer_vector) (hrun : (s.timers p).running = true) (V I : Nat)
    (hvalue : (s.timers p).value = V) (hinterval : (s.timers p).interval = I)
    (hV : 1 ≤ V) (hI : 1 ≤ I) (acts : List TimerAction) (hacts : ∀ a ∈ acts, a.timer? ≠ some p) :
    let n := acts.count .tick
    events_for p (s.run acts).2 =
        List.replicate (if n < V then 0 else 1 + (n - V) / I)
          (if (s.timers p).target = none then s.parent else (s.timers p).target) ∧
      ((s.run acts).1.timers p).running = true ∧
      ((s.run acts).1.timers p).value =
        (if n < V then ((V - n : Nat) : Int) else ((I - (n - V) % I : Nat) : Int)) ∧
      1 ≤ ((s.run acts).1.timers p).value ∧ ((s.run acts).1.timers p).value ≤ max V I := by
  intro n
  have hrun_eq := CsThreadTimer.run_untouched acts s (List.count_eq_one_of_mem hnodup hp) hacts
  rw [CsTimer.ticks_periodic s.parent hrun V I n hvalue hinterval hV hI, Prod.ext_iff] at hrun_eq
  obtain ⟨htimer, hevents⟩ := hrun_eq
  simp only at htimer hevents
  rw [htimer]
  dsimp only
  refine ⟨hevents, hrun, rfl, ?_, ?_⟩ <;> split
  all_goals
    have := Nat.mod_lt (n - V) (by omega : 0 < I)
    omega

/-- A timer with value `2` and interval `3`, alone in the registry, over three ticks. -/
theorem CsThreadTimer.run_periodic_timer_two_three :
    let t : CsTimer := { running := true, id := 7, target := none, value := 2, interval := 3 }
    let s : CsThreadTimer := { parent := some 1, timer_vector := [0], timers := fun _ => t }
    let acts : List TimerAction := [.tick, .tick, .tick]
    (s.timer_vector.Nodup ∧ 0 ∈ s.timer_vector ∧ (s.timers 0).running = true ∧
      (s.timers 0).value = 2 ∧ (s.timers 0).interval = 3 ∧ 1 ≤ 2 ∧ 1 ≤ 3 ∧
      ∀ a ∈ acts, a.timer? ≠ some 0) ∧
    (let n := acts.count .tick;
      events_for 0 (s.run acts).2 =
          List.replicate (if n < 2 then 0 else 1 + (n - 2) / 3)
            (if (s.timers 0).target = none then s.parent else (s.timers 0).target) ∧
        ((s.run acts).1.timers 0).running = true ∧
        ((s.run acts).1.timers 0).value =
          (if n < 2 then ((2 - n : Nat) : Int) else ((3 - (n - 2) % 3 : Nat) : Int)) ∧
        1 ≤ ((s.run acts).1.timers 0).value ∧ ((s.run acts).1.timers 0).value ≤ max 2 3) :=
  ⟨⟨by decide, by decide, rfl, rfl, rfl, by decide, by decide, by decide⟩,
    CsThreadTimer.run_periodic_timer _ (by decide) 0 (by decide) rfl 2 3 rfl rfl (by decide) (by decide) _
      (by decide)⟩

/-- The code's failing run for a one-shot timer: a running timer with value `1` and
    interval `0`, alone in the registry, fires on each of two ticks and is still running. -/
theorem CsThreadTimer.one_shot_timer_fires_twice :
    let t : CsTimer := { running := true, id := 7, target := none, value := 1, interval := 0 }
    let s : CsThreadTimer := { parent := some 1, timer_vector := [0], timers := fun _ => t }
    (s.run [.tick, .tick]).2 = [(0, some 1), (0, some 1)] ∧ ((s.run [.tick, .tick]).1.timers 0).running = true := by
  decide

/-- With interval `0`, a running timer with at most one second left, its value within the
    range of `time_t` so that `--value` does not wrap, fires on every tick of any run that leaves
    it alone, to its target or else to the parent, and stays running: `Tick` reloads
    `value = 0`, and `if (value > 0) running = true` leaves the flag set, so a one-shot timer
    never stops by itself. -/
theorem CsThreadTimer.one_shot_timer_fires_every_tick (s : CsThreadTimer) (hnodup : s.timer_vector.Nodup)
    (p : Nat) (hp : p ∈ s.timer_vector) (hrun : (s.timers p).running = true)
    (hinterval : (s.timers p).interval = 0) (hvalue : LONG_MIN < (s.timers p).value ∧ (s.timers p).value ≤ 1)
    (acts : List TimerAction) (hacts : ∀ a ∈ acts, a.timer? ≠ some p) :
    events_for p (s.run acts).2 =
        List.replicate (acts.count .tick) ((s.timers p).dispatch_target s.parent) ∧
      ((s.run acts).1.timers p).running = true := by
  obtain ⟨htimer, hevents⟩ :=
    Prod.ext_iff.mp (CsThreadTimer.run_untouched acts s (List.count_eq_one_of_mem hnodup hp) hacts)
  cases hn : acts.count .tick with
  | zero =>
    simp only [hn, CsTimer.ticks] at htimer hevents
    exact ⟨hevents, htimer ▸ hrun⟩
  | succ n =>
    simp only [hn, CsTimer.ticks_interval_zero s.parent hrun hinterval hvalue.2 n] at htimer hevents
    exact ⟨hevents, by rw [htimer]; exact hrun⟩

/-- The one-shot timer of the failing run, over three ticks around another timer's construction. -/
theorem CsThreadTimer.one_shot_timer_fires_every_tick_three :
    let t : CsTimer := { running := true, id := 7, target := none, value := 1, interval := 0 }
    let s : CsThreadTimer := { parent := some 1, timer_vector := [0], timers := fun _ => t }
    let acts : List TimerAction := [.tick, .create 1 8 5 0 none, .tick, .tick]
    (s.timer_vector.Nodup ∧ 0 ∈ s.timer_vector ∧ (s.timers 0).running = true ∧
        (s.timers 0).interval = 0 ∧ (LONG_MIN < (s.timers 0).value ∧ (s.timers 0).value ≤ 1) ∧
        ∀ a ∈ acts, a.timer? ≠ some 0) ∧
      (events_for 0 (s.run acts).2 =
          List.replicate (acts.count .tick) ((s.timers 0).dispatch_target s.parent) ∧
        ((s.run acts).1.timers 0).running = true) :=
  ⟨⟨by decide, by decide, rfl, rfl, by decide, by decide⟩,
    CsThreadTimer.one_shot_timer_fires_every_tick _ (by decide) 0 (by decide) rfl rfl (by decide) _
      (by decide)⟩

/-- What an action sets the `running` flag of the timer at `p` to, if it sets it: `Start`,
    `Stop`, the constructor (`running(false)`) and the destructor's `Stop()`. -/
def TimerAction.sets_running (p : Nat) : TimerAction → Option Bool
  | .start q => if q = p then some true else none
  | .stop q | .destroy q | .create q .. => if q = p then some false else none
  | _ => none

/-- `Tick`'s loop body never changes the flag. -/
theorem CsTimer.tick_running (parent : Client) (t : CsTimer) : (t.tick parent).1.running = t.running := by
  unfold CsTimer.tick
  split_ifs <;> simp_all

theorem CsThreadTimer.tick_loop_running (parent : Client) :
    ∀ (ps : List Nat) (timers : Nat → CsTimer) (q : Nat),
      ((tick_loop parent ps timers).1 q).running = (timers q).running
  | [], _, _ => rfl
  | p :: ps, timers, q => by
    simp only [tick_loop]
    rw [tick_loop_running parent ps _ q]
    by_cases hq : q = p
    · subst hq; simp [CsTimer.tick_running]
    · simp [hq]

theorem CsThreadTimer.step_running (s : CsThreadTimer) (p : Nat) (a : TimerAction) :
    ((s.step a).1.timers p).running = (a.sets_running p).getD (s.timers p).running := by
  cases a with
  | tick => exact tick_loop_running _ _ _ _
  | start q | stop q | set_value q _ | set_interval q _ | extend q _ | create q _ _ _ _ | destroy q =>
    by_cases h : q = p
    · subst h
      simp [step, modify, CsThreadTimer.create, add_timer, destroy, remove_timer, TimerAction.sets_running,
        CsTimer.start, CsTimer.stop, CsTimer.set_value, CsTimer.set_interval, CsTimer.extend, CsTimer.new]
    · simp [step, modify, CsThreadTimer.create, add_timer, destroy, remove_timer, TimerAction.sets_running,
        h, Ne.symm h]

/-- The `running` flag of the timer at `p` after any run is the one the run's last `Start`,
    `Stop`, construction or deletion of it set, or its flag before the run if there is none:
    `Tick` never starts or stops a timer, its `if (value > 0) running = true` writing the
    value the flag already has. -/
theorem CsThreadTimer.run_running (s : CsThreadTimer) (p : Nat) (acts : List TimerAction) :
    ((s.run acts).1.timers p).running =
      ((acts.filterMap (·.sets_running p)).getLast?).getD (s.timers p).running := by
  induction acts generalizing s with
  | nil => rfl
  | cons a acts ih =>
    show (((s.step a).1.run acts).1.timers p).running = _
    rw [ih, step_running]
    cases h : a.sets_running p <;> simp [List.filterMap_cons, h, List.getLast?_cons]

theorem CsThreadTimer.tick_loop_events_of_stopped (parent : Client) (p : Nat) :
    ∀ (ps : List Nat) (timers : Nat → CsTimer), (timers p).running = false →
      events_for p (tick_loop parent ps timers).2 = []
  | [], _, _ => rfl
  | q :: ps, timers, hstopped => by
    have hrest := tick_loop_events_of_stopped parent p ps
      (Function.update timers q ((timers q).tick parent).1) (by
        by_cases hq : p = q
        · subst hq; simpa [CsTimer.tick_running] using hstopped
        · simpa [hq] using hstopped)
    simp only [tick_loop, events_for_append, events_for_fired, hrest, List.append_nil]
    split_ifs with hq
    · subst hq; simp [CsTimer.tick, hstopped]
    · rfl

/-- A stopped timer that no later `Start` names dispatches no `csEventTimer` and stays
    stopped, whatever else the run does: ticks, new values, extensions, other timers. -/
theorem CsThreadTimer.stopped_timer_stays_silent (s : CsThreadTimer) (p : Nat)
    (hstopped : (s.timers p).running = false) (acts : List TimerAction) (hacts : .start p ∉ acts) :
    events_for p (s.run acts).2 = [] ∧ ((s.run acts).1.timers p).running = false := by
  induction acts generalizing s with
  | nil => exact ⟨rfl, hstopped⟩
  | cons a acts ih =>
    have ha : a ≠ .start p := fun h => hacts (h ▸ List.mem_cons_self _ _)
    have hstep : ((s.step a).1.timers p).running = false := by
      rw [step_running]
      cases a <;> simp_all [TimerAction.sets_running] <;> split_ifs <;> simp_all
    obtain ⟨hevents, hrunning⟩ := ih (s.step a).1 hstep fun h => hacts (List.mem_cons_of_mem a h)
    refine ⟨?_, hrunning⟩
    show events_for p ((s.step a).2 ++ ((s.step a).1.run acts).2) = []
    rw [events_for_append, hevents, List.append_nil]
    cases a with
    | tick => exact tick_loop_events_of_stopped _ p _ _ hstopped
    | _ => rfl

/-- A stopped timer with value `1`, over two ticks around a `SetValue(0)` of it. -/
theorem CsThreadTimer.stopped_timer_stays_silent_ticks :
    let s : CsThreadTimer :=
      { parent := some 1, timer_vector := [0], timers := fun _ => CsTimer.new 7 1 1 none }
    let acts : List TimerAction := [.tick, .set_value 0 0, .tick]
    ((s.timers 0).running = false ∧ TimerAction.start 0 ∉ acts) ∧
      (events_for 0 (s.run acts).2 = [] ∧ ((s.run acts).1.timers 0).running = false) :=
  ⟨⟨rfl, by decide⟩, CsThreadTimer.stopped_timer_stays_silent _ 0 rfl _ (by decide)⟩

end clearsync.timer
