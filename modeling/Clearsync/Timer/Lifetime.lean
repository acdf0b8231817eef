import Clearsync.Timer.Registry

namespace clearsync.timer

/-- The addresses of the timers a run constructs and does not destroy later, in the order
    they were constructed: each `create p` that no later `destroy p` follows. -/
def live : List TimerAction → List Nat
  | [] => []
  | .create p _ _ _ _ :: acts => if .destroy p ∈ acts then live acts else p :: live acts
  | _ :: acts => live acts

/-- Whether an action constructs or destroys a timer. -/
def TimerAction.is_lifetime : TimerAction → Bool
  | .create .. | .destroy _ => true
  | _ => false

/-- The C++ object lifetimes of a run: a `csTimer` is constructed at an address no live
    timer holds, and only a live timer is deleted. -/
inductive Lifetimes : List TimerAction → Prop
  | nil : Lifetimes []
  | create {acts p id value interval target} : Lifetimes acts → p ∉ live acts →
      Lifetimes (acts ++ [.create p id value interval target])
  | destroy {acts p} : Lifetimes acts → p ∈ live acts → Lifetimes (acts ++ [.destroy p])
  | other {acts a} : Lifetimes acts → a.is_lifetime = false → Lifetimes (acts ++ [a])

/-- The timers live after a run followed by more actions: those of the run that the rest
    does not destroy, then those of the rest. -/
theorem live_append (acts rest : List TimerAction) :
    live (acts ++ rest) = (live acts).filter (fun p => .destroy p ∉ rest) ++ live rest := by
  induction acts with
  | nil => rfl
  | cons a acts ih =>
    cases a with
    | create p =>
      by_cases hacts : TimerAction.destroy p ∈ acts
      · simp [live, hacts, ih]
      · by_cases hrest : TimerAction.destroy p ∈ rest <;> simp [live, hacts, hrest, ih]
    | _ => simpa [live] using ih

example : live [.create 0 1 1 0 none, .create 1 2 2 0 none, .destroy 0,
    .create 0 3 1 0 (some 2), .start 0] = [1, 0] := by decide

theorem live_append_create (acts : List TimerAction) (p id : Nat) (value interval : Int)
    (target : Client) : live (acts ++ [.create p id value interval target]) = live acts ++ [p] := by
  simp [live_append, live]

theorem live_append_destroy (acts : List TimerAction) (p : Nat) :
    live (acts ++ [.destroy p]) = (live acts).filter (· ≠ p) := by
  simp [live_append, live]

theorem live_append_of_not_lifetime (acts : List TimerAction) {a : TimerAction}
    (ha : a.is_lifetime = false) : live (acts ++ [a]) = live acts := by
  cases a <;> simp_all [live_append, live, TimerAction.is_lifetime]

/-- No address holds two live timers. -/
theorem Lifetimes.live_nodup {acts : List TimerAction} (h : Lifetimes acts) : (live acts).Nodup := by
  induction h with
  | nil => exact List.nodup_nil
  | create _ hp ih => simpa [live_append_create, List.nodup_append, hp] using ih
  | destroy _ _ ih => simpa [live_append_destroy] using ih.filter _
  | other _ ha ih => rwa [live_append_of_not_lifetime _ ha]

theorem CsThreadTimer.run_append (s : CsThreadTimer) (acts rest : List TimerAction) :
    s.run (acts ++ rest) =
      (((s.run acts).1.run rest).1, (s.run acts).2 ++ ((s.run acts).1.run rest).2) := by
  induction acts generalizing s with
  | nil => rfl
  | cons a acts ih => simp [run, ih]

theorem CsThreadTimer.step_timer_vector_of_not_lifetime (s : CsThreadTimer) {a : TimerAction}
    (ha : a.is_lifetime = false) : (s.step a).1.timer_vector = s.timer_vector := by
  cases a <;> simp_all [step, TimerAction.is_lifetime]

/-- From an empty registry, `timer_vector` is the list of live timers whenever the run respects
    C++ object lifetimes: the constructor's `AddTimer(this)` appends the new one, and the
    destructor's `RemoveTimer(this)`, erasing the first match, removes the only one. -/
theorem CsThreadTimer.run_timer_vector_live (s : CsThreadTimer) (hempty : s.timer_vector = [])
    {acts : List TimerAction} (hlife : Lifetimes acts) : (s.run acts).1.timer_vector = live acts := by
  induction hlife with
  | nil => exact hempty
  | create _ _ ih =>
    rw [run_append, live_append_create, ← ih]
    rfl
  | @destroy acts p hlife _ ih =>
    rw [run_append, live_append_destroy]
    show (s.run acts).1.timer_vector.erase p = _
    rw [ih, hlife.live_nodup.erase_eq_filter]
    exact List.filter_congr fun q _ => by by_cases h : q = p <;> simp [h]
  | other _ ha ih =>
    rw [run_append, live_append_of_not_lifetime _ ha, ← ih]
    exact step_timer_vector_of_not_lifetime _ ha

/-- From an empty registry, over any run that respects the timers' lifetimes, `timer_vector`
    lists the live timers, each once, in the order they were constructed; a `Tick` then
    ticks each live timer once, leaves every other address alone, and dispatches the events
    of the timers that fire in the order they were constructed. -/
theorem CsThreadTimer.tick_visits_live_timers (s : CsThreadTimer) (hempty : s.timer_vector = [])
    (acts : List TimerAction) (hlife : Lifetimes acts) :
    let r : CsThreadTimer := (s.run acts).1
    r.timer_vector = live acts ∧ (live acts).Nodup ∧
      r.tick = ({ r with
          timers := fun q => if q ∈ live acts then ((r.timers q).tick r.parent).1 else r.timers q },
        (live acts).filterMap fun q => ((r.timers q).tick r.parent).2.map (q, ·)) := by
  have hvector := run_timer_vector_live s hempty hlife
  refine ⟨hvector, hlife.live_nodup, ?_⟩
  simp only [tick, hvector, tick_loop_of_nodup _ _ _ hlife.live_nodup]

/-- Two timers, the first deleted and its address reused by a third, which is started. -/
theorem CsThreadTimer.tick_visits_live_timers_reused :
    let s : CsThreadTimer :=
      { parent := some 1, timer_vector := [], timers := fun _ => CsTimer.new 0 0 0 none }
    let acts : List TimerAction :=
      [.create 0 1 1 0 none, .create 1 2 2 0 none, .destroy 0, .create 0 3 1 0 (some 2), .start 0]
    (s.timer_vector = [] ∧ Lifetimes acts) ∧
      (let r : CsThreadTimer := (s.run acts).1;
        r.timer_vector = live acts ∧ (live acts).Nodup ∧
          r.tick = ({ r with
              timers := fun q => if q ∈ live acts then ((r.timers q).tick r.parent).1 else r.timers q },
            (live acts).filterMap fun q => ((r.timers q).tick r.parent).2.map (q, ·))) :=
  have hlife : Lifetimes [.create 0 1 1 0 none, .create 1 2 2 0 none, .destroy 0,
      .create 0 3 1 0 (some 2), .start 0] :=
    .other (.create (.destroy (.create (.create .nil (by decide)) (by decide)) (by decide))
      (by decide)) rfl
  ⟨⟨rfl, hlife⟩, CsThreadTimer.tick_visits_live_timers _ rfl _ hlife⟩

end clearsync.timer
