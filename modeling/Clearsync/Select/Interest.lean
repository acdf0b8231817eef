import Clearsync.Select.History

namespace clearsync.select

/-- Whether an action drops the interest of `fd`: `Clear(fd, ·)`, or `Reset`. -/
def SelectAction.drops (fd : Int) : SelectAction → Bool
  | .clear fd' _ => fd' = fd
  | .reset => true
  | _ => false

/-- The bits a `Set(fd, whence)` adds to the interest of `fd`. -/
def SelectAction.adds (fd : Int) : SelectAction → Option (BitVec 32)
  | .set fd' whence => if fd' = fd then some whence else none
  | _ => none

/-- The bits of the `Set(fd, ·)` calls of a run that no later `Clear(fd, ·)` or `Reset`
    follows, in order. -/
def interest_bits (fd : Int) : List SelectAction → List (BitVec 32)
  | [] => []
  | a :: acts =>
    if acts.any (·.drops fd) then interest_bits fd acts else (a.adds fd).toList ++ interest_bits fd acts

theorem SelectAction.adds_of_drops {fd : Int} {a : SelectAction} (h : a.drops fd = true) :
    a.adds fd = none := by
  cases a <;> simp_all [drops, adds]

theorem interest_bits_append_singleton (fd : Int) (acts : List SelectAction) (a : SelectAction) :
    interest_bits fd (acts ++ [a]) =
      if a.drops fd then [] else interest_bits fd acts ++ (a.adds fd).toList := by
  induction acts with
  | nil =>
    by_cases ha : a.drops fd
    · simp [interest_bits, ha, SelectAction.adds_of_drops ha]
    · simp [interest_bits, ha]
  | cons b acts ih =>
    by_cases ha : a.drops fd
    · simp [interest_bits, ha, ih]
    · by_cases hacts : acts.any (·.drops fd) <;> simp [interest_bits, ha, hacts, ih]

theorem Poller.run_append_fst (p : Poller) (acts rest : List SelectAction) :
    (p.run (acts ++ rest)).1 = ((p.run acts).1.run rest).1 := by
  induction acts generalizing p with
  | nil => rfl
  | cons a acts ih => exact ih _

/-- One action on the interest of `fd`: dropped by `Clear(fd, ·)` and `Reset`, or-ed with
    the bits of `Set(fd, ·)`, and left alone by every other action. -/
theorem Poller.step_interest (p : Poller) (a : SelectAction) (fd : Int) :
    (p.step a).1.sel.select_fds.lookup fd =
      if a.drops fd then none
      else (a.adds fd).elim (p.sel.select_fds.lookup fd)
        fun w => some ((p.sel.select_fds.lookup fd).elim w (· ||| w)) := by
  cases a with
  | set fd' whence =>
    by_cases h : fd' = fd
    · subst h
      simp [step, CsSelect.set, SelectAction.drops, SelectAction.adds, lookup_or_assign]
    · simp [step, CsSelect.set, SelectAction.drops, SelectAction.adds, h,
        lookup_or_assign, Ne.symm h]
  | clear fd' whence =>
    by_cases h : fd' = fd
    · subst h
      simp [step, CsSelect.clear, SelectAction.drops]
    · simp [step, CsSelect.clear, SelectAction.drops, SelectAction.adds, h, AList.lookup_erase_ne (Ne.symm h)]
  | reset => simp [step, CsSelect.reset, SelectAction.drops]
  | is_set fd' whence => simp [step, SelectAction.drops, SelectAction.adds]
  | snapshot => simp [step, SelectAction.drops, SelectAction.adds]
  | select ready =>
    cases hfds : p.fds <;>
      simp [step, hfds, CsSelect.merge, SelectAction.drops, SelectAction.adds]

/-- From the constructor, the interest of `fd` after any interleaving of client calls and
    poller iterations is the union of the bits of the `Set(fd, ·)` calls that no later
    `Clear(fd, ·)` or `Reset` follows, and no entry when there is none: only the client calls
    write `select_fds`, and neither `IsSet` nor either critical section of the poller does. -/
theorem Poller.run_interest (acts : List SelectAction) (fd : Int) :
    (Poller.init.run acts).1.sel.select_fds.lookup fd =
      if interest_bits fd acts = [] then none else some ((interest_bits fd acts).foldl (· ||| ·) 0) := by
  induction acts using List.reverseRecOn with
  | nil => rfl
  | append_singleton acts a ih =>
    rw [run_append_fst, interest_bits_append_singleton]
    show ((Poller.init.run acts).1.step a).1.sel.select_fds.lookup fd = _
    rw [step_interest, ih]
    by_cases ha : a.drops fd
    · simp [ha]
    · cases hadds : a.adds fd with
      | none => simp [ha]
      | some w => by_cases hbits : interest_bits fd acts = [] <;> simp [ha, hbits, List.foldl_append]

example : interest_bits 3 [.set 3 FDS_READ, .set 4 FDS_WRITE, .clear 3 FDS_READ, .set 3 FDS_WRITE,
    .snapshot, .set 3 FDS_EXCEPT, .is_set 3 FDS_WRITE] = [FDS_WRITE, FDS_EXCEPT] := by decide

theorem FdSets.select_get (sets ready : FdSets) (w : BitVec 32) :
    (sets.select ready).get w = (sets.get w).filter (· ∈ ready.get w) := by
  unfold FdSets.get FdSets.select
  split_ifs <;> rfl

theorem mem_fd_set (m : FdMap) (fd : Int) (w : BitVec 32) : fd ∈ fd_set m w ↔ latched m fd w = true := by
  simp only [fd_set, List.mem_map, List.mem_filter, decide_eq_true_eq, latched]
  constructor
  · rintro ⟨⟨fd', v⟩, ⟨he, hv⟩, rfl⟩
    rw [AList.mem_lookup_iff.mpr he]
    simpa using hv
  · intro h
    cases hv : m.lookup fd with
    | none => simp [hv] at h
    | some v => exact ⟨⟨fd, v⟩, ⟨AList.mem_lookup_iff.mp hv, by simpa [hv] using h⟩, rfl⟩

private theorem le_foldl_max : ∀ (l : List Int) (init : Int), init ≤ l.foldl max init
  | [], _ => le_rfl
  | x :: l, init => (le_max_left init x).trans (le_foldl_max l _)

/-- The first critical section of an `Entry` iteration, on descriptors `select` accepts: no
    snapshot when there is no interest, and otherwise the `fd_set` of each bit lists exactly
    the descriptors with that bit in their interest. -/
theorem CsSelect.snapshot_spec (s : CsSelect) (hfds : ∀ fd ∈ s.select_fds.keys, 0 ≤ fd) :
    s.snapshot = if s.select_fds.keys = [] then none
      else some ⟨fd_set s.select_fds FDS_READ, fd_set s.select_fds FDS_WRITE, fd_set s.select_fds FDS_EXCEPT⟩ := by
  unfold CsSelect.snapshot
  cases hkeys : s.select_fds.keys with
  | nil => rfl
  | cons fd rest =>
    have hmax : fd ≤ (fd :: rest).foldl max (-1) :=
      (le_max_right (-1) fd).trans (le_foldl_max rest _)
    have hfd := hfds fd (by rw [hkeys]; exact List.mem_cons_self fd rest)
    rw [if_neg (by omega), if_neg (List.cons_ne_nil fd rest)]

theorem FdSets.get_fd_set (m : FdMap) {w : BitVec 32} (hw : FdsBit w) :
    FdSets.get ⟨fd_set m FDS_READ, fd_set m FDS_WRITE, fd_set m FDS_EXCEPT⟩ w = fd_set m w := by
  rcases hw with rfl | rfl | rfl <;> rfl

/-- One iteration of the poller with no client call between its two critical sections, on
    descriptors `select` accepts (`0 ≤ fd < FD_SETSIZE`): it latches `w` for `fd` exactly when
    `fd` has `w` in its interest and `select` marks it ready for `w`, and forgets nothing. -/
theorem Poller.iteration_latches (p : Poller) (ready : FdSets)
    (hfds : ∀ fd ∈ p.sel.select_fds.keys, 0 ≤ fd ∧ fd < FD_SETSIZE) (fd : Int) {w : BitVec 32}
    (hw : FdsBit w) :
    latched ((p.step .snapshot).1.step (.select ready)).1.sel.select_events fd w =
      (latched p.sel.select_events fd w || (latched p.sel.select_fds fd w && fd ∈ ready.get w)) := by
  have hsnapshot := p.sel.snapshot_spec fun fd hfd => (hfds fd hfd).1
  by_cases hkeys : p.sel.select_fds.keys = []
  · have hnone : latched p.sel.select_fds fd w = false := by
      have hnot : fd ∉ p.sel.select_fds := by simp [AList.mem_keys, hkeys]
      simp [latched, AList.lookup_eq_none.mpr hnot]
    rw [if_pos hkeys] at hsnapshot
    simp [step, hsnapshot, hnone]
  · rw [if_neg hkeys] at hsnapshot
    simp only [step, hsnapshot, CsSelect.latched_merge _ _ fd hw, FdSets.select_get,
      FdSets.get_fd_set _ hw, List.mem_filter, mem_fd_set, decide_eq_true_eq]
    cases latched p.sel.select_fds fd w <;> simp

/-- Interest in reading `3` and in reading and writing `5`, and a `select` marking both readable. -/
theorem Poller.iteration_latches_read :
    let p : Poller := (Poller.init.run [.set 3 FDS_READ, .set 5 (FDS_READ ||| FDS_WRITE)]).1
    let ready : FdSets := ⟨[3, 5], [], []⟩
    ((∀ fd ∈ p.sel.select_fds.keys, 0 ≤ fd ∧ fd < FD_SETSIZE) ∧ FdsBit FDS_READ) ∧
      latched ((p.step .snapshot).1.step (.select ready)).1.sel.select_events 5 FDS_READ =
        (latched p.sel.select_events 5 FDS_READ ||
          (latched p.sel.select_fds 5 FDS_READ && decide (5 ∈ ready.get FDS_READ))) :=
  ⟨⟨by decide, .inl rfl⟩, Poller.iteration_latches _ _ (by decide) 5 (.inl rfl)⟩

end clearsync.select
