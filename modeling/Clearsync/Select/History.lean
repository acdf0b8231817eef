import Clearsync.Select.Latch

namespace clearsync.select

/-- A step after which `IsSet(fd, w)` can no longer report an earlier merge: `Set` or
    `Clear` of `fd`, `Reset`, or an `IsSet(fd, w)` that returned true. -/
def SelectObs.kills (fd : Int) (w : BitVec 32) : SelectObs → Bool
  | .set fd' | .clear fd' => fd' = fd
  | .reset => true
  | .is_set fd' w' r => fd' = fd && w' = w && r
  | .merge _ _ | .idle => false

/-- A merge that found `w` in the interest of `fd` at merge time and `fd` ready for `w`
    in its `select` result. -/
def SelectObs.latches (fd : Int) (w : BitVec 32) : SelectObs → Bool
  | .merge interest result => latched interest fd w && fd ∈ result.get w
  | _ => false

theorem SelectObs.not_kills_of_latches {fd : Int} {w : BitVec 32} :
    ∀ {o : SelectObs}, o.latches fd w = true → o.kills fd w = false
  | .merge _ _, _ => rfl

/-- Whether readiness of `w` for `fd` is latched after `trace`, from `b` before it. -/
def readiness (fd : Int) (w : BitVec 32) (b : Bool) (trace : List SelectObs) : Bool :=
  trace.foldl (fun b o => if o.kills fd w then false else if o.latches fd w then true else b) b

/-- Latched after a trace means: latched before and never forgotten, or latched by a
    merge that no later step forgets. -/
theorem readiness_iff (fd : Int) (w : BitVec 32) :
    ∀ (trace : List SelectObs) (b : Bool), readiness fd w b trace = true ↔
      (b = true ∧ ∀ o ∈ trace, o.kills fd w = false) ∨
        ∃ before o after, trace = before ++ o :: after ∧ o.latches fd w = true ∧
          ∀ o' ∈ after, o'.kills fd w = false
  | [], b => by simp [readiness]
  | o :: trace, b => by
    have ih := readiness_iff fd w trace
      (if o.kills fd w then false else if o.latches fd w then true else b)
    simp only [readiness, List.foldl_cons] at ih ⊢
    rw [ih]
    have hdisj := @SelectObs.not_kills_of_latches fd w o
    constructor
    · rintro (⟨hb, hrest⟩ | ⟨before, o', after, rfl, hlatch, hafter⟩)
      · by_cases hk : o.kills fd w
        · simp [hk] at hb
        · by_cases hl : o.latches fd w
          · exact .inr ⟨[], o, trace, rfl, hl, hrest⟩
          · simp only [hk, hl, if_false] at hb
            exact .inl ⟨hb, by simpa [hk] using hrest⟩
      · exact .inr ⟨o :: before, o', after, rfl, hlatch, hafter⟩
    · rintro (⟨rfl, hall⟩ | ⟨before, o', after, htrace, hlatch, hafter⟩)
      · have hk : o.kills fd w = false := hall o (List.mem_cons_self o trace)
        exact .inl ⟨by simp [hk], fun o' h => hall o' (List.mem_cons_of_mem o h)⟩
      · rcases List.cons_eq_append_iff.mp htrace with ⟨rfl, rfl, rfl⟩ | ⟨before', rfl, rfl⟩
        · exact .inl ⟨by simp [hdisj hlatch, hlatch], hafter⟩
        · exact .inr ⟨before', o', after, rfl, hlatch, hafter⟩

section run

variable (fd : Int) {w : BitVec 32} (hw : FdsBit w)
include hw

theorem Poller.latched_step (p : Poller) (a : SelectAction) :
    latched (p.step a).1.sel.select_events fd w =
      readiness fd w (latched p.sel.select_events fd w) [(p.step a).2] := by
  cases a with
  | set fd' whence | clear fd' whence =>
    by_cases h : fd' = fd
    · subst h
      simp [Poller.step, CsSelect.set, CsSelect.clear, readiness, SelectObs.kills, latched_erase]
    · simp [Poller.step, CsSelect.set, CsSelect.clear, readiness, SelectObs.kills,
        SelectObs.latches, latched_erase, h, Ne.symm h]
  | reset => simp [Poller.step, CsSelect.reset, readiness, SelectObs.kills]
  | is_set fd' w' =>
    simp only [Poller.step, readiness, List.foldl_cons, List.foldl_nil, SelectObs.kills,
      SelectObs.latches, p.sel.latched_is_set fd fd' w' hw, @eq_comm _ fd fd']
    generalize latched p.sel.select_events fd w = b
    generalize (p.sel.is_set fd' w').1 = r
    cases b <;> cases r <;> simp
  | snapshot => simp [Poller.step, readiness, SelectObs.kills, SelectObs.latches]
  | select ready =>
    cases hfds : p.fds with
    | none => simp [Poller.step, hfds, readiness, SelectObs.kills, SelectObs.latches]
    | some sets =>
      simp only [Poller.step, hfds, readiness, List.foldl_cons, List.foldl_nil,
        SelectObs.kills, SelectObs.latches, CsSelect.latched_merge _ _ fd hw]
      cases latched p.sel.select_events fd w <;> simp

/-- Along a run, the latched `w` of `fd` follows its history. -/
theorem Poller.latched_run :
    ∀ (acts : List SelectAction) (p : Poller),
      latched (p.run acts).1.sel.select_events fd w =
        readiness fd w (latched p.sel.select_events fd w) (p.run acts).2
  | [], _ => rfl
  | a :: acts, p => by
    simp only [Poller.run, Poller.latched_run acts, Poller.latched_step fd hw p a, readiness,
      List.foldl_cons, List.foldl_nil]

end run

@[simp] theorem CsSelect.is_set_select_fds (s : CsSelect) (fd : Int) (w : BitVec 32) :
    (s.is_set fd w).2.select_fds = s.select_fds := by
  unfold CsSelect.is_set
  split
  · split <;> rfl
  · rfl

/-- Every latched bit of a descriptor is one of its interest bits: in particular no
    descriptor has a latched entry without an interest entry. -/
def Covered (s : CsSelect) : Prop :=
  ∀ fd e, s.select_events.lookup fd = some e → ∃ f, s.select_fds.lookup fd = some f ∧ e &&& f = e

private theorem and_eq_self_iff {e f : BitVec 32} :
    e &&& f = e ↔ ∀ i, e.getLsbD i = true → f.getLsbD i = true := by
  constructor
  · intro h i hi
    have := congrArg (·.getLsbD i) h
    simp only [BitVec.getLsbD_and, hi, Bool.true_and] at this
    exact this
  · intro h
    ext i
    cases he : e.getLsbD i <;> simp [he, h i]

/-- The latches of the merge add to `fd` only bits of its interest `interest`. -/
theorem covered_latch {fds m : FdMap} (hm : ∀ fd e, m.lookup fd = some e →
      ∃ f, fds.lookup fd = some f ∧ e &&& f = e)
    {fd' : Int} {interest w : BitVec 32} (hfd' : fds.lookup fd' = some interest) (hw : FdsBit w)
    (set : List Int) :
    ∀ fd e, (latch m fd' interest w set).lookup fd = some e →
      ∃ f, fds.lookup fd = some f ∧ e &&& f = e := by
  intro fd e he
  unfold latch at he
  split at he
  · rename_i hcond
    by_cases h : fd = fd'
    · subst h
      obtain ⟨k, hk, rfl⟩ := hw.eq_twoPow
      have hbit : interest.getLsbD k = true := by
        by_contra hb
        exact hcond.1 (by rw [BitVec.and_twoPow, if_neg hb]; rfl)
      rw [lookup_or_assign, if_pos rfl] at he
      refine ⟨interest, hfd', and_eq_self_iff.mpr fun i hi => ?_⟩
      cases hv : m.lookup fd with
      | none =>
        simp only [hv, Option.elim, Option.some.injEq] at he
        subst he
        simp [BitVec.getLsbD_twoPow] at hi
        exact hi.2 ▸ hbit
      | some v =>
        obtain ⟨f, hf, hvf⟩ := hm fd v hv
        rw [hfd', Option.some.injEq] at hf
        subst hf
        simp only [hv, Option.elim, Option.some.injEq] at he
        subst he
        simp only [BitVec.getLsbD_or, BitVec.getLsbD_twoPow, Bool.or_eq_true,
          Bool.and_eq_true, decide_eq_true_eq] at hi
        rcases hi with hi | ⟨-, rfl⟩
        · exact and_eq_self_iff.mp hvf i hi
        · exact hbit
    · exact hm fd e (by rwa [lookup_or_assign, if_neg h] at he)
  · exact hm fd e he

theorem CsSelect.covered_merge {s : CsSelect} (hs : Covered s) (result : FdSets) :
    Covered (s.merge result) := by
  have hentry : ∀ e ∈ s.select_fds.entries, s.select_fds.lookup e.1 = some e.2 :=
    fun e he => AList.mem_lookup_iff.mpr (by simpa using he)
  suffices ∀ (l : List (Σ _ : Int, BitVec 32)), (∀ e ∈ l, s.select_fds.lookup e.1 = some e.2) →
      ∀ m : FdMap, (∀ fd e, m.lookup fd = some e → ∃ f, s.select_fds.lookup fd = some f ∧ e &&& f = e) →
      ∀ fd e, (l.foldl (latch_entry result) m).lookup fd = some e →
        ∃ f, s.select_fds.lookup fd = some f ∧ e &&& f = e from
    this _ hentry _ hs
  intro l
  induction l with
  | nil => exact fun _ _ hm => hm
  | cons e l ih =>
    intro hl m hm
    have he := hl e (List.mem_cons_self e l)
    refine ih (fun e' h => hl e' (List.mem_cons_of_mem e h)) _ ?_
    exact covered_latch (covered_latch (covered_latch hm he (.inl rfl) _) he (.inr (.inl rfl)) _)
      he (.inr (.inr rfl)) _

theorem Poller.covered_step {p : Poller} (hp : Covered p.sel) (a : SelectAction) :
    Covered (p.step a).1.sel := by
  intro fd e he
  cases a with
  | set fd' whence =>
    simp only [Poller.step, CsSelect.set] at he ⊢
    by_cases h : fd = fd'
    · subst h; simp [AList.lookup_erase] at he
    · rw [AList.lookup_erase_ne h] at he
      rw [lookup_or_assign, if_neg h]
      exact hp fd e he
  | clear fd' whence =>
    simp only [Poller.step, CsSelect.clear] at he ⊢
    by_cases h : fd = fd'
    · subst h; simp [AList.lookup_erase] at he
    · rw [AList.lookup_erase_ne h] at he ⊢
      exact hp fd e he
  | reset => simp [Poller.step, CsSelect.reset] at he
  | is_set fd' w' =>
    simp only [Poller.step] at he ⊢
    rw [CsSelect.is_set_select_fds]
    unfold CsSelect.is_set at he
    cases hv : p.sel.select_events.lookup fd' with
    | none => simp only [hv] at he; exact hp fd e he
    | some bits =>
      simp only [hv] at he
      split at he
      · by_cases h : fd = fd'
        · subst h
          rw [AList.lookup_insert, Option.some.injEq] at he
          subst he
          obtain ⟨f, hf, hbits⟩ := hp fd bits hv
          exact ⟨f, hf, by rw [BitVec.and_assoc, BitVec.and_comm _ f, ← BitVec.and_assoc, hbits]⟩
        · rw [AList.lookup_insert_ne h] at he
          exact hp fd e he
      · exact hp fd e he
  | snapshot => exact hp fd e he
  | select ready =>
    simp only [Poller.step] at he ⊢
    split at he
    · exact p.sel.covered_merge hp _ fd e he
    · exact hp fd e he

theorem Poller.covered_run : ∀ (acts : List SelectAction) {p : Poller}, Covered p.sel →
    Covered (p.run acts).1.sel
  | [], _, hp => hp
  | a :: acts, p, hp => Poller.covered_run acts (p.covered_step hp a)

/-- In every interleaving of client calls with the poller's two critical sections,
    `IsSet(fd, w)` returns true exactly when some merge found `w` in the interest of
    `fd` at merge time and `fd` ready for `w`, and no `Set(fd, _)`, `Clear(fd, _)`,
    `Reset` or `IsSet(fd, w)` returning true came after it; and the latched bits of
    every descriptor stay within its interest bits. -/
theorem Poller.is_set_iff_merged (acts : List SelectAction) :
    (∀ (fd : Int) (w : BitVec 32), w = FDS_READ ∨ w = FDS_WRITE ∨ w = FDS_EXCEPT →
      (((Poller.init.run acts).1.sel.is_set fd w).1 = true ↔
        ∃ before o after, (Poller.init.run acts).2 = before ++ o :: after ∧
          o.latches fd w = true ∧ ∀ o' ∈ after, o'.kills fd w = false)) ∧
      Covered (Poller.init.run acts).1.sel := by
  refine ⟨fun fd w hw => ?_, Poller.covered_run acts fun fd e he => by simp [Poller.init,
    CsSelect.reset] at he⟩
  rw [CsSelect.is_set_fst _ fd hw, Poller.latched_run fd hw, readiness_iff]
  simp [Poller.init, CsSelect.reset]

end clearsync.select
