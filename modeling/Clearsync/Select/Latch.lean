import Clearsync.Select.Basic

namespace clearsync.select

/-- The values of `whence` that `IsSet`'s `switch` handles. -/
def FdsBit (w : BitVec 32) : Prop := w = FDS_READ ∨ w = FDS_WRITE ∨ w = FDS_EXCEPT

theorem FdsBit.eq_twoPow {w : BitVec 32} (hw : FdsBit w) : ∃ k < 32, w = BitVec.twoPow 32 k := by
  rcases hw with rfl | rfl | rfl
  exacts [⟨0, by decide, by decide⟩, ⟨1, by decide, by decide⟩, ⟨2, by decide, by decide⟩]

private theorem and_twoPow_eq_zero {k : Nat} (hk : k < 32) (x : BitVec 32) :
    x &&& BitVec.twoPow 32 k = 0#32 ↔ x.getLsbD k = false := by
  rw [BitVec.and_twoPow]
  have htwo : BitVec.twoPow 32 k ≠ 0 := by
    intro h
    have := congrArg (·.getLsbD k) h
    simp [BitVec.getLsbD_twoPow, hk] at this
  split <;> simp_all

private theorem twoPow_inj {k k' : Nat} (hk : k < 32) (hk' : k' < 32) :
    BitVec.twoPow 32 k' = BitVec.twoPow 32 k ↔ k' = k := by
  constructor
  · intro h
    have := congrArg (·.getLsbD k) h
    simp [BitVec.getLsbD_twoPow, hk, hk'] at this
    exact this
  · rintro rfl; rfl

/-- Whether `m` holds a bit of `w` for `fd`. -/
def latched (m : FdMap) (fd : Int) (w : BitVec 32) : Bool :=
  (m.lookup fd).any fun e => e &&& w ≠ 0

section bit

variable {m : FdMap} {fd fd' : Int} {w : BitVec 32}

@[simp] theorem latched_empty : latched ∅ fd w = false := rfl

theorem latched_erase : latched (m.erase fd') fd w = (fd ≠ fd' && latched m fd w) := by
  by_cases h : fd = fd'
  · subst h; simp [latched, AList.lookup_erase]
  · simp [latched, h, AList.lookup_erase_ne]

theorem latched_insert (v : BitVec 32) :
    latched (m.insert fd' v) fd w = if fd = fd' then decide (v &&& w ≠ 0) else latched m fd w := by
  by_cases h : fd = fd'
  · subst h; simp [latched, AList.lookup_insert]
  · simp [latched, h, AList.lookup_insert_ne]

theorem latched_or_assign (hw : FdsBit w) (bits : BitVec 32) :
    latched (or_assign m fd' bits) fd w = (latched m fd w || (fd = fd' && bits &&& w ≠ 0)) := by
  obtain ⟨k, hk, rfl⟩ := hw.eq_twoPow
  unfold or_assign
  by_cases h : fd = fd'
  · subst h
    cases hv : m.lookup fd <;>
      simp [latched_insert, latched, hv, and_twoPow_eq_zero hk]
  · cases m.lookup fd' <;> simp [latched_insert, h]

theorem latched_latch (hw : FdsBit w) (interest w' : BitVec 32) (set : List Int) :
    latched (latch m fd' interest w' set) fd w =
      (latched m fd w || (fd = fd' && interest &&& w' ≠ 0 && fd ∈ set && w' &&& w ≠ 0)) := by
  unfold latch
  split
  · rename_i hcond
    rw [latched_or_assign hw]
    by_cases h : fd = fd' <;> simp_all
  · rename_i hcond
    by_cases h : fd = fd' <;> simp_all

/-- The merge step of one entry of `select_fds` latches `w` for its descriptor exactly
    when `w` is in its interest and the descriptor is in the result set of `w`. -/
theorem latched_latch_entry (hw : FdsBit w) (result : FdSets) (e : Σ _ : Int, BitVec 32) :
    latched (latch_entry result m e) fd w =
      (latched m fd w || (fd = e.1 && e.2 &&& w ≠ 0 && fd ∈ result.get w)) := by
  simp only [latch_entry, latched_latch hw]
  rcases hw with rfl | rfl | rfl <;> simp [FdSets.get, FDS_READ, FDS_WRITE, FDS_EXCEPT]

end bit

/-- `IsSet` on one of the three bits returns the latched bit. -/
theorem CsSelect.is_set_fst (s : CsSelect) (fd : Int) {w : BitVec 32} (hw : FdsBit w) :
    (s.is_set fd w).1 = latched s.select_events fd w := by
  unfold CsSelect.is_set latched
  cases s.select_events.lookup fd with
  | none => rfl
  | some bits =>
    have hw' : w = FDS_READ ∨ w = FDS_WRITE ∨ w = FDS_EXCEPT := hw
    by_cases h : bits &&& w = 0#32 <;> simp [h, hw']

/-- `IsSet(fd', w')` clears the latched `w` of `fd` exactly when it reports it. -/
theorem CsSelect.latched_is_set (s : CsSelect) (fd fd' : Int) (w' : BitVec 32) {w : BitVec 32}
    (hw : FdsBit w) :
    latched (s.is_set fd' w').2.select_events fd w =
      (latched s.select_events fd w && !(fd = fd' && w' = w && (s.is_set fd' w').1)) := by
  unfold CsSelect.is_set
  cases hv : s.select_events.lookup fd' with
  | none => simp
  | some bits =>
    dsimp only
    split
    · rename_i hcond
      obtain ⟨k, hk, rfl⟩ := hw.eq_twoPow
      obtain ⟨k', hk', rfl⟩ := FdsBit.eq_twoPow hcond.1
      rw [latched_insert]
      by_cases h : fd = fd'
      · subst h
        simp [latched, hv, and_twoPow_eq_zero hk, BitVec.getLsbD_twoPow, hk, hk', twoPow_inj hk hk']
      · simp [h]
    · simp

/-- The merge latches `w` for `fd` exactly when `fd` has `w` in its current interest and
    is in the result set of `w`. -/
theorem CsSelect.latched_merge (s : CsSelect) (result : FdSets) (fd : Int) {w : BitVec 32}
    (hw : FdsBit w) :
    latched (s.merge result).select_events fd w =
      (latched s.select_events fd w || (latched s.select_fds fd w && fd ∈ result.get w)) := by
  have hfold : ∀ (l : List (Σ _ : Int, BitVec 32)) (m : FdMap),
      latched (l.foldl (latch_entry result) m) fd w =
        (latched m fd w || l.any fun e => fd = e.1 && e.2 &&& w ≠ 0 && fd ∈ result.get w) := by
    intro l
    induction l with
    | nil => simp
    | cons e l ih => intro m; simp only [List.foldl_cons, ih, latched_latch_entry hw, List.any_cons,
        Bool.or_assoc]
  rw [CsSelect.merge, hfold]
  congr 1
  cases hv : s.select_fds.lookup fd with
  | none =>
    have hnot : fd ∉ s.select_fds := AList.lookup_eq_none.mp hv
    simp only [latched, hv, Option.any_none, Bool.false_and]
    refine List.any_eq_false.mpr fun e he => ?_
    have hne : fd ≠ e.1 := fun h => hnot (AList.mem_keys.mpr (h ▸ List.mem_keys_of_mem he))
    simp [hne]
  | some f =>
    have hmem : (⟨fd, f⟩ : Σ _ : Int, BitVec 32) ∈ s.select_fds.entries := AList.mem_lookup_iff.mp hv
    simp only [latched, hv, Option.any_some]
    apply Bool.eq_iff_iff.mpr
    simp only [List.any_eq_true, Bool.and_eq_true, decide_eq_true_eq]
    constructor
    · rintro ⟨⟨fd', f'⟩, he, ⟨rfl, hf'⟩, hset⟩
      have : f' = f := Option.some.inj (hv ▸ AList.mem_lookup_iff.mpr he).symm
      exact ⟨this ▸ hf', hset⟩
    · rintro ⟨hf, hset⟩
      exact ⟨_, hmem, ⟨rfl, hf⟩, hset⟩

end clearsync.select
