import Mathlib.Data.List.AList

namespace clearsync.select

/-- A `std::map<int, int>` of `csSelect`: descriptor to a set of `FDS_*` bits. -/
abbrev FdMap := AList fun _ : Int => BitVec 32

def FDS_READ : BitVec 32 := 0x01
def FDS_WRITE : BitVec 32 := 0x02
def FDS_EXCEPT : BitVec 32 := 0x04

/-- `FD_SETSIZE` of glibc's `<sys/select.h>`: `FD_SET` is defined for descriptors `0` to
    `FD_SETSIZE - 1` only. -/
def FD_SETSIZE : Int := 1024

/-- The interest map `select_fds` and the latched readiness `select_events`, both
    guarded by `select_mutex`: each operation below is one critical section. -/
structure CsSelect where
  select_fds : FdMap
  select_events : FdMap

/-- `m[fd] |= bits` when `fd` is in `m`, `m[fd] = bits` otherwise: the update `Set` makes
    to `select_fds` and `Entry` to `select_events`. -/
def or_assign (m : FdMap) (fd : Int) (bits : BitVec 32) : FdMap :=
  match m.lookup fd with
  | some v => m.insert fd (v ||| bits)
  | none => m.insert fd bits

theorem lookup_or_assign (m : FdMap) (fd fd' : Int) (bits : BitVec 32) :
    (or_assign m fd' bits).lookup fd =
      if fd = fd' then some ((m.lookup fd).elim bits (· ||| bits)) else m.lookup fd := by
  unfold or_assign
  split_ifs with h
  · subst h
    split <;> simp_all [AList.lookup_insert]
  · split <;> exact AList.lookup_insert_ne h

/-- `csSelect::Reset`, which the constructor also calls. -/
def CsSelect.reset : CsSelect := { select_fds := ∅, select_events := ∅ }

/-- `csSelect::Set`: adds interest and forgets any latched readiness of `fd`. -/
def CsSelect.set (s : CsSelect) (fd : Int) (whence : BitVec 32) : CsSelect :=
  { select_fds := or_assign s.select_fds fd whence, select_events := s.select_events.erase fd }

/-- `csSelect::Clear`: drops `fd` from both maps, whatever `whence` is. -/
def CsSelect.clear (s : CsSelect) (fd : Int) (_whence : BitVec 32) : CsSelect :=
  { select_fds := s.select_fds.erase fd, select_events := s.select_events.erase fd }

/-- `csSelect::IsSet`: for `whence` one of the `switch`'s three cases, reports the
    latched bit and clears it. -/
def CsSelect.is_set (s : CsSelect) (fd : Int) (whence : BitVec 32) : Bool × CsSelect :=
  match s.select_events.lookup fd with
  | some bits =>
    if (whence = FDS_READ ∨ whence = FDS_WRITE ∨ whence = FDS_EXCEPT) ∧ bits &&& whence ≠ 0 then
      (true, { s with select_events := s.select_events.insert fd (bits &&& ~~~whence) })
    else (false, s)
  | none => (false, s)

/-- The three `fd_set`s of `Entry`. -/
structure FdSets where
  fds_read : List Int
  fds_write : List Int
  fds_except : List Int

/-- The `fd_set` of `whence`. -/
def FdSets.get (sets : FdSets) (whence : BitVec 32) : List Int :=
  if whence = FDS_READ then sets.fds_read
  else if whence = FDS_WRITE then sets.fds_write
  else if whence = FDS_EXCEPT then sets.fds_except
  else []

/-- The descriptors of `m` with an interest bit in `whence`: `FD_SET` of the snapshot. -/
def fd_set (m : FdMap) (whence : BitVec 32) : List Int :=
  (m.entries.filter fun e => e.2 &&& whence ≠ 0).map Sigma.fst

/-- The first critical section of an `Entry` iteration: the `fd_set`s of `select_fds`,
    or `none` when `max_fd` stays `-1` and the poller sleeps instead. -/
def CsSelect.snapshot (s : CsSelect) : Option FdSets :=
  if s.select_fds.keys.foldl max (-1) = -1 then none
  else some ⟨fd_set s.select_fds FDS_READ, fd_set s.select_fds FDS_WRITE,
    fd_set s.select_fds FDS_EXCEPT⟩

/-- `if (i->second & whence && FD_ISSET(i->first, &set))` latch `whence` for `fd`. -/
def latch (events : FdMap) (fd : Int) (interest whence : BitVec 32) (set : List Int) : FdMap :=
  if interest &&& whence ≠ 0 ∧ fd ∈ set then or_assign events fd whence else events

/-- One entry of `select_fds` in the merge loop: `FDS_READ`, then `FDS_WRITE`, then
    `FDS_EXCEPT`. -/
def latch_entry (result : FdSets) (events : FdMap) (e : Σ _ : Int, BitVec 32) : FdMap :=
  latch (latch (latch events e.1 e.2 FDS_READ result.fds_read) e.1 e.2 FDS_WRITE result.fds_write)
    e.1 e.2 FDS_EXCEPT result.fds_except

/-- The second critical section of an `Entry` iteration: the result of `select` merged
    into `select_events` along the current `select_fds`, not the snapshot. -/
def CsSelect.merge (s : CsSelect) (result : FdSets) : CsSelect :=
  { s with select_events := s.select_fds.entries.foldl (latch_entry result) s.select_events }

/-- The result `select` returns for the snapshot `sets`: the descriptors of each set
    that `ready` marks. -/
def FdSets.select (sets ready : FdSets) : FdSets :=
  ⟨sets.fds_read.filter (· ∈ ready.fds_read), sets.fds_write.filter (· ∈ ready.fds_write),
    sets.fds_except.filter (· ∈ ready.fds_except)⟩

/-- The `csSelect` object and the `fd_set`s the poller thread holds between its two
    critical sections. -/
structure Poller where
  sel : CsSelect
  fds : Option FdSets

/-- A client call, or one of the poller thread's two critical sections; `select ready`
    stands for `select` returning the snapshot's descriptors that `ready` marks (none on
    a time-out or an error) followed by the merge. -/
inductive SelectAction
  | set (fd : Int) (whence : BitVec 32)
  | clear (fd : Int) (whence : BitVec 32)
  | reset
  | is_set (fd : Int) (whence : BitVec 32)
  | snapshot
  | select (ready : FdSets)

/-- What a step shows: the client call made and what `IsSet` returned, or a merge with
    the interest map it read and the result of `select` it merged. -/
inductive SelectObs
  | set (fd : Int)
  | clear (fd : Int)
  | reset
  | is_set (fd : Int) (whence : BitVec 32) (result : Bool)
  | merge (interest : FdMap) (result : FdSets)
  | idle

/-- `csSelect::csSelect`: both maps empty, the poller before its first iteration. -/
def Poller.init : Poller := { sel := CsSelect.reset, fds := none }

def Poller.step (p : Poller) : SelectAction → Poller × SelectObs
  | .set fd whence => ({ p with sel := p.sel.set fd whence }, .set fd)
  | .clear fd whence => ({ p with sel := p.sel.clear fd whence }, .clear fd)
  | .reset => ({ p with sel := CsSelect.reset }, .reset)
  | .is_set fd whence =>
    let (r, sel) := p.sel.is_set fd whence
    ({ p with sel }, .is_set fd whence r)
  | .snapshot => ({ p with fds := p.sel.snapshot }, .idle)
  | .select ready =>
    match p.fds with
    | some sets => ({ sel := p.sel.merge (sets.select ready), fds := none },
        .merge p.sel.select_fds (sets.select ready))
    | none => (p, .idle)

def Poller.run (p : Poller) : List SelectAction → Poller × List SelectObs
  | [] => (p, [])
  | a :: acts =>
    let (p₁, o) := p.step a
    let (p₂, trace) := p₁.run acts
    (p₂, o :: trace)

end clearsync.select
