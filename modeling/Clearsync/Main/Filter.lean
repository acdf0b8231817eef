import Mathlib.Data.List.Basic
import Mathlib.Algebra.Group.Nat.Basic
import Mathlib.Data.List.DropRight

namespace clearsync.main

/-- `strcasecmp(a, b) == 0` in the C locale: equal up to ASCII case. A `std::string` is
    a list of characters. -/
def strcasecmp_eq (a b : List Char) : Bool := a.map Char.toLower == b.map Char.toLower

/-- `std::string::npos`, the largest `size_t`. -/
def npos : Nat := 2 ^ 64 - 1

/-- `s.find_first_not_of(c)`. -/
def find_first_not_of (s : List Char) (c : Char) : Nat :=
  (s.findIdx? (· ≠ c)).getD npos

/-- `s.find_last_not_of(c)`. -/
def find_last_not_of (s : List Char) (c : Char) : Nat :=
  match s.reverse.findIdx? (· ≠ c) with
  | some i => s.length - 1 - i
  | none => npos

/-- `s.substr(pos, len)`. -/
def substr (s : List Char) (pos len : Nat) : List Char := (s.drop pos).take len

/-- The first loop of `csMain::ParseEventFilter` and the test after it: the pieces of
    `text` before each `'|'` (`substr(prev, next - prev)`), then the rest after the last
    `'|'` only when `text.length() > prev`, that is when it is not empty. -/
def split_substr (text : List Char) : List (List Char) :=
  let pieces := text.splitOn '|'
  if pieces.getLast? = some [] then pieces.dropLast else pieces

/-- The trimming of one piece: `head` defaults to `0` when the piece has no non-space,
    and the `size_t` length `tail + 1 - head` wraps. -/
def trim_atom (piece : List Char) : List Char :=
  let head := find_first_not_of piece ' '
  let tail := find_last_not_of piece ' '
  let head := if head = npos then 0 else head
  substr piece head (((tail + 1) % 2 ^ 64 + 2 ^ 64 - head) % 2 ^ 64)

/-- The atoms `csMain::ParseEventFilter(plugin, text)` appends, in order, to
    `plugin_event_filter[plugin]`. Empty pieces are skipped, and so are atoms equal to
    the plugin's name up to case. -/
def event_filter_atoms (name text : List Char) : List (List Char) :=
  (split_substr text).filterMap fun piece =>
    if piece.length = 0 then none
    else if strcasecmp_eq (trim_atom piece) name then none
    else some (trim_atom piece)

/-- No atom `ParseEventFilter` appends names the plugin itself, up to case. -/
theorem event_filter_atoms_not_self (name text : List Char) :
    ∀ atom ∈ event_filter_atoms name text, strcasecmp_eq atom name = false := by
  intro atom hatom
  obtain ⟨piece, -, hpiece⟩ := List.mem_filterMap.mp hatom
  split at hpiece
  · cases hpiece
  · split at hpiece
    · cases hpiece
    · rename_i hne
      cases hpiece
      simpa using hne

/-- A piece with its leading and trailing spaces removed. -/
def strip_spaces (piece : List Char) : List Char :=
  (piece.dropWhile (· = ' ')).rdropWhile (· = ' ')

private theorem findIdx?_eq_some_zero {l : List Char} {c : Char} {p : Char → Bool} (hhead : l.head? = some c)
    (hc : p c = true) : l.findIdx? p = some 0 := by
  cases l <;> simp_all

/-- The trimming of a piece made of spaces `a`, a core `m` that begins and ends with a
    non-space, and spaces `b`, is the core. -/
theorem trim_atom_append (a m b : List Char) (ha : ∀ x ∈ a, x = ' ') (hb : ∀ x ∈ b, x = ' ')
    {c d : Char} (hhead : m.head? = some c) (hc : c ≠ ' ') (hlast : m.getLast? = some d)
    (hd : d ≠ ' ') (hlen : a.length + m.length + b.length + 1 < 2 ^ 64) :
    trim_atom (a ++ m ++ b) = m := by
  have hnone : ∀ l : List Char, (∀ x ∈ l, x = ' ') → l.findIdx? (· ≠ ' ') = none :=
    fun l hl => List.findIdx?_eq_none_iff.mpr fun x hx => by simp [hl x hx]
  have hm : m.findIdx? (· ≠ ' ') = some 0 := findIdx?_eq_some_zero hhead (by simpa using hc)
  have hmr : m.reverse.findIdx? (· ≠ ' ') = some 0 :=
    findIdx?_eq_some_zero (by rw [List.head?_reverse, hlast]) (by simpa using hd)
  have hmlen : 0 < m.length := List.length_pos.mpr (by rintro rfl; cases hhead)
  have hfirst : find_first_not_of (a ++ m ++ b) ' ' = a.length := by
    unfold find_first_not_of
    rw [List.findIdx?_append, List.findIdx?_append, hnone a ha, hm]
    simp
  have hlast' : find_last_not_of (a ++ m ++ b) ' ' = a.length + m.length - 1 := by
    unfold find_last_not_of
    rw [List.reverse_append, List.reverse_append, List.findIdx?_append, List.findIdx?_append,
      hnone _ fun x hx => hb x (List.mem_reverse.mp hx), hmr]
    simp
    omega
  unfold trim_atom
  dsimp only
  rw [hfirst, hlast', if_neg (by unfold npos; omega)]
  have hsize : ((a.length + m.length - 1 + 1) % 2 ^ 64 + 2 ^ 64 - a.length) % 2 ^ 64 = m.length := by
    rw [show a.length + m.length - 1 + 1 = a.length + m.length by omega,
      Nat.mod_eq_of_lt (show a.length + m.length < 2 ^ 64 by omega)]
    omega
  rw [hsize, substr, List.append_assoc, List.drop_left, List.take_left]

/-- A piece that holds a non-space is its leading spaces, its stripped core and its
    trailing spaces, the core beginning and ending with a non-space. -/
theorem strip_spaces_spec (piece : List Char) (h : ∃ x ∈ piece, x ≠ ' ') :
    ∃ a b c d, piece = a ++ strip_spaces piece ++ b ∧ (∀ x ∈ a, x = ' ') ∧ (∀ x ∈ b, x = ' ') ∧
      (strip_spaces piece).head? = some c ∧ c ≠ ' ' ∧ (strip_spaces piece).getLast? = some d ∧
      d ≠ ' ' := by
  set rest := piece.dropWhile (· = ' ') with hrest
  have hne : strip_spaces piece ≠ [] := by
    intro hnil
    obtain ⟨x, hx, hsp⟩ := h
    rw [strip_spaces, List.rdropWhile_eq_nil_iff] at hnil
    rw [← List.takeWhile_append_dropWhile (· = ' ') piece, List.mem_append] at hx
    rcases hx with hx | hx
    · exact hsp (by simpa using List.mem_takeWhile_imp hx)
    · exact hsp (by simpa using hnil x hx)
  obtain ⟨c, hc⟩ : ∃ c, rest.head? = some c := by
    cases hr : rest with
    | nil => exact absurd (by simp [strip_spaces, ← hrest, hr]) hne
    | cons c _ => exact ⟨c, rfl⟩
  have hcsp := List.head?_dropWhile_not (· = ' ') piece
  rw [← hrest, hc] at hcsp
  refine ⟨piece.takeWhile (· = ' '), rest.rtakeWhile (· = ' '), c, (strip_spaces piece).getLast hne,
    ?_, fun x hx => by simpa using List.mem_takeWhile_imp hx,
    fun x hx => by simpa using List.mem_rtakeWhile_imp hx, ?_, by simpa using hcsp,
    List.getLast?_eq_getLast _ hne,
    by simpa using List.rdropWhile_last_not (fun x => decide (x = ' ')) rest hne⟩
  · rw [List.append_assoc, strip_spaces, ← hrest, List.rdropWhile, List.rtakeWhile, ← List.reverse_append,
      List.takeWhile_append_dropWhile, List.reverse_reverse, hrest, List.takeWhile_append_dropWhile]
  · obtain ⟨t, ht⟩ := List.rdropWhile_prefix (fun x => decide (x = ' ')) rest
    rw [← ht] at hc
    cases hs : strip_spaces piece with
    | nil => exact absurd hs hne
    | cons c' _ =>
      rw [strip_spaces, ← hrest] at hs
      rw [hs] at hc
      simpa using hc

theorem strip_spaces_of_spaces {piece : List Char} (h : ∀ x ∈ piece, x = ' ') :
    strip_spaces piece = [] := by
  rw [strip_spaces, List.dropWhile_eq_nil_iff.mpr fun x hx => by simpa using h x hx, List.rdropWhile_nil]

/-- The code's trimming of a piece shorter than `npos` removes exactly its leading and
    trailing spaces. -/
theorem trim_atom_eq_strip_spaces (piece : List Char) (hlen : piece.length + 1 < 2 ^ 64) :
    trim_atom piece = strip_spaces piece := by
  by_cases h : ∃ x ∈ piece, x ≠ ' '
  · obtain ⟨a, b, c, d, hpiece, ha, hb, hc, hc', hd, hd'⟩ := strip_spaces_spec piece h
    have hlen' : a.length + (strip_spaces piece).length + b.length + 1 < 2 ^ 64 := by
      rw [hpiece] at hlen
      simp only [List.length_append] at hlen
      omega
    calc trim_atom piece = trim_atom (a ++ strip_spaces piece ++ b) := congrArg trim_atom hpiece
      _ = strip_spaces piece := trim_atom_append a _ b ha hb hc hc' hd hd' hlen'
  · push_neg at h
    have hnone : piece.findIdx? (· ≠ ' ') = none := List.findIdx?_eq_none_iff.mpr fun x hx => by simp [h x hx]
    have hnone' : piece.reverse.findIdx? (· ≠ ' ') = none :=
      List.findIdx?_eq_none_iff.mpr fun x hx => by simp [h x (List.mem_reverse.mp hx)]
    unfold trim_atom find_first_not_of find_last_not_of
    rw [hnone, hnone', strip_spaces_of_spaces h]
    simp [substr, npos]

private theorem length_le_of_mem_splitOn {text piece : List Char} (h : piece ∈ text.splitOn '|') :
    piece.length ≤ text.length := by
  induction text generalizing piece with
  | nil => simp_all
  | cons x xs ih =>
    unfold List.splitOn at h ih
    rw [List.splitOnP_cons] at h
    split at h
    · rcases List.mem_cons.mp h with rfl | h
      · simp
      · exact Nat.le_succ_of_le (ih h)
    · obtain ⟨hd, tl, hsplit⟩ := List.exists_cons_of_ne_nil (List.splitOnP_ne_nil (· == '|') xs)
      rw [hsplit, List.modifyHead_cons] at h
      rcases List.mem_cons.mp h with rfl | h
      · simpa using ih (hsplit ▸ List.mem_cons_self hd tl)
      · exact Nat.le_succ_of_le (ih (hsplit ▸ List.mem_cons_of_mem hd h))

/-- `ParseEventFilter` on a text shorter than `npos` appends, in order, every non-empty piece
    between the `'|'` separators with its leading and trailing spaces removed, except those
    naming the plugin itself up to case: a piece of spaces gives an empty atom. -/
theorem event_filter_atoms_eq (name text : List Char) (hlen : text.length + 1 < 2 ^ 64) :
    event_filter_atoms name text = (text.splitOn '|').filterMap fun piece =>
      if piece = [] then none
      else if strcasecmp_eq (strip_spaces piece) name then none else some (strip_spaces piece) := by
  unfold event_filter_atoms split_substr
  dsimp only
  have hlast : ∀ l : List (List Char), l.getLast? = some [] → l = l.dropLast ++ [[]] :=
    fun l h => (List.dropLast_append_getLast? [] h).symm
  split
  · next hend =>
      conv_rhs => rw [hlast _ hend]
      rw [List.filterMap_append]
      simp only [List.filterMap_cons, List.filterMap_nil, List.length_nil, if_true, List.append_nil]
      refine List.filterMap_congr fun piece hpiece => ?_
      rw [trim_atom_eq_strip_spaces piece (by
        have := length_le_of_mem_splitOn (List.dropLast_subset _ hpiece); omega)]
      simp
  · refine List.filterMap_congr fun piece hpiece => ?_
    rw [trim_atom_eq_strip_spaces piece (by have := length_le_of_mem_splitOn hpiece; omega)]
    simp

private theorem strip_spaces_trimmed (piece : List Char) :
    (strip_spaces piece).head? ≠ some ' ' ∧ (strip_spaces piece).getLast? ≠ some ' ' := by
  by_cases h : ∃ x ∈ piece, x ≠ ' '
  · obtain ⟨-, -, c, d, -, -, -, hc, hc', hd, hd'⟩ := strip_spaces_spec piece h
    rw [hc, hd]
    exact ⟨fun h => hc' (Option.some.inj h), fun h => hd' (Option.some.inj h)⟩
  · push_neg at h
    simp [strip_spaces_of_spaces h]

/-- `ParseEventFilter` on a text shorter than `npos` appends, in order, every piece between
    the `'|'` separators that is not empty before trimming, with its leading and trailing
    spaces removed, except those naming the plugin itself up to case. So no atom begins or
    ends with a space and none names the plugin, but a piece made of spaces gives an empty
    atom. -/
theorem event_filter_atoms_law (name text : List Char) (hlen : text.length + 1 < 2 ^ 64) :
    event_filter_atoms name text = (text.splitOn '|').filterMap (fun piece =>
      if piece = [] then none
      else if strcasecmp_eq (strip_spaces piece) name then none else some (strip_spaces piece)) ∧
    ∀ atom ∈ event_filter_atoms name text,
      atom.head? ≠ some ' ' ∧ atom.getLast? ≠ some ' ' ∧ strcasecmp_eq atom name = false := by
  refine ⟨event_filter_atoms_eq name text hlen, fun atom hatom => ?_⟩
  have hnot := event_filter_atoms_not_self name text atom hatom
  rw [event_filter_atoms_eq name text hlen] at hatom
  obtain ⟨piece, -, hpiece⟩ := List.mem_filterMap.mp hatom
  have hstrip : strip_spaces piece = atom := by
    split at hpiece
    · cases hpiece
    · split at hpiece
      · cases hpiece
      · exact Option.some.inj hpiece
  exact ⟨hstrip ▸ (strip_spaces_trimmed piece).1, hstrip ▸ (strip_spaces_trimmed piece).2, hnot⟩

/-- Pieces around spaces, an empty piece, a piece of spaces and the plugin's own name. -/
theorem event_filter_atoms_law_pieces :
    ("a | b||  |P ".toList.length + 1 < 2 ^ 64) ∧
    (event_filter_atoms "p".toList "a | b||  |P ".toList = (("a | b||  |P ".toList).splitOn '|').filterMap
      (fun piece => if piece = [] then none
        else if strcasecmp_eq (strip_spaces piece) "p".toList then none else some (strip_spaces piece)) ∧
    ∀ atom ∈ event_filter_atoms "p".toList "a | b||  |P ".toList,
      atom.head? ≠ some ' ' ∧ atom.getLast? ≠ some ' ' ∧ strcasecmp_eq atom "p".toList = false) :=
  ⟨by decide, event_filter_atoms_law _ _ (by decide)⟩

/-- The code's run on a piece of spaces: `"a|   |b"` for plugin `p` appends an empty
    atom between `a` and `b`. -/
theorem event_filter_atoms_space_piece :
    event_filter_atoms ['p'] "a|   |b".toList = [['a'], [], ['b']] := by
  decide

end clearsync.main
