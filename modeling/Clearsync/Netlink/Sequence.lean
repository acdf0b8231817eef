import Clearsync.Netlink.Delivery

namespace clearsync.netlink

/-- The sequence `SendNetlinkQuery` gives is the incremented counter as long as the counter
    does not wrap and the clock is more than a day past it. -/
theorem next_nl_seq_of_lt (nl_seq : Nat) (now : Int) (hwrap : nl_seq + 1 < 2 ^ 32)
    (hclock : ((nl_seq + 1 : Nat) : Int) + 3600 * 24 < now) : next_nl_seq nl_seq now = nl_seq + 1 := by
  unfold next_nl_seq
  rw [Nat.mod_eq_of_lt hwrap, if_neg (by omega)]

/-- What keeps the sequences of the queries in flight apart: a duplicate-free table of
    allocated events whose queries carry distinct sequences in `[1, nl_seq]`. -/
structure SeqInv (s : CsThreadNetlink) : Prop where
  nodup : s.event_client.Nodup
  allocated : ∀ p ∈ s.event_client, p < s.next
  distinct : QuerySeqsDistinct s.event_client s.events
  bounded : ∀ p ∈ s.event_client, (s.events p).type = .NL_Query →
    1 ≤ (s.events p).query_seq ∧ (s.events p).query_seq ≤ s.nl_seq

theorem SeqInv.of_shrinks {s s' : CsThreadNetlink} (h : SeqInv s) (hs : Shrinks s s') : SeqInv s' where
  nodup := h.nodup.sublist hs.table
  allocated p hp := hs.next ▸ h.allocated p (hs.table.subset hp)
  distinct := h.distinct.of_frame hs.table fun x _ => hs.fields x
  bounded p hp htype := by
    rw [(hs.fields p).2, hs.nl_seq]
    exact h.bounded p (hs.table.subset hp) ((hs.fields p).1 ▸ htype)

/-- A client's new event keeps the invariant, an accepted query taking the incremented
    counter, when the counter does not wrap and the clock is more than a day past it. -/
theorem CsThreadNetlink.step_event_seq_inv (s : CsThreadNetlink) (h : SeqInv s) (type : NetlinkType)
    (query : Nat) (source target : Client) (now : Int) (sent : Bool)
    (haccepted : type = .NL_Query → query_accepted query = true)
    (hwrap : type = .NL_Query → s.nl_seq + 1 < 2 ^ 32)
    (hclock : type = .NL_Query → ((s.nl_seq + 1 : Nat) : Int) + 3600 * 24 < now) :
    SeqInv (s.step (.event type query source target now sent)).1 ∧
      (s.step (.event type query source target now sent)).1.nl_seq =
        if type = .NL_Query then s.nl_seq + 1 else s.nl_seq := by
  obtain ⟨htable, -, hnext, hseq, hold, hevent⟩ := s.step_event_spec now sent type query source target
  have hnewseq : type = .NL_Query →
      ((s.step (.event type query source target now sent)).1.events s.next).query_seq = s.nl_seq + 1 :=
    fun htype => by
      rw [hevent]
      simp [htype, haccepted htype, next_nl_seq_of_lt _ _ (hwrap htype) (hclock htype)]
  have hnewtype : ((s.step (.event type query source target now sent)).1.events s.next).type = type := by
    rw [hevent]
  have hfresh : s.next ∉ s.event_client := fun hmem => Nat.lt_irrefl _ (h.allocated _ hmem)
  have hkept : ∀ p ∈ s.event_client, (s.step (.event type query source target now sent)).1.events p = s.events p :=
    fun p hp => hold p (Nat.ne_of_lt (h.allocated p hp))
  have hseq' : (s.step (.event type query source target now sent)).1.nl_seq =
      if type = .NL_Query then s.nl_seq + 1 else s.nl_seq := by
    by_cases htype : type = .NL_Query
    · rw [hseq, if_pos ⟨htype, haccepted htype⟩, if_pos htype,
        next_nl_seq_of_lt _ _ (hwrap htype) (hclock htype)]
    · rw [hseq, if_neg fun h => htype h.1, if_neg htype]
  refine ⟨⟨?_, ?_, ?_, ?_⟩, hseq'⟩
  · rw [htable]
    exact h.nodup.append (List.nodup_singleton _) (List.disjoint_singleton.mpr hfresh)
  · intro p hp
    rw [htable, List.mem_append, List.mem_singleton] at hp
    rw [hnext]
    rcases hp with hp | rfl
    · exact Nat.lt_succ_of_lt (h.allocated p hp)
    · exact Nat.lt_succ_self _
  · rw [htable]
    refine QuerySeqsDistinct.append (h.distinct.of_frame (List.Sublist.refl _) fun x hx => by
      rw [hkept x hx]; exact ⟨rfl, rfl⟩) fun p hp hptype hntype => ?_
    rw [hkept p hp] at hptype ⊢
    rw [hnewseq (hnewtype ▸ hntype)]
    have := (h.bounded p hp hptype).2
    omega
  · intro p hp hptype
    rw [htable, List.mem_append, List.mem_singleton] at hp
    rcases hp with hp | rfl
    · rw [hkept p hp] at hptype ⊢
      have := h.bounded p hp hptype
      split at hseq' <;> omega
    · have htype : type = .NL_Query := hnewtype ▸ hptype
      rw [hnewseq htype, hseq', if_pos htype]
      omega

/-- Whether an action is not a query of a kind `SendNetlinkQuery` rejects. -/
def NetlinkAction.kind_accepted : NetlinkAction → Bool
  | .event .NL_Query query .. => query_accepted query
  | _ => true

/-- The clock readings of a run's `SendNetlinkQuery` calls that get past the kind check, in
    order. -/
def query_clocks : List NetlinkAction → List Int
  | [] => []
  | .event type query _ _ now _ :: acts =>
    if type = .NL_Query ∧ query_accepted query then now :: query_clocks acts else query_clocks acts
  | _ :: acts => query_clocks acts

/-- Whether each of a run's new events is a query of an accepted kind, in allocation order. -/
def query_flags : List NetlinkAction → List Bool
  | [] => []
  | .event type query _ _ _ _ :: acts =>
    decide (type = .NL_Query ∧ query_accepted query) :: query_flags acts
  | _ :: acts => query_flags acts

/-- Every allocated query is an accepted one and carries its rank among them: `flags` says, by
    address, which allocated events are accepted queries, and the counter is their number. -/
structure SeqRank (flags : List Bool) (s : CsThreadNetlink) : Prop where
  next : s.next = flags.length
  nl_seq : s.nl_seq = flags.count true
  rank : ∀ p < s.next, (s.events p).type = .NL_Query →
    flags[p]? = some true ∧ (s.events p).query_seq = (flags.take (p + 1)).count true

theorem SeqRank.of_shrinks {flags : List Bool} {s s' : CsThreadNetlink} (h : SeqRank flags s)
    (hs : Shrinks s s') : SeqRank flags s' where
  next := hs.next.trans h.next
  nl_seq := hs.nl_seq.trans h.nl_seq
  rank p hp htype := by
    rw [(hs.fields p).2]
    exact h.rank p (hs.next ▸ hp) ((hs.fields p).1 ▸ htype)

/-- A client's new event of an accepted kind keeps the ranks: an accepted query takes the next
    one, when the counter does not wrap and the clock is more than a day past it. -/
theorem CsThreadNetlink.step_event_seq_rank (s : CsThreadNetlink) {flags : List Bool}
    (h : SeqRank flags s) (type : NetlinkType) (query : Nat) (source target : Client) (now : Int)
    (sent : Bool) (haccepted : type = .NL_Query → query_accepted query = true)
    (hwrap : type = .NL_Query → s.nl_seq + 1 < 2 ^ 32)
    (hclock : type = .NL_Query → ((s.nl_seq + 1 : Nat) : Int) + 3600 * 24 < now) :
    SeqRank (flags ++ [decide (type = .NL_Query ∧ query_accepted query)])
      (s.step (.event type query source target now sent)).1 := by
  obtain ⟨-, -, hnext, hseq, hold, hevent⟩ := s.step_event_spec now sent type query source target
  have hcounter : (if type = .NL_Query ∧ query_accepted query then next_nl_seq s.nl_seq now else s.nl_seq) =
      (flags ++ [decide (type = .NL_Query ∧ query_accepted query)]).count true := by
    rw [List.count_append, ← h.nl_seq]
    by_cases htype : type = .NL_Query
    · simp [htype, haccepted htype, next_nl_seq_of_lt _ _ (hwrap htype) (hclock htype)]
    · simp [htype]
  refine ⟨by rw [hnext, h.next, List.length_append, List.length_singleton], hseq.trans hcounter,
    fun p hp htype => ?_⟩
  rw [hnext] at hp
  rcases Nat.lt_succ_iff_lt_or_eq.mp hp with hp | rfl
  · rw [hold p (Nat.ne_of_lt hp)] at htype ⊢
    rw [List.getElem?_append_left (h.next ▸ hp),
      List.take_append_of_le_length (show p + 1 ≤ flags.length by rw [← h.next]; exact hp)]
    exact h.rank p hp htype
  · rw [hevent] at htype ⊢
    have hquery : type = .NL_Query := htype
    rw [h.next, List.take_of_length_le (by simp), ← hcounter]
    simp [hquery, haccepted hquery]

/-- Over a run whose queries are all of accepted kinds, both invariants hold throughout as
    long as the counter does not wrap and the query taking sequence `k` reads a clock more
    than a day past `k`. -/
theorem CsThreadNetlink.run_seq_inv :
    ∀ (acts : List NetlinkAction) (s : CsThreadNetlink) (flags : List Bool), SeqInv s →
      SeqRank flags s → (∀ a ∈ acts, a.kind_accepted = true) →
      (∀ x ∈ (query_clocks acts).enumFrom (s.nl_seq + 1), (x.1 : Int) + 3600 * 24 < x.2) →
      s.nl_seq + (query_clocks acts).length < 2 ^ 32 →
      SeqInv (s.run acts).1 ∧ SeqRank (flags ++ query_flags acts) (s.run acts).1
  | [], _, _, h, hr, _, _, _ => ⟨h, by rwa [query_flags, List.append_nil]⟩
  | a :: acts, s, flags, h, hr, haccepted, hclock, hcount => by
    rw [run_cons_fst]
    have hrest := haccepted a (List.mem_cons_self a acts)
    have hacts := fun b hb => haccepted b (List.mem_cons_of_mem a hb)
    cases a with
    | event type query source target now sent =>
      have haccepted' : type = .NL_Query → query_accepted query = true := by
        rintro rfl; simpa [NetlinkAction.kind_accepted] using hrest
      rw [query_flags, List.append_cons]
      by_cases htype : type = .NL_Query
      · simp only [query_clocks, htype, haccepted' htype, and_self, if_true, List.enumFrom_cons,
          List.mem_cons, forall_eq_or_imp, List.length_cons] at hclock hcount
        obtain ⟨h₁, hseq₁⟩ := s.step_event_seq_inv h type query source target now sent haccepted'
          (fun _ => by omega) (fun _ => hclock.1)
        have hr₁ := s.step_event_seq_rank hr type query source target now sent haccepted'
          (fun _ => by omega) (fun _ => hclock.1)
        rw [if_pos htype] at hseq₁
        exact run_seq_inv acts _ _ h₁ hr₁ hacts (by rw [hseq₁]; exact hclock.2) (by rw [hseq₁]; omega)
      · simp only [query_clocks, htype, false_and, if_false] at hclock hcount
        obtain ⟨h₁, hseq₁⟩ := s.step_event_seq_inv h type query source target now sent haccepted'
          (fun h => absurd h htype) (fun h => absurd h htype)
        have hr₁ := s.step_event_seq_rank hr type query source target now sent haccepted'
          (fun h => absurd h htype) (fun h => absurd h htype)
        rw [if_neg htype] at hseq₁
        exact run_seq_inv acts _ _ h₁ hr₁ hacts (by rw [hseq₁]; exact hclock) (by rw [hseq₁]; exact hcount)
    | receive datagram =>
      have hs := s.step_shrinks (.receive datagram) rfl
      exact run_seq_inv acts _ flags (h.of_shrinks hs) (hr.of_shrinks hs) hacts
        (by rw [hs.nl_seq]; exact hclock) (by rw [hs.nl_seq]; exact hcount)
    | get_reply p =>
      have hs := s.step_shrinks (.get_reply p) rfl
      exact run_seq_inv acts _ flags (h.of_shrinks hs) (hr.of_shrinks hs) hacts
        (by rw [hs.nl_seq]; exact hclock) (by rw [hs.nl_seq]; exact hcount)

theorem SeqInv.init (nl_buffer : List UInt8) (nl_pid : Nat) :
    SeqInv (CsThreadNetlink.init nl_buffer nl_pid) :=
  ⟨List.nodup_nil, nofun, List.nodup_nil, nofun⟩

theorem SeqRank.init (nl_buffer : List UInt8) (nl_pid : Nat) :
    SeqRank [] (CsThreadNetlink.init nl_buffer nl_pid) :=
  ⟨rfl, rfl, nofun⟩

/-- A query in flight in a state reached from the construction under the conditions above,
    over any later run of datagrams and `GetReply` calls: what its client drains, followed by
    what the event still holds, is what it held followed by the bytes `AddReply` copies for
    every message that carries its sequence and reaches the queries (any type but
    `RTM_NEWROUTE`, `RTM_DELROUTE` and `NLMSG_NOOP`), in arrival order, up to and including the
    first that ends it; and it stays in the table until that one arrives. -/
theorem CsThreadNetlink.query_drains_its_replies (nl_buffer : List UInt8) (nl_pid : Nat)
    (pre acts : List NetlinkAction) (q : Nat) (haccepted : ∀ a ∈ pre, a.kind_accepted = true)
    (hclock : ∀ x ∈ (query_clocks pre).enumFrom 1, (x.1 : Int) + 3600 * 24 < x.2)
    (hcount : (query_clocks pre).length < 2 ^ 32)
    (hq : q ∈ ((CsThreadNetlink.init nl_buffer nl_pid).run pre).1.event_client)
    (hquery : (((CsThreadNetlink.init nl_buffer nl_pid).run pre).1.events q).type = .NL_Query)
    (hacts : ∀ a ∈ acts, a.is_event = false) :
    let s : CsThreadNetlink := ((CsThreadNetlink.init nl_buffer nl_pid).run pre).1
    popped q (s.run acts).2 ++ ((s.run acts).1.events q).reply =
        (s.events q).reply ++ query_replies (s.events q).query_seq (received s.nl_buffer acts) ∧
      (q ∈ (s.run acts).1.event_client ↔
        query_ended (s.events q).query_seq (received s.nl_buffer acts) = false) := by
  obtain ⟨h, -⟩ := run_seq_inv pre _ [] (SeqInv.init nl_buffer nl_pid) (SeqRank.init nl_buffer nl_pid)
    haccepted hclock (by simpa [CsThreadNetlink.init] using hcount)
  have hrun := run_delivers acts _ hacts ⟨hquery, h.nodup, h.distinct⟩
  exact ⟨by simpa [hq] using hrun.reply, by simpa [hq] using hrun.mem⟩

/-- A `GET_LINK` query whose dump, an `RTM_NEWLINK` entry with `NLM_F_MULTI` and the
    `NLMSG_DONE`, arrives in one datagram, drained by two `GetReply` calls. -/
theorem CsThreadNetlink.query_drains_its_replies_getlink :
    let pre : List NetlinkAction := [.event .NL_Query RTM_GETLINK (some 5) (some 9) 1700000000 true]
    let acts : List NetlinkAction :=
      [.receive [16, 0, 0, 0, 16, 0, 2, 0, 1, 0, 0, 0, 0, 0, 0, 0, 16, 0, 0, 0, 3, 0, 2, 0, 1, 0, 0, 0, 0, 0, 0, 0],
        .get_reply 0, .get_reply 0]
    let s : CsThreadNetlink := ((CsThreadNetlink.init (List.replicate 64 0) 0).run pre).1
    ((∀ a ∈ pre, a.kind_accepted = true) ∧
      (∀ x ∈ (query_clocks pre).enumFrom 1, (x.1 : Int) + 3600 * 24 < x.2) ∧
      (query_clocks pre).length < 2 ^ 32 ∧ 0 ∈ s.event_client ∧ (s.events 0).type = .NL_Query ∧
      ∀ a ∈ acts, a.is_event = false) ∧
    (popped 0 (s.run acts).2 ++ ((s.run acts).1.events 0).reply =
        (s.events 0).reply ++ query_replies (s.events 0).query_seq (received s.nl_buffer acts) ∧
      (0 ∈ (s.run acts).1.event_client ↔
        query_ended (s.events 0).query_seq (received s.nl_buffer acts) = false)) :=
  ⟨⟨by decide, by decide, by decide, by decide, rfl, by decide⟩,
    CsThreadNetlink.query_drains_its_replies (List.replicate 64 0) 0 _ _ 0 (by decide) (by decide)
      (by decide) (by decide) rfl (by decide)⟩

/-- A query of a kind `SendNetlinkQuery` rejects, and a `GET_LINK` query whose `sendmsg`
    fails: neither request is sent, and `ProcessEvent` records both, the first with
    sequence `0`. -/
theorem CsThreadNetlink.unsent_queries_recorded :
    let r : CsThreadNetlink × List NetlinkObs := (CsThreadNetlink.init [] 0).run
      [.event .NL_Query 0 (some 5) (some 9) 1700000000 true,
       .event .NL_Query RTM_GETLINK (some 6) (some 9) 1700000000 false]
    r.2 = [.request none, .request none] ∧ r.1.event_client = [0, 1] ∧
      (r.1.events 0).query_seq = 0 ∧ (r.1.events 1).query_seq = 1 := by
  decide

end clearsync.netlink
