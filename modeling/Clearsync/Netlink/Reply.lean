import Mathlib.Data.List.Nodup
import Clearsync.Netlink.Message

namespace clearsync.netlink

section fields

variable (e : CsEventNetlink) (buf : List UInt8) (off : Nat)

@[simp] theorem CsEventNetlink.add_reply_type : (e.add_reply buf off).type = e.type := rfl
@[simp] theorem CsEventNetlink.add_reply_query_seq :
    (e.add_reply buf off).query_seq = e.query_seq := rfl
@[simp] theorem CsEventNetlink.add_reply_target : (e.add_reply buf off).target = e.target := rfl
@[simp] theorem CsEventNetlink.add_reply_reply :
    (e.add_reply buf off).reply = e.reply ++ [reply_copy buf off] := rfl

end fields

/-- The entry `p` is one `SendNetlinkReply` matches for a reply with sequence `seq`: an
    `NL_Query` with that sequence. -/
def answers (events : Nat → CsEventNetlink) (seq p : Nat) : Prop :=
  (events p).type = .NL_Query ∧ (events p).query_seq = seq

instance (events : Nat → CsEventNetlink) (seq p : Nat) : Decidable (answers events seq p) :=
  inferInstanceAs (Decidable (_ ∧ _))

/-- The `NL_Query` entries of a table carry pairwise distinct sequence numbers. -/
def QuerySeqsDistinct (table : List Nat) (events : Nat → CsEventNetlink) : Prop :=
  ((table.filter fun p => (events p).type = .NL_Query).map fun p => (events p).query_seq).Nodup

instance (table : List Nat) (events : Nat → CsEventNetlink) :
    Decidable (QuerySeqsDistinct table events) :=
  inferInstanceAs (Decidable (List.Nodup _))

/-- With distinct sequences, no entry before an answering one answers too. -/
theorem QuerySeqsDistinct.not_answers_before {pre post : List Nat} {q seq : Nat}
    {events : Nat → CsEventNetlink} (h : QuerySeqsDistinct (pre ++ q :: post) events)
    (hq : answers events seq q) : ∀ p ∈ pre, ¬answers events seq p := by
  rintro p hp ⟨htype, hseq⟩
  unfold QuerySeqsDistinct at h
  rw [List.filter_append, List.map_append, List.nodup_append] at h
  exact h.2.2 (List.mem_map.mpr ⟨p, by simp [hp, htype], hseq⟩)
    (List.mem_map.mpr ⟨q, by simp [hq.1], hq.2⟩)

/-- Distinct query sequences survive dropping entries and changing events in ways that
    keep their types and sequences. -/
theorem QuerySeqsDistinct.of_frame {table table' : List Nat} {events events' : Nat → CsEventNetlink}
    (h : QuerySeqsDistinct table events) (hsub : table'.Sublist table)
    (hfields : ∀ x ∈ table', (events' x).type = (events x).type ∧
      (events' x).query_seq = (events x).query_seq) :
    QuerySeqsDistinct table' events' := by
  unfold QuerySeqsDistinct at h ⊢
  have hfilter : table'.filter (fun p => (events' p).type = .NL_Query) =
      table'.filter fun p => (events p).type = .NL_Query :=
    List.filter_congr fun x hx => by rw [(hfields x hx).1]
  rw [hfilter, List.map_congr_left fun x hx => (hfields x (List.mem_filter.mp hx).1).2]
  exact h.sublist ((hsub.filter _).map _)

/-- A new entry keeps the query sequences distinct when no query of the table has its
    sequence. -/
theorem QuerySeqsDistinct.append {table : List Nat} {events : Nat → CsEventNetlink} {n : Nat}
    (h : QuerySeqsDistinct table events)
    (hfresh : ∀ p ∈ table, (events p).type = .NL_Query → (events n).type = .NL_Query →
      (events p).query_seq ≠ (events n).query_seq) :
    QuerySeqsDistinct (table ++ [n]) events := by
  unfold QuerySeqsDistinct at h ⊢
  rw [List.filter_append, List.map_append, List.nodup_append]
  refine ⟨h, by by_cases hn : (events n).type = .NL_Query <;> simp [List.filter_cons, hn], ?_⟩
  intro σ hσ hσn
  obtain ⟨p, hp, rfl⟩ := List.mem_map.mp hσ
  simp only [List.mem_filter, decide_eq_true_eq] at hp
  by_cases hn : (events n).type = .NL_Query
  · simp [List.filter_cons, hn] at hσn
    exact hfresh p hp.1 hp.2 hn hσn
  · simp [List.filter_cons, hn] at hσn

section loops

variable (buf : List UInt8) (off : Nat)

/-- The first answering entry takes the reply, is dispatched to its target, and is erased
    exactly when the reply ends it; the other entries stay in place. -/
theorem query_loop_answer (q : Nat) (post : List Nat) :
    ∀ (pre : List Nat) (events : Nat → CsEventNetlink),
      (∀ p ∈ pre, ¬answers events (nlmsghdr_at buf off).nlmsg_seq p) →
      answers events (nlmsghdr_at buf off).nlmsg_seq q →
      query_loop buf off (pre ++ q :: post) events =
        (pre ++ (if reply_ends_query (nlmsghdr_at buf off) then post else q :: post),
          Function.update events q ((events q).add_reply buf off), [(q, (events q).target)])
  | [], events, _, hq => by
    simp only [answers] at hq
    simp [query_loop, hq]
  | p :: pre, events, hpre, hq => by
    have hp := hpre p (List.mem_cons_self p pre)
    simp only [answers] at hp
    simp [query_loop, hp, query_loop_answer q post pre events
      (fun p' h' => hpre p' (List.mem_cons_of_mem p h')) hq]

/-- Over a table of distinct events, the route loop appends the reply to every
    `NL_RouteWatch` entry and dispatches each, in table order, to its target. -/
theorem route_watch_loop_eq :
    ∀ (table : List Nat) (events : Nat → CsEventNetlink), table.Nodup →
      route_watch_loop buf off table events =
        (fun p => if p ∈ table ∧ (events p).type = .NL_RouteWatch then (events p).add_reply buf off
          else events p,
         (table.filter fun p => (events p).type = .NL_RouteWatch).map fun p => (p, (events p).target))
  | [], events, _ => by simp [route_watch_loop]
  | p :: ps, events, hnodup => by
    obtain ⟨hp, hps⟩ := List.nodup_cons.mp hnodup
    have hframe : ∀ p' ∈ ps, Function.update events p ((events p).add_reply buf off) p' = events p' :=
      fun p' h' => Function.update_noteq (by rintro rfl; exact hp h') _ _
    have hfilter : ps.filter (fun p' => (Function.update events p ((events p).add_reply buf off) p').type
          = .NL_RouteWatch) = ps.filter fun p' => (events p').type = .NL_RouteWatch :=
      List.filter_congr fun p' h' => by rw [hframe p' h']
    by_cases htype : (events p).type = .NL_RouteWatch
    · simp only [route_watch_loop, htype, if_true, route_watch_loop_eq ps _ hps, Prod.mk.injEq, hfilter]
      refine ⟨funext fun p' => ?_, ?_⟩
      · by_cases h : p' = p
        · subst h; simp [hp, htype]
        · simp [h]
      · simp only [List.filter_cons, htype, decide_True, if_true, List.map_cons, Function.update_same,
          CsEventNetlink.add_reply_target, List.cons.injEq, true_and]
        exact List.map_congr_left fun p' h' => by rw [hframe p' (List.mem_filter.mp h').1]
    · simp only [route_watch_loop, htype, if_false, route_watch_loop_eq ps _ hps, Prod.mk.injEq]
      refine ⟨funext fun p' => ?_, by simp [List.filter_cons, htype]⟩
      by_cases h : p' = p
      · subst h; simp [hp, htype]
      · simp [h]

/-- The query loop only drops entries from the table and only appends replies; an entry
    that does not answer the reply, or is not in the table, keeps its event and its place. -/
theorem query_loop_frame :
    ∀ (table : List Nat) (events : Nat → CsEventNetlink),
      (query_loop buf off table events).1.Sublist table ∧
      (∀ x, ((query_loop buf off table events).2.1 x).type = (events x).type ∧
        ((query_loop buf off table events).2.1 x).query_seq = (events x).query_seq) ∧
      (∀ x, ¬answers events (nlmsghdr_at buf off).nlmsg_seq x →
        (query_loop buf off table events).2.1 x = events x ∧
        (x ∈ (query_loop buf off table events).1 ↔ x ∈ table)) ∧
      ∀ x ∉ table, (query_loop buf off table events).2.1 x = events x
  | [], events => by simp [query_loop]
  | p :: ps, events => by
    by_cases hp : answers events (nlmsghdr_at buf off).nlmsg_seq p
    · have hcond := hp
      simp only [answers] at hcond
      simp only [query_loop, if_pos hcond]
      refine ⟨by split <;> simp, fun x => ?_, fun x hx => ?_, fun x hx => ?_⟩
      · by_cases h : x = p
        · subst h; simp
        · simp [Function.update_noteq h]
      · have hxp : x ≠ p := by rintro rfl; exact hx hp
        refine ⟨Function.update_noteq hxp _ _, ?_⟩
        split <;> simp [hxp]
      · exact Function.update_noteq (List.ne_of_not_mem_cons hx) _ _
    · obtain ⟨hsub, hfields, hframe, hout⟩ := query_loop_frame ps events
      have hcond := hp
      simp only [answers] at hcond
      simp only [query_loop, if_neg hcond]
      exact ⟨hsub.cons₂ p, hfields, fun x hx => ⟨(hframe x hx).1, by simp [(hframe x hx).2]⟩,
        fun x hx => hout x (List.not_mem_of_not_mem_cons hx)⟩

/-- The route loop only appends replies, and only to `NL_RouteWatch` entries. -/
theorem route_watch_loop_frame :
    ∀ (table : List Nat) (events : Nat → CsEventNetlink) (x : Nat),
      ((route_watch_loop buf off table events).1 x).type = (events x).type ∧
      ((route_watch_loop buf off table events).1 x).query_seq = (events x).query_seq ∧
      ((events x).type ≠ .NL_RouteWatch → (route_watch_loop buf off table events).1 x = events x)
  | [], _, _ => ⟨rfl, rfl, fun _ => rfl⟩
  | p :: ps, events, x => by
    by_cases hp : (events p).type = .NL_RouteWatch
    · obtain ⟨htype, hseq, hother⟩ :=
        route_watch_loop_frame ps (Function.update events p ((events p).add_reply buf off)) x
      simp only [route_watch_loop, hp, if_true]
      by_cases hx : x = p
      · subst hx
        simp only [Function.update_same, CsEventNetlink.add_reply_type,
          CsEventNetlink.add_reply_query_seq] at htype hseq
        exact ⟨htype, hseq, fun h => absurd hp h⟩
      · simp only [Function.update_noteq hx] at htype hseq hother
        exact ⟨htype, hseq, hother⟩
    · simpa [route_watch_loop, hp] using route_watch_loop_frame ps events x

end loops

/-- `s'` comes from `s` by dropping entries from the table and by appending or taking
    replies: the counter, the allocator and every event's type and sequence stay. -/
structure Shrinks (s s' : CsThreadNetlink) : Prop where
  table : s'.event_client.Sublist s.event_client
  nl_seq : s'.nl_seq = s.nl_seq
  next : s'.next = s.next
  fields : ∀ x, (s'.events x).type = (s.events x).type ∧ (s'.events x).query_seq = (s.events x).query_seq

theorem Shrinks.refl (s : CsThreadNetlink) : Shrinks s s :=
  ⟨List.Sublist.refl _, rfl, rfl, fun _ => ⟨rfl, rfl⟩⟩

theorem Shrinks.trans {s₁ s₂ s₃ : CsThreadNetlink} (h₁ : Shrinks s₁ s₂) (h₂ : Shrinks s₂ s₃) :
    Shrinks s₁ s₃ :=
  ⟨h₂.table.trans h₁.table, h₂.nl_seq.trans h₁.nl_seq, h₂.next.trans h₁.next, fun x =>
    ⟨(h₂.fields x).1.trans (h₁.fields x).1, (h₂.fields x).2.trans (h₁.fields x).2⟩⟩

/-- The messages `SendNetlinkReply` offers to the queries: all but `RTM_NEWROUTE` and
    `RTM_DELROUTE`, which go to the route watchers only, and `NLMSG_NOOP`. -/
def reaches_queries (nh : NlMsgHdr) : Prop :=
  ¬(nh.nlmsg_type = RTM_NEWROUTE ∨ nh.nlmsg_type = RTM_DELROUTE) ∧ nh.nlmsg_type ≠ NLMSG_NOOP

instance (nh : NlMsgHdr) : Decidable (reaches_queries nh) := inferInstanceAs (Decidable (_ ∧ _))

/-- A message `SendNetlinkReply` hands to a query with sequence `seq`. -/
def for_query (seq : Nat) (nh : NlMsgHdr) : Prop :=
  reaches_queries nh ∧ nh.nlmsg_seq = seq

instance (seq : Nat) (nh : NlMsgHdr) : Decidable (for_query seq nh) :=
  inferInstanceAs (Decidable (_ ∧ _))

section branches

variable (s : CsThreadNetlink) (off : Nat)

theorem CsThreadNetlink.send_netlink_reply_of_route
    (hroute : (nlmsghdr_at s.nl_buffer off).nlmsg_type = RTM_NEWROUTE ∨
      (nlmsghdr_at s.nl_buffer off).nlmsg_type = RTM_DELROUTE) :
    s.send_netlink_reply off =
      ({ s with events := (route_watch_loop s.nl_buffer off s.event_client s.events).1 },
        (route_watch_loop s.nl_buffer off s.event_client s.events).2) := by
  simp only [send_netlink_reply, if_pos hroute]

theorem CsThreadNetlink.send_netlink_reply_of_noop
    (hroute : ¬((nlmsghdr_at s.nl_buffer off).nlmsg_type = RTM_NEWROUTE ∨
      (nlmsghdr_at s.nl_buffer off).nlmsg_type = RTM_DELROUTE))
    (hnoop : (nlmsghdr_at s.nl_buffer off).nlmsg_type = NLMSG_NOOP) :
    s.send_netlink_reply off = (s, []) := by
  simp only [send_netlink_reply, if_neg hroute, if_pos hnoop]

theorem CsThreadNetlink.send_netlink_reply_of_reaches (h : reaches_queries (nlmsghdr_at s.nl_buffer off)) :
    s.send_netlink_reply off =
      ({ s with event_client := (query_loop s.nl_buffer off s.event_client s.events).1,
                events := (query_loop s.nl_buffer off s.event_client s.events).2.1 },
        (query_loop s.nl_buffer off s.event_client s.events).2.2) := by
  simp only [send_netlink_reply, if_neg h.1, if_neg h.2]

/-- `SendNetlinkReply` only drops entries from the table and only appends replies, and it
    never writes the buffer. -/
theorem CsThreadNetlink.send_netlink_reply_frame :
    Shrinks s (s.send_netlink_reply off).1 ∧ (s.send_netlink_reply off).1.nl_buffer = s.nl_buffer := by
  by_cases hroute : (nlmsghdr_at s.nl_buffer off).nlmsg_type = RTM_NEWROUTE ∨
      (nlmsghdr_at s.nl_buffer off).nlmsg_type = RTM_DELROUTE
  · rw [send_netlink_reply_of_route s off hroute]
    exact ⟨⟨List.Sublist.refl _, rfl, rfl, fun x =>
      ⟨(route_watch_loop_frame _ _ _ _ x).1, (route_watch_loop_frame _ _ _ _ x).2.1⟩⟩, rfl⟩
  by_cases hnoop : (nlmsghdr_at s.nl_buffer off).nlmsg_type = NLMSG_NOOP
  · rw [send_netlink_reply_of_noop s off hroute hnoop]
    exact ⟨Shrinks.refl s, rfl⟩
  · rw [send_netlink_reply_of_reaches s off ⟨hroute, hnoop⟩]
    obtain ⟨hsub, hfields, -, -⟩ := query_loop_frame s.nl_buffer off s.event_client s.events
    exact ⟨⟨hsub, rfl, rfl, hfields⟩, rfl⟩

/-- A message that reaches the queries and carries the sequence of the query at `q`: on a
    table whose queries carry distinct sequences, `q` alone takes it, is dispatched to its
    target, and leaves the table exactly when the message ends it. -/
theorem CsThreadNetlink.send_netlink_reply_answer (q : Nat) (pre post : List Nat)
    (htable : s.event_client = pre ++ q :: post)
    (hdistinct : QuerySeqsDistinct s.event_client s.events)
    (hfor : for_query (s.events q).query_seq (nlmsghdr_at s.nl_buffer off))
    (hquery : (s.events q).type = .NL_Query) :
    s.send_netlink_reply off =
      ({ s with
          event_client := pre ++ if reply_ends_query (nlmsghdr_at s.nl_buffer off) then post else q :: post
          events := Function.update s.events q ((s.events q).add_reply s.nl_buffer off) },
        [(q, (s.events q).target)]) := by
  have hanswer : answers s.events (nlmsghdr_at s.nl_buffer off).nlmsg_seq q := ⟨hquery, hfor.2.symm⟩
  rw [htable] at hdistinct
  rw [send_netlink_reply_of_reaches s off hfor.1, htable,
    query_loop_answer _ _ q post pre _ (hdistinct.not_answers_before hanswer) hanswer]

/-- A message not handed to the query at `q` leaves its event and its place as they were. -/
theorem CsThreadNetlink.send_netlink_reply_of_not_for (q : Nat)
    (hquery : (s.events q).type = .NL_Query)
    (hnot : ¬for_query (s.events q).query_seq (nlmsghdr_at s.nl_buffer off)) :
    (s.send_netlink_reply off).1.events q = s.events q ∧
      (q ∈ (s.send_netlink_reply off).1.event_client ↔ q ∈ s.event_client) := by
  by_cases hroute : (nlmsghdr_at s.nl_buffer off).nlmsg_type = RTM_NEWROUTE ∨
      (nlmsghdr_at s.nl_buffer off).nlmsg_type = RTM_DELROUTE
  · rw [send_netlink_reply_of_route s off hroute]
    exact ⟨(route_watch_loop_frame _ _ _ _ q).2.2 (by simp [hquery]), Iff.rfl⟩
  by_cases hnoop : (nlmsghdr_at s.nl_buffer off).nlmsg_type = NLMSG_NOOP
  · rw [send_netlink_reply_of_noop s off hroute hnoop]
    exact ⟨rfl, Iff.rfl⟩
  · rw [send_netlink_reply_of_reaches s off ⟨hroute, hnoop⟩]
    exact (query_loop_frame _ _ _ _).2.2.1 q fun hanswer => hnot ⟨⟨hroute, hnoop⟩, hanswer.2.symm⟩

end branches

/-- `GetReply` takes the oldest reply off the event and changes nothing else of it. -/
theorem CsEventNetlink.get_reply_spec (e : CsEventNetlink) :
    e.get_reply.1.toList ++ e.get_reply.2.reply = e.reply ∧ e.get_reply.2.type = e.type ∧
      e.get_reply.2.query_seq = e.query_seq := by
  unfold CsEventNetlink.get_reply
  split <;> simp_all

/-- Whether an action hands a client's new event to the service. -/
def NetlinkAction.is_event : NetlinkAction → Bool
  | .event .. => true
  | _ => false

theorem CsThreadNetlink.send_netlink_replies_shrinks :
    ∀ (offs : List Nat) (s : CsThreadNetlink), Shrinks s (s.send_netlink_replies offs).1
  | [], s => Shrinks.refl s
  | off :: offs, s => by
    exact (s.send_netlink_reply_frame off).1.trans (send_netlink_replies_shrinks offs _)

/-- Receiving a datagram and serving `GetReply` only shrink the table. -/
theorem CsThreadNetlink.step_shrinks (s : CsThreadNetlink) (a : NetlinkAction) (ha : a.is_event = false) :
    Shrinks s (s.step a).1 := by
  cases a with
  | event => simp [NetlinkAction.is_event] at ha
  | receive datagram =>
    have hbuffer : Shrinks s { s with nl_buffer := recv_buffer s.nl_buffer datagram } :=
      ⟨List.Sublist.refl _, rfl, rfl, fun _ => ⟨rfl, rfl⟩⟩
    exact hbuffer.trans (send_netlink_replies_shrinks _ _)
  | get_reply p =>
    obtain ⟨-, htype, hseq⟩ := (s.events p).get_reply_spec
    refine ⟨List.Sublist.refl _, rfl, rfl, fun x => ?_⟩
    by_cases hx : x = p
    · subst hx; simp [step, htype, hseq]
    · simp [step, hx]


end clearsync.netlink
