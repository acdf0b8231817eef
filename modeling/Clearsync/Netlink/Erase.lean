import Clearsync.Netlink.Targets

namespace clearsync.netlink

/-- The message `nh` ends the query `e`: `e` is an `NL_Query`, `nh` reaches the queries with
    `e`'s sequence, and `SendNetlinkReply` erases the entry it matches. -/
def ends_query (e : CsEventNetlink) (nh : NlMsgHdr) : Prop :=
  e.type = .NL_Query ∧ for_query e.query_seq nh ∧ reply_ends_query nh = true

instance (e : CsEventNetlink) (nh : NlMsgHdr) : Decidable (ends_query e nh) :=
  inferInstanceAs (Decidable (_ ∧ _ ∧ _))

/-- Whether a message ends a query reads only the query's type and sequence. -/
theorem ends_query_congr {e e' : CsEventNetlink} (htype : e'.type = e.type)
    (hseq : e'.query_seq = e.query_seq) (nh : NlMsgHdr) : ends_query e' nh ↔ ends_query e nh := by
  simp only [ends_query, htype, hseq]

/-- The query loop erases only the entry that answers the reply, and only when the reply
    ends it. -/
theorem query_loop_erases (buf : List UInt8) (off : Nat) :
    ∀ (table : List Nat) (events : Nat → CsEventNetlink) (p : Nat), p ∈ table →
      p ∉ (query_loop buf off table events).1 →
        answers events (nlmsghdr_at buf off).nlmsg_seq p ∧ reply_ends_query (nlmsghdr_at buf off) = true
  | [], _, _, hp, _ => absurd hp (List.not_mem_nil _)
  | q :: qs, events, p, hp, hgone => by
    unfold query_loop at hgone
    split at hgone
    · next hanswer =>
      cases hends : reply_ends_query (nlmsghdr_at buf off)
      · simp only [hends, Bool.false_eq_true, if_false] at hgone
        exact absurd hp hgone
      · simp only [hends, if_true] at hgone
        have hpq : p = q := (List.mem_cons.mp hp).resolve_right hgone
        exact ⟨hpq ▸ hanswer, rfl⟩
    · simp only [List.mem_cons, not_or] at hgone
      exact query_loop_erases buf off qs events p ((List.mem_cons.mp hp).resolve_left hgone.1) hgone.2

theorem CsThreadNetlink.send_netlink_reply_erases (s : CsThreadNetlink) (off p : Nat)
    (hp : p ∈ s.event_client) (hgone : p ∉ (s.send_netlink_reply off).1.event_client) :
    ends_query (s.events p) (nlmsghdr_at s.nl_buffer off) := by
  by_cases hroute : route_message (nlmsghdr_at s.nl_buffer off)
  · rw [send_netlink_reply_of_route s off hroute] at hgone
    exact absurd hp hgone
  · by_cases hnoop : (nlmsghdr_at s.nl_buffer off).nlmsg_type = NLMSG_NOOP
    · rw [send_netlink_reply_of_noop s off hroute hnoop] at hgone
      exact absurd hp hgone
    · rw [send_netlink_reply_of_reaches s off ⟨hroute, hnoop⟩] at hgone
      obtain ⟨⟨htype, hseq⟩, hends⟩ := query_loop_erases _ _ _ _ p hp hgone
      exact ⟨htype, ⟨⟨hroute, hnoop⟩, hseq.symm⟩, hends⟩

/-- Over the messages of one datagram, an entry leaves the table only on a message that ends it. -/
theorem CsThreadNetlink.send_netlink_replies_erases :
    ∀ (offs : List Nat) (s : CsThreadNetlink) (p : Nat), p ∈ s.event_client →
      p ∉ (s.send_netlink_replies offs).1.event_client →
        ∃ off ∈ offs, ends_query (s.events p) (nlmsghdr_at s.nl_buffer off)
  | [], _, _, hp, hgone => absurd hp hgone
  | off :: offs, s, p, hp, hgone => by
    by_cases hkept : p ∈ (s.send_netlink_reply off).1.event_client
    · obtain ⟨hshrinks, hbuf⟩ := s.send_netlink_reply_frame off
      obtain ⟨off', hoff', hends⟩ := send_netlink_replies_erases offs _ p hkept hgone
      rw [hbuf, ends_query_congr (hshrinks.fields p).1 (hshrinks.fields p).2] at hends
      exact ⟨off', List.mem_cons_of_mem _ hoff', hends⟩
    · exact ⟨off, List.mem_cons_self _ _, s.send_netlink_reply_erases off p hp hkept⟩

/-- A step keeps the type and sequence of every table entry: a new event takes a fresh address. -/
theorem CsThreadNetlink.step_fields_of_mem (s : CsThreadNetlink) (a : NetlinkAction) (hs : TableOk s)
    {p : Nat} (hp : p ∈ s.event_client) :
    ((s.step a).1.events p).type = (s.events p).type ∧
      ((s.step a).1.events p).query_seq = (s.events p).query_seq := by
  cases a with
  | event type query source target now sent =>
    rw [(s.step_event_spec now sent type query source target).2.2.2.2.1 p
      (Nat.ne_of_lt (hs.allocated p hp))]
    exact ⟨rfl, rfl⟩
  | receive datagram => exact (s.step_shrinks (.receive datagram) rfl).fields p
  | get_reply q => exact (s.step_shrinks (.get_reply q) rfl).fields p

theorem CsThreadNetlink.step_erases (s : CsThreadNetlink) (a : NetlinkAction) {p : Nat}
    (hp : p ∈ s.event_client) (hgone : p ∉ (s.step a).1.event_client) :
    ∃ m ∈ received s.nl_buffer [a], ends_query (s.events p) m.1 := by
  cases a with
  | event type query source target now sent =>
    rw [(s.step_event_spec now sent type query source target).1] at hgone
    exact absurd (List.mem_append_left _ hp) hgone
  | receive datagram =>
    obtain ⟨off, hoff, hends⟩ := send_netlink_replies_erases _
      { s with nl_buffer := recv_buffer s.nl_buffer datagram } p hp hgone
    exact ⟨_, List.mem_append_left _ (List.mem_map_of_mem _ hoff), hends⟩
  | get_reply q => exact absurd hp hgone

theorem CsThreadNetlink.run_erases :
    ∀ (acts : List NetlinkAction) (s : CsThreadNetlink) {p : Nat}, TableOk s → p ∈ s.event_client →
      p ∉ (s.run acts).1.event_client → ∃ m ∈ received s.nl_buffer acts, ends_query (s.events p) m.1
  | [], _, _, _, hp, hgone => absurd hp hgone
  | a :: acts, s, p, hs, hp, hgone => by
    rw [s.received_step a acts]
    by_cases hkept : p ∈ (s.step a).1.event_client
    · obtain ⟨m, hm, hends⟩ := run_erases acts _ (hs.step a) hkept hgone
      have hfields := s.step_fields_of_mem a hs hp
      exact ⟨m, List.mem_append_right _ hm, (ends_query_congr hfields.1 hfields.2 _).mp hends⟩
    · obtain ⟨m, hm, hends⟩ := s.step_erases a hp hkept
      exact ⟨m, List.mem_append_left _ hm, hends⟩

/-- Over any run from the constructor, an entry of the table leaves it only when a message
    that ends it arrives: an `NL_Query` on a message of its own sequence that reaches the
    queries and is `NLMSG_DONE`, `NLMSG_ERROR`, `NLMSG_OVERRUN` or lacks `NLM_F_MULTI`. A
    route watcher never leaves. `SendNetlinkReply` is the only code that erases from
    `event_client`, and it erases only the query a message answers. -/
theorem CsThreadNetlink.query_leaves_table_only_when_ended (nl_buffer : List UInt8) (nl_pid : Nat)
    (pre acts : List NetlinkAction) (p : Nat)
    (hp : p ∈ ((CsThreadNetlink.init nl_buffer nl_pid).run pre).1.event_client)
    (hgone : p ∉ (((CsThreadNetlink.init nl_buffer nl_pid).run pre).1.run acts).1.event_client) :
    let s : CsThreadNetlink := ((CsThreadNetlink.init nl_buffer nl_pid).run pre).1
    ∃ m ∈ received s.nl_buffer acts, ends_query (s.events p) m.1 :=
  run_erases acts _ ((TableOk.init nl_buffer nl_pid).run pre) hp hgone

/-- A `RTM_GETLINK` query answered by one `NLMSG_DONE` with its sequence. -/
theorem CsThreadNetlink.query_leaves_table_only_when_ended_done :
    let pre : List NetlinkAction := [.event .NL_Query RTM_GETLINK none (some 1) 0 true]
    let acts : List NetlinkAction := [.receive [16, 0, 0, 0, 3, 0, 0, 0, 1, 0, 0, 0, 0, 0, 0, 0]]
    let s : CsThreadNetlink := ((CsThreadNetlink.init (List.replicate 32 0) 0).run pre).1
    (0 ∈ s.event_client ∧ 0 ∉ (s.run acts).1.event_client) ∧
      ∃ m ∈ received s.nl_buffer acts, ends_query (s.events 0) m.1 :=
  ⟨⟨by decide, by decide⟩, CsThreadNetlink.query_leaves_table_only_when_ended (List.replicate 32 0) 0
    [.event .NL_Query RTM_GETLINK none (some 1) 0 true]
    [.receive [16, 0, 0, 0, 3, 0, 0, 0, 1, 0, 0, 0, 0, 0, 0, 0]] 0 (by decide) (by decide)⟩

end clearsync.netlink
