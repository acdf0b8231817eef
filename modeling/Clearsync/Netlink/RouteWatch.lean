import Clearsync.Netlink.Delivery

namespace clearsync.netlink

/-- The table lists allocated events only, in the order they were allocated, so each once. -/
structure TableOk (s : CsThreadNetlink) : Prop where
  sorted : s.event_client.Pairwise (· < ·)
  allocated : ∀ p ∈ s.event_client, p < s.next

theorem TableOk.nodup {s : CsThreadNetlink} (h : TableOk s) : s.event_client.Nodup :=
  h.sorted.imp Nat.ne_of_lt

theorem TableOk.of_shrinks {s s' : CsThreadNetlink} (h : TableOk s) (hs : Shrinks s s') : TableOk s' :=
  ⟨h.sorted.sublist hs.table, fun p hp => hs.next ▸ h.allocated p (hs.table.subset hp)⟩

theorem TableOk.step {s : CsThreadNetlink} (h : TableOk s) (a : NetlinkAction) : TableOk (s.step a).1 := by
  cases a with
  | event type query source target now sent =>
    obtain ⟨htable, -, hnext, -⟩ := s.step_event_spec now sent type query source target
    refine ⟨?_, fun p hp => ?_⟩
    · rw [htable]
      exact List.pairwise_append.mpr ⟨h.sorted, List.pairwise_singleton _ _,
        fun p hp q hq => List.mem_singleton.mp hq ▸ h.allocated p hp⟩
    · rw [htable, List.mem_append, List.mem_singleton] at hp
      rw [hnext]
      rcases hp with hp | rfl
      · exact Nat.lt_succ_of_lt (h.allocated p hp)
      · exact Nat.lt_succ_self _
  | receive datagram => exact h.of_shrinks (s.step_shrinks _ rfl)
  | get_reply p => exact h.of_shrinks (s.step_shrinks _ rfl)

theorem TableOk.run {s : CsThreadNetlink} (h : TableOk s) :
    ∀ acts : List NetlinkAction, TableOk (s.run acts).1
  | [] => h
  | a :: acts => (h.step a).run acts


/-- The messages `SendNetlinkReply` hands to the route watchers. -/
def route_message (nh : NlMsgHdr) : Prop :=
  nh.nlmsg_type = RTM_NEWROUTE ∨ nh.nlmsg_type = RTM_DELROUTE

instance (nh : NlMsgHdr) : Decidable (route_message nh) := inferInstanceAs (Decidable (_ ∨ _))

/-- What a stream of messages owes a route watcher: the bytes of its route messages, in order. -/
def route_replies (msgs : List Message) : List (List UInt8) :=
  (msgs.filter fun m => route_message m.1).map Prod.snd

/-- The events an outcome dispatched. -/
def NetlinkObs.dispatches : NetlinkObs → List (Nat × Client)
  | .dispatched events => events
  | _ => []

/-- The dispatches of the event at `w` over a trace, in order. -/
def dispatched_to (w : Nat) (trace : List NetlinkObs) : List (Nat × Client) :=
  (trace.flatMap NetlinkObs.dispatches).filter (·.1 = w)

/-- The query loop dispatches only an entry that answers the reply. -/
theorem query_loop_dispatched (buf : List UInt8) (off : Nat) :
    ∀ (table : List Nat) (events : Nat → CsEventNetlink),
      ∀ d ∈ (query_loop buf off table events).2.2, answers events (nlmsghdr_at buf off).nlmsg_seq d.1
  | [], _ => by simp [query_loop]
  | p :: ps, events => by
    unfold query_loop
    split
    · next h => simpa using h
    · simpa using query_loop_dispatched buf off ps events

private theorem filter_eq_singleton {l : List Nat} {w : Nat} (hnodup : l.Nodup) (hw : w ∈ l) :
    l.filter (· = w) = [w] := by
  rw [List.filter_eq, List.count_eq_one_of_mem hnodup hw]
  rfl

theorem route_replies_append (l₁ l₂ : List Message) :
    route_replies (l₁ ++ l₂) = route_replies l₁ ++ route_replies l₂ := by
  simp [route_replies]

/-- How the route watcher at `w` goes from `s` to `s'` over the messages `msgs`, its client
    taking the replies `taken` and the service dispatching it as `dispatched` meanwhile: it
    stays in the table with its type and target, collects every route message, in order,
    and is dispatched to its target once for each. -/
structure Watches (w : Nat) (s : CsThreadNetlink) (msgs : List Message) (taken : List (List UInt8))
    (dispatched : List (Nat × Client)) (s' : CsThreadNetlink) : Prop where
  mem : w ∈ s'.event_client
  type : (s'.events w).type = .NL_RouteWatch
  target : (s'.events w).target = (s.events w).target
  reply : taken ++ (s'.events w).reply = (s.events w).reply ++ route_replies msgs
  dispatched : dispatched = (route_replies msgs).map fun _ => (w, (s.events w).target)

section watches

variable {w : Nat}

theorem Watches.refl {s : CsThreadNetlink} (hw : w ∈ s.event_client)
    (htype : (s.events w).type = .NL_RouteWatch) : Watches w s [] [] [] s :=
  ⟨hw, htype, rfl, by simp [route_replies], rfl⟩

/-- `Watches` reads only the events of the state it starts from. -/
theorem Watches.of_source {s₀ s s' : CsThreadNetlink} {msgs : List Message} {taken : List (List UInt8)}
    {dispatched : List (Nat × Client)} (h : Watches w s₀ msgs taken dispatched s')
    (hevents : s₀.events = s.events) : Watches w s msgs taken dispatched s' := by
  obtain ⟨hmem, htype, htarget, hreply, hdispatched⟩ := h
  rw [hevents] at *
  exact ⟨hmem, htype, htarget, hreply, hdispatched⟩

theorem Watches.trans {s₁ s₂ s₃ : CsThreadNetlink} {m₁ m₂ : List Message} {t₁ t₂ : List (List UInt8)}
    {d₁ d₂ : List (Nat × Client)} (h₁ : Watches w s₁ m₁ t₁ d₁ s₂) (h₂ : Watches w s₂ m₂ t₂ d₂ s₃) :
    Watches w s₁ (m₁ ++ m₂) (t₁ ++ t₂) (d₁ ++ d₂) s₃ := by
  refine ⟨h₂.mem, h₂.type, h₂.target.trans h₁.target, ?_, ?_⟩
  · rw [List.append_assoc, h₂.reply, ← List.append_assoc, h₁.reply, route_replies_append,
      List.append_assoc]
  · rw [h₁.dispatched, h₂.dispatched, h₁.target, route_replies_append, List.map_append]

/-- One message: a route message is appended to the watcher's replies and dispatches it once
    to its target; any other message leaves it alone and dispatches it nowhere. -/
theorem CsThreadNetlink.send_netlink_reply_watches (s : CsThreadNetlink) (off : Nat)
    (hnodup : s.event_client.Nodup) (hw : w ∈ s.event_client)
    (htype : (s.events w).type = .NL_RouteWatch) :
    Watches w s [(nlmsghdr_at s.nl_buffer off, reply_copy s.nl_buffer off)] []
      ((s.send_netlink_reply off).2.filter (·.1 = w)) (s.send_netlink_reply off).1 := by
  by_cases hroute : route_message (nlmsghdr_at s.nl_buffer off)
  · have hreplies : route_replies [(nlmsghdr_at s.nl_buffer off, reply_copy s.nl_buffer off)] =
        [reply_copy s.nl_buffer off] := by simp [route_replies, hroute]
    have hwatch : (s.event_client.filter fun p => (s.events p).type = .NL_RouteWatch).filter (· = w) = [w] :=
      filter_eq_singleton (hnodup.filter _) (by simp [hw, htype])
    rw [send_netlink_reply_of_route s off hroute, route_watch_loop_eq _ _ _ _ hnodup]
    refine ⟨hw, by simp [hw, htype], by simp [hw, htype], by simp [hw, htype, hreplies], ?_⟩
    simp only [List.filter_map, hreplies]
    rw [show ((fun d : Nat × Client => decide (d.1 = w)) ∘ fun p => (p, (s.events p).target)) =
      (fun p => decide (p = w)) from rfl, hwatch]
    rfl
  · have hreplies : route_replies [(nlmsghdr_at s.nl_buffer off, reply_copy s.nl_buffer off)] = [] := by
      simp [route_replies, hroute]
    by_cases hnoop : (nlmsghdr_at s.nl_buffer off).nlmsg_type = NLMSG_NOOP
    · rw [send_netlink_reply_of_noop s off hroute hnoop]
      exact ⟨hw, htype, rfl, by simp [hreplies], by simp [hreplies]⟩
    · rw [send_netlink_reply_of_reaches s off ⟨hroute, hnoop⟩]
      have hnot : ¬answers s.events (nlmsghdr_at s.nl_buffer off).nlmsg_seq w := by
        simp [answers, htype]
      obtain ⟨hevent, hmem⟩ := (query_loop_frame _ _ _ _).2.2.1 w hnot
      refine ⟨hmem.mpr hw, by simp [hevent, htype], by simp [hevent], by simp [hevent, hreplies], ?_⟩
      rw [hreplies]
      refine List.filter_eq_nil_iff.mpr fun d hd hdw => hnot ?_
      rw [← of_decide_eq_true hdw]
      exact query_loop_dispatched _ _ _ _ d hd

/-- The messages of one datagram, in buffer order. -/
theorem CsThreadNetlink.send_netlink_replies_watches :
    ∀ (offs : List Nat) (s : CsThreadNetlink), s.event_client.Nodup → w ∈ s.event_client →
      (s.events w).type = .NL_RouteWatch →
      (s.send_netlink_replies offs).1.nl_buffer = s.nl_buffer ∧
        Watches w s (offs.map fun off => (nlmsghdr_at s.nl_buffer off, reply_copy s.nl_buffer off)) []
          ((s.send_netlink_replies offs).2.filter (·.1 = w)) (s.send_netlink_replies offs).1
  | [], s, _, hw, htype => ⟨rfl, Watches.refl hw htype⟩
  | off :: offs, s, hnodup, hw, htype => by
    have h₁ := s.send_netlink_reply_watches off hnodup hw htype
    obtain ⟨hshrinks, hbuf⟩ := s.send_netlink_reply_frame off
    obtain ⟨hbuf₂, h₂⟩ := send_netlink_replies_watches offs _ (hnodup.sublist hshrinks.table) h₁.mem h₁.type
    rw [hbuf] at hbuf₂ h₂
    refine ⟨hbuf₂, ?_⟩
    simpa [send_netlink_replies, List.filter_append] using h₁.trans h₂

theorem CsThreadNetlink.send_netlink_replies_nl_buffer :
    ∀ (offs : List Nat) (s : CsThreadNetlink), (s.send_netlink_replies offs).1.nl_buffer = s.nl_buffer
  | [], _ => rfl
  | off :: offs, s =>
    (send_netlink_replies_nl_buffer offs _).trans (s.send_netlink_reply_frame off).2

/-- The messages of a run are those of its first action, then those of the rest from the
    buffer the first action leaves. -/
theorem CsThreadNetlink.received_step (s : CsThreadNetlink) (a : NetlinkAction)
    (acts : List NetlinkAction) :
    received s.nl_buffer (a :: acts) = received s.nl_buffer [a] ++ received (s.step a).1.nl_buffer acts := by
  cases a with
  | event type query source target now sent =>
    simp [received, (s.step_event_spec now sent type query source target).2.1]
  | receive datagram =>
    simp [received, step, receive, process_netlink_message, send_netlink_replies_nl_buffer]
  | get_reply p => simp [received, step]

theorem dispatched_to_cons (o : NetlinkObs) (trace : List NetlinkObs) :
    dispatched_to w (o :: trace) = dispatched_to w [o] ++ dispatched_to w trace := by
  simp [dispatched_to]

/-- One action of the service: a client's new event, a datagram or a `GetReply`. -/
theorem CsThreadNetlink.step_watches (s : CsThreadNetlink) (a : NetlinkAction) (hs : TableOk s)
    (hw : w ∈ s.event_client) (htype : (s.events w).type = .NL_RouteWatch) :
    Watches w s (received s.nl_buffer [a]) (popped w [(s.step a).2]) (dispatched_to w [(s.step a).2])
      (s.step a).1 := by
  cases a with
  | event type query source target now sent =>
    obtain ⟨htable, -, -, -, hother, -⟩ := s.step_event_spec now sent type query source target
    have hevent := hother w (Nat.ne_of_lt (hs.allocated w hw))
    refine ⟨by rw [htable]; exact List.mem_append_left _ hw, by rw [hevent, htype], by rw [hevent],
      by simp [received, popped, route_replies, hevent], ?_⟩
    simp [received, route_replies, dispatched_to, NetlinkObs.dispatches, step]
  | receive datagram =>
    have h := (send_netlink_replies_watches
      (nlmsg_walk (recv_buffer s.nl_buffer datagram) ((recv_length s.nl_buffer datagram : Int).toNat + 1) 0
        (recv_length s.nl_buffer datagram))
      { s with nl_buffer := recv_buffer s.nl_buffer datagram } hs.nodup hw htype).2
    have h' : Watches w s _ _ _ _ := h.of_source rfl
    simpa [received, popped, dispatched_to, NetlinkObs.dispatches, step, receive,
      process_netlink_message, messages] using h'
  | get_reply p =>
    by_cases hp : p = w
    · subst hp
      cases hreply : (s.events p).reply <;>
        exact ⟨hw, by simp [step, CsEventNetlink.get_reply, hreply, htype],
          by simp [step, CsEventNetlink.get_reply, hreply],
          by simp [step, CsEventNetlink.get_reply, hreply, popped, received, route_replies], rfl⟩
    · refine ⟨hw, by simp [step, Ne.symm hp, htype], by simp [step, Ne.symm hp], ?_, rfl⟩
      cases hr : (s.events p).get_reply.1 <;> simp [step, popped, hr, hp, Ne.symm hp, received, route_replies]

/-- A run of the service from a state with a well-formed table, for a route watcher at `w`. -/
theorem CsThreadNetlink.run_watches :
    ∀ (acts : List NetlinkAction) (s : CsThreadNetlink), TableOk s → w ∈ s.event_client →
      (s.events w).type = .NL_RouteWatch →
      Watches w s (received s.nl_buffer acts) (popped w (s.run acts).2) (dispatched_to w (s.run acts).2)
        (s.run acts).1
  | [], _, _, hw, htype => Watches.refl hw htype
  | a :: acts, s, hs, hw, htype => by
    have h₁ := s.step_watches a hs hw htype
    have h₂ := run_watches acts _ (hs.step a) h₁.mem h₁.type
    rw [s.received_step a acts]
    have hrun : s.run (a :: acts) =
        (((s.step a).1.run acts).1, (s.step a).2 :: ((s.step a).1.run acts).2) := rfl
    rw [hrun, popped_cons, dispatched_to_cons]
    exact h₁.trans h₂

end watches

/-- The constructor's empty table is well formed. -/
theorem TableOk.init (nl_buffer : List UInt8) (nl_pid : Nat) :
    TableOk (CsThreadNetlink.init nl_buffer nl_pid) :=
  ⟨List.Pairwise.nil, fun _ h => absurd h (List.not_mem_nil _)⟩

/-- In every state the netlink service reaches, `event_client` lists events in the order
    `ProcessEvent` registered them (their allocation order), each at most once, and only
    events already allocated: registration appends, and `SendNetlinkReply` only erases. -/
theorem CsThreadNetlink.run_event_client_ordered (nl_buffer : List UInt8) (nl_pid : Nat)
    (acts : List NetlinkAction) :
    let r : CsThreadNetlink := ((CsThreadNetlink.init nl_buffer nl_pid).run acts).1
    r.event_client.Pairwise (· < ·) ∧ ∀ p ∈ r.event_client, p < r.next :=
  let h := (TableOk.init nl_buffer nl_pid).run acts
  ⟨h.sorted, h.allocated⟩

/-- Once a client's `NL_RouteWatch` event is in the table, every later run of the service
    keeps it there and hands it every `RTM_NEWROUTE` and `RTM_DELROUTE` message received, in
    arrival order, each once: what its client takes with `GetReply`, followed by what the
    event still holds, is what it held followed by those messages; and the service
    dispatches it to its target once per such message. -/
theorem CsThreadNetlink.route_watch_receives_route_messages (nl_buffer : List UInt8) (nl_pid : Nat)
    (pre acts : List NetlinkAction) (w : Nat)
    (hw : w ∈ ((CsThreadNetlink.init nl_buffer nl_pid).run pre).1.event_client)
    (htype : (((CsThreadNetlink.init nl_buffer nl_pid).run pre).1.events w).type = .NL_RouteWatch) :
    let s : CsThreadNetlink := ((CsThreadNetlink.init nl_buffer nl_pid).run pre).1
    w ∈ (s.run acts).1.event_client ∧ ((s.run acts).1.events w).type = .NL_RouteWatch ∧
      popped w (s.run acts).2 ++ ((s.run acts).1.events w).reply =
        (s.events w).reply ++ route_replies (received s.nl_buffer acts) ∧
      dispatched_to w (s.run acts).2 =
        (route_replies (received s.nl_buffer acts)).map fun _ => (w, (s.events w).target) := by
  intro s
  have h := CsThreadNetlink.run_watches acts s ((TableOk.init nl_buffer nl_pid).run pre) hw htype
  exact ⟨h.mem, h.type, h.reply, h.dispatched⟩

/-- A route watch registered on a fresh service, then a datagram holding one 16-byte
    `RTM_NEWROUTE` message, and its client's `GetReply`. -/
theorem CsThreadNetlink.route_watch_receives_route_messages_newroute :
    let pre : List NetlinkAction := [.event .NL_RouteWatch 0 (some 1) (some 2) 0 true]
    let acts : List NetlinkAction :=
      [.receive [16, 0, 0, 0, 24, 0, 0, 0, 0, 0, 0, 0, 0, 0, 0, 0], .get_reply 0]
    let s : CsThreadNetlink := ((CsThreadNetlink.init (List.replicate 64 0) 0).run pre).1
    (0 ∈ s.event_client ∧ (s.events 0).type = .NL_RouteWatch) ∧
      (0 ∈ (s.run acts).1.event_client ∧ ((s.run acts).1.events 0).type = .NL_RouteWatch ∧
        popped 0 (s.run acts).2 ++ ((s.run acts).1.events 0).reply =
          (s.events 0).reply ++ route_replies (received s.nl_buffer acts) ∧
        dispatched_to 0 (s.run acts).2 =
          (route_replies (received s.nl_buffer acts)).map fun _ => (0, (s.events 0).target)) :=
  have hw : 0 ∈ ((CsThreadNetlink.init (List.replicate 64 0) 0).run
      [.event .NL_RouteWatch 0 (some 1) (some 2) 0 true]).1.event_client := by decide
  have htype : (((CsThreadNetlink.init (List.replicate 64 0) 0).run
      [.event .NL_RouteWatch 0 (some 1) (some 2) 0 true]).1.events 0).type = .NL_RouteWatch := rfl
  ⟨⟨hw, htype⟩, CsThreadNetlink.route_watch_receives_route_messages _ _ _ _ 0 hw htype⟩

end clearsync.netlink
