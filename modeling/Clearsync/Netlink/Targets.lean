import Clearsync.Netlink.RouteWatch

namespace clearsync.netlink

/-- How `s'` follows `s` while the service dispatches `dispatched` and allocates nothing: the
    table only loses entries, every event keeps its target, and each dispatch sends an entry of
    `s`'s table to its target. -/
structure Routes (s : CsThreadNetlink) (dispatched : List (Nat × Client)) (s' : CsThreadNetlink) : Prop where
  table : ∀ p ∈ s'.event_client, p ∈ s.event_client
  target : ∀ x, (s'.events x).target = (s.events x).target
  dispatched : ∀ d ∈ dispatched, d.1 ∈ s.event_client ∧ d.2 = (s.events d.1).target

theorem Routes.refl (s : CsThreadNetlink) : Routes s [] s :=
  ⟨fun _ hp => hp, fun _ => rfl, by simp⟩

theorem Routes.trans {s₁ s₂ s₃ : CsThreadNetlink} {d₁ d₂ : List (Nat × Client)}
    (h₁ : Routes s₁ d₁ s₂) (h₂ : Routes s₂ d₂ s₃) : Routes s₁ (d₁ ++ d₂) s₃ := by
  refine ⟨fun p hp => h₁.table p (h₂.table p hp), fun x => (h₂.target x).trans (h₁.target x), ?_⟩
  intro d hd
  rcases List.mem_append.mp hd with hd | hd
  · exact h₁.dispatched d hd
  · obtain ⟨hmem, htarget⟩ := h₂.dispatched d hd
    exact ⟨h₁.table _ hmem, htarget.trans (h₁.target _)⟩

section loops

variable (buf : List UInt8) (off : Nat)

theorem add_reply_update_target (events : Nat → CsEventNetlink) (p x : Nat) :
    (Function.update events p ((events p).add_reply buf off) x).target = (events x).target := by
  by_cases hx : x = p
  · subst hx; simp
  · simp [hx]

/-- The route loop keeps every target and dispatches table entries to their targets. -/
theorem route_watch_loop_targets :
    ∀ (table : List Nat) (events : Nat → CsEventNetlink),
      (∀ x, ((route_watch_loop buf off table events).1 x).target = (events x).target) ∧
        ∀ d ∈ (route_watch_loop buf off table events).2, d.1 ∈ table ∧ d.2 = (events d.1).target
  | [], _ => ⟨fun _ => rfl, by simp [route_watch_loop]⟩
  | p :: ps, events => by
    by_cases hp : (events p).type = .NL_RouteWatch
    · obtain ⟨htarget, hdispatched⟩ :=
        route_watch_loop_targets ps (Function.update events p ((events p).add_reply buf off))
      simp only [route_watch_loop, hp, if_true]
      refine ⟨fun x => (htarget x).trans (add_reply_update_target buf off events p x), fun d hd => ?_⟩
      rcases List.mem_cons.mp hd with rfl | hd
      · exact ⟨List.mem_cons_self _ _, rfl⟩
      · obtain ⟨hmem, hd⟩ := hdispatched d hd
        exact ⟨List.mem_cons_of_mem _ hmem, hd.trans (add_reply_update_target buf off events p _)⟩
    · obtain ⟨htarget, hdispatched⟩ := route_watch_loop_targets ps events
      simp only [route_watch_loop, hp, if_false]
      exact ⟨htarget, fun d hd => ⟨List.mem_cons_of_mem _ (hdispatched d hd).1, (hdispatched d hd).2⟩⟩

/-- The query loop keeps every target and dispatches a table entry to its target. -/
theorem query_loop_targets :
    ∀ (table : List Nat) (events : Nat → CsEventNetlink),
      (∀ x, ((query_loop buf off table events).2.1 x).target = (events x).target) ∧
        ∀ d ∈ (query_loop buf off table events).2.2, d.1 ∈ table ∧ d.2 = (events d.1).target
  | [], _ => ⟨fun _ => rfl, by simp [query_loop]⟩
  | p :: ps, events => by
    unfold query_loop
    split
    · refine ⟨add_reply_update_target buf off events p, fun d hd => ?_⟩
      rw [List.mem_singleton.mp hd]
      exact ⟨List.mem_cons_self _ _, rfl⟩
    · obtain ⟨htarget, hdispatched⟩ := query_loop_targets ps events
      exact ⟨htarget, fun d hd => ⟨List.mem_cons_of_mem _ (hdispatched d hd).1, (hdispatched d hd).2⟩⟩

end loops

theorem CsThreadNetlink.send_netlink_reply_routes (s : CsThreadNetlink) (off : Nat) :
    Routes s (s.send_netlink_reply off).2 (s.send_netlink_reply off).1 := by
  have htable := (s.send_netlink_reply_frame off).1.table.subset
  by_cases hroute : route_message (nlmsghdr_at s.nl_buffer off)
  · rw [send_netlink_reply_of_route s off hroute] at htable ⊢
    exact ⟨htable, (route_watch_loop_targets _ _ _ _).1, (route_watch_loop_targets _ _ _ _).2⟩
  · by_cases hnoop : (nlmsghdr_at s.nl_buffer off).nlmsg_type = NLMSG_NOOP
    · rw [send_netlink_reply_of_noop s off hroute hnoop]
      exact Routes.refl s
    · rw [send_netlink_reply_of_reaches s off ⟨hroute, hnoop⟩] at htable ⊢
      exact ⟨htable, (query_loop_targets _ _ _ _).1, (query_loop_targets _ _ _ _).2⟩

theorem CsThreadNetlink.send_netlink_replies_routes :
    ∀ (offs : List Nat) (s : CsThreadNetlink),
      Routes s (s.send_netlink_replies offs).2 (s.send_netlink_replies offs).1
  | [], s => Routes.refl s
  | off :: offs, s =>
    (s.send_netlink_reply_routes off).trans (send_netlink_replies_routes offs _)

/-- Receiving a datagram and serving `GetReply` allocate nothing and dispatch table entries
    to their targets. -/
theorem CsThreadNetlink.step_routes (s : CsThreadNetlink) (a : NetlinkAction) (ha : a.is_event = false) :
    Routes s (s.step a).2.dispatches (s.step a).1 := by
  cases a with
  | event => simp [NetlinkAction.is_event] at ha
  | receive datagram =>
    have h := send_netlink_replies_routes
      (nlmsg_walk (recv_buffer s.nl_buffer datagram) ((recv_length s.nl_buffer datagram : Int).toNat + 1) 0
        (recv_length s.nl_buffer datagram)) { s with nl_buffer := recv_buffer s.nl_buffer datagram }
    exact ⟨h.table, h.target, h.dispatched⟩
  | get_reply p =>
    refine ⟨fun _ hp => hp, fun x => ?_, by simp [step, NetlinkObs.dispatches]⟩
    by_cases hx : x = p
    · subst hx
      simp only [step, Function.update_same]
      unfold CsEventNetlink.get_reply
      split <;> rfl
    · simp [step, hx]

/-- The source clients of a run's new events, in the order they are allocated. -/
def event_sources : List NetlinkAction → List Client
  | [] => []
  | .event _ _ source _ _ _ :: acts => source :: event_sources acts
  | _ :: acts => event_sources acts

/-- `sources` lists, by address, the clients that created the allocated events, and each of
    those events is addressed back to its creator. -/
structure Routed (sources : List Client) (s : CsThreadNetlink) : Prop where
  next : s.next = sources.length
  target : ∀ p < s.next, sources[p]? = some (s.events p).target

/-- A table entry is dispatched to the client that created it. -/
theorem Routed.dispatch {sources : List Client} {s : CsThreadNetlink} (h : Routed sources s)
    (hs : TableOk s) {d : Nat × Client} (hd : d.1 ∈ s.event_client ∧ d.2 = (s.events d.1).target) :
    sources[d.1]? = some d.2 :=
  hd.2 ▸ h.target d.1 (hs.allocated d.1 hd.1)

theorem Routed.of_routes {sources : List Client} {s s' : CsThreadNetlink} {dispatched : List (Nat × Client)}
    (h : Routed sources s) (hs : Routes s dispatched s') (hnext : s'.next = s.next) : Routed sources s' :=
  ⟨hnext.trans h.next, fun p hp => (hs.target p).symm ▸ h.target p (hnext ▸ hp)⟩

theorem Routed.step {sources : List Client} {s : CsThreadNetlink} (h : Routed sources s)
    (a : NetlinkAction) : Routed (sources ++ event_sources [a]) (s.step a).1 := by
  cases a with
  | event type query source target now sent =>
    obtain ⟨-, -, hnext, -, hother, hnew⟩ := s.step_event_spec now sent type query source target
    refine ⟨by simp [hnext, h.next, event_sources], fun p hp => ?_⟩
    rw [hnext] at hp
    rcases Nat.lt_succ_iff_lt_or_eq.mp hp with hp | rfl
    · rw [List.getElem?_append_left (h.next ▸ hp), hother p (Nat.ne_of_lt hp)]
      exact h.target p hp
    · rw [hnew]
      simp [h.next, event_sources]
  | receive datagram =>
    simpa [event_sources] using
      h.of_routes (s.step_routes (.receive datagram) rfl) (s.step_shrinks (.receive datagram) rfl).next
  | get_reply p =>
    simpa [event_sources] using
      h.of_routes (s.step_routes (.get_reply p) rfl) (s.step_shrinks (.get_reply p) rfl).next

/-- Whatever a step dispatches is an entry of the table it starts from, sent to its target. -/
theorem CsThreadNetlink.step_dispatched (s : CsThreadNetlink) (a : NetlinkAction) :
    ∀ d ∈ (s.step a).2.dispatches, d.1 ∈ s.event_client ∧ d.2 = (s.events d.1).target := by
  cases a with
  | event => simp [step, NetlinkObs.dispatches]
  | receive datagram => exact (s.step_routes (.receive datagram) rfl).dispatched
  | get_reply p => exact (s.step_routes (.get_reply p) rfl).dispatched

theorem event_sources_cons (a : NetlinkAction) (acts : List NetlinkAction) :
    event_sources (a :: acts) = event_sources [a] ++ event_sources acts := by
  cases a <;> rfl

theorem CsThreadNetlink.run_dispatches_routed :
    ∀ (acts : List NetlinkAction) (sources : List Client) (s : CsThreadNetlink), Routed sources s →
      TableOk s → ∀ d ∈ (s.run acts).2.flatMap NetlinkObs.dispatches,
        (sources ++ event_sources acts)[d.1]? = some d.2
  | [], _, _, _, _ => by simp [run]
  | a :: acts, sources, s, h, hs => by
    intro d hd
    simp only [run, List.flatMap_cons, List.mem_append] at hd
    rcases hd with hd | hd
    · have hdispatched := s.step_dispatched a d hd
      rw [List.getElem?_append_left (h.next ▸ hs.allocated _ hdispatched.1)]
      exact h.dispatch hs hdispatched
    · rw [event_sources_cons, ← List.append_assoc]
      exact run_dispatches_routed acts _ _ (h.step a) (hs.step a) d hd

theorem Routed.init (nl_buffer : List UInt8) (nl_pid : Nat) :
    Routed [] (CsThreadNetlink.init nl_buffer nl_pid) :=
  ⟨rfl, fun _ hp => absurd hp (Nat.not_lt_zero _)⟩

/-- Over any run from the constructor, every event the service dispatches goes to the client
    that created it: the event at `p` is the run's `p`-th new event, and it is dispatched to
    that event's `source`. A client hands the service an event from itself (`source`) to the
    service (`target`); `ProcessEvent` swaps the two before the event joins `event_client`,
    `SendNetlinkReply` dispatches an entry to its target only, and `AddReply` and `GetReply`
    leave both clients alone. -/
theorem CsThreadNetlink.run_dispatches_to_creator (nl_buffer : List UInt8) (nl_pid : Nat)
    (acts : List NetlinkAction) :
    ∀ d ∈ ((CsThreadNetlink.init nl_buffer nl_pid).run acts).2.flatMap NetlinkObs.dispatches,
      (event_sources acts)[d.1]? = some d.2 :=
  run_dispatches_routed acts [] _ (Routed.init nl_buffer nl_pid) (TableOk.init nl_buffer nl_pid)

/-- A query of client `1` and a route watcher of client `5`: an `RTM_NEWROUTE` goes to `5`. -/
theorem CsThreadNetlink.run_dispatches_to_creator_newroute :
    let acts : List NetlinkAction := [.event .NL_Query RTM_GETLINK (some 1) (some 2) 0 false,
      .event .NL_RouteWatch 0 (some 5) (some 2) 0 true,
      .receive [16, 0, 0, 0, 24, 0, 0, 0, 0, 0, 0, 0, 0, 0, 0, 0]]
    (1, some 5) ∈ ((CsThreadNetlink.init (List.replicate 32 0) 0).run acts).2.flatMap NetlinkObs.dispatches ∧
      (event_sources acts)[1]? = some (some 5) :=
  ⟨by decide, CsThreadNetlink.run_dispatches_to_creator (List.replicate 32 0) 0 _ (1, some 5) (by decide)⟩

end clearsync.netlink
