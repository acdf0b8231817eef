import Clearsync.Netlink.Reply
import Clearsync.Netlink.Request

namespace clearsync.netlink

/-- A message as `SendNetlinkReply` sees it: its header and the bytes `AddReply` copies. -/
abbrev Message := NlMsgHdr × List UInt8

/-- The messages `ProcessNetlinkMessage` hands to `SendNetlinkReply` for `length` bytes
    received in `buf`, in buffer order. -/
def messages (buf : List UInt8) (length : Int) : List Message :=
  (nlmsg_walk buf (length.toNat + 1) 0 length).map fun off => (nlmsghdr_at buf off, reply_copy buf off)

/-- The messages of a run's datagrams in arrival order, from the receive buffer `buf` on. -/
def received (buf : List UInt8) : List NetlinkAction → List Message
  | [] => []
  | .receive datagram :: acts =>
    messages (recv_buffer buf datagram) (recv_length buf datagram) ++
      received (recv_buffer buf datagram) acts
  | _ :: acts => received buf acts

/-- The replies `GetReply` returned on the event at `q` over a trace. -/
def popped (q : Nat) : List NetlinkObs → List (List UInt8)
  | [] => []
  | .reply p (some r) :: trace => if p = q then r :: popped q trace else popped q trace
  | _ :: trace => popped q trace

theorem popped_cons (q : Nat) (o : NetlinkObs) (trace : List NetlinkObs) :
    popped q (o :: trace) = popped q [o] ++ popped q trace := by
  rcases o with _ | _ | ⟨p, _ | r⟩
  all_goals try by_cases hp : p = q
  all_goals simp_all [popped]

/-- What a stream of messages owes a query with sequence `seq`: the bytes of the messages
    handed to it, in order, up to and including the first that ends it. -/
def query_replies (seq : Nat) : List Message → List (List UInt8)
  | [] => []
  | (nh, bytes) :: msgs =>
    if for_query seq nh then bytes :: if reply_ends_query nh then [] else query_replies seq msgs
    else query_replies seq msgs

/-- Whether a stream of messages ends the query with sequence `seq`. -/
def query_ended (seq : Nat) (msgs : List Message) : Bool :=
  msgs.any fun m => decide (for_query seq m.1) && reply_ends_query m.1

@[simp] theorem query_ended_nil (seq : Nat) : query_ended seq [] = false := rfl

theorem query_ended_cons (seq : Nat) (m : Message) (l : List Message) :
    query_ended seq (m :: l) = (decide (for_query seq m.1) && reply_ends_query m.1 || query_ended seq l) :=
  List.any_cons

theorem query_ended_append (seq : Nat) (l₁ l₂ : List Message) :
    query_ended seq (l₁ ++ l₂) = (query_ended seq l₁ || query_ended seq l₂) :=
  List.any_append

theorem query_replies_append (seq : Nat) (l₁ l₂ : List Message) :
    query_replies seq (l₁ ++ l₂) =
      query_replies seq l₁ ++ if query_ended seq l₁ then [] else query_replies seq l₂ := by
  induction l₁ with
  | nil => simp [query_replies, query_ended]
  | cons m l₁ ih =>
    obtain ⟨nh, bytes⟩ := m
    by_cases hfor : for_query seq nh
    · by_cases hends : reply_ends_query nh
      · simp [query_replies, query_ended_cons, hfor, hends]
      · simp [query_replies, query_ended_cons, hfor, hends, ih]
    · simp [query_replies, query_ended_cons, hfor, ih]

/-- What `SendNetlinkReply`'s answers to the query at `q` rely on: it is an `NL_Query`, and
    the table is duplicate-free with queries of distinct sequences. -/
structure Tracks (q : Nat) (s : CsThreadNetlink) : Prop where
  query : (s.events q).type = .NL_Query
  nodup : s.event_client.Nodup
  distinct : QuerySeqsDistinct s.event_client s.events

/-- How the query at `q` goes from `s` to `s'` over the messages `msgs`, its client having
    taken the replies `taken` meanwhile: it keeps its sequence, collects what it is owed
    while in the table, and leaves the table once the messages end it. -/
structure Delivers (q : Nat) (s : CsThreadNetlink) (msgs : List Message)
    (taken : List (List UInt8)) (s' : CsThreadNetlink) : Prop where
  query_seq : (s'.events q).query_seq = (s.events q).query_seq
  reply : taken ++ (s'.events q).reply =
    (s.events q).reply ++ if q ∈ s.event_client then query_replies (s.events q).query_seq msgs else []
  mem : q ∈ s'.event_client ↔ q ∈ s.event_client ∧ query_ended (s.events q).query_seq msgs = false

section delivers

variable {q : Nat}

theorem Tracks.of_shrinks {s s' : CsThreadNetlink} (h : Tracks q s) (hs : Shrinks s s') : Tracks q s' :=
  ⟨(hs.fields q).1.trans h.query, h.nodup.sublist hs.table,
    h.distinct.of_frame hs.table fun x _ => hs.fields x⟩

theorem Delivers.refl (s : CsThreadNetlink) : Delivers q s [] [] s :=
  ⟨rfl, by simp [query_replies], by simp [query_ended]⟩

/-- `Delivers` reads only the table and the events of the state it starts from. -/
theorem Delivers.of_source {s₀ s s' : CsThreadNetlink} {msgs : List Message}
    {taken : List (List UInt8)} (h : Delivers q s₀ msgs taken s') (hevents : s₀.events = s.events)
    (htable : s₀.event_client = s.event_client) : Delivers q s msgs taken s' := by
  obtain ⟨hseq, hreply, hmem⟩ := h
  rw [hevents, htable] at *
  exact ⟨hseq, hreply, hmem⟩

theorem Delivers.trans {s₁ s₂ s₃ : CsThreadNetlink} {m₁ m₂ : List Message}
    {t₁ t₂ : List (List UInt8)} (h₁ : Delivers q s₁ m₁ t₁ s₂) (h₂ : Delivers q s₂ m₂ t₂ s₃) :
    Delivers q s₁ (m₁ ++ m₂) (t₁ ++ t₂) s₃ := by
  have hseq := h₁.query_seq
  refine ⟨h₂.query_seq.trans hseq, ?_, ?_⟩
  · rw [List.append_assoc, h₂.reply, ← List.append_assoc, h₁.reply, query_replies_append, hseq]
    by_cases hq : q ∈ s₁.event_client <;> by_cases hended : query_ended (s₁.events q).query_seq m₁ <;>
      simp [hq, hended, h₁.mem]
  · rw [h₂.mem, h₁.mem, hseq, query_ended_append, Bool.or_eq_false_iff, and_assoc]

/-- One message: the query at `q` takes it when it is handed to `q` while in the table, and
    leaves the table when the message also ends it. -/
theorem CsThreadNetlink.send_netlink_reply_delivers (s : CsThreadNetlink) (off : Nat) (h : Tracks q s) :
    Tracks q (s.send_netlink_reply off).1 ∧
      Delivers q s [(nlmsghdr_at s.nl_buffer off, reply_copy s.nl_buffer off)] []
        (s.send_netlink_reply off).1 := by
  refine ⟨h.of_shrinks (s.send_netlink_reply_frame off).1, ?_⟩
  by_cases hfor : for_query (s.events q).query_seq (nlmsghdr_at s.nl_buffer off)
  · by_cases hmem : q ∈ s.event_client
    · obtain ⟨pre, post, htable⟩ := List.append_of_mem hmem
      have hnodup := h.nodup
      rw [htable, List.nodup_middle, List.nodup_cons, List.mem_append, not_or] at hnodup
      rw [send_netlink_reply_answer s off q pre post htable h.distinct hfor h.query]
      refine ⟨by simp, by simp [query_replies, hfor, hmem], ?_⟩
      by_cases hends : reply_ends_query (nlmsghdr_at s.nl_buffer off) <;>
        simp [query_ended_cons, hfor, hends, hmem, hnodup.1]
    · rw [send_netlink_reply_of_reaches s off hfor.1]
      obtain ⟨hsub', -, -, hout⟩ := query_loop_frame s.nl_buffer off s.event_client s.events
      refine ⟨by simp [hout q hmem], by simp [hout q hmem, hmem], ?_⟩
      simp only [hmem, false_and, iff_false]
      exact fun h' => hmem (hsub'.subset h')
  · obtain ⟨hevent, hmem⟩ := s.send_netlink_reply_of_not_for off q h.query hfor
    exact ⟨by rw [hevent], by simp [hevent, query_replies, hfor], by simp [hmem, query_ended_cons, hfor]⟩

/-- The messages of one datagram, in buffer order. -/
theorem CsThreadNetlink.send_netlink_replies_delivers :
    ∀ (offs : List Nat) (s : CsThreadNetlink), Tracks q s →
      Tracks q (s.send_netlink_replies offs).1 ∧ (s.send_netlink_replies offs).1.nl_buffer = s.nl_buffer ∧
        Delivers q s (offs.map fun off => (nlmsghdr_at s.nl_buffer off, reply_copy s.nl_buffer off)) []
          (s.send_netlink_replies offs).1
  | [], s, h => ⟨h, rfl, Delivers.refl s⟩
  | off :: offs, s, h => by
    obtain ⟨h₁, hd₁⟩ := s.send_netlink_reply_delivers off h
    obtain ⟨h₂, hbuf₂, hd₂⟩ := send_netlink_replies_delivers offs _ h₁
    rw [(s.send_netlink_reply_frame off).2] at hbuf₂ hd₂
    exact ⟨h₂, hbuf₂, hd₁.trans hd₂⟩

theorem CsThreadNetlink.receive_delivers (s : CsThreadNetlink) (datagram : List UInt8) (h : Tracks q s) :
    Tracks q (s.receive datagram).1 ∧ (s.receive datagram).1.nl_buffer = recv_buffer s.nl_buffer datagram ∧
      Delivers q s (messages (recv_buffer s.nl_buffer datagram) (recv_length s.nl_buffer datagram)) []
        (s.receive datagram).1 := by
  obtain ⟨h₁, hbuf, hd⟩ := send_netlink_replies_delivers _
    { s with nl_buffer := recv_buffer s.nl_buffer datagram } ⟨h.query, h.nodup, h.distinct⟩
  exact ⟨h₁, hbuf, hd.of_source rfl rfl⟩

theorem CsThreadNetlink.get_reply_delivers (s : CsThreadNetlink) (p : Nat) (h : Tracks q s) :
    Tracks q (s.step (.get_reply p)).1 ∧ (s.step (.get_reply p)).1.nl_buffer = s.nl_buffer ∧
      Delivers q s [] (popped q [(s.step (.get_reply p)).2]) (s.step (.get_reply p)).1 := by
  have hs := s.step_shrinks (.get_reply p) rfl
  refine ⟨h.of_shrinks hs, rfl, (hs.fields q).2, ?_, by simp [step]⟩
  have hnil : query_replies (s.events q).query_seq [] = [] := rfl
  by_cases hp : p = q
  · subst hp
    have hpop := (s.events p).get_reply_spec.1
    cases hreply : (s.events p).get_reply.1 <;> simp_all [step, popped]
  · cases hreply : (s.events p).get_reply.1 <;> simp [step, popped, Ne.symm hp, hp, hnil, hreply]

/-- A run of datagrams and `GetReply`s: what the client of the query at `q` takes, followed
    by what is left in the event, is what the received messages owe `q`, appended to what it
    held; and `q` is in the table at the end as long as no message ended it. -/
theorem CsThreadNetlink.run_delivers :
    ∀ (acts : List NetlinkAction) (s : CsThreadNetlink), (∀ a ∈ acts, a.is_event = false) →
      Tracks q s → Delivers q s (received s.nl_buffer acts) (popped q (s.run acts).2) (s.run acts).1
  | [], s, _, _ => Delivers.refl s
  | a :: acts, s, hacts, h => by
    have hrest := fun s' => run_delivers acts s' fun b hb => hacts b (List.mem_cons_of_mem a hb)
    cases a with
    | event => simp [NetlinkAction.is_event] at hacts
    | receive datagram =>
      obtain ⟨h₁, hbuf, hd⟩ := s.receive_delivers datagram h
      have hrun := hd.trans (hrest _ h₁)
      rw [hbuf] at hrun
      simpa [run, step, received, popped] using hrun
    | get_reply p =>
      obtain ⟨h₁, hbuf, hd⟩ := s.get_reply_delivers p h
      have hrun := hd.trans (hrest _ h₁)
      rw [hbuf] at hrun
      simpa [run, received, ← popped_cons] using hrun

end delivers

/-- The code's run for a `GET_ROUTE` query: a client's `RTM_GETROUTE` dump request goes out
    with sequence `1`, and the kernel's answer, an `RTM_NEWROUTE` entry with that sequence and
    `NLM_F_MULTI` followed by `NLMSG_DONE`, arrives in one datagram. `SendNetlinkReply` returns
    after the route-watch loop for the entry, so the client's two `GetReply` calls drain the
    `NLMSG_DONE` alone. -/
theorem CsThreadNetlink.route_reply_skips_query :
    let acts : List NetlinkAction :=
      [.event .NL_Query RTM_GETROUTE (some 5) (some 9) 1700000000 true,
        .receive [16, 0, 0, 0, 24, 0, 2, 0, 1, 0, 0, 0, 0, 0, 0, 0, 16, 0, 0, 0, 3, 0, 2, 0, 1, 0, 0, 0, 0, 0, 0, 0],
        .get_reply 0, .get_reply 0]
    let r := (CsThreadNetlink.init (List.replicate 64 0) 0).run acts
    r.2.head? = some (.request (some (dump_request RTM_GETROUTE 1 0))) ∧
      (received (List.replicate 64 0) acts).map (·.1.nlmsg_seq) = [1, 1] ∧
      (popped 0 r.2).map (fun reply => (nlmsghdr_at reply 0).nlmsg_type) = [NLMSG_DONE] ∧
      (r.1.events 0).reply = [] := by
  decide

end clearsync.netlink
