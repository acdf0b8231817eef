import Clearsync.Netlink.Basic

namespace clearsync.netlink

/-- `NLMSG_OK(nh, len)`, `len` being the signed `ssize_t` left. -/
def NLMSG_OK (nh : NlMsgHdr) (len : Int) : Bool :=
  len ≥ 16 && nh.nlmsg_len ≥ 16 && (nh.nlmsg_len : Int) ≤ len

/-- The offsets of the headers the loop of `ProcessNetlinkMessage` visits, from `off`
    with `len` bytes left, for at most `fuel` iterations: `NLMSG_OK`, then `NLMSG_NEXT`
    moves `off` and `len` by `NLMSG_ALIGN(nh->nlmsg_len)`. -/
def nlmsg_walk (buf : List UInt8) : Nat → Nat → Int → List Nat
  | 0, _, _ => []
  | fuel + 1, off, len =>
    if NLMSG_OK (nlmsghdr_at buf off) len then
      off :: nlmsg_walk buf fuel (off + NLMSG_ALIGN (nlmsghdr_at buf off).nlmsg_len)
        (len - NLMSG_ALIGN (nlmsghdr_at buf off).nlmsg_len)
    else []

/-- `SendNetlinkReply`'s loop for `RTM_NEWROUTE`/`RTM_DELROUTE`: every `NL_RouteWatch`
    entry gets the reply and is dispatched to its target. -/
def route_watch_loop (buf : List UInt8) (off : Nat) :
    List Nat → (Nat → CsEventNetlink) → (Nat → CsEventNetlink) × List (Nat × Client)
  | [], events => (events, [])
  | p :: ps, events =>
    if (events p).type = .NL_RouteWatch then
      let dispatch := (p, (events p).target)
      let (events, dispatched) :=
        route_watch_loop buf off ps (Function.update events p ((events p).add_reply buf off))
      (events, dispatch :: dispatched)
    else route_watch_loop buf off ps events

/-- Whether `SendNetlinkReply` erases the query a reply `nh` answers: on `NLMSG_DONE`,
    `NLMSG_ERROR` or `NLMSG_OVERRUN`, or when `NLM_F_MULTI` is clear. -/
def reply_ends_query (nh : NlMsgHdr) : Bool :=
  nh.nlmsg_type = NLMSG_DONE || nh.nlmsg_type = NLMSG_ERROR || nh.nlmsg_type = NLMSG_OVERRUN ||
    nh.nlmsg_flags &&& NLM_F_MULTI = 0

/-- `SendNetlinkReply`'s loop over the queries: the first `NL_Query` entry with the reply's
    sequence gets it, is dispatched to its target, and is erased when the reply ends it.
    Returns the table, the events and what was dispatched. -/
def query_loop (buf : List UInt8) (off : Nat) :
    List Nat → (Nat → CsEventNetlink) → List Nat × (Nat → CsEventNetlink) × List (Nat × Client)
  | [], events => ([], events, [])
  | p :: ps, events =>
    if (events p).type = .NL_Query ∧ (events p).query_seq = (nlmsghdr_at buf off).nlmsg_seq then
      (if reply_ends_query (nlmsghdr_at buf off) then ps else p :: ps,
        Function.update events p ((events p).add_reply buf off), [(p, (events p).target)])
    else
      let (table, events, dispatched) := query_loop buf off ps events
      (p :: table, events, dispatched)

/-- `csThreadNetlink::SendNetlinkReply(nh)` for `nh = nl_buffer + off`, with the events it
    dispatches. -/
def CsThreadNetlink.send_netlink_reply (s : CsThreadNetlink) (off : Nat) :
    CsThreadNetlink × List (Nat × Client) :=
  let nh := nlmsghdr_at s.nl_buffer off
  if nh.nlmsg_type = RTM_NEWROUTE ∨ nh.nlmsg_type = RTM_DELROUTE then
    let (events, dispatched) := route_watch_loop s.nl_buffer off s.event_client s.events
    ({ s with events }, dispatched)
  else if nh.nlmsg_type = NLMSG_NOOP then (s, [])
  else
    let (event_client, events, dispatched) := query_loop s.nl_buffer off s.event_client s.events
    ({ s with event_client, events }, dispatched)

/-- `SendNetlinkReply` on each of the given headers in turn. -/
def CsThreadNetlink.send_netlink_replies (s : CsThreadNetlink) :
    List Nat → CsThreadNetlink × List (Nat × Client)
  | [] => (s, [])
  | off :: offs =>
    let (s₁, dispatched₁) := s.send_netlink_reply off
    let (s₂, dispatched₂) := s₁.send_netlink_replies offs
    (s₂, dispatched₁ ++ dispatched₂)

/-- `csThreadNetlink::ProcessNetlinkMessage(length)`. `SendNetlinkReply` never writes
    `nl_buffer`, so the headers visited are those of the walk over the received bytes;
    every iteration consumes at least 16 bytes, so `length + 1` iterations are enough. -/
def CsThreadNetlink.process_netlink_message (s : CsThreadNetlink) (length : Int) :
    CsThreadNetlink × List (Nat × Client) :=
  s.send_netlink_replies (nlmsg_walk s.nl_buffer (length.toNat + 1) 0 length)

/-- The bytes `recvmsg` in `Entry` writes into `nl_buffer`: the datagram, truncated to
    `nl_buffer_size`. -/
def recv_length (buf datagram : List UInt8) : Nat := min datagram.length buf.length

/-- `nl_buffer` after `recvmsg` of a datagram: its first `recv_length` bytes are the
    datagram's, the others keep what earlier datagrams left there. -/
def recv_buffer (buf datagram : List UInt8) : List UInt8 :=
  datagram.take (recv_length buf datagram) ++ buf.drop (recv_length buf datagram)

/-- `recvmsg` of a datagram into `nl_buffer` in `Entry`, then `ProcessNetlinkMessage` on
    the length received. -/
def CsThreadNetlink.receive (s : CsThreadNetlink) (datagram : List UInt8) :
    CsThreadNetlink × List (Nat × Client) :=
  ({ s with nl_buffer := recv_buffer s.nl_buffer datagram }).process_netlink_message
    (recv_length s.nl_buffer datagram)

/-- What the netlink service does: handle a client's `new csEventNetlink(type, query)`
    (allocated at `next`, from `source` to `target`) with the clock reading `now` and the
    outcome `sent` of `sendmsg`, receive a datagram, or serve a client's `GetReply` on the
    event at an address. -/
inductive NetlinkAction
  | event (type : NetlinkType) (query : Nat) (source target : Client) (now : Int) (sent : Bool)
  | receive (datagram : List UInt8)
  | get_reply (p : Nat)

/-- The outcome of an action: the events dispatched, the request sent, or the reply
    `GetReply` returned. -/
inductive NetlinkObs
  | dispatched (events : List (Nat × Client))
  | request (request : Option NlMsgHdr)
  | reply (p : Nat) (reply : Option (List UInt8))
deriving DecidableEq

def CsThreadNetlink.step (s : CsThreadNetlink) : NetlinkAction → CsThreadNetlink × NetlinkObs
  | .event type query source target now sent =>
    let e := CsEventNetlink.new type query source target
    let s₁ := { s with events := Function.update s.events s.next e, next := s.next + 1 }
    let (s₂, request) := s₁.process_event s.next now sent
    (s₂, .request request)
  | .receive datagram =>
    let (s₁, dispatched) := s.receive datagram
    (s₁, .dispatched dispatched)
  | .get_reply p =>
    let (reply, e) := (s.events p).get_reply
    ({ s with events := Function.update s.events p e }, .reply p reply)

def CsThreadNetlink.run (s : CsThreadNetlink) : List NetlinkAction → CsThreadNetlink × List NetlinkObs
  | [] => (s, [])
  | a :: acts =>
    let (s₁, o) := s.step a
    let (s₂, trace) := s₁.run acts
    (s₂, o :: trace)

theorem CsThreadNetlink.run_cons_fst (s : CsThreadNetlink) (a : NetlinkAction) (acts : List NetlinkAction) :
    (s.run (a :: acts)).1 = ((s.step a).1.run acts).1 := rfl

/-- `csThreadNetlink::csThreadNetlink(parent)`: empty table, `nl_seq` 0, and a freshly
    allocated receive buffer `nl_buffer` of `nl_buffer_size` bytes. -/
def CsThreadNetlink.init (nl_buffer : List UInt8) (nl_pid : Nat) : CsThreadNetlink :=
  { event_client := [], nl_seq := 0, nl_buffer, nl_pid,
    events := fun _ => CsEventNetlink.new .NL_Query 0 none none, next := 0 }

end clearsync.netlink
