import Mathlib.Logic.Function.Basic
import Mathlib.Data.List.Basic
import Mathlib.Algebra.Group.Nat.Basic
import Mathlib.Algebra.Group.Int
import Clearsync.Client

namespace clearsync.netlink

def NLMSG_NOOP : Nat := 0x1
def NLMSG_ERROR : Nat := 0x2
def NLMSG_DONE : Nat := 0x3
def NLMSG_OVERRUN : Nat := 0x4

def NLM_F_REQUEST : Nat := 0x01
def NLM_F_MULTI : Nat := 0x02
def NLM_F_DUMP : Nat := 0x300

def RTM_GETLINK : Nat := 18
def RTM_GETADDR : Nat := 22
def RTM_NEWROUTE : Nat := 24
def RTM_DELROUTE : Nat := 25
def RTM_GETROUTE : Nat := 26
def RTM_GETNEIGH : Nat := 30
def RTM_GETRULE : Nat := 34
def RTM_GETQDISC : Nat := 38
def RTM_GETTCLASS : Nat := 42
def RTM_GETTFILTER : Nat := 46

/-- `NLMSG_HDRLEN`, `sizeof(struct nlmsghdr)` aligned. -/
def NLMSG_HDRLEN : Nat := 16

/-- `NLMSG_ALIGN(len)`: `(len + 3) & ~3` on a `__u32`. -/
def NLMSG_ALIGN (len : Nat) : Nat := (len + 3) % 2 ^ 32 / 4 * 4

/-- `NLMSG_LENGTH(len)`: `len + NLMSG_HDRLEN` on a `__u32`. -/
def NLMSG_LENGTH (len : Nat) : Nat := (len + NLMSG_HDRLEN) % 2 ^ 32

/-- `struct nlmsghdr`. -/
structure NlMsgHdr where
  nlmsg_len : Nat
  nlmsg_type : Nat
  nlmsg_flags : Nat
  nlmsg_seq : Nat
  nlmsg_pid : Nat
deriving DecidableEq, Repr

/-- The `__u16` at `off` in host (little-endian) order. -/
def u16_at (buf : List UInt8) (off : Nat) : Nat :=
  (buf.getD off 0).toNat + 0x100 * (buf.getD (off + 1) 0).toNat

/-- The `__u32` at `off` in host (little-endian) order. -/
def u32_at (buf : List UInt8) (off : Nat) : Nat :=
  u16_at buf off + 0x10000 * u16_at buf (off + 2)

/-- The `struct nlmsghdr` a pointer to `buf + off` reads. -/
def nlmsghdr_at (buf : List UInt8) (off : Nat) : NlMsgHdr :=
  { nlmsg_len := u32_at buf off, nlmsg_type := u16_at buf (off + 4),
    nlmsg_flags := u16_at buf (off + 6), nlmsg_seq := u32_at buf (off + 8),
    nlmsg_pid := u32_at buf (off + 12) }

/-- `csEventNetlink::Type`. -/
inductive NetlinkType
  | NL_Query
  | NL_RouteWatch
deriving DecidableEq, Repr

/-- A `csEventNetlink`: the source and target clients of its `csEvent`, and the replies
    `AddReply` stored in it. -/
structure CsEventNetlink where
  type : NetlinkType
  query : Nat
  query_seq : Nat
  source : Client
  target : Client
  reply : List (List UInt8)
deriving DecidableEq, Repr

/-- `csEventNetlink::csEventNetlink(type, query)`, with the clients its dispatch sets. -/
def CsEventNetlink.new (type : NetlinkType) (query : Nat) (source target : Client) :
    CsEventNetlink :=
  { type, query, query_seq := 0, source, target, reply := [] }

/-- The bytes `AddReply(nh)` copies for `nh = buf + off`: `NLMSG_LENGTH(nh->nlmsg_len)`
    from `nh`. -/
def reply_copy (buf : List UInt8) (off : Nat) : List UInt8 :=
  (buf.drop off).take (NLMSG_LENGTH (nlmsghdr_at buf off).nlmsg_len)

/-- `csEventNetlink::AddReply(nh)` for `nh = buf + off`. -/
def CsEventNetlink.add_reply (e : CsEventNetlink) (buf : List UInt8) (off : Nat) :
    CsEventNetlink :=
  { e with reply := e.reply ++ [reply_copy buf off] }

/-- `csEventNetlink::GetReply()`: the oldest stored reply, removed, or `NULL`. -/
def CsEventNetlink.get_reply (e : CsEventNetlink) : Option (List UInt8) × CsEventNetlink :=
  match e.reply with
  | [] => (none, e)
  | r :: rest => (some r, { e with reply := rest })

/-- `csThreadNetlink`: the in-flight table `event_client` of `csEventNetlink *`, the
    sequence counter `nl_seq`, the receive buffer `nl_buffer` of `nl_buffer_size` bytes and
    the socket's `nl_pid`; `events` are the `csEventNetlink` objects, by address, and
    `next` the address the next one is allocated at. -/
structure CsThreadNetlink where
  event_client : List Nat
  nl_seq : Nat
  nl_buffer : List UInt8
  nl_pid : Nat
  events : Nat → CsEventNetlink
  next : Nat

/-- The query kinds `SendNetlinkQuery`'s `switch` accepts. -/
def query_accepted (query : Nat) : Bool :=
  query ∈ [RTM_GETLINK, RTM_GETADDR, RTM_GETROUTE, RTM_GETNEIGH, RTM_GETRULE, RTM_GETQDISC,
    RTM_GETTCLASS, RTM_GETTFILTER]

/-- The dump request `SendNetlinkQuery` builds, `nl_req_t.hdr`. -/
def dump_request (query seq pid : Nat) : NlMsgHdr :=
  { nlmsg_len := NLMSG_LENGTH 1, nlmsg_type := query, nlmsg_flags := NLM_F_REQUEST ||| NLM_F_DUMP,
    nlmsg_seq := seq, nlmsg_pid := pid }

/-- The sequence `SendNetlinkQuery` takes, `time(NULL)` being `now`:
    `if (++nl_seq >= time(NULL) - 3600 * 24) nl_seq = 1`, on the `uint32_t` counter. -/
def next_nl_seq (nl_seq : Nat) (now : Int) : Nat :=
  let incremented : Nat := (nl_seq + 1) % 2 ^ 32
  if (incremented : Int) ≥ now - 3600 * 24 then 1 else incremented

/-- `csThreadNetlink::SendNetlinkQuery(event)` for the event at `p`, `time(NULL)` being
    `now` and `sent` whether `sendmsg` succeeds: the request sent, if any. An invalid
    query kind returns at once; otherwise the event takes the next sequence, whether
    `sendmsg` then fails or not. -/
def CsThreadNetlink.send_netlink_query (s : CsThreadNetlink) (p : Nat) (now : Int)
    (sent : Bool) : CsThreadNetlink × Option NlMsgHdr :=
  let e := s.events p
  if query_accepted e.query then
    let nl_seq := next_nl_seq s.nl_seq now
    ({ s with nl_seq, events := Function.update s.events p { e with query_seq := nl_seq } },
      if sent then some (dump_request e.query nl_seq s.nl_pid) else none)
  else (s, none)

/-- `csThreadNetlink::ProcessEvent(event)` for the event at `p`: a query is sent, then
    source and target are swapped and the event is appended to `event_client`. -/
def CsThreadNetlink.process_event (s : CsThreadNetlink) (p : Nat) (now : Int) (sent : Bool) :
    CsThreadNetlink × Option NlMsgHdr :=
  let (s, request) :=
    match (s.events p).type with
    | .NL_Query => s.send_netlink_query p now sent
    | .NL_RouteWatch => (s, none)
  let e := s.events p
  ({ s with
      events := Function.update s.events p { e with source := e.target, target := e.source }
      event_client := s.event_client ++ [p] }, request)

end clearsync.netlink
