import Clearsync.Netlink.Message

namespace clearsync.netlink

section request

variable (s : CsThreadNetlink) (p : Nat) (now : Int) (sent : Bool)

theorem CsThreadNetlink.send_netlink_query_of_accepted (haccepted : query_accepted (s.events p).query) :
    s.send_netlink_query p now sent =
      ({ s with
          nl_seq := next_nl_seq s.nl_seq now
          events := Function.update s.events p { s.events p with query_seq := next_nl_seq s.nl_seq now } },
        if sent then some (dump_request (s.events p).query (next_nl_seq s.nl_seq now) s.nl_pid) else none) := by
  simp only [send_netlink_query, haccepted, if_true]

theorem CsThreadNetlink.send_netlink_query_of_rejected (hrejected : query_accepted (s.events p).query = false) :
    s.send_netlink_query p now sent = (s, none) := by
  simp only [send_netlink_query, hrejected]
  rfl

/-- An event `SendNetlinkQuery` gives a sequence: a query of an accepted kind. -/
def takes_seq (e : CsEventNetlink) : Prop := e.type = .NL_Query ∧ query_accepted e.query

instance (e : CsEventNetlink) : Decidable (takes_seq e) := inferInstanceAs (Decidable (_ ∧ _))

/-- `ProcessEvent` on the event at `p`: it is appended to the table with source and target
    swapped; an accepted query takes the next sequence, which becomes the counter; nothing
    else changes. -/
theorem CsThreadNetlink.process_event_spec :
    (s.process_event p now sent).1.event_client = s.event_client ++ [p] ∧
      (s.process_event p now sent).1.nl_buffer = s.nl_buffer ∧
      (s.process_event p now sent).1.next = s.next ∧
      (s.process_event p now sent).1.nl_seq =
        (if takes_seq (s.events p) then next_nl_seq s.nl_seq now else s.nl_seq) ∧
      (∀ x ≠ p, (s.process_event p now sent).1.events x = s.events x) ∧
      (s.process_event p now sent).1.events p =
        { s.events p with
            query_seq := if takes_seq (s.events p) then next_nl_seq s.nl_seq now else (s.events p).query_seq
            source := (s.events p).target, target := (s.events p).source } := by
  have hother (e : CsEventNetlink) : ∀ x ≠ p, Function.update s.events p e x = s.events x :=
    fun x hx => Function.update_noteq hx _ _
  unfold process_event
  cases htype : (s.events p).type with
  | NL_RouteWatch => simpa [takes_seq, htype] using hother _
  | NL_Query =>
    by_cases haccepted : query_accepted (s.events p).query
    · simpa [send_netlink_query_of_accepted s p now sent haccepted, takes_seq, htype, haccepted]
        using hother _
    · simpa [send_netlink_query_of_rejected s p now sent (by simpa using haccepted), takes_seq, htype,
        haccepted] using hother _

/-- A client's new `csEventNetlink(type, query)` from `source` to `target`: allocated at
    `next`, then handed to `ProcessEvent`. -/
theorem CsThreadNetlink.step_event_spec (type : NetlinkType) (query : Nat) (source target : Client) :
    (s.step (.event type query source target now sent)).1.event_client = s.event_client ++ [s.next] ∧
      (s.step (.event type query source target now sent)).1.nl_buffer = s.nl_buffer ∧
      (s.step (.event type query source target now sent)).1.next = s.next + 1 ∧
      (s.step (.event type query source target now sent)).1.nl_seq =
        (if type = .NL_Query ∧ query_accepted query then next_nl_seq s.nl_seq now else s.nl_seq) ∧
      (∀ x ≠ s.next, (s.step (.event type query source target now sent)).1.events x = s.events x) ∧
      (s.step (.event type query source target now sent)).1.events s.next =
        { type, query, source := target, target := source, reply := [],
          query_seq := if type = .NL_Query ∧ query_accepted query then next_nl_seq s.nl_seq now else 0 } := by
  obtain ⟨htable, hbuf, hnext, hseq, hother, hevent⟩ := CsThreadNetlink.process_event_spec
    { s with events := Function.update s.events s.next (CsEventNetlink.new type query source target),
             next := s.next + 1 } s.next now sent
  have htakes : takes_seq (CsEventNetlink.new type query source target) ↔
      type = .NL_Query ∧ query_accepted query := Iff.rfl
  simp only [Function.update_same, htakes] at hseq hevent
  refine ⟨htable, hbuf, hnext, hseq, fun x hx => (hother x hx).trans (Function.update_noteq hx _ _), ?_⟩
  rw [show (s.step (.event type query source target now sent)).1.events s.next = _ from hevent]
  split <;> rfl

end request

end clearsync.netlink
