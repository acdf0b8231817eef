import Clearsync.Netlink.Delivery

namespace clearsync.netlink

/-- Every header the walk visits from `off` with `len` bytes left heads a message of at
    least `NLMSG_HDRLEN` bytes that ends within those bytes: `NLMSG_OK` checks it, and
    `NLMSG_NEXT` moves `off` and `len` by the same amount. -/
theorem nlmsg_walk_within (buf : List UInt8) :
    ∀ (fuel off : Nat) (len : Int), ∀ off' ∈ nlmsg_walk buf fuel off len,
      NLMSG_HDRLEN ≤ (nlmsghdr_at buf off').nlmsg_len ∧
        (off' : Int) + (nlmsghdr_at buf off').nlmsg_len ≤ off + len
  | 0, _, _ => by simp [nlmsg_walk]
  | fuel + 1, off, len => by
    unfold nlmsg_walk
    split
    · next hok =>
      simp only [NLMSG_OK, Bool.and_eq_true, decide_eq_true_eq] at hok
      intro off' hoff'
      rcases List.mem_cons.mp hoff' with rfl | hrest
      · exact ⟨hok.1.2, by omega⟩
      · have hnext := nlmsg_walk_within buf fuel _ _ off' hrest
        push_cast at hnext
        exact ⟨hnext.1, by omega⟩
    · simp

/-- An aligned length is at least the length, short of the `__u32` wrap. -/
private theorem le_NLMSG_ALIGN (len : Nat) (hlen : len + 3 < 2 ^ 32) : len ≤ NLMSG_ALIGN len := by
  unfold NLMSG_ALIGN
  rw [Nat.mod_eq_of_lt hlen]
  omega

theorem nlmsg_walk_length_le (buf : List UInt8) :
    ∀ (fuel off : Nat) (len : Int), (nlmsg_walk buf fuel off len).length ≤ fuel
  | 0, _, _ => le_rfl
  | fuel + 1, off, len => by
    unfold nlmsg_walk
    split
    · exact Nat.succ_le_succ (nlmsg_walk_length_le buf fuel _ _)
    · exact Nat.zero_le _

/-- `NLMSG_NEXT` never moves back. -/
theorem nlmsg_walk_ge (buf : List UInt8) :
    ∀ (fuel off : Nat) (len : Int), ∀ off' ∈ nlmsg_walk buf fuel off len, off ≤ off'
  | 0, _, _ => by simp [nlmsg_walk]
  | fuel + 1, off, len => by
    unfold nlmsg_walk
    split
    · intro off' hoff'
      rcases List.mem_cons.mp hoff' with rfl | hrest
      · exact le_rfl
      · exact Nat.le_of_add_right_le (nlmsg_walk_ge buf fuel _ _ off' hrest)
    · simp

/-- Short of the `__u32` wrap, each header the walk visits lies past the one before. -/
theorem nlmsg_walk_sorted (buf : List UInt8) :
    ∀ (fuel off : Nat) (len : Int), len + 3 < 2 ^ 32 →
      (nlmsg_walk buf fuel off len).Pairwise (· < ·)
  | 0, _, _, _ => List.Pairwise.nil
  | fuel + 1, off, len, hlen => by
    unfold nlmsg_walk
    split
    · next hok =>
      simp only [NLMSG_OK, Bool.and_eq_true, decide_eq_true_eq] at hok
      have halign := le_NLMSG_ALIGN (nlmsghdr_at buf off).nlmsg_len (by omega)
      refine List.pairwise_cons.mpr ⟨fun off' hoff' => ?_, nlmsg_walk_sorted buf fuel _ _ (by omega)⟩
      have := nlmsg_walk_ge buf fuel _ _ off' hoff'
      omega
    · exact List.Pairwise.nil

/-- `NLMSG_OK` asks for `len ≥ 16` and `NLMSG_NEXT` takes at least `NLMSG_HDRLEN` bytes off
    `len`, so the walk stops by itself within `len / 16` iterations: more fuel gives the same
    walk. -/
theorem nlmsg_walk_stable (buf : List UInt8) :
    ∀ (fuel extra off : Nat) (len : Int), len + 3 < 2 ^ 32 → len < 16 * (fuel + 1) →
      nlmsg_walk buf (fuel + extra) off len = nlmsg_walk buf fuel off len
  | 0, 0, _, _, _, _ => rfl
  | 0, extra + 1, off, len, _, hfuel => by
    rw [Nat.zero_add]
    unfold nlmsg_walk
    rw [if_neg (by simp [NLMSG_OK]; omega)]
  | fuel + 1, extra, off, len, hlen, hfuel => by
    rw [Nat.add_right_comm]
    unfold nlmsg_walk
    split
    · next hok =>
      simp only [NLMSG_OK, Bool.and_eq_true, decide_eq_true_eq] at hok
      have halign := le_NLMSG_ALIGN (nlmsghdr_at buf off).nlmsg_len (by omega)
      rw [nlmsg_walk_stable buf fuel extra _ _ (by omega) (by omega)]
    · rfl

/-- On every length `L` short of the 4 GiB at which `NLMSG_ALIGN` wraps (every length
    `recvmsg` returns into the page-sized `nl_buffer`), whatever the bytes, the loop of
    `ProcessNetlinkMessage` stops by itself within `L / 16` iterations, and `SendNetlinkReply`
    is called on the headers it visits. They lie at strictly increasing offsets, each heading a
    message of at least `NLMSG_HDRLEN` bytes that ends within the `L` bytes received. -/
theorem CsThreadNetlink.process_netlink_message_walk_bounded (s : CsThreadNetlink) (L : Nat)
    (hL : L + 3 < 2 ^ 32) :
    let walk : List Nat := nlmsg_walk s.nl_buffer (L / 16) 0 L
    (∀ fuel, L / 16 ≤ fuel → nlmsg_walk s.nl_buffer fuel 0 L = walk) ∧
      s.process_netlink_message L = s.send_netlink_replies walk ∧
      walk.length ≤ L / 16 ∧ walk.Pairwise (· < ·) ∧
      ∀ off ∈ walk, NLMSG_HDRLEN ≤ (nlmsghdr_at s.nl_buffer off).nlmsg_len ∧
        off + (nlmsghdr_at s.nl_buffer off).nlmsg_len ≤ L := by
  intro walk
  have hstable : ∀ fuel, L / 16 ≤ fuel → nlmsg_walk s.nl_buffer fuel 0 L = walk := by
    intro fuel hfuel
    obtain ⟨extra, rfl⟩ := Nat.exists_eq_add_of_le hfuel
    exact nlmsg_walk_stable s.nl_buffer _ extra 0 L (by omega) (by omega)
  refine ⟨hstable, ?_, nlmsg_walk_length_le .., nlmsg_walk_sorted _ _ _ _ (by omega),
    fun off hoff => ?_⟩
  · rw [process_netlink_message, Int.toNat_natCast, hstable (L + 1) (by omega)]
  · have hwithin := nlmsg_walk_within s.nl_buffer _ 0 L off hoff
    omega

/-- Two 16-byte `NLMSG_NOOP` messages in a 32-byte datagram. -/
theorem CsThreadNetlink.process_netlink_message_walk_bounded_two_noops :
    let s : CsThreadNetlink := CsThreadNetlink.init
      [16, 0, 0, 0, 1, 0, 0, 0, 0, 0, 0, 0, 0, 0, 0, 0, 16, 0, 0, 0, 1, 0, 0, 0, 0, 0, 0, 0, 0, 0, 0, 0] 0
    32 + 3 < 2 ^ 32 ∧
      (let walk : List Nat := nlmsg_walk s.nl_buffer (32 / 16) 0 32;
        (∀ fuel, 32 / 16 ≤ fuel → nlmsg_walk s.nl_buffer fuel 0 32 = walk) ∧
          s.process_netlink_message 32 = s.send_netlink_replies walk ∧
          walk.length ≤ 32 / 16 ∧ walk.Pairwise (· < ·) ∧
          ∀ off ∈ walk, NLMSG_HDRLEN ≤ (nlmsghdr_at s.nl_buffer off).nlmsg_len ∧
            off + (nlmsghdr_at s.nl_buffer off).nlmsg_len ≤ 32) :=
  ⟨by decide, CsThreadNetlink.process_netlink_message_walk_bounded _ 32 (by decide)⟩

example : nlmsg_walk [16, 0, 0, 0, 1, 0, 0, 0, 0, 0, 0, 0, 0, 0, 0, 0,
    16, 0, 0, 0, 1, 0, 0, 0, 0, 0, 0, 0, 0, 0, 0, 0] 2 0 32 = [0, 16] := by decide

/-- Why the bound on `L`: at `2^32 - 3` bytes a header with that `nlmsg_len` passes
    `NLMSG_OK`, `NLMSG_ALIGN` of it wraps to `0`, and the loop visits it forever. -/
theorem nlmsg_walk_wraps (buf : List UInt8) (hlen : u32_at buf 0 = 2 ^ 32 - 3) :
    ∀ fuel, nlmsg_walk buf fuel 0 (2 ^ 32 - 3) = List.replicate fuel 0
  | 0 => rfl
  | fuel + 1 => by
    have halign : NLMSG_ALIGN (nlmsghdr_at buf 0).nlmsg_len = 0 := by
      simp only [nlmsghdr_at, hlen, NLMSG_ALIGN]
      rfl
    unfold nlmsg_walk
    rw [if_pos (by simp [NLMSG_OK, nlmsghdr_at, hlen]), halign]
    simp only [Nat.add_zero, Int.natCast_zero, Int.sub_zero, nlmsg_walk_wraps buf hlen fuel]
    rfl

/-- A `GET_LINK` query with sequence `1`, and a page-sized buffer receiving a 16-byte
    datagram that holds its `NLMSG_DONE`: the reply stored is 32 bytes, the message and the
    16 stale bytes after it. -/
theorem CsThreadNetlink.done_reply_copies_past_datagram :
    let s : CsThreadNetlink :=
      { event_client := [0], nl_seq := 1, nl_pid := 0, next := 1,
        nl_buffer := List.replicate 4096 0,
        events := fun _ => { type := .NL_Query, query := RTM_GETLINK, query_seq := 1,
                             source := some 9, target := some 5, reply := [] } }
    let done : List UInt8 := [16, 0, 0, 0, 3, 0, 0, 0, 1, 0, 0, 0, 0, 0, 0, 0]
    (nlmsghdr_at done 0).nlmsg_len = 16 ∧ (s.receive done).1.event_client = [] ∧
      ((s.receive done).1.events 0).reply = [done ++ List.replicate 16 0] := by
  intro s done
  have hlen : recv_length s.nl_buffer done = 16 := by
    show min 16 (List.replicate 4096 0).length = 16
    rw [List.length_replicate]
    rfl
  have hbuf : recv_buffer s.nl_buffer done = done ++ List.replicate 4080 0 := by
    rw [recv_buffer, hlen]
    show done.take 16 ++ (List.replicate 4096 0).drop 16 = _
    rw [List.drop_replicate]
    rfl
  unfold CsThreadNetlink.receive
  rw [hbuf, hlen]
  decide

end clearsync.netlink
