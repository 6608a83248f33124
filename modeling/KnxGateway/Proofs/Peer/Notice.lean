import KnxGateway.Peer.Refusal
import KnxGateway.Proofs.Frame.Decoding
import KnxGateway.Proofs.Frame.Message
import KnxGateway.Proofs.Peer.Notation

set_option autoImplicit false

/-! # The notice to a rejected client

The notice names the address of the client and is not cut. It need not be: no address is shown with
more than 39 characters, all of them ASCII, so that the notice to any client has a frame. A client
that is rejected receives this frame and nothing else, as far as its stream takes it, and every
other client receives nothing. -/

namespace KnxGateway

open Text

/-! ## The length of addresses -/

theorem Ipv4.length_display_le (ip : Ipv4) : ip.display.length ≤ 15 := by
  have ha := Ip.length_decimal_le ip.a
  have hb := Ip.length_decimal_le ip.b
  have hc := Ip.length_decimal_le ip.c
  have hd := Ip.length_decimal_le ip.d
  simp only [display, List.length_append, List.length_cons]
  omega

namespace Ipv6

theorem length_followingGroups_le (groups : List UInt16) :
    (Ip.followingGroups groups).length ≤ 5 * groups.length := by
  induction groups with
  | nil => exact Nat.le_refl 0
  | cons group groups ih =>
    have hgroup := Ip.length_hexDigits_le group
    simp only [Ip.followingGroups, List.flatMap_cons, List.length_append, List.length_cons] at ih ⊢
    omega

/-- Each group takes at most four digits, and all but one a colon. -/
theorem length_displayGroups_le (groups : List UInt16) :
    (displayGroups groups).length ≤ 5 * groups.length - 1 := by
  cases groups with
  | nil => exact Nat.le_refl 0
  | cons group groups =>
    have hgroup := Ip.length_hexDigits_le group
    have hgroups := length_followingGroups_le groups
    rw [Ip.displayGroups_cons, List.length_append, List.length_cons]
    omega

/-- An address is longest with all of its eight groups. -/
theorem length_display_le (ip : Ipv6) : ip.display.length ≤ 39 := by
  have hgroups := ip.length_groups
  unfold display
  split
  · next v4 _ =>
    have hv4 := v4.length_display_le
    have hmark : "::ffff:".toList.length = 7 := by decide
    rw [List.length_append]
    omega
  · have hzeros := snd_longestZeros_le ip.groups
    cases hlongest : longestZeros ip.groups with
    | mk start length =>
    rw [hlongest] at hzeros
    dsimp only at hzeros ⊢
    split
    · next hlong =>
      have hroom := add_zerosFrom_le (Nat.lt_of_lt_of_le (Nat.zero_lt_of_lt hlong) hzeros)
      have hfront := length_displayGroups_le (ip.groups.take start)
      have hback := length_displayGroups_le (ip.groups.drop (start + length))
      have hcolons : "::".toList.length = 2 := by decide
      rw [List.length_take] at hfront
      rw [List.length_drop] at hback
      rw [List.length_append, List.length_append]
      omega
    · have hall := length_displayGroups_le ip.groups
      omega

end Ipv6

theorem Ip.length_display_le (ip : Ip) : ip.display.length ≤ 39 := by
  cases ip with
  | v4 ip => exact Nat.le_trans ip.length_display_le (by decide)
  | v6 ip => exact ip.length_display_le

/-! ## The message -/

/-- The message is the canonical address between two fixed texts, of which the second names the key
    that would let the client in. -/
theorem exists_rejectionMessage :
    ∃ front back : List Char,
      (∀ ip, (rejectionMessage ip).toList = front ++ ip.canonical.display ++ back) ∧
        AllowList.key.toList <:+: back ∧ (front ++ back).length = 116 ∧
        ∀ c ∈ front ++ back, c.toNat < 0x80 := by
  have hparts : ∀ front address middle key back : String,
      (front ++ address ++ middle ++ key ++ back).toList =
        front.toList ++ address.toList ++ (middle.toList ++ key.toList ++ back.toList) := by
    intro front address middle key back
    simp only [String.toList_append, List.append_assoc]
  have hascii : ∀ s : List Char, (s.all fun c => c.toNat < 0x80) = true →
      ∀ c ∈ s, c.toNat < 0x80 := by
    intro s hall c hc
    exact of_decide_eq_true (List.all_eq_true.1 hall c hc)
  refine ⟨"Your IP address '".toList, "' is not allowed. To allow it, add it to '".toList ++
    AllowList.key.toList ++ "' of the gateway configuration.".toList, fun ip => ?_,
    List.infix_append _ _ _, by decide +kernel, hascii _ (by decide +kernel)⟩
  rw [← String.toList_ofList (l := ip.canonical.display)]
  exact hparts _ _ _ _ _

theorem names_rejectionMessage (ip : Ip) :
    ip.canonical.text.toList <:+: (rejectionMessage ip).toList ∧
      AllowList.key.toList <:+: (rejectionMessage ip).toList := by
  obtain ⟨front, back, hmessage, hkey, -, -⟩ := exists_rejectionMessage
  rw [hmessage, Ip.text, String.toList_ofList]
  exact ⟨List.infix_append _ _ _, hkey.trans (List.suffix_append _ _).isInfix⟩

/-- A client with the longest address still gets the whole message. -/
theorem size_rejectionMessage_le (ip : Ip) :
    Utf8.size (rejectionMessage ip).toList ≤ maxPayloadLength := by
  obtain ⟨front, back, hmessage, -, hlength, hfixed⟩ := exists_rejectionMessage
  have hascii : ∀ c ∈ (rejectionMessage ip).toList, c.toNat < 0x80 := by
    intro c hc
    rw [hmessage, List.mem_append, List.mem_append] at hc
    rcases hc with (hfront | haddress) | hback
    · exact hfixed c (List.mem_append_left _ hfront)
    · have hbound := Ip.toNat_of_isNotation (Ip.isNotation_of_mem_display haddress)
      omega
    · exact hfixed c (List.mem_append_right _ hback)
  have haddress := ip.canonical.length_display_le
  rw [Utf8.size_of_ascii hascii, hmessage, maxPayloadLength]
  simp only [List.length_append] at hlength ⊢
  omega

theorem isAllBlank_rejectionMessage (ip : Ip) :
    isAllBlank (rejectionMessage ip).toList = false := by
  obtain ⟨c, hc⟩ := List.exists_mem_of_ne_nil _ ip.canonical.display_ne_nil
  have hvisible : isBlank c = false := Ip.isBlank_of_isNotation (Ip.isNotation_of_mem_display hc)
  have haddress := (names_rejectionMessage ip).1
  rw [Ip.text, String.toList_ofList] at haddress
  exact List.all_eq_false.2 ⟨c, haddress.subset hc, by rw [hvisible]; decide⟩

/-! ## The frame of the notice -/

/-- Bytes are one frame with nothing behind it, the last answer that its reader gets, and it tells
    a client that it may not connect, with the whole message about its address. -/
structure IsNotice (ip : Ip) (bytes : List UInt8) : Prop where
  reads : ∃ body, ReadsAs bytes .generalMessage body ∧ bytes.length = headerLength + body.length ∧
    ∃ r, Response.decode body = .ok r ∧ r.last = true ∧ r.status = .errorClientNotAuthorized ∧
      r.message = rejectionMessage ip

theorem length_payload_rejectionNotice (ip : Ip) :
    (rejectionNotice ip).payload.length ≤ maxPayloadLength := by
  have hpayload : (rejectionNotice ip).payload = Utf8.encode (rejectionMessage ip).toList := by
    rw [rejectionNotice, Response.ofMessage, isAllBlank_rejectionMessage]
    rfl
  rw [hpayload]
  exact size_rejectionMessage_le ip

/-- The notice to any client can be written, and is read whole. -/
theorem exists_notice (ip : Ip) :
    ∃ frame, (rejectionNotice ip).frame .generalMessage = .ok frame ∧ IsNotice ip frame := by
  have hpayload := length_payload_rejectionNotice ip
  have hbody : (rejectionNotice ip).encode.length ≤ 255 := by
    rw [Response.length_encode, responseFieldsLength]
    simp only [maxPayloadLength] at hpayload
    omega
  have hreads := readsAs_frameOf_append .generalMessage hbody []
  rw [List.append_nil] at hreads
  have hmessage : (rejectionNotice ip).message = rejectionMessage ip := by
    rw [rejectionNotice, Response.message_ofMessage, isAllBlank_rejectionMessage]
    rfl
  exact ⟨_, Response.frame_of_le .generalMessage hpayload, ⟨_, hreads, length_frameOf _ _, _,
    Response.decode_encode _, Response.last_ofMessage .., Response.status_ofMessage .., hmessage⟩⟩

/-! ## Refusals -/

/-- A rejected client that is to be told gets the first bytes of the notice, as far as its stream
    takes them. -/
theorem refuseOn_rejected {peer : SocketAddress} {frame : List UInt8}
    (h : (rejectionNotice peer.ip).frame .generalMessage = .ok frame) (sink : ByteSink) :
    refuseOn (.rejected peer) true sink =
      match sink.room? with
      | none => (.sent, frame)
      | some room => (if frame.length ≤ room then .sent else .failed, frame.take room) := by
  have hwritten := sink.writeAll_eq frame
  simp only [refuseOn, if_true, h]
  cases hroom : sink.room? with
  | none =>
    rw [hroom] at hwritten
    rw [hwritten]
    rfl
  | some room =>
    rw [hroom] at hwritten
    rw [hwritten]
    simp

/-- Exactly a rejected client is told, if the gateway is configured so. The notice can be written
    for every address, names the address and the key, and is the one frame that the client
    receives when its stream takes all of it. When the stream fails before, the client has received
    no more than a part of it, and the outcome tells. All others are sent nothing. -/
theorem refusal_sends_one_notice :
    (∀ ip : Ip, ip.canonical.text.toList <:+: (rejectionMessage ip).toList ∧
      AllowList.key.toList <:+: (rejectionMessage ip).toList) ∧
    (∀ peer : SocketAddress, ∃ frame,
      (rejectionNotice peer.ip).frame .generalMessage = .ok frame ∧ IsNotice peer.ip frame ∧
      (∀ sink : ByteSink, (∀ room ∈ sink.room?, frame.length ≤ room) →
        refuseOn (.rejected peer) true sink = (.sent, frame)) ∧
      (∀ sink : ByteSink, ∀ room ∈ sink.room?, room < frame.length →
        refuseOn (.rejected peer) true sink = (.failed, frame.take room)) ∧
      ∀ writable, refuse (.rejected peer) true writable =
        if writable then (.sent, frame) else (.failed, [])) ∧
    (∀ peer sink, refuseOn (.rejected peer) false sink = (.skipped, [])) ∧
    (∀ peer notify sink, refuseOn (.allowed peer) notify sink = (.skipped, [])) ∧
    ∀ notify sink, refuseOn .unresolved notify sink = (.skipped, []) := by
  refine ⟨names_rejectionMessage, fun peer => ?_, fun _ _ => rfl, fun _ _ _ => rfl,
    fun _ _ => rfl⟩
  obtain ⟨frame, hframe, hnotice⟩ := exists_notice peer.ip
  have hfails : ∀ sink : ByteSink, ∀ room ∈ sink.room?, room < frame.length →
      refuseOn (.rejected peer) true sink = (.failed, frame.take room) := by
    intro sink room hroom hshort
    simp only [refuseOn_rejected hframe, Option.mem_def.1 hroom, if_neg (Nat.not_le.2 hshort)]
  have hsends : ∀ sink : ByteSink, (∀ room ∈ sink.room?, frame.length ≤ room) →
      refuseOn (.rejected peer) true sink = (.sent, frame) := by
    intro sink htakes
    rw [refuseOn_rejected hframe]
    cases hroom : sink.room? with
    | none => rfl
    | some room =>
      have hfits : frame.length ≤ room := htakes room hroom
      simp only [if_pos hfits, List.take_of_length_le hfits]
  refine ⟨frame, hframe, hnotice, hsends, hfails, fun writable => ?_⟩
  cases writable with
  | true => exact hsends .accepting nofun
  | false =>
    obtain ⟨body, -, hlength, -⟩ := hnotice.reads
    exact hfails .broken 0 rfl (by rw [hlength, headerLength]; omega)

/-- A peer in the IPv6 shape of an IPv4 address is told the IPv4 address, in two pieces. Another
    stream fails between the pieces. -/
theorem refusal_sends_one_notice_in_pieces :
    let peer : SocketAddress := ⟨.v6 (.ofIpv4 ⟨10, 0, 0, 7⟩), 40000⟩
    ∃ frame, IsNotice peer.ip frame ∧
      refuseOn (.rejected peer) true ⟨[100, 50, 0]⟩ = (.sent, frame) ∧
      refuseOn (.rejected peer) true ⟨[100, 0]⟩ = (.failed, frame.take 100) := by
  intro peer
  obtain ⟨frame, hframe, hnotice, hsends, hfails, -⟩ := refusal_sends_one_notice.2.1 peer
  have hlength : frame.length = 129 := by
    have hcount : ((rejectionNotice peer.ip).frame .generalMessage).toOption.map List.length =
        some 129 := by decide +kernel
    rw [hframe] at hcount
    exact Option.some.inj hcount
  have hroom : ByteSink.room? ⟨[100, 50, 0]⟩ = some 150 := rfl
  refine ⟨frame, hnotice, hsends _ ?_, hfails _ 100 rfl (by omega)⟩
  rw [hroom]
  rintro _ ⟨⟩
  omega

end KnxGateway
