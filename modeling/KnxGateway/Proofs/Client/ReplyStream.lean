import KnxGateway.Client.Exchange
import KnxGateway.Proofs.Frame.Reply
import Mathlib.Data.List.Forall2

set_option autoImplicit false

/-! # Replies out of a stream of bytes

What a client makes of a stream depends on the bytes alone, not on the segments in which they
arrive. The bytes fall into frames from the front on: each frame is read as a reply, or it is
malformed, or the stream ends inside it. A client that reads replies up to the last one therefore
ends in one of three ways. It has all of them, and what follows the last is left in the stream; or
a frame in front of the last reply is malformed, and the client tells its fault; or the stream ends
too early. The replies that were written into the stream come out as they were written. -/

namespace KnxGateway

/-! ## Bytes of a stream -/

/-- The bytes at the front of a stream are taken, wherever its segments end. -/
theorem Segments.exists_takeBytes? {s : Segments} {bytes rest : List UInt8}
    (h : s.flatten = bytes ++ rest) :
    ∃ s' : Segments, s.takeBytes? bytes.length = some (bytes, s') ∧ s'.flatten = rest := by
  cases htake : s.takeBytes? bytes.length with
  | none =>
    rw [takeBytes?_eq_none_iff, h, List.length_append] at htake
    omega
  | some taken =>
    obtain ⟨front, s'⟩ := taken
    have hflatten := append_flatten_of_takeBytes? htake
    rw [h] at hflatten
    obtain ⟨rfl, hrest⟩ := List.append_inj hflatten (length_of_takeBytes? htake)
    exact ⟨s', rfl, hrest⟩

/-! ## The first frame of a stream -/

/-- The bytes start with a frame that is read as a reply, and `rest` follows the frame. -/
structure StartsWithReply (bytes : List UInt8) (reply : Reply) (rest : List UInt8) : Prop where
  exists_parts : ∃ front header body, bytes = front ++ (body ++ rest) ∧
    front.length = headerLength ∧ Header.decode front = .ok header ∧
    body.length = header.bodyLength.toNat ∧ Response.decode body = .ok reply.body ∧
    reply.action = header.action

/-- The bytes start with a frame that is no reply: its header is at fault, or its body is. -/
inductive StartsWithFault (bytes : List UInt8) (e : FormatError) : Prop where
  | header {front rest : List UInt8} : bytes = front ++ rest → front.length = headerLength →
      Header.decode front = .error e → StartsWithFault bytes e
  | body {front body rest : List UInt8} {header : Header} : bytes = front ++ (body ++ rest) →
      front.length = headerLength → Header.decode front = .ok header →
      body.length = header.bodyLength.toNat → Response.decode body = .error e →
      StartsWithFault bytes e

/-- The bytes end inside the first frame: in its header, or in the body that the header
    declares. A stream without bytes ends so, too. -/
inductive EndsEarly (bytes : List UInt8) : Prop where
  | header : bytes.length < headerLength → EndsEarly bytes
  | body {front rest : List UInt8} {header : Header} : bytes = front ++ rest →
      front.length = headerLength → Header.decode front = .ok header →
      rest.length < header.bodyLength.toNat → EndsEarly bytes

theorem StartsWithReply.length_lt {bytes rest : List UInt8} {reply : Reply}
    (h : StartsWithReply bytes reply rest) : rest.length < bytes.length := by
  obtain ⟨front, header, body, rfl, hfront, -⟩ := h.exists_parts
  rw [List.length_append, List.length_append, hfront, headerLength]
  omega

/-- The frame of a reply is read as that reply. -/
theorem startsWithReply_of_frame {reply : Reply} {frame : List UInt8}
    (h : reply.frame = .ok frame) (rest : List UInt8) :
    StartsWithReply (frame ++ rest) reply rest := by
  simp only [Reply.frame, Response.frame] at h
  split at h
  · next hlen =>
    cases h
    have hbody : reply.body.encode.length ≤ 255 := by
      rw [Response.length_encode]
      simp only [responseFieldsLength, maxPayloadLength] at hlen ⊢
      omega
    refine ⟨(Header.ofBody reply.action reply.body.encode).encode,
      Header.ofBody reply.action reply.body.encode, reply.body.encode, ?_, rfl, ?_, ?_,
      Response.decode_encode _, rfl⟩
    · rw [frameOf, List.append_assoc]
    · rw [← List.append_nil (Header.encode _)]
      exact Header.decode_encode_append _ _ rfl
    · simp [Header.ofBody]
      omega
  · cases h

variable {s : Segments} {bytes rest : List UInt8} {reply : Reply} {e : FormatError}

theorem exists_receiveReply (h : StartsWithReply s.flatten reply rest) :
    ∃ s' : Segments, receiveReply s = .ok (reply, s') ∧ s'.flatten = rest := by
  obtain ⟨front, header, body, hbytes, hfront, hheader, hbody, hdecode, haction⟩ := h.exists_parts
  obtain ⟨s₁, htake, hbehind⟩ := Segments.exists_takeBytes? hbytes
  obtain ⟨s₂, htake', hrest⟩ := Segments.exists_takeBytes? hbehind
  rw [hfront] at htake
  rw [hbody] at htake'
  refine ⟨s₂, ?_, hrest⟩
  simp only [receiveReply, htake, hheader, htake', hdecode, ← haction]

theorem receiveReply_of_fault (h : StartsWithFault s.flatten e) :
    receiveReply s = .error (.malformed e) := by
  cases h with
  | header hbytes hfront hheader =>
    obtain ⟨s₁, htake, -⟩ := Segments.exists_takeBytes? hbytes
    rw [hfront] at htake
    simp only [receiveReply, htake, hheader]
  | body hbytes hfront hheader hbody hdecode =>
    obtain ⟨s₁, htake, hbehind⟩ := Segments.exists_takeBytes? hbytes
    obtain ⟨s₂, htake', -⟩ := Segments.exists_takeBytes? hbehind
    rw [hfront] at htake
    rw [hbody] at htake'
    simp only [receiveReply, htake, hheader, htake', hdecode]

theorem receiveReply_of_endsEarly (h : EndsEarly s.flatten) :
    receiveReply s = .error .unfinished := by
  cases h with
  | header hshort =>
    have htake := (Segments.takeBytes?_eq_none_iff _ _).2 hshort
    simp only [receiveReply, htake]
  | body hbytes hfront hheader hshort =>
    obtain ⟨s₁, htake, hbehind⟩ := Segments.exists_takeBytes? hbytes
    rw [hfront] at htake
    rw [← hbehind] at hshort
    have htake' := (Segments.takeBytes?_eq_none_iff _ _).2 hshort
    simp only [receiveReply, htake, hheader, htake']

/-- Every stream starts in one of the three ways. -/
theorem startsWith_cases (bytes : List UInt8) :
    (∃ reply rest, StartsWithReply bytes reply rest) ∨ (∃ e, StartsWithFault bytes e) ∨
      EndsEarly bytes := by
  by_cases hheader : bytes.length < headerLength
  · exact Or.inr (Or.inr (.header hheader))
  have hfront : (bytes.take headerLength).length = headerLength :=
    List.length_take_of_le (Nat.not_lt.1 hheader)
  have hbytes : bytes = bytes.take headerLength ++ bytes.drop headerLength :=
    (List.take_append_drop _ _).symm
  cases hdecode : Header.decode (bytes.take headerLength) with
  | error e => exact Or.inr (Or.inl ⟨e, .header hbytes hfront hdecode⟩)
  | ok header =>
    by_cases hbody : (bytes.drop headerLength).length < header.bodyLength.toNat
    · exact Or.inr (Or.inr (.body hbytes hfront hdecode hbody))
    have hlength := List.length_take_of_le (Nat.not_lt.1 hbody)
    rw [← List.take_append_drop header.bodyLength.toNat (bytes.drop headerLength)] at hbytes
    cases hresponse : Response.decode ((bytes.drop headerLength).take header.bodyLength.toNat) with
    | error e => exact Or.inr (Or.inl ⟨e, .body hbytes hfront hdecode hlength hresponse⟩)
    | ok body =>
      exact Or.inl ⟨⟨header.action, body⟩, _,
        ⟨_, header, _, hbytes, hfront, hdecode, hlength, hresponse, rfl⟩⟩

/-! ## All replies -/

/-- The bytes fall into the frames of the replies, in their order, and what is behind them. -/
inductive Replies : List UInt8 → List Reply → List UInt8 → Prop where
  | nil (bytes : List UInt8) : Replies bytes [] bytes
  | cons {bytes middle rest : List UInt8} {reply : Reply} {replies : List Reply} :
      StartsWithReply bytes reply middle → Replies middle replies rest →
      Replies bytes (reply :: replies) rest

/-- No reply is marked as the last. -/
abbrev NoneLast (replies : List Reply) : Prop :=
  ∀ reply ∈ replies, reply.body.last = false

/-- The final reply is marked as the last, and it alone. -/
def LastAtEnd (replies : List Reply) : Prop :=
  ∃ front final, replies = front ++ [final] ∧ NoneLast front ∧ final.body.last = true

/-- The bytes fall into replies, none of them the last, and then into `rest`. -/
def Continues (bytes rest : List UInt8) : Prop :=
  ∃ replies, NoneLast replies ∧ Replies bytes replies rest

theorem Replies.exists_middle {bytes rest : List UInt8} {front back : List Reply}
    (h : Replies bytes (front ++ back) rest) :
    ∃ middle, Replies bytes front middle ∧ Replies middle back rest := by
  induction front generalizing bytes with
  | nil => exact ⟨bytes, .nil bytes, h⟩
  | cons reply front ih =>
    cases h with
    | cons hfirst hrest =>
      obtain ⟨middle, hfront, hback⟩ := ih hrest
      exact ⟨middle, .cons hfirst hfront, hback⟩

theorem replies_of_frames {replies : List Reply} {frames : List (List UInt8)}
    (h : List.Forall₂ (fun reply frame => reply.frame = .ok frame) replies frames)
    (t : List UInt8) : Replies (frames.flatten ++ t) replies t := by
  induction h with
  | nil => exact .nil t
  | cons hframe _ ih =>
    rw [List.flatten_cons, List.append_assoc]
    exact .cons (startsWithReply_of_frame hframe _) ih

theorem receiveAll_of_error {e : ReceiveFault} (h : receiveReply s = .error e) :
    receiveAll s = .error e := by
  rw [receiveAll]
  split <;> simp_all

theorem receiveAll_of_last {s' : Segments} (h : receiveReply s = .ok (reply, s'))
    (hlast : reply.body.last = true) : receiveAll s = .ok ([reply], s') := by
  rw [receiveAll]
  split <;> simp_all

theorem receiveAll_of_not_last {s' : Segments} (h : receiveReply s = .ok (reply, s'))
    (hlast : reply.body.last = false) :
    receiveAll s = (receiveAll s').map fun received => (reply :: received.1, received.2) := by
  rw [receiveAll]
  split
  · simp_all
  · next first =>
    rw [h] at first
    obtain ⟨rfl, rfl⟩ := Prod.mk.inj (Except.ok.inj first)
    rw [hlast]
    cases receiveAll s' <;> rfl

/-- Replies that are not the last go in front of what the bytes behind them give. -/
theorem receiveAll_of_replies {front : List Reply} (h : Replies s.flatten front rest)
    (hfront : NoneLast front) :
    ∃ s' : Segments, s'.flatten = rest ∧
      receiveAll s = (receiveAll s').map fun received => (front ++ received.1, received.2) := by
  generalize hbytes : s.flatten = bytes at h
  induction h generalizing s with
  | nil _ =>
    refine ⟨s, hbytes, ?_⟩
    cases receiveAll s <;> rfl
  | @cons _ _ _ reply front hfirst _ ih =>
    rw [← hbytes] at hfirst
    obtain ⟨s₁, hreceive, hmiddle⟩ := exists_receiveReply hfirst
    obtain ⟨s₂, hrest, hbehind⟩ := ih (fun r hr => hfront r (List.mem_cons_of_mem _ hr)) hmiddle
    refine ⟨s₂, hrest, ?_⟩
    rw [receiveAll_of_not_last hreceive (hfront reply List.mem_cons_self), hbehind]
    cases receiveAll s₂ <;> rfl

/-- Replies up to the last one are received, and what follows them stays in the stream. -/
theorem receiveAll_of_lastAtEnd {replies : List Reply} (hlast : LastAtEnd replies)
    (h : Replies s.flatten replies rest) :
    ∃ s' : Segments, receiveAll s = .ok (replies, s') ∧ s'.flatten = rest := by
  obtain ⟨front, final, rfl, hfront, hfinal⟩ := hlast
  obtain ⟨middle, hreplies, hbehind⟩ := h.exists_middle
  cases hbehind with
  | cons hfirst hnil =>
    cases hnil
    obtain ⟨s₁, rfl, hreceive⟩ := receiveAll_of_replies hreplies hfront
    obtain ⟨s₂, hreceive', hrest⟩ := exists_receiveReply hfirst
    refine ⟨s₂, ?_, hrest⟩
    rw [hreceive, receiveAll_of_last hreceive' hfinal]
    rfl

theorem receiveAll_of_continues {middle : List UInt8} {fault : ReceiveFault}
    (h : Continues s.flatten middle)
    (hfault : ∀ s' : Segments, s'.flatten = middle → receiveReply s' = .error fault) :
    receiveAll s = .error fault := by
  obtain ⟨replies, hnone, hreplies⟩ := h
  obtain ⟨s', hmiddle, hreceive⟩ := receiveAll_of_replies hreplies hnone
  rw [hreceive, receiveAll_of_error (hfault s' hmiddle)]
  rfl

/-- The replies in a stream go on up to a last one, up to a fault, or up to its early end. -/
theorem stream_cases (bytes : List UInt8) :
    (∃ replies rest, LastAtEnd replies ∧ Replies bytes replies rest) ∨
      (∃ middle e, Continues bytes middle ∧ StartsWithFault middle e) ∨
      ∃ middle, Continues bytes middle ∧ EndsEarly middle := by
  induction hlength : bytes.length using Nat.strongRecOn generalizing bytes with
  | _ n ih =>
  rcases startsWith_cases bytes with ⟨reply, rest, hfirst⟩ | ⟨e, hfault⟩ | hearly
  · cases hlast : reply.body.last with
    | true =>
      exact Or.inl ⟨[reply], rest, ⟨[], reply, rfl, List.forall_mem_nil _, hlast⟩,
        .cons hfirst (.nil rest)⟩
    | false =>
      -- The rest of the stream is shorter, and the reply goes in front of what it holds.
      have hcons : ∀ {replies : List Reply}, NoneLast replies → NoneLast (reply :: replies) := by
        intro replies hnone
        exact List.forall_mem_cons.2 ⟨hlast, hnone⟩
      have hcontinues : ∀ {middle}, Continues rest middle → Continues bytes middle := by
        rintro middle ⟨replies, hnone, hreplies⟩
        exact ⟨reply :: replies, hcons hnone, .cons hfirst hreplies⟩
      rcases ih rest.length (hlength ▸ hfirst.length_lt) rest rfl with
        ⟨replies, behind, ⟨front, final, rfl, hnone, hfinal⟩, hreplies⟩ |
        ⟨middle, e, hmiddle, hfault⟩ | ⟨middle, hmiddle, hearly⟩
      · exact Or.inl ⟨reply :: (front ++ [final]), behind,
          ⟨reply :: front, final, rfl, hcons hnone, hfinal⟩, .cons hfirst hreplies⟩
      · exact Or.inr (Or.inl ⟨middle, e, hcontinues hmiddle, hfault⟩)
      · exact Or.inr (Or.inr ⟨middle, hcontinues hmiddle, hearly⟩)
  · exact Or.inr (Or.inl ⟨bytes, e, ⟨[], List.forall_mem_nil _, .nil bytes⟩, hfault⟩)
  · exact Or.inr (Or.inr ⟨bytes, ⟨[], List.forall_mem_nil _, .nil bytes⟩, hearly⟩)

/-! ## Exchanges -/

section Exchanges

variable (address : String) (wait : Nat) (s : Segments) (ending : StreamEnd)

theorem exchange_of_lastAtEnd {replies : List Reply} (hlast : LastAtEnd replies)
    (h : Replies s.flatten replies rest) :
    exchange address wait (.answering s ending) = .ok replies := by
  obtain ⟨s', hreceive, -⟩ := receiveAll_of_lastAtEnd hlast h
  simp only [exchange, hreceive]

theorem exchange_of_fault {middle : List UInt8} (h : Continues s.flatten middle)
    (hfault : StartsWithFault middle e) :
    exchange address wait (.answering s ending) = .error (.format e) := by
  have hreceive := receiveAll_of_continues h
    fun s' hmiddle => receiveReply_of_fault (s := s') (hmiddle ▸ hfault)
  simp only [exchange, hreceive]

theorem exchange_of_endsEarly {middle : List UInt8} (h : Continues s.flatten middle)
    (hearly : EndsEarly middle) :
    exchange address wait (.answering s ending) = .error (ending.error wait) := by
  have hreceive := receiveAll_of_continues h
    fun s' hmiddle => receiveReply_of_endsEarly (s := s') (hmiddle ▸ hearly)
  simp only [exchange, hreceive]

theorem StreamEnd.error_ne_format : ending.error wait ≠ .format e := by
  cases ending <;> simp [StreamEnd.error]

/-- An exchange ends in one of three ways, and the bytes tell in which. -/
theorem exchange_cases :
    (∃ replies rest, exchange address wait (.answering s ending) = .ok replies ∧
      LastAtEnd replies ∧ Replies s.flatten replies rest) ∨
    (∃ middle e, exchange address wait (.answering s ending) = .error (.format e) ∧
      Continues s.flatten middle ∧ StartsWithFault middle e) ∨
    ∃ middle, exchange address wait (.answering s ending) = .error (ending.error wait) ∧
      Continues s.flatten middle ∧ EndsEarly middle := by
  rcases stream_cases s.flatten with ⟨replies, rest, hlast, hreplies⟩ |
    ⟨middle, e, hmiddle, hfault⟩ | ⟨middle, hmiddle, hearly⟩
  · exact Or.inl ⟨replies, rest,
      exchange_of_lastAtEnd address wait s ending hlast hreplies, hlast, hreplies⟩
  · exact Or.inr (Or.inl ⟨middle, e,
      exchange_of_fault address wait s ending hmiddle hfault, hmiddle, hfault⟩)
  · exact Or.inr (Or.inr ⟨middle,
      exchange_of_endsEarly address wait s ending hmiddle hearly, hmiddle, hearly⟩)

theorem exchange_eq_ok_iff (replies : List Reply) :
    exchange address wait (.answering s ending) = .ok replies ↔
      LastAtEnd replies ∧ ∃ rest, Replies s.flatten replies rest := by
  constructor
  · intro h
    rcases exchange_cases address wait s ending with ⟨received, rest, hok, hlast, hreplies⟩ |
      ⟨middle, e, herror, -⟩ | ⟨middle, herror, -⟩
    · cases hok.symm.trans h
      exact ⟨hlast, rest, hreplies⟩
    · cases herror.symm.trans h
    · cases herror.symm.trans h
  · rintro ⟨hlast, rest, hreplies⟩
    exact exchange_of_lastAtEnd address wait s ending hlast hreplies

theorem exchange_eq_format_iff (e : FormatError) :
    exchange address wait (.answering s ending) = .error (.format e) ↔
      ∃ middle, Continues s.flatten middle ∧ StartsWithFault middle e := by
  constructor
  · intro h
    rcases exchange_cases address wait s ending with ⟨received, rest, hok, -⟩ |
      ⟨middle, e', herror, hmiddle, hfault⟩ | ⟨middle, herror, -⟩
    · cases hok.symm.trans h
    · cases herror.symm.trans h
      exact ⟨middle, hmiddle, hfault⟩
    · exact absurd (Except.error.inj (herror.symm.trans h)) (ending.error_ne_format wait)
  · rintro ⟨middle, hmiddle, hfault⟩
    exact exchange_of_fault address wait s ending hmiddle hfault

theorem exchange_eq_ending_iff :
    exchange address wait (.answering s ending) = .error (ending.error wait) ↔
      ∃ middle, Continues s.flatten middle ∧ EndsEarly middle := by
  constructor
  · intro h
    rcases exchange_cases address wait s ending with ⟨received, rest, hok, -⟩ |
      ⟨middle, e, herror, -⟩ | ⟨middle, -, hmiddle, hearly⟩
    · cases hok.symm.trans h
    · exact absurd (Except.error.inj (h.symm.trans herror)) (ending.error_ne_format wait)
    · exact ⟨middle, hmiddle, hearly⟩
  · rintro ⟨middle, hmiddle, hearly⟩
    exact exchange_of_endsEarly address wait s ending hmiddle hearly

/-- What a client makes of the bytes of a gateway, in whatever segments they come. Replies that
    were written one after the other, of which the final one alone is marked as the last, are
    received as they were written, and the bytes behind them stay in the stream. A client that has
    replies has all of them up to the last. If it has none, the stream goes on with replies that
    are not the last up to a frame with the fault that the client tells, or it ends inside a
    frame. -/
theorem exchange_exact :
    (∀ replies frames t, LastAtEnd replies →
      List.Forall₂ (fun reply frame => Reply.frame reply = .ok frame) replies frames →
      s.flatten = frames.flatten ++ t →
      exchange address wait (.answering s ending) = .ok replies ∧
        ∃ s', receiveAll s = .ok (replies, s') ∧ s'.flatten = t) ∧
    (∀ replies, exchange address wait (.answering s ending) = .ok replies ↔
      LastAtEnd replies ∧ ∃ rest, Replies s.flatten replies rest) ∧
    (∀ e, exchange address wait (.answering s ending) = .error (.format e) ↔
      ∃ middle, Continues s.flatten middle ∧ StartsWithFault middle e) ∧
    (exchange address wait (.answering s ending) = .error (ending.error wait) ↔
      ∃ middle, Continues s.flatten middle ∧ EndsEarly middle) ∧
    ∀ error, exchange address wait (.answering s ending) = .error error →
      (∃ e, error = .format e) ∨ error = ending.error wait := by
  refine ⟨?_, exchange_eq_ok_iff address wait s ending,
    exchange_eq_format_iff address wait s ending, exchange_eq_ending_iff address wait s ending, ?_⟩
  · intro replies frames t hlast hframes hbytes
    have hreplies : Replies s.flatten replies t := hbytes ▸ replies_of_frames hframes t
    exact ⟨exchange_of_lastAtEnd address wait s ending hlast hreplies,
      receiveAll_of_lastAtEnd hlast hreplies⟩
  · intro error h
    rcases exchange_cases address wait s ending with ⟨received, rest, hok, -⟩ |
      ⟨middle, e, herror, -⟩ | ⟨middle, herror, -⟩
    · cases hok.symm.trans h
    · exact Or.inl ⟨e, Except.error.inj (h.symm.trans herror)⟩
    · exact Or.inr (Except.error.inj (h.symm.trans herror))

end Exchanges

/-- An answer in two replies, cut inside both headers, with a stray byte behind it. -/
theorem exchange_exact_two_replies :
    exchange "gateway:3671" 5000
      (.answering [[1], [2, 2, 0, 0, 1], [], [2, 3, 128, 0, 65, 255]] .closed) =
        .ok [⟨.readResponse, ⟨false, .success, []⟩⟩, ⟨.readResponse, ⟨true, .success, [65]⟩⟩] := by
  have hlast : LastAtEnd
      [⟨.readResponse, ⟨false, .success, []⟩⟩, ⟨.readResponse, ⟨true, .success, [65]⟩⟩] :=
    ⟨[⟨.readResponse, ⟨false, .success, []⟩⟩], ⟨.readResponse, ⟨true, .success, [65]⟩⟩, rfl,
      List.forall_mem_singleton.2 rfl, rfl⟩
  exact ((exchange_exact "gateway:3671" 5000
    [[1], [2, 2, 0, 0, 1], [], [2, 3, 128, 0, 65, 255]] .closed).1 _
    [[1, 2, 2, 0, 0], [1, 2, 3, 128, 0, 65]] [255] hlast
    (.cons (by decide) (.cons (by decide) .nil)) rfl).1

end KnxGateway
