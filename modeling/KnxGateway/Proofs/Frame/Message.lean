import KnxGateway.Proofs.Frame.Decoding
import KnxGateway.Proofs.Frame.Reply

set_option autoImplicit false

/-! # Messages arrive

The message of a response is cut to what a payload can hold. The cut can be found on the bytes
alone: a search goes down from the limit to the first position that no byte continues a character
at. Since at most three bytes continue a character, the search never passes the start, and it
stops where the longest prefix of whole characters ends.

So a client reads the message that was sent, or the longest prefix of it that fits, and never half
a character. Only a blank message arrives as an empty one. -/

namespace KnxGateway

open Text

namespace Text.Utf8

/-! ## Boundaries of characters -/

/-- Whether a byte continues the character of an earlier byte. -/
def isContinuation (b : UInt8) : Bool :=
  0x80 ≤ b.toNat && b.toNat < 0xC0

/-- Whether a position lies between two characters: at one of the ends, or in front of a byte that
    starts a character. -/
def isBoundary (bytes : List UInt8) (i : Nat) : Bool :=
  i == 0 || i == bytes.length || (bytes[i]?.any fun b => !isContinuation b)

/-- Searches down from a position to the first boundary. There is no answer when the search would
    pass the start. -/
def boundaryBelow? (bytes : List UInt8) : Nat → Option Nat
  | 0 => if isBoundary bytes 0 then some 0 else none
  | i + 1 => if isBoundary bytes (i + 1) then some (i + 1) else boundaryBelow? bytes i

/-- Cuts bytes to a limit by a search for a boundary. -/
def cutBytes? (limit : Nat) (bytes : List UInt8) : Option (List UInt8) :=
  if bytes.length ≤ limit then some bytes
  else (boundaryBelow? bytes limit).map fun i => bytes.take i

/-- The first byte of a character starts it, and the others continue it. -/
theorem encodeChar_eq_cons (c : Char) :
    ∃ first others, encodeChar c = first :: others ∧ isContinuation first = false ∧
      ∀ b ∈ others, isContinuation b = true := by
  have bound := codePoint_lt c
  simp only [encodeChar]
  generalize c.toNat = n at *
  split
  · refine ⟨_, _, rfl, ?_, by simp⟩
    simp [isContinuation]
    omega
  split
  · refine ⟨_, _, rfl, ?_, ?_⟩ <;> simp [isContinuation] <;> omega
  split
  · refine ⟨_, _, rfl, ?_, ?_⟩ <;> simp [isContinuation] <;> omega
  · refine ⟨_, _, rfl, ?_, ?_⟩ <;> simp [isContinuation] <;> omega

/-- A search stops at the first boundary on its way. -/
theorem boundaryBelow?_eq {bytes : List UInt8} {start i : Nat} (hle : start ≤ i)
    (hstart : isBoundary bytes start = true)
    (hbetween : ∀ j, start < j → j ≤ i → isBoundary bytes j = false) :
    boundaryBelow? bytes i = some start := by
  induction i with
  | zero =>
    obtain rfl : start = 0 := by omega
    simp [boundaryBelow?, hstart]
  | succ i ih =>
    by_cases heq : start = i + 1
    · subst heq
      simp [boundaryBelow?, hstart]
    · have hnot := hbetween (i + 1) (by omega) (by omega)
      rw [boundaryBelow?, hnot]
      exact ih (by omega) fun j hj hji => hbetween j hj (by omega)

/-! ## The cut by bytes and the cut by characters -/

/-- Of a text that is too long, the first character behind the cut does not fit any more. -/
theorem exists_behind_takeBytes {limit : Nat} {s : List Char} (h : limit < size s) :
    ∃ c rest, s = takeBytes limit s ++ c :: rest ∧
      limit < size (takeBytes limit s) + charSize c := by
  induction s generalizing limit with
  | nil => simp [size, encode] at h
  | cons c s ih =>
    rw [size_cons] at h
    by_cases hfits : charSize c ≤ limit
    · have hlong : limit - charSize c < size s := by omega
      obtain ⟨d, rest, hs, hd⟩ := ih hlong
      refine ⟨d, rest, ?_, ?_⟩
      · rw [takeBytes, if_pos hfits, List.cons_append, ← hs]
      · rw [takeBytes, if_pos hfits, size_cons]
        omega
    · refine ⟨c, s, ?_, ?_⟩
      · rw [takeBytes, if_neg hfits]
        rfl
      · rw [takeBytes, if_neg hfits]
        simp [size, encode]
        omega

/-- Where a character starts is a boundary, whatever stands in front of it. -/
theorem isBoundary_of_starts (before : List UInt8) {first : UInt8}
    (hfirst : isContinuation first = false) (after : List UInt8) :
    isBoundary (before ++ first :: after) before.length = true := by
  have hget : (before ++ first :: after)[before.length]? = some first := by simp
  simp only [isBoundary, hget, Option.any_some, hfirst, Bool.not_false, Bool.or_true]

/-- Inside a character there is no boundary. -/
theorem isBoundary_of_continues (before : List UInt8) {others : List UInt8}
    (hothers : ∀ b ∈ others, isContinuation b = true) (first : UInt8) (after : List UInt8) {j : Nat}
    (hj : before.length < j) (hend : j ≤ before.length + others.length) :
    isBoundary (before ++ first :: (others ++ after)) j = false := by
  obtain ⟨i, rfl⟩ : ∃ i, j = before.length + (i + 1) := ⟨j - before.length - 1, by omega⟩
  have hi : i < others.length := by omega
  have hget : (before ++ first :: (others ++ after))[before.length + (i + 1)]? =
      some others[i] := by
    rw [List.getElem?_append_right (Nat.le_add_right ..), Nat.add_sub_cancel_left,
      List.getElem?_cons_succ, List.getElem?_append_left hi, List.getElem?_eq_getElem hi]
  have hcontinues := hothers _ (List.getElem_mem hi)
  simp only [isBoundary, hget, Option.any_some, hcontinues]
  simp
  omega

/-- Between the end of some characters of a text and the end of the next one, there is no boundary
    but the first of these positions. -/
theorem isBoundary_encode (p : List Char) (c : Char) (rest : List Char) :
    isBoundary (encode (p ++ c :: rest)) (size p) = true ∧
      ∀ j, size p < j → j < size p + charSize c →
        isBoundary (encode (p ++ c :: rest)) j = false := by
  obtain ⟨first, others, hc, hfirst, hothers⟩ := encodeChar_eq_cons c
  have hbytes : encode (p ++ c :: rest) = encode p ++ first :: (others ++ encode rest) := by
    rw [encode_append, ← List.cons_append, ← hc]
    rfl
  have hsize : charSize c = others.length + 1 := by
    rw [charSize, hc, List.length_cons]
  rw [hbytes]
  constructor
  · exact isBoundary_of_starts (encode p) hfirst _
  · intro j hj hjc
    exact isBoundary_of_continues (encode p) hothers first _ hj (by simp only [size] at hjc; omega)

/-- On the bytes of a text the search finds an answer: the longest prefix of whole characters. -/
theorem cutBytes?_encode (limit : Nat) (s : List Char) :
    cutBytes? limit (encode s) = some (encode (takeBytes limit s)) := by
  by_cases hfits : size s ≤ limit
  · rw [takeBytes_eq_self hfits]
    exact if_pos hfits
  · obtain ⟨c, rest, hs, hc⟩ := exists_behind_takeBytes (Nat.not_le.1 hfits)
    obtain ⟨hboundary, hbetween⟩ := isBoundary_encode (takeBytes limit s) c rest
    rw [← hs] at hboundary hbetween
    have hsearch : boundaryBelow? (encode s) limit = some (size (takeBytes limit s)) :=
      boundaryBelow?_eq (size_takeBytes_le limit s) hboundary fun j hj hjl =>
        hbetween j hj (by omega)
    have hbytes : encode s = encode (takeBytes limit s) ++ encode (c :: rest) := by
      rw [← encode_append, ← hs]
    have htake : (encode s).take (size (takeBytes limit s)) = encode (takeBytes limit s) := by
      rw [hbytes]
      exact List.take_left
    have hlong : ¬(encode s).length ≤ limit := hfits
    rw [cutBytes?, if_neg hlong, hsearch, Option.map_some, htake]

end Text.Utf8

/-! ## The message of a response -/

/-- A message is shown as it was given, unless it is blank. -/
theorem Response.message_ofMessage (last : Bool) (status : Status) (message : String) :
    (ofMessage last status message).message =
      if isAllBlank message.toList then "" else message := by
  unfold ofMessage
  split
  · rfl
  · rw [Response.message, Utf8.decode_encode, String.ofList_toList]

/-- A client that gets the frame of a response with a message reads the same action, flag and
    status, and the longest prefix of the message that fits, or an empty message for a blank
    prefix. Cutting on the bytes finds the same prefix and never searches in vain, a message that
    fits and is not blank arrives whole, and no replacement character appears that was not sent. -/
theorem message_arrives (action : Action) (last : Bool) (status : Status) (message : String) :
    ∃ frame p,
      (∀ next, RequestTask.respond action (.ofMessage last status (truncateMessage message)) next =
        .send frame fun outcome => .count outcome.counter next) ∧
      Utf8.IsLongestFit 253 message.toList p ∧
      Utf8.cutBytes? 253 (Utf8.encode message.toList) = some (Utf8.encode p) ∧
      ∃ r : Response, (∀ rest, Reply.ofFrame (frame ++ rest) = .ok ⟨action, r⟩) ∧
        r.last = last ∧ r.status = status ∧
        r.message = (if isAllBlank p then "" else String.ofList p) ∧
        (Utf8.size message.toList ≤ 253 → isAllBlank message.toList = false →
          r.message = message) ∧
        (Utf8.replacement ∈ r.message.toList → Utf8.replacement ∈ message.toList) := by
  have hlength := length_payload_ofMessage_truncate last status message
  have hframe := Response.frame_of_le action hlength
  have hshown : (Response.ofMessage last status (truncateMessage message)).message =
      if isAllBlank (Utf8.takeBytes 253 message.toList) then ""
      else String.ofList (Utf8.takeBytes 253 message.toList) := by
    rw [Response.message_ofMessage, toList_truncateMessage]
    rfl
  refine ⟨frameOf action (Response.ofMessage last status (truncateMessage message)).encode,
    Utf8.takeBytes 253 message.toList, ?_, Utf8.isLongestFit_takeBytes 253 _,
    Utf8.cutBytes?_encode 253 _, .ofMessage last status (truncateMessage message), ?_,
    Response.last_ofMessage .., Response.status_ofMessage .., hshown, ?_, ?_⟩
  · intro next
    rw [RequestTask.respond, hframe]
  · intro rest
    exact Reply.ofFrame_frameOf_append action hlength rest
  · intro hfits hblank
    rw [hshown, Utf8.takeBytes_eq_self hfits, hblank]
    simp
  · intro hmem
    rw [hshown] at hmem
    split at hmem
    · simp at hmem
    · rw [String.toList_ofList] at hmem
      exact (Utf8.takeBytes_isInitial 253 message.toList).subset hmem

end KnxGateway
