import KnxGateway.Proofs.Dispatch.Replies
import Mathlib.Tactic.SplitIfs

set_option autoImplicit false

/-! # Which packets are accepted

A packet is looked at in three layers: its header, the body that the header declares, and the
fields of the request in that body. The faults of all layers stand in one table here, in the order
in which they are looked for, and a packet on an open connection is refused for the first of them
that it has. A packet without a fault starts with the frame of a request, and only that frame is
read.

A refused packet leaves the bus, the connections and the jobs of the dispatcher as they were, and
so does a packet of a closed connection. -/

namespace KnxGateway

/-! ## The table of faults -/

/-- The faults that a packet can have, each behind its condition, in the order in which they are
    looked for. The first three bytes are the version, the code of the action and the length of
    the body. -/
def faultTable (p : List UInt8) : List (Bool × FormatError) :=
  let version := p.getD 0 0
  let action := p.getD 1 0
  let declared := (p.getD 2 0).toNat
  [(p.length < 3, .tooShort .header 3 p.length),
    (version != 1, .unsupportedVersion version),
    (4 < action, .unknownAction action),
    (p.length - 3 < declared, .truncated declared (p.length - 3)),
    (action == 2, .unexpectedAction .readResponse),
    (action == 3, .unexpectedAction .writeResponse),
    (action == 4, .unexpectedAction .generalMessage),
    (action == 0 && declared < 6, .tooShort .readRequestBody 6 declared),
    (action == 1 && declared < 6, .tooShort .writeRequestBody 6 declared)]

/-- The first fault of a packet, if it has any. -/
def firstFault? (p : List UInt8) : Option FormatError :=
  (faultTable p).lookup true

/-- The first fault is the one behind the first condition that holds. -/
theorem lookup_true_cons {α : Type} (condition : Bool) (a : α) (rest : List (Bool × α)) :
    List.lookup true ((condition, a) :: rest) =
      if condition then some a else rest.lookup true := by
  cases condition <;> rfl

/-! ## One layer at a time -/

/-- The codes up to 4 are those of the actions. -/
theorem Action.exists_code_eq {code : UInt8} (h : ¬4 < code) :
    ∃ action : Action, action.code = code := by
  have hknown : ofCode? code ≠ none := fun hnone => h ((ofCode?_eq_none_iff code).1 hnone)
  obtain ⟨action, haction⟩ := Option.ne_none_iff_exists'.1 hknown
  exact ⟨action, by simpa using List.find?_some haction⟩

section Layers

variable (registry : Registry) {version code declared : UInt8} {rest : List UInt8}

theorem receive_of_length_lt {p : List UInt8} (hnonempty : p ≠ []) (h : p.length < 3) :
    receive registry true p = .error (.tooShort .header 3 p.length) := by
  match p, hnonempty, h with
  | [_], _, _ | [_, _], _, _ => rfl

theorem receive_of_version (h : version ≠ 1) :
    receive registry true (version :: code :: declared :: rest) =
      .error (.unsupportedVersion version) := by
  have hheader : Header.decode (version :: code :: declared :: rest) =
      .error (.unsupportedVersion version) := if_neg h
  simp only [receive, List.isEmpty_cons, hheader]
  rfl

theorem receive_of_action (h : 4 < code) :
    receive registry true (1 :: code :: declared :: rest) = .error (.unknownAction code) := by
  have hheader : Header.decode (1 :: code :: declared :: rest) = .error (.unknownAction code) := by
    have hunknown : Action.ofCode? code = none := (Action.ofCode?_eq_none_iff code).2 h
    simp [Header.decode, frameVersion, hunknown]
  simp only [receive, List.isEmpty_cons, hheader]
  rfl

/-- Fewer bytes follow the header than it declares. -/
theorem receive_of_truncated (action : Action) (h : rest.length < declared.toNat) :
    receive registry true (1 :: action.code :: declared :: rest) =
      .error (.truncated declared.toNat rest.length) := by
  have hheader : Header.decode (1 :: action.code :: declared :: rest) =
      .ok ⟨1, action, declared⟩ :=
    Header.decode_encode_append ⟨1, action, declared⟩ rest rfl
  have hbody : Header.bodyOf ⟨1, action, declared⟩ (1 :: action.code :: declared :: rest) =
      .error (.truncated declared.toNat rest.length) := if_neg (Nat.not_le.2 h)
  simp only [receive, List.isEmpty_cons, hheader, bind, Except.bind, hbody]
  rfl

/-- A packet that holds the body it declares starts with a frame. -/
theorem cons_eq_frameOf_append (action : Action) (h : declared.toNat ≤ rest.length) :
    1 :: action.code :: declared :: rest =
      frameOf action (rest.take declared.toNat) ++ rest.drop declared.toNat := by
  have hlen : (rest.take declared.toNat).length = declared.toNat := List.length_take_of_le h
  simp only [frameOf, Header.encode, Header.ofBody, hlen, UInt8.ofNat_toNat, frameVersion,
    List.cons_append, List.nil_append, List.take_append_drop]

/-- Clients may not send frames of this action. -/
theorem receive_of_response (action : Action) (haction : action.isRequest = false)
    (h : declared.toNat ≤ rest.length) :
    receive registry true (1 :: action.code :: declared :: rest) =
      .error (.unexpectedAction action) := by
  have hlen : (rest.take declared.toNat).length ≤ 255 := by
    have := declared.toNat_lt
    rw [List.length_take]
    omega
  rw [cons_eq_frameOf_append action h, receive_frameOf_append registry action hlen]
  cases action with
  | readRequest | writeRequest => cases haction
  | readResponse | writeResponse | generalMessage => rfl

theorem readRequestFields_of_lt (part : FramePart) {body : List UInt8} (h : body.length < 6) :
    readRequestFields part registry body = .error (.tooShort part 6 body.length) := by
  match body, h with
  | [], _ | [_], _ | [_, _], _ | [_, _, _], _ | [_, _, _, _], _ | [_, _, _, _, _], _ => rfl

/-- The declared body of a read has no room for the fields of a request. -/
theorem receive_of_short_read (h : declared.toNat ≤ rest.length) (hshort : declared.toNat < 6) :
    receive registry true (1 :: Action.readRequest.code :: declared :: rest) =
      .error (.tooShort .readRequestBody 6 declared.toNat) := by
  have hlen : (rest.take declared.toNat).length = declared.toNat := List.length_take_of_le h
  rw [cons_eq_frameOf_append .readRequest h,
    receive_frameOf_append registry .readRequest (by omega)]
  simp only [ReadRequest.decode, readRequestFields_of_lt registry _ (hlen ▸ hshort), hlen]
  rfl

/-- The declared body of a write has no room for the fields of a request. -/
theorem receive_of_short_write (h : declared.toNat ≤ rest.length) (hshort : declared.toNat < 6) :
    receive registry true (1 :: Action.writeRequest.code :: declared :: rest) =
      .error (.tooShort .writeRequestBody 6 declared.toNat) := by
  have hlen : (rest.take declared.toNat).length = declared.toNat := List.length_take_of_le h
  rw [cons_eq_frameOf_append .writeRequest h,
    receive_frameOf_append registry .writeRequest (by omega)]
  simp only [WriteRequest.decode, readRequestFields_of_lt registry _ (hlen ▸ hshort), hlen]
  rfl

end Layers

/-! ## The layers together -/

theorem firstFault?_of_length_lt {p : List UInt8} (h : p.length < 3) :
    firstFault? p = some (.tooShort .header 3 p.length) := by
  simp [firstFault?, faultTable, h]

theorem firstFault?_cons (version code declared : UInt8) (rest : List UInt8) :
    firstFault? (version :: code :: declared :: rest) =
      if version ≠ 1 then some (.unsupportedVersion version)
      else if 4 < code then some (.unknownAction code)
      else if rest.length < declared.toNat then some (.truncated declared.toNat rest.length)
      else if code = 2 then some (.unexpectedAction .readResponse)
      else if code = 3 then some (.unexpectedAction .writeResponse)
      else if code = 4 then some (.unexpectedAction .generalMessage)
      else if code = 0 ∧ declared.toNat < 6 then
        some (.tooShort .readRequestBody 6 declared.toNat)
      else if code = 1 ∧ declared.toNat < 6 then
        some (.tooShort .writeRequestBody 6 declared.toNat)
      else none := by
  have hlong : ¬rest.length + 1 + 1 + 1 < 3 := by omega
  have hbehind : rest.length + 1 + 1 + 1 - 3 = rest.length := by omega
  simp only [firstFault?, faultTable, lookup_true_cons, List.length_cons, List.getD_cons_zero,
    List.getD_cons_succ, hlong, hbehind, decide_eq_true_eq, bne_iff_ne, beq_iff_eq,
    Bool.and_eq_true, if_false]
  rfl

/-- A packet on an open connection is refused for its first fault. -/
theorem receive_of_firstFault? (registry : Registry) {p : List UInt8} (hnonempty : p ≠ [])
    {e : FormatError} (h : firstFault? p = some e) : receive registry true p = .error e := by
  rcases Nat.lt_or_ge p.length 3 with hshort | hlong
  · rw [firstFault?_of_length_lt hshort] at h
    cases h
    exact receive_of_length_lt registry hnonempty hshort
  match p, hlong with
  | version :: code :: declared :: rest, _ =>
    rw [firstFault?_cons] at h
    split_ifs at h with hversion hcode hbehind h2 h3 h4 h0 h1 <;> cases h
    · exact receive_of_version registry hversion
    all_goals obtain rfl := Decidable.not_not.1 hversion
    · exact receive_of_action registry hcode
    · obtain ⟨action, rfl⟩ := Action.exists_code_eq hcode
      exact receive_of_truncated registry action hbehind
    all_goals have hwhole := Nat.not_lt.1 hbehind
    · rw [h2]
      exact receive_of_response registry .readResponse rfl hwhole
    · rw [h3]
      exact receive_of_response registry .writeResponse rfl hwhole
    · rw [h4]
      exact receive_of_response registry .generalMessage rfl hwhole
    · rw [h0.1]
      exact receive_of_short_read registry hwhole h0.2
    · rw [h1.1]
      exact receive_of_short_write registry hwhole h1.2

/-- A packet without a fault starts with the frame of a request, which takes as many bytes as the
    header says. -/
theorem isRequestFrame_take {p : List UInt8} (h : firstFault? p = none) :
    IsRequestFrame (p.take (3 + (p.getD 2 0).toNat)) := by
  rcases Nat.lt_or_ge p.length 3 with hshort | hlong
  · rw [firstFault?_of_length_lt hshort] at h
    cases h
  match p, hlong with
  | version :: code :: declared :: rest, _ =>
    rw [firstFault?_cons] at h
    split_ifs at h with hversion hcode hbehind h2 h3 h4 h0 h1
    obtain rfl := Decidable.not_not.1 hversion
    obtain ⟨action, rfl⟩ := Action.exists_code_eq hcode
    have hwhole := Nat.not_lt.1 hbehind
    have hlen : (rest.take declared.toNat).length = declared.toNat := List.length_take_of_le hwhole
    -- only the two actions of requests are left, and their bodies have room for the fields
    obtain ⟨haction, hleast⟩ : action.isRequest = true ∧ 6 ≤ declared.toNat := by
      cases action with
      | readRequest => exact ⟨rfl, Nat.not_lt.1 fun hshort => h0 ⟨rfl, hshort⟩⟩
      | writeRequest => exact ⟨rfl, Nat.not_lt.1 fun hshort => h1 ⟨rfl, hshort⟩⟩
      | readResponse => exact absurd rfl h2
      | writeResponse => exact absurd rfl h3
      | generalMessage => exact absurd rfl h4
    refine ⟨action, rest.take declared.toNat, haction, by rwa [hlen], ?_, ?_⟩
    · have := declared.toNat_lt
      omega
    · have hsize : (frameOf action (rest.take declared.toNat)).length = 3 + declared.toNat := by
        rw [length_frameOf, hlen, headerLength]
      show (1 :: action.code :: declared :: rest).take (3 + declared.toNat) = _
      rw [cons_eq_frameOf_append action hwhole, List.take_left' hsize]

/-- A packet without a fault is accepted, and so is every packet that starts with the same frame,
    for the same request. -/
theorem exists_receive_of_take_eq (registry : Registry) {p : List UInt8}
    (h : firstFault? p = none) :
    ∃ request, ∀ q, q.take (3 + (p.getD 2 0).toNat) = p.take (3 + (p.getD 2 0).toNat) →
      receive registry true q = .ok (.accepted request) := by
  obtain ⟨request, hrequest⟩ := exists_receive_append registry (isRequestFrame_take h)
  refine ⟨request, fun q hq => ?_⟩
  rw [← List.take_append_drop (3 + (p.getD 2 0).toNat) q, hq]
  exact hrequest _

/-! ## The dispatcher -/

namespace Dispatcher

variable {β γ : Type} [Bus β] [Outlets γ] {d : Dispatcher β γ} {p : Packet}

/-- A packet is refused for a fault: it is not carried out, and the dispatcher counts the fault
    and is otherwise as before. So nothing was asked of the bus, nothing was handed to a connection
    and no job was started. -/
def Refuses (d : Dispatcher β γ) (p : Packet) (e : FormatError) : Prop :=
  d.world.handle d.registry p = .error e ∧
    d.accept p = (some e, { d with world := d.world.record .formatErrors })

/-- A packet starts one job for a request: carrying the packet out is carrying that job out, and
    until the job acts the dispatcher has one job more and is otherwise as before. -/
def Starts (d : Dispatcher β γ) (p : Packet) (request : Request) : Prop :=
  d.world.handle d.registry p = .ok (request.task.run p.connection d.world) ∧
    d.accept p = (none, { d with jobs := d.jobs ++ [.start p.connection request] })

/-- A packet is left out: one skipped response is counted, and the dispatcher is otherwise as
    before. -/
def Skips (d : Dispatcher β γ) (p : Packet) : Prop :=
  d.world.handle d.registry p = .ok ([], d.world.record .responsesSkipped) ∧
    d.accept p = (none, { d with world := d.world.record .responsesSkipped })

theorem refuses_of_receive {e : FormatError}
    (h : receive d.registry (Outlets.isOpen d.world.outlets p.connection) p.bytes = .error e) :
    d.Refuses p e := by
  have haccept : d.world.accept d.registry p = .error e := by rw [World.accept, h]
  exact ⟨by rw [World.handle, haccept], by rw [accept, haccept]⟩

theorem skips_of_receive
    (h : receive d.registry (Outlets.isOpen d.world.outlets p.connection) p.bytes =
      .ok .skipped) :
    d.Skips p := by
  have haccept : d.world.accept d.registry p = .ok (none, d.world.record .responsesSkipped) := by
    rw [World.accept, h]
  exact ⟨by rw [World.handle, haccept], by rw [accept, haccept]⟩

theorem starts_of_receive {request : Request}
    (h : receive d.registry (Outlets.isOpen d.world.outlets p.connection) p.bytes =
      .ok (.accepted request)) :
    d.Starts p request := by
  have haccept : d.world.accept d.registry p =
      .ok (some (.start p.connection request), d.world) := by
    rw [World.accept, h]
  exact ⟨by rw [World.handle, haccept]; rfl, by rw [accept, haccept]⟩

/-- What a dispatcher does with any packet. An empty one is refused, whatever its connection; one of
    a closed connection is left out; any other is refused for the first of its faults, and starts
    one job when it has none. The job depends on the frame at the start of the packet only. -/
theorem accept_exact (d : Dispatcher β γ) (c : ConnectionId) (p : List UInt8) :
    (p = [] → d.Refuses ⟨c, p⟩ .empty) ∧
    (p ≠ [] → Outlets.isOpen d.world.outlets c = false → d.Skips ⟨c, p⟩) ∧
    (p ≠ [] → Outlets.isOpen d.world.outlets c = true →
      (∀ e, firstFault? p = some e → d.Refuses ⟨c, p⟩ e) ∧
      (firstFault? p = none →
        ∃ request, ∀ q, q.take (3 + (p.getD 2 0).toNat) = p.take (3 + (p.getD 2 0).toNat) →
          d.Starts ⟨c, q⟩ request)) := by
  refine ⟨?_, ?_, ?_⟩
  · rintro rfl
    exact refuses_of_receive rfl
  · intro hnonempty hclosed
    refine skips_of_receive ?_
    have hempty : p.isEmpty = false := List.isEmpty_eq_false_iff.2 hnonempty
    simp [receive, hempty, hclosed]
  · intro hnonempty hopen
    constructor
    · intro e hfault
      refine refuses_of_receive ?_
      rw [hopen]
      exact receive_of_firstFault? d.registry hnonempty hfault
    · intro hfaultless
      obtain ⟨request, hrequest⟩ := exists_receive_of_take_eq d.registry hfaultless
      refine ⟨request, fun q hq => starts_of_receive ?_⟩
      rw [hopen]
      exact hrequest q hq

/-- A response with less of a body than it declares, the same from a closed connection, and a read
    with a byte behind its frame. -/
theorem accept_exact_truncated :
    ∃ d closed : Dispatcher MemoryBus ScriptedConnection,
      d.Refuses ⟨0, [1, 3, 9, 0]⟩ (.truncated 9 1) ∧ closed.Skips ⟨0, [1, 3, 9, 0]⟩ ∧
        ∃ request, d.Starts ⟨0, [1, 0, 6, 10, 3, 0, 7, 2, 88, 255]⟩ request := by
  let d : Dispatcher MemoryBus ScriptedConnection :=
    .start .reference ⟨4, [], false⟩ ⟨.initial, ⟨true, []⟩, .zero⟩
  let closed : Dispatcher MemoryBus ScriptedConnection :=
    .start .reference ⟨4, [], false⟩ ⟨.initial, ⟨false, []⟩, .zero⟩
  obtain ⟨-, -, hopen⟩ := d.accept_exact 0 [1, 3, 9, 0]
  obtain ⟨-, hclosed, -⟩ := closed.accept_exact 0 [1, 3, 9, 0]
  obtain ⟨-, -, hread⟩ := d.accept_exact 0 [1, 0, 6, 10, 3, 0, 7, 2, 88, 255]
  obtain ⟨request, hstarts⟩ := (hread (by decide) rfl).2 (by decide)
  exact ⟨d, closed, (hopen (by decide) rfl).1 _ (by decide), hclosed (by decide) rfl, request,
    hstarts _ rfl⟩

end Dispatcher

end KnxGateway
