import KnxGateway.Config.GatewayConfig
import KnxGateway.Proofs.Json.Reading
import KnxGateway.Proofs.Text.Reading
import Mathlib.Data.List.Forall2

set_option autoImplicit false

/-! # Configurations are read as they were written

A JSON object tells a configuration when each of its members that names a field holds the value of
that field, no field has two members, and a field without a member has its default. Nothing is said
about the order of the members, about the blanks and escapes of the text, or about members of other
names, whose values may be anything.

From every text of such an object the configuration is read that it tells, or the problem of that
configuration, and the text that a configuration is written as is one of them. -/

namespace KnxGateway

open Text

namespace GatewayConfig

/-! ## What an object tells -/

/-- A field of a configuration. -/
inductive Field where
  | listenAddr
  | allowedAddresses
  | notifyRejected
  | queueCapacity
  | readBufferSize
deriving DecidableEq

/-- The name of the member for a field. -/
def Field.name : Field → String
  | listenAddr => "listen_addr"
  | allowedAddresses => "allowed_addresses"
  | notifyRejected => "notify_rejected"
  | queueCapacity => "queue_capacity"
  | readBufferSize => "read_buffer_size"

/-- A JSON string with the given text, however its characters are escaped. -/
def IsStringOf (value : JsonValue) (text : String) : Prop :=
  ∃ units, value = .string units ∧ JsonUnit.text? units = some text.toList

/-- A JSON value is that of a field. -/
def Holds (c : GatewayConfig) : Field → JsonValue → Prop
  | .listenAddr, value => IsStringOf value c.listenAddr
  | .allowedAddresses, value =>
    ∃ elements, value = .array elements ∧ List.Forall₂ IsStringOf elements c.allowedAddresses
  | .notifyRejected, value => value = .bool c.notifyRejected
  | .queueCapacity, value => value = .number (decimal c.queueCapacity)
  | .readBufferSize, value => value = .number (decimal c.readBufferSize)

/-- A field has its default. -/
def HasDefault (c : GatewayConfig) : Field → Prop
  | .listenAddr => c.listenAddr = default.listenAddr
  | .allowedAddresses => c.allowedAddresses = default.allowedAddresses
  | .notifyRejected => c.notifyRejected = default.notifyRejected
  | .queueCapacity => c.queueCapacity = default.queueCapacity
  | .readBufferSize => c.readBufferSize = default.readBufferSize

/-- The members of an object tell a configuration. -/
structure IsToldBy (c : GatewayConfig) (members : List (List JsonUnit × JsonValue)) : Prop where
  /-- The keys are texts. -/
  named : ∀ member ∈ members, ∃ name, JsonUnit.text? member.1 = some name
  /-- No field has two members. -/
  once : ∀ field : Field,
    (members.filter fun member => JsonUnit.text? member.1 = some field.name.toList).length ≤ 1
  /-- The member of a field holds its value. -/
  holds : ∀ field : Field, ∀ member ∈ members,
    JsonUnit.text? member.1 = some field.name.toList → c.Holds field member.2
  /-- A field without a member has its default. -/
  omitted : ∀ field : Field,
    (∀ member ∈ members, JsonUnit.text? member.1 ≠ some field.name.toList) → c.HasDefault field

/-- A text is that of an object that tells a configuration, with blanks on either side. -/
inductive IsTextOf (c : GatewayConfig) : String → Prop where
  | mk {members : List (List JsonUnit × JsonValue)} {before text after : List Char} :
      c.IsToldBy members → JsonValue.IsGap before → JsonValue.HasText (.object members) text →
      JsonValue.IsGap after → IsTextOf c (String.ofList (before ++ (text ++ after)))

/-! ## Looking up a field -/

variable {c : GatewayConfig} {members : List (List JsonUnit × JsonValue)}

/-- A member with the text of its key. -/
def withName (member : List JsonUnit × JsonValue) : List Char × JsonValue :=
  ((JsonUnit.text? member.1).getD [], member.2)

theorem readKeys?_eq (h : ∀ member ∈ members, ∃ name, JsonUnit.text? member.1 = some name) :
    readKeys? members = some (members.map withName) := by
  induction members with
  | nil => rfl
  | cons member members ih =>
    obtain ⟨name, hname⟩ := h member List.mem_cons_self
    have hrest := ih fun other hother => h other (List.mem_cons_of_mem _ hother)
    rw [readKeys?] at hrest ⊢
    simp [hname, hrest, withName]

/-- The members with a name are found by the texts of their keys. -/
theorem filter_map_withName (h : ∀ member ∈ members, ∃ name, JsonUnit.text? member.1 = some name)
    (name : List Char) :
    (members.map withName).filter (fun entry => entry.1 = name) =
      (members.filter fun member => JsonUnit.text? member.1 = some name).map withName := by
  rw [List.filter_map]
  congr 1
  refine List.filter_congr fun member hmember => ?_
  obtain ⟨text, htext⟩ := h member hmember
  simp [withName, htext]

/-- What is found for a field: its value, or nothing if it has its default. -/
def IsFound (c : GatewayConfig) (field : Field) : Option JsonValue → Prop
  | none => c.HasDefault field
  | some value => c.Holds field value

theorem IsToldBy.exists_memberOf? (h : c.IsToldBy members) (field : Field) :
    ∃ found, memberOf? (members.map withName) field.name = some found ∧ c.IsFound field found := by
  have honce := h.once field
  have hmem : ∀ member ∈ members.filter fun member =>
      JsonUnit.text? member.1 = some field.name.toList,
      member ∈ members ∧ JsonUnit.text? member.1 = some field.name.toList := by
    intro member hmember
    simpa using hmember
  have hnone : members.filter (fun member => JsonUnit.text? member.1 = some field.name.toList) = [] →
      ∀ member ∈ members, JsonUnit.text? member.1 ≠ some field.name.toList := by
    intro hnil member hmember
    simpa using List.filter_eq_nil_iff.1 hnil member hmember
  simp only [memberOf?, filter_map_withName h.named]
  generalize members.filter (fun member => JsonUnit.text? member.1 = some field.name.toList) =
    given at *
  match given, honce with
  | [], _ => exact ⟨none, rfl, h.omitted field (hnone rfl)⟩
  | [member], _ =>
    obtain ⟨hmember, hname⟩ := hmem member List.mem_cons_self
    exact ⟨some member.2, rfl, h.holds field member hmember hname⟩

/-! ## Reading the value of a field -/

theorem string?_of_isStringOf {value : JsonValue} {text : String} (h : IsStringOf value text) :
    value.string? = some text := by
  obtain ⟨units, rfl, htext⟩ := h
  simp [JsonValue.string?, htext]

theorem strings?_of_forall₂ {elements : List JsonValue} {texts : List String}
    (h : List.Forall₂ IsStringOf elements texts) :
    (JsonValue.array elements).strings? = some texts :=
  mapM_eq_some_iff.2 (h.imp fun _ _ => string?_of_isStringOf)

theorem unsigned?_decimal {bound n : Nat} (h : n ≤ bound) :
    (JsonValue.number (decimal n)).unsigned? bound = some n := by
  simp [JsonValue.unsigned?, ofDigitChars_decimal, all_isDigit_decimal, h]

theorem strings?_of_holds {value : JsonValue} (h : c.Holds .allowedAddresses value) :
    value.strings? = some c.allowedAddresses := by
  obtain ⟨elements, rfl, helements⟩ := h
  exact strings?_of_forall₂ helements

/-- A field is read from what is found for it, if its values are read right. -/
theorem IsFound.readField_eq {field : Field} {found : Option JsonValue} {α : Type}
    {read : JsonValue → Option α} {default' x : α} (h : c.IsFound field found)
    (hdefault : c.HasDefault field → x = default')
    (hread : ∀ value, c.Holds field value → read value = some x) :
    readField read default' found = some x := by
  cases found with
  | none =>
    rw [hdefault h]
    rfl
  | some value => exact hread value h

/-- From members that tell a configuration, that configuration is read. -/
theorem IsToldBy.ofJson?_eq (h : c.IsToldBy members) (hcapacity : c.queueCapacity ≤ maxUInt64)
    (hbuffer : c.readBufferSize ≤ maxUInt64) : ofJson? (.object members) = some c := by
  obtain ⟨listenAddr, hlisten, hlistenFound⟩ := h.exists_memberOf? .listenAddr
  obtain ⟨allowed, hallowed, hallowedFound⟩ := h.exists_memberOf? .allowedAddresses
  obtain ⟨notify, hnotify, hnotifyFound⟩ := h.exists_memberOf? .notifyRejected
  obtain ⟨capacity, hqueue, hqueueFound⟩ := h.exists_memberOf? .queueCapacity
  obtain ⟨buffer, hsize, hsizeFound⟩ := h.exists_memberOf? .readBufferSize
  simp only [Field.name] at hlisten hallowed hnotify hqueue hsize
  have hlistenRead : readField JsonValue.string? default.listenAddr listenAddr =
      some c.listenAddr :=
    hlistenFound.readField_eq id fun _ => string?_of_isStringOf
  have hallowedRead : readField JsonValue.strings? default.allowedAddresses allowed =
      some c.allowedAddresses :=
    hallowedFound.readField_eq id fun _ => strings?_of_holds
  have hnotifyRead : readField JsonValue.bool? default.notifyRejected notify =
      some c.notifyRejected :=
    hnotifyFound.readField_eq id fun _ hvalue => congrArg JsonValue.bool? hvalue
  have hqueueRead : readField (JsonValue.unsigned? maxUInt64) default.queueCapacity capacity =
      some c.queueCapacity :=
    hqueueFound.readField_eq id fun _ hvalue =>
      (congrArg _ hvalue).trans (unsigned?_decimal hcapacity)
  have hsizeRead : readField (JsonValue.unsigned? maxUInt64) default.readBufferSize buffer =
      some c.readBufferSize :=
    hsizeFound.readField_eq id fun _ hvalue =>
      (congrArg _ hvalue).trans (unsigned?_decimal hbuffer)
  simp [ofJson?, readKeys?_eq h.named, hlisten, hallowed, hnotify, hqueue, hsize, ofFields?,
    hlistenRead, hallowedRead, hnotifyRead, hqueueRead, hsizeRead]

/-! ## The written text -/

/-- What the string of a text is read as. -/
theorem isStringOf_written (text : String) :
    IsStringOf (JsonValue.written (.string (JsonUnit.ofText text.toList))) text :=
  ⟨_, rfl, JsonUnit.text?_map_written text.toList⟩

theorem forall₂_writtenElements (texts : List String) :
    List.Forall₂ IsStringOf
      (JsonValue.writtenElements
        (texts.map fun text => .string (JsonUnit.ofText text.toList))) texts := by
  induction texts with
  | nil => exact .nil
  | cons text texts ih => exact .cons (isStringOf_written text) ih

theorem isProper_ofText (s : List Char) : ∀ unit ∈ JsonUnit.ofText s, unit.IsProper := by
  intro unit hunit
  obtain ⟨c, -, rfl⟩ := List.mem_map.1 hunit
  exact trivial

theorem elementsAreProper_strings (texts : List String) :
    JsonValue.ElementsAreProper
      (texts.map fun text => .string (JsonUnit.ofText text.toList)) := by
  induction texts with
  | nil => exact trivial
  | cons text texts ih => exact ⟨isProper_ofText _, ih⟩

/-- The members that a configuration is written as. -/
def writtenMembers (c : GatewayConfig) : List (List JsonUnit × JsonValue) :=
  JsonValue.writtenMembers
    ((fieldNames.map fun name => JsonUnit.ofText name.toList).zip c.fieldValues)

/-- Every field has its member, in the order of the fields. -/
theorem map_writtenMembers (c : GatewayConfig) :
    c.writtenMembers.map (fun member => JsonUnit.text? member.1) =
      fieldNames.map fun name => some name.toList := by
  simp [writtenMembers, JsonValue.writtenMembers, fieldNames, fieldValues,
    JsonUnit.text?_map_written]

theorem Field.eq_of_toList_name_eq {field other : Field}
    (h : field.name.toList = other.name.toList) : field = other := by
  cases field <;> cases other <;> first | rfl | exact absurd h (by decide)

/-- Every written member is that of a field. -/
theorem exists_field_of_mem_writtenMembers {member : List JsonUnit × JsonValue}
    (h : member ∈ c.writtenMembers) :
    ∃ field : Field, JsonUnit.text? member.1 = some field.name.toList ∧
      c.Holds field member.2 := by
  simp only [writtenMembers, fieldNames, fieldValues, List.map_cons, List.map_nil,
    List.zip_cons_cons, List.zip_nil_right, JsonValue.writtenMembers, List.mem_cons,
    List.not_mem_nil, or_false] at h
  rcases h with rfl | rfl | rfl | rfl | rfl
  · exact ⟨.listenAddr, JsonUnit.text?_map_written _, isStringOf_written c.listenAddr⟩
  · exact ⟨.allowedAddresses, JsonUnit.text?_map_written _, _, rfl,
      forall₂_writtenElements c.allowedAddresses⟩
  · exact ⟨.notifyRejected, JsonUnit.text?_map_written _, rfl⟩
  · exact ⟨.queueCapacity, JsonUnit.text?_map_written _, rfl⟩
  · exact ⟨.readBufferSize, JsonUnit.text?_map_written _, rfl⟩

theorem isToldBy_writtenMembers (c : GatewayConfig) : c.IsToldBy c.writtenMembers where
  named member hmember := by
    obtain ⟨field, hname, -⟩ := exists_field_of_mem_writtenMembers hmember
    exact ⟨_, hname⟩
  once field := by
    have hcount : (c.writtenMembers.filter fun member =>
        JsonUnit.text? member.1 = some field.name.toList).length =
          (fieldNames.map fun name => some name.toList).countP
            (fun name => name = some field.name.toList) := by
      rw [← map_writtenMembers c, List.countP_map, List.countP_eq_length_filter]
      rfl
    rw [hcount]
    cases field <;> decide
  holds field member hmember hname := by
    obtain ⟨other, hother, hholds⟩ := exists_field_of_mem_writtenMembers hmember
    obtain rfl := Field.eq_of_toList_name_eq (Option.some.inj (hname.symm.trans hother))
    exact hholds
  omitted field hnone := by
    have hname : some field.name.toList ∈
        c.writtenMembers.map fun member => JsonUnit.text? member.1 := by
      rw [map_writtenMembers]
      cases field <;> decide
    obtain ⟨member, hmember, heq⟩ := List.mem_map.1 hname
    exact absurd heq (hnone member hmember)

theorem isProper_toJson (c : GatewayConfig) : c.toJson.IsProper := by
  simp only [toJson, fieldNames, fieldValues, List.map_cons, List.map_nil, List.zip_cons_cons,
    List.zip_nil_right, JsonValue.IsProper, JsonValue.MembersAreProper]
  exact ⟨isProper_ofText _, isProper_ofText _, isProper_ofText _, elementsAreProper_strings _,
    isProper_ofText _, trivial, isProper_ofText _, JsonToken.isNumber_decimal _,
    isProper_ofText _, JsonToken.isNumber_decimal _, trivial⟩

/-- A text without blanks on either side. -/
theorem IsToldBy.isTextOf {text : List Char} (h : c.IsToldBy members)
    (htext : JsonValue.HasText (.object members) text) : c.IsTextOf (String.ofList text) := by
  simpa using IsTextOf.mk h JsonValue.isGap_nil htext JsonValue.isGap_nil

/-- The text that a configuration is written as is one of its texts. -/
theorem isTextOf_jsonText (c : GatewayConfig) : c.IsTextOf c.jsonText := by
  have hwritten : c.toJson.written = .object c.writtenMembers := by
    simp only [toJson, JsonValue.written, writtenMembers]
  have htext := JsonValue.hasText_render c.toJson c.isProper_toJson
  rw [hwritten] at htext
  exact c.isToldBy_writtenMembers.isTextOf htext

/-- The text of a configuration with a small buffer, with a member of another name between two
    fields and an escape in a key. -/
theorem isTextOf_smallBuffer : IsTextOf ⟨"0.0.0.0:3672", [], true, 1, 15⟩
    "\x7b\"read_buffer_size\": 15,\n\"x\":[null],\"queue\\u005fcapacity\":1\x7d" := by
  have hspace : JsonValue.IsGap [' '] := by simp [JsonValue.IsGap]
  have hline : JsonValue.IsGap ['\n'] := by simp [JsonValue.IsGap]
  have hproper : ∀ unit ∈ JsonUnit.ofText "queue".toList ++
      .escaped 0x5f :: JsonUnit.ofText "capacity".toList, unit.IsProper := by
    simp only [List.forall_mem_append, List.forall_mem_cons]
    exact ⟨isProper_ofText _, show 0x5f < 0x10000 by decide, isProper_ofText _⟩
  have hbuffer : JsonUnit.StringHasText (JsonUnit.ofText "read_buffer_size".toList)
      "\"read_buffer_size\"".toList :=
    JsonUnit.stringHasText_render (isProper_ofText "read_buffer_size".toList)
  have hother : JsonUnit.StringHasText (JsonUnit.ofText "x".toList) "\"x\"".toList :=
    JsonUnit.stringHasText_render (isProper_ofText "x".toList)
  have hcapacity := JsonUnit.stringHasText_render hproper
  have hmembers := JsonValue.MembersHaveText.more JsonValue.isGap_nil hbuffer JsonValue.isGap_nil
    hspace (.number (JsonToken.isNumber_decimal 15)) JsonValue.isGap_nil
    (.more hline hother JsonValue.isGap_nil JsonValue.isGap_nil
      (.array (.one JsonValue.isGap_nil .null JsonValue.isGap_nil)) JsonValue.isGap_nil
      (.one JsonValue.isGap_nil hcapacity JsonValue.isGap_nil JsonValue.isGap_nil
        (.number (JsonToken.isNumber_decimal 1)) JsonValue.isGap_nil))
  refine IsToldBy.isTextOf ⟨?named, ?once, ?holds, ?omitted⟩ (.object hmembers)
  case named =>
    simp only [List.forall_mem_cons]
    exact ⟨⟨_, rfl⟩, ⟨_, rfl⟩, ⟨_, rfl⟩, by simp⟩
  case once =>
    intro field
    cases field <;> decide
  case holds =>
    intro field
    simp only [List.forall_mem_cons]
    cases field <;> refine ⟨fun h => ?_, fun h => ?_, fun h => ?_, by simp⟩ <;>
      first | exact rfl | exact absurd h (by decide)
  case omitted =>
    intro field hnone
    cases field <;> first | exact rfl | exact absurd hnone (by decide)

/-! ## Reading the texts -/

theorem IsTextOf.bind_parse?_eq {s : String} (h : c.IsTextOf s)
    (hcapacity : c.queueCapacity ≤ maxUInt64) (hbuffer : c.readBufferSize ≤ maxUInt64) :
    (JsonValue.parse? s.toList).bind ofJson? = some c := by
  obtain ⟨htold, hbefore, htext, hafter⟩ := h
  rw [String.toList_ofList, htext.parse?_eq hbefore hafter, Option.bind_some,
    htold.ofJson?_eq hcapacity hbuffer]

/-- From the text that a configuration is written as, and from every other text of an object that
    tells it, a configuration is read if it can be used, and else its problem. -/
theorem ofJsonText_eq_of_text {c : GatewayConfig} (hcapacity : c.queueCapacity ≤ maxUInt64)
    (hbuffer : c.readBufferSize ≤ maxUInt64) (s : String) (h : s = c.jsonText ∨ c.IsTextOf s) :
    (c.problem? = none → ofJsonText s = .ok c) ∧
      ∀ problem, c.problem? = some problem → ofJsonText s = .error (.unusable problem) := by
  have htext : c.IsTextOf s := by
    rcases h with rfl | h
    · exact c.isTextOf_jsonText
    · exact h
  have hread := htext.bind_parse?_eq hcapacity hbuffer
  refine ⟨fun hnone => ?_, fun problem hsome => ?_⟩
  · simp only [ofJsonText, hread, hnone]
  · simp only [ofJsonText, hread, hsome]

/-- The largest sizes, with characters in the host that are escaped, and a buffer that is too
    small. -/
theorem ofJsonText_eq_of_text_largest_and_smallBuffer :
    ofJsonText (jsonText ⟨"\"\\\x01é", [""], false, maxUInt64, maxUInt64⟩) =
        .ok ⟨"\"\\\x01é", [""], false, maxUInt64, maxUInt64⟩ ∧
      ofJsonText
          "\x7b\"read_buffer_size\": 15,\n\"x\":[null],\"queue\\u005fcapacity\":1\x7d" =
        .error (.unusable (.smallBuffer 15)) :=
  ⟨(ofJsonText_eq_of_text (Nat.le_refl _) (Nat.le_refl _) _ (.inl rfl)).1 (by decide),
    (ofJsonText_eq_of_text (by decide) (by decide) _ (.inr isTextOf_smallBuffer)).2 _ (by decide)⟩

end GatewayConfig

end KnxGateway
