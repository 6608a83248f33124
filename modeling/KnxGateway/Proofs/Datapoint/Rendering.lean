import KnxGateway.Datapoint.Registry
import Mathlib.Tactic.SplitIfs

set_option autoImplicit false

/-! # Written values are rendered as they were given

A type that the gateway brings along reads the arguments of a write into bytes from which it
renders the text that the value was given: a boolean keeps its label, a number its decimal text,
and raw bytes their dump. Percentages are rounded when they are stored and again when they are
shown, and the two roundings undo each other. -/

namespace KnxGateway

open Text

namespace DatapointType

variable {arguments : List String} {v : DatapointValue}

/-! ## The three families -/

theorem render_of_parse_boolean {id : DatapointId} {off on : String}
    (h : (boolean id off on).parse arguments = .ok v) :
    (boolean id off on).render v.bytes = .ok ⟨v.text, (boolean id off on).unit⟩ := by
  simp only [parse] at h
  split at h
  · cases h
  · split at h
    · cases h
      rfl
    · cases h
      rfl
    · cases h

theorem render_of_parse_unsigned {id : DatapointId} {layout : UnsignedLayout}
    (h : (unsigned id layout).parse arguments = .ok v) :
    (unsigned id layout).render v.bytes = .ok ⟨v.text, (unsigned id layout).unit⟩ := by
  simp only [parse] at h
  split at h
  · cases h
  · split at h
    · cases h
    · next n _ =>
      split_ifs at h with hmax
      cases h
      -- within the range of its type a number survives the scaling and the bytes
      have hle : n ≤ layout.maximum := Nat.le_of_not_lt hmax
      simp only [render, length_bigEndian, if_true]
      rw [ofBigEndian_bigEndian (UnsignedLayout.scale_lt hle), UnsignedLayout.unscale_scale hle]

theorem render_of_parse_raw (h : raw.parse arguments = .ok v) :
    raw.render v.bytes = .ok ⟨v.text, raw.unit⟩ := by
  simp only [parse] at h
  split_ifs at h
  split at h
  · cases h
  · cases h
    rfl

/-! ## All native types -/

/-- Rendering the bytes of a value shows the text that the value was given. -/
theorem render_of_parse {dpt : DatapointType} (hnative : dpt.isNative = true)
    (h : dpt.parse arguments = .ok v) : dpt.render v.bytes = .ok ⟨v.text, dpt.unit⟩ := by
  cases dpt with
  | boolean id off on => exact render_of_parse_boolean h
  | unsigned id layout => exact render_of_parse_unsigned h
  | raw => exact render_of_parse_raw h
  | foreign type => simp [isNative] at hnative

end DatapointType

/-! ## Registries of native types -/

namespace Registry

/-- Whatever is registered in a registry that grew by registrations is one of them. -/
theorem mem_of_lookup_registerAll {dpts : List DatapointType} {r : Registry} {id : DatapointId}
    {dpt : DatapointType} (h : (r.registerAll dpts).lookup id = some dpt) :
    dpt ∈ dpts ∨ r.lookup id = some dpt := by
  induction dpts generalizing r with
  | nil => exact Or.inr h
  | cons first rest ih =>
    rcases ih h with hmem | hlookup
    · exact Or.inl (List.mem_cons_of_mem _ hmem)
    · rw [lookup_register] at hlookup
      split_ifs at hlookup with hid
      · cases hlookup
        exact Or.inl List.mem_cons_self
      · exact Or.inr hlookup

/-- A registry of native types resolves every id to a native type. -/
theorem isNative_resolve {dpts : List DatapointType} (hdpts : ∀ dpt ∈ dpts, dpt.isNative = true)
    (id : DatapointId) : ((empty.registerAll dpts).resolve id).isNative = true := by
  have hlookup : ∀ x dpt, (empty.registerAll dpts).lookup x = some dpt → dpt.isNative = true := by
    intro x dpt h
    rcases mem_of_lookup_registerAll h with hmem | hempty
    · exact hdpts dpt hmem
    · simp at hempty
  -- the id itself, then its base type, then raw bytes
  unfold resolve
  cases hexact : (empty.registerAll dpts).lookup id with
  | some dpt => simpa using hlookup id dpt hexact
  | none =>
    cases hbase : (empty.registerAll dpts).lookup id.base with
    | some dpt => simpa using hlookup id.base dpt hbase
    | none => rfl

end Registry

end KnxGateway
