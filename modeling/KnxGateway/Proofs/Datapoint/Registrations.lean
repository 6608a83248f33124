import KnxGateway.Datapoint.Registry
import Mathlib.Data.Finset.Card

set_option autoImplicit false

/-! # What registrations lead to

A registry is what the registrations so far have made of it. Under an id it knows the type that was
registered last with this id, and an id means that type, or else what its base type means, or else
raw bytes. Earlier registrations with the same id leave nothing behind, not even in the number of
types, and the order matters only among types with one id. -/

namespace KnxGateway

namespace Registry

variable {r : Registry} {history : List DatapointType} {id : DatapointId} {dpt : DatapointType}

/-! ## Histories -/

/-- A registry was made by registrations, on top of no types or of the reference types. The
    reference types count as registrations, too. -/
inductive HasHistory : Registry → List DatapointType → Prop where
  | onEmpty (dpts : List DatapointType) : HasHistory (empty.registerAll dpts) dpts
  | onReference (dpts : List DatapointType) :
      HasHistory (reference.registerAll dpts) (referenceTypes ++ dpts)

/-- No type was registered with an id. -/
def IsUnknown (history : List DatapointType) (id : DatapointId) : Prop :=
  ∀ dpt ∈ history, dpt.id ≠ id

instance (history : List DatapointType) (id : DatapointId) : Decidable (IsUnknown history id) :=
  inferInstanceAs (Decidable (∀ dpt ∈ history, dpt.id ≠ id))

/-- A type was registered with an id, and no other after it. -/
def IsLatest (history : List DatapointType) (id : DatapointId) (dpt : DatapointType) : Prop :=
  ∃ before after, history = before ++ dpt :: after ∧ dpt.id = id ∧ IsUnknown after id

/-- What an id means after a history of registrations. -/
inductive Means (history : List DatapointType) (id : DatapointId) : DatapointType → Prop where
  | exactly {dpt : DatapointType} : IsLatest history id dpt → Means history id dpt
  | base {dpt : DatapointType} :
      IsUnknown history id → IsLatest history id.base dpt → Means history id dpt
  | raw : IsUnknown history id → IsUnknown history id.base → Means history id .raw

theorem registerAll_append (r : Registry) (first second : List DatapointType) :
    r.registerAll (first ++ second) = (r.registerAll first).registerAll second :=
  List.foldl_append

/-- Every history is one of registrations on top of no types. -/
theorem HasHistory.eq_registerAll (h : r.HasHistory history) : r = empty.registerAll history := by
  cases h with
  | onEmpty => rfl
  | onReference dpts => exact (registerAll_append empty referenceTypes dpts).symm

/-! ## Lookup -/

/-- The type that a search from the end finds among the registrations is known, and without one
    what was known before. -/
theorem lookup_registerAll (r : Registry) (dpts : List DatapointType) (id : DatapointId) :
    (r.registerAll dpts).lookup id =
      (dpts.reverse.find? fun dpt => dpt.id = id).or (r.lookup id) := by
  induction dpts generalizing r with
  | nil => rfl
  | cons first rest ih =>
    have hstep : r.registerAll (first :: rest) = (r.register first).registerAll rest := rfl
    rw [hstep, ih, lookup_register, List.reverse_cons, List.find?_append, Option.or_assoc]
    by_cases hid : first.id = id
    · simp [hid]
    · simp [hid, Ne.symm hid]

theorem find?_reverse_eq_some_iff :
    (history.reverse.find? fun dpt => dpt.id = id) = some dpt ↔ IsLatest history id dpt := by
  simp only [List.find?_eq_some_iff_append, decide_eq_true_eq, Bool.not_eq_true',
    decide_eq_false_iff_not]
  constructor
  · rintro ⟨hid, after, before, hsplit, hafter⟩
    refine ⟨before.reverse, after.reverse, ?_, hid, fun later hlater => ?_⟩
    · simpa using congrArg List.reverse hsplit
    · exact hafter later (List.mem_reverse.1 hlater)
  · rintro ⟨before, after, rfl, hid, hafter⟩
    refine ⟨hid, after.reverse, before.reverse, by simp, fun later hlater => ?_⟩
    exact hafter later (List.mem_reverse.1 hlater)

theorem HasHistory.lookup_eq_some_iff (h : r.HasHistory history) :
    r.lookup id = some dpt ↔ IsLatest history id dpt := by
  rw [h.eq_registerAll, lookup_registerAll, lookup_empty, Option.or_none,
    find?_reverse_eq_some_iff]

theorem HasHistory.lookup_eq_none_iff (h : r.HasHistory history) :
    r.lookup id = none ↔ IsUnknown history id := by
  rw [h.eq_registerAll, lookup_registerAll, lookup_empty, Option.or_none, List.find?_eq_none]
  simp [IsUnknown]

/-! ## Resolution -/

theorem HasHistory.resolve_eq_iff (h : r.HasHistory history) :
    r.resolve id = dpt ↔ Means history id dpt := by
  have hresolve : Means history id (r.resolve id) := by
    unfold resolve
    cases hexact : r.lookup id with
    | some found => exact .exactly (h.lookup_eq_some_iff.1 hexact)
    | none =>
      have hunknown := h.lookup_eq_none_iff.1 hexact
      cases hbase : r.lookup id.base with
      | some found => exact .base hunknown (h.lookup_eq_some_iff.1 hbase)
      | none => exact .raw hunknown (h.lookup_eq_none_iff.1 hbase)
  constructor
  · rintro rfl
    exact hresolve
  · -- an id means one type only, since it is looked up as one type only
    intro hmeans
    unfold resolve
    cases hmeans with
    | exactly hlatest =>
      rw [h.lookup_eq_some_iff.2 hlatest]
      rfl
    | base hunknown hlatest =>
      rw [h.lookup_eq_none_iff.2 hunknown, h.lookup_eq_some_iff.2 hlatest]
      rfl
    | raw hunknown hbase =>
      rw [h.lookup_eq_none_iff.2 hunknown, h.lookup_eq_none_iff.2 hbase]
      rfl

/-- What an id means has this id, or that of the base type, or that of raw bytes. -/
theorem Means.id_eq (h : Means history id dpt) :
    dpt.id = id ∨ dpt.id = id.base ∨ dpt.id = ⟨0, 0⟩ := by
  cases h with
  | exactly hlatest =>
    obtain ⟨-, -, -, hid, -⟩ := hlatest
    exact Or.inl hid
  | base _ hlatest =>
    obtain ⟨-, -, -, hid, -⟩ := hlatest
    exact Or.inr (Or.inl hid)
  | raw => exact Or.inr (Or.inr rfl)

theorem resolve_congr {r' : Registry} (h : ∀ id, r'.lookup id = r.lookup id) :
    r'.resolve id = r.resolve id := by
  rw [resolve, resolve, h, h]

/-! ## The number of types -/

theorem size_eq_card_keys (r : Registry) : r.size = r.types.keys.toFinset.card := by
  rw [List.toFinset_card_of_nodup (show r.types.keys.Nodup from r.types.nodup)]
  exact (List.length_map Prod.fst).symm

theorem HasHistory.size_eq (h : r.HasHistory history) :
    r.size = (history.map DatapointType.id).toFinset.card := by
  have hkeys : r.types.keys.toFinset = (history.map DatapointType.id).toFinset := by
    ext id
    have hknown : r.lookup id ≠ none ↔ ∃ dpt ∈ history, dpt.id = id := by
      rw [ne_eq, h.lookup_eq_none_iff]
      simp [IsUnknown]
    rw [List.mem_toFinset, List.mem_toFinset, List.mem_map, Table.mem_keys_iff,
      Option.isSome_iff_ne_none]
    exact hknown
  rw [size_eq_card_keys, hkeys]

/-! ## Order -/

/-- Among types with different ids, the one with an id is found wherever it stands. -/
theorem find?_reverse_eq_some_iff_mem {dpts : List DatapointType}
    (h : (dpts.map DatapointType.id).Nodup) :
    (dpts.reverse.find? fun dpt => dpt.id = id) = some dpt ↔ dpt ∈ dpts ∧ dpt.id = id := by
  constructor
  · intro hfind
    have hmem := List.mem_of_find?_eq_some hfind
    have hid := List.find?_some hfind
    exact ⟨List.mem_reverse.1 hmem, of_decide_eq_true hid⟩
  · rintro ⟨hmem, rfl⟩
    obtain ⟨before, after, rfl⟩ := List.append_of_mem hmem
    refine find?_reverse_eq_some_iff.2 ⟨before, after, rfl, rfl, fun later hlater heq => ?_⟩
    rw [List.map_append, List.map_cons, List.nodup_append, List.nodup_cons] at h
    exact h.2.1.1 (List.mem_map.2 ⟨later, hlater, heq⟩)

theorem lookup_registerAll_perm (r : Registry) {first second : List DatapointType}
    (h : (first.map DatapointType.id).Nodup) (hperm : first.Perm second) (id : DatapointId) :
    (r.registerAll second).lookup id = (r.registerAll first).lookup id := by
  have h' : (second.map DatapointType.id).Nodup := (hperm.map _).nodup_iff.1 h
  have hfind : (second.reverse.find? fun dpt => dpt.id = id) =
      first.reverse.find? fun dpt => dpt.id = id := by
    ext dpt
    rw [find?_reverse_eq_some_iff_mem h, find?_reverse_eq_some_iff_mem h', hperm.mem_iff]
  rw [lookup_registerAll, lookup_registerAll, hfind]

/-- A registry with any history knows under an id the type that was registered last with it, and
    resolves the id to that type, to the one of its base type, or to raw bytes. It holds as many
    types as there are ids in its history. Registering types with different ids makes the same of
    it in any order. -/
theorem resolution_of_history (h : r.HasHistory history) :
    (∀ id dpt, r.lookup id = some dpt ↔ IsLatest history id dpt) ∧
    (∀ id, r.lookup id = none ↔ IsUnknown history id) ∧
    (∀ id dpt, r.resolve id = dpt ↔ Means history id dpt) ∧
    (∀ id, (r.resolve id).id = id ∨ (r.resolve id).id = id.base ∨
      (r.resolve id).id = ⟨0, 0⟩) ∧
    r.size = (history.map DatapointType.id).toFinset.card ∧
    ∀ first second, (first.map DatapointType.id).Nodup → first.Perm second → ∀ id,
      (r.registerAll second).lookup id = (r.registerAll first).lookup id ∧
        (r.registerAll second).resolve id = (r.registerAll first).resolve id := by
  refine ⟨fun id dpt => h.lookup_eq_some_iff, fun id => h.lookup_eq_none_iff,
    fun id dpt => h.resolve_eq_iff, fun id => (h.resolve_eq_iff.1 rfl).id_eq, h.size_eq, ?_⟩
  intro first second hnodup hperm id
  have hlookup := lookup_registerAll_perm r hnodup hperm
  exact ⟨hlookup id, resolve_congr hlookup⟩

/-- A switch is registered twice with other labels, and a type with the id of raw bytes, to which
    the ids of base 0 then resolve. Two more types may come in either order. -/
theorem resolution_of_history_replaced :
    let r := reference.registerAll
      [.boolean ⟨1, 1⟩ "up" "down", .unsigned ⟨0, 0⟩ (.word "K"), .boolean ⟨1, 1⟩ "open" "shut"]
    r.lookup ⟨1, 1⟩ = some (.boolean ⟨1, 1⟩ "open" "shut") ∧ r.lookup ⟨1, 9⟩ = none ∧
      r.resolve ⟨1, 9⟩ = .boolean ⟨1, 0⟩ "false" "true" ∧
      r.resolve ⟨0, 9⟩ = .unsigned ⟨0, 0⟩ (.word "K") ∧ r.resolve ⟨9, 9⟩ = .raw ∧
      r.size = 11 ∧
      ∀ id, (r.registerAll [.raw, .unsigned ⟨9, 0⟩ .percent]).resolve id =
        (r.registerAll [.unsigned ⟨9, 0⟩ .percent, .raw]).resolve id := by
  intro r
  obtain ⟨hlookup, hnone, hresolve, -, hsize, horder⟩ := resolution_of_history
    (.onReference [.boolean ⟨1, 1⟩ "up" "down", .unsigned ⟨0, 0⟩ (.word "K"),
      .boolean ⟨1, 1⟩ "open" "shut"])
  refine ⟨(hlookup _ _).2 ⟨referenceTypes ++ [.boolean ⟨1, 1⟩ "up" "down",
      .unsigned ⟨0, 0⟩ (.word "K")], [], rfl, rfl, nofun⟩, (hnone _).2 (by decide),
    (hresolve _ _).2 (.base (by decide) ⟨[], _, rfl, rfl, by decide⟩),
    (hresolve _ _).2 (.base (by decide) ⟨referenceTypes ++ [.boolean ⟨1, 1⟩ "up" "down"],
      _, rfl, rfl, by decide⟩),
    (hresolve _ _).2 (.raw (by decide) (by decide)), hsize.trans (by decide), fun id => ?_⟩
  exact (horder _ _ (by decide) (.swap _ _ _) id).2

end Registry

end KnxGateway
