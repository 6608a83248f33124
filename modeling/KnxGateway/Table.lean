set_option autoImplicit false

/-! # Tables with distinct keys

A table holds at most one value for each key. It is a list of entries whose keys are distinct, and
its view is the lookup `get?`: two tables with the same lookups are interchangeable, whatever the
order of their entries. The registry of data point types, the status pool and the open
connections of a gateway are tables. -/

namespace KnxGateway

/-- A finite map from keys to values. -/
structure Table (κ ν : Type) where
  /-- The keys with their values, the latest insertion first. -/
  entries : List (κ × ν)
  /-- No key occurs twice. -/
  nodup : (entries.map Prod.fst).Nodup

namespace Table

variable {κ ν : Type}

/-! ## Operations -/

/-- The table without entries. -/
def empty : Table κ ν :=
  ⟨[], List.nodup_nil⟩

/-- The number of keys. -/
def size (t : Table κ ν) : Nat :=
  t.entries.length

/-- Whether the table has no key. -/
def isEmpty (t : Table κ ν) : Bool :=
  t.entries.isEmpty

/-- The keys of the table. -/
def keys (t : Table κ ν) : List κ :=
  t.entries.map Prod.fst

theorem isEmpty_iff (t : Table κ ν) : t.isEmpty ↔ t.size = 0 := by
  simp [isEmpty, size]

variable [DecidableEq κ]

/-- The value of a key. -/
def get? (t : Table κ ν) (k : κ) : Option ν :=
  (t.entries.find? fun entry => entry.1 = k).map Prod.snd

/-- Whether a key has a value. -/
def contains (t : Table κ ν) (k : κ) : Bool :=
  (t.get? k).isSome

/-- The table without a key. -/
def erase (t : Table κ ν) (k : κ) : Table κ ν :=
  ⟨t.entries.filter fun entry => entry.1 ≠ k,
    t.nodup.sublist (List.filter_sublist.map Prod.fst)⟩

/-- The table with a key set to a value. -/
def insert (t : Table κ ν) (k : κ) (v : ν) : Table κ ν :=
  ⟨(k, v) :: (t.erase k).entries, by
    simp only [List.map_cons, List.nodup_cons]
    exact ⟨by simp [erase], (t.erase k).nodup⟩⟩

/-! ## Lookup -/

/-- A removed key has no value, and the other keys keep theirs. -/
theorem get?_erase (t : Table κ ν) (k x : κ) :
    (t.erase k).get? x = if x = k then none else t.get? x := by
  obtain ⟨entries, nodup⟩ := t
  simp only [get?, erase]
  clear nodup
  induction entries with
  | nil => simp
  | cons entry rest ih => grind

/-- A set key has its new value, and the other keys keep theirs. -/
theorem get?_insert (t : Table κ ν) (k x : κ) (v : ν) :
    (t.insert k v).get? x = if x = k then some v else t.get? x := by
  have rest := get?_erase t k x
  by_cases h : x = k
  · simp [h, get?, insert]
  · rw [if_neg h] at rest ⊢
    rw [← rest]
    simp [get?, insert, Ne.symm h]

theorem mem_keys_iff (t : Table κ ν) (k : κ) : k ∈ t.keys ↔ (t.get? k).isSome := by
  simp [keys, get?]

end Table

end KnxGateway
