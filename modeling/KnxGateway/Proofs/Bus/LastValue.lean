import KnxGateway.Bus.Operation
import Mathlib.Data.Set.Card

set_option autoImplicit false

/-! # A bus in memory stores last values

A bus in memory is a store whose writes may be refused. What it stores follows from the history of
the operations alone: the value of an address is what the latest operation left there that has
anything to say about it, where a write counts if it was acknowledged. Neither the operations on
other addresses nor the mode at the end matter. -/

namespace KnxGateway

/-! ## What an operation leaves behind -/

/-- Whether an operation can have a part in the value of an address. The modes decide which writes
    are acknowledged. -/
def BusOperation.concerns (a : GroupAddress) : BusOperation → Bool
  | .setMode _ => true
  | .setValue x _ | .removeValue x | .read x | .write x _ => a = x

/-- The mode that an operation sets, if it sets one. -/
def BusOperation.mode? : BusOperation → Option BusMode
  | .setMode mode => some mode
  | .setValue _ _ | .removeValue _ | .read _ | .write _ _ => none

/-- What an operation with its result leaves at an address, a value or nothing. It is none if the
    operation leaves the address as it is. -/
def BusOperation.settled? (a : GroupAddress) : BusOperation × BusResult → Option (Option (List UInt8))
  | (.setValue x bytes, _) => if a = x then some (some bytes) else none
  | (.removeValue x, _) => if a = x then some none else none
  | (.write x v, .answered answer) =>
    if a = x ∧ answer.isAcknowledged then some (some v.bytes) else none
  | _ => none

namespace MemoryBus

open BusOperation (settled?)

variable {b b' : MemoryBus} {a : GroupAddress} {op : BusOperation} {operations : List BusOperation}
  {history : List (BusOperation × BusResult)}

/-! ## One operation -/

theorem mode_perform (b : MemoryBus) (op : BusOperation) :
    (b.perform op).2.mode = op.mode?.getD b.mode := by
  cases op <;> rfl

theorem requestCount_perform (b : MemoryBus) (op : BusOperation) :
    (b.perform op).2.requestCount = b.requestCount + if op.isRequest then 1 else 0 := by
  cases op <;> rfl

theorem lastValue_perform (b : MemoryBus) (op : BusOperation) (a : GroupAddress) :
    (b.perform op).2.pool.lastValue a =
      (settled? a (op, (b.perform op).1)).getD (b.pool.lastValue a) := by
  cases op with
  | setMode mode => rfl
  | setValue x bytes => by_cases h : a = x <;> simp [perform, settled?, StatusPool.lastValue_set, h]
  | removeValue x => by_cases h : a = x <;> simp [perform, settled?, StatusPool.lastValue_remove, h]
  | read x => rfl
  | write x v =>
    by_cases hack : b.writeAnswer.isAcknowledged = true
    · by_cases h : a = x <;> simp [perform, write, settled?, StatusPool.lastValue_set, hack, h]
    · simp [perform, write, settled?, hack]

/-- Two buses that agree on the mode and on the value of an address still agree on it after the
    same operation. -/
theorem lastValue_perform_congr (op : BusOperation) (hmode : b'.mode = b.mode)
    (hvalue : b'.pool.lastValue a = b.pool.lastValue a) :
    (b'.perform op).2.pool.lastValue a = (b.perform op).2.pool.lastValue a := by
  have hanswer : b'.writeAnswer = b.writeAnswer := writeAnswer_congr hmode
  rw [lastValue_perform, lastValue_perform, hvalue]
  cases op <;> simp [settled?, perform, write, hanswer]

/-- An operation on another address changes neither the mode nor the value. -/
theorem perform_of_not_concerns (b : MemoryBus) (h : op.concerns a = false) :
    (b.perform op).2.mode = b.mode ∧ (b.perform op).2.pool.lastValue a = b.pool.lastValue a := by
  rw [mode_perform, lastValue_perform]
  cases op <;> simp_all [BusOperation.concerns, BusOperation.mode?, settled?, perform]

/-! ### Refusals -/

/-- A bus that acknowledges nothing keeps its pool. -/
theorem pool_perform_of_isRequest (hop : op.isRequest = true)
    (h : b.mode = .rejectAll ∨ b.mode = .offline) : (b.perform op).2.pool = b.pool := by
  cases op with
  | read x => rfl
  | write x v =>
    have hrefused : b.writeAnswer.isAcknowledged = false := by
      unfold writeAnswer
      rcases h with h | h <;> rw [h] <;> rfl
    simp [perform, write, hrefused]
  | _ => simp [BusOperation.isRequest] at hop

theorem perform_of_offline (hop : op.isRequest = true) (h : b.mode = .offline) :
    (b.perform op).1 = .answered (.error offlineError) := by
  cases op with
  | read x => simp [perform, read, readAnswer, h]
  | write x v => simp [perform, write, writeAnswer, h]
  | _ => simp [BusOperation.isRequest] at hop

/-! ## All operations -/

/-- The store that a history describes is the one that the bus has. -/
structure Stores (b : MemoryBus) (history : List (BusOperation × BusResult)) : Prop where
  mode : b.mode = (history.filterMap fun done => done.1.mode?).getLast?.getD .acknowledgeKnown
  lastValue (a : GroupAddress) :
    b.pool.lastValue a = (history.filterMap (settled? a)).getLast?.getD none
  requestCount : b.requestCount = history.countP fun done => done.1.isRequest

theorem stores_initial : initial.Stores [] :=
  ⟨rfl, fun _ => rfl, rfl⟩

theorem Stores.perform (h : b.Stores history) (op : BusOperation) :
    (b.perform op).2.Stores (history ++ [(op, (b.perform op).1)]) where
  mode := by
    rw [mode_perform, h.mode, List.filterMap_append, List.getLast?_append]
    cases op <;> simp [BusOperation.mode?]
  lastValue a := by
    rw [lastValue_perform, h.lastValue a, List.filterMap_append, List.getLast?_append]
    cases hsettled : settled? a (op, (b.perform op).1) <;> simp [hsettled]
  requestCount := by
    rw [requestCount_perform, h.requestCount, List.countP_append]
    cases op <;> simp [BusOperation.isRequest]

theorem Stores.performAll (h : b.Stores history) (operations : List BusOperation) :
    (b.performAll operations).2.Stores (history ++ (b.performAll operations).1) := by
  induction operations generalizing b history with
  | nil => simpa [MemoryBus.performAll] using h
  | cons op operations ih => simpa [MemoryBus.performAll] using ih (h.perform op)

theorem map_fst_performAll (b : MemoryBus) (operations : List BusOperation) :
    (b.performAll operations).1.map Prod.fst = operations := by
  induction operations generalizing b with
  | nil => rfl
  | cons op operations ih => simp [MemoryBus.performAll, ih]

/-- Without the operations on other addresses the value is the same. -/
theorem lastValue_performAll_filter (operations : List BusOperation) (hmode : b'.mode = b.mode)
    (hvalue : b'.pool.lastValue a = b.pool.lastValue a) :
    (b'.performAll (operations.filter (BusOperation.concerns a))).2.pool.lastValue a =
      (b.performAll operations).2.pool.lastValue a := by
  -- the two buses agree on the mode and on this value all along, and may differ in all the rest
  induction operations generalizing b b' with
  | nil => exact hvalue
  | cons op operations ih =>
    by_cases hop : op.concerns a = true
    · have hmodeAfter : (b'.perform op).2.mode = (b.perform op).2.mode := by
        rw [mode_perform, mode_perform, hmode]
      rw [List.filter_cons_of_pos hop]
      exact ih hmodeAfter (lastValue_perform_congr op hmode hvalue)
    · rw [Bool.not_eq_true] at hop
      obtain ⟨hmodeAfter, hvalueAfter⟩ := perform_of_not_concerns b hop
      rw [List.filter_cons_of_neg (by simp [hop])]
      exact ih (hmode.trans hmodeAfter.symm) (hvalue.trans hvalueAfter.symm)

end MemoryBus

namespace StatusPool

/-! ## The size of the pool -/

theorem encard_valued (p : StatusPool) :
    {a | ∃ bytes, p.lastValue a = some bytes}.encard = p.size := by
  have hkeys : {a | ∃ bytes, p.lastValue a = some bytes} = (p.values.keys.toFinset : Set _) := by
    ext a
    simp [Table.mem_keys_iff, Option.isSome_iff_exists, lastValue]
  have hcard : p.values.keys.toFinset.card = p.size := by
    rw [List.toFinset_card_of_nodup (show p.values.keys.Nodup from p.values.nodup)]
    simp [Table.keys, size, Table.size]
  rw [hkeys, Set.encard_coe_eq_coe_finsetCard, hcard]

theorem isEmpty_iff (p : StatusPool) : p.isEmpty ↔ ∀ a, p.lastValue a = none := by
  rw [show p.isEmpty ↔ p.size = 0 from Table.isEmpty_iff p.values]
  have hsize := p.encard_valued
  constructor
  · intro hzero a
    rw [hzero, Nat.cast_zero, Set.encard_eq_zero] at hsize
    by_contra hvalue
    obtain ⟨bytes, hvalue⟩ := Option.ne_none_iff_exists'.1 hvalue
    exact Set.eq_empty_iff_forall_notMem.1 hsize a ⟨bytes, hvalue⟩
  · intro hnone
    simp only [hnone, reduceCtorEq, exists_false, Set.ofPred_false, Set.encard_empty] at hsize
    exact_mod_cast hsize.symm

end StatusPool

namespace MemoryBus

/-! ## The store -/

/-- A bus in memory that starts empty stores what the history of its operations settled, whatever
    the operations are, and answers the next one by its mode and its store alone. -/
theorem performAll_initial_stores (operations : List BusOperation) :
    let history := (initial.performAll operations).1
    let b := (initial.performAll operations).2
    history.map Prod.fst = operations ∧
      b.Stores history ∧
      (∀ a, (initial.performAll (operations.filter (BusOperation.concerns a))).2.pool.lastValue a =
        b.pool.lastValue a) ∧
      (∀ a, b.pool.contains a ↔ ∃ bytes, b.pool.lastValue a = some bytes) ∧
      {a | ∃ bytes, b.pool.lastValue a = some bytes}.encard = b.pool.size ∧
      (b.pool.isEmpty ↔ ∀ a, b.pool.lastValue a = none) ∧
      (∀ a, (b.perform (.removeValue a)).1 = .removed (b.pool.lastValue a)) ∧
      (∀ a v, (b.perform (.write a v)).1 = .answered (.ok true) ↔
        b.mode = .acknowledgeKnown ∨ b.mode = .acknowledgeAll) ∧
      (∀ a, (b.perform (.read a)).1 = .answered (.ok true) ↔
        b.mode = .acknowledgeAll ∨
          (b.mode = .acknowledgeKnown ∧ ∃ bytes, b.pool.lastValue a = some bytes)) ∧
      ∀ op : BusOperation, op.isRequest →
        (b.mode = .offline → (b.perform op).1 = .answered (.error offlineError)) ∧
          (b.mode = .rejectAll ∨ b.mode = .offline → (b.perform op).2.pool = b.pool) := by
  intro history b
  have hstores : b.Stores history := by
    simpa [history, b] using stores_initial.performAll operations
  refine ⟨map_fst_performAll _ _, hstores, fun a => lastValue_performAll_filter _ rfl rfl,
    fun a => ?_, b.pool.encard_valued, b.pool.isEmpty_iff, fun a => rfl, fun a v => ?_,
    fun a => ?_, fun op hop => ⟨perform_of_offline hop, pool_perform_of_isRequest hop⟩⟩
  · rw [StatusPool.contains_eq, Option.isSome_iff_exists]
  · simpa [perform, write] using b.writeAnswer_eq_iff
  · simpa [perform, read] using b.readAnswer_eq_iff a

theorem performAll_initial_stores_offline :
    let b := (initial.performAll [.setValue ⟨2563⟩ [0x12, 0x67], .setMode .offline]).2
    (b.perform (.read ⟨2563⟩)).1 = .answered (.error offlineError) ∧
      (b.perform (.write ⟨2563⟩ ⟨⟨9, 1⟩, [0, 0], "0"⟩)).2.pool.lastValue ⟨2563⟩ =
        some [0x12, 0x67] := by
  intro b
  obtain ⟨-, hstores, -, -, -, -, -, -, -, hrequest⟩ :=
    performAll_initial_stores [.setValue ⟨2563⟩ [0x12, 0x67], .setMode .offline]
  refine ⟨(hrequest (.read ⟨2563⟩) rfl).1 rfl, ?_⟩
  rw [(hrequest (.write ⟨2563⟩ ⟨⟨9, 1⟩, [0, 0], "0"⟩) rfl).2 (Or.inr rfl)]
  exact hstores.lastValue ⟨2563⟩

end MemoryBus

end KnxGateway
