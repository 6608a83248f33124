import KnxGateway.Bus.Memory
import KnxGateway.Dispatch.World

set_option autoImplicit false

/-! # The history of a bus in memory

All that matters to a bus in memory are the requests that it gets and their order, not the tasks
they come from. A history is a list of effects whose answers are the ones the bus gave at that
time. It says what a value is afterwards: what the latest acknowledged write of the address put
there, or what was there before. -/

namespace KnxGateway

/-! ## The latest write -/

namespace Effect

/-- The bytes that an effect puts at an address, if it is a write that was acknowledged. -/
def written? (a : GroupAddress) : Effect → Option (List UInt8)
  | wrote x v answer => if a = x ∧ answer.isAcknowledged then some v.bytes else none
  | counted _ | read _ _ | lookedUp _ _ | handedOver _ _ => none

/-- The bytes that the latest acknowledged write of an address put there. -/
def latestWrite? (a : GroupAddress) (effects : List Effect) : Option (List UInt8) :=
  (effects.filterMap (written? a)).getLast?

variable {a : GroupAddress} {effects : List Effect}

theorem latestWrite?_eq_none_iff :
    latestWrite? a effects = none ↔
      ∀ v answer, .wrote a v answer ∈ effects → answer.isAcknowledged = false := by
  rw [latestWrite?, List.getLast?_eq_none_iff, List.filterMap_eq_nil_iff]
  constructor
  · intro h v answer hmem
    simpa [written?] using h _ hmem
  · intro h e hmem
    cases e with
    | wrote x v answer =>
      rw [written?, if_neg]
      rintro ⟨rfl, hack⟩
      rw [h v answer hmem] at hack
      cases hack
    | _ => rfl

theorem exists_of_latestWrite?_eq_some {bytes : List UInt8}
    (h : latestWrite? a effects = some bytes) :
    ∃ v answer, .wrote a v answer ∈ effects ∧ answer.isAcknowledged = true ∧ bytes = v.bytes := by
  obtain ⟨e, hmem, hwritten⟩ := List.mem_filterMap.1 (List.mem_of_getLast? h)
  cases e with
  | wrote x v answer =>
    rw [written?, Option.ite_none_right_eq_some, Option.some.injEq] at hwritten
    obtain ⟨⟨rfl, hack⟩, rfl⟩ := hwritten
    exact ⟨v, answer, hmem, hack, rfl⟩
  | _ => cases hwritten

end Effect

/-! ## Histories -/

namespace MemoryBus

/-- The bus after an effect. -/
def after (b : MemoryBus) : Effect → MemoryBus
  | .read a _ => (b.read a).2
  | .wrote a v _ => (b.write a v).2
  | .counted _ | .lookedUp _ _ | .handedOver _ _ => b

/-- The answer in an effect is the one that the bus gives now. -/
def Gives (b : MemoryBus) : Effect → Prop
  | .read a answer => answer = b.readAnswer a
  | .wrote _ _ answer => answer = b.writeAnswer
  | .lookedUp a value => value = b.pool.lastValue a
  | .counted _ | .handedOver _ _ => True

/-- The effects lead from one state of the bus to another, and all answers are right. -/
def Leads : MemoryBus → List Effect → MemoryBus → Prop
  | b, [], b' => b' = b
  | b, e :: effects, b' => b.Gives e ∧ Leads (b.after e) effects b'

variable {b b' : MemoryBus} {effects later : List Effect} {a : GroupAddress}

theorem leads_append_iff :
    b.Leads (effects ++ later) b' ↔ ∃ middle, b.Leads effects middle ∧ middle.Leads later b' := by
  induction effects generalizing b with
  | nil => simp [Leads]
  | cons e effects ih => simp [Leads, ih, and_assoc]

theorem leads_concat_iff {e : Effect} :
    b.Leads (effects ++ [e]) b' ↔
      ∃ middle, b.Leads effects middle ∧ middle.Gives e ∧ b' = middle.after e := by
  simp [leads_append_iff, Leads]

/-! ### What stays -/

@[simp] theorem mode_after (e : Effect) : (b.after e).mode = b.mode := by
  cases e <;> rfl

theorem mode_of_leads (h : b.Leads effects b') : b'.mode = b.mode := by
  induction effects generalizing b with
  | nil => rw [h]
  | cons e effects ih => rw [ih h.2, mode_after]

/-- One effect changes no value but that of an address it wrote with success. -/
theorem lastValue_after (e : Effect) :
    (b.after e).pool.lastValue a =
      match e with
      | .wrote x v _ =>
        if b.writeAnswer.isAcknowledged ∧ a = x then some v.bytes else b.pool.lastValue a
      | _ => b.pool.lastValue a := by
  cases e with
  | wrote x v answer =>
    by_cases hack : b.writeAnswer.isAcknowledged = true
    · simp [after, write, hack, StatusPool.lastValue_set]
    · simp [after, write, hack]
  | _ => rfl

/-- The value of an address is what the latest acknowledged write put there. -/
theorem lastValue_of_leads (h : b.Leads effects b') :
    b'.pool.lastValue a = (Effect.latestWrite? a effects).or (b.pool.lastValue a) := by
  induction effects generalizing b with
  | nil =>
    rw [h]
    rfl
  | cons e effects ih =>
    have hfirst : (b.after e).pool.lastValue a = (e.written? a).or (b.pool.lastValue a) := by
      rw [lastValue_after]
      cases e with
      | wrote x v answer =>
        rw [← show answer = b.writeAnswer from h.1]
        simp only [Effect.written?, and_comm]
        split <;> rfl
      | _ => rfl
    rw [ih h.2, hfirst, Effect.latestWrite?, Effect.latestWrite?]
    cases hwritten : e.written? a with
    | none => rw [List.filterMap_cons_none hwritten, Option.none_or]
    | some bytes =>
      rw [List.filterMap_cons_some hwritten, List.getLast?_cons]
      cases (effects.filterMap (Effect.written? a)).getLast? <;> rfl

theorem writeAnswer_of_mem (h : b.Leads effects b') {v : DatapointValue} {answer : BusAnswer}
    (hmem : .wrote a v answer ∈ effects) : answer = b.writeAnswer := by
  obtain ⟨before, rest, rfl⟩ := List.append_of_mem hmem
  obtain ⟨middle, hbefore, hgives, -⟩ := leads_append_iff.1 h
  rw [show answer = middle.writeAnswer from hgives]
  exact writeAnswer_congr (mode_of_leads hbefore)

/-- An address keeps its value as long as nobody writes it. -/
theorem lastValue_of_unwritten (h : b.Leads effects b')
    (hunwritten : ∀ v answer, .wrote a v answer ∉ effects) :
    b'.pool.lastValue a = b.pool.lastValue a := by
  rw [lastValue_of_leads h, Effect.latestWrite?_eq_none_iff.2, Option.none_or]
  exact fun v answer hmem => absurd hmem (hunwritten v answer)

/-- An address keeps its value on a bus that acknowledges no writes. -/
theorem lastValue_of_refused (h : b.Leads effects b')
    (hrefused : b.writeAnswer.isAcknowledged = false) :
    b'.pool.lastValue a = b.pool.lastValue a := by
  rw [lastValue_of_leads h, Effect.latestWrite?_eq_none_iff.2, Option.none_or]
  intro v answer hmem
  rw [writeAnswer_of_mem h hmem, hrefused]

/-- If all writes of an address are of the same bytes, they are its value once one of them has
    been acknowledged. -/
theorem lastValue_of_written (h : b.Leads effects b')
    (hack : b.writeAnswer.isAcknowledged = true) {bytes : List UInt8}
    (hsame : ∀ v answer, .wrote a v answer ∈ effects → v.bytes = bytes)
    (hwritten : b.pool.lastValue a = some bytes ∨ ∃ v answer, .wrote a v answer ∈ effects) :
    b'.pool.lastValue a = some bytes := by
  rw [lastValue_of_leads h]
  cases hlatest : Effect.latestWrite? a effects with
  | some latest =>
    obtain ⟨v, answer, hmem, -, rfl⟩ := Effect.exists_of_latestWrite?_eq_some hlatest
    rw [hsame v answer hmem, Option.some_or]
  | none =>
    -- then nothing was written, since all writes are acknowledged
    rw [Option.none_or]
    refine hwritten.resolve_right fun ⟨v, answer, hmem⟩ => ?_
    have hanswer := Effect.latestWrite?_eq_none_iff.1 hlatest v answer hmem
    rw [writeAnswer_of_mem h hmem, hack] at hanswer
    cases hanswer

/-- The bus counts its requests. -/
theorem requestCount_of_leads (h : b.Leads effects b') :
    b'.requestCount = b.requestCount + effects.countP Effect.isBusRequest := by
  induction effects generalizing b with
  | nil => rw [h, List.countP_nil, Nat.add_zero]
  | cons e effects ih =>
    rw [ih h.2, List.countP_cons]
    cases e <;> simp [after, read, write, Effect.isBusRequest] <;> omega

/-! ### What was answered -/

theorem readAnswer_of_mem (h : b.Leads effects b')
    (hunwritten : ∀ v answer, .wrote a v answer ∉ effects) {answer : BusAnswer}
    (hmem : .read a answer ∈ effects) : answer = b.readAnswer a := by
  obtain ⟨before, rest, rfl⟩ := List.append_of_mem hmem
  obtain ⟨middle, hbefore, hgives, -⟩ := leads_append_iff.1 h
  -- nothing before the read has changed what the answer depends on
  rw [show answer = middle.readAnswer a from hgives]
  refine readAnswer_congr (mode_of_leads hbefore) (lastValue_of_unwritten hbefore ?_)
  exact fun v answer hmem => hunwritten v answer (List.mem_append_left _ hmem)

theorem lastValue_of_mem (h : b.Leads effects b')
    (hunwritten : ∀ v answer, .wrote a v answer ∉ effects) {value : Option (List UInt8)}
    (hmem : .lookedUp a value ∈ effects) : value = b.pool.lastValue a := by
  obtain ⟨before, rest, rfl⟩ := List.append_of_mem hmem
  obtain ⟨middle, hbefore, hgives, -⟩ := leads_append_iff.1 h
  rw [show value = middle.pool.lastValue a from hgives]
  refine lastValue_of_unwritten hbefore ?_
  exact fun v answer hmem => hunwritten v answer (List.mem_append_left _ hmem)

end MemoryBus

/-! ## Tasks make history -/

namespace RequestTask

variable {γ : Type} [Outlets γ] {w w' : World MemoryBus γ} {c : ConnectionId}
  {task next : RequestTask} {e : Effect} {effects : List Effect}

theorem leads_of_step (h : task.step c w = some (e, next, w')) :
    w.bus.Gives e ∧ w'.bus = w.bus.after e := by
  cases task <;> simp only [step, Option.some.injEq, Prod.mk.injEq, reduceCtorEq] at h <;>
    (obtain ⟨rfl, rfl, rfl⟩ := h; exact ⟨by first | rfl | exact True.intro, rfl⟩)

theorem leads_run (c : ConnectionId) (task : RequestTask) (w : World MemoryBus γ) :
    w.bus.Leads (task.run c w).1 (task.run c w).2.bus := by
  induction task generalizing w with
  | done => exact rfl
  | count counter next ih => exact ⟨True.intro, ih (w.record counter)⟩
  | readBus a next ih => exact ⟨rfl, ih (w.readBus a).1 (w.readBus a).2⟩
  | writeBus a v next ih => exact ⟨rfl, ih (w.writeBus a v).1 (w.writeBus a v).2⟩
  | lookUp a next ih => exact ⟨rfl, ih (Bus.lastValue w.bus a) w⟩
  | send frame next ih => exact ⟨True.intro, ih (w.send c frame).1 (w.send c frame).2⟩

end RequestTask

end KnxGateway
