import KnxGateway.Proofs.Dispatch.Undisturbed
import Mathlib.Data.List.Forall2
import Mathlib.Data.List.Pairwise
import Mathlib.Tactic.ByContra

set_option autoImplicit false

/-! # Independent requests

Two requests are independent when they name different addresses, or when both are reads. Several
requests that are carried out together leave one history on the bus, into which the actions of the
single requests are merged. If the requests are independent, nothing that can be told afterwards
depends on the way they are merged: not the responses, not the last values, and not the number of
requests that the bus counted. -/

namespace KnxGateway

/-! ## Independence -/

/-- Two requests name different addresses unless both are reads. -/
def Request.IsIndependentOf (request other : Request) : Prop :=
  request.address = other.address → (∃ r, request = .read r) ∧ ∃ r, other = .read r

instance : Std.Symm Request.IsIndependentOf :=
  ⟨fun _ _ h heq => (h heq.symm).symm⟩

/-- Requests that all name different addresses are independent. -/
theorem Request.pairwise_isIndependentOf {requests : List Request}
    (h : (requests.map Request.address).Nodup) : requests.Pairwise Request.IsIndependentOf :=
  (List.pairwise_map.1 h).imp fun hne heq => absurd heq hne

/-- Of independent requests at most one writes an address, and then nobody reads it. -/
theorem Request.eq_of_written? {requests : List Request}
    (hindependent : requests.Pairwise Request.IsIndependentOf) {request other : Request}
    (hrequest : request ∈ requests) (hother : other ∈ requests) {v : DatapointValue}
    (hwritten : other.written? = some (request.address, v)) : other = request := by
  by_contra hne
  obtain ⟨r, rfl, -, haddress, -⟩ := Request.written?_eq_some_iff.1 hwritten
  obtain ⟨⟨s, hread⟩, -⟩ := hindependent.forall hother hrequest hne haddress
  cases hread

/-! ## The number of bus requests -/

namespace Request

/-- Whether a request leads to a request of the bus. -/
def asksBus (request : Request) : Bool :=
  (request.busCall? (.ok true)).isSome

theorem isSome_busCall? (request : Request) (answer : BusAnswer) :
    (request.busCall? answer).isSome = request.asksBus := by
  unfold asksBus busCall?
  cases request.address.isValid with
  | false => rfl
  | true =>
    cases request with
    | read r => rfl
    | write r => cases hparse : r.datapoint.parse r.arguments <;> simp [hparse]

/-- The bus is asked once or not at all. -/
theorem countP_isBusRequest {request : Request} {part : List Effect}
    (hperforms : RequestTask.Performs request.task part) :
    part.countP Effect.isBusRequest = if request.asksBus then 1 else 0 := by
  obtain ⟨answers, rfl⟩ := RequestTask.exists_transcript_of_performs hperforms
  rw [List.countP_eq_length_filter, filter_isBusRequest_transcript,
    ← isSome_busCall? request answers.bus]
  cases request.busCall? answers.bus <;> rfl

end Request

/-! ## Requests carried out together -/

/-- Several requests, each with all that was done for it, lead from one state of a bus to another:
    the whole history is some merge of the parts. -/
structure Merge (requests : List Request) (b : MemoryBus) (parts : List (List Effect))
    (whole : List Effect) (b' : MemoryBus) : Prop where
  performs : List.Forall₂ (fun request part => RequestTask.Performs request.task part)
    requests parts
  perm : whole.Perm parts.flatten
  leads : b.Leads whole b'

namespace Merge

variable {requests : List Request} {b b' : MemoryBus} {parts : List (List Effect)}
  {whole : List Effect}

/-- A merge writes what the requests have to write. -/
theorem exists_wrote_mem_iff (h : Merge requests b parts whole b') {a : GroupAddress}
    {v : DatapointValue} :
    (∃ answer, .wrote a v answer ∈ whole) ↔
      ∃ request ∈ requests, request.written? = some (a, v) := by
  have hparts := h.performs
  simp only [h.perm.mem_iff]
  clear h
  induction hparts with
  | nil => simp
  | cons hpart _ ih =>
    simp only [List.flatten_cons, List.mem_append, List.mem_cons, exists_or, ih,
      exists_eq_or_imp, Request.exists_wrote_mem_iff hpart]

/-- Independent requests get the responses that each of them would get alone. -/
theorem frames (h : Merge requests b parts whole b')
    (hindependent : requests.Pairwise Request.IsIndependentOf) :
    parts.map Effect.frames = requests.map fun request =>
      (request.responsesOn b).map fun r => frameOf request.responseAction r.encode := by
  have hpart : ∀ part ∈ parts, ∀ e ∈ part, e ∈ whole := fun part hpart e he =>
    h.perm.mem_iff.2 (List.mem_flatten.2 ⟨part, hpart, he⟩)
  -- who writes what a request reads is the request itself, and that writes nothing
  have hunwritten : ∀ request ∈ requests, ∀ r, request = .read r →
      ∀ v answer, .wrote r.address v answer ∉ whole := by
    rintro request hrequest r rfl v answer hmem
    obtain ⟨other, hother, hwritten⟩ := h.exists_wrote_mem_iff.1 ⟨answer, hmem⟩
    rw [Request.eq_of_written? hindependent hrequest hother hwritten] at hwritten
    cases hwritten
  have hleads := h.leads
  have hparts := h.performs
  clear h hindependent
  -- the history as a whole is the same for all parts, so the induction is on the parts alone
  induction hparts with
  | nil => rfl
  | cons hfirst _ ih =>
    rw [List.map_cons, List.map_cons,
      Request.frames_of_undisturbed hleads hfirst (hpart _ List.mem_cons_self)
        (hunwritten _ List.mem_cons_self),
      ih (fun part hmem => hpart part (List.mem_cons_of_mem _ hmem))
        fun request hmem => hunwritten request (List.mem_cons_of_mem _ hmem)]

/-- Independent requests leave the same values, however they are merged. -/
theorem lastValue_eq (h : Merge requests b parts whole b') {parts' : List (List Effect)}
    {whole' : List Effect} {b'' : MemoryBus} (h' : Merge requests b parts' whole' b'')
    (hindependent : requests.Pairwise Request.IsIndependentOf) (a : GroupAddress) :
    b'.pool.lastValue a = b''.pool.lastValue a := by
  cases hack : b.writeAnswer.isAcknowledged with
  | false =>
    rw [MemoryBus.lastValue_of_refused h.leads hack,
      MemoryBus.lastValue_of_refused h'.leads hack]
  | true =>
    by_cases hwritten : ∃ v answer, .wrote a v answer ∈ whole
    · -- one request writes the address, and it writes one value
      obtain ⟨v, hmem⟩ := hwritten
      obtain ⟨request, hrequest, hv⟩ := h.exists_wrote_mem_iff.1 hmem
      have haddress : request.address = a := by
        obtain ⟨r, rfl, -, haddress, -⟩ := Request.written?_eq_some_iff.1 hv
        exact haddress
      have hsame : ∀ other ∈ requests, ∀ u, other.written? = some (a, u) → u.bytes = v.bytes := by
        intro other hother u hu
        rw [← haddress] at hu
        rw [Request.eq_of_written? hindependent hrequest hother hu, haddress, hv] at hu
        cases hu
        rfl
      have hmem' := h'.exists_wrote_mem_iff.2 ⟨request, hrequest, hv⟩
      have hfinal := MemoryBus.lastValue_of_written h.leads hack (fun u answer hu => by
        obtain ⟨other, hother, hu⟩ := h.exists_wrote_mem_iff.1 ⟨answer, hu⟩
        exact hsame other hother u hu) (Or.inr ⟨v, hmem⟩)
      have hfinal' := MemoryBus.lastValue_of_written h'.leads hack (fun u answer hu => by
        obtain ⟨other, hother, hu⟩ := h'.exists_wrote_mem_iff.1 ⟨answer, hu⟩
        exact hsame other hother u hu) (Or.inr ⟨v, hmem'⟩)
      rw [hfinal, hfinal']
    · -- nobody writes the address, in neither of the two
      have hunwritten : ∀ v answer, .wrote a v answer ∉ whole := fun v answer hmem =>
        hwritten ⟨v, answer, hmem⟩
      have hunwritten' : ∀ v answer, .wrote a v answer ∉ whole' := by
        intro v answer hmem
        obtain ⟨answer', hmem'⟩ :=
          h.exists_wrote_mem_iff.2 (h'.exists_wrote_mem_iff.1 ⟨answer, hmem⟩)
        exact hunwritten v answer' hmem'
      rw [MemoryBus.lastValue_of_unwritten h.leads hunwritten,
        MemoryBus.lastValue_of_unwritten h'.leads hunwritten']

/-- Any requests, independent or not, are counted alike in all merges. -/
theorem requestCount_eq (h : Merge requests b parts whole b') :
    b'.requestCount = b.requestCount + requests.countP Request.asksBus := by
  rw [MemoryBus.requestCount_of_leads h.leads, h.perm.countP_eq]
  have hparts := h.performs
  clear h
  congr 1
  induction hparts with
  | nil => rfl
  | cons hpart _ ih =>
    rw [List.flatten_cons, List.countP_append, ih, Request.countP_isBusRequest hpart,
      List.countP_cons, Nat.add_comm]

end Merge

end KnxGateway
