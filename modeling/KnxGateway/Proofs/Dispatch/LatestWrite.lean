import KnxGateway.Proofs.Dispatch.Interleaving
import KnxGateway.Proofs.Dispatch.WriteThenRead

set_option autoImplicit false

/-! # Reads show the latest write

A read looks the last value up some time after the bus has acknowledged it, and any other job may
act in between. Still a bus that acknowledges what it knows never lets a read down: no request
takes a value away, so that what was known when the read was acknowledged is known at the lookup.
What the read shows are the bytes that the latest acknowledged write in front of its lookup has
left at the address, whichever job it came from. -/

namespace KnxGateway

/-! ## Around the lookup -/

/-- Whether a response tells of the bytes that a read found: of the value and the unit that its
    type makes of them, or of the bytes themselves if its type does not explain them. -/
def ReadRequest.Shows (r : ReadRequest) (bytes : List UInt8) (final : Response) : Prop :=
  match r.datapoint.render bytes with
  | .ok shown =>
    final.Concludes .success
      (if shown.unit = "" then shown.text else shown.text ++ " " ++ shown.unit)
  | .error _ =>
    final.Concludes .errorIncompatibleDatapointType
      (unrenderableMessage r.address r.datapoint bytes)

namespace Request

variable {r : ReadRequest} {request : Request} {answers : TaskAnswers} {a : GroupAddress}
  {value : Option (List UInt8)} {effects rest front back : List Effect}

/-- An announced request is a read that the bus acknowledged. -/
theorem eq_read_of_isAnnounced (h : request.isAnnounced answers.bus = true) :
    ∃ r, request = .read r ∧ r.address.isValid = true ∧ answers.bus = .ok true := by
  cases request with
  | write r => cases h
  | read r =>
    obtain ⟨hvalid, hack⟩ := Bool.and_eq_true_iff.1 h
    rcases hbus : answers.bus with e | _ | _
    · rw [hbus] at hack
      cases hack
    · rw [hbus] at hack
      cases hack
    · exact ⟨r, rfl, hvalid, rfl⟩

/-- What an acknowledged read does: it asks the bus, announces itself, looks the value up, and
    shows it. -/
theorem transcript_of_read_acknowledged (hvalid : r.address.isValid = true)
    (hbus : answers.bus = .ok true) :
    (read r).transcript answers =
      (.counted .busRequests :: .read r.address (.ok true) ::
          (Response.ofStatus false .success).handOver .readResponse answers.announced) ++
        .lookedUp r.address answers.value ::
          ((read r).closing (.ok true) answers.value).handOver .readResponse answers.closed := by
  have hcall : (read r).busCall? answers.bus = some (.read r.address (.ok true)) :=
    busCall?_eq_some_iff.2 ⟨hvalid, by rw [hbus]⟩
  have hannounced : (read r).isAnnounced answers.bus = true := by
    rw [isAnnounced, hvalid, hbus]
    rfl
  rw [transcript_of_announced hcall (by rw [hbus]; rfl) hannounced, hbus]
  rfl

/-- In front of a lookup is an acknowledged read of the same address, and behind it the last
    response. -/
theorem transcript_eq_append_lookedUp
    (h : request.transcript answers = front ++ .lookedUp a value :: back) :
    ∃ r, request = .read r ∧ r.address.isValid = true ∧ a = r.address ∧ value = answers.value ∧
      .read a (.ok true) ∈ front ∧
      back = ((read r).closing (.ok true) value).handOver .readResponse answers.closed := by
  have hmem : .lookedUp a value ∈ request.transcript answers := by
    rw [h]
    exact List.mem_append_right _ List.mem_cons_self
  obtain ⟨hannounced, rfl, rfl⟩ := lookedUp_mem_transcript_iff.1 hmem
  obtain ⟨r, rfl, hvalid, hbus⟩ := eq_read_of_isAnnounced hannounced
  rw [transcript_of_read_acknowledged hvalid hbus] at h
  obtain ⟨rfl, -, rfl⟩ := (List.append_cons_inj_of_notMem (by simp [Response.handOver])
    (by simp [Response.handOver])).1 h
  exact ⟨r, rfl, hvalid, rfl, rfl, by simp [address], rfl⟩

/-- What closes an acknowledged read shows the bytes that it found. -/
theorem shows_closing (hvalid : r.address.isValid = true) (bytes : List UInt8) :
    r.Shows bytes ((read r).closing (.ok true) (some bytes)) := by
  simp only [closing, conclusion, address, hvalid, if_true, ReadRequest.Shows]
  cases r.datapoint.render bytes with
  | ok shown =>
    simp only [RenderedValue.display_eq]
    exact Response.concludes_closing ..
  | error e => exact Response.concludes_closing ..

/-- A read that the bus acknowledged looks the value up. -/
theorem exists_lookedUp_mem (h : .read r.address (.ok true) ∈ (read r).transcript answers) :
    ∃ value, .lookedUp r.address value ∈ (read r).transcript answers := by
  rw [mem_transcript_iff_of_isBusRequest rfl, busCall?_eq_some_iff] at h
  obtain ⟨hvalid, hcall⟩ := h
  have hbus : answers.bus = .ok true := (Effect.read.inj hcall).2.symm
  refine ⟨answers.value, ?_⟩
  rw [transcript_of_read_acknowledged hvalid hbus]
  exact List.mem_append_right _ List.mem_cons_self

theorem conclusion_eq_errorTimeout_iff {answer : BusAnswer} :
    (request.conclusion answer value).1 = .errorTimeout ↔
      ∃ r, request = .read r ∧ r.address.isValid = true ∧ answer = .ok true ∧ value = none := by
  unfold conclusion
  cases hvalid : request.address.isValid with
  | false =>
    simp only [Bool.false_eq_true, if_false, reduceCtorEq, false_iff]
    rintro ⟨r, rfl, hr, -⟩
    rw [address, hr] at hvalid
    cases hvalid
  | true =>
    rw [if_pos rfl]
    cases request with
    | read r =>
      rw [address] at hvalid
      rcases answer with e | _ | _ <;> cases value <;> simp [hvalid]
      split <;> simp
    | write r =>
      cases hparse : r.datapoint.parse r.arguments with
      | error e => simp [hparse]
      | ok v => rcases answer with e | _ | _ <;> simp [hparse]

/-- As long as it has not looked a value up, a read has sent its announcement at most. -/
theorem eq_ofStatus_of_unseen (hvalid : r.address.isValid = true) (hbus : answers.bus = .ok true)
    (h : (read r).transcript answers = effects ++ rest)
    (hunseen : .lookedUp r.address answers.value ∉ effects) {frame : List UInt8}
    (hframe : frame ∈ Effect.frames effects) :
    frame = frameOf .readResponse (Response.ofStatus false .success).encode := by
  rw [transcript_of_read_acknowledged hvalid hbus] at h
  have hprefix : effects <+:
      .counted .busRequests :: .read r.address (.ok true) ::
        (Response.ofStatus false .success).handOver .readResponse answers.announced := by
    rcases List.append_eq_append_iff.1 h with ⟨seen, hseen, hlater⟩ | ⟨unseen, hunseen', -⟩
    · cases seen with
      | nil => exact ⟨[], by rw [hseen, List.append_nil, List.append_nil]⟩
      | cons e seen =>
        -- the first effect behind the announcement is the lookup
        obtain ⟨rfl, -⟩ := List.cons_eq_cons.1 hlater
        exact absurd (hseen ▸ List.mem_append_right _ List.mem_cons_self) hunseen
    · exact ⟨unseen, hunseen'.symm⟩
  have hframes := hprefix.subset
  obtain ⟨e, he, hsent⟩ := List.mem_filterMap.1 hframe
  have hmem := hframes he
  simp only [Response.handOver, List.mem_cons, List.not_mem_nil, or_false] at hmem
  rcases hmem with rfl | rfl | rfl | rfl <;> cases hsent
  rfl

/-- A read tells of a missing value only behind a lookup that found none. -/
theorem lookedUp_none_mem_of_errorTimeout (h : request.transcript answers = effects ++ rest)
    {frame : List UInt8} (hframe : frame ∈ Effect.frames effects) :
    ∃ reply, Reply.ofFrame frame = .ok reply ∧
      (reply.body.status = .errorTimeout → .lookedUp request.address none ∈ effects) := by
  have hframes : frame ∈ request.framesFor answers := by
    rw [← frames_transcript, h, Effect.frames, List.filterMap_append]
    exact List.mem_append_left _ hframe
  obtain ⟨response, hresponse, rfl⟩ := List.mem_map.1 hframes
  have hreply := Reply.ofFrame_frameOf request.responseAction
    (length_payload_of_mem_responses hresponse)
  refine ⟨_, hreply, fun htimeout => ?_⟩
  -- an announcement tells of a success, so that this is the last response
  have hclosing : (request.conclusion answers.bus answers.value).1 = .errorTimeout := by
    rcases eq_of_mem_responses hresponse with rfl | rfl
    · cases htimeout
    · rwa [closing, Response.status_closing] at htimeout
  obtain ⟨r, rfl, hvalid, hbus, hnone⟩ := conclusion_eq_errorTimeout_iff.1 hclosing
  by_contra hunseen
  have hannouncement := eq_ofStatus_of_unseen hvalid hbus h (hnone ▸ hunseen) hframe
  rw [hannouncement, Reply.ofFrame_frameOf _ (Response.length_payload_ofStatus _ _)] at hreply
  cases hreply
  cases htimeout

end Request

/-! ## What is looked up -/

namespace Dispatcher.Follows

variable {γ : Type} [Outlets γ] {registry : Registry} {start : World MemoryBus γ}
  {before after : List DispatchEvent} {d : Dispatcher MemoryBus γ} {i : Nat} {a : GroupAddress}
  {value : Option (List UInt8)}

/-- Where a job acted the bus was one to which the past led, and its answer was right. -/
theorem exists_leads {e : Effect} (h : Follows registry start (before ++ .worked i e :: after) d) :
    ∃ b, start.bus.Leads (DispatchEvent.effects before) b ∧ b.Gives e := by
  have hleads := h.leads
  rw [DispatchEvent.effects, List.filterMap_append] at hleads
  obtain ⟨b, hbefore, hgives, -⟩ := MemoryBus.leads_append_iff.1 hleads
  exact ⟨b, hbefore, hgives⟩

/-- A lookup finds what the latest acknowledged write in front of it has put there. -/
theorem lookedUp_eq
    (h : Follows registry start (before ++ .worked i (.lookedUp a value) :: after) d) :
    value = (Effect.latestWrite? a (DispatchEvent.effects before)).or
      (start.bus.pool.lastValue a) := by
  obtain ⟨b, hbefore, rfl⟩ := h.exists_leads
  exact MemoryBus.lastValue_of_leads hbefore

/-- A bus that acknowledges what it knows has a value for the lookup of a read that it
    acknowledged. -/
theorem lookedUp_ne_none
    (h : Follows registry start (before ++ .worked i (.lookedUp a value) :: after) d)
    (hmode : start.bus.mode = .acknowledgeKnown)
    (hread : .read a (.ok true) ∈ DispatchEvent.effects before) : value ≠ none := by
  obtain ⟨found, hbefore, rfl⟩ := h.exists_leads
  obtain ⟨early, late, hsplit⟩ := List.append_of_mem hread
  rw [hsplit] at hbefore
  -- the bus knew the address when it was asked, and nothing takes a value away
  obtain ⟨asked, hasked, hanswer, hlate⟩ := MemoryBus.leads_append_iff.1 hbefore
  have hack : asked.readAnswer a = .ok true := Eq.symm hanswer
  rw [MemoryBus.readAnswer_eq_iff, MemoryBus.mode_of_leads hasked, hmode] at hack
  obtain ⟨-, bytes, hbytes⟩ := hack.resolve_left nofun
  rw [MemoryBus.lastValue_of_leads hlate, MemoryBus.lastValue_after, hbytes]
  cases Effect.latestWrite? a late <;> simp

/-! ## What is handed over -/

variable {past : List DispatchEvent} {job : Job} {r : ReadRequest}

/-- No frame over a bus that acknowledges what it knows tells of a missing value. -/
theorem exists_reply_of_handedOver {frame : List UInt8} {outcome : SendOutcome}
    (h : Follows registry start past d) (hmode : start.bus.mode = .acknowledgeKnown)
    (hevent : .worked i (.handedOver frame outcome) ∈ past) :
    ∃ reply, Reply.ofFrame frame = .ok reply ∧ reply.body.status ≠ .errorTimeout := by
  obtain ⟨job, hjob⟩ : ∃ job, d.jobs[i]? = some job :=
    ⟨_, List.getElem?_eq_getElem (h.records.isJob i _ hevent)⟩
  obtain ⟨answers, rest, htranscript, -⟩ := h.records.exists_transcript hjob
  have hframe : frame ∈ Effect.frames (DispatchEvent.effectsOf past i) :=
    List.mem_filterMap.2 ⟨_, DispatchEvent.mem_effectsOf_iff.2 hevent, rfl⟩
  obtain ⟨reply, hreply, htimeout⟩ := Request.lookedUp_none_mem_of_errorTimeout htranscript hframe
  refine ⟨reply, hreply, fun hstatus => ?_⟩
  -- the lookup that found nothing was made for a read that was acknowledged
  obtain ⟨front, back, hsplit⟩ := List.append_of_mem (htimeout hstatus)
  rw [hsplit, List.append_assoc] at htranscript
  obtain ⟨r, -, -, -, -, hread, -⟩ := Request.transcript_eq_append_lookedUp htranscript
  obtain ⟨before, after, rfl, rfl, -⟩ := DispatchEvent.exists_split_of_effectsOf hsplit
  refine h.lookedUp_ne_none hmode ?_ rfl
  exact List.mem_filterMap.2 ⟨_, DispatchEvent.mem_effectsOf_iff.1 hread, rfl⟩

/-- Behind a lookup that finds bytes, a job hands at most one frame over, which shows them. -/
theorem exists_shows {bytes : List UInt8}
    (h : Follows registry start
      (before ++ .worked i (.lookedUp r.address (some bytes)) :: after) d)
    (hjob : d.jobs[i]? = some job) (hrequest : job.request = .read r) :
    ∃ final, r.Shows bytes final ∧
      let frames := Effect.frames (DispatchEvent.effectsOf after i)
      frames.map Reply.ofFrame <+: [.ok ⟨.readResponse, final⟩] ∧
        (job.task = .done → frames.map Reply.ofFrame = [.ok ⟨.readResponse, final⟩]) := by
  obtain ⟨answers, rest, htranscript, hrest⟩ := h.records.exists_transcript hjob
  rw [hrequest, DispatchEvent.effectsOf_append, DispatchEvent.effectsOf_cons_self,
    List.append_assoc, List.cons_append] at htranscript
  obtain ⟨_, hsame, hvalid, -, -, -, hback⟩ := Request.transcript_eq_append_lookedUp htranscript
  cases hsame
  have hshows := Request.shows_closing hvalid bytes
  have hfits : ((Request.read r).closing (.ok true) (some bytes)).payload.length ≤
      maxPayloadLength := Response.length_payload_closing ..
  generalize (Request.read r).closing (.ok true) (some bytes) = final at *
  -- one frame is handed over behind the lookup, or still to be handed over
  have hframes : Effect.frames (DispatchEvent.effectsOf after i) ++ Effect.frames rest =
      [frameOf .readResponse final.encode] := by
    rw [Effect.frames, Effect.frames, ← List.filterMap_append, hback]
    rfl
  have hreplies := congrArg (List.map Reply.ofFrame) hframes
  rw [List.map_append, List.map_singleton, Reply.ofFrame_frameOf _ hfits] at hreplies
  refine ⟨final, hshows, ⟨_, hreplies⟩, fun hdone => ?_⟩
  rw [hrest hdone] at hreplies
  exact (List.append_nil _).symm.trans hreplies

/-- A read that was acknowledged has looked its value up when it is done. -/
theorem exists_lookedUp (h : Follows registry start past d) (hjob : d.jobs[i]? = some job)
    (hrequest : job.request = .read r) (hread : .worked i (.read r.address (.ok true)) ∈ past)
    (hdone : job.task = .done) : ∃ value, .worked i (.lookedUp r.address value) ∈ past := by
  obtain ⟨answers, rest, htranscript, hrest⟩ := h.records.exists_transcript hjob
  rw [hrequest, hrest hdone, List.append_nil] at htranscript
  rw [← DispatchEvent.mem_effectsOf_iff, ← htranscript] at hread
  obtain ⟨value, hvalue⟩ := Request.exists_lookedUp_mem hread
  exact ⟨value, DispatchEvent.mem_effectsOf_iff.1 (htranscript ▸ hvalue)⟩

end Dispatcher.Follows

/-! ## Whole runs -/

namespace FedDispatcher

variable {γ : Type} [Outlets γ]

/-- Whatever the schedule, a bus that acknowledges what it knows makes no request end for want of
    a value. On a bus of any mode, a read whose lookup finds a value sends one last response behind
    it, which shows the bytes that the latest acknowledged write in front of the lookup has put
    there, or those that were there from the start. -/
theorem run_shows_latest_write {f f' : FedDispatcher MemoryBus γ} {schedule : List DispatchMove}
    {events : List DispatchEvent} (hjobs : f.dispatcher.jobs = [])
    (hrun : f.run schedule = (events, f')) :
    (f.dispatcher.world.bus.mode = .acknowledgeKnown →
      ∀ i frame outcome, .worked i (.handedOver frame outcome) ∈ events →
        ∃ reply, Reply.ofFrame frame = .ok reply ∧ reply.body.status ≠ .errorTimeout) ∧
    ∀ i job r, f'.dispatcher.jobs[i]? = some job → job.request = .read r →
      (∀ before value after, events = before ++ .worked i (.lookedUp r.address value) :: after →
        value = (Effect.latestWrite? r.address (DispatchEvent.effects before)).or
            (f.dispatcher.world.bus.pool.lastValue r.address) ∧
          ∀ bytes, value = some bytes → ∃ final, r.Shows bytes final ∧
            let frames := Effect.frames (DispatchEvent.effectsOf after i)
            frames.map Reply.ofFrame <+: [.ok ⟨.readResponse, final⟩] ∧
              (job.task = .done →
                frames.map Reply.ofFrame = [.ok ⟨.readResponse, final⟩])) ∧
      (.worked i (.read r.address (.ok true)) ∈ events → job.task = .done →
        ∃ value, .worked i (.lookedUp r.address value) ∈ events) := by
  have hfollows := follows_run (Dispatcher.Follows.of_no_jobs hjobs) schedule
  rw [hrun, List.nil_append] at hfollows
  refine ⟨fun hmode i frame outcome hevent => hfollows.exists_reply_of_handedOver hmode hevent,
    fun i job r hjob hrequest => ⟨?_, hfollows.exists_lookedUp hjob hrequest⟩⟩
  rintro before value after rfl
  refine ⟨hfollows.lookedUp_eq, ?_⟩
  rintro bytes rfl
  exact hfollows.exists_shows hjob hrequest

/-- A read and a write that wait for a dispatcher, of an address that has a value. -/
def readAndWrite : FedDispatcher MemoryBus ScriptedConnection :=
  ⟨.start .reference ⟨2, [], false⟩
      ⟨⟨.acknowledgeKnown, StatusPool.empty.set ⟨2563⟩ [0], 0⟩, ⟨true, []⟩, .zero⟩,
    [⟨0, encodeRead ⟨2563⟩ ⟨1, 1⟩⟩, ⟨1, [1, 1, 8, 10, 3, 0, 1, 0, 1, 111, 110]⟩]⟩

/-- The write overtakes the read between its announcement and its lookup. -/
def overtaking : List DispatchMove :=
  [.publish, .publish, .poll, .poll, .work 0, .work 0, .work 0, .work 0, .work 1, .work 1,
    .work 0, .work 0, .work 0]

theorem run_shows_latest_write_overtaking :
    ∃ before after f', readAndWrite.run overtaking =
        (before ++ .worked 0 (.lookedUp ⟨2563⟩ (some [1])) :: after, f') ∧
      .worked 0 (.read ⟨2563⟩ (.ok true)) ∈ before ∧
      (Effect.frames (DispatchEvent.effectsOf after 0)).map Reply.ofFrame =
        [.ok ⟨.readResponse, ⟨true, .success, [111, 110]⟩⟩] ∧
      ∀ frame outcome, .worked 0 (.handedOver frame outcome) ∈ after →
        ∃ reply, Reply.ofFrame frame = .ok reply ∧ reply.body.status ≠ .errorTimeout := by
  have hrun : readAndWrite.run overtaking =
      ((readAndWrite.run overtaking).1.take 8 ++
          .worked 0 (.lookedUp ⟨2563⟩ (some [1])) :: (readAndWrite.run overtaking).1.drop 9,
        (readAndWrite.run overtaking).2) := rfl
  have hjob : (readAndWrite.run overtaking).2.dispatcher.jobs[0]? =
      some ⟨0, .read ⟨⟨2563⟩, Registry.reference.resolve ⟨1, 1⟩⟩, .done⟩ := rfl
  obtain ⟨htimeout, hshows⟩ := run_shows_latest_write rfl hrun
  obtain ⟨hlookup, -⟩ := hshows 0 _ _ hjob rfl
  obtain ⟨-, hshown⟩ := hlookup _ _ _ rfl
  obtain ⟨final, hshows, -, hreplies⟩ := hshown [1] rfl
  have hon : final.Concludes .success "on" := hshows
  have hfinal : final = ⟨true, .success, [111, 110]⟩ :=
    (Response.concludes_iff.1 hon).trans (by decide)
  rw [hfinal] at hreplies
  refine ⟨_, _, _, hrun, List.mem_of_getElem? (i := 3) rfl, hreplies rfl, ?_⟩
  intro frame outcome hevent
  exact htimeout rfl 0 frame outcome (List.mem_append_right _ (List.mem_cons_of_mem _ hevent))

end FedDispatcher

end KnxGateway
