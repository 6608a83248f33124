import KnxGateway.Connection.Shared
import Mathlib.Data.List.Nodup
import Mathlib.Tactic.SplitIfs

set_option autoImplicit false

/-! # Frames are written one after the other

Calls on a connection may overlap in any way, but the lock lets one of them write at a time. What
the stream has accepted is therefore what each call wrote, one call after the other in the order in
which they got the lock, and a call that sent its frame wrote the whole frame.

A call to close clears the flag at its first step and takes the writer later, when it gets the
lock. In between, calls that had found the flag set may still get the lock and send; calls that
begin after the flag was cleared write nothing, and after the writer was taken nobody does. -/

namespace KnxGateway

/-! ## What can be seen of a run -/

namespace ConnectionEvent

/-- The call that got the lock, if the event is of that kind. -/
def locked? : ConnectionEvent → Option Nat
  | locked i => some i
  | began _ | wrote _ _ => none

/-- The bytes that the stream accepted from a call, if the event is of that kind. -/
def bytesOf? (i : Nat) : ConnectionEvent → Option (List UInt8)
  | wrote j bytes => if j = i then some bytes else none
  | began _ | locked _ => none

/-- The calls that got the lock, in order. -/
def lockOrder (events : List ConnectionEvent) : List Nat :=
  events.filterMap locked?

/-- The bytes that the stream accepted from a call, in order. -/
def bytesOf (events : List ConnectionEvent) (i : Nat) : List UInt8 :=
  (events.filterMap (bytesOf? i)).flatten

variable {events : List ConnectionEvent} {i j : Nat} {bytes : List UInt8}

theorem lockOrder_concat_locked :
    lockOrder (events ++ [.locked i]) = lockOrder events ++ [i] :=
  List.filterMap_append

theorem lockOrder_concat_wrote :
    lockOrder (events ++ [.wrote i bytes]) = lockOrder events :=
  List.filterMap_append.trans (List.append_nil _)

theorem lockOrder_concat_began : lockOrder (events ++ [.began i]) = lockOrder events :=
  List.filterMap_append.trans (List.append_nil _)

theorem bytesOf_concat_locked : bytesOf (events ++ [.locked i]) j = bytesOf events j :=
  congrArg List.flatten (List.filterMap_append.trans (List.append_nil _))

theorem bytesOf_concat_began : bytesOf (events ++ [.began i]) j = bytesOf events j :=
  congrArg List.flatten (List.filterMap_append.trans (List.append_nil _))

theorem bytesOf_concat_wrote :
    bytesOf (events ++ [.wrote i bytes]) j =
      bytesOf events j ++ if i = j then bytes else [] := by
  rw [bytesOf, List.filterMap_append, List.flatten_append]
  by_cases h : i = j <;> simp [bytesOf, bytesOf?, h]

end ConnectionEvent

namespace SharedConnection

open ConnectionEvent

variable {s s' : SharedConnection} {i j : Nat} {call : ConnectionCall} {phase : CallPhase}

/-! ## Steps -/

/-- All that a step can do. -/
inductive Acts (s : SharedConnection) : List ConnectionEvent → SharedConnection → Prop where
  /-- The step is not possible. -/
  | rest : Acts s [] s
  | beginSend {i : Nat} {frame : List UInt8} : s.calls[i]? = some (.send frame, .idle) →
      Acts s [.began i] (s.setPhase i (.send frame)
        (if s.isOpen then .waiting else .returned (some .skipped)))
  | beginClose {i : Nat} : s.calls[i]? = some (.close, .idle) →
      Acts s [.began i] ({ s with isOpen := false }.setPhase i .close
        (if s.isOpen then .waiting else .returned none))
  | lockSend {i : Nat} {frame : List UInt8} : s.calls[i]? = some (.send frame, .waiting) →
      s.holder = none → s.hasWriter = true →
      Acts s [.locked i] ({ s with holder := some i }.setPhase i (.send frame) (.writing frame))
  | lockClose {i : Nat} : s.calls[i]? = some (.close, .waiting) → s.holder = none →
      s.hasWriter = true →
      Acts s [.locked i] ({ s with holder := some i, hasWriter := false }.setPhase i .close
        .shutting)
  /-- A call gets the lock and finds the writer gone. -/
  | lockLate {i : Nat} {call : ConnectionCall} : s.calls[i]? = some (call, .waiting) →
      s.holder = none → s.hasWriter = false →
      Acts s [.locked i] (s.setPhase i call (.returned
        (if call = .close then none else some .skipped)))
  | write {i : Nat} {call : ConnectionCall} {rest : List UInt8} (n : Nat) :
      s.calls[i]? = some (call, .writing rest) →
      Acts s [.wrote i (rest.take n)] ({ s with written := s.written ++ rest.take n }.setPhase i
        call (.writing (rest.drop n)))
  | send {i : Nat} {call : ConnectionCall} : s.calls[i]? = some (call, .writing []) →
      Acts s [] ({ s with holder := none }.setPhase i call (.returned (some .sent)))
  | shutDown {i : Nat} {call : ConnectionCall} : s.calls[i]? = some (call, .shutting) →
      Acts s [] ({ s with holder := none, shutdowns := s.shutdowns + 1 }.setPhase i call
        (.returned none))
  | fail {i : Nat} {call : ConnectionCall} {rest : List UInt8} :
      s.calls[i]? = some (call, .writing rest) →
      Acts s [] ({ s with holder := none }.setPhase i call (.returned (some .failed)))

theorem acts_begin (h : s.calls[i]? = some (call, .idle)) :
    s.Acts [.began i] (s.begin i call) := by
  cases call with
  | send frame => exact .beginSend h
  | close => exact .beginClose h

theorem acts_lock (h : s.calls[i]? = some (call, .waiting)) (hfree : s.holder = none) :
    s.Acts [.locked i] (s.lock i call) := by
  cases call with
  | send frame =>
    unfold lock
    split_ifs with hwriter
    · exact .lockSend h hfree hwriter
    · exact .lockLate h hfree (Bool.not_eq_true _ ▸ hwriter)
  | close =>
    unfold lock
    split_ifs with hwriter
    · exact .lockClose h hfree hwriter
    · exact .lockLate h hfree (Bool.not_eq_true _ ▸ hwriter)

/-- Every step is one of these. -/
theorem acts_step (s : SharedConnection) (move : ConnectionMove) :
    s.Acts (s.step move).1 (s.step move).2 := by
  cases move with
  | advance i =>
    simp only [step]
    split
    · next call h => exact acts_begin h
    · next call h =>
      split_ifs with hheld
      · exact .rest
      · exact acts_lock h (Option.not_isSome_iff_eq_none.1 hheld)
    · next call h => exact .send h
    · next call h => exact .shutDown h
    · exact .rest
  | write i extra =>
    simp only [step]
    split
    · next call rest h => exact .write (extra + 1) h
    · exact .rest
  | fail i =>
    simp only [step]
    split
    · next call rest h => exact .fail h
    · exact .rest

/-! ## What a call has done -/

/-- What a call in a given phase has done so far. -/
def Fits (events : List ConnectionEvent) (s : SharedConnection) (i : Nat) (call : ConnectionCall) :
    CallPhase → Prop
  | .idle => i ∉ lockOrder events ∧ bytesOf events i = []
  | .waiting =>
    i ∉ lockOrder events ∧ bytesOf events i = [] ∧ (call = .close → s.isOpen = false)
  | .writing rest =>
    s.holder = some i ∧ s.hasWriter = true ∧ (lockOrder events).getLast? = some i ∧
      call = .send (bytesOf events i ++ rest)
  | .shutting =>
    s.holder = some i ∧ s.hasWriter = false ∧ s.shutdowns = 0 ∧ s.isOpen = false ∧
      call = .close ∧ bytesOf events i = []
  | .returned none => call = .close ∧ s.isOpen = false ∧ bytesOf events i = []
  | .returned (some .sent) => i ∈ lockOrder events ∧ call = .send (bytesOf events i)
  | .returned (some .skipped) => (∃ frame, call = .send frame) ∧ bytesOf events i = []
  | .returned (some .failed) => i ∈ lockOrder events ∧ ∃ rest, call = .send (bytesOf events i ++ rest)

/-- A call is not concerned by what others do, unless it holds the lock. -/
theorem Fits.congr {events events' : List ConnectionEvent} (h : Fits events s i call phase)
    (hlocked : i ∈ lockOrder events' ↔ i ∈ lockOrder events)
    (hbytes : bytesOf events' i = bytesOf events i) (hopen : s.isOpen = false → s'.isOpen = false)
    (hholder : s.holder = some i → s'.holder = s.holder ∧ s'.hasWriter = s.hasWriter ∧
      s'.shutdowns = s.shutdowns ∧ lockOrder events' = lockOrder events) :
    Fits events' s' i call phase := by
  cases phase with
  | idle =>
    obtain ⟨hnot, hnothing⟩ := h
    exact ⟨mt hlocked.1 hnot, hbytes.trans hnothing⟩
  | waiting =>
    obtain ⟨hnot, hnothing, hclose⟩ := h
    exact ⟨mt hlocked.1 hnot, hbytes.trans hnothing, fun hcall => hopen (hclose hcall)⟩
  | writing rest =>
    obtain ⟨hholds, hwriter, hlast, hcall⟩ := h
    obtain ⟨hholder', hwriter', -, horder⟩ := hholder hholds
    exact ⟨hholder'.trans hholds, hwriter'.trans hwriter, horder ▸ hlast, hbytes ▸ hcall⟩
  | shutting =>
    obtain ⟨hholds, hwriter, hshutdowns, hclosed, hcall, hnothing⟩ := h
    obtain ⟨hholder', hwriter', hshutdowns', -⟩ := hholder hholds
    exact ⟨hholder'.trans hholds, hwriter'.trans hwriter, hshutdowns'.trans hshutdowns,
      hopen hclosed, hcall, hbytes.trans hnothing⟩
  | returned outcome =>
    rcases outcome with _ | ⟨_ | _ | _⟩
    · obtain ⟨hcall, hclosed, hnothing⟩ := h
      exact ⟨hcall, hopen hclosed, hbytes.trans hnothing⟩
    · obtain ⟨hlock, hcall⟩ := h
      exact ⟨hlocked.2 hlock, hbytes ▸ hcall⟩
    · obtain ⟨hcall, hnothing⟩ := h
      exact ⟨hcall, hbytes.trans hnothing⟩
    · obtain ⟨hlock, hcall⟩ := h
      exact ⟨hlocked.2 hlock, hbytes ▸ hcall⟩

/-! ## The invariant -/

/-- How a connection comes out of all that was seen of it. -/
structure Follows (events : List ConnectionEvent) (s : SharedConnection) : Prop where
  fits : ∀ i call phase, s.calls[i]? = some (call, phase) → Fits events s i call phase
  isCall : ∀ i ∈ lockOrder events, i < s.calls.length
  nodup : (lockOrder events).Nodup
  written : s.written = ((lockOrder events).map (bytesOf events)).flatten
  taken : s.hasWriter = false → s.isOpen = false
  untaken : s.hasWriter = true → s.shutdowns = 0
  once : s.shutdowns ≤ 1

namespace Follows

variable {events : List ConnectionEvent}

theorem initial (calls : List ConnectionCall) : Follows [] (initial calls) := by
  refine ⟨fun i call phase h => ?_, fun i hi => absurd hi List.not_mem_nil, List.nodup_nil, rfl,
    (nomatch ·), fun _ => rfl, Nat.zero_le _⟩
  simp only [SharedConnection.initial, List.getElem?_map, Option.map_eq_some_iff] at h
  obtain ⟨call, -, hphase⟩ := h
  cases hphase
  exact ⟨List.not_mem_nil, rfl⟩

/-- The other calls fit after a step as they did before. -/
theorem fits_set (h : Follows events s) {events' : List ConnectionEvent}
    (hcalls : s'.calls = s.calls.set i (call, phase)) (hself : Fits events' s' i call phase)
    (hlocked : ∀ j, j ≠ i → (j ∈ lockOrder events' ↔ j ∈ lockOrder events))
    (hbytes : ∀ j, j ≠ i → bytesOf events' j = bytesOf events j)
    (hopen : s.isOpen = false → s'.isOpen = false)
    (hholder : ∀ j, j ≠ i → s.holder = some j → s'.holder = s.holder ∧
      s'.hasWriter = s.hasWriter ∧ s'.shutdowns = s.shutdowns ∧
      lockOrder events' = lockOrder events) :
    ∀ j call phase, s'.calls[j]? = some (call, phase) → Fits events' s' j call phase := by
  intro j other before hj
  rw [hcalls, List.getElem?_set] at hj
  split_ifs at hj with heq hlt
  · cases hj
    exact heq ▸ hself
  · have hne : j ≠ i := fun hji => heq hji.symm
    exact (h.fits j other before hj).congr (hlocked j hne) (hbytes j hne) hopen (hholder j hne)

/-- A step by which nobody gets the lock and nothing is written. -/
theorem aside (h : Follows events s) {events' : List ConnectionEvent}
    (horder : lockOrder events' = lockOrder events) (hbytes : bytesOf events' = bytesOf events)
    (hcalls : s'.calls = s.calls.set i (call, phase)) (hself : Fits events' s' i call phase)
    (hwritten : s'.written = s.written) (hopen : s.isOpen = false → s'.isOpen = false)
    (hholder : ∀ j, j ≠ i → s.holder = some j →
      s'.holder = s.holder ∧ s'.hasWriter = s.hasWriter ∧ s'.shutdowns = s.shutdowns)
    (htaken : s'.hasWriter = false → s'.isOpen = false)
    (huntaken : s'.hasWriter = true → s'.shutdowns = 0) (honce : s'.shutdowns ≤ 1) :
    Follows events' s' := by
  refine ⟨?_, ?_, horder ▸ h.nodup, ?_, htaken, huntaken, honce⟩
  · refine h.fits_set hcalls hself (fun j _ => horder ▸ Iff.rfl) (fun j _ => by rw [hbytes]) hopen
      fun j hne hj => ?_
    obtain ⟨hholder', hwriter, hshutdowns⟩ := hholder j hne hj
    exact ⟨hholder', hwriter, hshutdowns, horder⟩
  · rw [horder, hcalls, List.length_set]
    exact h.isCall
  · rw [hwritten, horder, hbytes]
    exact h.written

/-- A step by which a call gets the lock, which nobody held. -/
theorem locked (h : Follows events s) (hi : s.calls[i]? = some (call, .waiting))
    (hfree : s.holder = none) (hcalls : s'.calls = s.calls.set i (call, phase))
    (hself : Fits (events ++ [.locked i]) s' i call phase) (hwritten : s'.written = s.written)
    (hopen : s'.isOpen = s.isOpen) (htaken : s'.hasWriter = false → s'.isOpen = false)
    (hshutdowns : s'.shutdowns = s.shutdowns)
    (huntaken : s'.hasWriter = true → s.hasWriter = true) :
    Follows (events ++ [.locked i]) s' := by
  obtain ⟨hnot, hnothing, -⟩ := h.fits i call _ hi
  have horder : lockOrder (events ++ [.locked i]) = lockOrder events ++ [i] :=
    lockOrder_concat_locked
  have hbytes : bytesOf (events ++ [.locked i]) = bytesOf events :=
    funext fun j => bytesOf_concat_locked
  refine ⟨?_, fun j hj => ?_, ?_, ?_, htaken, fun hwriter => ?_, hshutdowns ▸ h.once⟩
  · refine h.fits_set hcalls hself (fun j hne => ?_) (fun j _ => by rw [hbytes]) (hopen ▸ id)
      fun j _ hj => ?_
    · simp [horder, hne]
    · rw [hfree] at hj
      cases hj
  · rw [hcalls, List.length_set]
    rw [horder] at hj
    rcases List.mem_append.1 hj with hbefore | hnow
    · exact h.isCall j hbefore
    · rw [List.mem_singleton.1 hnow]
      exact (List.getElem?_eq_some_iff.1 hi).1
  · rw [horder]
    exact List.concat_eq_append ▸ h.nodup.concat hnot
  · rw [hwritten, h.written, horder, hbytes]
    simp [hnothing]
  · rw [hshutdowns]
    exact h.untaken (huntaken hwriter)

/-- A step by which the call that holds the lock writes. -/
theorem write (h : Follows events s) {rest : List UInt8} (n : Nat)
    (hi : s.calls[i]? = some (call, .writing rest)) :
    Follows (events ++ [.wrote i (rest.take n)])
      ({ s with written := s.written ++ rest.take n }.setPhase i call
        (.writing (rest.drop n))) := by
  obtain ⟨hholds, hwriter, hlast, hcall⟩ := h.fits i call _ hi
  have horder : lockOrder (events ++ [.wrote i (rest.take n)]) = lockOrder events :=
    lockOrder_concat_wrote
  have hself : bytesOf (events ++ [.wrote i (rest.take n)]) i =
      bytesOf events i ++ rest.take n := by
    rw [bytesOf_concat_wrote, if_pos rfl]
  have hothers : ∀ j, j ≠ i →
      bytesOf (events ++ [.wrote i (rest.take n)]) j = bytesOf events j := by
    intro j hne
    rw [bytesOf_concat_wrote, if_neg hne.symm, List.append_nil]
  refine ⟨?_, ?_, horder ▸ h.nodup, ?_, h.taken, h.untaken, h.once⟩
  · refine h.fits_set rfl ⟨hholds, hwriter, horder ▸ hlast, ?_⟩ (fun j _ => horder ▸ Iff.rfl)
      hothers id fun j _ _ => ⟨rfl, rfl, rfl, horder⟩
    rw [hself, List.append_assoc, List.take_append_drop]
    exact hcall
  · rw [horder]
    exact fun j hj => Nat.lt_of_lt_of_eq (h.isCall j hj) List.length_set.symm
  · -- the call was the last to get the lock, and those before it have written all they will
    obtain ⟨earlier, hearlier⟩ := List.getLast?_eq_some_iff.1 hlast
    have hnodup := h.nodup
    rw [hearlier] at hnodup
    have hmap : earlier.map (bytesOf (events ++ [.wrote i (rest.take n)])) =
        earlier.map (bytesOf events) := by
      refine List.map_congr_left fun j hj => hothers j ?_
      rintro rfl
      exact (List.nodup_append.1 hnodup).2.2 j hj j (List.mem_singleton_self j) rfl
    change s.written ++ rest.take n = _
    rw [h.written, horder, hearlier]
    simp [hmap, hself]

/-- Every step. -/
theorem acts (h : Follows events s) {new : List ConnectionEvent} (hacts : s.Acts new s') :
    Follows (events ++ new) s' := by
  have hquiet : events ++ [] = events := List.append_nil _
  cases hacts with
  | rest => rwa [hquiet]
  | @beginSend i frame hi =>
    obtain ⟨hnot, hnothing⟩ := h.fits i _ _ hi
    have horder : lockOrder (events ++ [.began i]) = lockOrder events := lockOrder_concat_began
    have hbytes : bytesOf (events ++ [.began i]) = bytesOf events :=
      funext fun j => bytesOf_concat_began
    refine h.aside horder hbytes rfl ?_ rfl id (fun j _ _ => ⟨rfl, rfl, rfl⟩) h.taken h.untaken
      h.once
    split_ifs with hopen
    · exact ⟨horder ▸ hnot, hbytes ▸ hnothing, fun hcall => nomatch hcall⟩
    · exact ⟨⟨frame, rfl⟩, hbytes ▸ hnothing⟩
  | @beginClose i hi =>
    obtain ⟨hnot, hnothing⟩ := h.fits i _ _ hi
    have horder : lockOrder (events ++ [.began i]) = lockOrder events := lockOrder_concat_began
    have hbytes : bytesOf (events ++ [.began i]) = bytesOf events :=
      funext fun j => bytesOf_concat_began
    refine h.aside horder hbytes rfl ?_ rfl (fun _ => rfl) (fun j _ _ => ⟨rfl, rfl, rfl⟩)
      (fun _ => rfl) h.untaken h.once
    split_ifs
    · exact ⟨horder ▸ hnot, hbytes ▸ hnothing, fun _ => rfl⟩
    · exact ⟨rfl, rfl, hbytes ▸ hnothing⟩
  | @lockSend i frame hi hfree hwriter =>
    obtain ⟨-, hnothing, -⟩ := h.fits i _ _ hi
    refine h.locked hi hfree rfl ⟨rfl, hwriter, ?_, ?_⟩ rfl rfl h.taken rfl id
    · rw [lockOrder_concat_locked, List.getLast?_concat]
    · rw [bytesOf_concat_locked, hnothing, List.nil_append]
  | @lockClose i hi hfree hwriter =>
    obtain ⟨-, hnothing, hclosed⟩ := h.fits i _ _ hi
    exact h.locked hi hfree rfl
      ⟨rfl, rfl, h.untaken hwriter, hclosed rfl, rfl, bytesOf_concat_locked.trans hnothing⟩ rfl rfl
      (fun _ => hclosed rfl) rfl (fun _ => hwriter)
  | @lockLate i call hi hfree hwriter =>
    obtain ⟨-, hnothing, hclosed⟩ := h.fits i _ _ hi
    have hbytes : bytesOf (events ++ [.locked i]) i = bytesOf events i := bytesOf_concat_locked
    refine h.locked hi hfree rfl ?_ rfl rfl h.taken rfl id
    cases call with
    | send frame => exact ⟨⟨frame, rfl⟩, hbytes.trans hnothing⟩
    | close => exact ⟨rfl, hclosed rfl, hbytes.trans hnothing⟩
  | write n hi => exact h.write n hi
  | @send i call hi =>
    obtain ⟨hholds, hwriter, hlast, hcall⟩ := h.fits i call _ hi
    rw [hquiet]
    refine h.aside rfl rfl rfl ⟨List.mem_of_getLast? hlast, ?_⟩ rfl id (fun j hne hj => ?_) h.taken
      h.untaken h.once
    · rw [hcall, List.append_nil]
    · rw [hholds] at hj
      exact absurd (Option.some.inj hj).symm hne
  | @shutDown i call hi =>
    obtain ⟨hholds, hwriter, hnone, hclosed, hcall, hnothing⟩ := h.fits i call _ hi
    rw [hquiet]
    refine h.aside rfl rfl rfl ⟨hcall, hclosed, hnothing⟩ rfl id (fun j hne hj => ?_) h.taken
      (fun htrue => ?_) (Nat.le_of_eq (congrArg Nat.succ hnone))
    · rw [hholds] at hj
      exact absurd (Option.some.inj hj).symm hne
    · rw [hwriter] at htrue
      cases htrue
  | @fail i call rest hi =>
    obtain ⟨hholds, hwriter, hlast, hcall⟩ := h.fits i call _ hi
    rw [hquiet]
    refine h.aside rfl rfl rfl ⟨List.mem_of_getLast? hlast, rest, hcall⟩ rfl id
      (fun j hne hj => ?_) h.taken h.untaken h.once
    rw [hholds] at hj
    exact absurd (Option.some.inj hj).symm hne

/-- Every schedule. -/
theorem run (h : Follows events s) (schedule : List ConnectionMove) :
    Follows (events ++ (s.run schedule).1) (s.run schedule).2 := by
  induction schedule generalizing s events with
  | nil =>
    rw [SharedConnection.run, List.append_nil]
    exact h
  | cons move schedule ih =>
    have hlater := ih (h.acts (acts_step s move))
    rw [List.append_assoc] at hlater
    exact hlater

end Follows

/-! ## Whole frames -/

/-- What was written to a connection, given all that was seen of it: whole frames, one after the
    other in the order in which their calls got the lock. -/
structure WritesWhole (events : List ConnectionEvent) (s : SharedConnection) : Prop where
  nodup : (lockOrder events).Nodup
  /-- The bytes of a call are not parted by those of another. -/
  written : s.written = ((lockOrder events).map (bytesOf events)).flatten
  sent : ∀ i frame, s.calls[i]? = some (.send frame, .returned (some .sent)) →
    i ∈ lockOrder events ∧ bytesOf events i = frame
  skipped : ∀ i frame, s.calls[i]? = some (.send frame, .returned (some .skipped)) →
    bytesOf events i = []
  /-- A call that is not done with its frame is the last that got the lock. -/
  writing : ∀ i call rest, s.calls[i]? = some (call, .writing rest) →
    (lockOrder events).getLast? = some i ∧ call = .send (bytesOf events i ++ rest)
  /-- Unless a frame is being written, exactly the frames that were sent have been. -/
  whole : (∀ (i : Nat) (call : ConnectionCall) (rest : List UInt8),
      s.calls[i]? ≠ some (call, .writing rest)) →
    s.written = ((lockOrder events).filterMap s.sentFrame?).flatten
  shutdowns : s.shutdowns ≤ 1

theorem flatten_map_eq_flatten_filterMap {α β : Type} {f : α → List β} {g : α → Option (List β)}
    {l : List α} (h : ∀ x ∈ l, f x = (g x).getD []) : (l.map f).flatten = (l.filterMap g).flatten := by
  induction l with
  | nil => rfl
  | cons x l ih =>
    rw [List.map_cons, List.flatten_cons, h x List.mem_cons_self,
      ih fun y hy => h y (List.mem_cons_of_mem x hy)]
    cases hx : g x <;> simp [hx]

theorem sentFrame?_of_ne (hi : s.calls[i]? = some (call, phase))
    (hphase : phase ≠ .returned (some .sent)) : s.sentFrame? i = none := by
  rw [sentFrame?, hi]
  split
  · next heq =>
    cases heq
    exact absurd rfl hphase
  · rfl

/-- A call that is not about to write has sent its frame, unless it failed, or has written
    nothing. -/
theorem Fits.bytesOf_eq {events : List ConnectionEvent} (h : Fits events s i call phase)
    (hi : s.calls[i]? = some (call, phase)) (hwriting : ∀ rest, phase ≠ .writing rest)
    (hfailed : phase ≠ .returned (some .failed)) :
    bytesOf events i = (s.sentFrame? i).getD [] := by
  by_cases hsent : phase = .returned (some .sent)
  · subst hsent
    obtain ⟨-, rfl⟩ := h
    rw [sentFrame?, hi]
    rfl
  · rw [sentFrame?_of_ne hi hsent]
    cases phase with
    | idle => exact h.2
    | waiting => exact h.2.1
    | writing rest => exact absurd rfl (hwriting rest)
    | shutting => exact h.2.2.2.2.2
    | returned outcome =>
      rcases outcome with _ | ⟨_ | _ | _⟩
      · exact h.2.2
      · exact absurd rfl hsent
      · exact h.2
      · exact absurd rfl hfailed

/-- No call has failed. -/
def HasNoFailure (s : SharedConnection) : Prop :=
  ∀ entry ∈ s.calls, entry.2 ≠ .returned (some .failed)

theorem HasNoFailure.setPhase (h : s.HasNoFailure) (hphase : phase ≠ .returned (some .failed)) :
    (s.setPhase i call phase).HasNoFailure := by
  intro entry hentry
  rcases List.mem_or_eq_of_mem_set hentry with hbefore | rfl
  · exact h entry hbefore
  · exact hphase

/-- A call fails only when the stream refuses its bytes. -/
theorem HasNoFailure.step (h : s.HasNoFailure) {move : ConnectionMove}
    (hmove : ∀ i, move ≠ .fail i) : (s.step move).2.HasNoFailure := by
  cases move with
  | advance i =>
    simp only [SharedConnection.step]
    split
    · next call _ => cases call <;> exact h.setPhase (by split_ifs <;> simp)
    · next call _ =>
      split_ifs
      · exact h
      · cases call <;> unfold lock <;> split_ifs <;> exact h.setPhase (by simp)
    · exact h.setPhase (by simp)
    · exact h.setPhase (by simp)
    · exact h
  | write i extra =>
    simp only [SharedConnection.step]
    split
    · exact h.setPhase (by simp)
    · exact h
  | fail i => exact absurd rfl (hmove i)

theorem HasNoFailure.run (h : s.HasNoFailure) {schedule : List ConnectionMove}
    (hsucceed : ∀ i, .fail i ∉ schedule) : (s.run schedule).2.HasNoFailure := by
  induction schedule generalizing s with
  | nil => exact h
  | cons move schedule ih =>
    refine ih (h.step fun i hmove => hsucceed i (hmove ▸ List.mem_cons_self)) fun i hmem => ?_
    exact hsucceed i (List.mem_cons_of_mem move hmem)

theorem Follows.writesWhole {events : List ConnectionEvent} (h : Follows events s)
    (hfailed : s.HasNoFailure) : WritesWhole events s := by
  refine ⟨h.nodup, h.written, fun i frame hi => ?_, fun i frame hi => (h.fits i _ _ hi).2,
    fun i call rest hi => (h.fits i _ _ hi).2.2, fun hwriting => ?_, h.once⟩
  · obtain ⟨hlocked, hcall⟩ := h.fits i _ _ hi
    exact ⟨hlocked, (ConnectionCall.send.inj hcall).symm⟩
  · rw [h.written]
    refine flatten_map_eq_flatten_filterMap fun i hi => ?_
    have hcall := List.getElem?_eq_getElem (h.isCall i hi)
    refine (h.fits i _ _ hcall).bytesOf_eq hcall (fun rest hphase => ?_) fun hphase => ?_
    · exact hwriting i _ rest (hcall.trans (congrArg some (Prod.ext rfl hphase)))
    · exact hfailed _ (List.mem_of_getElem? hcall) hphase

/-! ## Closing -/

/-- A closed connection stays closed. -/
theorem Acts.isOpen {new : List ConnectionEvent} (h : s.Acts new s') (hclosed : s.isOpen = false) :
    s'.isOpen = false := by
  cases h <;> first | exact hclosed | rfl

/-- Once the writer has been taken, it stays so, and nothing more is written. -/
theorem Acts.taken {events new : List ConnectionEvent} (h : s.Acts new s')
    (hfollows : Follows events s) (htaken : s.hasWriter = false) :
    s'.hasWriter = false ∧ s'.written = s.written := by
  have hnot : s.hasWriter ≠ true := by simp [htaken]
  cases h with
  | lockSend _ _ hwriter | lockClose _ _ hwriter => exact absurd hwriter hnot
  | write n hi =>
    obtain ⟨-, hwriter, -⟩ := hfollows.fits _ _ _ hi
    exact absurd hwriter hnot
  | rest | beginSend _ | beginClose _ | lockLate _ _ _ | send _ | shutDown _ | fail _ =>
    exact ⟨htaken, rfl⟩

/-- A call to send has not begun, or was left out. -/
def IsLate (s : SharedConnection) (i : Nat) (frame : List UInt8) : Prop :=
  s.calls[i]? = some (.send frame, .idle) ∨
    s.calls[i]? = some (.send frame, .returned (some .skipped))

/-- The steps of calls that are not late do not concern those that are. -/
theorem IsLate.congr {frame : List UInt8} (h : s.IsLate i frame) {after : CallPhase}
    (hj : s.calls[j]? = some (call, phase)) (hidle : (call, phase) ≠ (.send frame, .idle))
    (hskipped : (call, phase) ≠ (.send frame, .returned (some .skipped)))
    (hcalls : s'.calls = s.calls.set j (call, after)) : s'.IsLate i frame := by
  have hne : j ≠ i := by
    rintro rfl
    rcases h with hi | hi <;> rw [hi] at hj
    · exact hidle (Option.some.inj hj).symm
    · exact hskipped (Option.some.inj hj).symm
  unfold IsLate
  rwa [hcalls, List.getElem?_set_ne hne]

/-- A call to send that begins after the flag was cleared is left out. -/
theorem Acts.isLate {new : List ConnectionEvent} {frame : List UInt8} (h : s.Acts new s')
    (hclosed : s.isOpen = false) (hlate : s.IsLate i frame) : s'.IsLate i frame := by
  cases h with
  | rest => exact hlate
  | @beginSend j other hj =>
    by_cases heq : j = i
    · subst heq
      rcases hlate with hi | hi <;> rw [hi] at hj <;> cases hj
      obtain ⟨hlt, -⟩ := List.getElem?_eq_some_iff.1 hi
      refine Or.inr ?_
      simp [setPhase, hclosed, hlt]
    · unfold IsLate
      rwa [setPhase, List.getElem?_set_ne heq]
  | beginClose hj => exact hlate.congr hj (by simp) (by simp) rfl
  | lockSend hj _ _ => exact hlate.congr hj (by simp) (by simp) rfl
  | lockClose hj _ _ => exact hlate.congr hj (by simp) (by simp) rfl
  | lockLate hj _ _ => exact hlate.congr hj (by simp) (by simp) rfl
  | write n hj => exact hlate.congr hj (by simp) (by simp) rfl
  | send hj => exact hlate.congr hj (by simp) (by simp) rfl
  | shutDown hj => exact hlate.congr hj (by simp) (by simp) rfl
  | fail hj => exact hlate.congr hj (by simp) (by simp) rfl

/-- A call to close that has begun has cleared the flag. -/
theorem Follows.isOpen_of_close {events : List ConnectionEvent} (h : Follows events s)
    (hi : s.calls[i]? = some (.close, phase)) (hphase : phase ≠ .idle) : s.isOpen = false := by
  have hfits := h.fits i _ _ hi
  cases phase with
  | idle => exact absurd rfl hphase
  | waiting => exact hfits.2.2 rfl
  | writing rest => exact nomatch hfits.2.2.2
  | shutting => exact hfits.2.2.2.1
  | returned outcome =>
    rcases outcome with _ | ⟨_ | _ | _⟩
    · exact hfits.2.1
    · exact nomatch hfits.2
    · exact nomatch hfits.1
    · exact nomatch hfits.2

/-- What follows from a connection being closed, or its writer taken, at one moment for all later
    ones. -/
structure StaysClosed (before after : SharedConnection) : Prop where
  isOpen : before.isOpen = false → after.isOpen = false
  /-- The writer is taken from closed connections only, and nothing is written from then on. -/
  taken : before.hasWriter = false →
    before.isOpen = false ∧ after.hasWriter = false ∧ after.written = before.written
  /-- Once a call to close has begun, calls to send are left out at their first step. -/
  late : ∀ (i j : Nat) (frame : List UInt8) (phase : CallPhase),
    before.calls[j]? = some (.close, phase) → phase ≠ .idle →
    before.calls[i]? = some (.send frame, .idle) →
    (before.step (.advance i)).2.calls[i]? = some (.send frame, .returned (some .skipped)) ∧
      after.IsLate i frame

theorem Follows.staysClosed {events : List ConnectionEvent} (h : Follows events s)
    (schedule : List ConnectionMove) : StaysClosed s (s.run schedule).2 := by
  refine ⟨fun hclosed => ?_, fun htaken => ⟨h.taken htaken, ?_⟩,
    fun i j frame phase hj hphase hi => ?_⟩
  · clear h
    induction schedule generalizing s with
    | nil => exact hclosed
    | cons move schedule ih => exact ih ((acts_step s move).isOpen hclosed)
  · induction schedule generalizing s events with
    | nil => exact ⟨htaken, rfl⟩
    | cons move schedule ih =>
      obtain ⟨htaken', hwritten⟩ := (acts_step s move).taken h htaken
      obtain ⟨hlater, hsame⟩ := ih (h.acts (acts_step s move)) htaken'
      exact ⟨hlater, hsame.trans hwritten⟩
  · have hclosed := h.isOpen_of_close hj hphase
    constructor
    · obtain ⟨hlt, -⟩ := List.getElem?_eq_some_iff.1 hi
      have hbegin : (s.step (.advance i)).2 = s.begin i (.send frame) := by simp only [step, hi]
      simp [hbegin, SharedConnection.begin, setPhase, hclosed, hlt]
    · have hlate : s.IsLate i frame := Or.inl hi
      clear h hj hphase hi
      induction schedule generalizing s with
      | nil => exact hlate
      | cons move schedule ih =>
        have hacts := acts_step s move
        exact ih (hacts.isOpen hclosed) (hacts.isLate hclosed hlate)

/-! ## Runs -/

theorem run_append (s : SharedConnection) (first later : List ConnectionMove) :
    s.run (first ++ later) =
      ((s.run first).1 ++ ((s.run first).2.run later).1, ((s.run first).2.run later).2) := by
  induction first generalizing s with
  | nil => rfl
  | cons move first ih => simp [run, ih]

/-- Whatever calls to send and to close there are and however their steps are mixed, the stream gets
    whole frames one after the other, namely those of the calls that report to have sent theirs, in
    the order in which they got the lock. From the first step of a call to close on, the connection
    is closed for good and calls to send that begin are left out; once the writer is taken nothing
    is written; and the stream is shut down once at most. -/
theorem run_writes_whole {calls : List ConnectionCall} {schedule : List ConnectionMove}
    {events : List ConnectionEvent} (hsucceed : ∀ i, .fail i ∉ schedule)
    (hrun : (initial calls).run schedule = (events, s)) :
    WritesWhole events s ∧ ∀ first later, schedule = first ++ later →
      StaysClosed ((initial calls).run first).2 s := by
  have hfollows := (Follows.initial calls).run schedule
  have hnone : (initial calls).HasNoFailure := by
    intro entry hentry
    obtain ⟨call, -, rfl⟩ := List.mem_map.1 hentry
    simp
  have hfailed := hnone.run hsucceed
  rw [hrun, List.nil_append] at hfollows
  rw [hrun] at hfailed
  refine ⟨hfollows.writesWhole hfailed, ?_⟩
  rintro first later rfl
  have hstays := ((Follows.initial calls).run first).staysClosed later
  rw [run_append] at hrun
  rwa [(Prod.mk.inj hrun).2] at hstays

/-- Three calls to send and two to close. The first call to send is overtaken by a call to close
    while it writes, the second while it waits for the lock, and the third begins too late. -/
theorem run_writes_whole_overtaken :
    ∃ (calls : List ConnectionCall) (schedule : List ConnectionMove)
      (events : List ConnectionEvent) (s : SharedConnection),
      (∀ i, .fail i ∉ schedule) ∧ (initial calls).run schedule = (events, s) ∧
        s.calls = [(.send [1, 2, 3], .returned (some .sent)), (.close, .returned none),
          (.send [4], .returned (some .sent)), (.send [5], .returned (some .skipped)),
          (.close, .returned none)] ∧
        s.written = [1, 2, 3, 4] ∧ s.shutdowns = 1 ∧ WritesWhole events s ∧
        StaysClosed ((initial calls).run (schedule.take 8)).2 s := by
  let calls : List ConnectionCall := [.send [1, 2, 3], .close, .send [4], .send [5], .close]
  let schedule : List ConnectionMove :=
    [.advance 0, .advance 2, .advance 0, .write 0 0, .advance 2, .advance 1, .advance 1, .advance 3,
      .write 0 5, .advance 4, .advance 0, .advance 2, .advance 1, .write 2 0, .advance 2,
      .advance 1, .advance 1]
  have hsucceed : ∀ i, .fail i ∉ schedule := by simp [schedule]
  obtain ⟨hcalls, hwritten, hshutdowns⟩ :
      ((initial calls).run schedule).2.calls =
          [(.send [1, 2, 3], .returned (some .sent)), (.close, .returned none),
            (.send [4], .returned (some .sent)), (.send [5], .returned (some .skipped)),
            (.close, .returned none)] ∧
        ((initial calls).run schedule).2.written = [1, 2, 3, 4] ∧
        ((initial calls).run schedule).2.shutdowns = 1 := by
    decide +kernel
  obtain ⟨hwrites, hstays⟩ := run_writes_whole hsucceed (Prod.eta _).symm
  exact ⟨calls, schedule, _, _, hsucceed, (Prod.eta _).symm, hcalls, hwritten, hshutdowns, hwrites,
    hstays _ _ (List.take_append_drop 8 schedule).symm⟩

end SharedConnection

end KnxGateway
