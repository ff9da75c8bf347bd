/-
# Conversations

What a client's stream brings about in a connection that stays in operation: the answers,
which are the callbacks enqueued for the service and the pongs handed to the handler. They
are what the reference assembler makes of the frames that the reference grammar finds in the
stream (`answers_of_run`), however the stream is cut into socket reads and whatever the
service, the timer and the rest of the server do between the reads.
-/

import KituraWebSocket.Connection.Assembly
import KituraWebSocket.Connection.Handshake
import KituraWebSocket.Connection.Integrity
import KituraWebSocket.Receive.Decoding
import KituraWebSocket.Session.Endpoint

namespace KituraWebSocket

open Scanner Grammar

/-- The part of an output that answers the client's frames. -/
def Output.answer : Output → Option Visible
  | .callback enqueued => some (.callback enqueued)
  | .frame sent => if sent.opCode = .pong then some (.frame .pong sent.payload) else none
  | .prepareToClose => none

/-- The callbacks and the pongs, in order. -/
def answers (log : List Output) : List Visible := log.filterMap Output.answer

@[simp]
theorem answers_nil : answers [] = [] := rfl

@[simp]
theorem answers_append (first second : List Output) :
    answers (first ++ second) = answers first ++ answers second :=
  List.filterMap_append

namespace Assembler

/-- The assembler after some frames. -/
def after (assembler : Assembler) (frames : List WSFrame) : Assembler :=
  (Transducer.read step assembler frames).1

@[simp]
theorem after_nil (assembler : Assembler) : assembler.after [] = assembler := rfl

theorem outputs_eq (assembler : Assembler) (frames : List WSFrame) :
    assembler.outputs frames = (Transducer.read step assembler frames).2 := by
  induction frames generalizing assembler with
  | nil => rfl
  | cons frame frames ih => rw [outputs, ih, Transducer.read_cons]

theorem outputs_append (assembler : Assembler) (first second : List WSFrame) :
    assembler.outputs (first ++ second) =
      assembler.outputs first ++ (assembler.after first).outputs second := by
  simp only [outputs_eq, Transducer.read_append, after]

theorem after_append (assembler : Assembler) (first second : List WSFrame) :
    assembler.after (first ++ second) = (assembler.after first).after second := by
  simp only [Transducer.read_append, after]

theorem after_cons (assembler : Assembler) (frame : WSFrame) (frames : List WSFrame) :
    assembler.after (frame :: frames) = (assembler.step frame).1.after frames := rfl

/-- An assembler that fails shows a close frame. -/
theorem close_of_failed {assembler : Assembler} {frame : WSFrame} (hrunning : assembler ≠ failed)
    (hfailed : (assembler.step frame).1 = failed) :
    ∃ payload, .frame .close payload ∈ (assembler.step frame).2 := by
  have hcomplete (kind : MessageKind) (fragments : List (List UInt8))
      (hfails : (complete kind fragments).1 = failed) :
      ∃ payload, .frame .close payload ∈ (complete kind fragments).2 := by
    cases kind with
    | binary => cases hfails
    | text =>
      cases htext : stringFromUTF8 fragments.flatten with
      | some text => simp [complete, htext] at hfails
      | none => simp [complete, htext]
  obtain ⟨finalFrame, opCode, payload⟩ := frame
  cases assembler with
  | failed => exact absurd rfl hrunning
  | idle =>
    cases opCode with
    | text =>
      cases finalFrame with
      | false => cases hfailed
      | true => exact hcomplete .text [payload] hfailed
    | binary =>
      cases finalFrame with
      | false => cases hfailed
      | true => exact hcomplete .binary [payload] hfailed
    | continuation => exact ⟨_, List.mem_cons_self⟩
    | close => cases hfailed
    | ping => cases hfailed
    | pong => cases hfailed
    | unknown => cases hfailed
  | within kind fragments =>
    cases opCode with
    | text => exact ⟨_, List.mem_cons_self⟩
    | binary => exact ⟨_, List.mem_cons_self⟩
    | continuation =>
      cases finalFrame with
      | false => cases hfailed
      | true => exact hcomplete _ _ hfailed
    | close => cases hfailed
    | ping => cases hfailed
    | pong => cases hfailed
    | unknown => cases hfailed

end Assembler

namespace WebSocketConnection

section Open

variable {connection : WebSocketConnection} {assembler : Assembler} {frame : WSFrame}

/-- A judgement that leaves the connection open shows no close frame. -/
theorem Verdict.not_close_of_open {verdict : Verdict} (hopen : verdict.closes = false)
    (payload : List UInt8) : .frame .close payload ∉ verdict.shown := by
  cases verdict with
  | nothing => exact List.not_mem_nil
  | deliver message => simp [Verdict.shown]
  | pong payload => simp [Verdict.shown]
  | violation description => cases hopen
  | invalidData description => cases hopen
  | closed reason description => cases hopen

/-- An active connection stays open only for frames that the assembler is given. -/
theorem ordinary_of_open (hactive : connection.active = true)
    (hopen : (connection.verdict frame).closes = false) (hother : frame.opCode ≠ .pong) :
    Ordinary frame := by
  refine ⟨fun hclose => ?_, fun hcontrol => ?_⟩
  · have hverdict : connection.verdict frame = closeVerdict frame.payload := by
      simp [verdict, hclose, hactive]
    rw [hverdict, closeVerdict_closes] at hopen
    cases hopen
  · have hping : frame.opCode = .ping := hcontrol.resolve_right hother
    by_cases hlength : frame.payload.length < 126
    · cases hfinal : frame.finalFrame with
      | false => simp [verdict, hping, hlength, hfinal, Verdict.closes] at hopen
      | true => exact ⟨rfl, by omega⟩
    · simp [verdict, hping, hlength, Verdict.closes] at hopen

/-- The judgement of a frame that leaves the connection open, and the assembler's step. -/
theorem verdict_coupled_open (hcoupled : connection.Coupled assembler)
    (hactive : connection.active = true) (hopen : (connection.verdict frame).closes = false)
    (now : ℚ) :
    (connection.verdict frame).shown = (assembler.step frame).2 ∧
      (connection.noted now frame).Coupled (assembler.step frame).1 := by
  by_cases hpong : frame.opCode = .pong
  · obtain ⟨finalFrame, opCode, payload⟩ := frame
    obtain rfl : opCode = .pong := hpong
    cases assembler with
    | failed => exact hcoupled.elim
    | idle => exact ⟨rfl, hcoupled⟩
    | within kind fragments => exact ⟨rfl, hcoupled⟩
  · obtain ⟨hshown, hfailed | ⟨_, hnext⟩⟩ :=
      verdict_coupled hcoupled (ordinary_of_open hactive hopen hpong) now
    · have hrunning : assembler ≠ .failed := by
        rintro rfl
        exact hcoupled
      obtain ⟨payload, hpayload⟩ := Assembler.close_of_failed hrunning hfailed
      rw [← hshown] at hpayload
      exact absurd hpayload (Verdict.not_close_of_open hopen payload)
    · exact ⟨hshown, hnext⟩

theorem answers_framed (hrunning : connection.Running) (opCode : FrameOpcode)
    (payload : Option (List UInt8)) :
    answers (connection.framed opCode payload) =
      if opCode = .pong then [.frame .pong (payload.getD [])] else [] := by
  rw [framed, if_pos ⟨hrunning.alive, hrunning.attached⟩]
  by_cases hpong : opCode = .pong
  · simp [answers, Output.answer, SentFrame.of, hpong]
  · simp [answers, Output.answer, SentFrame.of, hpong]

/-- It is answered with what is shown of it. -/
theorem answers_settledOutputs (hrunning : connection.Running) {verdict : Verdict}
    (hopen : verdict.closes = false) :
    answers (connection.settledOutputs verdict) = verdict.shown := by
  cases verdict with
  | nothing => rfl
  | deliver message => rfl
  | pong payload => exact answers_framed hrunning .pong (some payload)
  | violation description => cases hopen
  | invalidData description => cases hopen
  | closed reason description => cases hopen

end Open

section Running

variable {handler : SocketHandler} {connection : WebSocketConnection} {event : ConnectionEvent}

/-- A connection in operation has been in operation. -/
theorem Running.of_after (hrunning : (connection.after handler event).Running) :
    connection.Running ∧ connection.ends event = false := by
  have hactive := hrunning.active
  rw [after_active, Bool.and_eq_true, Bool.not_eq_true'] at hactive
  exact ⟨⟨hactive.1, alive_of_after hrunning.alive, attached_of_after hrunning.attached⟩,
    hactive.2⟩

theorem Running.of_run {last : WebSocketConnection} {events : List ConnectionEvent}
    (hrunning : last.Running) (hrun : connection.run handler events = .ok last) :
    connection.Running := by
  refine FallibleRun.before_run (fun state event next hstep hnext => ?_) hrun hrunning
  rw [eq_after_of_step hstep] at hnext
  exact hnext.of_after.1

/-- What does not come from the parser answers nothing. -/
theorem outside_silent (hrunning : (connection.after handler event).Running)
    (houtside : event.parsed = false) : answers (connection.outputs handler event) = [] := by
  obtain ⟨hbefore, hopen⟩ := hrunning.of_after
  have hifActive (opCode : FrameOpcode) (payload : Option (List UInt8))
      (hother : opCode ≠ .pong) :
      answers (connection.framedIfActive opCode payload) = [] := by
    rw [framedIfActive, if_pos hbefore.active, answers_framed hbefore, if_neg hother]
  cases event with
  | sendData message asBinary => exact hifActive _ _ (by cases asBinary <;> decide)
  | sendString message => exact hifActive _ _ (by decide)
  | ping withMessage => exact hifActive _ _ (by decide)
  | close reason description => cases hopen
  | drop reason description => cases hopen
  | received now frame => cases houtside
  | parseError error => cases houtside
  | timer now =>
    rw [outputs]
    cases hverdict : connection.timerVerdict now with
    | rest => rfl
    | ping => exact hifActive _ _ (by decide)
    | expired => simp [ends, hverdict] at hopen
  | processorClose =>
    rw [ends, hbefore.alive] at hopen
    cases hopen
  | socketClosed =>
    rw [ends, hbefore.alive] at hopen
    cases hopen
  | serviceChanged service => rfl
  | handlerReleased => cases hrunning.attached
  | processorReleased => cases hrunning.alive

/-- It leaves the message that is being assembled alone. -/
theorem outside_assembly (handler : SocketHandler) (connection : WebSocketConnection)
    (houtside : event.parsed = false) :
    (connection.after handler event).assembly = connection.assembly := by
  rw [after_assembly]
  cases event with
  | received now frame => cases houtside
  | _ => rfl

/-- A frame after which the connection is in operation is answered as by the assembler. -/
theorem received_coupled {assembler : Assembler} {now : ℚ} {frame : WSFrame}
    (hcoupled : connection.Coupled assembler)
    (hrunning : (connection.after handler (.received now frame)).Running) :
    answers (connection.outputs handler (.received now frame)) = (assembler.step frame).2 ∧
      (connection.after handler (.received now frame)).Coupled (assembler.step frame).1 := by
  obtain ⟨hbefore, hopen⟩ := hrunning.of_after
  have hverdict : (connection.verdict frame).closes = false := hopen
  obtain ⟨hshown, hnext⟩ := verdict_coupled_open hcoupled hbefore.active hverdict now
  have hnoted : (connection.noted now frame).Running :=
    ⟨hbefore.active, hbefore.alive, hbefore.attached⟩
  obtain ⟨_, hstate, hmessage⟩ := settled_harmless handler hnoted hverdict
  refine ⟨?_, ?_⟩
  · rw [outputs, answers_settledOutputs hbefore hverdict, hshown]
  · rw [after]
    unfold Coupled at hnext ⊢
    rwa [hstate, hmessage]

/-- If the connection is in operation after what a parser has found, it was frames, and they are
answered as by the assembler. -/
theorem run_timed_coupled {assembler : Assembler} {last : WebSocketConnection}
    {events : List StreamEvent} {clock : ℕ → ℚ} {count : ℕ}
    (hcoupled : connection.Coupled assembler) (hrunning : last.Running)
    (hrun : connection.run handler (Session.timed clock count events) = .ok last) :
    ∃ frames, events = frames.map .frame ∧
      answers last.log = answers connection.log ++ assembler.outputs frames ∧
      last.Coupled (assembler.after frames) := by
  induction events generalizing connection assembler count with
  | nil =>
    cases hrun
    exact ⟨[], rfl, (List.append_nil _).symm, hcoupled⟩
  | cons event events ih =>
    cases event with
    | error error =>
      obtain ⟨next, hstep, hrest⟩ := FallibleRun.run_cons_ok.mp hrun
      have hnext := hrunning.of_run hrest
      rw [eq_after_of_step hstep] at hnext
      cases hnext.of_after.2
    | frame frame =>
      obtain ⟨next, hstep, hrest⟩ := FallibleRun.run_cons_ok.mp hrun
      have hnext := hrunning.of_run hrest
      obtain rfl := eq_after_of_step hstep
      obtain ⟨hfirst, hcoupled'⟩ := received_coupled hcoupled hnext
      obtain ⟨frames, rfl, hlater, hlast⟩ := ih hcoupled' hrest
      refine ⟨frame :: frames, rfl, ?_, hlast⟩
      rw [hlater, after_log, answers_append, hfirst, List.append_assoc]
      rfl

end Running

end WebSocketConnection

namespace WSSocketProcessor

/-- No socket read ends between the length and the end of the mask of a frame without payload that
a later read completes. -/
def Uncut (reads : List (List UInt8)) : Prop :=
  ∀ before after, reads = before ++ after → ¬ CutInEmptyMask before.flatten after.flatten

/-- The calls for the whole stream are made, up to the first error. -/
theorem calls_of_uncut {reads : List (List UInt8)} {reading : Reading (List ConnectionCall)}
    (hfollows : Follows reads reading) (huncut : Uncut reads) :
    upToFirstError reading.processor.connection =
      (scan .start reads.flatten).2.map StreamEvent.call := by
  cases hfollows with
  | synced calls => rw [calls, upToFirstError_scan]
  | failed calls => exact calls
  | stuck before after split calls wf stuck bound finalFrame opCode second rest pending short
      zero first =>
    have hfew : ¬ headerSize second ≤ rest.length + 1 + after.flatten.length :=
      fun henough => huncut before after split ⟨_, _, _, _, pending, zero, henough⟩
    rw [calls, upToFirstError_scan, split, List.flatten_append, scan_append, pending,
      scan_header_more short.1 (Nat.not_le.mp hfew), List.append_nil]

/-- What has been seen of a header is cut short. -/
theorem headerShort_of_scan {bytes rest : List UInt8} {finalFrame : Bool} {opCode : FrameOpcode}
    {second : UInt8}
    (hscan : (scan .start bytes).1 = .header finalFrame opCode (second :: rest)) :
    HeaderShort (second :: rest) := by
  -- Only the last byte can have led there.
  rcases List.eq_nil_or_concat bytes with rfl | ⟨front, byte, rfl⟩
  · cases hscan
  rw [List.concat_eq_append, scan_append] at hscan
  have hstep : (Scanner.step (scan .start front).1 byte).1 =
      .header finalFrame opCode (second :: rest) := hscan
  cases hstate : (scan .start front).1 with
  | start =>
    rw [hstate, Scanner.step] at hstep
    split at hstep
    · simp at hstep
    · cases hstep
  | header finalFrame' opCode' seen =>
    rw [hstate, Scanner.step] at hstep
    split at hstep
    · simp at hstep
    · rename_i second' rest' _
      split_ifs at hstep with hmasked hshort
      · obtain ⟨_, _, rfl, rfl⟩ : finalFrame' = finalFrame ∧ opCode' = opCode ∧
            second' = second ∧ rest' = rest := by simpa using hstep
        exact ⟨by simpa using hmasked, hshort⟩
      · rw [enterBody] at hstep
        split at hstep <;> cases hstep
  | body finalFrame' opCode' length mask payload =>
    rw [hstate, Scanner.step] at hstep
    split at hstep <;> cases hstep
  | failed =>
    rw [hstate] at hstep
    cases hstep

/-- A header of length zero that is completed is a frame without payload. -/
theorem empty_frame_of_cut {before after : List UInt8} (hcut : CutInEmptyMask before after) :
    ∃ finalFrame opCode,
      StreamEvent.frame ⟨finalFrame, opCode, []⟩ ∈ (scan .start (before ++ after)).2 := by
  obtain ⟨finalFrame, opCode, second, rest, hstate, hzero, henough⟩ := hcut
  obtain ⟨hmasked, hshort⟩ := headerShort_of_scan hstate
  refine ⟨finalFrame, opCode, ?_⟩
  -- The bytes up to the end of the header, and those behind it.
  obtain ⟨front, behind, rfl, hfront⟩ : ∃ front behind, after = front ++ behind ∧
      (rest ++ front).length + 1 = headerSize second :=
    ⟨after.take (headerSize second - (rest.length + 1)), _, (List.take_append_drop _ _).symm, by
      simp only [List.length_append, List.length_take]; omega⟩
  have hheader : scan (.header finalFrame opCode []) (second :: (rest ++ front)) =
      (.start, [.frame ⟨finalFrame, opCode, []⟩]) := by
    rw [scan_header_full hmasked hfront, headerLength_append hzero.1, hzero.2, enterBody,
      if_pos rfl]
  rw [← List.cons_append, scan_append_of_eq (scan_header_short hmasked hshort),
    List.nil_append] at hheader
  rw [scan_append, hstate, scan_append, Prod.mk.eta.symm.trans hheader]
  simp

/-- Frames that carry something can be cut anywhere. -/
theorem uncut_of_payloads {reads : List (List UInt8)}
    (hpayloads : ∀ frame, .frame frame ∈ (scan .start reads.flatten).2 → frame.payload ≠ []) :
    Uncut reads := by
  rintro before after rfl hcut
  obtain ⟨finalFrame, opCode, hmem⟩ := empty_frame_of_cut hcut
  rw [← List.flatten_append] at hmem
  exact hpayloads _ hmem rfl

/-- A beginning of some socket reads is cut at fewer places. -/
theorem Uncut.of_append {reads more : List (List UInt8)} (huncut : Uncut (reads ++ more)) :
    Uncut reads := by
  rintro before after rfl ⟨finalFrame, opCode, second, rest, hstate, hzero, henough⟩
  refine huncut before (after ++ more) (List.append_assoc _ _ _)
    ⟨finalFrame, opCode, second, rest, hstate, hzero, ?_⟩
  rw [List.flatten_append, List.length_append]
  omega

theorem upToFirstError_received (frames : List WSFrame) :
    upToFirstError (frames.map ConnectionCall.received) =
      frames.map ConnectionCall.received := by
  induction frames with
  | nil => rfl
  | cons frame frames ih => rw [List.map_cons, upToFirstError, ih]

end WSSocketProcessor

namespace Endpoint

open WSSocketProcessor WebSocketConnection

/-- An endpoint, what the recorder has written down of its socket reads, and the frames among
that, which are all there is. They have been answered, and the connection assembles what
they have begun. -/
structure Hears (log : List Output) (events : List EndpointEvent) (endpoint : Endpoint)
    (reading : Reading (List ConnectionCall)) (frames : List WSFrame) : Prop where
  recorded : deliverAll recorder { processor := fresh [] } (reads events) = .ok reading
  mirrors : Mirrors reading endpoint
  calls : reading.processor.connection = frames.map .received
  answers : answers endpoint.session.connection.log = answers log ++ Assembler.idle.outputs frames
  coupled : endpoint.session.connection.Coupled (Assembler.idle.after frames)

section Hears

variable {handler : SocketHandler} {log : List Output} {events : List EndpointEvent}
  {endpoint next : Endpoint} {reading : Reading (List ConnectionCall)} {frames : List WSFrame}

/-- What is no socket read is not heard. -/
theorem Hears.outside {event : OutsideEvent} (hhears : Hears log events endpoint reading frames)
    (hrunning : next.session.connection.Running)
    (hstep : endpoint.session.connection.step handler event.1 = .ok next.session.connection)
    (hsame : next.session.parser = endpoint.session.parser ∧
      next.session.byteIndex = endpoint.session.byteIndex ∧ next.buffer = endpoint.buffer) :
    Hears log (events ++ [.connection event]) next reading frames := by
  obtain ⟨hrecorded, hmirrors, hcalls, hanswers, hcoupled⟩ := hhears
  have hnext := eq_after_of_step hstep
  rw [hnext] at hrunning
  have hsilent := outside_silent hrunning event.2
  obtain ⟨hstate, hmessage⟩ :=
    Prod.mk.inj (outside_assembly handler endpoint.session.connection event.2)
  constructor
  · rw [reads_concat]
    simpa [bytesRead] using hrecorded
  · exact hmirrors.of_same hsame.1 hsame.2.1 hsame.2.2
  · exact hcalls
  · rw [hnext, after_log, answers_append, hsilent, List.append_nil, hanswers]
  · rw [hnext]
    unfold Coupled at hcoupled ⊢
    rwa [hstate, hmessage]

/-- A socket read is heard. -/
theorem Hears.read {clock : ℕ → ℚ} {bytes : List UInt8}
    (hhears : Hears log events endpoint reading frames)
    (hrunning : next.session.connection.Running)
    (halive : endpoint.session.connection.processorAlive = true)
    (hstep : step handler endpoint (.read clock bytes) = .ok next) :
    ∃ later more, Hears log (events ++ [.read clock bytes]) next later (frames ++ more) := by
  obtain ⟨found, later, hdeliver, hmirrors, hcalls, hrun⟩ := hhears.mirrors.read halive hstep
  obtain ⟨more, rfl, hanswers, hcoupled⟩ := run_timed_coupled hhears.coupled hrunning hrun
  refine ⟨later, more, ?_, hmirrors, ?_, ?_, ?_⟩
  · rw [reads_concat]
    exact FallibleRun.run_concat_ok.mpr ⟨reading, hhears.recorded, hdeliver⟩
  · rw [hcalls, hhears.calls, List.map_append, List.map_map]
    rfl
  · rw [hanswers, hhears.answers, Assembler.outputs_append, List.append_assoc]
  · rw [Assembler.after_append]
    exact hcoupled

/-- One event that leaves the connection in operation. -/
theorem Hears.step {event : EndpointEvent} (hhears : Hears log events endpoint reading frames)
    (hbefore : endpoint.session.connection.Running)
    (hrunning : next.session.connection.Running)
    (hstep : Endpoint.step handler endpoint event = .ok next) :
    ∃ later more, Hears log (events ++ [event]) next later (frames ++ more) := by
  cases event with
  | read clock bytes => exact hhears.read hrunning hbefore.alive hstep
  | connection event =>
    have hheld : endpoint.held = true := by rw [held, hbefore.alive, Bool.true_or]
    simp only [Endpoint.step, hheld, not_true_eq_false, if_false, bind_eq_ok] at hstep
    obtain ⟨connection, hconnection, hnext⟩ := hstep
    cases hnext
    refine ⟨reading, [], ?_⟩
    rw [List.append_nil]
    exact hhears.outside hrunning hconnection ⟨rfl, rfl, rfl⟩
  | retained kept =>
    cases hstep
    obtain ⟨hrecorded, hmirrors, hcalls, hanswers, hcoupled⟩ := hhears
    refine ⟨reading, [], ?_⟩
    rw [List.append_nil]
    refine ⟨?_, hmirrors.of_same rfl rfl rfl, hcalls, hanswers, hcoupled⟩
    rw [reads_concat]
    simpa [bytesRead] using hrecorded

/-- An endpoint in operation has been in operation. -/
theorem running_of_step {event : EndpointEvent} (hwf : endpoint.session.parser.Wf)
    (hrunning : next.session.connection.Running)
    (hstep : Endpoint.step handler endpoint event = .ok next) :
    endpoint.session.connection.Running := by
  obtain ⟨_, _, hrun⟩ := connection_of_step hwf hstep
  exact hrunning.of_run hrun

/-- Every run that leaves the connection in operation hears its socket reads. -/
theorem hears_of_run {service : Option WebSocketService} {start : ℚ} {last : Endpoint}
    (hrun : run handler (opened service start) events = .ok last)
    (hrunning : last.session.connection.Running) :
    ∃ reading frames, Hears (WebSocketConnection.opened service start).log events last reading
      frames := by
  induction events using List.reverseRecOn generalizing last with
  | nil =>
    cases hrun
    refine ⟨_, [], rfl, ⟨WSFrameParser.wf_fresh, rfl, rfl, rfl⟩, rfl,
      (List.append_nil _).symm, ?_⟩
    cases service <;> rfl
  | append_singleton events event ih =>
    obtain ⟨middle, hmiddle, hlast⟩ := FallibleRun.run_concat_ok.mp hrun
    have hwf : middle.session.parser.Wf :=
      (connection_of_run WSFrameParser.wf_fresh hmiddle).1
    have hbefore := running_of_step hwf hrunning hlast
    obtain ⟨reading, frames, hhears⟩ := ih hmiddle hbefore
    obtain ⟨later, more, hlater⟩ := hhears.step hbefore hrunning hlast
    exact ⟨later, _, hlater⟩

end Hears

/-- The answer to the upgrade. -/
def greeting (service : Option WebSocketService) : List Visible :=
  (service.map fun _ => Visible.callback .connected).toList

theorem answers_opened (service : Option WebSocketService) (start : ℚ) :
    answers (WebSocketConnection.opened service start).log = greeting service := by
  cases service <;> rfl

/-- Only frames make calls of `received`. -/
theorem eq_frames_of_calls {found : List StreamEvent} {frames : List WSFrame}
    (hcalls : frames.map ConnectionCall.received = found.map StreamEvent.call) :
    found = frames.map .frame := by
  induction found generalizing frames with
  | nil => rw [List.map_eq_nil_iff.mp hcalls, List.map_nil]
  | cons event found ih =>
    cases frames with
    | nil => cases hcalls
    | cons frame frames =>
      obtain ⟨hfirst, hlater⟩ := List.cons.inj hcalls
      cases event with
      | error error => cases hfirst
      | frame complete =>
        cases hfirst
        rw [ih hlater, List.map_cons]

/-- There are only frames in the bytes read so far, and their answers are those of the assembler. -/
theorem scanned_of_run {handler : SocketHandler} {service : Option WebSocketService} {start : ℚ}
    {events : List EndpointEvent} {last : Endpoint}
    (hrun : run handler (opened service start) events = .ok last)
    (hrunning : last.session.connection.Running) (huncut : Uncut (reads events)) :
    ∃ frames, (scan .start (reads events).flatten).2 = frames.map .frame ∧
      answers last.session.connection.log = greeting service ++ Assembler.idle.outputs frames := by
  obtain ⟨reading, frames, hhears⟩ := hears_of_run hrun hrunning
  obtain ⟨followed, hfollowed, hfollows⟩ := follows_deliverAll (reads events)
  obtain rfl : reading = followed := Except.ok.inj (hhears.recorded.symm.trans hfollowed)
  have hcalls := calls_of_uncut hfollows huncut
  rw [hhears.calls, upToFirstError_received] at hcalls
  exact ⟨frames, eq_frames_of_calls hcalls, by rw [hhears.answers, answers_opened]⟩

/-- What the parser finds in a stream without errors are the frames of the longest sequence. -/
theorem exists_longest_of_scan {bytes : List UInt8} (hsmall : LongLengthsSmall bytes)
    {frames : List WSFrame} (hscan : (scan .start bytes).2 = frames.map .frame) :
    ∃ decoded rest, IsLongest bytes decoded rest ∧ ¬ StartsIllegal rest ∧
      frames = decoded.map ClientFrame.delivered := by
  obtain ⟨decoded, rest, hlongest, hrest, hcases, hdecoded⟩ :=
    exists_longest _ bytes le_rfl hsmall
  rw [hdecoded] at hscan
  have hlegal : ¬ StartsIllegal rest := by
    intro hillegal
    obtain ⟨error, herror⟩ := scan_illegal hillegal
    have hmem : StreamEvent.error error ∈ frames.map StreamEvent.frame := by
      rw [← hscan, herror]
      exact List.mem_append_right _ List.mem_cons_self
    simp at hmem
  have hnone : (scan .start rest).2 = [] := by
    rcases hcases with hillegal | hheader | helsewhere
    · exact absurd hillegal hlegal
    · obtain ⟨_, _, _, _, hinside⟩ := scan_inHeader hheader
      rw [hinside]
    · obtain ⟨_, hscanner, _⟩ := scan_elsewhere helsewhere hrest
      rw [hscanner]
  refine ⟨decoded, rest, hlongest, hlegal, ?_⟩
  have hinjective : Function.Injective StreamEvent.frame := fun _ _ h => StreamEvent.frame.inj h
  apply hinjective.list_map
  rw [← hscan, hnone, List.append_nil, List.map_map]
  rfl

/-- As long as a connection stays in operation, the callbacks enqueued for the service and the pongs
handed to the handler are, in order, those that the reference assembler has for the longest sequence
of complete frames in the bytes read so far. This holds for every way of cutting the stream into
socket reads that leaves the masks of empty frames whole, and whatever else happens between the
reads. -/
theorem answers_of_run (handler : SocketHandler) (service : Option WebSocketService) (start : ℚ)
    (events : List EndpointEvent) (last : Endpoint)
    (hrun : run handler (opened service start) events = .ok last)
    (hrunning : last.session.connection.Running) (huncut : Uncut (reads events))
    (hsmall : LongLengthsSmall (reads events).flatten) :
    ∃ frames rest, IsLongest (reads events).flatten frames rest ∧ ¬ StartsIllegal rest ∧
      answers last.session.connection.log =
        greeting service ++ Assembler.idle.outputs (frames.map ClientFrame.delivered) := by
  obtain ⟨frames, hscan, hanswers⟩ := scanned_of_run hrun hrunning huncut
  obtain ⟨decoded, rest, hlongest, hlegal, rfl⟩ := exists_longest_of_scan hsmall hscan
  exact ⟨decoded, rest, hlongest, hlegal, hanswers⟩

/-- A ping in two pieces, between which the service pings. -/
theorem answers_of_run_ping :
    ∃ frames rest, IsLongest [0x89, 0x81, 0, 0, 0, 0, 7] frames rest ∧ ¬ StartsIllegal rest ∧
      answers (((WebSocketConnection.opened (some ⟨none⟩) 0).sent .ping none).sent .pong
          (some [7])).log =
        greeting (some ⟨none⟩) ++ Assembler.idle.outputs (frames.map ClientFrame.delivered) := by
  have hscan : (scan .start [0x89, 0x81, 0, 0, 0, 0, 7]).2 = [.frame ⟨true, .ping, [7]⟩] := by
    decide +kernel
  refine answers_of_run ⟨fun _ => false⟩ (some ⟨none⟩) 0
    [.read (fun _ => 0) [0x89, 0x81, 0, 0], .connection ⟨.ping none, rfl⟩,
      .read (fun _ => 0) [0, 0, 7]]
    ⟨⟨((WebSocketConnection.opened (some ⟨none⟩) 0).sent .ping none).sent .pong (some [7]),
      { frame := ⟨true, .ping, []⟩, masked := true }, 0⟩, [], true⟩
    (by decide +kernel) ⟨rfl, rfl, rfl⟩ (uncut_of_payloads ?_) ?_
  · intro frame hframe
    have hmem : StreamEvent.frame frame ∈ (scan .start [0x89, 0x81, 0, 0, 0, 0, 7]).2 := hframe
    obtain rfl : frame = ⟨true, .ping, [7]⟩ := by simpa [hscan] using hmem
    simp
  · intro others first second field rest hsplit _ _ _ hfield
    have hlength : [0x89, 0x81, 0, 0, 0, 0, 7].length =
        (ClientFrame.encodeAll others ++ first :: second :: (field ++ rest)).length :=
      congrArg List.length hsplit
    simp only [List.length_append, List.length_cons, List.length_nil] at hlength
    omega

end Endpoint

end KituraWebSocket
