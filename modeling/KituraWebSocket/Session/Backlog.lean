/-
# What the handler keeps

`process` tells the handler to present its buffer again when a socket read ends inside the
length and mask of a frame. The handler then keeps the whole buffer, although only the bytes of
the header are needed, and goes on doing so until a read ends elsewhere (`backlog_of_run`).
A read that ends inside the mask of an empty frame is worse: the processor is deaf from then on,
and the handler keeps everything that still comes (`deaf_of_cut`).
-/

import KituraWebSocket.Connection.Callbacks
import KituraWebSocket.Session.Outgoing

namespace KituraWebSocket

open Scanner

namespace Scanner

/-- The bytes of a length and mask that have been seen. -/
def headerSeen : Scanner → List UInt8
  | .header _ _ seen => seen
  | .start | .body _ _ _ _ _ | .failed => []

end Scanner

/-- A parser between two calls is not inside a length and mask. -/
theorem WSFrameParser.headerSeen_scanner (parser : WSFrameParser) :
    parser.scanner.headerSeen = [] := by
  unfold WSFrameParser.scanner
  split <;> rfl

/-- A length and mask that is cut short takes at most 12 bytes. -/
theorem HeaderShort.length_le {seen : List UInt8} (hshort : HeaderShort seen) :
    seen.length ≤ 12 := by
  cases seen with
  | nil => exact hshort.elim
  | cons second rest =>
    have hsize : headerSize second ≤ 13 := by
      rw [headerSize, lengthSize, maskSize]
      split
      · decide
      · split <;> decide
    have hrest := hshort.2
    rw [List.length_cons]
    omega

namespace WSSocketProcessor

/-- What is kept of some socket reads: those since the last one that ended outside a length and
mask. -/
structure Kept (reads : List (List UInt8)) (buffer : List UInt8) : Prop where
  split : ∃ done pending, reads = done ++ pending ∧ buffer = pending.flatten ∧
    (scan .start done.flatten).1.headerSeen = [] ∧
    ∀ first rest, pending = first ++ rest → first ≠ [] →
      (scan .start (done ++ first).flatten).1.headerSeen ≠ []

/-- A processor that keeps up with a stream without errors, and the buffer of its handler. -/
structure KeepsUp (reads : List (List UInt8)) (reading : Reading (List ConnectionCall)) : Prop where
  wf : reading.processor.parser.Wf
  free : ¬ reading.processor.parser.Stuck
  state : scan reading.processor.parser.scanner
    (reading.buffer.drop reading.processor.byteIndex) = ((scan .start reads.flatten).1, [])
  bound : reading.processor.byteIndex ≤ reading.buffer.length
  unread : reading.buffer.drop reading.processor.byteIndex =
    (scan .start reads.flatten).1.headerSeen
  short : (reading.buffer.drop reading.processor.byteIndex).length ≤ 12
  kept : Kept reads reading.buffer

/-- Everything is read. -/
theorem kept_nil {reads : List (List UInt8)}
    (hend : (scan .start reads.flatten).1.headerSeen = []) : Kept reads [] := by
  refine ⟨reads, [], (List.append_nil _).symm, rfl, hend, ?_⟩
  intro first rest hsplit hfirst
  exact absurd (List.append_eq_nil_iff.mp hsplit.symm).1 hfirst

/-- One more read is kept. -/
theorem Kept.concat {reads : List (List UInt8)} {buffer bytes : List UInt8}
    (hkept : Kept reads buffer)
    (hend : (scan .start (reads ++ [bytes]).flatten).1.headerSeen ≠ []) :
    Kept (reads ++ [bytes]) (buffer ++ bytes) := by
  obtain ⟨done, pending, rfl, rfl, hdone, hpending⟩ := hkept
  refine ⟨done, pending ++ [bytes], List.append_assoc _ _ _, by simp, hdone, ?_⟩
  intro first rest hsplit hfirst
  rcases split_concat hsplit with ⟨late, hearly⟩ | ⟨rfl, _⟩
  · exact hpending first late hearly hfirst
  · rwa [← List.append_assoc]

/-- One more read of a processor that keeps up. -/
theorem KeepsUp.deliver {reads : List (List UInt8)} {reading : Reading (List ConnectionCall)}
    (hkeeps : KeepsUp reads reading) {bytes : List UInt8}
    (hfine : (scan .start (reads ++ [bytes]).flatten).1 ≠ .failed)
    (hquiet : ¬ EmptyMaskPending (scan .start (reads ++ [bytes]).flatten).1) :
    ∃ next, deliver recorder reading bytes = .ok next ∧ KeepsUp (reads ++ [bytes]) next := by
  obtain ⟨⟨connection, parser, index⟩, buffer⟩ := reading
  obtain ⟨hwf, hfree, hstate, hbound, _, _, hkept⟩ := hkeeps
  simp only at hwf hfree hstate hbound hkept
  obtain ⟨exit, hleaves, _, _, houtcome⟩ := exists_exit hwf (buffer ++ bytes) index
  have hunread : (buffer ++ bytes).drop index = buffer.drop index ++ bytes :=
    List.drop_append_of_le_length hbound
  have hwhole : (scan .start (reads ++ [bytes]).flatten).1 =
      (scan parser.scanner ((buffer ++ bytes).drop index)).1 := by
    rw [hunread, scan_append_of_eq hstate, List.flatten_append, List.flatten_singleton,
      scan_append]
  refine ⟨_, deliver_recorder hleaves, ?_⟩
  cases houtcome hfree with
  | error failed scanned left bounds =>
    rw [hwhole, scanned] at hfine
    exact absurd rfl hfine
  | waiting state failed scanned rest left bounds waits =>
    have hnext : (scan .start (reads ++ [bytes]).flatten).1 = state := by
      rw [hwhole, scanned]
    rcases exit.waiting_cases failed rest waits with ⟨hfinished, hindex, hscanner, hunstuck⟩ |
      ⟨second, tail, hdrop, _, hfinished, hindex, hmore, hshort, rfl, hstuck⟩
    · rw [hfinished, hindex, if_pos rfl]
      have hnone : state.headerSeen = [] := by
        rw [← hscanner]
        exact exit.parser.headerSeen_scanner
      refine ⟨left, hunstuck, ?_, le_rfl, ?_, Nat.zero_le _, kept_nil ?_⟩
      · rw [List.drop_nil, scan_nil, hnext, hscanner]
      · rw [List.drop_nil, hnext, hnone]
      · rw [hnext, hnone]
    · rw [hfinished, hindex, if_neg (by decide)]
      rw [hnext] at hquiet
      refine ⟨left, fun h => hquiet (hstuck.mp h), ?_, hmore.le, ?_, ?_, hkept.concat ?_⟩
      · rw [rest, hnext]
      · rw [hnext, hdrop]
        rfl
      · rw [hdrop]
        exact hshort.length_le
      · rw [hnext]
        exact List.cons_ne_nil _ _

/-- A processor keeps up with every stream without errors, unless a read ends inside the mask of
an empty frame. -/
theorem keepsUp_deliverAll (reads : List (List UInt8))
    (hfine : (scan .start reads.flatten).1 ≠ .failed)
    (hquiet : ∀ before after, reads = before ++ after →
      ¬ EmptyMaskPending (scan .start before.flatten).1) :
    ∃ reading, deliverAll recorder { processor := fresh [] } reads = .ok reading ∧
      KeepsUp reads reading := by
  induction reads using List.reverseRecOn with
  | nil =>
    exact ⟨_, rfl, WSFrameParser.wf_fresh, (fun h => by cases h.1), rfl, le_rfl, rfl,
      Nat.zero_le _, kept_nil rfl⟩
  | append_singleton reads bytes ih =>
    have hbefore : (scan .start reads.flatten).1 ≠ .failed := by
      intro hfailed
      rw [List.flatten_append, scan_append, hfailed, scan_failed] at hfine
      exact hfine rfl
    obtain ⟨reading, hrun, hkeeps⟩ := ih hbefore fun before after hsplit =>
      hquiet before (after ++ [bytes]) (by rw [hsplit, List.append_assoc])
    obtain ⟨next, hdeliver, hnext⟩ := hkeeps.deliver hfine (hquiet _ [] (by simp))
    exact ⟨next, FallibleRun.run_concat_ok.mpr ⟨reading, hrun, hdeliver⟩, hnext⟩

/-- A stuck processor calls nobody, and its handler keeps what it is given. -/
theorem deliver_of_stuck {σ : Type} (calls : ConnectionCalls σ) (connection : σ)
    {parser : WSFrameParser} {index : ℕ} {buffer : List UInt8} (hwf : parser.Wf)
    (hstuck : parser.Stuck) (hmore : index < buffer.length) (bytes : List UInt8) :
    deliver calls ⟨⟨connection, parser, index⟩, buffer⟩ bytes =
      .ok ⟨⟨connection, parser, index⟩, buffer ++ bytes⟩ := by
  have hstill : index < (buffer ++ bytes).length := by
    rw [List.length_append]
    exact Nat.lt_add_right _ hmore
  have hleaves : LeavesAt (buffer ++ bytes) parser index ⟨[], false, parser, index⟩ :=
    leavesAt_stuck hwf hstuck
  have hprocess := process_eq hleaves calls connection
  rw [replayAll_nil, ok_bind, LoopExit.finished_of_more rfl hstill,
    LoopExit.nextIndex_of_more hstill] at hprocess
  simp [deliver, hprocess]

end WSSocketProcessor

namespace WebSocketConnection

/-- A processor that is there has been there. -/
theorem alive_of_run {handler : SocketHandler} {connection last : WebSocketConnection}
    {events : List ConnectionEvent} (hrun : connection.run handler events = .ok last)
    (halive : last.processorAlive = true) : connection.processorAlive = true := by
  have hbefore (state : WebSocketConnection) (event : ConnectionEvent)
      (next : WebSocketConnection) (hstep : step handler state event = .ok next)
      (hnext : next.processorAlive = true) : state.processorAlive = true := by
    rw [eq_after_of_step hstep] at hnext
    exact alive_of_after hnext
  exact FallibleRun.before_run hbefore hrun halive

/-- The only answer to what does not come from the parser is `disconnected`. -/
theorem answers_outside (handler : SocketHandler) (connection : WebSocketConnection)
    {event : ConnectionEvent} (houtside : event.parsed = false) :
    ∀ visible ∈ answers (connection.outputs handler event),
      ∃ reason, visible = .callback (.disconnected reason) := by
  intro visible hvisible
  obtain ⟨output, houtput, hanswer⟩ := List.mem_filterMap.mp hvisible
  cases output with
  | prepareToClose => cases hanswer
  | callback enqueued =>
    have hmem : enqueued ∈ callbacks (connection.outputs handler event) :=
      List.mem_filterMap.mpr ⟨_, houtput, rfl⟩
    rw [callbacks_outputs, Option.mem_toList] at hmem
    cases hanswer
    cases event with
    | received now frame => cases houtside
    | parseError error => cases houtside
    | timer now =>
      obtain ⟨_, hreason⟩ := Option.ite_none_right_eq_some.mp hmem
      exact ⟨_, congrArg _ (Option.some.inj hreason).symm⟩
    | processorClose =>
      obtain ⟨_, hreason⟩ := Option.ite_none_right_eq_some.mp hmem
      exact ⟨_, congrArg _ (Option.some.inj hreason).symm⟩
    | socketClosed =>
      obtain ⟨_, hreason⟩ := Option.ite_none_right_eq_some.mp hmem
      exact ⟨_, congrArg _ (Option.some.inj hreason).symm⟩
    | _ => cases hmem
  | frame sent =>
    have hmem : sent ∈ handed (connection.outputs handler event) :=
      List.mem_filterMap.mpr ⟨_, houtput, rfl⟩
    rw [handed_outputs, Option.mem_toList] at hmem
    obtain ⟨_, _, hframe⟩ := reaching_eq_some.mp hmem
    have hpong : sent.opCode ≠ .pong := by
      cases frameOf_cases hframe with
      | sendData message asBinary active => cases asBinary <;> simp
      | received now frame sent judged => cases houtside
      | _ => simp [closeFrame]
    simp [Output.answer, hpong] at hanswer

theorem answers_run_outside {handler : SocketHandler} {connection last : WebSocketConnection}
    {events : List ConnectionEvent} (houtside : ∀ event ∈ events, event.parsed = false)
    (hrun : connection.run handler events = .ok last) :
    ∃ added, last.log = connection.log ++ added ∧
      ∀ visible ∈ answers added, ∃ reason, visible = .callback (.disconnected reason) := by
  induction events generalizing connection with
  | nil =>
    cases hrun
    exact ⟨[], (List.append_nil _).symm, by simp⟩
  | cons event events ih =>
    obtain ⟨next, hstep, hrest⟩ := FallibleRun.run_cons_ok.mp hrun
    obtain ⟨added, hadded, hlater⟩ :=
      ih (fun other hother => houtside other (List.mem_cons_of_mem _ hother)) hrest
    refine ⟨connection.outputs handler event ++ added, ?_, ?_⟩
    · rw [hadded, log_of_step hstep, List.append_assoc]
    · rw [answers_append, List.forall_mem_append]
      exact ⟨connection.answers_outside handler (houtside event List.mem_cons_self), hlater⟩

end WebSocketConnection

namespace Endpoint

open WSSocketProcessor

section Runs

variable {handler : SocketHandler} {endpoint last next : Endpoint} {events : List EndpointEvent}

theorem alive_of_step {event : EndpointEvent} (hwf : endpoint.session.parser.Wf)
    (hstep : step handler endpoint event = .ok next)
    (halive : next.session.connection.processorAlive = true) :
    endpoint.session.connection.processorAlive = true := by
  obtain ⟨_, _, hrun⟩ := connection_of_step hwf hstep
  exact WebSocketConnection.alive_of_run hrun halive

/-- As long as its processor is there, an endpoint goes the way of the recorder. -/
theorem mirrors_of_run {service : Option WebSocketService} {start : ℚ}
    (hrun : run handler (opened service start) events = .ok last)
    (halive : last.session.connection.processorAlive = true) :
    ∃ reading, deliverAll recorder { processor := fresh [] } (reads events) = .ok reading ∧
      Mirrors reading last := by
  induction events using List.reverseRecOn generalizing last with
  | nil =>
    cases hrun
    exact ⟨_, rfl, WSFrameParser.wf_fresh, rfl, rfl, rfl⟩
  | append_singleton events event ih =>
    obtain ⟨middle, hmiddle, hlast⟩ := FallibleRun.run_concat_ok.mp hrun
    have hwf : middle.session.parser.Wf :=
      (connection_of_run WSFrameParser.wf_fresh hmiddle).1
    have hbefore := alive_of_step hwf hlast halive
    obtain ⟨reading, hrecorded, hmirrors⟩ := ih hmiddle hbefore
    rw [reads_concat]
    cases event with
    | read clock bytes =>
      obtain ⟨_, later, hdeliver, hlater, _, _⟩ := hmirrors.read hbefore hlast
      exact ⟨later, FallibleRun.run_concat_ok.mpr ⟨reading, hrecorded, hdeliver⟩, hlater⟩
    | connection event =>
      have hheld : middle.held = true := by rw [held, hbefore, Bool.true_or]
      simp only [step, hheld, not_true_eq_false, if_false, bind_eq_ok] at hlast
      obtain ⟨connection, _, hnext⟩ := hlast
      cases hnext
      exact ⟨reading, by simpa [bytesRead] using hrecorded, hmirrors.of_same rfl rfl rfl⟩
    | retained kept =>
      cases hlast
      exact ⟨reading, by simpa [bytesRead] using hrecorded, hmirrors.of_same rfl rfl rfl⟩

end Runs

/-- As long as there is no error in a stream and no read has ended inside the mask of an empty
frame, the unread bytes of the buffer are those of a length and mask that is cut short, at most 12.
The handler keeps, however, everything since the last read that ended elsewhere. -/
theorem backlog_of_run (handler : SocketHandler) (service : Option WebSocketService) (start : ℚ)
    (events : List EndpointEvent) (last : Endpoint)
    (hrun : run handler (opened service start) events = .ok last)
    (halive : last.session.connection.processorAlive = true)
    (hfine : (scan .start (reads events).flatten).1 ≠ .failed)
    (hquiet : ∀ before after, reads events = before ++ after →
      ¬ EmptyMaskPending (scan .start before.flatten).1) :
    last.buffer.drop last.session.byteIndex =
        (scan .start (reads events).flatten).1.headerSeen ∧
      (last.buffer.drop last.session.byteIndex).length ≤ 12 ∧
      Kept (reads events) last.buffer := by
  obtain ⟨reading, hrecorded, hmirrors⟩ := mirrors_of_run hrun halive
  obtain ⟨reading', hrecorded', hkeeps⟩ := keepsUp_deliverAll _ hfine hquiet
  obtain rfl : reading = reading' := Except.ok.inj (hrecorded.symm.trans hrecorded')
  rw [hmirrors.byteIndex, hmirrors.buffer]
  exact ⟨hkeeps.unread, hkeeps.short, hkeeps.kept⟩

/-- A frame, and the beginning of another. -/
theorem backlog_of_run_two :
    [0x82, 0x81, 0, 0, 0, 0, 1, 0x82, 0x85, 0, 0].drop 8 =
        (scan .start [0x82, 0x81, 0, 0, 0, 0, 1, 0x82, 0x85, 0, 0]).1.headerSeen ∧
      (([0x82, 0x81, 0, 0, 0, 0, 1, 0x82, 0x85, 0, 0] : List UInt8).drop 8).length ≤ 12 ∧
      Kept [[0x82, 0x81, 0, 0, 0, 0, 1, 0x82, 0x85, 0, 0]]
        [0x82, 0x81, 0, 0, 0, 0, 1, 0x82, 0x85, 0, 0] := by
  have hnothing : ∀ before after : List (List UInt8), [] = before ++ after →
      ¬ EmptyMaskPending (scan .start before.flatten).1 := by
    intro before after hsplit
    obtain ⟨rfl, rfl⟩ := List.append_eq_nil_iff.mp hsplit.symm
    exact id
  refine backlog_of_run ⟨fun _ => false⟩ (some ⟨none⟩) 0
    [.read (fun _ => 0) [0x82, 0x81, 0, 0, 0, 0, 1, 0x82, 0x85, 0, 0]]
    ⟨⟨(WebSocketConnection.opened (some ⟨none⟩) 0).enqueue (.receivedData [1]),
      { state := .opCodeParsed, frame := ⟨true, .binary, []⟩, masked := true, payloadLength := 5 },
      8⟩, [0x82, 0x81, 0, 0, 0, 0, 1, 0x82, 0x85, 0, 0], true⟩
    (by decide +kernel) rfl (by decide +kernel) (quiet_concat hnothing ?_)
  have hstate : (scan .start [0x82, 0x81, 0, 0, 0, 0, 1, 0x82, 0x85, 0, 0]).1 =
      .header true .binary [0x85, 0, 0] := by
    decide +kernel
  intro hpending
  have hzero : EmptyMaskPending (scan .start [0x82, 0x81, 0, 0, 0, 0, 1, 0x82, 0x85, 0, 0]).1 :=
    hpending
  rw [hstate] at hzero
  exact absurd hzero.2 (by decide)

/-- What happens besides the socket reads. -/
def outside : EndpointEvent → Option ConnectionEvent
  | .connection event => some event.1
  | .read _ _ | .retained _ => none

/-- One event of an endpoint whose processor is stuck. -/
theorem step_stuck {handler : SocketHandler} {endpoint next : Endpoint} {event : EndpointEvent}
    (hwf : endpoint.session.parser.Wf) (hstuck : endpoint.session.parser.Stuck)
    (hmore : endpoint.session.byteIndex < endpoint.buffer.length)
    (hstep : step handler endpoint event = .ok next)
    (halive : endpoint.session.connection.processorAlive = true) :
    next.session.parser = endpoint.session.parser ∧
      next.session.byteIndex = endpoint.session.byteIndex ∧
      next.buffer = endpoint.buffer ++ (bytesRead event).getD [] ∧
      endpoint.session.connection.run handler (outside event).toList =
        .ok next.session.connection := by
  cases event with
  | read clock bytes =>
    simp only [step, halive, Session.calling, not_true_eq_false, if_false,
      deliver_of_stuck (Session.clockedCalls handler clock) _ hwf hstuck hmore] at hstep
    cases hstep
    exact ⟨rfl, rfl, rfl, rfl⟩
  | connection event =>
    have hheld : endpoint.held = true := by rw [held, halive, Bool.true_or]
    simp only [step, hheld, not_true_eq_false, if_false, bind_eq_ok] at hstep
    obtain ⟨connection, hconnection, hnext⟩ := hstep
    cases hnext
    refine ⟨rfl, rfl, (List.append_nil _).symm, ?_⟩
    exact (FallibleRun.run_singleton _ _).trans hconnection
  | retained kept =>
    cases hstep
    exact ⟨rfl, rfl, (List.append_nil _).symm, rfl⟩

/-- Everything that follows. -/
theorem run_stuck {handler : SocketHandler} {endpoint last : Endpoint}
    {events : List EndpointEvent} (hwf : endpoint.session.parser.Wf)
    (hstuck : endpoint.session.parser.Stuck)
    (hmore : endpoint.session.byteIndex < endpoint.buffer.length)
    (hrun : run handler endpoint events = .ok last)
    (halive : last.session.connection.processorAlive = true) :
    last.session.parser = endpoint.session.parser ∧
      last.session.byteIndex = endpoint.session.byteIndex ∧
      last.buffer = endpoint.buffer ++ (reads events).flatten ∧
      endpoint.session.connection.run handler (events.filterMap outside) =
        .ok last.session.connection := by
  induction events using List.reverseRecOn generalizing last with
  | nil =>
    cases hrun
    exact ⟨rfl, rfl, (List.append_nil _).symm, rfl⟩
  | append_singleton events event ih =>
    obtain ⟨middle, hmiddle, hlast⟩ := FallibleRun.run_concat_ok.mp hrun
    have hbefore : middle.session.connection.processorAlive = true :=
      alive_of_step (connection_of_run hwf hmiddle).1 hlast halive
    obtain ⟨hparser, hindex, hbuffer, hconnection⟩ := ih hmiddle hbefore
    obtain ⟨hparser', hindex', hbuffer', hconnection'⟩ := step_stuck (hparser ▸ hwf)
      (hparser ▸ hstuck) (by rw [hindex, hbuffer, List.length_append]; omega) hlast hbefore
    refine ⟨hparser'.trans hparser, hindex'.trans hindex, ?_, ?_⟩
    · rw [hbuffer', hbuffer, reads_concat, List.flatten_append, List.append_assoc]
      cases bytesRead event <;> simp
    · rw [FallibleRun.filterMap_concat]
      exact FallibleRun.run_append_ok.mpr ⟨_, hconnection, hconnection'⟩

/-- Once a socket read has ended inside the mask of an empty frame, in a stream without errors so
far, nothing that the client sends is heard any more. The connection goes on with what else happens
to it: no message is delivered, no ping answered, no violation noticed and no frame seen by the
timer, while the handler keeps every byte that still comes. -/
theorem deaf_of_cut (handler : SocketHandler) (service : Option WebSocketService) (start : ℚ)
    (before after : List EndpointEvent) (middle last : Endpoint)
    (hbefore : run handler (opened service start) before = .ok middle)
    (hafter : run handler middle after = .ok last)
    (halive : last.session.connection.processorAlive = true)
    (hcut : ∃ early late, reads before = early ++ late ∧
      EmptyMaskPending (scan .start early.flatten).1) :
    middle.session.connection.run handler (after.filterMap outside) =
        .ok last.session.connection ∧
      (∃ added, last.session.connection.log = middle.session.connection.log ++ added ∧
        ∀ visible ∈ answers added, ∃ reason, visible = .callback (.disconnected reason)) ∧
      last.buffer = middle.buffer ++ (reads after).flatten := by
  have hwf : middle.session.parser.Wf := (connection_of_run WSFrameParser.wf_fresh hbefore).1
  have hmiddle : middle.session.connection.processorAlive = true := by
    obtain ⟨_, _, hrun⟩ := connection_of_run hwf hafter
    exact WebSocketConnection.alive_of_run hrun halive
  obtain ⟨reading, hrecorded, hmirrors⟩ := mirrors_of_run hbefore hmiddle
  obtain ⟨followed, hfollowed, hfollows⟩ := follows_deliverAll (reads before)
  obtain rfl : reading = followed := Except.ok.inj (hrecorded.symm.trans hfollowed)
  obtain ⟨early, late, hsplit, hpending⟩ := hcut
  obtain ⟨hstuck, hmore⟩ : middle.session.parser.Stuck ∧
      middle.session.byteIndex < middle.buffer.length := by
    rw [hmirrors.parser, hmirrors.byteIndex, hmirrors.buffer]
    cases hfollows with
    | synced calls state running wf free bound quiet =>
      exact absurd hpending (quiet early late hsplit)
    | failed calls state reported wf quiet =>
      exact absurd hpending (quiet early late hsplit)
    | stuck before' after' split calls wf stuck bound => exact ⟨stuck, bound⟩
  obtain ⟨_, _, hbuffer, hconnection⟩ := run_stuck hwf hstuck hmore hafter halive
  refine ⟨hconnection, WebSocketConnection.answers_run_outside ?_ hconnection, hbuffer⟩
  intro event hevent
  obtain ⟨happened, _, houtside⟩ := List.mem_filterMap.mp hevent
  cases happened with
  | connection event =>
    cases houtside
    exact event.2
  | read clock bytes => cases houtside
  | retained kept => cases houtside

/-- A ping without payload is cut behind its length, and the client goes on. -/
theorem deaf_of_cut_ping :
    (WebSocketConnection.opened (some ⟨none⟩) 0).run ⟨fun _ => false⟩ [.ping none] =
        .ok ((WebSocketConnection.opened (some ⟨none⟩) 0).sent .ping none) ∧
      (∃ added, ((WebSocketConnection.opened (some ⟨none⟩) 0).sent .ping none).log =
          (WebSocketConnection.opened (some ⟨none⟩) 0).log ++ added ∧
        ∀ visible ∈ answers added, ∃ reason, visible = .callback (.disconnected reason)) ∧
      ([0x89, 0x80, 1, 2, 3, 4, 0x8a] : List UInt8) =
        [0x89, 0x80] ++ [[1, 2, 3, 4], [0x8a]].flatten := by
  have hstate : (scan .start [0x89, 0x80]).1 = .header true .ping [0x80] := by decide +kernel
  refine deaf_of_cut ⟨fun _ => false⟩ (some ⟨none⟩) 0 [.read (fun _ => 0) [0x89, 0x80]]
    [.read (fun _ => 0) [1, 2, 3, 4], .connection ⟨.ping none, rfl⟩, .read (fun _ => 0) [0x8a]]
    ⟨⟨WebSocketConnection.opened (some ⟨none⟩) 0,
      { state := .opCodeParsed, frame := ⟨true, .ping, []⟩, masked := true, payloadLength := 0 },
      1⟩,
      [0x89, 0x80], true⟩
    ⟨⟨(WebSocketConnection.opened (some ⟨none⟩) 0).sent .ping none,
      { state := .opCodeParsed, frame := ⟨true, .ping, []⟩, masked := true, payloadLength := 0 },
      1⟩,
      [0x89, 0x80, 1, 2, 3, 4, 0x8a], true⟩
    (by decide +kernel) (by decide +kernel) rfl
    ⟨[[0x89, 0x80]], [], rfl, ?_⟩
  show EmptyMaskPending (scan .start [0x89, 0x80]).1
  rw [hstate]
  exact ⟨by decide, by decide⟩

end Endpoint

end KituraWebSocket
