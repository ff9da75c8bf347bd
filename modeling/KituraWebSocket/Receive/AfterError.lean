/-
# After a parse error

Reporting an error is the last thing a call of `process` does: it closes the
connection softly and returns. The parser stays where the error was found, the
index where it was and the socket open, and nothing remembers the error. So the
next buffer is parsed as if there had been none, whatever led up to it, and
`not_failsForGood` finds for every such processor a buffer with which it hands over a
frame again.
-/

import KituraWebSocket.Receive.ProcessLoop

namespace KituraWebSocket

open Scanner

namespace WSSocketProcessor

/-- The processor after a call of `process`. -/
def processed {σ : Type} (calls : ConnectionCalls σ) (processor : WSSocketProcessor σ)
    (buffer : List UInt8) : Except Fault (WSSocketProcessor σ) :=
  (process calls processor buffer).map Prod.snd

/-- Process buffers one after the other, whatever is returned for them. -/
def processAll {σ : Type} (calls : ConnectionCalls σ) (processor : WSSocketProcessor σ)
    (buffers : List (List UInt8)) : Except Fault (WSSocketProcessor σ) :=
  FallibleRun.run (processed calls) processor buffers

/-- The frame handed over by a call of `received(frame:)`. -/
def ConnectionCall.receivedFrame : ConnectionCall → Option WSFrame
  | .received frame => some frame
  | .close _ _ => none

/-- The frames that have been handed to `received(frame:)`. -/
def receivedFrames (recorded : List ConnectionCall) : List WSFrame :=
  recorded.filterMap ConnectionCall.receivedFrame

/-- No later call of `process`, whatever bytes it is given, hands over another frame. -/
def FailsForGood (processor : WSSocketProcessor (List ConnectionCall)) : Prop :=
  ∀ later last, processAll recorder processor later = .ok last →
    receivedFrames last.connection = receivedFrames processor.connection

/-- A call of `process` in which the parser reports an error: it closes the connection with
`protocolError`. -/
def ReportsError (processor : WSSocketProcessor (List ConnectionCall)) (buffer : List UInt8)
    (failed : WSSocketProcessor (List ConnectionCall)) : Prop :=
  ∃ finished calls description,
    process recorder processor buffer = .ok (finished, failed) ∧
      failed.connection = processor.connection ++ calls ∧
      .close (some .protocolError) description ∈ calls

/-- In the bytes of a buffer behind the index, the parser finds a complete frame or a byte that
cannot belong to one. -/
def Finds (processor : WSSocketProcessor (List ConnectionCall)) (buffer : List UInt8) : Prop :=
  found processor.parser (buffer.drop processor.byteIndex) ≠ []

/-- A call records what is found, and leaves the parser between two calls. -/
theorem connection_of_processed {processor next : WSSocketProcessor (List ConnectionCall)}
    {buffer : List UInt8} (hwf : processor.parser.Wf)
    (hprocessed : processed recorder processor buffer = .ok next) :
    next.parser.Wf ∧ next.connection = processor.connection ++
      (found processor.parser (buffer.drop processor.byteIndex)).map StreamEvent.call := by
  obtain ⟨finished, parser, index, hparser, hcall⟩ :=
    exists_process hwf buffer processor.byteIndex
  have hprocess := hcall recorder processor.connection
  rw [replayAll_recorder, ok_bind] at hprocess
  rw [processed, hprocess] at hprocessed
  cases hprocessed
  exact ⟨hparser, rfl⟩

theorem wf_of_processAll {processor last : WSSocketProcessor (List ConnectionCall)}
    {buffers : List (List UInt8)} (hwf : processor.parser.Wf)
    (hrun : processAll recorder processor buffers = .ok last) : last.parser.Wf := by
  apply FallibleRun.run_invariant (fun processor => processor.parser.Wf) _ hwf hrun
  intro processor buffer next hwf hprocessed
  exact (connection_of_processed hwf hprocessed).1

/-- Later calls record nothing exactly when they find nothing. -/
theorem silent_iff {processor last : WSSocketProcessor (List ConnectionCall)}
    {later : List (List UInt8)} (hwf : processor.parser.Wf)
    (hrun : processAll recorder processor later = .ok last) :
    last.connection = processor.connection ↔
      FallibleRun.NoStep (processed recorder) processor later Finds := by
  refine (FallibleRun.run_iff_noStep
    (fun _ state => state.parser.Wf ∧ processor.connection <+: state.connection)
    (fun _ state => state.connection = processor.connection) ⟨hwf, List.prefix_rfl⟩ ?_ ?_
    hrun).trans (and_iff_right rfl)
  · rintro _ state buffer next ⟨hstate, hprefix⟩ hprocessed
    obtain ⟨hnext, hconnection⟩ := connection_of_processed hstate hprocessed
    rw [hconnection]
    exact ⟨hnext, hprefix.trans (List.prefix_append _ _)⟩
  · rintro _ state buffer next ⟨hstate, earlier, hearlier⟩ hprocessed
    rw [(connection_of_processed hstate hprocessed).2, ← hearlier, List.append_assoc]
    simp [Finds]

/-- A loop that has found an error has left there. -/
theorem LoopOutcome.left_of_error {buffer : List UInt8} {parser : WSFrameParser} {index : ℕ}
    {exit : LoopExit} (houtcome : LoopOutcome buffer parser index exit) {error : WebSocketError}
    (hfound : .error error ∈ exit.events) :
    exit.parser.Wf ∧ ¬ exit.parser.Stuck ∧ exit.parser.state ≠ .lengthParsed := by
  cases houtcome with
  | error failed scanned left bounds => exact left
  | waiting state failed scanned rest left bounds waits =>
    -- The machine would have failed, although what is still unread leads it there in silence.
    have hfailed := (failed_iff parser.scanner_ne_failed (buffer.drop index)).mpr
      ⟨error, by rwa [scanned]⟩
    have hlate := (failed_iff exit.parser.scanner_ne_failed (buffer.drop exit.index)).mp (by
      rw [rest]
      rwa [scanned] at hfailed)
    simp [rest] at hlate

/-- An error is found in the first byte of a frame or in the second, and the parser stays
there. -/
theorem parser_of_reportsError {processor failed : WSSocketProcessor (List ConnectionCall)}
    {buffer : List UInt8} (hwf : processor.parser.Wf)
    (herror : ReportsError processor buffer failed) :
    failed.parser.Wf ∧ ¬ failed.parser.Stuck ∧ failed.parser.state ≠ .lengthParsed := by
  obtain ⟨connection, parser, index⟩ := processor
  obtain ⟨finished, calls, description, hprocess, hcalls, hclose⟩ := herror
  obtain ⟨exit, hleaves, _, hevents, houtcome⟩ := exists_exit hwf buffer index
  rw [process_eq hleaves, replayAll_recorder, ok_bind] at hprocess
  obtain ⟨_, rfl⟩ : exit.finished buffer = finished ∧
      ⟨connection ++ exit.events.map StreamEvent.call, exit.parser, exit.nextIndex buffer⟩ =
        failed := by
    simpa using hprocess
  obtain rfl : exit.events.map StreamEvent.call = calls := List.append_cancel_left hcalls
  obtain ⟨event, hevent, hcall⟩ := List.mem_map.mp hclose
  have hfree : ¬ parser.Stuck := by
    intro hstuck
    rw [hevents, found, if_pos hstuck] at hevent
    cases hevent
  cases event with
  | frame frame => cases hcall
  | error error => exact (houtcome hfree).left_of_error hevent

/-- The bytes of a ping without payload are a ping. -/
theorem scan_ping : scan .start [0x89, 0x80, 0, 0, 0, 0] = (.start, [.frame ⟨true, .ping, []⟩]) := by
  decide

/-- A second byte and a mask complete whatever frame was begun. -/
theorem scan_emptyTail (finalFrame : Bool) (opCode : FrameOpcode) :
    scan (.header finalFrame opCode []) [0x80, 0, 0, 0, 0] =
      (.start, [.frame ⟨finalFrame, opCode, []⟩]) := rfl

/-- From there the parser finds a ping again. -/
theorem found_ping {parser : WSFrameParser} (hfree : ¬ parser.Stuck)
    (hheader : parser.state ≠ .lengthParsed) :
    ∃ bytes, .frame ⟨true, .ping, []⟩ ∈ found parser bytes := by
  cases hstate : parser.state with
  | initial =>
    refine ⟨[0x89, 0x80, 0, 0, 0, 0], ?_⟩
    rw [found, if_neg hfree, WSFrameParser.scanner_initial hstate, scan_ping]
    exact List.mem_singleton_self _
  | opCodeParsed =>
    refine ⟨[0x80, 0, 0, 0, 0] ++ [0x89, 0x80, 0, 0, 0, 0], ?_⟩
    rw [found, if_neg hfree, WSFrameParser.scanner_opCodeParsed hstate,
      scan_append_of_eq (scan_emptyTail _ _), scan_ping]
    simp
  | lengthParsed => exact absurd hstate hheader

/-- After an error there is always a buffer with which a frame is handed over again. -/
theorem exists_handed_over {failed : WSSocketProcessor (List ConnectionCall)}
    (hwf : failed.parser.Wf) (hfree : ¬ failed.parser.Stuck)
    (hheader : failed.parser.state ≠ .lengthParsed) : ¬ FailsForGood failed := by
  obtain ⟨bytes, hping⟩ := found_ping hfree hheader
  obtain ⟨finished, parser, index, _, hcall⟩ :=
    exists_process hwf (List.replicate failed.byteIndex 0 ++ bytes) failed.byteIndex
  rw [List.drop_left' (by simp)] at hcall
  have hprocess := hcall recorder failed.connection
  rw [replayAll_recorder, ok_bind] at hprocess
  intro hgood
  have hsame := hgood [List.replicate failed.byteIndex 0 ++ bytes] _ (by
    rw [processAll, FallibleRun.run_singleton]
    exact congrArg (Except.map Prod.snd) hprocess)
  have hnone : receivedFrames ((found failed.parser bytes).map StreamEvent.call) = [] := by
    simpa [receivedFrames] using hsame
  have hframe : (⟨true, .ping, []⟩ : WSFrame) ∈
      receivedFrames ((found failed.parser bytes).map StreamEvent.call) :=
    List.mem_filterMap.mpr ⟨_, List.mem_map_of_mem hping, rfl⟩
  rw [hnone] at hframe
  cases hframe

/-- Whatever buffers a processor has been given, once the last of them has made the parser report an
error it has not failed for good: with some later buffer `process` hands over a frame again. With
given later buffers nothing is called exactly when there is nothing to be found in them behind the
index. -/
theorem not_failsForGood (buffers : List (List UInt8)) (buffer : List UInt8)
    (reached failed : WSSocketProcessor (List ConnectionCall))
    (hreached : processAll recorder (fresh []) buffers = .ok reached)
    (herror : ReportsError reached buffer failed) :
    ¬ FailsForGood failed ∧
      ∀ later last, processAll recorder failed later = .ok last →
        (last.connection = failed.connection ↔
          FallibleRun.NoStep (processed recorder) failed later Finds) := by
  obtain ⟨hwf, hfree, hheader⟩ :=
    parser_of_reportsError (wf_of_processAll WSFrameParser.wf_fresh hreached) herror
  exact ⟨exists_handed_over hwf hfree hheader, fun later last hrun => silent_iff hwf hrun⟩

/-- A first byte with reserved bits. -/
theorem not_failsForGood_reserved_bits :
    let failed : WSSocketProcessor (List ConnectionCall) := ⟨[.close (some .protocolError)
      (some (WebSocketError.invalidOpCode 0x71).description)], {}, 0⟩
    ¬ FailsForGood failed ∧
      ∀ later last, processAll recorder failed later = .ok last →
        (last.connection = failed.connection ↔
          FallibleRun.NoStep (processed recorder) failed later Finds) :=
  not_failsForGood [] [0xF1] (fresh []) _ rfl
    ⟨true, [.close (some .protocolError) (some (WebSocketError.invalidOpCode 0x71).description)],
      some (WebSocketError.invalidOpCode 0x71).description, by decide +kernel, rfl, by simp⟩

/-- A ping in the next buffer is handed over. -/
theorem reserved_bits_then_ping :
    ∃ failed, ReportsError (fresh []) [0xF1] failed ∧ ¬ FailsForGood failed := by
  refine ⟨⟨[.close (some .protocolError) (some (WebSocketError.invalidOpCode 0x71).description)],
    {}, 0⟩, ⟨true, _, _, by decide +kernel, rfl, List.mem_singleton_self _⟩, fun hgood => ?_⟩
  have hsame := hgood [[0x89, 0x80, 0, 0, 0, 0]]
    ⟨[.close (some .protocolError) (some (WebSocketError.invalidOpCode 0x71).description),
      .received ⟨true, .ping, []⟩], { frame := ⟨true, .ping, []⟩, masked := true }, 0⟩
    (by decide +kernel)
  revert hsame
  decide

end WSSocketProcessor

end KituraWebSocket
