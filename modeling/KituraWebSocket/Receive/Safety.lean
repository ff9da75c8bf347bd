/-
# Safety of the receive path

Every read and write of the model is checked against its bounds and every loop
has a budget, so a call that returns has stayed within bounds and has left its
loops by itself. `ParseSafe` and `ProcessSafe` say so for the two loops of the
receive path, together with what keeps them going: every round that goes on has
consumed a byte, and a payload is only unmasked when there is something to unmask.
-/

import KituraWebSocket.Receive.ProcessLoop

namespace KituraWebSocket

open WSSocketProcessor

namespace WSFrameParser

/-- A call of `parse` is safe. -/
structure ParseSafe (parser : WSFrameParser) (bytes : List UInt8) (start : ℕ) : Prop where
  /-- The call returns. -/
  returns : ∃ result, parser.parse bytes start = .ok result
  /-- No round of its loop faults or passes without consuming a byte or leaving. -/
  progress : BoundedLoop.Progresses (parseRound bytes) ParseState.bytesParsed ⟨parser, start, 0⟩
  /-- `parsePayload` is only called with payload bytes to unmask. -/
  positive : ∀ parsing, BoundedLoop.Visits (parseRound bytes) ⟨parser, start, 0⟩ parsing →
    parsing.byteIndex < bytes.length →
    parsing.parser.payloadLength ≠ parsing.parser.frame.payload.length →
    parsing.parser.state = .lengthParsed →
      0 < parsing.parser.bytesToUnmask parsing.byteIndex bytes.length

/-- A parser that has payload to come and bytes to take it from unmasks some. -/
theorem bytesToUnmask_pos {parser : WSFrameParser} (hwf : parser.Wf)
    (hstate : parser.state = .lengthParsed) {index length : ℕ} (hmore : index < length) :
    0 < parser.bytesToUnmask index length := by
  have hfields := hwf.payload_lt hstate
  simp only [bytesToUnmask]
  omega

/-- A stuck parser leaves its loop at once. -/
theorem parseRound_stuck {parsing : ParseState} (hwf : parsing.parser.Wf)
    (hstuck : parsing.parser.Stuck) (bytes : List UInt8) :
    ∃ result, parseRound bytes parsing = .ok (.inr result) := by
  have hpayload := hwf.payload_eq_nil hstuck.1
  exact ⟨_, parseRound_exit fun h => h.2 (by simp [hstuck.2, hpayload])⟩

/-- A parse is safe. -/
theorem parse_safe {parser : WSFrameParser} (hwf : parser.Wf) (bytes : List UInt8) (start : ℕ) :
    parser.ParseSafe bytes start := by
  by_cases hstuck : parser.Stuck
  · obtain ⟨hprogress, hvisits⟩ := BoundedLoop.progresses
      (fun parsing : ParseState => parsing = ⟨parser, start, 0⟩) ParseState.bytesParsed
      (fun parsing hstart => .inr (by rw [hstart]; exact parseRound_stuck hwf hstuck bytes)) rfl
    refine ⟨⟨_, parse_stuck hwf hstuck⟩, hprogress, ?_⟩
    intro parsing hvisit _ _ hstate
    rw [hvisits parsing hvisit] at hstate
    exact absurd (hstuck.1.symm.trans hstate) (by decide)
  · obtain ⟨result, hparse, _⟩ := parse_outcome bytes start hwf hstuck
    have hstart : ParseInvariant parser (bytes.drop start) start ⟨parser, start, 0⟩ :=
      .within rfl (Nat.zero_le _) hwf hstuck rfl
    obtain ⟨hprogress, hvisits⟩ := BoundedLoop.progresses
      (ParseInvariant parser (bytes.drop start) start) ParseState.bytesParsed
      (fun parsing hinv => (hinv.round rfl).imp
        (fun ⟨next, hnext, hkept, hless⟩ => ⟨next, hnext, hkept, by omega⟩)
        (fun ⟨result, hresult, _⟩ => ⟨result, hresult⟩))
      hstart
    refine ⟨⟨result, hparse⟩, hprogress, ?_⟩
    intro parsing hvisit hmore hunfinished hstate
    cases hvisits parsing hvisit with
    | within index bound wf free scanned => exact bytesToUnmask_pos wf hstate hmore
    | done bound complete scanned => exact absurd complete.payload hunfinished

end WSFrameParser

namespace WSSocketProcessor

/-- The calls that `process` makes always return. -/
structure CallsReturn {σ : Type} (calls : ConnectionCalls σ) : Prop where
  received : ∀ connection frame, ∃ next, calls.received connection frame = .ok next
  close : ∀ connection (error : WebSocketError), ∃ next,
    calls.close connection (some .protocolError) (some error.description) = .ok next

/-- A call of `process` is safe. -/
structure ProcessSafe {σ : Type} (calls : ConnectionCalls σ) (processor : WSSocketProcessor σ)
    (buffer : List UInt8) : Prop where
  /-- The call returns. -/
  returns : ∃ result, process calls processor buffer = .ok result
  /-- No round of its loop faults or passes without consuming a byte or leaving. -/
  progress : BoundedLoop.Progresses (processRound calls buffer) WSSocketProcessor.byteIndex
    processor
  /-- Every call of the parser is safe. -/
  parses : ∀ state, BoundedLoop.Visits (processRound calls buffer) processor state →
    state.byteIndex < buffer.length → state.parser.ParseSafe buffer state.byteIndex

theorem replayAll_returns {σ : Type} {calls : ConnectionCalls σ} (hcalls : CallsReturn calls)
    (connection : σ) (events : List StreamEvent) :
    ∃ next, replayAll calls connection events = .ok next := by
  induction events generalizing connection with
  | nil => exact ⟨connection, rfl⟩
  | cons event events ih =>
    obtain ⟨middle, hmiddle⟩ : ∃ middle, event.call.replay calls connection = .ok middle := by
      cases event with
      | frame frame => exact hcalls.received connection frame
      | error error => exact hcalls.close connection error
    rw [replayAll_cons, hmiddle]
    exact ih middle

/-- A round of the loop goes on behind the bytes it has consumed, or leaves. -/
theorem processRound_goes {σ : Type} {calls : ConnectionCalls σ} (hcalls : CallsReturn calls)
    (buffer : List UInt8) {state : WSSocketProcessor σ} (hwf : state.parser.Wf) :
    (∃ next, processRound calls buffer state = .ok (.inl next) ∧ next.parser.Wf ∧
      state.byteIndex < next.byteIndex) ∨
    ∃ result, processRound calls buffer state = .ok (.inr result) := by
  by_cases hmore : state.byteIndex < buffer.length
  · by_cases hstuck : state.parser.Stuck
    · right
      exact ⟨_, by simp [processRound, hmore, WSFrameParser.parse_stuck hwf hstuck]; rfl⟩
    · obtain ⟨result, hparse, houtcome⟩ :=
        WSFrameParser.parse_outcome buffer state.byteIndex hwf hstuck
      cases houtcome with
      | error error returned scanned left =>
        obtain ⟨next, hclose⟩ := hcalls.close state.connection error
        exact .inr ⟨_, by simp [processRound, hmore, hparse, returned.2.1, hclose]; rfl⟩
      | completed returned consumed scanned left =>
        obtain ⟨next, hreceived⟩ := hcalls.received state.connection result.parser.frame
        refine .inl ⟨⟨next, result.parser.reset, state.byteIndex + result.bytesConsumed⟩, ?_,
          left.wf_reset, by simp only; omega⟩
        have hconsumed : result.bytesConsumed ≠ 0 := by omega
        simp [processRound, hmore, hparse, returned, hconsumed, hreceived]
      | paused returned consumed scanned left waiting =>
        by_cases hidle : result.bytesConsumed = 0
        · exact .inr ⟨_, by simp [processRound, hmore, hparse, returned, hidle]; rfl⟩
        · refine .inl ⟨⟨state.connection, result.parser, state.byteIndex + result.bytesConsumed⟩,
            ?_, left, by simp only; omega⟩
          simp [processRound, hmore, hparse, returned, hidle]
  · exact .inr ⟨_, by rw [processRound, if_neg hmore, pure_eq_ok]⟩

/-- A call of `process` is safe. -/
theorem process_safe {σ : Type} {calls : ConnectionCalls σ} (hcalls : CallsReturn calls)
    {processor : WSSocketProcessor σ} (hwf : processor.parser.Wf) (buffer : List UInt8) :
    ProcessSafe calls processor buffer := by
  obtain ⟨hprogress, hvisits⟩ := BoundedLoop.progresses
    (fun state : WSSocketProcessor σ => state.parser.Wf) WSSocketProcessor.byteIndex
    (fun state hstate => processRound_goes hcalls buffer hstate) hwf
  refine ⟨?_, hprogress, fun state hvisit _ =>
    WSFrameParser.parse_safe (hvisits state hvisit) buffer state.byteIndex⟩
  obtain ⟨connection, parser, index⟩ := processor
  obtain ⟨finished, next, nextIndex, _, hprocess⟩ := exists_process hwf buffer index
  obtain ⟨last, hreplay⟩ :=
    replayAll_returns hcalls connection (found parser (buffer.drop index))
  exact ⟨_, by rw [hprocess, hreplay, ok_bind]⟩

end WSSocketProcessor

end KituraWebSocket
