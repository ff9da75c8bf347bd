/-
# Concurrent senders

Threads of the service, the timer and the read thread send on one connection at the
same time and share one output buffer. Between the wait for the write lock and its
signal, `sendMessage` is a critical section of the steps below, each of which may fall
anywhere between the steps of the other calls. `frames_uninterleaved` says that the
handler is nevertheless given whole frames, in the order in which the lock was
acquired; `sendMessage_of_section` that `sendMessage` in one step is such a section.
-/

import KituraWebSocket.Send.Stream
import KituraWebSocket.Support.CriticalSection

namespace KituraWebSocket

open CriticalSection Grammar

/-- A `sendMessage` call that has found its processor. An absent payload has length zero. -/
structure SendCall where
  opCode : FrameOpcode
  payload : Option (List UInt8)
  sends : opCode ∈ [.text, .binary, .close, .ping, .pong]
  length_le : (payload.getD []).length ≤ 2 ^ 32 - 1

/-- The output buffer, and the writes handed to the handler so far. -/
structure SharedOutput where
  buffer : List UInt8
  writes : List (List UInt8)
  deriving DecidableEq, Repr

namespace SendCall

/-- Where a call that holds the write lock stands. -/
inductive Position
  | /-- `buffer.length = 0`. -/
    clear
  | /-- `createFrameHeader`. -/
    header
  | /-- The payload is appended to the buffer, or else the buffer is written as it is. -/
    payload
  | /-- The write of the buffer with the payload. -/
    writeBuffer
  | /-- The second write, of the payload alone. -/
    writePayload
  deriving DecidableEq, Repr

/-- `processor.write(from:)`. -/
def handOver (output : SharedOutput) (bytes : List UInt8) : SharedOutput :=
  { output with writes := output.writes ++ [bytes] }

/-- One step of a call that holds the write lock. -/
def act (call : SendCall) :
    Position → SharedOutput → Except Fault (Option Position × SharedOutput)
  | .clear, output => .ok (some .header, { output with buffer := [] })
  | .header, output => do
    let payloadLength := (call.payload.getD []).length
    let buffer ← WSFrame.createFrameHeader true call.opCode payloadLength output.buffer
    return (some .payload, { output with buffer := buffer })
  | .payload, output =>
    match call.payload with
    | some realPayload =>
      if WebSocketConnection.bufferSize ≥ output.buffer.length + realPayload.length then
        .ok (some .writeBuffer, { output with buffer := output.buffer ++ realPayload })
      else .ok (some .writePayload, handOver output output.buffer)
    | none => .ok (none, handOver output output.buffer)
  | .writeBuffer, output => .ok (none, handOver output output.buffer)
  | .writePayload, output => .ok (none, handOver output (call.payload.getD []))

/-- A call between the wait for the write lock and its signal. -/
def code (call : SendCall) : Section SharedOutput Position Fault where
  first := .clear
  act := call.act

/-- The complete encoding of the frame of a call. -/
def encoding (call : SendCall) : List UInt8 :=
  serverFrame ⟨true, call.opCode, call.payload.getD []⟩

/-- The header of the frame. -/
def frameHeader (call : SendCall) : List UInt8 :=
  serverHeader true call.opCode (call.payload.getD []).length

/-- What has become of the output of a call's start at each of its positions. -/
def Progress (call : SendCall) (start : SharedOutput) : Option Position → SharedOutput → Prop
  | some .clear, output => output = start
  | some .header, output => output = ⟨[], start.writes⟩
  | some .payload, output => output = ⟨call.frameHeader, start.writes⟩
  | some .writeBuffer, output => ∃ realPayload, call.payload = some realPayload ∧
    WebSocketConnection.bufferSize ≥ call.frameHeader.length + realPayload.length ∧
    output = ⟨call.frameHeader ++ realPayload, start.writes⟩
  | some .writePayload, output => ∃ realPayload, call.payload = some realPayload ∧
    ¬ WebSocketConnection.bufferSize ≥ call.frameHeader.length + realPayload.length ∧
    output = ⟨call.frameHeader, start.writes ++ [call.frameHeader]⟩
  | none, output =>
    output = ⟨(SentFrame.of call.opCode call.payload).writes.headD [],
      start.writes ++ (SentFrame.of call.opCode call.payload).writes⟩

theorem opCode_known (call : SendCall) : call.opCode ≠ .unknown := by
  intro hunknown
  have hsends := call.sends
  rw [hunknown] at hsends
  revert hsends
  decide

/-- One step returns, and leads from the progress at its position to that at the next. -/
theorem progress_act (call : SendCall) {start output : SharedOutput} {position : Position}
    (hprogress : call.Progress start (some position) output) :
    ∃ next, call.act position output = .ok next ∧ call.Progress start next.1 next.2 := by
  cases position with
  | clear =>
    obtain rfl : output = start := hprogress
    exact ⟨_, rfl, rfl⟩
  | header =>
    obtain rfl : output = ⟨[], start.writes⟩ := hprogress
    have hlength : (call.payload.getD []).length < 2 ^ 32 := by
      have := call.length_le
      omega
    refine ⟨(some .payload, ⟨call.frameHeader, start.writes⟩), ?_, rfl⟩
    simp [act, frameHeader, createFrameHeader_eq call.opCode_known hlength]
  | payload =>
    obtain rfl : output = ⟨call.frameHeader, start.writes⟩ := hprogress
    cases hpayload : call.payload with
    | none =>
      refine ⟨(none, ⟨call.frameHeader, start.writes ++ [call.frameHeader]⟩), ?_, ?_⟩
      · simp only [act, hpayload, handOver]
      · simp [Progress, SentFrame.of, frameHeader, hpayload]
    | some realPayload =>
      by_cases hfits : WebSocketConnection.bufferSize ≥
          call.frameHeader.length + realPayload.length
      · refine ⟨(some .writeBuffer, ⟨call.frameHeader ++ realPayload, start.writes⟩), ?_,
          realPayload, hpayload, hfits, rfl⟩
        simp only [act, hpayload, if_pos hfits]
      · refine ⟨(some .writePayload, ⟨call.frameHeader, start.writes ++ [call.frameHeader]⟩), ?_,
          realPayload, hpayload, hfits, rfl⟩
        simp only [act, hpayload, if_neg hfits, handOver]
  | writeBuffer =>
    obtain ⟨realPayload, hpayload, hfits, rfl⟩ := hprogress
    refine ⟨_, rfl, ?_⟩
    rw [frameHeader, hpayload, Option.getD_some] at hfits
    simp [Progress, SentFrame.of, handOver, frameHeader, hpayload, hfits]
  | writePayload =>
    obtain ⟨realPayload, hpayload, hfits, rfl⟩ := hprogress
    refine ⟨_, rfl, ?_⟩
    rw [frameHeader, hpayload, Option.getD_some] at hfits
    simp [Progress, SentFrame.of, handOver, frameHeader, hpayload, hfits]

theorem progress_of_within {call : SendCall} {start output : SharedOutput}
    {position : Option Position} (hwithin : Within call.code start position output) :
    call.Progress start position output := by
  induction hwithin with
  | enter => rfl
  | act _ hact ih =>
    obtain ⟨next, hreturns, hprogress⟩ := call.progress_act ih
    obtain rfl := Except.ok.inj (hreturns.symm.trans hact)
    exact hprogress

theorem total_code (call : SendCall) : Total call.code := by
  intro start position output hwithin
  obtain ⟨next, hreturns, _⟩ := call.progress_act (progress_of_within hwithin)
  exact ⟨next, hreturns⟩

/-- A whole section writes the whole frame. -/
theorem writes_of_section {call : SendCall} {start output : SharedOutput}
    (hwithin : Within call.code start none output) :
    output.writes.flatten = start.writes.flatten ++ call.encoding := by
  obtain rfl : output = _ := progress_of_within hwithin
  rw [List.flatten_append, SentFrame.of_wire, encoding]

/-- A section in progress has written a beginning of it. -/
theorem writes_of_within {call : SendCall} {start output : SharedOutput}
    {position : Option Position} (hwithin : Within call.code start position output) :
    ∃ written, written <+: call.encoding ∧
      output.writes.flatten = start.writes.flatten ++ written := by
  cases position with
  | none => exact ⟨_, List.prefix_rfl, writes_of_section hwithin⟩
  | some position =>
    have hprogress := progress_of_within hwithin
    cases position with
    | clear =>
      obtain rfl : output = start := hprogress
      exact ⟨[], List.nil_prefix, by simp⟩
    | header =>
      obtain rfl : output = _ := hprogress
      exact ⟨[], List.nil_prefix, by simp⟩
    | payload =>
      obtain rfl : output = _ := hprogress
      exact ⟨[], List.nil_prefix, by simp⟩
    | writeBuffer =>
      obtain ⟨realPayload, _, _, rfl⟩ := hprogress
      exact ⟨[], List.nil_prefix, by simp⟩
    | writePayload =>
      obtain ⟨realPayload, _, _, rfl⟩ := hprogress
      exact ⟨call.frameHeader, ⟨call.payload.getD [], rfl⟩, by simp⟩

/-- `sendMessage` in one step is its section, with nobody in between. -/
theorem sendMessage_of_section {call : SendCall} {connection : WebSocketConnection}
    (halive : connection.processorAlive = true) (hattached : connection.handlerAttached = true)
    {writes : List (List UInt8)} {output : SharedOutput}
    (hwithin : Within call.code ⟨connection.buffer, writes⟩ none output) :
    ∃ sent : SentFrame,
      connection.sendMessage call.opCode call.payload = .ok { connection with
        buffer := output.buffer
        log := connection.log ++ [.frame sent] } ∧
      output.writes = writes ++ sent.writes := by
  obtain rfl : output = _ := progress_of_within hwithin
  have hlength : (call.payload.getD []).length < 2 ^ 32 := by
    have := call.length_le
    omega
  refine ⟨SentFrame.of call.opCode call.payload, ?_, rfl⟩
  rw [WebSocketConnection.sendMessage_eq call.opCode_known hlength, WebSocketConnection.sent,
    if_pos halive, WebSocketConnection.framed, if_pos ⟨halive, hattached⟩]

section Calls

variable {ι : Type*} (calls : ι → SendCall)

/-- Sections one after the other write their frames one after the other. -/
theorem writes_of_serial {start output : SharedOutput} {finished : List ι}
    (hserial : Serial (fun call => (calls call).code) start finished output) :
    output.writes.flatten =
      start.writes.flatten ++ finished.flatMap fun call => (calls call).encoding := by
  induction hserial with
  | nil => simp
  | concat _ hwithin ih =>
    rw [writes_of_section hwithin, ih, List.flatMap_append, List.append_assoc]
    simp

/-- However the steps of any number of calls follow each other, they all return. When no call holds
the write lock, the lock is free and the handler has been given the complete frames of the calls
that are done, in the order in which they acquired it. When one holds it, the handler has been given
those of the calls before it, and then a beginning of its own. -/
theorem frames_uninterleaved [DecidableEq ι] (start : SharedOutput) (schedule : List ι) :
    ∃ state, FallibleRun.run (step fun call => (calls call).code) (initial start) schedule =
        .ok state ∧
      state.entered.Nodup ∧
      (state.semaphore = 1 ∧ (∀ call, Outside state state.entered call) ∧
          state.shared.writes.flatten = start.writes.flatten ++
            state.entered.flatMap (fun call => (calls call).encoding) ∨
        ∃ before holder position written, state.semaphore = 0 ∧
          state.entered = before ++ [holder] ∧ state.stage holder = .inside position ∧
          (∀ call ≠ holder, Outside state before call) ∧
          written <+: (calls holder).encoding ∧
          state.shared.writes.flatten = start.writes.flatten ++
            before.flatMap (fun call => (calls call).encoding) ++ written) := by
  obtain ⟨state, hrun⟩ := run_returns (fun call => (calls call).total_code) start schedule
  refine ⟨state, hrun, ?_⟩
  rcases run_orderly hrun with hfree | ⟨before, holder, position, hheld⟩
  · exact ⟨hfree.nodup, .inl ⟨hfree.semaphore, hfree.outside,
      writes_of_serial calls hfree.serial⟩⟩
  · obtain ⟨middle, hserial, hwithin⟩ := hheld.serial
    obtain ⟨written, hprefix, hwritten⟩ := writes_of_within hwithin
    rw [writes_of_serial calls hserial] at hwritten
    rw [hheld.entered]
    exact ⟨hheld.nodup, .inr ⟨before, holder, position, written, hheld.semaphore, rfl,
      hheld.inside, hheld.outside, hprefix, hwritten⟩⟩

end Calls

end SendCall

end KituraWebSocket
