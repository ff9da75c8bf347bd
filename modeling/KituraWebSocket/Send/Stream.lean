/-
# The outgoing stream

`sent` is what one `sendMessage` call does, in closed form: it hands one frame to
the handler, in one write or two, and leaves everything but the log and the
output buffer alone. The bytes of the writes are those the grammar gives the
frame, so a client that decodes the stream of a sequence of calls gets back the
calls.
-/

import KituraWebSocket.Send.Header
import KituraWebSocket.WebSocketConnection

namespace KituraWebSocket

open Grammar

/-- The frame that a `sendMessage` call hands to the handler. -/
def SentFrame.of (opCode : FrameOpcode) (payload : Option (List UInt8)) : SentFrame where
  opCode := opCode
  payload := payload.getD []
  writes :=
    let header := serverHeader true opCode (payload.getD []).length
    match payload with
    | some realPayload =>
      if WebSocketConnection.bufferSize ≥ header.length + realPayload.length then
        [header ++ realPayload]
      else [header, realPayload]
    | none => [header]

/-- In one write or two, the same bytes reach the client. -/
theorem SentFrame.of_wire (opCode : FrameOpcode) (payload : Option (List UInt8)) :
    (SentFrame.of opCode payload).writes.flatten =
      serverFrame ⟨true, opCode, payload.getD []⟩ := by
  cases payload with
  | none => simp [SentFrame.of, serverFrame]
  | some realPayload =>
    simp only [SentFrame.of, serverFrame, Option.getD_some]
    split <;> simp

namespace WebSocketConnection

/-- What a `sendMessage` call hands to the handler. -/
def framed (connection : WebSocketConnection) (opCode : FrameOpcode)
    (payload : Option (List UInt8)) : List Output :=
  if connection.processorAlive ∧ connection.handlerAttached then
    [.frame (SentFrame.of opCode payload)]
  else []

/-- The connection after a `sendMessage` call. -/
def sent (connection : WebSocketConnection) (opCode : FrameOpcode)
    (payload : Option (List UInt8)) : WebSocketConnection :=
  if connection.processorAlive then
    { connection with
      buffer := (SentFrame.of opCode payload).writes.headD []
      log := connection.log ++ connection.framed opCode payload }
  else connection

section Sent

variable (connection : WebSocketConnection) (opCode : FrameOpcode) (payload : Option (List UInt8))

@[simp]
theorem sent_processorAlive :
    (connection.sent opCode payload).processorAlive = connection.processorAlive := by
  rw [sent]
  split <;> rfl

@[simp]
theorem sent_handlerAttached :
    (connection.sent opCode payload).handlerAttached = connection.handlerAttached := by
  rw [sent]
  split <;> rfl

@[simp]
theorem sent_active : (connection.sent opCode payload).active = connection.active := by
  rw [sent]
  split <;> rfl

@[simp]
theorem sent_message : (connection.sent opCode payload).message = connection.message := by
  rw [sent]
  split <;> rfl

@[simp]
theorem sent_messageState :
    (connection.sent opCode payload).messageState = connection.messageState := by
  rw [sent]
  split <;> rfl

theorem sent_log :
    (connection.sent opCode payload).log = connection.log ++ connection.framed opCode payload := by
  rw [sent, framed]
  split
  · rfl
  · simp_all

end Sent

variable {connection : WebSocketConnection} {opCode : FrameOpcode}
  {payload : Option (List UInt8)}

theorem write_eq (connection : WebSocketConnection) (sent : SentFrame) :
    connection.write sent = { connection with
      log := connection.log ++ if connection.handlerAttached then [.frame sent] else [] } := by
  rw [write, emit]
  split
  · rfl
  · rw [List.append_nil]

/-- A payload of fewer than 2^32 bytes is sent. -/
theorem sendMessage_eq (hknown : opCode ≠ .unknown)
    (hlength : (payload.getD []).length < 2 ^ 32) (connection : WebSocketConnection) :
    connection.sendMessage opCode payload = .ok (connection.sent opCode payload) := by
  cases halive : connection.processorAlive with
  | false => simp [sendMessage, sent, halive]
  | true =>
    rw [sendMessage, if_neg (by simp [halive]), sent, if_pos halive]
    simp only [createFrameHeader_eq hknown hlength, ok_bind, List.nil_append, write_eq,
      pure_eq_ok]
    cases payload with
    | none => simp [framed, SentFrame.of, halive]
    | some realPayload =>
      by_cases hfits : bufferSize ≥ (serverHeader true opCode realPayload.length).length +
          realPayload.length
      · simp [framed, SentFrame.of, halive, hfits]
      · simp [framed, SentFrame.of, halive, hfits]

/-- A payload of 2^32 bytes or more stops the program. -/
theorem sendMessage_overflow (hknown : opCode ≠ .unknown)
    (halive : connection.processorAlive = true) (hlong : 2 ^ 32 ≤ (payload.getD []).length) :
    connection.sendMessage opCode payload = .error .overflow := by
  simp [sendMessage, halive, createFrameHeader_overflow hknown hlong]

/-- A call that returns has done what a call does. -/
theorem eq_sent_of_sendMessage {next : WebSocketConnection} (hknown : opCode ≠ .unknown)
    (hreturns : connection.sendMessage opCode payload = .ok next) :
    next = connection.sent opCode payload := by
  by_cases hlength : (payload.getD []).length < 2 ^ 32
  · rw [sendMessage_eq hknown hlength] at hreturns
    cases hreturns
    rfl
  · cases halive : connection.processorAlive with
    | false =>
      simp only [sendMessage, halive, pure_eq_ok] at hreturns
      cases hreturns
      simp [sent, halive]
    | true =>
      rw [sendMessage_overflow hknown halive (Nat.not_lt.mp hlength)] at hreturns
      cases hreturns

/-- Successive `sendMessage` calls. -/
def sendAll (connection : WebSocketConnection)
    (calls : List (FrameOpcode × Option (List UInt8))) : Except Fault WebSocketConnection :=
  FallibleRun.run (fun connection call => connection.sendMessage call.1 call.2) connection calls

theorem sendAll_eq (connection : WebSocketConnection) (halive : connection.processorAlive = true)
    (hattached : connection.handlerAttached = true)
    (calls : List (FrameOpcode × Option (List UInt8)))
    (hcalls : ∀ call ∈ calls, call.1 ≠ .unknown ∧ (call.2.getD []).length < 2 ^ 32) :
    ∃ next, connection.sendAll calls = .ok next ∧
      next.log = connection.log ++ calls.map fun call => .frame (SentFrame.of call.1 call.2) := by
  induction calls generalizing connection with
  | nil => exact ⟨connection, rfl, by simp⟩
  | cons call calls ih =>
    obtain ⟨hknown, hlength⟩ := hcalls call (by simp)
    obtain ⟨next, hrun, hlog⟩ := ih (connection.sent call.1 call.2) (by simpa) (by simpa)
      fun other hother => hcalls other (by simp [hother])
    refine ⟨next, ?_, ?_⟩
    · rw [sendAll, FallibleRun.run_cons, sendMessage_eq hknown hlength]
      exact hrun
    · rw [hlog, sent_log, framed, if_pos ⟨halive, hattached⟩]
      simp

/-- The bytes handed to the handler by a sequence of calls are those of the frames that were sent,
each in its place, and they decode to these frames and nothing else. -/
theorem decodeAll_sendAll (connection : WebSocketConnection)
    (halive : connection.processorAlive = true) (hattached : connection.handlerAttached = true)
    (calls : List (FrameOpcode × Option (List UInt8)))
    (hopCodes : ∀ call ∈ calls, call.1 ∈ [.text, .binary, .close, .ping, .pong])
    (hlengths : ∀ call ∈ calls, (call.2.getD []).length ≤ 2 ^ 32 - 1) :
    ∃ (next : WebSocketConnection) (frames : List SentFrame),
      connection.sendAll calls = .ok next ∧
      next.log = connection.log ++ frames.map .frame ∧
      frames.map (·.writes.flatten) =
        calls.map (fun call => serverFrame ⟨true, call.1, call.2.getD []⟩) ∧
      PrefixCode.decodeAll decodeServerFrame calls.length
          (frames.flatMap (·.writes.flatten)) =
        some (calls.map fun call => ⟨true, call.1, call.2.getD []⟩) := by
  have hcalls : ∀ call ∈ calls, call.1 ≠ .unknown ∧ (call.2.getD []).length < 2 ^ 32 := by
    intro call hcall
    refine ⟨fun hunknown => ?_, by have := hlengths call hcall; omega⟩
    have := hopCodes call hcall
    rw [hunknown] at this
    exact absurd this (by decide)
  obtain ⟨next, hrun, hlog⟩ := sendAll_eq connection halive hattached calls hcalls
  have hwire : (calls.map fun call => SentFrame.of call.1 call.2).map (·.writes.flatten) =
      calls.map fun call => serverFrame ⟨true, call.1, call.2.getD []⟩ := by
    simp [SentFrame.of_wire]
  refine ⟨next, calls.map fun call => SentFrame.of call.1 call.2, hrun,
    by rw [hlog, List.map_map]; rfl, hwire, ?_⟩
  have hstream : (calls.map fun call => SentFrame.of call.1 call.2).flatMap (·.writes.flatten) =
      (calls.map fun call => (⟨true, call.1, call.2.getD []⟩ : WSFrame)).flatMap serverFrame := by
    rw [List.flatMap_def, hwire, List.flatMap_def, List.map_map]
    rfl
  rw [hstream]
  apply PrefixCode.decodeAll_flatMap _ (fun frame => by simp [serverFrame, serverHeader])
    (by simp)
  intro frame hframe
  obtain ⟨call, hcall, rfl⟩ := List.mem_map.mp hframe
  obtain ⟨hknown, hlength⟩ := hcalls call hcall
  exact decodeServerFrame_serverFrame hknown (hlength.trans (by decide))

/-- A text of two bytes and a ping without payload. -/
theorem decodeAll_sendAll_text_ping :
    ∃ (next : WebSocketConnection) (frames : List SentFrame),
      (opened none 0).sendAll [(.text, some [104, 105]), (.ping, none)] = .ok next ∧
      next.log = (opened none 0).log ++ frames.map .frame ∧
      frames.map (·.writes.flatten) =
        [serverFrame ⟨true, .text, [104, 105]⟩, serverFrame ⟨true, .ping, []⟩] ∧
      PrefixCode.decodeAll decodeServerFrame 2 (frames.flatMap (·.writes.flatten)) =
        some [⟨true, .text, [104, 105]⟩, ⟨true, .ping, []⟩] :=
  decodeAll_sendAll (opened none 0) rfl rfl [(.text, some [104, 105]), (.ping, none)]
    (by decide) (by decide)

end WebSocketConnection

end KituraWebSocket
