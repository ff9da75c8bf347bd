/-
# What the client receives

The bytes that an endpoint hands to its handler, whatever happens to it: the service sends,
pings and closes, the client's pings are answered and its violations are, the timer fires.
The stream is always one of whole frames, which a client decodes without a rest
(`decodeAll_wire`), and the messages among them are those that the service has sent, as long
as the connection is in operation (`sent_is_received`).
-/

import KituraWebSocket.Connection.ControlFrames
import KituraWebSocket.Session.Conversation

namespace KituraWebSocket

open Grammar

/-- The bytes that have been handed to the handler. -/
def wire (log : List Output) : List UInt8 := (handed log).flatMap fun sent => sent.writes.flatten

/-- The frame that a client decodes. -/
def SentFrame.frame (sent : SentFrame) : WSFrame := ⟨true, sent.opCode, sent.payload⟩

/-- A frame that carries a message. -/
def WSFrame.isMessage (frame : WSFrame) : Bool := frame.opCode = .text ∨ frame.opCode = .binary

/-- The message that the service sends. -/
def ConnectionEvent.message : ConnectionEvent → Option WSFrame
  | .sendData message asBinary => some ⟨true, if asBinary then .binary else .text, message⟩
  | .sendString message => some ⟨true, .text, utf8Bytes message⟩
  | _ => none

/-- The messages among the frames that have been handed over. -/
def messageFrames (log : List Output) : List WSFrame :=
  ((handed log).map SentFrame.frame).filter WSFrame.isMessage

@[simp]
theorem messageFrames_append (first second : List Output) :
    messageFrames (first ++ second) = messageFrames first ++ messageFrames second := by
  simp [messageFrames]

/-- A frame that `sendMessage` has handed over. -/
inductive SentFrame.Proper : SentFrame → Prop
  | of (opCode : FrameOpcode) (payload : Option (List UInt8)) (known : opCode ≠ .unknown)
      (bounded : (payload.getD []).length < 2 ^ 32) : Proper (SentFrame.of opCode payload)

/-- The stream is one of whole frames. -/
theorem decodeAll_wire {log : List Output} (hproper : ∀ sent ∈ handed log, sent.Proper) :
    PrefixCode.decodeAll decodeServerFrame (handed log).length (wire log) =
      some ((handed log).map SentFrame.frame) := by
  have hwire : wire log = ((handed log).map SentFrame.frame).flatMap serverFrame := by
    rw [wire, List.flatMap_map]
    apply List.flatMap_congr
    intro sent hsent
    obtain ⟨opCode, payload, _, _⟩ := hproper sent hsent
    exact SentFrame.of_wire opCode payload
  rw [hwire]
  apply PrefixCode.decodeAll_flatMap _ (fun frame => by simp [serverFrame, serverHeader])
    (by simp)
  intro frame hframe
  obtain ⟨sent, hsent, rfl⟩ := List.mem_map.mp hframe
  obtain ⟨opCode, payload, hknown, hbounded⟩ := hproper sent hsent
  exact decodeServerFrame_serverFrame hknown (hbounded.trans (by decide))

namespace WebSocketConnection

section Step

variable {handler : SocketHandler} {connection next : WebSocketConnection}
  {event : ConnectionEvent} {sent : SentFrame}

theorem bounded_of_sendMessage {opCode : FrameOpcode} {payload : Option (List UInt8)}
    (hknown : opCode ≠ .unknown) (halive : connection.processorAlive = true)
    (hreturns : connection.sendMessage opCode payload = .ok next) :
    (payload.getD []).length < 2 ^ 32 := by
  by_contra hlong
  rw [sendMessage_overflow hknown halive (Nat.not_lt.mp hlong)] at hreturns
  cases hreturns

theorem bounded_of_closeConnection {depth : ℕ} {reason : Option WebSocketCloseReasonCode}
    {description : Option String} {hard : Bool} (halive : connection.processorAlive = true)
    (hreturns : closeConnection handler (depth + 1) connection reason description hard =
      .ok next) : (closePayload reason description).length < 2 ^ 32 := by
  rw [closeConnection, bind_eq_ok] at hreturns
  obtain ⟨middle, hmiddle, _⟩ := hreturns
  exact bounded_of_sendMessage (by decide) halive hmiddle

/-- A close frame with a text of the library. -/
theorem proper_closeFrame {reason : WebSocketCloseReasonCode} {description : Option String}
    (hlegal : LegalControl (closeFrame reason description)) :
    (closeFrame reason description).Proper := by
  have hlength : (closePayload (some reason) description).length ≤ 125 :=
    hlegal (by simp [closeFrame])
  exact .of .close _ (by decide) (hlength.trans_lt (by decide))

/-- The frame that an event asks for is whole, if the event returns. -/
theorem proper_of_asks (hasks : connection.Asks event sent)
    (hframe : connection.frameOf event = some sent) (halive : connection.processorAlive = true)
    (hreturns : step handler connection event = .ok next) : sent.Proper := by
  have hlegal : ¬ connection.Overlong event → LegalControl sent :=
    (legalControl_frameOf hframe).mpr
  cases hasks with
  | sendData message asBinary active =>
    rw [step, sendData_eq, if_pos active] at hreturns
    have hknown : (if asBinary then FrameOpcode.binary else .text) ≠ .unknown := by
      cases asBinary <;> decide
    exact .of _ _ hknown (bounded_of_sendMessage hknown halive hreturns)
  | sendString message active =>
    rw [step, sendString_eq, if_pos active] at hreturns
    exact .of _ _ (by decide) (bounded_of_sendMessage (by decide) halive hreturns)
  | ping withMessage active =>
    rw [step, ping_eq, if_pos active] at hreturns
    exact .of _ _ (by decide) (bounded_of_sendMessage (by decide) halive hreturns)
  | close reason description =>
    exact .of _ _ (by decide) (bounded_of_closeConnection halive hreturns)
  | drop reason description =>
    exact .of _ _ (by decide) (bounded_of_closeConnection halive hreturns)
  | received now frame sent judged =>
    generalize connection.verdict frame = verdict at judged
    cases judged with
    | pong payload =>
      have hlength : payload.length ≤ 125 := hlegal id (by simp)
      exact .of _ _ (by decide) (hlength.trans_lt (by decide))
    | violation description active => exact proper_closeFrame (hlegal id)
    | invalidData description => exact proper_closeFrame (hlegal id)
    | closed reason description active => exact proper_closeFrame (hlegal id)
  | parseError error => exact proper_closeFrame (hlegal id)
  | pinged now due active => exact .of _ _ (by decide) (by simp)
  | expired now due active => exact proper_closeFrame (hlegal id)
  | processorClose active => exact proper_closeFrame (hlegal id)
  | socketClosed active => exact proper_closeFrame (hlegal id)

/-- Only what the service sends is a message. -/
theorem message_of_asks (hasks : connection.Asks event sent) :
    sent.frame.isMessage = false ∧ event.message = none ∨
      connection.active = true ∧ sent.frame.isMessage = true ∧
        event.message = some sent.frame := by
  cases hasks with
  | sendData message asBinary active =>
    exact .inr ⟨active, by cases asBinary <;> rfl, rfl⟩
  | sendString message active => exact .inr ⟨active, rfl, rfl⟩
  | ping withMessage active => exact .inl ⟨rfl, rfl⟩
  | close reason description => exact .inl ⟨rfl, rfl⟩
  | drop reason description => exact .inl ⟨rfl, rfl⟩
  | received now frame sent judged =>
    generalize connection.verdict frame = verdict at judged
    cases judged <;> exact .inl ⟨rfl, rfl⟩
  | parseError error => exact .inl ⟨rfl, rfl⟩
  | pinged now due active => exact .inl ⟨rfl, rfl⟩
  | expired now due active => exact .inl ⟨rfl, rfl⟩
  | processorClose active => exact .inl ⟨rfl, rfl⟩
  | socketClosed active => exact .inl ⟨rfl, rfl⟩

/-- A connection in operation hands over what the service sends. -/
theorem frameOf_of_message {message : WSFrame} (hactive : connection.active = true)
    (hmessage : event.message = some message) : ∃ sent, connection.frameOf event = some sent := by
  cases event with
  | sendData message asBinary => exact ⟨_, if_pos hactive⟩
  | sendString message => exact ⟨_, if_pos hactive⟩
  | _ => cases hmessage

/-- The message of an event is handed over by a connection in operation, and no other message
ever. -/
theorem messageFrames_outputs (handler : SocketHandler) (connection : WebSocketConnection)
    (event : ConnectionEvent) :
    (connection.Running → messageFrames (connection.outputs handler event) =
        event.message.toList) ∧
      (¬ connection.Running → messageFrames (connection.outputs handler event) = []) := by
  rw [messageFrames, handed_outputs]
  cases hreaching : connection.reaching (connection.frameOf event) with
  | none =>
    refine ⟨fun hrunning => ?_, fun _ => rfl⟩
    cases hmessage : event.message with
    | none => rfl
    | some message =>
      obtain ⟨sent, hsent⟩ := frameOf_of_message hrunning.active hmessage
      rw [reaching, if_pos ⟨hrunning.alive, hrunning.attached⟩, hsent] at hreaching
      cases hreaching
  | some sent =>
    obtain ⟨halive, hattached, hframe⟩ := reaching_eq_some.mp hreaching
    rcases message_of_asks (frameOf_cases hframe) with ⟨hother, hnone⟩ | ⟨hactive, hdata, hsome⟩
    · simp [hother, hnone]
    · refine ⟨fun _ => by simp [hdata, hsome], fun hstopped => ?_⟩
      exact absurd ⟨hactive, halive, hattached⟩ hstopped

/-- A connection that hands over what the service sends: the messages are a beginning of those
sent, and all of them while the connection is in operation. -/
structure Passes (messages : List WSFrame) (connection : WebSocketConnection) : Prop where
  proper : ∀ sent ∈ handed connection.log, sent.Proper
  begun : messageFrames connection.log <+: messages
  whole : connection.Running → messageFrames connection.log = messages

theorem Passes.step {messages : List WSFrame} (hpasses : connection.Passes messages)
    (hreturns : step handler connection event = .ok next) :
    next.Passes (messages ++ event.message.toList) := by
  have hlog := log_of_step hreturns
  obtain ⟨hall, hnone⟩ := messageFrames_outputs handler connection event
  constructor
  · intro sent hsent
    rw [hlog, handed_append, handed_outputs, List.mem_append, Option.mem_toList] at hsent
    rcases hsent with hbefore | hnew
    · exact hpasses.proper sent hbefore
    · obtain ⟨halive, _, hframe⟩ := reaching_eq_some.mp hnew
      exact proper_of_asks (frameOf_cases hframe) hframe halive hreturns
  · rw [hlog, messageFrames_append]
    by_cases hrunning : connection.Running
    · simp only [hall hrunning, hpasses.whole hrunning, List.prefix_rfl]
    · rw [hnone hrunning, List.append_nil]
      exact hpasses.begun.trans (List.prefix_append _ _)
  · intro hrunning
    rw [eq_after_of_step hreturns] at hrunning
    have hbefore : connection.Running := hrunning.of_after.1
    rw [hlog, messageFrames_append, hall hbefore, hpasses.whole hbefore]

theorem Passes.run {messages : List WSFrame} (hpasses : connection.Passes messages)
    {events : List ConnectionEvent} {last : WebSocketConnection}
    (hrun : connection.run handler events = .ok last) :
    last.Passes (messages ++ events.filterMap ConnectionEvent.message) := by
  induction events generalizing connection messages with
  | nil =>
    cases hrun
    simpa using hpasses
  | cons event events ih =>
    obtain ⟨next, hstep, hrest⟩ := FallibleRun.run_cons_ok.mp hrun
    have hlast := ih (hpasses.step hstep) hrest
    cases hmessage : event.message <;> simpa [hmessage] using hlast

end Step

end WebSocketConnection

namespace Endpoint

open WSSocketProcessor

/-- The message that the service sends. -/
def message : EndpointEvent → Option WSFrame
  | .connection event => event.1.message
  | .read _ _ | .retained _ => none

/-- The messages that the service sends. -/
def messages (events : List EndpointEvent) : List WSFrame := events.filterMap message

/-- What the parser finds is nothing that the service sends. -/
theorem message_timed (clock : ℕ → ℚ) (count : ℕ) (events : List StreamEvent) :
    (Session.timed clock count events).filterMap ConnectionEvent.message = [] := by
  induction events generalizing count with
  | nil => rfl
  | cons event events ih =>
    cases event with
    | frame frame => exact ih (count + 1)
    | error error => exact ih count

/-- A socket read runs the connection over what the parser finds. -/
theorem exists_timed_of_read {handler : SocketHandler} {endpoint next : Endpoint}
    {clock : ℕ → ℚ} {bytes : List UInt8} (hwf : endpoint.session.parser.Wf)
    (hstep : step handler endpoint (.read clock bytes) = .ok next) :
    ∃ events, endpoint.session.connection.run handler (Session.timed clock 0 events) =
      .ok next.session.connection := by
  cases halive : endpoint.session.connection.processorAlive with
  | false =>
    obtain rfl : endpoint = next := by simpa [step, halive] using hstep
    exact ⟨[], rfl⟩
  | true =>
    have hmirrors : Mirrors ⟨⟨[], endpoint.session.parser, endpoint.session.byteIndex⟩,
        endpoint.buffer⟩ endpoint := ⟨hwf, rfl, rfl, rfl⟩
    obtain ⟨events, _, _, _, _, hrun⟩ := hmirrors.read halive hstep
    exact ⟨events, hrun⟩

/-- One event of an endpoint. -/
theorem passes_step {handler : SocketHandler} {endpoint next : Endpoint} {event : EndpointEvent}
    {sent : List WSFrame} (hwf : endpoint.session.parser.Wf)
    (hpasses : endpoint.session.connection.Passes sent)
    (hstep : step handler endpoint event = .ok next) :
    next.session.connection.Passes (sent ++ (message event).toList) := by
  cases event with
  | read clock bytes =>
    obtain ⟨events, hrun⟩ := exists_timed_of_read hwf hstep
    have hnext := hpasses.run hrun
    rwa [message_timed] at hnext
  | connection event =>
    cases hheld : endpoint.held with
    | false =>
      obtain rfl : endpoint = next := by simpa [step, hheld] using hstep
      obtain ⟨hproper, hbegun, _⟩ := hpasses
      refine ⟨hproper, hbegun.trans (List.prefix_append _ _), fun hrunning => ?_⟩
      rw [held, hrunning.alive] at hheld
      cases hheld
    | true =>
      simp only [step, hheld, not_true_eq_false, if_false, bind_eq_ok] at hstep
      obtain ⟨connection, hconnection, hnext⟩ := hstep
      cases hnext
      exact hpasses.step hconnection
  | retained kept =>
    cases hstep
    simpa [message] using hpasses

/-- Whatever happens to an endpoint, a client decodes the bytes handed to its handler, without a
rest, to the frames that were sent, each whole and in its place. The messages among them are the
first of those that the service has sent, each once and in order, and all of them while the
connection is in operation. -/
theorem sent_is_received (handler : SocketHandler) (service : Option WebSocketService) (start : ℚ)
    (events : List EndpointEvent) (last : Endpoint)
    (hrun : run handler (opened service start) events = .ok last) :
    PrefixCode.decodeAll decodeServerFrame (handed last.session.connection.log).length
        (wire last.session.connection.log) =
      some ((handed last.session.connection.log).map SentFrame.frame) ∧
    messageFrames last.session.connection.log <+: messages events ∧
    (last.session.connection.Running →
      messageFrames last.session.connection.log = messages events) := by
  obtain ⟨_, hpasses⟩ : last.session.parser.Wf ∧
      last.session.connection.Passes (messages events) := by
    refine FallibleRun.run_history_invariant (fun before endpoint =>
      endpoint.session.parser.Wf ∧ endpoint.session.connection.Passes (messages before))
      ⟨WSFrameParser.wf_fresh, ?_⟩ ?_ hrun
    · have hnothing : handed (WebSocketConnection.opened service start).log = [] := by
        cases service <;> rfl
      have hnone : messageFrames (WebSocketConnection.opened service start).log = [] := by
        rw [messageFrames, hnothing]
        rfl
      exact ⟨by simp [opened, fresh, hnothing], hnone ▸ List.prefix_rfl, fun _ => hnone⟩
    · rintro before state event next ⟨hwf, hpasses⟩ hstep
      refine ⟨(connection_of_step hwf hstep).1, ?_⟩
      have hnext := passes_step hwf hpasses hstep
      rw [messages, FallibleRun.filterMap_concat]
      exact hnext
  exact ⟨decodeAll_wire hpasses.proper, hpasses.begun, hpasses.whole⟩

/-- An endpoint that has sent two messages. Between them the client has pinged, and the timer has
pinged the client. -/
def talking : Endpoint where
  session :=
    { connection := ((((WebSocketConnection.opened (some ⟨some 1⟩) 0).sent .text (some [104])).sent
        .pong (some [7])).sent .ping none).sent .binary (some [1, 2])
      parser := { frame := ⟨true, .ping, []⟩, masked := true } }

theorem sent_is_received_two :
    PrefixCode.decodeAll decodeServerFrame 4 (wire talking.session.connection.log) =
      some ((handed talking.session.connection.log).map SentFrame.frame) ∧
    messageFrames talking.session.connection.log <+:
      [⟨true, .text, [104]⟩, ⟨true, .binary, [1, 2]⟩] ∧
    (talking.session.connection.Running →
      messageFrames talking.session.connection.log =
        [⟨true, .text, [104]⟩, ⟨true, .binary, [1, 2]⟩]) :=
  sent_is_received ⟨fun _ => false⟩ (some ⟨some 1⟩) 0
    [.connection ⟨.sendData [104] false, rfl⟩,
      .read (fun _ => 0) [0x89, 0x81, 0, 0, 0, 0, 7], .connection ⟨.timer (1 / 2), rfl⟩,
      .connection ⟨.sendData [1, 2] true, rfl⟩] talking (by decide +kernel)

end Endpoint

end KituraWebSocket
