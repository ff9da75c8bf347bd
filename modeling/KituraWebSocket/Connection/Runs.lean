/-
# Runs of a connection

The events that move a connection, each one atomic step: the calls of the service,
what the processor hands over, the timer, and the release of an object that is
only referenced weakly. `outputs` says in closed form what a step appends to the
log; everything about frames and callbacks over whole runs is read off it.
-/

import KituraWebSocket.Connection.Effects

namespace KituraWebSocket

inductive ConnectionEvent
  | /-- `send(message:asBinary:)`. -/
    sendData (message : List UInt8) (asBinary : Bool)
  | /-- `send(message:)`. -/
    sendString (message : String)
  | /-- `ping(withMessage:)`. -/
    ping (withMessage : Option String)
  | /-- `close(reason:description:)`. -/
    close (reason : Option WebSocketCloseReasonCode) (description : Option String)
  | /-- `drop(reason:description:)`. -/
    drop (reason : Option WebSocketCloseReasonCode) (description : Option String)
  | /-- `received(frame:)`, and the time its clock reading returns. -/
    received (now : ℚ) (frame : WSFrame)
  | /-- The parser has reported an error to `process`. -/
    parseError (error : WebSocketError)
  | /-- The timer fires, and the time its clock readings return. -/
    timer (now : ℚ)
  | /-- `WSSocketProcessor.close`. -/
    processorClose
  | /-- `WSSocketProcessor.socketClosed`. -/
    socketClosed
  | /-- The service changes its timeout, or is released. -/
    serviceChanged (service : Option WebSocketService)
  | /-- The handler is released. -/
    handlerReleased
  | /-- The processor is released. -/
    processorReleased
  deriving Repr

namespace WebSocketConnection

/-- One event. A processor that has been released cannot be called. -/
def step (handler : SocketHandler) (connection : WebSocketConnection) :
    ConnectionEvent → Except Fault WebSocketConnection
  | .sendData message asBinary => connection.sendData message asBinary
  | .sendString message => connection.sendString message
  | .ping withMessage => connection.ping withMessage
  | .close reason description => close handler connection reason description
  | .drop reason description => drop handler connection reason description
  | .received now frame => received handler now connection frame
  | .parseError error => close handler connection (some .protocolError) (some error.description)
  | .timer now => timerFired handler now connection
  | .processorClose =>
    if connection.processorAlive then processorClose handler callDepth connection
    else .ok connection
  | .socketClosed =>
    if connection.processorAlive then socketClosed handler connection else .ok connection
  | .serviceChanged service => .ok { connection with service := service }
  | .handlerReleased => .ok { connection with handlerAttached := false }
  | .processorReleased => .ok { connection with processorAlive := false }

/-- A sequence of events. -/
def run (handler : SocketHandler) (connection : WebSocketConnection)
    (events : List ConnectionEvent) : Except Fault WebSocketConnection :=
  FallibleRun.run (step handler) connection events

/-- What the timer finds. -/
inductive TimerVerdict
  | rest
  | ping
  | expired
  deriving DecidableEq, Repr

def timerVerdict (connection : WebSocketConnection) (now : ℚ) : TimerVerdict :=
  match connection.service.bind (·.connectionTimeout), connection.lastFrameReceivedAt with
  | some connectionTimeout, some lastFrameReceivedAt =>
    if |lastFrameReceivedAt - now| > (connectionTimeout : ℚ) * (4 / 10) then
      if |lastFrameReceivedAt - now| > (connectionTimeout : ℚ) then .expired else .ping
    else .rest
  | _, _ => .rest

/-- Send if active. -/
def sentIfActive (connection : WebSocketConnection) (opCode : FrameOpcode)
    (payload : Option (List UInt8)) : WebSocketConnection :=
  if connection.active then connection.sent opCode payload else connection

@[simp]
theorem sentIfActive_active (connection : WebSocketConnection) (opCode : FrameOpcode)
    (payload : Option (List UInt8)) :
    (connection.sentIfActive opCode payload).active = connection.active := by
  rw [sentIfActive]
  split <;> simp

@[simp]
theorem sentIfActive_processorAlive (connection : WebSocketConnection) (opCode : FrameOpcode)
    (payload : Option (List UInt8)) :
    (connection.sentIfActive opCode payload).processorAlive = connection.processorAlive := by
  rw [sentIfActive]
  split <;> simp

/-- The connection after an event. -/
def after (handler : SocketHandler) (connection : WebSocketConnection) :
    ConnectionEvent → WebSocketConnection
  | .sendData message asBinary =>
    connection.sentIfActive (if asBinary then .binary else .text) (some message)
  | .sendString message => connection.sentIfActive .text (some (utf8Bytes message))
  | .ping withMessage => connection.sentIfActive .ping (withMessage.map utf8Bytes)
  | .close reason description => connection.closed handler reason description false
  | .drop reason description => connection.closed handler reason description true
  | .received now frame =>
    (connection.noted now frame).settled handler (connection.verdict frame)
  | .parseError error =>
    connection.closed handler (some .protocolError) (some error.description) false
  | .timer now =>
    match connection.timerVerdict now with
    | .rest => connection
    | .ping => connection.sentIfActive .ping none
    | .expired => connection.notified handler .closedAbnormally none
  | .processorClose =>
    if connection.processorAlive ∧ connection.active then
      (connection.notified handler .closedAbnormally none).askedToClose handler
    else connection.askedToClose handler
  | .socketClosed =>
    if connection.processorAlive then connection.notified handler .noReasonCodeSent none
    else connection
  | .serviceChanged service => { connection with service := service }
  | .handlerReleased => { connection with handlerAttached := false }
  | .processorReleased => { connection with processorAlive := false }

/-- Whether an event makes the connection inactive. -/
def ends (connection : WebSocketConnection) : ConnectionEvent → Bool
  | .close _ _ | .drop _ _ | .parseError _ => true
  | .received _ frame => (connection.verdict frame).closes
  | .timer now => connection.timerVerdict now = .expired
  | .processorClose | .socketClosed => connection.processorAlive
  | .sendData _ _ | .sendString _ | .ping _ | .serviceChanged _ | .handlerReleased
  | .processorReleased => false

theorem after_active (handler : SocketHandler) (connection : WebSocketConnection)
    (event : ConnectionEvent) :
    (connection.after handler event).active = (connection.active && !connection.ends event) := by
  cases event with
  | sendData message asBinary => simp [after, ends]
  | sendString message => simp [after, ends]
  | ping withMessage => simp [after, ends]
  | close reason description => simp [after, ends]
  | drop reason description => simp [after, ends]
  | received now frame => exact settled_active handler _ _
  | parseError error => simp [after, ends]
  | timer now => cases hverdict : connection.timerVerdict now <;> simp [after, ends, hverdict]
  | processorClose =>
    cases halive : connection.processorAlive <;> cases hactive : connection.active <;>
      simp [after, ends, halive, hactive]
  | socketClosed =>
    cases halive : connection.processorAlive <;> simp [after, ends, halive]
  | serviceChanged service => simp [after, ends]
  | handlerReleased => simp [after, ends]
  | processorReleased => simp [after, ends]

/-- What `sentIfActive` appends to the log. -/
def framedIfActive (connection : WebSocketConnection) (opCode : FrameOpcode)
    (payload : Option (List UInt8)) : List Output :=
  if connection.active then connection.framed opCode payload else []

/-- What an event appends to the log. -/
def outputs (handler : SocketHandler) (connection : WebSocketConnection) :
    ConnectionEvent → List Output
  | .sendData message asBinary =>
    connection.framedIfActive (if asBinary then .binary else .text) (some message)
  | .sendString message => connection.framedIfActive .text (some (utf8Bytes message))
  | .ping withMessage => connection.framedIfActive .ping (withMessage.map utf8Bytes)
  | .close reason description => connection.closedOutputs reason description false
  | .drop reason description => connection.closedOutputs reason description true
  | .received _ frame => connection.settledOutputs (connection.verdict frame)
  | .parseError error =>
    connection.closedOutputs (some .protocolError) (some error.description) false
  | .timer now =>
    match connection.timerVerdict now with
    | .rest => []
    | .ping => connection.framedIfActive .ping none
    | .expired => connection.notifiedOutputs .closedAbnormally none
  | .processorClose =>
    if connection.processorAlive ∧ connection.active then
      connection.notifiedOutputs .closedAbnormally none ++
        (connection.notified handler .closedAbnormally none).closeRequest
    else connection.closeRequest
  | .socketClosed =>
    if connection.processorAlive then connection.notifiedOutputs .noReasonCodeSent none else []
  | .serviceChanged _ | .handlerReleased | .processorReleased => []

section Step

variable {handler : SocketHandler} {connection next : WebSocketConnection}

theorem eq_sentIfActive {opCode : FrameOpcode} {payload : Option (List UInt8)}
    (hknown : opCode ≠ .unknown)
    (hreturns : (if connection.active then connection.sendMessage opCode payload
      else .ok connection) = .ok next) : next = connection.sentIfActive opCode payload := by
  rw [sentIfActive]
  split at hreturns
  · rename_i hactive
    rw [if_pos hactive]
    exact eq_sent_of_sendMessage hknown hreturns
  · rename_i hactive
    cases hreturns
    rw [if_neg hactive]

theorem sendData_eq (message : List UInt8) (asBinary : Bool) :
    connection.sendData message asBinary =
      if connection.active then
        connection.sendMessage (if asBinary then .binary else .text) (some message)
      else .ok connection := by
  cases hactive : connection.active <;> simp [sendData, hactive]

theorem sendString_eq (message : String) : connection.sendString message =
    if connection.active then connection.sendMessage .text (some (utf8Bytes message))
    else .ok connection := by
  cases hactive : connection.active <;> simp [sendString, hactive]

theorem ping_eq (withMessage : Option String) : connection.ping withMessage =
    if connection.active then connection.sendMessage .ping (withMessage.map utf8Bytes)
    else .ok connection := by
  cases hactive : connection.active <;> cases withMessage <;> simp [ping, hactive]

/-- The timer does what it finds. -/
theorem timerFired_eq (now : ℚ) : timerFired handler now connection =
    match connection.timerVerdict now with
    | .rest => .ok connection
    | .ping => connection.ping none
    | .expired => connectionClosed handler callDepth connection .closedAbnormally none none := by
  rw [timerFired, timerVerdict]
  cases connection.service.bind (·.connectionTimeout) with
  | none => rfl
  | some connectionTimeout =>
    cases connection.lastFrameReceivedAt with
    | none => rfl
    | some lastFrameReceivedAt =>
      by_cases hquiet : |lastFrameReceivedAt - now| > (connectionTimeout : ℚ) * (4 / 10)
      · by_cases hdead : |lastFrameReceivedAt - now| > (connectionTimeout : ℚ)
        · simp only [if_pos hquiet, if_pos hdead]
        · simp only [if_pos hquiet, if_neg hdead]
      · simp only [if_neg hquiet]

/-- The timer returns. -/
theorem timerFired_returns (connection : WebSocketConnection) (now : ℚ) :
    timerFired handler now connection = .ok (connection.after handler (.timer now)) := by
  rw [timerFired_eq, after]
  cases connection.timerVerdict now with
  | rest => rfl
  | ping =>
    show connection.ping none = .ok (connection.sentIfActive .ping none)
    rw [ping_eq, sentIfActive]
    split
    · exact sendMessage_eq (by decide) (by simp) connection
    · rfl
  | expired => exact connectionClosed_eq 3 (by decide)

/-- The processor's `close` returns. -/
theorem step_processorClose (connection : WebSocketConnection) :
    step handler connection .processorClose =
      .ok (connection.after handler .processorClose) := by
  rw [step, after]
  cases halive : connection.processorAlive with
  | false => simp [askedToClose, halive]
  | true =>
    rw [if_pos rfl, callDepth, processorClose_eq 2 halive]
    simp

/-- So does `socketClosed`. -/
theorem step_socketClosed (connection : WebSocketConnection) :
    step handler connection .socketClosed = .ok (connection.after handler .socketClosed) := by
  rw [step, after]
  cases halive : connection.processorAlive with
  | false => rfl
  | true =>
    rw [if_pos rfl, socketClosed, callDepth, connectionClosed_eq 3 (by decide)]
    rfl

/-- A step that returns has done what its event does. -/
theorem eq_after_of_step {event : ConnectionEvent}
    (hreturns : step handler connection event = .ok next) :
    next = connection.after handler event := by
  cases event with
  | sendData message asBinary =>
    rw [step, sendData_eq] at hreturns
    exact eq_sentIfActive (by cases asBinary <;> decide) hreturns
  | sendString message =>
    rw [step, sendString_eq] at hreturns
    exact eq_sentIfActive (by decide) hreturns
  | ping withMessage =>
    rw [step, ping_eq] at hreturns
    exact eq_sentIfActive (by decide) hreturns
  | close reason description => exact eq_closed_of_closeConnection 4 hreturns
  | drop reason description => exact eq_closed_of_closeConnection 4 hreturns
  | received now frame =>
    rw [step, received_eq] at hreturns
    cases hreturns
    rfl
  | parseError error => exact eq_closed_of_closeConnection 4 hreturns
  | timer now => exact Except.ok.inj (hreturns.symm.trans (timerFired_returns connection now))
  | processorClose => exact Except.ok.inj (hreturns.symm.trans (step_processorClose connection))
  | socketClosed => exact Except.ok.inj (hreturns.symm.trans (step_socketClosed connection))
  | serviceChanged service => cases hreturns; rfl
  | handlerReleased => cases hreturns; rfl
  | processorReleased => cases hreturns; rfl

/-- An event only appends to the log. -/
theorem after_log (handler : SocketHandler) (connection : WebSocketConnection)
    (event : ConnectionEvent) :
    (connection.after handler event).log = connection.log ++ connection.outputs handler event := by
  have hifActive (opCode : FrameOpcode) (payload : Option (List UInt8)) :
      (connection.sentIfActive opCode payload).log =
        connection.log ++ connection.framedIfActive opCode payload := by
    rw [sentIfActive, framedIfActive]
    split
    · exact connection.sent_log opCode payload
    · exact (List.append_nil _).symm
  cases event with
  | sendData message asBinary => exact hifActive _ _
  | sendString message => exact hifActive _ _
  | ping withMessage => exact hifActive _ _
  | close reason description => exact closed_log handler connection _ _ _
  | drop reason description => exact closed_log handler connection _ _ _
  | received now frame =>
    rw [after, settled_log, outputs]
    cases connection.verdict frame <;> rfl
  | parseError error => exact closed_log handler connection _ _ _
  | timer now =>
    rw [after, outputs]
    cases connection.timerVerdict now with
    | rest => exact (List.append_nil _).symm
    | ping => exact hifActive _ _
    | expired => exact notified_log handler connection _ _
  | processorClose =>
    rw [after, outputs]
    split
    · rw [askedToClose_log, notified_log, List.append_assoc]
    · exact askedToClose_log handler connection
  | socketClosed =>
    rw [after, outputs]
    split
    · exact notified_log handler connection _ _
    · exact (List.append_nil _).symm
  | serviceChanged service => exact (List.append_nil _).symm
  | handlerReleased => exact (List.append_nil _).symm
  | processorReleased => exact (List.append_nil _).symm

/-- A step appends the outputs of its event to the log. -/
theorem log_of_step {event : ConnectionEvent}
    (hreturns : step handler connection event = .ok next) :
    next.log = connection.log ++ connection.outputs handler event := by
  rw [eq_after_of_step hreturns, after_log]

/-- So does a run append to the log. -/
theorem log_of_run {last : WebSocketConnection} {events : List ConnectionEvent}
    (hrun : connection.run handler events = .ok last) : connection.log <+: last.log := by
  refine FallibleRun.run_invariant (fun state => connection.log <+: state.log) ?_
    List.prefix_rfl hrun
  intro state event next hprefix hstep
  rw [log_of_step hstep]
  exact hprefix.trans (List.prefix_append _ _)

end Step

section Monotone

variable {handler : SocketHandler} {connection : WebSocketConnection}

theorem attached_of_askedToClose
    (h : (connection.askedToClose handler).handlerAttached = true) :
    connection.handlerAttached = true := by
  unfold askedToClose at h
  split at h
  · rename_i hreach
    exact hreach.2
  · exact h

theorem attached_of_closed {reason : Option WebSocketCloseReasonCode}
    {description : Option String} {hard : Bool}
    (h : (connection.closed handler reason description hard).handlerAttached = true) :
    connection.handlerAttached = true := by
  cases hard with
  | false => simpa [closed] using h
  | true => simpa using attached_of_askedToClose h

theorem attached_of_notified {reason : WebSocketCloseReasonCode} {description : Option String}
    (h : (connection.notified handler reason description).handlerAttached = true) :
    connection.handlerAttached = true := by
  unfold notified at h
  split at h
  · exact attached_of_closed h
  · exact attached_of_askedToClose h

theorem attached_of_settled {verdict : Verdict}
    (h : (connection.settled handler verdict).handlerAttached = true) :
    connection.handlerAttached = true := by
  cases verdict with
  | nothing => exact h
  | deliver message => exact h
  | pong payload => simpa [settled] using h
  | violation description => exact attached_of_notified h
  | invalidData description => exact attached_of_closed h
  | closed reason description => exact attached_of_notified h

theorem attached_of_sentIfActive {opCode : FrameOpcode} {payload : Option (List UInt8)}
    (h : (connection.sentIfActive opCode payload).handlerAttached = true) :
    connection.handlerAttached = true := by
  unfold sentIfActive at h
  split at h
  · simpa using h
  · exact h

/-- A handler that has gone does not come back. -/
theorem attached_of_after {event : ConnectionEvent}
    (h : (connection.after handler event).handlerAttached = true) :
    connection.handlerAttached = true := by
  cases event with
  | sendData message asBinary => exact attached_of_sentIfActive h
  | sendString message => exact attached_of_sentIfActive h
  | ping withMessage => exact attached_of_sentIfActive h
  | close reason description => exact attached_of_closed h
  | drop reason description => exact attached_of_closed h
  | received now frame =>
    have hsettled : ((connection.noted now frame).settled handler
      (connection.verdict frame)).handlerAttached = true := h
    have hnoted : (connection.noted now frame).handlerAttached = true :=
      attached_of_settled hsettled
    exact hnoted
  | parseError error => exact attached_of_closed h
  | timer now =>
    rw [after] at h
    cases hverdict : connection.timerVerdict now with
    | rest => simpa [hverdict] using h
    | ping =>
      rw [hverdict] at h
      exact attached_of_sentIfActive h
    | expired =>
      rw [hverdict] at h
      exact attached_of_notified h
  | processorClose =>
    rw [after] at h
    split at h
    · exact attached_of_notified (attached_of_askedToClose h)
    · exact attached_of_askedToClose h
  | socketClosed =>
    rw [after] at h
    split at h
    · exact attached_of_notified h
    · exact h
  | serviceChanged service => exact h
  | handlerReleased => cases h
  | processorReleased => exact h

/-- Neither does a processor. -/
theorem alive_of_after {event : ConnectionEvent}
    (h : (connection.after handler event).processorAlive = true) :
    connection.processorAlive = true := by
  cases event with
  | sendData message asBinary => simpa [after] using h
  | sendString message => simpa [after] using h
  | ping withMessage => simpa [after] using h
  | close reason description => simpa [after] using h
  | drop reason description => simpa [after] using h
  | received now frame => simpa [after, noted, settled_processorAlive] using h
  | parseError error => simpa [after] using h
  | timer now =>
    rw [after] at h
    cases hverdict : connection.timerVerdict now <;> simpa [hverdict] using h
  | processorClose =>
    rw [after] at h
    split at h <;> simpa using h
  | socketClosed =>
    rw [after] at h
    split at h <;> simpa using h
  | serviceChanged service => exact h
  | handlerReleased => exact h
  | processorReleased => cases h

end Monotone

end WebSocketConnection

end KituraWebSocket
