/-
# A connection

The state and the methods of `WebSocketConnection`, together with the two methods
of `WSSocketProcessor` that call back into it. Everything a connection does to
the outside is appended to its `log`: the frames handed to the socket handler
with the writes that carried them, the requests that the handler prepare to
close, and the callbacks enqueued for the service.

Of KituraNet's `IncomingSocketHandler` only one thing matters here: asked to
prepare to close, it either closes later, or at once, and then it first detaches
itself from the processor and calls the processor's `close` again. Which of the two
it does on which request is the parameter `handler`. Of Dispatch's timer it matters
whether it starts, which is the parameter `schedule` of `init`, and when it fires, which
is up to the events of a run.
-/

import KituraWebSocket.WSSocketProcessor
import Mathlib.Algebra.Order.Field.Rat
import Mathlib.Algebra.Order.Group.Abs

namespace KituraWebSocket

/-- A callback enqueued on the callback queue of a connection. -/
inductive Callback
  | connected
  | disconnected (reason : WebSocketCloseReasonCode)
  | receivedData (message : List UInt8)
  | receivedString (message : String)
  deriving DecidableEq, Repr

/-- A frame handed to the socket handler by one `sendMessage` call: the opcode and
payload of the call, and the byte strings of its one or two writes. -/
structure SentFrame where
  opCode : FrameOpcode
  payload : List UInt8
  writes : List (List UInt8)
  deriving DecidableEq, Repr

inductive Output
  | frame (sent : SentFrame)
  | prepareToClose
  | callback (callback : Callback)
  deriving DecidableEq, Repr

/-- What the library asks of a `WebSocketService`: the timeout in seconds. -/
structure WebSocketService where
  connectionTimeout : Option ℤ
  deriving DecidableEq, Repr

inductive MessageStates
  | binary
  | text
  | unknown
  deriving DecidableEq, Repr

/-- The handler's choice, on its n-th request to prepare to close, to close at
once. -/
structure SocketHandler where
  closesAtOnce : ℕ → Bool

/-- A connection. `processorAlive` and `handlerAttached` say whether the weak
references to the processor and, from there, to the handler still hold. -/
structure WebSocketConnection where
  service : Option WebSocketService := none
  processorAlive : Bool := true
  handlerAttached : Bool := false
  buffer : List UInt8 := []
  message : List UInt8 := []
  active : Bool := true
  lastFrameReceivedAt : Option ℚ := none
  messageState : MessageStates := .unknown
  log : List Output := []
  deriving DecidableEq, Repr

namespace WebSocketConnection

/-- The size of the output buffer up to which a frame goes out in one write. -/
def bufferSize : ℕ := 2000

/-- A new connection for a service. -/
def created (service : Option WebSocketService) (now : ℚ) : WebSocketConnection where
  service := service
  lastFrameReceivedAt :=
    match service.bind (·.connectionTimeout) with
    | some _ => some now
    | none => none

section Init

variable (schedule : ℤ → ℤ → Except Fault Unit)

/-- `timerStart(connectionTimeout:)`. `schedule` is Dispatch's and takes the interval and the
leeway of the timer, in milliseconds, or stops the program. -/
def timerStart (connectionTimeout : ℤ) : Except Fault Unit := do
  let timeoutInterval ← multiplied connectionTimeout 500
  let leeway ← multiplied connectionTimeout 50
  schedule timeoutInterval leeway

/-- `init(request:service:)`. -/
def init (service : Option WebSocketService) (now : ℚ) : Except Fault WebSocketConnection := do
  match service.bind (·.connectionTimeout) with
  | some connectionTimeout =>
    timerStart schedule connectionTimeout
    return { service := service, lastFrameReceivedAt := some now }
  | none => return { service := service }

/-- The timer of a service starts, if it is to have one: its interval is a machine integer, and
Dispatch takes it. -/
def TimerStarts (service : WebSocketService) : Prop :=
  ∀ connectionTimeout ∈ service.connectionTimeout,
    -2 ^ 63 ≤ connectionTimeout * 500 ∧ connectionTimeout * 500 < 2 ^ 63 ∧
      schedule (connectionTimeout * 500) (connectionTimeout * 50) = .ok ()

theorem timerStart_eq_ok {connectionTimeout : ℤ} :
    timerStart schedule connectionTimeout = .ok () ↔
      -2 ^ 63 ≤ connectionTimeout * 500 ∧ connectionTimeout * 500 < 2 ^ 63 ∧
        schedule (connectionTimeout * 500) (connectionTimeout * 50) = .ok () := by
  simp only [timerStart, bind_eq_ok, multiplied_eq_ok]
  constructor
  · rintro ⟨_, ⟨⟨hleast, hmost⟩, rfl⟩, _, ⟨_, rfl⟩, hschedule⟩
    exact ⟨hleast, hmost, hschedule⟩
  · rintro ⟨hleast, hmost, hschedule⟩
    -- The leeway is a tenth of the interval.
    exact ⟨_, ⟨⟨hleast, hmost⟩, rfl⟩, _, ⟨by omega, rfl⟩, hschedule⟩

/-- The new connection, if its timer starts. -/
theorem init_eq_ok {service : WebSocketService} {now : ℚ} {connection : WebSocketConnection} :
    init schedule (some service) now = .ok connection ↔
      TimerStarts schedule service ∧ connection = created (some service) now := by
  obtain ⟨_ | connectionTimeout⟩ := service
  · simp [init, TimerStarts, created, eq_comm]
  · simp only [init, Option.bind_some, bind_eq_ok, TimerStarts, Option.mem_def, Option.some.injEq,
      forall_eq', ← timerStart_eq_ok]
    constructor
    · rintro ⟨_, hstart, hnew⟩
      exact ⟨hstart, (Except.ok.inj hnew).symm⟩
    · rintro ⟨hstart, rfl⟩
      exact ⟨_, hstart, rfl⟩

end Init

/-- Append to the log. -/
def emit (connection : WebSocketConnection) (output : Output) : WebSocketConnection :=
  { connection with log := connection.log ++ [output] }

/-- `callbackQueue.async`. -/
def enqueue (connection : WebSocketConnection) (callback : Callback) : WebSocketConnection :=
  connection.emit (.callback callback)

def fireConnected (connection : WebSocketConnection) : WebSocketConnection :=
  match connection.service with
  | some _ => connection.enqueue .connected
  | none => connection

/-- The processor's `handler` is set to a handler. -/
def handlerSet (connection : WebSocketConnection) : WebSocketConnection :=
  { connection with handlerAttached := true }.fireConnected

/-- A connection in operation: created for a service and given its handler. -/
def opened (service : Option WebSocketService) (now : ℚ) : WebSocketConnection :=
  (created service now).handlerSet

/-- Hand the writes of a frame to the processor, which hands them to the handler
if there is one. -/
def write (connection : WebSocketConnection) (sent : SentFrame) : WebSocketConnection :=
  if connection.handlerAttached then connection.emit (.frame sent) else connection

/-- Send one final frame. An absent payload has length zero. The write lock makes
the call one step for the other senders of the connection. -/
def sendMessage (connection : WebSocketConnection) (opCode : FrameOpcode)
    (payload : Option (List UInt8)) : Except Fault WebSocketConnection := do
  if ¬ connection.processorAlive then
    return connection
  let payloadLength := (payload.getD []).length
  let connection := { connection with buffer := [] }
  let buffer ← WSFrame.createFrameHeader true opCode payloadLength connection.buffer
  match payload with
  | some realPayload =>
    if bufferSize ≥ buffer.length + payloadLength then
      let buffer := buffer ++ realPayload
      return { connection with buffer := buffer }.write ⟨opCode, realPayload, [buffer]⟩
    else
      return { connection with buffer := buffer }.write
        ⟨opCode, realPayload, [buffer, realPayload]⟩
  | none => return { connection with buffer := buffer }.write ⟨opCode, [], [buffer]⟩

/-- `ping(withMessage:)`. -/
def ping (connection : WebSocketConnection) (withMessage : Option String) :
    Except Fault WebSocketConnection := do
  if ¬ connection.active then
    return connection
  match withMessage with
  | some message => connection.sendMessage .ping (some (utf8Bytes message))
  | none => connection.sendMessage .ping none

/-- `send(message:asBinary:)`. -/
def sendData (connection : WebSocketConnection) (message : List UInt8) (asBinary : Bool) :
    Except Fault WebSocketConnection := do
  if ¬ connection.active then
    return connection
  connection.sendMessage (if asBinary then .binary else .text) (some message)

/-- `send(message:)` with a string. -/
def sendString (connection : WebSocketConnection) (message : String) :
    Except Fault WebSocketConnection := do
  if ¬ connection.active then
    return connection
  connection.sendMessage .text (some (utf8Bytes message))

/-- The payload of a close frame: the code in network order and the description. -/
def closePayload (reason : Option WebSocketCloseReasonCode) (description : Option String) :
    List UInt8 :=
  let reasonCodeToSend := hostToNetwork 2 (reason.getD .normal).code.toNat
  match description with
  | some descriptionToSend => reasonCodeToSend ++ utf8Bytes descriptionToSend
  | none => reasonCodeToSend

/-- How many requests to prepare to close the handler has received. -/
def closeRequests (connection : WebSocketConnection) : ℕ :=
  connection.log.count .prepareToClose

section Closing

variable (handler : SocketHandler)

-- The methods call each other in a circle; `depth` bounds the nesting of the calls.
mutual

/-- `WSSocketProcessor.close`. -/
def processorClose : ℕ → WebSocketConnection → Except Fault WebSocketConnection
  | 0, _ => .error .outOfBudget
  | depth + 1, connection => do
    let connection ←
      if connection.active then connectionClosed depth connection .closedAbnormally none none
      else pure connection
    if connection.handlerAttached then prepareToClose depth connection else pure connection

/-- `IncomingSocketHandler.prepareToClose`, as far as it comes back to the processor. -/
def prepareToClose : ℕ → WebSocketConnection → Except Fault WebSocketConnection
  | 0, _ => .error .outOfBudget
  | depth + 1, connection =>
    let closesNow := handler.closesAtOnce connection.closeRequests
    let connection := connection.emit .prepareToClose
    if closesNow then processorClose depth { connection with handlerAttached := false }
    else .ok connection

/-- `closeConnection(reason:description:hard:)`. -/
def closeConnection : ℕ → WebSocketConnection → Option WebSocketCloseReasonCode →
    Option String → Bool → Except Fault WebSocketConnection
  | 0, _, _, _, _ => .error .outOfBudget
  | depth + 1, connection, reason, description, hard => do
    let connection ← connection.sendMessage .close (some (closePayload reason description))
    let connection := { connection with active := false }
    if hard && connection.processorAlive then processorClose depth connection
    else pure connection

/-- `connectionClosed(reason:description:reasonToSendBack:)`. -/
def connectionClosed : ℕ → WebSocketConnection → WebSocketCloseReasonCode → Option String →
    Option WebSocketCloseReasonCode → Except Fault WebSocketConnection
  | 0, _, _, _, _ => .error .outOfBudget
  | depth + 1, connection, reason, description, reasonToSendBack => do
    if connection.active then
      let reasonTosend := reasonToSendBack.getD reason
      let connection ← closeConnection depth connection (some reasonTosend) description true
      return connection.enqueue (.disconnected reason)
    else if connection.processorAlive then processorClose depth connection
    else return connection

end

/-- A nesting of calls that is never reached. -/
def callDepth : ℕ := 8

/-- `close(reason:description:)`. -/
def close (connection : WebSocketConnection) (reason : Option WebSocketCloseReasonCode)
    (description : Option String) : Except Fault WebSocketConnection :=
  closeConnection handler callDepth connection reason description false

/-- `drop(reason:description:)`. -/
def drop (connection : WebSocketConnection) (reason : Option WebSocketCloseReasonCode)
    (description : Option String) : Except Fault WebSocketConnection :=
  closeConnection handler callDepth connection reason description true

/-- `WSSocketProcessor.socketClosed`. -/
def socketClosed (connection : WebSocketConnection) : Except Fault WebSocketConnection :=
  connectionClosed handler callDepth connection .noReasonCodeSent none none

/-- Fail the connection for a violation of the protocol. -/
def protocolViolation (connection : WebSocketConnection) (description : String) :
    Except Fault WebSocketConnection :=
  connectionClosed handler callDepth connection .protocolError (some description) none

/-- `fireReceivedString(from:)`. -/
def fireReceivedString (connection : WebSocketConnection) (data : List UInt8) :
    Except Fault WebSocketConnection :=
  match stringFromUTF8 data with
  | some text => .ok (connection.enqueue (.receivedString text))
  | none =>
    closeConnection handler callDepth connection (some .invalidDataContents)
      (some "Failed to convert received payload to UTF-8 String") true

/-- The case `.close` of `received(frame:)` on an active connection. -/
def receivedClose (connection : WebSocketConnection) (payload : List UInt8) :
    Except Fault WebSocketConnection := do
  if payload.length ≥ 2 ∧ payload.length < 126 then
    let networkOrderedReasonCode ← readRange payload 0 2
    let reasonCode := WebSocketCloseReasonCode.fromCode (networkToHost networkOrderedReasonCode)
    match stringFromUTF8 (payload.drop 2) with
    | none =>
      closeConnection handler callDepth connection (some .invalidDataContents)
        (some "Failed to convert received close message to UTF-8 String") true
    | some description =>
      connectionClosed handler callDepth connection reasonCode (some description) none
  else if payload.length = 0 then
    connectionClosed handler callDepth connection .noReasonCodeSent none none
  else
    protocolViolation handler connection
      "Close frames, which contain a payload, must be between 2 and 125 octets inclusive"

/-- `received(frame:)`, with the time its clock reading returns. -/
def received (now : ℚ) (connection : WebSocketConnection) (frame : WSFrame) :
    Except Fault WebSocketConnection := do
  let connection := { connection with
    lastFrameReceivedAt := connection.lastFrameReceivedAt.map fun _ => now }
  match frame.opCode with
  | .binary =>
    if connection.messageState ≠ .unknown then
      protocolViolation handler connection "A binary frame must be the first in the message"
    else if frame.finalFrame then
      return connection.enqueue (.receivedData frame.payload)
    else
      return { connection with messageState := .binary, message := frame.payload }
  | .close =>
    if connection.active then receivedClose handler connection frame.payload
    else return connection
  | .continuation =>
    if connection.messageState = .unknown then
      protocolViolation handler connection "Continuation sent with prior binary or text frame"
    else
      let connection := { connection with message := connection.message ++ frame.payload }
      if frame.finalFrame then
        let connection ←
          if connection.messageState = .binary then
            pure (connection.enqueue (.receivedData connection.message))
          else fireReceivedString handler connection connection.message
        return { connection with messageState := .unknown }
      else return connection
  | .ping =>
    if ¬ frame.payload.length < 126 then
      protocolViolation handler connection
        "Control frames are only allowed to have payload up to and including 125 octets"
    else if ¬ frame.finalFrame then
      protocolViolation handler connection "Control frames must not be fragmented"
    else connection.sendMessage .pong (some frame.payload)
  | .pong => return connection
  | .text =>
    if connection.messageState ≠ .unknown then
      protocolViolation handler connection "A text frame must be the first in the message"
    else if frame.finalFrame then
      fireReceivedString handler connection frame.payload
    else
      return { connection with messageState := .text, message := frame.payload }
  | .unknown => return connection

/-- The event handler that `timerStart` installs, with the time its clock readings
return. -/
def timerFired (now : ℚ) (connection : WebSocketConnection) :
    Except Fault WebSocketConnection :=
  match connection.service.bind (·.connectionTimeout), connection.lastFrameReceivedAt with
  | some connectionTimeout, some lastFrameReceivedAt =>
    if |lastFrameReceivedAt - now| > (connectionTimeout : ℚ) * (4 / 10) then
      if |lastFrameReceivedAt - now| > (connectionTimeout : ℚ) then
        connectionClosed handler callDepth connection .closedAbnormally none none
      else connection.ping none
    else .ok connection
  | _, _ => .ok connection

end Closing

end WebSocketConnection

end KituraWebSocket
