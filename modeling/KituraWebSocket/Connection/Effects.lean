/-
# What the methods of a connection do

One closed form for each method. The methods that close a connection call each
other in a circle and may come back through the handler, but the first thing each
of them does is to make the connection inactive, so the circle is left at once:
`closed` and `settled` are what remains. A received frame is judged first
(`verdict`), from the frame and the state before it; `received_eq` says that the
judgement is then carried out.
-/

import KituraWebSocket.Send.Stream

namespace KituraWebSocket

namespace WebSocketConnection

/-- A connection in operation: active, with its processor and its handler. -/
structure Running (connection : WebSocketConnection) : Prop where
  active : connection.active = true
  alive : connection.processorAlive = true
  attached : connection.handlerAttached = true

/-- A connection that is not active any more, after its processor has been told to
close: the handler, if attached, has been asked to prepare to close. -/
def askedToClose (handler : SocketHandler) (connection : WebSocketConnection) :
    WebSocketConnection :=
  if connection.processorAlive ∧ connection.handlerAttached then
    { connection with
      handlerAttached := !handler.closesAtOnce connection.closeRequests
      log := connection.log ++ [.prepareToClose] }
  else connection

/-- The connection after `closeConnection`. -/
def closed (handler : SocketHandler) (connection : WebSocketConnection)
    (reason : Option WebSocketCloseReasonCode) (description : Option String) (hard : Bool) :
    WebSocketConnection :=
  let connection :=
    { connection.sent .close (some (closePayload reason description)) with active := false }
  if hard then connection.askedToClose handler else connection

/-- The connection after `connectionClosed`. -/
def notified (handler : SocketHandler) (connection : WebSocketConnection)
    (reason : WebSocketCloseReasonCode) (description : Option String) : WebSocketConnection :=
  if connection.active then
    (connection.closed handler (some reason) description true).enqueue (.disconnected reason)
  else connection.askedToClose handler

/-- What is appended to the log when the processor of an inactive connection closes. -/
def closeRequest (connection : WebSocketConnection) : List Output :=
  if connection.processorAlive ∧ connection.handlerAttached then [.prepareToClose] else []

/-- What `closeConnection` appends to the log. -/
def closedOutputs (connection : WebSocketConnection) (reason : Option WebSocketCloseReasonCode)
    (description : Option String) (hard : Bool) : List Output :=
  connection.framed .close (some (closePayload reason description)) ++
    if hard then connection.closeRequest else []

/-- What `connectionClosed` appends to the log. -/
def notifiedOutputs (connection : WebSocketConnection) (reason : WebSocketCloseReasonCode)
    (description : Option String) : List Output :=
  if connection.active then
    connection.closedOutputs (some reason) description true ++ [.callback (.disconnected reason)]
  else connection.closeRequest

section Fields

variable (handler : SocketHandler) (connection : WebSocketConnection)
  (reason : Option WebSocketCloseReasonCode) (description : Option String) (hard : Bool)

@[simp]
theorem askedToClose_processorAlive :
    (connection.askedToClose handler).processorAlive = connection.processorAlive := by
  rw [askedToClose]
  split <;> rfl

@[simp]
theorem askedToClose_active :
    (connection.askedToClose handler).active = connection.active := by
  rw [askedToClose]
  split <;> rfl

theorem askedToClose_log :
    (connection.askedToClose handler).log = connection.log ++ connection.closeRequest := by
  rw [askedToClose, closeRequest]
  split <;> simp

@[simp]
theorem closed_active : (connection.closed handler reason description hard).active = false := by
  cases hard <;> simp [closed]

@[simp]
theorem closed_processorAlive :
    (connection.closed handler reason description hard).processorAlive =
      connection.processorAlive := by
  cases hard <;> simp [closed]

theorem closed_log : (connection.closed handler reason description hard).log =
    connection.log ++ connection.closedOutputs reason description hard := by
  cases hard <;> simp [closed, closedOutputs, sent_log, askedToClose_log, closeRequest]

@[simp]
theorem notified_active (reason : WebSocketCloseReasonCode) :
    (connection.notified handler reason description).active = false := by
  rw [notified]
  split
  · simp [enqueue, emit]
  · simp_all

@[simp]
theorem notified_processorAlive (reason : WebSocketCloseReasonCode) :
    (connection.notified handler reason description).processorAlive =
      connection.processorAlive := by
  rw [notified]
  split <;> simp [enqueue, emit]

theorem notified_log (reason : WebSocketCloseReasonCode) :
    (connection.notified handler reason description).log =
      connection.log ++ connection.notifiedOutputs reason description := by
  rw [notified, notifiedOutputs]
  split
  · simp [enqueue, emit, closed_log]
  · exact askedToClose_log handler connection

end Fields

section Closing

variable {handler : SocketHandler} {connection next : WebSocketConnection}

/-- The processor of an inactive connection only asks the handler. -/
theorem processorClose_inactive (handler : SocketHandler) (depth : ℕ)
    {connection : WebSocketConnection} (hactive : connection.active = false)
    (halive : connection.processorAlive = true) :
    processorClose handler (depth + 3) connection = .ok (connection.askedToClose handler) := by
  cases hattached : connection.handlerAttached with
  | false => simp [processorClose, askedToClose, hactive, hattached]
  | true =>
    cases hchoice : handler.closesAtOnce connection.closeRequests with
    | false =>
      simp [processorClose, prepareToClose, askedToClose, emit, hactive, halive, hattached, hchoice]
    | true =>
      simp [processorClose, prepareToClose, askedToClose, emit, hactive, halive, hattached, hchoice]

/-- A call that returns has done what closing does. -/
theorem closeConnection_of_sent (depth : ℕ) {reason : Option WebSocketCloseReasonCode}
    {description : Option String} (hard : Bool)
    (hsent : connection.sendMessage .close (some (closePayload reason description)) =
      .ok (connection.sent .close (some (closePayload reason description)))) :
    closeConnection handler (depth + 4) connection reason description hard =
      .ok (connection.closed handler reason description hard) := by
  rw [closeConnection, hsent, ok_bind]
  cases hard with
  | false => rfl
  | true =>
    cases halive : connection.processorAlive with
    | false => simp [halive, closed, askedToClose]
    | true =>
      have hsentAlive : { connection.sent .close (some (closePayload reason description)) with
          active := false }.processorAlive = true := by simpa using halive
      simpa [halive, closed] using processorClose_inactive handler depth rfl hsentAlive

/-- Closing sends a frame whose payload is a code and the description. -/
theorem closeConnection_eq (depth : ℕ) {reason : Option WebSocketCloseReasonCode}
    {description : Option String} (hard : Bool)
    (hlength : (closePayload reason description).length < 2 ^ 32) :
    closeConnection handler (depth + 4) connection reason description hard =
      .ok (connection.closed handler reason description hard) :=
  closeConnection_of_sent depth hard (sendMessage_eq (by decide) (by simpa using hlength) connection)

/-- Whatever its length, if the call returns. -/
theorem eq_closed_of_closeConnection (depth : ℕ) {reason : Option WebSocketCloseReasonCode}
    {description : Option String} {hard : Bool}
    (hreturns : closeConnection handler (depth + 4) connection reason description hard =
      .ok next) : next = connection.closed handler reason description hard := by
  have hsent : connection.sendMessage .close (some (closePayload reason description)) =
      .ok (connection.sent .close (some (closePayload reason description))) := by
    rw [closeConnection, bind_eq_ok] at hreturns
    obtain ⟨middle, hmiddle, _⟩ := hreturns
    rw [hmiddle, eq_sent_of_sendMessage (by decide) hmiddle]
  rw [closeConnection_of_sent depth hard hsent] at hreturns
  cases hreturns
  rfl

theorem connectionClosed_eq (depth : ℕ) {reason : WebSocketCloseReasonCode}
    {description : Option String}
    (hlength : (closePayload (some reason) description).length < 2 ^ 32) :
    connectionClosed handler (depth + 5) connection reason description none =
      .ok (connection.notified handler reason description) := by
  rw [connectionClosed, notified]
  cases hactive : connection.active with
  | true =>
    simp only [if_true, Option.getD_none, closeConnection_eq depth true hlength, ok_bind,
      pure_eq_ok]
  | false =>
    cases halive : connection.processorAlive with
    | false => simp [askedToClose, halive]
    | true =>
      simpa [halive] using processorClose_inactive handler (depth + 1) hactive halive

/-- The processor closes an active connection, and asks the handler once more. -/
theorem processorClose_eq (depth : ℕ) (halive : connection.processorAlive = true) :
    processorClose handler (depth + 6) connection =
      .ok (if connection.active then
        (connection.notified handler .closedAbnormally none).askedToClose handler
      else connection.askedToClose handler) := by
  cases hactive : connection.active with
  | false => exact processorClose_inactive handler (depth + 3) hactive halive
  | true =>
    have hnotified : connectionClosed handler (depth + 5) connection .closedAbnormally none none =
        .ok (connection.notified handler .closedAbnormally none) :=
      connectionClosed_eq depth (by decide)
    have hinactive : (connection.notified handler .closedAbnormally none).active = false := by simp
    have hasked := processorClose_inactive handler (depth + 3) hinactive
      (by simp [notified, hactive, enqueue, emit, halive])
    rw [processorClose, if_neg (by simp), pure_eq_ok, ok_bind] at hasked
    rw [processorClose, if_pos hactive, hnotified, ok_bind, if_pos rfl]
    exact hasked

end Closing

/-- What a received frame is judged to be. -/
inductive Verdict
  | /-- Nothing to be done to the outside. -/
    nothing
  | /-- The end of a message. -/
    deliver (message : Callback)
  | /-- A ping to be answered. -/
    pong (payload : List UInt8)
  | /-- A violation of the protocol. -/
    violation (description : String)
  | /-- Text that is not UTF-8. -/
    invalidData (description : String)
  | /-- The client's close. -/
    closed (reason : WebSocketCloseReasonCode) (description : Option String)
  deriving DecidableEq, Repr

/-- The whole of a text message. -/
def textVerdict (data : List UInt8) : Verdict :=
  match stringFromUTF8 data with
  | some text => .deliver (.receivedString text)
  | none => .invalidData "Failed to convert received payload to UTF-8 String"

/-- The payload of a close frame. -/
def closeVerdict (payload : List UInt8) : Verdict :=
  if payload.length ≥ 2 ∧ payload.length < 126 then
    match stringFromUTF8 (payload.drop 2) with
    | some description =>
      .closed (.fromCode (networkToHost (payload.take 2))) (some description)
    | none => .invalidData "Failed to convert received close message to UTF-8 String"
  else if payload.length = 0 then .closed .noReasonCodeSent none
  else .violation
    "Close frames, which contain a payload, must be between 2 and 125 octets inclusive"

/-- The judgement of a frame, given the state before it. -/
def verdict (connection : WebSocketConnection) (frame : WSFrame) : Verdict :=
  match frame.opCode with
  | .binary =>
    if connection.messageState ≠ .unknown then
      .violation "A binary frame must be the first in the message"
    else if frame.finalFrame then .deliver (.receivedData frame.payload)
    else .nothing
  | .close => if connection.active then closeVerdict frame.payload else .nothing
  | .continuation =>
    if connection.messageState = .unknown then
      .violation "Continuation sent with prior binary or text frame"
    else if ¬ frame.finalFrame then .nothing
    else if connection.messageState = .binary then
      .deliver (.receivedData (connection.message ++ frame.payload))
    else textVerdict (connection.message ++ frame.payload)
  | .ping =>
    if ¬ frame.payload.length < 126 then
      .violation "Control frames are only allowed to have payload up to and including 125 octets"
    else if ¬ frame.finalFrame then .violation "Control frames must not be fragmented"
    else .pong frame.payload
  | .pong => .nothing
  | .text =>
    if connection.messageState ≠ .unknown then
      .violation "A text frame must be the first in the message"
    else if frame.finalFrame then textVerdict frame.payload
    else .nothing
  | .unknown => .nothing

/-- The bytes of a text message that a frame makes whole. -/
def wholeText (connection : WebSocketConnection) (frame : WSFrame) : Option (List UInt8) :=
  match frame.finalFrame, frame.opCode, connection.messageState with
  | true, .text, .unknown => some frame.payload
  | true, .continuation, .text => some (connection.message ++ frame.payload)
  | _, _, _ => none

/-- A frame that completes a message: it makes a text whole that is UTF-8, or it is the last
or only frame of a binary message. -/
def Completes (connection : WebSocketConnection) (frame : WSFrame) : Prop :=
  (∃ data text, connection.wholeText frame = some data ∧ stringFromUTF8 data = some text) ∨
    frame.finalFrame = true ∧
      (frame.opCode = .binary ∧ connection.messageState = .unknown ∨
        frame.opCode = .continuation ∧ connection.messageState = .binary)

/-- A frame with a text that is not UTF-8: of the message that it makes whole, or of a close
frame. -/
def NotUTF8 (connection : WebSocketConnection) (frame : WSFrame) : Prop :=
  (∃ data, connection.wholeText frame = some data ∧ stringFromUTF8 data = none) ∨
    frame.opCode = .close ∧ connection.active = true ∧ 2 ≤ frame.payload.length ∧
      frame.payload.length < 126 ∧ stringFromUTF8 (frame.payload.drop 2) = none

/-- A legal ping. -/
def LegalPing (frame : WSFrame) : Prop :=
  frame.opCode = .ping ∧ frame.finalFrame = true ∧ frame.payload.length < 126

/-- The judgements that are made of a frame, and when. -/
inductive Judged (connection : WebSocketConnection) (frame : WSFrame) : Verdict → Prop
  | nothing : Judged connection frame .nothing
  | data (message : List UInt8) (final : frame.finalFrame = true)
      (whole : frame.opCode = .binary ∧ connection.messageState = .unknown ∨
        frame.opCode = .continuation ∧ connection.messageState = .binary) :
      Judged connection frame (.deliver (.receivedData message))
  | text (data : List UInt8) (whole : connection.wholeText frame = some data) :
      Judged connection frame (textVerdict data)
  | close (opCode : frame.opCode = .close) (active : connection.active = true) :
      Judged connection frame (closeVerdict frame.payload)
  | pong (legal : LegalPing frame) : Judged connection frame (.pong frame.payload)
  | violation (description : String) (short : (utf8Bytes description).length ≤ 123) :
      Judged connection frame (.violation description)

theorem verdict_cases (connection : WebSocketConnection) (frame : WSFrame) :
    connection.Judged frame (connection.verdict frame) := by
  rw [verdict]
  cases hopCode : frame.opCode with
  | continuation =>
    simp only
    split_ifs with hstate hfinal hbinary
    · exact .violation _ (by decide +kernel)
    · exact .data _ hfinal (.inr ⟨hopCode, hbinary⟩)
    · apply Judged.text
      rw [wholeText, hfinal, hopCode]
      cases htext : connection.messageState with
      | unknown => exact absurd htext hstate
      | binary => exact absurd htext hbinary
      | text => rfl
    · exact .nothing
  | text =>
    simp only
    split_ifs with hstate hfinal
    · exact .violation _ (by decide +kernel)
    · apply Judged.text
      rw [wholeText, hfinal, hopCode, not_not.mp hstate]
    · exact .nothing
  | binary =>
    simp only
    split_ifs with hstate hfinal
    · exact .violation _ (by decide +kernel)
    · exact .data _ hfinal (.inl ⟨hopCode, not_not.mp hstate⟩)
    · exact .nothing
  | close =>
    simp only
    split_ifs with hactive
    · exact .close hopCode hactive
    · exact .nothing
  | ping =>
    simp only
    split_ifs with hlength hfinal
    · exact .pong ⟨hopCode, hfinal, hlength⟩
    · exact .violation _ (by decide +kernel)
    · exact .violation _ (by decide +kernel)
  | pong => exact .nothing
  | unknown => exact .nothing

/-- Whether a judgement closes the connection. -/
def Verdict.closes : Verdict → Bool
  | .nothing | .deliver _ | .pong _ => false
  | .violation _ | .invalidData _ | .closed _ _ => true

theorem textVerdict_deliver {data : List UInt8} :
    (∃ message, textVerdict data = .deliver message) ↔ ∃ text, stringFromUTF8 data = some text := by
  cases htext : stringFromUTF8 data <;> simp [textVerdict, htext]

theorem textVerdict_invalidData {data : List UInt8} :
    (∃ description, textVerdict data = .invalidData description) ↔ stringFromUTF8 data = none := by
  cases htext : stringFromUTF8 data <;> simp [textVerdict, htext]

theorem textVerdict_ne_pong {data payload : List UInt8} : textVerdict data ≠ .pong payload := by
  cases htext : stringFromUTF8 data <;> simp [textVerdict, htext]

/-- The client's close ends an active connection. -/
theorem closeVerdict_closes (payload : List UInt8) : (closeVerdict payload).closes = true := by
  rw [closeVerdict]
  split
  · cases stringFromUTF8 (payload.drop 2) <;> rfl
  · split <;> rfl

theorem closeVerdict_invalidData {payload : List UInt8} :
    (∃ description, closeVerdict payload = .invalidData description) ↔
      2 ≤ payload.length ∧ payload.length < 126 ∧ stringFromUTF8 (payload.drop 2) = none := by
  by_cases hlength : payload.length ≥ 2 ∧ payload.length < 126
  · cases htext : stringFromUTF8 (payload.drop 2) <;> simp [closeVerdict, hlength, htext]
  · have hnot : ¬ (2 ≤ payload.length ∧ payload.length < 126 ∧
        stringFromUTF8 (payload.drop 2) = none) := fun h => hlength ⟨h.1, h.2.1⟩
    simp only [closeVerdict, if_neg hlength, hnot, iff_false]
    split <;> simp

/-- A judgement that goes on is none of a close frame. -/
theorem closeVerdict_ne {payload : List UInt8} {verdict : Verdict} (hopen : verdict.closes = false) :
    closeVerdict payload ≠ verdict := by
  rintro rfl
  simp [closeVerdict_closes] at hopen

/-- A message is delivered exactly for a frame that completes one. -/
theorem deliver_iff (connection : WebSocketConnection) (frame : WSFrame) :
    (∃ message, connection.verdict frame = .deliver message) ↔ connection.Completes frame := by
  obtain ⟨finalFrame, opCode, payload⟩ := frame
  cases opCode with
  | text =>
    cases hstate : connection.messageState <;> cases finalFrame <;>
      simp [verdict, Completes, wholeText, hstate, textVerdict_deliver]
  | continuation =>
    cases hstate : connection.messageState <;> cases finalFrame <;>
      simp [verdict, Completes, wholeText, hstate, textVerdict_deliver]
  | binary =>
    cases hstate : connection.messageState <;> cases finalFrame <;>
      simp [verdict, Completes, wholeText, hstate]
  | close =>
    have hnone : ∀ message, closeVerdict payload ≠ .deliver message := fun _ => closeVerdict_ne rfl
    cases hactive : connection.active <;> cases finalFrame <;>
      simp [verdict, Completes, wholeText, hactive, hnone]
  | ping =>
    by_cases hlength : payload.length < 126 <;> cases finalFrame <;>
      simp [verdict, Completes, wholeText, hlength]
  | pong => simp [verdict, Completes, wholeText]
  | unknown => simp [verdict, Completes, wholeText]

/-- Data is invalid exactly for a frame with a text that is not UTF-8. -/
theorem invalidData_iff (connection : WebSocketConnection) (frame : WSFrame) :
    (∃ description, connection.verdict frame = .invalidData description) ↔
      connection.NotUTF8 frame := by
  obtain ⟨finalFrame, opCode, payload⟩ := frame
  cases opCode with
  | text =>
    cases hstate : connection.messageState <;> cases finalFrame <;>
      simp [verdict, NotUTF8, wholeText, hstate, textVerdict_invalidData]
  | continuation =>
    cases hstate : connection.messageState <;> cases finalFrame <;>
      simp [verdict, NotUTF8, wholeText, hstate, textVerdict_invalidData]
  | binary =>
    cases hstate : connection.messageState <;> cases finalFrame <;>
      simp [verdict, NotUTF8, wholeText, hstate]
  | close =>
    cases hactive : connection.active <;> cases finalFrame <;>
      simp [verdict, NotUTF8, wholeText, hactive, closeVerdict_invalidData]
  | ping =>
    by_cases hlength : payload.length < 126 <;> cases finalFrame <;>
      simp [verdict, NotUTF8, wholeText, hlength]
  | pong => simp [verdict, NotUTF8, wholeText]
  | unknown => simp [verdict, NotUTF8, wholeText]

/-- A pong answers exactly a legal ping. -/
theorem pong_iff (connection : WebSocketConnection) (frame : WSFrame) :
    (∃ payload, connection.verdict frame = .pong payload) ↔ LegalPing frame := by
  obtain ⟨finalFrame, opCode, payload⟩ := frame
  cases opCode with
  | text =>
    cases hstate : connection.messageState <;> cases finalFrame <;>
      simp [verdict, LegalPing, hstate, textVerdict_ne_pong]
  | continuation =>
    cases hstate : connection.messageState <;> cases finalFrame <;>
      simp [verdict, LegalPing, hstate, textVerdict_ne_pong]
  | binary =>
    cases hstate : connection.messageState <;> cases finalFrame <;>
      simp [verdict, LegalPing, hstate]
  | close =>
    have hnone : ∀ echo, closeVerdict payload ≠ .pong echo := fun _ => closeVerdict_ne rfl
    cases hactive : connection.active <;> simp [verdict, LegalPing, hactive, hnone]
  | ping =>
    by_cases hlength : payload.length < 126 <;> cases finalFrame <;>
      simp [verdict, LegalPing, hlength]
  | pong => simp [verdict, LegalPing]
  | unknown => simp [verdict, LegalPing]

/-- The message being assembled after a frame. -/
def assembled (connection : WebSocketConnection) (frame : WSFrame) :
    MessageStates × List UInt8 :=
  match frame.opCode with
  | .binary =>
    if connection.messageState = .unknown ∧ ¬ frame.finalFrame then (.binary, frame.payload)
    else (connection.messageState, connection.message)
  | .text =>
    if connection.messageState = .unknown ∧ ¬ frame.finalFrame then (.text, frame.payload)
    else (connection.messageState, connection.message)
  | .continuation =>
    if connection.messageState = .unknown then (connection.messageState, connection.message)
    else (if frame.finalFrame then .unknown else connection.messageState,
      connection.message ++ frame.payload)
  | _ => (connection.messageState, connection.message)

/-- The connection with a frame taken in, before anything is done about it. -/
def noted (now : ℚ) (connection : WebSocketConnection) (frame : WSFrame) :
    WebSocketConnection :=
  { connection with
    lastFrameReceivedAt := connection.lastFrameReceivedAt.map fun _ => now
    messageState := (connection.assembled frame).1
    message := (connection.assembled frame).2 }

/-- Carry out a judgement. -/
def settled (handler : SocketHandler) (connection : WebSocketConnection) :
    Verdict → WebSocketConnection
  | .nothing => connection
  | .deliver message => connection.enqueue message
  | .pong payload => connection.sent .pong (some payload)
  | .violation description => connection.notified handler .protocolError (some description)
  | .invalidData description =>
    connection.closed handler (some .invalidDataContents) (some description) true
  | .closed reason description => connection.notified handler reason description

theorem settled_active (handler : SocketHandler) (connection : WebSocketConnection)
    (verdict : Verdict) :
    (connection.settled handler verdict).active = (connection.active && !verdict.closes) := by
  cases verdict <;> simp [settled, Verdict.closes, enqueue, emit]

theorem settled_processorAlive (handler : SocketHandler) (connection : WebSocketConnection)
    (verdict : Verdict) :
    (connection.settled handler verdict).processorAlive = connection.processorAlive := by
  cases verdict <;> simp [settled, enqueue, emit]

/-- What carrying out a judgement appends to the log. -/
def settledOutputs (connection : WebSocketConnection) : Verdict → List Output
  | .nothing => []
  | .deliver message => [.callback message]
  | .pong payload => connection.framed .pong (some payload)
  | .violation description => connection.notifiedOutputs .protocolError (some description)
  | .invalidData description =>
    connection.closedOutputs (some .invalidDataContents) (some description) true
  | .closed reason description => connection.notifiedOutputs reason description

theorem settled_log (handler : SocketHandler) (connection : WebSocketConnection)
    (verdict : Verdict) :
    (connection.settled handler verdict).log =
      connection.log ++ connection.settledOutputs verdict := by
  cases verdict with
  | nothing => exact (List.append_nil _).symm
  | deliver message => rfl
  | pong payload => exact connection.sent_log _ _
  | violation description => exact notified_log handler connection _ _
  | invalidData description => exact closed_log handler connection _ _ _
  | closed reason description => exact notified_log handler connection _ _

/-- Setting the message state back commutes with closing. -/
theorem closed_messageState (handler : SocketHandler) (connection : WebSocketConnection)
    (reason : Option WebSocketCloseReasonCode) (description : Option String) (hard : Bool)
    (messageState : MessageStates) :
    { connection.closed handler reason description hard with messageState := messageState } =
      { connection with messageState := messageState }.closed handler reason description hard := by
  cases halive : connection.processorAlive <;> cases hattached : connection.handlerAttached <;>
    cases hard <;>
    simp [closed, askedToClose, sent, framed, closeRequests, halive, hattached]

theorem length_utf8Bytes_of_stringFromUTF8 {data : List UInt8} {text : String}
    (h : stringFromUTF8 data = some text) : (utf8Bytes text).length = data.length := by
  rw [stringFromUTF8_eq_some.mp h]

theorem length_closePayload (reason : Option WebSocketCloseReasonCode) (description : String) :
    (closePayload reason (some description)).length = 2 + (utf8Bytes description).length := by
  simp [closePayload, hostToNetwork]

/-- Every text that the library itself puts into a close frame is short. -/
theorem short_description {reason : Option WebSocketCloseReasonCode} {description : String}
    (h : (utf8Bytes description).length < 126) :
    (closePayload reason (some description)).length < 2 ^ 32 := by
  rw [length_closePayload]
  omega

theorem protocolViolation_eq {handler : SocketHandler} {description : String}
    (hshort : (utf8Bytes description).length < 126) (connection : WebSocketConnection) :
    protocolViolation handler connection description =
      .ok (connection.settled handler (.violation description)) :=
  connectionClosed_eq 3 (short_description hshort)

theorem fireReceivedString_eq (handler : SocketHandler) (connection : WebSocketConnection)
    (data : List UInt8) :
    fireReceivedString handler connection data =
      .ok (connection.settled handler (textVerdict data)) := by
  cases htext : stringFromUTF8 data with
  | some text => simp only [fireReceivedString, textVerdict, htext, settled]
  | none =>
    simp only [fireReceivedString, textVerdict, htext, settled]
    exact closeConnection_eq 4 true (short_description (by decide +kernel))

/-- The message state is set back after a text, whatever became of the text. -/
theorem settled_textVerdict (handler : SocketHandler) (connection : WebSocketConnection)
    (data : List UInt8) (messageState : MessageStates) :
    { connection.settled handler (textVerdict data) with messageState := messageState } =
      { connection with messageState := messageState }.settled handler (textVerdict data) := by
  cases htext : stringFromUTF8 data with
  | some text => simp only [textVerdict, htext, settled, enqueue, emit]
  | none => simpa only [textVerdict, htext, settled] using closed_messageState _ _ _ _ _ _

theorem receivedClose_eq (handler : SocketHandler) (connection : WebSocketConnection)
    (payload : List UInt8) :
    receivedClose handler connection payload =
      .ok (connection.settled handler (closeVerdict payload)) := by
  by_cases hlength : payload.length ≥ 2 ∧ payload.length < 126
  · rw [receivedClose, if_pos hlength, closeVerdict, if_pos hlength,
      readRange_of_le (by omega) hlength.1, ok_bind, List.drop_zero]
    cases htext : stringFromUTF8 (payload.drop 2) with
    | none => exact closeConnection_eq 4 true (short_description (by decide +kernel))
    | some description =>
      apply connectionClosed_eq 3
      apply short_description
      rw [length_utf8Bytes_of_stringFromUTF8 htext, List.length_drop]
      omega
  · rw [receivedClose, if_neg hlength, closeVerdict, if_neg hlength]
    by_cases hempty : payload.length = 0
    · rw [if_pos hempty, if_pos hempty]
      exact connectionClosed_eq 3 (by decide)
    · rw [if_neg hempty, if_neg hempty]
      exact protocolViolation_eq (by decide +kernel) connection

/-- A received frame is judged and taken in, and the judgement is carried out. -/
theorem received_eq (handler : SocketHandler) (now : ℚ) (connection : WebSocketConnection)
    (frame : WSFrame) :
    received handler now connection frame =
      .ok ((connection.noted now frame).settled handler (connection.verdict frame)) := by
  obtain ⟨finalFrame, opCode, payload⟩ := frame
  cases opCode with
  | binary =>
    by_cases hstate : connection.messageState = .unknown
    · cases finalFrame <;> simp [received, verdict, noted, assembled, settled, hstate]
    · simpa [received, verdict, noted, assembled, hstate] using
        protocolViolation_eq (by decide +kernel) _
  | close =>
    cases hactive : connection.active with
    | false => simp [received, verdict, noted, assembled, settled, hactive]
    | true => simpa [received, verdict, noted, assembled, hactive] using receivedClose_eq _ _ _
  | continuation =>
    by_cases hstate : connection.messageState = .unknown
    · simpa [received, verdict, noted, assembled, hstate] using
        protocolViolation_eq (by decide +kernel) _
    · cases finalFrame with
      | false => simp [received, verdict, noted, assembled, settled, hstate]
      | true =>
        by_cases hbinary : connection.messageState = .binary
        · simp [received, verdict, noted, assembled, settled, hbinary, enqueue, emit]
        · simp [received, verdict, noted, assembled, hstate, hbinary, fireReceivedString_eq,
            settled_textVerdict]
  | ping =>
    by_cases hlength : payload.length < 126
    · cases finalFrame with
      | false =>
        simpa [received, verdict, noted, assembled, hlength] using
          protocolViolation_eq (by decide +kernel) _
      | true =>
        simpa [received, verdict, noted, assembled, hlength, settled] using
          sendMessage_eq (by decide) (by simp; omega) _
    · have hlong : 126 ≤ payload.length := Nat.not_lt.mp hlength
      simpa [received, verdict, noted, assembled, hlong] using
        protocolViolation_eq (by decide +kernel) _
  | pong => rfl
  | text =>
    by_cases hstate : connection.messageState = .unknown
    · cases finalFrame with
      | false => simp [received, verdict, noted, assembled, settled, hstate]
      | true =>
        simpa [received, verdict, noted, assembled, hstate] using fireReceivedString_eq _ _ _
    · simpa [received, verdict, noted, assembled, hstate] using
        protocolViolation_eq (by decide +kernel) _
  | unknown => rfl

end WebSocketConnection

end KituraWebSocket
