/-
# Incoming control frames

A control frame is final and carries at most 125 bytes; any other should fail the
connection. The rule is stated for each opcode by itself in the source: pings
keep to it, pongs are never looked at, and of a close frame only the payload is
(`policed_iff`). A close frame that is let through is echoed: `received_close_echo`.
-/

import KituraWebSocket.Connection.Callbacks
import KituraWebSocket.Connection.ControlFrames

namespace KituraWebSocket

namespace WebSocketConnection

/-- A frame closes the connection with `protocolError`: the client is sent the code, if it can be
reached, and the service is told. -/
def ClosesWithProtocolError (handler : SocketHandler) (now : ℚ)
    (connection : WebSocketConnection) (frame : WSFrame) : Prop :=
  ∃ next written description, received handler now connection frame = .ok next ∧
    next.log = connection.log ++ written ∧ next.active = false ∧
    handed written =
      (connection.reaching (some (closeFrame .protocolError description))).toList ∧
    callbacks written = [.disconnected .protocolError]

/-- A frame leaves the connection open and the message being assembled alone. -/
def LeavesAlone (handler : SocketHandler) (now : ℚ) (connection : WebSocketConnection)
    (frame : WSFrame) : Prop :=
  ∃ next, received handler now connection frame = .ok next ∧ next.active = true ∧
    next.messageState = connection.messageState ∧ next.message = connection.message

/-- The rule for a control frame. -/
def Policed (handler : SocketHandler) (now : ℚ) (connection : WebSocketConnection)
    (frame : WSFrame) : Prop :=
  (frame.finalFrame = false ∨ 125 < frame.payload.length →
      ClosesWithProtocolError handler now connection frame) ∧
    (frame.opCode ≠ .close → frame.finalFrame = true → frame.payload.length ≤ 125 →
      LeavesAlone handler now connection frame)

/-- The payload of a close frame that is a violation for reasons of its own: its length, or its
code. -/
def ClosePayloadViolates (payload : List UInt8) : Prop :=
  payload.length = 1 ∨ 125 < payload.length ∨
    2 ≤ payload.length ∧ (stringFromUTF8 (payload.drop 2)).isSome = true ∧
      (networkToHost (payload.take 2) = 1002 ∨
        ¬ WebSocketCloseReasonCode.Recognized (networkToHost (payload.take 2)))

/-- The frames that are let through: a pong that breaks the rule, and a close frame that is not
final and whose payload is nothing to object to. -/
def SlipsThrough (frame : WSFrame) : Prop :=
  frame.opCode = .pong ∧ (frame.finalFrame = false ∨ 125 < frame.payload.length) ∨
    frame.opCode = .close ∧ frame.finalFrame = false ∧ ¬ ClosePayloadViolates frame.payload

/-- The reason for a code that is not to be accepted. -/
theorem fromCode_eq_protocolError (reasonCode : ℕ) :
    WebSocketCloseReasonCode.fromCode reasonCode = .protocolError ↔
      reasonCode = 1002 ∨ ¬ WebSocketCloseReasonCode.Recognized reasonCode := by
  fun_cases WebSocketCloseReasonCode.fromCode reasonCode with
  | case10 hsmall => grind [WebSocketCloseReasonCode.Recognized]
  | case11 hlarge =>
    have hrecognized : WebSocketCloseReasonCode.Recognized reasonCode := by
      rw [WebSocketCloseReasonCode.Recognized]
      omega
    simp only [reduceCtorEq, hrecognized, not_true_eq_false, or_false, false_iff]
    omega
  | _ => decide

/-- A judgement that fails the connection with `protocolError`. -/
def Verdict.IsProtocolError : Verdict → Prop
  | .violation _ | .closed .protocolError _ => True
  | _ => False

section Received

variable {handler : SocketHandler} {now : ℚ} {connection : WebSocketConnection}

/-- What it asks for on an active connection. -/
theorem isProtocolError_spec (hactive : connection.active = true) {verdict : Verdict}
    (herror : verdict.IsProtocolError) :
    ∃ description, connection.verdictFrame verdict =
        some (closeFrame .protocolError description) ∧
      connection.verdictCallback verdict = some (.disconnected .protocolError) ∧
      verdict.closes = true := by
  cases verdict with
  | violation description => exact ⟨some description, if_pos hactive, if_pos hactive, rfl⟩
  | closed reason description =>
    cases reason with
    | protocolError => exact ⟨description, if_pos hactive, if_pos hactive, rfl⟩
    | _ => exact herror.elim
  | _ => exact herror.elim

/-- What is judged so closes the connection so, and nothing else does. -/
theorem closesWithProtocolError_iff (hactive : connection.active = true) (frame : WSFrame) :
    ClosesWithProtocolError handler now connection frame ↔
      (connection.verdict frame).IsProtocolError := by
  have hlog := settled_log handler (connection.noted now frame) (connection.verdict frame)
  have hended := settled_active handler (connection.noted now frame) (connection.verdict frame)
  have hhanded := (connection.noted now frame).handed_settledOutputs (connection.verdict frame)
  have htold := (connection.noted now frame).callbacks_settledOutputs (connection.verdict frame)
  have hnoted : (connection.noted now frame).active = true := hactive
  constructor
  · rintro ⟨next, written, description, hreturns, hwritten, -, -, hcallbacks⟩
    rw [received_eq] at hreturns
    obtain rfl := Except.ok.inj hreturns
    obtain rfl : (connection.noted now frame).settledOutputs (connection.verdict frame) = written :=
      List.append_cancel_left (hlog.symm.trans hwritten)
    rw [hcallbacks] at htold
    have hmessage := connection.verdict_messagesOnly frame
    cases hverdict : connection.verdict frame with
    | deliver message =>
      rw [hverdict] at htold hmessage
      obtain rfl : Callback.disconnected .protocolError = message := by
        simpa [verdictCallback] using htold
      cases hmessage
    | violation description => trivial
    | closed reason description =>
      rw [hverdict] at htold
      obtain rfl : WebSocketCloseReasonCode.protocolError = reason := by
        simpa [verdictCallback, hnoted] using htold
      trivial
    | _ => simp [hverdict, verdictCallback] at htold
  · intro herror
    obtain ⟨description, hframe, hcallback, hcloses⟩ := isProtocolError_spec hnoted herror
    rw [hframe] at hhanded
    rw [hcallback] at htold
    rw [hcloses, Bool.not_true, Bool.and_false] at hended
    exact ⟨_, _, description, received_eq handler now connection frame, hlog, hended, hhanded,
      htold⟩

/-- The payload of a close frame. -/
theorem closeVerdict_isProtocolError (payload : List UInt8) :
    (closeVerdict payload).IsProtocolError ↔ ClosePayloadViolates payload := by
  rw [closeVerdict, ClosePayloadViolates]
  split_ifs with hlength hempty
  · have hneither : ¬ payload.length = 1 ∧ ¬ 125 < payload.length := by omega
    simp only [hneither.1, hneither.2, false_or, hlength.1, true_and,
      ← fromCode_eq_protocolError]
    cases htext : stringFromUTF8 (payload.drop 2) with
    | none => simp [Verdict.IsProtocolError]
    | some description =>
      cases hreason : WebSocketCloseReasonCode.fromCode (networkToHost (payload.take 2)) <;>
        simp [Verdict.IsProtocolError]
  · simp [Verdict.IsProtocolError, hempty]
  · have hviolates : payload.length = 1 ∨ 125 < payload.length := by omega
    exact iff_of_true trivial (by tauto)

/-- A ping or pong that does not close the connection leaves it alone. -/
theorem leavesAlone_of_open (hactive : connection.active = true) {frame : WSFrame}
    (hopCode : frame.opCode = .ping ∨ frame.opCode = .pong)
    (hopen : (connection.verdict frame).closes = false) :
    LeavesAlone handler now connection frame := by
  have hassembled : connection.assembled frame =
      (connection.messageState, connection.message) := by
    rcases hopCode with hping | hpong
    · simp [assembled, hping]
    · simp [assembled, hpong]
  have hnoted : (connection.noted now frame).messageState = connection.messageState ∧
      (connection.noted now frame).message = connection.message := by
    simp [noted, hassembled]
  refine ⟨_, received_eq handler now connection frame, ?_⟩
  rw [settled_active, hopen]
  refine ⟨by simpa [noted] using hactive, ?_⟩
  cases hverdict : connection.verdict frame with
  | nothing => exact hnoted
  | deliver message => exact hnoted
  | pong payload => simpa [settled] using hnoted
  | _ => simp [hverdict, Verdict.closes] at hopen

/-- On an active connection, in any state of the message being assembled, a control frame is dealt
with by the rule exactly when it is none of those that slip through. -/
theorem policed_iff (hactive : connection.active = true) {frame : WSFrame}
    (hcontrol : frame.opCode ∈ [.close, .ping, .pong]) :
    Policed handler now connection frame ↔ ¬ SlipsThrough frame := by
  rw [Policed, closesWithProtocolError_iff hactive, SlipsThrough]
  cases hopCode : frame.opCode with
  | close =>
    have hverdict : connection.verdict frame = closeVerdict frame.payload := by
      simp [verdict, hopCode, hactive]
    rw [hverdict, closeVerdict_isProtocolError]
    have hlong : 125 < frame.payload.length → ClosePayloadViolates frame.payload :=
      fun h => .inr (.inl h)
    simp only [ne_eq, not_true_eq_false, false_implies, and_true, reduceCtorEq, false_and,
      false_or, true_and]
    by_cases hviolates : ClosePayloadViolates frame.payload
    · simp [hviolates]
    · have hshort := mt hlong hviolates
      simp [hviolates, hshort]
  | ping =>
    simp only [reduceCtorEq, false_and, or_self, not_false_eq_true, iff_true]
    constructor
    · intro hbroken
      by_cases hlength : frame.payload.length < 126
      · have hfragment : frame.finalFrame = false := hbroken.resolve_right (by omega)
        simp [verdict, hopCode, hlength, hfragment, Verdict.IsProtocolError]
      · simp [verdict, hopCode, Nat.not_lt.mp hlength, Verdict.IsProtocolError]
    · intro _ hfinal hlength
      apply leavesAlone_of_open hactive (.inl hopCode)
      simp [verdict, hopCode, hfinal, Nat.lt_succ_of_le hlength, Verdict.closes]
  | pong =>
    have hverdict : connection.verdict frame = .nothing := by simp [verdict, hopCode]
    have halone : LeavesAlone handler now connection frame :=
      leavesAlone_of_open hactive (.inr hopCode) (by rw [hverdict]; rfl)
    simp only [hverdict, Verdict.IsProtocolError, halone, implies_true, and_true, true_and,
      reduceCtorEq, false_and, or_false, imp_false]
  | _ =>
    rw [hopCode] at hcontrol
    simp at hcontrol

end Received

/-- A fragment of a ping is refused. -/
theorem policed_iff_ping :
    Policed ⟨fun _ => false⟩ 0 (opened (some ⟨none⟩) 0) ⟨false, .ping, []⟩ ↔
      ¬ SlipsThrough ⟨false, .ping, []⟩ :=
  policed_iff rfl (by decide)

/-- A fragment of a close frame is taken for the client's close. -/
theorem not_policed_close_fragment :
    ¬ Policed ⟨fun _ => false⟩ 0 (opened (some ⟨none⟩) 0) ⟨false, .close, [0x03, 0xE8]⟩ := by
  rintro ⟨hfails, -⟩
  have herror := (closesWithProtocolError_iff rfl _).mp (hfails (.inl rfl))
  have hverdict : (opened (some ⟨none⟩) 0).verdict ⟨false, .close, [0x03, 0xE8]⟩ =
      .closed .normal (some "") := by decide +kernel
  rw [hverdict] at herror
  exact herror

/-- The code that answers a code. -/
def echoedCode (reasonCode : ℕ) : ℕ :=
  if WebSocketCloseReasonCode.Recognized reasonCode then reasonCode else 1002

/-- One close frame with a payload is written, then the handler is asked to close. -/
def Answers (handler : SocketHandler) (now : ℚ) (connection : WebSocketConnection)
    (frame : WSFrame) (payload : List UInt8) (told : List Output) : Prop :=
  ∃ next sent, received handler now connection frame = .ok next ∧
    next.log = connection.log ++ .frame sent :: .prepareToClose :: told ∧
    sent.opCode = .close ∧ sent.payload = payload ∧
    sent.writes.flatten = Grammar.serverFrame ⟨true, .close, payload⟩

section Echo

variable {handler : SocketHandler} {now : ℚ} {connection : WebSocketConnection}

/-- A hard close with a handler to reach. -/
theorem closedOutputs_running (hrunning : connection.Running)
    (reason : Option WebSocketCloseReasonCode) (description : Option String) :
    connection.closedOutputs reason description true =
      [.frame (SentFrame.of .close (some (closePayload reason description))),
        .prepareToClose] := by
  have hreach : connection.processorAlive = true ∧ connection.handlerAttached = true :=
    ⟨hrunning.alive, hrunning.attached⟩
  rw [closedOutputs, framed, closeRequest, if_pos hreach, if_pos rfl, if_pos hreach]
  rfl

theorem notifiedOutputs_running (hrunning : connection.Running)
    (reason : WebSocketCloseReasonCode) (description : Option String) :
    connection.notifiedOutputs reason description =
      [.frame (SentFrame.of .close (some (closePayload (some reason) description))),
        .prepareToClose, .callback (.disconnected reason)] := by
  rw [notifiedOutputs, if_pos hrunning.active, closedOutputs_running hrunning]
  rfl

/-- A judgement whose outputs are those of a close answers the frame. -/
theorem answers_of_outputs {frame : WSFrame} {payload : List UInt8} {told : List Output}
    (houtputs : (connection.noted now frame).settledOutputs (connection.verdict frame) =
      .frame (SentFrame.of .close (some payload)) :: .prepareToClose :: told) :
    Answers handler now connection frame payload told := by
  refine ⟨_, SentFrame.of .close (some payload), received_eq handler now connection frame, ?_,
    rfl, rfl, SentFrame.of_wire _ _⟩
  rw [settled_log, houtputs]
  rfl

theorem Running.noted (hrunning : connection.Running) (frame : WSFrame) :
    (connection.noted now frame).Running :=
  ⟨hrunning.active, hrunning.alive, hrunning.attached⟩

theorem verdict_close (hrunning : connection.Running) (final : Bool) (payload : List UInt8) :
    connection.verdict ⟨final, .close, payload⟩ = closeVerdict payload :=
  if_pos hrunning.active

/-- The code and the text of a close frame come back as the code that answers the code, and the same
text; the handler is asked to close, and the service is told with that code. A payload of the wrong
length is answered with 1002, a text that is not UTF-8 with 1007. -/
theorem received_close_echo (hrunning : connection.Running) :
    (∀ (final : Bool) (reasonCode : ℕ) (text : List UInt8), reasonCode < 2 ^ 16 →
      2 + text.length ≤ 125 → (stringFromUTF8 text).isSome = true →
      ∃ reason : WebSocketCloseReasonCode, reason.code.toNat = echoedCode reasonCode ∧
        Answers handler now connection
          ⟨final, .close, BigEndian.bytes 2 reasonCode ++ text⟩
          (BigEndian.bytes 2 (echoedCode reasonCode) ++ text)
          [.callback (.disconnected reason)]) ∧
    (∀ (final : Bool) (payload : List UInt8), payload.length = 1 ∨ 125 < payload.length →
      ∃ text, Answers handler now connection ⟨final, .close, payload⟩
        (BigEndian.bytes 2 1002 ++ text) [.callback (.disconnected .protocolError)]) ∧
    (∀ (final : Bool) (payload : List UInt8), 2 ≤ payload.length → payload.length ≤ 125 →
      stringFromUTF8 (payload.drop 2) = none →
      ∃ text, Answers handler now connection ⟨final, .close, payload⟩
        (BigEndian.bytes 2 1007 ++ text) []) := by
  refine ⟨fun final reasonCode text hcode hlength htext => ?_, fun final payload hlength => ?_,
    fun final payload hlower hupper htext => ?_⟩
  · obtain ⟨description, hdescription⟩ := Option.isSome_iff_exists.mp htext
    have hvalue : networkToHost (BigEndian.bytes 2 reasonCode) = reasonCode :=
      BigEndian.value_bytes hcode
    have htake : (BigEndian.bytes 2 reasonCode ++ text).take 2 = BigEndian.bytes 2 reasonCode :=
      List.take_left' (BigEndian.length_bytes _ _)
    have hdrop : (BigEndian.bytes 2 reasonCode ++ text).drop 2 = text :=
      List.drop_left' (BigEndian.length_bytes _ _)
    have hfits : (BigEndian.bytes 2 reasonCode ++ text).length ≥ 2 ∧
        (BigEndian.bytes 2 reasonCode ++ text).length < 126 := by
      rw [List.length_append, BigEndian.length_bytes]
      omega
    refine ⟨_, WebSocketCloseReasonCode.code_fromCode hcode, answers_of_outputs ?_⟩
    rw [verdict_close hrunning, closeVerdict, if_pos hfits, hdrop, hdescription, htake, hvalue]
    simp only [settledOutputs, notifiedOutputs_running (hrunning.noted _)]
    rw [closePayload, Option.getD_some, WebSocketCloseReasonCode.code_fromCode hcode,
      stringFromUTF8_eq_some.mp hdescription]
    rfl
  · have hwrong : ¬ (payload.length ≥ 2 ∧ payload.length < 126) := by omega
    have hnonempty : ¬ payload.length = 0 := by omega
    refine ⟨utf8Bytes
      "Close frames, which contain a payload, must be between 2 and 125 octets inclusive",
      answers_of_outputs ?_⟩
    rw [verdict_close hrunning, closeVerdict, if_neg hwrong, if_neg hnonempty]
    simp only [settledOutputs, notifiedOutputs_running (hrunning.noted _)]
    rfl
  · refine ⟨utf8Bytes "Failed to convert received close message to UTF-8 String",
      answers_of_outputs ?_⟩
    rw [verdict_close hrunning, closeVerdict, if_pos ⟨hlower, by omega⟩, htext]
    simp only [settledOutputs, closedOutputs_running (hrunning.noted _)]
    rfl

/-- On a new connection. -/
theorem received_close_echo_opened :
    (∀ (final : Bool) (reasonCode : ℕ) (text : List UInt8), reasonCode < 2 ^ 16 →
      2 + text.length ≤ 125 → (stringFromUTF8 text).isSome = true →
      ∃ reason : WebSocketCloseReasonCode, reason.code.toNat = echoedCode reasonCode ∧
        Answers ⟨fun _ => true⟩ 0 (opened (some ⟨none⟩) 0)
          ⟨final, .close, BigEndian.bytes 2 reasonCode ++ text⟩
          (BigEndian.bytes 2 (echoedCode reasonCode) ++ text)
          [.callback (.disconnected reason)]) ∧
    (∀ (final : Bool) (payload : List UInt8), payload.length = 1 ∨ 125 < payload.length →
      ∃ text, Answers ⟨fun _ => true⟩ 0 (opened (some ⟨none⟩) 0) ⟨final, .close, payload⟩
        (BigEndian.bytes 2 1002 ++ text) [.callback (.disconnected .protocolError)]) ∧
    (∀ (final : Bool) (payload : List UInt8), 2 ≤ payload.length → payload.length ≤ 125 →
      stringFromUTF8 (payload.drop 2) = none →
      ∃ text, Answers ⟨fun _ => true⟩ 0 (opened (some ⟨none⟩) 0) ⟨final, .close, payload⟩
        (BigEndian.bytes 2 1007 ++ text) []) :=
  received_close_echo ⟨rfl, rfl, rfl⟩

end Echo

end WebSocketConnection

end KituraWebSocket
