/-
# The callbacks of a connection

A connection that goes out of operation should tell its service so, once, and
should not hand it messages afterwards. Each step enqueues at most one callback,
and `callbackOf` says which. From it follows, for runs from any state, which steps
break the two rules: `disconnections_run` and `messagesFirst_run`.
-/

import KituraWebSocket.Connection.Runs

namespace KituraWebSocket

/-- The callback of an output. -/
def Output.enqueued : Output → Option Callback
  | .callback enqueued => some enqueued
  | .frame _ | .prepareToClose => none

/-- The callbacks enqueued for the service, in order. -/
def callbacks (log : List Output) : List Callback := log.filterMap Output.enqueued

@[simp]
theorem callbacks_nil : callbacks [] = [] := rfl

@[simp]
theorem callbacks_append (first second : List Output) :
    callbacks (first ++ second) = callbacks first ++ callbacks second :=
  List.filterMap_append

/-- `disconnected(connection:reason:)`. -/
def Callback.isDisconnected : Callback → Bool
  | .disconnected _ => true
  | .connected | .receivedData _ | .receivedString _ => false

/-- One of the two `received(message:from:)`. -/
def Callback.isReceived : Callback → Bool
  | .receivedData _ | .receivedString _ => true
  | .connected | .disconnected _ => false

namespace WebSocketConnection

/-- The callback that a judgement asks for. -/
def verdictCallback (connection : WebSocketConnection) : Verdict → Option Callback
  | .nothing | .pong _ | .invalidData _ => none
  | .deliver message => some message
  | .violation _ => if connection.active then some (.disconnected .protocolError) else none
  | .closed reason _ => if connection.active then some (.disconnected reason) else none

/-- The callback that an event enqueues. There is at most one. -/
def callbackOf (connection : WebSocketConnection) : ConnectionEvent → Option Callback
  | .received _ frame => connection.verdictCallback (connection.verdict frame)
  | .timer now =>
    if connection.timerVerdict now = .expired ∧ connection.active then
      some (.disconnected .closedAbnormally)
    else none
  | .processorClose =>
    if connection.processorAlive ∧ connection.active then some (.disconnected .closedAbnormally)
    else none
  | .socketClosed =>
    if connection.processorAlive ∧ connection.active then some (.disconnected .noReasonCodeSent)
    else none
  | .sendData _ _ | .sendString _ | .ping _ | .close _ _ | .drop _ _ | .parseError _
  | .serviceChanged _ | .handlerReleased | .processorReleased => none

section Enqueued

variable (handler : SocketHandler) (connection : WebSocketConnection)

@[simp]
theorem callbacks_framed (opCode : FrameOpcode) (payload : Option (List UInt8)) :
    callbacks (connection.framed opCode payload) = [] := by
  rw [framed]
  split <;> rfl

@[simp]
theorem callbacks_closeRequest : callbacks connection.closeRequest = [] := by
  rw [closeRequest]
  split <;> rfl

@[simp]
theorem callbacks_closedOutputs (reason : Option WebSocketCloseReasonCode)
    (description : Option String) (hard : Bool) :
    callbacks (connection.closedOutputs reason description hard) = [] := by
  rw [closedOutputs, callbacks_append, callbacks_framed]
  cases hard <;> simp

theorem callbacks_notifiedOutputs (reason : WebSocketCloseReasonCode)
    (description : Option String) :
    callbacks (connection.notifiedOutputs reason description) =
      if connection.active then [.disconnected reason] else [] := by
  rw [notifiedOutputs]
  split
  · rw [callbacks_append, callbacks_closedOutputs]
    rfl
  · exact connection.callbacks_closeRequest

theorem callbacks_settledOutputs (verdict : Verdict) :
    callbacks (connection.settledOutputs verdict) = (connection.verdictCallback verdict).toList := by
  cases verdict with
  | nothing => rfl
  | deliver message => rfl
  | pong payload => exact connection.callbacks_framed _ _
  | violation description =>
    rw [settledOutputs, callbacks_notifiedOutputs, verdictCallback]
    split <;> rfl
  | invalidData description => exact connection.callbacks_closedOutputs _ _ _
  | closed reason description =>
    rw [settledOutputs, callbacks_notifiedOutputs, verdictCallback]
    split <;> rfl

/-- An event enqueues the callback it asks for, and no other. -/
theorem callbacks_outputs (event : ConnectionEvent) :
    callbacks (connection.outputs handler event) = (connection.callbackOf event).toList := by
  have hifActive (opCode : FrameOpcode) (payload : Option (List UInt8)) :
      callbacks (connection.framedIfActive opCode payload) = [] := by
    rw [framedIfActive]
    split
    · exact connection.callbacks_framed opCode payload
    · rfl
  cases event with
  | sendData message asBinary => exact hifActive _ _
  | sendString message => exact hifActive _ _
  | ping withMessage => exact hifActive _ _
  | close reason description => exact connection.callbacks_closedOutputs _ _ _
  | drop reason description => exact connection.callbacks_closedOutputs _ _ _
  | received now frame => exact connection.callbacks_settledOutputs _
  | parseError error => exact connection.callbacks_closedOutputs _ _ _
  | timer now =>
    cases hverdict : connection.timerVerdict now with
    | rest => simp [outputs, callbackOf, hverdict]
    | ping => simp [outputs, callbackOf, hverdict, hifActive]
    | expired =>
      cases hactive : connection.active <;>
        simp [outputs, callbackOf, hverdict, callbacks_notifiedOutputs, hactive]
  | processorClose =>
    cases halive : connection.processorAlive <;> cases hactive : connection.active <;>
      simp [outputs, callbackOf, halive, hactive, callbacks_notifiedOutputs]
  | socketClosed =>
    cases halive : connection.processorAlive <;> cases hactive : connection.active <;>
      simp [outputs, callbackOf, halive, hactive, callbacks_notifiedOutputs]
  | serviceChanged service => rfl
  | handlerReleased => rfl
  | processorReleased => rfl

end Enqueued

/-- A judgement that delivers delivers a message. -/
def Verdict.MessagesOnly : Verdict → Prop
  | .deliver message => message.isReceived = true
  | .nothing | .pong _ | .violation _ | .invalidData _ | .closed _ _ => True

theorem textVerdict_messagesOnly (data : List UInt8) : (textVerdict data).MessagesOnly := by
  rw [textVerdict]
  split
  · rfl
  · trivial

theorem closeVerdict_messagesOnly (payload : List UInt8) :
    (closeVerdict payload).MessagesOnly := by
  rw [closeVerdict]
  split
  · split <;> trivial
  · split <;> trivial

theorem verdict_messagesOnly (connection : WebSocketConnection) (frame : WSFrame) :
    (connection.verdict frame).MessagesOnly := by
  have hjudged := connection.verdict_cases frame
  generalize connection.verdict frame = verdict at hjudged ⊢
  cases hjudged with
  | nothing => trivial
  | data message final whole => rfl
  | text data whole => exact textVerdict_messagesOnly data
  | close opCode active => exact closeVerdict_messagesOnly frame.payload
  | pong legal => trivial
  | violation description short => trivial

/-- An event that would end the connection without a callback: the service's own close, an
error of the parser, and a text or a close frame that is not UTF-8. -/
def EndsSilently (connection : WebSocketConnection) : ConnectionEvent → Prop
  | .close _ _ | .drop _ _ | .parseError _ => True
  | .received _ frame => connection.NotUTF8 frame
  | _ => False

/-- How often the service has been told. -/
def disconnections (connection : WebSocketConnection) : ℕ :=
  (callbacks connection.log).countP Callback.isDisconnected

/-- An active connection that ends tells the service, unless it ends silently. -/
theorem disconnected_iff (connection : WebSocketConnection) (event : ConnectionEvent) :
    (∃ reason, connection.callbackOf event = some (.disconnected reason)) ↔
      connection.active = true ∧ connection.ends event = true ∧ ¬ connection.EndsSilently event := by
  cases event with
  | received now frame =>
    rw [EndsSilently, ← invalidData_iff]
    cases hverdict : connection.verdict frame with
    | deliver message =>
      have hmessage := connection.verdict_messagesOnly frame
      rw [hverdict] at hmessage
      have hother : ∀ reason, message ≠ .disconnected reason := by
        rintro reason rfl
        cases hmessage
      simp [callbackOf, verdictCallback, ends, Verdict.closes, hverdict, hother]
    | _ => simp [callbackOf, verdictCallback, ends, Verdict.closes, hverdict]
  | timer now => simp [callbackOf, ends, EndsSilently, and_comm]
  | processorClose => simp [callbackOf, ends, EndsSilently, and_comm]
  | socketClosed => simp [callbackOf, ends, EndsSilently, and_comm]
  | _ => simp [callbackOf, ends, EndsSilently]

theorem isDisconnected_iff {enqueued : Callback} :
    enqueued.isDisconnected = true ↔ ∃ reason, enqueued = .disconnected reason := by
  cases enqueued <;> simp [Callback.isDisconnected]

theorem disconnections_after (handler : SocketHandler) (connection : WebSocketConnection)
    (event : ConnectionEvent) :
    (connection.after handler event).disconnections =
      connection.disconnections + (connection.callbackOf event).toList.countP
        Callback.isDisconnected := by
  rw [disconnections, after_log, callbacks_append, callbacks_outputs, List.countP_append]
  rfl

/-- The service is told once more by a step that ends an active connection aloud. -/
theorem disconnections_of_ends (handler : SocketHandler) {connection : WebSocketConnection}
    {event : ConnectionEvent} (hactive : connection.active = true)
    (hends : connection.ends event = true) (haloud : ¬ connection.EndsSilently event) :
    (connection.after handler event).disconnections = connection.disconnections + 1 := by
  obtain ⟨reason, hcallback⟩ := (connection.disconnected_iff event).mpr ⟨hactive, hends, haloud⟩
  rw [disconnections_after, hcallback]
  rfl

/-- No other step tells it. -/
theorem disconnections_of_not {handler : SocketHandler} {connection : WebSocketConnection}
    {event : ConnectionEvent} (hnot : ¬ (connection.active = true ∧
      connection.ends event = true ∧ ¬ connection.EndsSilently event)) :
    (connection.after handler event).disconnections = connection.disconnections := by
  rw [← disconnected_iff] at hnot
  rw [disconnections_after]
  cases hcallback : connection.callbackOf event with
  | none => rfl
  | some enqueued =>
    have hother : enqueued.isDisconnected = false := by
      rw [Bool.eq_false_iff, Ne, isDisconnected_iff]
      rintro ⟨reason, rfl⟩
      exact hnot ⟨reason, hcallback⟩
    simp [hother]

/-- An active connection ends silently at an event. -/
def FailsAt (connection : WebSocketConnection) (event : ConnectionEvent) : Prop :=
  connection.active = true ∧ connection.EndsSilently event

theorem ends_of_endsSilently {connection : WebSocketConnection} {event : ConnectionEvent}
    (hsilent : connection.EndsSilently event) : connection.ends event = true := by
  cases event with
  | received now frame =>
    obtain ⟨description, hverdict⟩ := (connection.invalidData_iff frame).mpr hsilent
    simp [ends, hverdict, Verdict.closes]
  | close reason description => rfl
  | drop reason description => rfl
  | parseError error => rfl
  | _ => exact hsilent.elim

/-- A run that takes an active connection out of operation tells the service once, exactly
when the connection does not end silently on the way. -/
theorem disconnections_run {handler : SocketHandler} {connection last : WebSocketConnection}
    {events : List ConnectionEvent} (hactive : connection.active = true)
    (hrun : connection.run handler events = .ok last) :
    (last.active = false → last.disconnections = connection.disconnections + 1) ↔
      FallibleRun.NoStep (step handler) connection events FailsAt := by
  refine (FallibleRun.run_iff_noStep
    (fun _ state => state.active = true → state.disconnections = connection.disconnections)
    (fun _ state => state.active = false → state.disconnections = connection.disconnections + 1)
    ?_ ?_ ?_ hrun).trans (and_iff_right fun hinactive => ?_)
  · exact fun _ => rfl
  · intro _ state event next hinv hstep hstill
    rw [eq_after_of_step hstep] at hstill ⊢
    have hbefore : state.active = true ∧ state.ends event = false := by
      simpa [after_active] using hstill
    rw [disconnections_of_not (by simp [hbefore.2]), hinv hbefore.1]
  · intro _ state event next hinv hstep
    rw [eq_after_of_step hstep, after_active]
    cases hstate : state.active with
    | false =>
      -- What is inactive stays so, and nobody is told again.
      rw [disconnections_of_not (by simp [hstate])]
      simp [FailsAt, hstate]
    | true =>
      by_cases hsilent : state.EndsSilently event
      · rw [disconnections_of_not (by simp [hsilent]), hinv hstate]
        simp [FailsAt, hstate, hsilent, ends_of_endsSilently hsilent]
      · cases hends : state.ends event with
        | false => simp [FailsAt, hsilent]
        | true =>
          rw [disconnections_of_ends handler hstate hends hsilent, hinv hstate]
          simp [FailsAt, hsilent]
  · rw [hactive] at hinactive
    cases hinactive

/-- An event that completes a message. -/
def Delivers (connection : WebSocketConnection) (event : ConnectionEvent) : Prop :=
  ∃ now frame, event = .received now frame ∧ connection.Completes frame

/-- An event that completes a message when the service has been told that the connection is
gone. -/
def DeliversLate (connection : WebSocketConnection) (event : ConnectionEvent) : Prop :=
  (∃ earlier ∈ callbacks connection.log, earlier.isDisconnected = true) ∧
    connection.Delivers event

theorem received_iff (connection : WebSocketConnection) (event : ConnectionEvent) :
    (∃ enqueued, connection.callbackOf event = some enqueued ∧ enqueued.isReceived = true) ↔
      connection.Delivers event := by
  cases event with
  | received now frame =>
    have hdelivers : connection.Delivers (.received now frame) ↔
        ∃ message, connection.verdict frame = .deliver message := by
      rw [deliver_iff]
      exact ⟨fun ⟨_, _, hevent, hcompletes⟩ => by cases hevent; exact hcompletes,
        fun hcompletes => ⟨now, frame, rfl, hcompletes⟩⟩
    rw [hdelivers]
    cases hverdict : connection.verdict frame with
    | deliver message =>
      have hmessage := connection.verdict_messagesOnly frame
      rw [hverdict] at hmessage
      have hreceived : message.isReceived = true := hmessage
      simp [callbackOf, verdictCallback, hverdict, hreceived]
    | violation description =>
      simp [callbackOf, verdictCallback, hverdict, Callback.isReceived]
    | closed reason description =>
      simp [callbackOf, verdictCallback, hverdict, Callback.isReceived]
    | _ => simp [callbackOf, verdictCallback, hverdict]
  | timer now => simp [callbackOf, Delivers, Callback.isReceived]
  | processorClose => simp [callbackOf, Delivers, Callback.isReceived]
  | socketClosed => simp [callbackOf, Delivers, Callback.isReceived]
  | _ => simp [callbackOf, Delivers]

end WebSocketConnection

/-- No message comes after the service has been told that the connection is gone. -/
def MessagesFirst (enqueued : List Callback) : Prop :=
  enqueued.Pairwise fun earlier later => ¬ (earlier.isDisconnected = true ∧ later.isReceived = true)

instance (enqueued : List Callback) : Decidable (MessagesFirst enqueued) := by
  unfold MessagesFirst
  infer_instance

/-- At most one more callback keeps the rule unless it is a message that comes late. -/
theorem messagesFirst_append {enqueued : List Callback} (more : Option Callback) :
    MessagesFirst (enqueued ++ more.toList) ↔
      MessagesFirst enqueued ∧ ¬ ((∃ earlier ∈ enqueued, earlier.isDisconnected = true) ∧
        ∃ later, more = some later ∧ later.isReceived = true) := by
  cases more with
  | none => simp
  | some later => simp [MessagesFirst, List.pairwise_append]

/-- A run keeps the rule exactly when none of its events delivers late. -/
theorem WebSocketConnection.messagesFirst_run {handler : SocketHandler}
    {connection last : WebSocketConnection} {events : List ConnectionEvent}
    (hrun : connection.run handler events = .ok last) :
    MessagesFirst (callbacks last.log) ↔ MessagesFirst (callbacks connection.log) ∧
      FallibleRun.NoStep (step handler) connection events DeliversLate := by
  apply FallibleRun.run_iff_noStep (fun _ _ => True)
    (fun _ state => MessagesFirst (callbacks state.log)) trivial (fun _ _ _ _ _ _ => trivial)
    _ hrun
  intro _ state event next _ hstep
  rw [log_of_step hstep, callbacks_append, callbacks_outputs, messagesFirst_append,
    received_iff]
  rfl

end KituraWebSocket
