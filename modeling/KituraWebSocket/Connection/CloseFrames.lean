/-
# Frames after the close frame

A close frame should be the last frame a connection hands to its handler. The
service's `send` and `ping` test `active` and keep to that. The other writers do
not: `closeIsLast_iff` lists the steps that hand over a frame although a close
frame has gone out, and shows that a run keeps to the rule exactly when it takes
none of them.
-/

import KituraWebSocket.Connection.Runs

namespace KituraWebSocket

/-- The frame of an output. -/
def Output.sentFrame : Output → Option SentFrame
  | .frame sent => some sent
  | .prepareToClose | .callback _ => none

/-- The frames handed to the socket handler, in order. -/
def handed (log : List Output) : List SentFrame := log.filterMap Output.sentFrame

/-- There is no frame after a close frame, so there is at most one of them. -/
def CloseIsLast (frames : List SentFrame) : Prop :=
  frames.Pairwise fun earlier _ => earlier.opCode ≠ .close

instance (frames : List SentFrame) : Decidable (CloseIsLast frames) := by
  unfold CloseIsLast
  infer_instance

@[simp]
theorem handed_nil : handed [] = [] := rfl

@[simp]
theorem handed_append (first second : List Output) :
    handed (first ++ second) = handed first ++ handed second :=
  List.filterMap_append

/-- At most one more frame keeps the rule unless a close frame has gone out. -/
theorem closeIsLast_append {frames : List SentFrame} (more : Option SentFrame) :
    CloseIsLast (frames ++ more.toList) ↔
      CloseIsLast frames ∧ ¬ ((∃ sent ∈ frames, sent.opCode = .close) ∧ more.isSome) := by
  cases more with
  | none => simp
  | some sent => simp [CloseIsLast, List.pairwise_append]

namespace WebSocketConnection

/-- A close frame has been handed over. -/
def CloseSent (connection : WebSocketConnection) : Prop :=
  ∃ sent ∈ handed connection.log, sent.opCode = .close

/-- The close frame for a reason. -/
def closeFrame (reason : WebSocketCloseReasonCode) (description : Option String) : SentFrame :=
  SentFrame.of .close (some (closePayload (some reason) description))

/-- The frame that a judgement asks for. -/
def verdictFrame (connection : WebSocketConnection) : Verdict → Option SentFrame
  | .nothing | .deliver _ => none
  | .pong payload => some (SentFrame.of .pong (some payload))
  | .violation description =>
    if connection.active then some (closeFrame .protocolError (some description)) else none
  | .invalidData description => some (closeFrame .invalidDataContents (some description))
  | .closed reason description =>
    if connection.active then some (closeFrame reason description) else none

/-- The frame that an event asks for. There is at most one. -/
def frameOf (connection : WebSocketConnection) : ConnectionEvent → Option SentFrame
  | .sendData message asBinary =>
    if connection.active then
      some (SentFrame.of (if asBinary then .binary else .text) (some message))
    else none
  | .sendString message =>
    if connection.active then some (SentFrame.of .text (some (utf8Bytes message))) else none
  | .ping withMessage =>
    if connection.active then some (SentFrame.of .ping (withMessage.map utf8Bytes)) else none
  | .close reason description | .drop reason description =>
    some (SentFrame.of .close (some (closePayload reason description)))
  | .received _ frame => connection.verdictFrame (connection.verdict frame)
  | .parseError error => some (closeFrame .protocolError (some error.description))
  | .timer now =>
    match connection.timerVerdict now with
    | .rest => none
    | .ping => if connection.active then some (SentFrame.of .ping none) else none
    | .expired => if connection.active then some (closeFrame .closedAbnormally none) else none
  | .processorClose =>
    if connection.active then some (closeFrame .closedAbnormally none) else none
  | .socketClosed =>
    if connection.active then some (closeFrame .noReasonCodeSent none) else none
  | .serviceChanged _ | .handlerReleased | .processorReleased => none

/-- A frame that a judgement asks for. -/
inductive Verdict.Asks (connection : WebSocketConnection) : Verdict → SentFrame → Prop
  | pong (payload : List UInt8) : Asks connection (.pong payload) (SentFrame.of .pong (some payload))
  | violation (description : String) (active : connection.active = true) :
      Asks connection (.violation description) (closeFrame .protocolError (some description))
  | invalidData (description : String) :
      Asks connection (.invalidData description) (closeFrame .invalidDataContents (some description))
  | closed (reason : WebSocketCloseReasonCode) (description : Option String)
      (active : connection.active = true) :
      Asks connection (.closed reason description) (closeFrame reason description)

theorem verdictFrame_cases {connection : WebSocketConnection} {verdict : Verdict}
    {sent : SentFrame} (hframe : connection.verdictFrame verdict = some sent) :
    verdict.Asks connection sent := by
  cases verdict with
  | nothing => cases hframe
  | deliver message => cases hframe
  | pong payload =>
    cases hframe
    exact .pong payload
  | violation description =>
    obtain ⟨hactive, hsent⟩ := Option.ite_none_right_eq_some.mp hframe
    cases hsent
    exact .violation description hactive
  | invalidData description =>
    cases hframe
    exact .invalidData description
  | closed reason description =>
    obtain ⟨hactive, hsent⟩ := Option.ite_none_right_eq_some.mp hframe
    cases hsent
    exact .closed reason description hactive

/-- A frame that an event asks for. -/
inductive Asks (connection : WebSocketConnection) : ConnectionEvent → SentFrame → Prop
  | sendData (message : List UInt8) (asBinary : Bool) (active : connection.active = true) :
      Asks connection (.sendData message asBinary)
        (SentFrame.of (if asBinary then .binary else .text) (some message))
  | sendString (message : String) (active : connection.active = true) :
      Asks connection (.sendString message) (SentFrame.of .text (some (utf8Bytes message)))
  | ping (withMessage : Option String) (active : connection.active = true) :
      Asks connection (.ping withMessage) (SentFrame.of .ping (withMessage.map utf8Bytes))
  | close (reason : Option WebSocketCloseReasonCode) (description : Option String) :
      Asks connection (.close reason description)
        (SentFrame.of .close (some (closePayload reason description)))
  | drop (reason : Option WebSocketCloseReasonCode) (description : Option String) :
      Asks connection (.drop reason description)
        (SentFrame.of .close (some (closePayload reason description)))
  | received (now : ℚ) (frame : WSFrame) (sent : SentFrame)
      (judged : (connection.verdict frame).Asks connection sent) :
      Asks connection (.received now frame) sent
  | parseError (error : WebSocketError) :
      Asks connection (.parseError error) (closeFrame .protocolError (some error.description))
  | pinged (now : ℚ) (due : connection.timerVerdict now = .ping)
      (active : connection.active = true) :
      Asks connection (.timer now) (SentFrame.of .ping none)
  | expired (now : ℚ) (due : connection.timerVerdict now = .expired)
      (active : connection.active = true) :
      Asks connection (.timer now) (closeFrame .closedAbnormally none)
  | processorClose (active : connection.active = true) :
      Asks connection .processorClose (closeFrame .closedAbnormally none)
  | socketClosed (active : connection.active = true) :
      Asks connection .socketClosed (closeFrame .noReasonCodeSent none)

theorem frameOf_cases {connection : WebSocketConnection} {event : ConnectionEvent}
    {sent : SentFrame} (hframe : connection.frameOf event = some sent) :
    connection.Asks event sent := by
  cases event with
  | sendData message asBinary =>
    obtain ⟨hactive, hsent⟩ := Option.ite_none_right_eq_some.mp hframe
    cases hsent
    exact .sendData message asBinary hactive
  | sendString message =>
    obtain ⟨hactive, hsent⟩ := Option.ite_none_right_eq_some.mp hframe
    cases hsent
    exact .sendString message hactive
  | ping withMessage =>
    obtain ⟨hactive, hsent⟩ := Option.ite_none_right_eq_some.mp hframe
    cases hsent
    exact .ping withMessage hactive
  | close reason description =>
    cases hframe
    exact .close reason description
  | drop reason description =>
    cases hframe
    exact .drop reason description
  | received now frame => exact .received now frame sent (verdictFrame_cases hframe)
  | parseError error =>
    cases hframe
    exact .parseError error
  | timer now =>
    rw [frameOf] at hframe
    cases hdue : connection.timerVerdict now with
    | rest => simp [hdue] at hframe
    | ping =>
      rw [hdue] at hframe
      obtain ⟨hactive, hsent⟩ := Option.ite_none_right_eq_some.mp hframe
      cases hsent
      exact .pinged now hdue hactive
    | expired =>
      rw [hdue] at hframe
      obtain ⟨hactive, hsent⟩ := Option.ite_none_right_eq_some.mp hframe
      cases hsent
      exact .expired now hdue hactive
  | processorClose =>
    obtain ⟨hactive, hsent⟩ := Option.ite_none_right_eq_some.mp hframe
    cases hsent
    exact .processorClose hactive
  | socketClosed =>
    obtain ⟨hactive, hsent⟩ := Option.ite_none_right_eq_some.mp hframe
    cases hsent
    exact .socketClosed hactive
  | serviceChanged service => cases hframe
  | handlerReleased => cases hframe
  | processorReleased => cases hframe

section Handed

variable (handler : SocketHandler) (connection : WebSocketConnection)

/-- A frame reaches the handler through a live processor. -/
def reaching (frame : Option SentFrame) : Option SentFrame :=
  if connection.processorAlive ∧ connection.handlerAttached then frame else none

theorem handed_framed (opCode : FrameOpcode) (payload : Option (List UInt8)) :
    handed (connection.framed opCode payload) =
      (connection.reaching (some (SentFrame.of opCode payload))).toList := by
  rw [framed, reaching]
  split <;> rfl

@[simp]
theorem handed_closeRequest : handed connection.closeRequest = [] := by
  rw [closeRequest]
  split <;> rfl

theorem handed_closedOutputs (reason : Option WebSocketCloseReasonCode)
    (description : Option String) (hard : Bool) :
    handed (connection.closedOutputs reason description hard) =
      (connection.reaching
        (some (SentFrame.of .close (some (closePayload reason description))))).toList := by
  rw [closedOutputs, handed_append, handed_framed]
  cases hard <;> simp

theorem reaching_eq_some {connection : WebSocketConnection} {frame : Option SentFrame}
    {sent : SentFrame} : connection.reaching frame = some sent ↔
      connection.processorAlive = true ∧ connection.handlerAttached = true ∧ frame = some sent := by
  rw [reaching]
  split
  · rename_i h
    simp [h]
  · rename_i h
    simp only [reduceCtorEq, false_iff]
    exact fun h' => h ⟨h'.1, h'.2.1⟩

@[simp]
theorem reaching_none : connection.reaching none = none := by
  rw [reaching]
  split <;> rfl

theorem handed_notifiedOutputs (reason : WebSocketCloseReasonCode)
    (description : Option String) :
    handed (connection.notifiedOutputs reason description) =
      (connection.reaching
        (if connection.active then some (closeFrame reason description) else none)).toList := by
  rw [notifiedOutputs]
  split
  · rw [handed_append, handed_closedOutputs]
    exact List.append_nil _
  · simp

theorem handed_settledOutputs (verdict : Verdict) :
    handed (connection.settledOutputs verdict) =
      (connection.reaching (connection.verdictFrame verdict)).toList := by
  cases verdict with
  | nothing => rw [verdictFrame, reaching_none]; rfl
  | deliver message => rw [verdictFrame, reaching_none]; rfl
  | pong payload => exact connection.handed_framed _ _
  | violation description => exact connection.handed_notifiedOutputs _ _
  | invalidData description => exact connection.handed_closedOutputs _ _ _
  | closed reason description => exact connection.handed_notifiedOutputs _ _

/-- An event hands over the frame it asks for, if it reaches the handler, and no other. -/
theorem handed_outputs (event : ConnectionEvent) :
    handed (connection.outputs handler event) =
      (connection.reaching (connection.frameOf event)).toList := by
  have hifActive (opCode : FrameOpcode) (payload : Option (List UInt8)) :
      handed (connection.framedIfActive opCode payload) =
        (connection.reaching (if connection.active then some (SentFrame.of opCode payload)
          else none)).toList := by
    rw [framedIfActive]
    split
    · exact connection.handed_framed opCode payload
    · rw [reaching_none]
      rfl
  cases event with
  | sendData message asBinary => exact hifActive _ _
  | sendString message => exact hifActive _ _
  | ping withMessage => exact hifActive _ _
  | close reason description => exact connection.handed_closedOutputs _ _ _
  | drop reason description => exact connection.handed_closedOutputs _ _ _
  | received now frame => exact connection.handed_settledOutputs _
  | parseError error => exact connection.handed_closedOutputs _ _ _
  | timer now =>
    rw [outputs, frameOf]
    cases connection.timerVerdict now with
    | rest => rw [reaching_none]; rfl
    | ping => exact hifActive _ _
    | expired => exact connection.handed_notifiedOutputs _ _
  | processorClose =>
    cases hactive : connection.active with
    | false => simp [outputs, frameOf, hactive]
    | true =>
      cases halive : connection.processorAlive with
      | false => simp [outputs, reaching, halive]
      | true => simp [outputs, frameOf, halive, hactive, handed_notifiedOutputs]
  | socketClosed =>
    cases halive : connection.processorAlive with
    | false => simp [outputs, reaching, halive]
    | true => simpa [outputs, frameOf, halive] using connection.handed_notifiedOutputs _ _
  | serviceChanged service => rw [frameOf, reaching_none]; rfl
  | handlerReleased => rw [frameOf, reaching_none]; rfl
  | processorReleased => rw [frameOf, reaching_none]; rfl

end Handed

/-- The events that hand over a frame whether or not the connection is active. -/
def WritesInactive (connection : WebSocketConnection) : ConnectionEvent → Prop
  | .close _ _ | .drop _ _ | .parseError _ => True
  | .received _ frame => LegalPing frame ∨ connection.NotUTF8 frame
  | _ => False

/-- A step that writes after the close frame: the connection is inactive and its handler in
place. -/
def WritesAfterClose (connection : WebSocketConnection) (event : ConnectionEvent) : Prop :=
  connection.active = false ∧ connection.processorAlive = true ∧
    connection.handlerAttached = true ∧ connection.WritesInactive event

theorem frameOf_inactive {connection : WebSocketConnection} (hactive : connection.active = false)
    (event : ConnectionEvent) :
    (connection.frameOf event).isSome ↔ connection.WritesInactive event := by
  cases event with
  | received now frame =>
    rw [WritesInactive, ← pong_iff connection, ← invalidData_iff]
    cases hverdict : connection.verdict frame <;>
      simp [frameOf, verdictFrame, hverdict, hactive]
  | timer now =>
    cases hverdict : connection.timerVerdict now <;>
      simp [frameOf, WritesInactive, hverdict, hactive]
  | _ => simp [frameOf, WritesInactive, hactive]

/-- Handing over a close frame ends the connection. -/
theorem ends_of_close {connection : WebSocketConnection} {event : ConnectionEvent}
    {sent : SentFrame} (hframe : connection.reaching (connection.frameOf event) = some sent)
    (hclose : sent.opCode = .close) : connection.ends event = true := by
  obtain ⟨halive, _, hframe⟩ := reaching_eq_some.mp hframe
  cases frameOf_cases hframe with
  | sendData message asBinary active => cases asBinary <;> cases hclose
  | sendString message active => cases hclose
  | ping withMessage active => cases hclose
  | close reason description => rfl
  | drop reason description => rfl
  | received now frame sent judged =>
    rw [ends]
    generalize connection.verdict frame = verdict at judged ⊢
    cases judged with
    | pong payload => cases hclose
    | violation description active => rfl
    | invalidData description => rfl
    | closed reason description active => rfl
  | parseError error => rfl
  | pinged now due active => cases hclose
  | expired now due active => simp [ends, due]
  | processorClose active => exact halive
  | socketClosed active => exact halive

/-- A step that ends an active connection whose handler can be reached hands over a close
frame. -/
theorem frameOf_of_ends {connection : WebSocketConnection} (hactive : connection.active = true)
    {event : ConnectionEvent} (hends : connection.ends event = true) :
    ∃ sent, connection.frameOf event = some sent ∧ sent.opCode = .close := by
  cases event with
  | sendData message asBinary => cases hends
  | sendString message => cases hends
  | ping withMessage => cases hends
  | close reason description => exact ⟨_, rfl, rfl⟩
  | drop reason description => exact ⟨_, rfl, rfl⟩
  | received now frame =>
    rw [ends] at hends
    rw [frameOf]
    cases hverdict : connection.verdict frame with
    | nothing => simp [hverdict, Verdict.closes] at hends
    | deliver message => simp [hverdict, Verdict.closes] at hends
    | pong payload => simp [hverdict, Verdict.closes] at hends
    | violation description => exact ⟨_, if_pos hactive, rfl⟩
    | invalidData description => exact ⟨_, rfl, rfl⟩
    | closed reason description => exact ⟨_, if_pos hactive, rfl⟩
  | parseError error => exact ⟨_, rfl, rfl⟩
  | timer now =>
    rw [frameOf]
    cases hverdict : connection.timerVerdict now with
    | rest => simp [ends, hverdict] at hends
    | ping => simp [ends, hverdict] at hends
    | expired => exact ⟨_, if_pos hactive, rfl⟩
  | processorClose => exact ⟨_, if_pos hactive, rfl⟩
  | socketClosed => exact ⟨_, if_pos hactive, rfl⟩
  | serviceChanged service => cases hends
  | handlerReleased => cases hends
  | processorReleased => cases hends

/-- A close frame that has been handed over stays in the log. -/
theorem CloseSent.after {handler : SocketHandler} {connection : WebSocketConnection}
    (h : connection.CloseSent) (event : ConnectionEvent) :
    (connection.after handler event).CloseSent := by
  obtain ⟨sent, hmem, hclose⟩ := h
  refine ⟨sent, ?_, hclose⟩
  rw [after_log, handed_append]
  exact List.mem_append_left _ hmem

/-- As long as its handler can be reached, a connection is inactive exactly if a close frame has
been handed over. -/
structure EndsByFrame (connection : WebSocketConnection) : Prop where
  inactive : connection.CloseSent → connection.active = false
  closeSent : connection.active = false → connection.processorAlive = true →
    connection.handlerAttached = true → connection.CloseSent

theorem EndsByFrame.after {handler : SocketHandler} {connection : WebSocketConnection}
    (hends : connection.EndsByFrame) (event : ConnectionEvent) :
    (connection.after handler event).EndsByFrame := by
  constructor
  · rintro ⟨sent, hmem, hclose⟩
    rw [after_log, handed_append, handed_outputs, List.mem_append] at hmem
    rw [after_active]
    rcases hmem with hearlier | hnow
    · simp [hends.inactive ⟨sent, hearlier, hclose⟩]
    · rw [ends_of_close (Option.mem_toList.mp hnow) hclose]
      simp
  · intro hinactive halive hattached
    have halive := alive_of_after halive
    have hattached := attached_of_after hattached
    cases hactive : connection.active with
    | false => exact (hends.closeSent hactive halive hattached).after event
    | true =>
      rw [after_active, hactive] at hinactive
      obtain ⟨sent, hframe, hclose⟩ := frameOf_of_ends hactive (by simpa using hinactive)
      refine ⟨sent, ?_, hclose⟩
      rw [after_log, handed_append, handed_outputs, hframe, reaching, if_pos ⟨halive, hattached⟩]
      simp

theorem endsByFrame_opened (service : Option WebSocketService) (start : ℚ) :
    (opened service start).EndsByFrame := by
  have hnothing : handed (opened service start).log = [] := by cases service <;> rfl
  have hactive : (opened service start).active = true := by cases service <;> rfl
  constructor
  · rintro ⟨sent, hmem, _⟩
    rw [hnothing] at hmem
    cases hmem
  · intro hinactive
    rw [hactive] at hinactive
    cases hinactive

/-- A close frame is the last frame of a run exactly when no step of the run is one of these: with
the connection inactive and the processor and handler in place, the service calls `close` or
`drop`, the parser reports an error, a legal ping arrives, or a text arrives that is not UTF-8. -/
theorem closeIsLast_iff (handler : SocketHandler) (service : Option WebSocketService) (start : ℚ)
    (events : List ConnectionEvent) (last : WebSocketConnection)
    (hrun : run handler (opened service start) events = .ok last) :
    CloseIsLast (handed last.log) ↔
      FallibleRun.NoStep (step handler) (opened service start) events WritesAfterClose := by
  have hinit : handed (opened service start).log = [] := by cases service <;> rfl
  have hstart : CloseIsLast (handed (opened service start).log) := by simp [hinit, CloseIsLast]
  refine (FallibleRun.run_iff_noStep (fun _ connection => connection.EndsByFrame)
    (fun _ connection => CloseIsLast (handed connection.log))
    (endsByFrame_opened service start) ?_ ?_ hrun).trans (and_iff_right hstart)
  · intro _ connection event next hends hreturns
    rw [eq_after_of_step hreturns]
    exact hends.after event
  · intro _ connection event next hends hreturns
    rw [log_of_step hreturns, handed_append, handed_outputs, closeIsLast_append]
    refine and_congr_right fun _ => not_congr ?_
    constructor
    · rintro ⟨hsent, hframe⟩
      have hinactive := hends.inactive hsent
      obtain ⟨sent, hreaching⟩ := Option.isSome_iff_exists.mp hframe
      obtain ⟨halive, hattached, hframe⟩ := reaching_eq_some.mp hreaching
      exact ⟨hinactive, halive, hattached, (frameOf_inactive hinactive event).mp (by simp [hframe])⟩
    · rintro ⟨hinactive, halive, hattached, hwrites⟩
      refine ⟨hends.closeSent hinactive halive hattached, ?_⟩
      rw [reaching, if_pos ⟨halive, hattached⟩]
      exact (frameOf_inactive hinactive event).mpr hwrites

/-- One `drop`, in a run that keeps to the rule. -/
theorem closeIsLast_iff_drop :
    CloseIsLast (handed ((opened (some ⟨none⟩) 0).after ⟨fun _ => false⟩ (.drop none none)).log) ↔
      FallibleRun.NoStep (step ⟨fun _ => false⟩) (opened (some ⟨none⟩) 0) [.drop none none]
        WritesAfterClose :=
  closeIsLast_iff ⟨fun _ => false⟩ (some ⟨none⟩) 0 [.drop none none] _ (by decide +kernel)

/-- A ping from the client after the service has closed is answered behind the close
frame. -/
theorem not_closeIsLast_ping :
    ∃ last, run ⟨fun _ => false⟩ (opened (some ⟨none⟩) 0)
        [.close none none, .received 0 ⟨true, .ping, []⟩] = .ok last ∧
      ¬ CloseIsLast (handed last.log) :=
  ⟨((opened (some ⟨none⟩) 0).after ⟨fun _ => false⟩ (.close none none)).after
    ⟨fun _ => false⟩ (.received 0 ⟨true, .ping, []⟩), by decide +kernel, by decide +kernel⟩

end WebSocketConnection

end KituraWebSocket
