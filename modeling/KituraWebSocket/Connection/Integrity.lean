/-
# Messages are whole

What a connection delivers in any run, whatever the client sends and however often it breaks the
rules: `receiveAll_assembles` ends with the first failure, but frames are taken in after it
as well. `Sorts` says which frames are taken for fragments of which message, and
`messages_of_run` that the messages delivered are made of these and of nothing else.
-/

import KituraWebSocket.Connection.Assembly
import KituraWebSocket.Connection.Callbacks

namespace KituraWebSocket

/-- The opcode of the first frame of a message. -/
def MessageKind.opCode : MessageKind → FrameOpcode
  | .text => .text
  | .binary => .binary

/-- A frame that begins a message, or goes on with it. -/
def Carries (kind : MessageKind) (before : List WSFrame) (frame : WSFrame) : Prop :=
  frame.opCode = if before = [] then kind.opCode else .continuation

/-- Frames of a message of which none is the last. -/
inductive Fragments (kind : MessageKind) : List WSFrame → Prop
  | nil : Fragments kind []
  | concat {frames : List WSFrame} {frame : WSFrame} : Fragments kind frames →
      Carries kind frames frame → frame.finalFrame = false → Fragments kind (frames ++ [frame])

/-- All frames of a message. -/
structure WireMessage where
  kind : MessageKind
  fragments : List WSFrame
  last : WSFrame
  wellFormed : Fragments kind fragments
  carries : Carries kind fragments last
  final : last.finalFrame = true

namespace WireMessage

def frames (message : WireMessage) : List WSFrame := message.fragments ++ [message.last]

/-- The bytes of the message. -/
def content (message : WireMessage) : List UInt8 := message.frames.flatMap WSFrame.payload

/-- What the service is to be given. -/
def callback (message : WireMessage) : Option Callback :=
  match message.kind with
  | .binary => some (.receivedData message.content)
  | .text => (stringFromUTF8 message.content).map .receivedString

end WireMessage

/-- A frame out of place: a first frame within a message, or a continuation of nothing. -/
def Misplaced (unfinished : List WSFrame) (frame : WSFrame) : Prop :=
  (frame.opCode = .text ∨ frame.opCode = .binary) ∧ unfinished ≠ [] ∨
    frame.opCode = .continuation ∧ unfinished = []

/-- What becomes of a frame, given the frames of an unfinished message: it is no part of any
message, or it is a fragment more, or the message is whole. -/
inductive Takes (unfinished : List WSFrame) (frame : WSFrame) :
    Option WireMessage → List WSFrame → Prop
  | control : frame.opCode ∉ [.text, .binary, .continuation] →
      Takes unfinished frame none unfinished
  | misplaced : Misplaced unfinished frame → Takes unfinished frame none unfinished
  | more (kind : MessageKind) : Fragments kind (unfinished ++ [frame]) →
      Takes unfinished frame none (unfinished ++ [frame])
  | whole (message : WireMessage) : message.frames = unfinished ++ [frame] →
      Takes unfinished frame (some message) []

/-- Frames sorted into messages, with those of an unfinished one. -/
inductive Sorts : List WSFrame → List WireMessage → List WSFrame → Prop
  | nil : Sorts [] [] []
  | concat {frames unfinished next : List WSFrame} {messages : List WireMessage}
      {frame : WSFrame} {message : Option WireMessage} : Sorts frames messages unfinished →
      Takes unfinished frame message next →
      Sorts (frames ++ [frame]) (messages ++ message.toList) next

/-- No frame is part of two messages, and they keep their order. -/
theorem Sorts.sublist {frames unfinished : List WSFrame} {messages : List WireMessage}
    (hsorts : Sorts frames messages unfinished) :
    (messages.flatMap WireMessage.frames ++ unfinished).Sublist frames := by
  induction hsorts with
  | nil => exact .slnil
  | concat _ htakes ih =>
    cases htakes with
    | control _ => simpa using ih.trans (List.sublist_append_left _ _)
    | misplaced _ => simpa using ih.trans (List.sublist_append_left _ _)
    | more kind _ =>
      rw [Option.toList_none, List.append_nil, ← List.append_assoc]
      exact ih.append (List.Sublist.refl _)
    | whole message hframes =>
      rw [List.flatMap_append, Option.toList_some, List.flatMap_singleton, hframes,
        List.append_nil, ← List.append_assoc]
      exact ih.append (List.Sublist.refl _)

namespace WebSocketConnection

/-- The state of the message being assembled. -/
def assembly (connection : WebSocketConnection) : MessageStates × List UInt8 :=
  (connection.messageState, connection.message)

section Assembly

variable {handler : SocketHandler} {connection : WebSocketConnection}

@[simp]
theorem sent_assembly (opCode : FrameOpcode) (payload : Option (List UInt8)) :
    (connection.sent opCode payload).assembly = connection.assembly := by
  simp [assembly]

@[simp]
theorem sentIfActive_assembly (opCode : FrameOpcode) (payload : Option (List UInt8)) :
    (connection.sentIfActive opCode payload).assembly = connection.assembly := by
  rw [sentIfActive]
  split
  · exact connection.sent_assembly ..
  · rfl

@[simp]
theorem askedToClose_assembly :
    (connection.askedToClose handler).assembly = connection.assembly := by
  rw [askedToClose]
  split <;> rfl

@[simp]
theorem closed_assembly (reason : Option WebSocketCloseReasonCode) (description : Option String)
    (hard : Bool) :
    (connection.closed handler reason description hard).assembly = connection.assembly := by
  have hsent : { connection.sent .close (some (closePayload reason description)) with
      active := false }.assembly = connection.assembly := connection.sent_assembly ..
  cases hard with
  | false => exact hsent
  | true => exact askedToClose_assembly.trans hsent

@[simp]
theorem notified_assembly (reason : WebSocketCloseReasonCode) (description : Option String) :
    (connection.notified handler reason description).assembly = connection.assembly := by
  rw [notified]
  split
  · exact closed_assembly ..
  · exact askedToClose_assembly

theorem settled_assembly (verdict : Verdict) :
    (connection.settled handler verdict).assembly = connection.assembly := by
  cases verdict <;> simp [settled]
  rfl

/-- Only a received frame changes the message being assembled. -/
theorem after_assembly (event : ConnectionEvent) :
    (connection.after handler event).assembly = match event with
      | .received _ frame => connection.assembled frame
      | _ => connection.assembly := by
  cases event with
  | sendData message asBinary => exact connection.sentIfActive_assembly ..
  | sendString message => exact connection.sentIfActive_assembly ..
  | ping withMessage => exact connection.sentIfActive_assembly ..
  | close reason description => exact closed_assembly ..
  | drop reason description => exact closed_assembly ..
  | received now frame => exact settled_assembly _
  | parseError error => exact closed_assembly ..
  | timer now =>
    rw [after]
    cases connection.timerVerdict now with
    | rest => rfl
    | ping => exact connection.sentIfActive_assembly ..
    | expired => exact notified_assembly ..
  | processorClose =>
    rw [after]
    split <;> simp
  | socketClosed =>
    rw [after]
    split <;> simp
  | serviceChanged service => rfl
  | handlerReleased => rfl
  | processorReleased => rfl

end Assembly

/-- The message that a judgement delivers. -/
def Verdict.delivered : Verdict → Option Callback
  | .deliver message => some message
  | _ => none

theorem delivered_textVerdict (data : List UInt8) :
    (textVerdict data).delivered = (stringFromUTF8 data).map .receivedString := by
  rw [textVerdict]
  cases stringFromUTF8 data <;> rfl

theorem delivered_closeVerdict (payload : List UInt8) :
    (closeVerdict payload).delivered = none := by
  rw [closeVerdict]
  split_ifs
  · split <;> rfl
  · rfl
  · rfl

/-- Messages are delivered, and nothing else is. -/
theorem received_verdictCallback (connection : WebSocketConnection) (frame : WSFrame) :
    (connection.verdictCallback (connection.verdict frame)).toList.filter Callback.isReceived =
      (connection.verdict frame).delivered.toList := by
  have hmessage := connection.verdict_messagesOnly frame
  cases hverdict : connection.verdict frame with
  | deliver message =>
    rw [hverdict] at hmessage
    have hreceived : message.isReceived = true := hmessage
    simp [verdictCallback, Verdict.delivered, hreceived]
  | violation description =>
    cases hactive : connection.active <;>
      simp [verdictCallback, Verdict.delivered, Callback.isReceived, hactive]
  | closed reason description =>
    cases hactive : connection.active <;>
      simp [verdictCallback, Verdict.delivered, Callback.isReceived, hactive]
  | _ => rfl

/-- A connection is assembling the message of some unfinished frames. -/
def Holds (assembly : MessageStates × List UInt8) (unfinished : List WSFrame) : Prop :=
  unfinished = [] ∧ assembly.1 = .unknown ∨
    unfinished ≠ [] ∧ ∃ kind, Fragments kind unfinished ∧
      assembly = (kind.state, unfinished.flatMap WSFrame.payload)

/-- Taking a frame in: what becomes of it and of the message being assembled, and what is
delivered. -/
def TakenIn (connection : WebSocketConnection) (unfinished : List WSFrame) (frame : WSFrame) :
    Prop :=
  ∃ message next, Takes unfinished frame message next ∧
    Holds (connection.assembled frame) next ∧
    (connection.verdict frame).delivered = message.bind WireMessage.callback

section Taking

variable {connection : WebSocketConnection} {unfinished : List WSFrame} {frame : WSFrame}

theorem takenIn_control (hholds : Holds connection.assembly unfinished)
    (hcontrol : frame.opCode ∉ [.text, .binary, .continuation]) :
    connection.TakenIn unfinished frame := by
  refine ⟨none, unfinished, .control hcontrol, ?_, ?_⟩
  · cases hopCode : frame.opCode <;> simp_all [assembled, assembly]
  · cases hopCode : frame.opCode with
    | close =>
      cases hactive : connection.active with
      | true =>
        simp only [verdict, hopCode, hactive, if_true]
        exact delivered_closeVerdict _
      | false => simp [verdict, hopCode, hactive, Verdict.delivered]
    | ping =>
      simp only [verdict, hopCode]
      split_ifs <;> rfl
    | pong => simp [verdict, hopCode, Verdict.delivered]
    | unknown => simp [verdict, hopCode, Verdict.delivered]
    | _ => simp [hopCode] at hcontrol

/-- A first frame, with no message unfinished. -/
theorem takenIn_first (hstate : connection.messageState = .unknown) (kind : MessageKind)
    (hopCode : frame.opCode = kind.opCode) : connection.TakenIn [] frame := by
  cases hfinal : frame.finalFrame with
  | true =>
    refine ⟨some ⟨kind, [], frame, .nil, hopCode, hfinal⟩, [], .whole _ rfl, .inl ⟨rfl, ?_⟩, ?_⟩
    · cases kind <;> simp [assembled, hopCode, MessageKind.opCode, hstate, hfinal]
    · have hcontent : (⟨kind, [], frame, .nil, hopCode, hfinal⟩ : WireMessage).content =
          frame.payload := by simp [WireMessage.content, WireMessage.frames]
      rw [Option.bind_some, WireMessage.callback, hcontent]
      cases kind with
      | text =>
        simp only [verdict, hopCode, MessageKind.opCode, hstate, hfinal, ne_eq, not_true_eq_false,
          if_false, if_true]
        exact delivered_textVerdict _
      | binary => simp [verdict, hopCode, MessageKind.opCode, hstate, hfinal, Verdict.delivered]
  | false =>
    refine ⟨none, _, .more kind (.concat .nil hopCode hfinal), .inr ⟨by simp, kind,
      .concat .nil hopCode hfinal, ?_⟩, ?_⟩
    · cases kind <;>
        simp [assembled, hopCode, MessageKind.opCode, MessageKind.state, hstate, hfinal]
    · cases kind <;>
        simp [verdict, hopCode, MessageKind.opCode, hstate, hfinal, Verdict.delivered]

/-- A continuation of an unfinished message. -/
theorem takenIn_continuation {kind : MessageKind} (hunfinished : unfinished ≠ [])
    (hfragments : Fragments kind unfinished)
    (hassembly : connection.assembly = (kind.state, unfinished.flatMap WSFrame.payload))
    (hopCode : frame.opCode = .continuation) : connection.TakenIn unfinished frame := by
  obtain ⟨hstate, hmessage⟩ : connection.messageState = kind.state ∧
    connection.message = unfinished.flatMap WSFrame.payload := Prod.mk.inj hassembly
  have hkind : kind.state ≠ .unknown := by cases kind <;> decide
  have hcarries : Carries kind unfinished frame := by rw [Carries, if_neg hunfinished, hopCode]
  cases hfinal : frame.finalFrame with
  | true =>
    refine ⟨some ⟨kind, unfinished, frame, hfragments, hcarries, hfinal⟩, [], .whole _ rfl,
      .inl ⟨rfl, ?_⟩, ?_⟩
    · simp [assembled, hopCode, hstate, hkind, hfinal]
    · have hcontent :
          (⟨kind, unfinished, frame, hfragments, hcarries, hfinal⟩ : WireMessage).content =
            connection.message ++ frame.payload := by
        simp [WireMessage.content, WireMessage.frames, hmessage]
      rw [Option.bind_some, WireMessage.callback, hcontent]
      cases kind with
      | text =>
        simp only [verdict, hopCode, hstate, MessageKind.state, hfinal, reduceCtorEq, if_false,
          not_true_eq_false]
        exact delivered_textVerdict _
      | binary => simp [verdict, hopCode, hstate, MessageKind.state, hfinal, Verdict.delivered]
  | false =>
    refine ⟨none, _, .more kind (.concat hfragments hcarries hfinal), .inr ⟨by simp, kind,
      .concat hfragments hcarries hfinal, ?_⟩, ?_⟩
    · simp [assembled, hopCode, hstate, hkind, hfinal, hmessage]
    · simp [verdict, hopCode, hstate, hkind, hfinal, Verdict.delivered]

/-- A frame out of place. -/
theorem takenIn_misplaced (hholds : Holds connection.assembly unfinished)
    (hmisplaced : Misplaced unfinished frame) : connection.TakenIn unfinished frame := by
  have hstate : connection.messageState = .unknown ↔ unfinished = [] := by
    rcases hholds with ⟨hnone, hstate⟩ | ⟨hunfinished, kind, _, hassembly⟩
    · exact iff_of_true hstate hnone
    · refine iff_of_false ?_ hunfinished
      rw [(Prod.mk.inj hassembly).1]
      cases kind <;> decide
  refine ⟨none, unfinished, .misplaced hmisplaced, ?_, ?_⟩
  · have hsame : connection.assembled frame = connection.assembly := by
      rcases hmisplaced with ⟨hopCode | hopCode, hunfinished⟩ | ⟨hopCode, hnone⟩
      · simp [assembled, assembly, hopCode, hstate, hunfinished]
      · simp [assembled, assembly, hopCode, hstate, hunfinished]
      · simp [assembled, assembly, hopCode, hstate, hnone]
    rwa [hsame]
  · rcases hmisplaced with ⟨hopCode | hopCode, hunfinished⟩ | ⟨hopCode, hnone⟩
    · simp [verdict, hopCode, hstate, hunfinished, Verdict.delivered]
    · simp [verdict, hopCode, hstate, hunfinished, Verdict.delivered]
    · simp [verdict, hopCode, hstate, hnone, Verdict.delivered]

theorem takenIn (hholds : Holds connection.assembly unfinished) (frame : WSFrame) :
    connection.TakenIn unfinished frame := by
  by_cases hcontrol : frame.opCode ∈ [.text, .binary, .continuation]
  · have hdata : frame.opCode = .text ∨ frame.opCode = .binary ∨ frame.opCode = .continuation := by
      simpa using hcontrol
    rcases id hholds with ⟨rfl, hstate⟩ | ⟨hunfinished, kind, hfragments, hassembly⟩
    · rcases hdata with htext | hbinary | hcontinuation
      · exact takenIn_first hstate .text htext
      · exact takenIn_first hstate .binary hbinary
      · exact takenIn_misplaced hholds (.inr ⟨hcontinuation, rfl⟩)
    · rcases hdata with htext | hbinary | hcontinuation
      · exact takenIn_misplaced hholds (.inl ⟨.inl htext, hunfinished⟩)
      · exact takenIn_misplaced hholds (.inl ⟨.inr hbinary, hunfinished⟩)
      · exact takenIn_continuation hunfinished hfragments hassembly hcontinuation
  · exact takenIn_control hholds hcontrol

end Taking

/-- The frame of an event. -/
def receivedFrame : ConnectionEvent → Option WSFrame
  | .received _ frame => some frame
  | _ => none

/-- No other event delivers a message, or changes the one being assembled. -/
theorem quiet_of_other (connection : WebSocketConnection) (handler : SocketHandler)
    {event : ConnectionEvent} (hother : receivedFrame event = none) :
    (connection.after handler event).assembly = connection.assembly ∧
      (connection.callbackOf event).toList.filter Callback.isReceived = [] := by
  constructor
  · rw [after_assembly]
    cases event with
    | received now frame => cases hother
    | _ => rfl
  · rw [List.filter_eq_nil_iff]
    intro enqueued henqueued hreceived
    obtain ⟨now, frame, rfl, _⟩ := (connection.received_iff event).mp
      ⟨enqueued, Option.mem_toList.mp henqueued, hreceived⟩
    cases hother

/-- A connection has delivered the messages that the frames are sorted into. -/
structure Whole (frames : List WSFrame) (connection : WebSocketConnection) : Prop where
  sorted : ∃ messages unfinished, Sorts frames messages unfinished ∧
    Holds connection.assembly unfinished ∧
    (callbacks connection.log).filter Callback.isReceived =
      messages.filterMap WireMessage.callback

theorem Whole.step {handler : SocketHandler} {frames : List WSFrame}
    {connection next : WebSocketConnection} {event : ConnectionEvent}
    (hwhole : connection.Whole frames) (hstep : step handler connection event = .ok next) :
    next.Whole (frames ++ (receivedFrame event).toList) := by
  obtain ⟨messages, unfinished, hsorts, hholds, hdelivered⟩ := hwhole
  obtain rfl := eq_after_of_step hstep
  have hlog : (callbacks (connection.after handler event).log).filter Callback.isReceived =
      messages.filterMap WireMessage.callback ++
        (connection.callbackOf event).toList.filter Callback.isReceived := by
    rw [after_log, callbacks_append, callbacks_outputs, List.filter_append, hdelivered]
  cases hframe : receivedFrame event with
  | none =>
    obtain ⟨hassembly, hnone⟩ := connection.quiet_of_other handler hframe
    rw [hnone, List.append_nil] at hlog
    rw [Option.toList_none, List.append_nil]
    exact ⟨messages, unfinished, hsorts, by rwa [hassembly], hlog⟩
  | some frame =>
    obtain ⟨now, rfl⟩ : ∃ now, event = .received now frame := by
      cases event with
      | received now other =>
        cases hframe
        exact ⟨now, rfl⟩
      | _ => cases hframe
    obtain ⟨message, unfinished', htakes, hholds', hmessage⟩ := takenIn hholds frame
    refine ⟨messages ++ message.toList, unfinished', hsorts.concat htakes, ?_, ?_⟩
    · rwa [after_assembly]
    · rw [hlog, callbackOf, received_verdictCallback, hmessage, List.filterMap_append]
      cases message with
      | none => rfl
      | some message => cases hcallback : message.callback <;> simp [hcallback]

/-- In any run, whatever is received and whatever else happens, the frames received are sorted into
messages: each is a first frame and its continuations up to a final one, no frame is part of two of
them, they keep their order, and left out are control frames and frames out of place only. The
messages delivered are these, each once and in order, as far as they are binary or text in UTF-8. -/
theorem messages_of_run (handler : SocketHandler) (service : Option WebSocketService) (start : ℚ)
    (events : List ConnectionEvent) (last : WebSocketConnection)
    (hrun : (opened service start).run handler events = .ok last) :
    ∃ messages unfinished, Sorts (events.filterMap receivedFrame) messages unfinished ∧
      (messages.flatMap WireMessage.frames ++ unfinished).Sublist
        (events.filterMap receivedFrame) ∧
      (callbacks last.log).filter Callback.isReceived =
        messages.filterMap WireMessage.callback := by
  have hwhole : last.Whole (events.filterMap receivedFrame) := by
    refine FallibleRun.run_history_invariant
      (fun before state => state.Whole (before.filterMap receivedFrame)) ?_ ?_ hrun
    · exact ⟨[], [], .nil, .inl ⟨rfl, by cases service <;> rfl⟩, by cases service <;> rfl⟩
    · intro before state event next hstate hstep
      rw [FallibleRun.filterMap_concat]
      exact hstate.step hstep
  obtain ⟨messages, unfinished, hsorts, _, hdelivered⟩ := hwhole
  exact ⟨messages, unfinished, hsorts, hsorts.sublist, hdelivered⟩

/-- A message in two fragments, with one of another in between. -/
def broken : List ConnectionEvent :=
  [.received 0 ⟨false, .text, [104]⟩, .received 0 ⟨true, .binary, [1]⟩,
    .received 0 ⟨true, .continuation, [105]⟩]

/-- The binary message is out of place and closes the connection. The text is delivered after
that. -/
theorem messages_of_run_broken :
    ∃ last, (opened (some ⟨none⟩) 0).run ⟨fun _ => false⟩ broken = .ok last ∧
      callbacks last.log =
        [.connected, .disconnected .protocolError, .receivedString "hi"] ∧
      ∃ messages unfinished, Sorts (broken.filterMap receivedFrame) messages unfinished ∧
        (messages.flatMap WireMessage.frames ++ unfinished).Sublist
          (broken.filterMap receivedFrame) ∧
        (callbacks last.log).filter Callback.isReceived =
          messages.filterMap WireMessage.callback := by
  have hcallbacks : ((opened (some ⟨none⟩) 0).run ⟨fun _ => false⟩ broken).map
      (fun last => callbacks last.log) =
        .ok [.connected, .disconnected .protocolError, .receivedString "hi"] := by decide +kernel
  obtain ⟨last, hrun, hlast⟩ := map_eq_ok.mp hcallbacks
  exact ⟨last, hrun, hlast, messages_of_run ⟨fun _ => false⟩ (some ⟨none⟩) 0 broken last hrun⟩

end WebSocketConnection

end KituraWebSocket
