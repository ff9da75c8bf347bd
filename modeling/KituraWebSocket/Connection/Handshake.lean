/-
# The end of the close handshake

When both sides have sent a close frame the socket should be closed: the handler
should have been asked to prepare to close. A client that closes first is answered
by a hard close, which asks. A server that closes first with a soft close does not
ask, and the client's answer is dropped because the connection is inactive:
`handshakeEnds_iff` says that this, with nothing closing the processor in between, is
the only way in which the handshake is left hanging.
-/

import KituraWebSocket.Connection.CloseFrames

namespace KituraWebSocket

namespace WebSocketConnection

/-- A close frame of the client has been processed. -/
def ClientClosed (events : List ConnectionEvent) : Prop :=
  ∃ now frame, .received now frame ∈ events ∧ frame.opCode = .close

/-- If both sides have closed, the handler, if it is still there, has been asked to
prepare to close. -/
def HandshakeEnds (events : List ConnectionEvent) (connection : WebSocketConnection) : Prop :=
  connection.processorAlive = true → connection.handlerAttached = true →
    connection.CloseSent → ClientClosed events → .prepareToClose ∈ connection.log

/-- A frame that may not come where it comes, or a ping that is too long or not final. -/
def OutOfPlace (connection : WebSocketConnection) (frame : WSFrame) : Prop :=
  match frame.opCode with
  | .text | .binary => connection.messageState ≠ .unknown
  | .continuation => connection.messageState = .unknown
  | .ping => ¬ LegalPing frame
  | .close | .pong | .unknown => False

/-- The events that close the processor too, whether or not the connection is active. -/
def ClosesProcessor (connection : WebSocketConnection) : ConnectionEvent → Prop
  | .drop _ _ | .processorClose | .socketClosed => True
  | .received _ frame => connection.OutOfPlace frame ∨ connection.NotUTF8 frame ∨
      frame.opCode = .close ∧ connection.active = true
  | .timer now => connection.timerVerdict now = .expired
  | _ => False

/-- The client's close is dropped in a run: it comes when the connection is inactive, its handler
in place, and nothing before it in the run has closed the processor. -/
def DropsClose (handler : SocketHandler) (start : WebSocketConnection)
    (events : List ConnectionEvent) : Prop :=
  ∃ before now frame after connection,
    events = before ++ .received now frame :: after ∧ frame.opCode = .close ∧
    run handler start before = .ok connection ∧ connection.active = false ∧
    connection.processorAlive = true ∧ connection.handlerAttached = true ∧
    FallibleRun.NoStep (step handler) start before ClosesProcessor

theorem clientClosed_concat {events : List ConnectionEvent} {event : ConnectionEvent} :
    ClientClosed (events ++ [event]) ↔
      ClientClosed events ∨ ∃ now frame, event = .received now frame ∧ frame.opCode = .close := by
  constructor
  · rintro ⟨now, frame, hmem, hopCode⟩
    rcases List.mem_append.mp hmem with hearlier | hnow
    · exact .inl ⟨now, frame, hearlier, hopCode⟩
    · exact .inr ⟨now, frame, (List.mem_singleton.mp hnow).symm, hopCode⟩
  · rintro (⟨now, frame, hmem, hopCode⟩ | ⟨now, frame, rfl, hopCode⟩)
    · exact ⟨now, frame, List.mem_append_left _ hmem, hopCode⟩
    · exact ⟨now, frame, by simp, hopCode⟩

/-- What the handshake rests on. The client's close has made the connection inactive. -/
structure HandshakeInvariant (events : List ConnectionEvent) (connection : WebSocketConnection) :
    Prop extends EndsByFrame connection where
  closed : ClientClosed events → connection.active = false

theorem HandshakeInvariant.after {handler : SocketHandler} {events : List ConnectionEvent}
    {connection : WebSocketConnection} (hinv : HandshakeInvariant events connection)
    (event : ConnectionEvent) :
    HandshakeInvariant (events ++ [event]) (connection.after handler event) := by
  refine ⟨hinv.toEndsByFrame.after event, fun hclosed => ?_⟩
  rw [after_active]
  rcases clientClosed_concat.mp hclosed with hearlier | ⟨now, frame, rfl, hopCode⟩
  · simp [hinv.closed hearlier]
  · cases hactive : connection.active with
    | false => rfl
    | true => simp [ends, verdict, hopCode, hactive, closeVerdict_closes]

/-- The judgements that close are made of these frames. -/
theorem closes_iff (connection : WebSocketConnection) (frame : WSFrame) :
    (connection.verdict frame).closes = true ↔
      connection.OutOfPlace frame ∨ connection.NotUTF8 frame ∨
        frame.opCode = .close ∧ connection.active = true := by
  rw [← invalidData_iff]
  obtain ⟨finalFrame, opCode, payload⟩ := frame
  cases opCode with
  | text =>
    cases hstate : connection.messageState <;> cases finalFrame <;>
      cases htext : stringFromUTF8 payload <;>
      simp [verdict, OutOfPlace, Verdict.closes, textVerdict, hstate, htext]
  | continuation =>
    cases hstate : connection.messageState <;> cases finalFrame <;>
      cases htext : stringFromUTF8 (connection.message ++ payload) <;>
      simp [verdict, OutOfPlace, Verdict.closes, textVerdict, hstate, htext]
  | binary =>
    cases hstate : connection.messageState <;> cases finalFrame <;>
      simp [verdict, OutOfPlace, Verdict.closes, hstate]
  | close =>
    cases hactive : connection.active <;>
      simp [verdict, OutOfPlace, Verdict.closes, hactive]
    exact closeVerdict_closes payload
  | ping =>
    by_cases hlength : payload.length < 126 <;> cases finalFrame <;>
      simp [verdict, OutOfPlace, LegalPing, Verdict.closes, hlength]
  | pong => simp [verdict, OutOfPlace, Verdict.closes]
  | unknown => simp [verdict, OutOfPlace, Verdict.closes]

section Asking

variable {handler : SocketHandler} {connection : WebSocketConnection}

theorem mem_closeRequest_iff :
    .prepareToClose ∈ connection.closeRequest ↔
      connection.processorAlive = true ∧ connection.handlerAttached = true := by
  rw [closeRequest]
  split <;> simp_all

theorem notMem_framed (opCode : FrameOpcode) (payload : Option (List UInt8)) :
    .prepareToClose ∉ connection.framed opCode payload := by
  rw [framed]
  split <;> simp

theorem mem_closedOutputs_iff {reason : Option WebSocketCloseReasonCode}
    {description : Option String} {hard : Bool} :
    .prepareToClose ∈ connection.closedOutputs reason description hard ↔
      hard = true ∧ connection.processorAlive = true ∧ connection.handlerAttached = true := by
  cases hard <;> simp [closedOutputs, notMem_framed, mem_closeRequest_iff]

theorem mem_notifiedOutputs_iff {reason : WebSocketCloseReasonCode}
    {description : Option String} :
    .prepareToClose ∈ connection.notifiedOutputs reason description ↔
      connection.processorAlive = true ∧ connection.handlerAttached = true := by
  rw [notifiedOutputs]
  split <;> simp [mem_closedOutputs_iff, mem_closeRequest_iff]

theorem mem_settledOutputs_iff {verdict : Verdict} :
    .prepareToClose ∈ connection.settledOutputs verdict ↔
      verdict.closes = true ∧ connection.processorAlive = true ∧
        connection.handlerAttached = true := by
  cases verdict with
  | nothing => simp [settledOutputs, Verdict.closes]
  | deliver message => simp [settledOutputs, Verdict.closes]
  | pong payload => simp [settledOutputs, Verdict.closes, notMem_framed]
  | violation description => simp [settledOutputs, Verdict.closes, mem_notifiedOutputs_iff]
  | invalidData description => simp [settledOutputs, Verdict.closes, mem_closedOutputs_iff]
  | closed reason description => simp [settledOutputs, Verdict.closes, mem_notifiedOutputs_iff]

/-- The handler is asked to prepare to close by the events that close the processor. -/
theorem mem_outputs_iff (event : ConnectionEvent) :
    .prepareToClose ∈ connection.outputs handler event ↔
      connection.ClosesProcessor event ∧ connection.processorAlive = true ∧
        connection.handlerAttached = true := by
  have hifActive (opCode : FrameOpcode) (payload : Option (List UInt8)) :
      .prepareToClose ∉ connection.framedIfActive opCode payload := by
    rw [framedIfActive]
    split
    · exact notMem_framed opCode payload
    · simp
  cases event with
  | sendData message asBinary => simp [outputs, ClosesProcessor, hifActive]
  | sendString message => simp [outputs, ClosesProcessor, hifActive]
  | ping withMessage => simp [outputs, ClosesProcessor, hifActive]
  | close reason description => simp [outputs, ClosesProcessor, mem_closedOutputs_iff]
  | drop reason description => simp [outputs, ClosesProcessor, mem_closedOutputs_iff]
  | received now frame =>
    rw [outputs, mem_settledOutputs_iff, closes_iff]
    rfl
  | parseError error => simp [outputs, ClosesProcessor, mem_closedOutputs_iff]
  | timer now =>
    rw [outputs, ClosesProcessor]
    cases connection.timerVerdict now <;> simp [hifActive, mem_notifiedOutputs_iff]
  | processorClose =>
    rw [outputs, ClosesProcessor]
    split
    · -- The second time the handler is asked it has been asked already.
      simp only [List.mem_append, mem_notifiedOutputs_iff, mem_closeRequest_iff, true_and,
        or_iff_left_iff_imp]
      rintro ⟨halive, hattached⟩
      exact ⟨by simpa using halive, attached_of_notified hattached⟩
    · rw [mem_closeRequest_iff, true_and]
  | socketClosed =>
    rw [outputs, ClosesProcessor]
    split <;> simp_all [mem_notifiedOutputs_iff]
  | serviceChanged service => simp [outputs, ClosesProcessor]
  | handlerReleased => simp [outputs, ClosesProcessor]
  | processorReleased => simp [outputs, ClosesProcessor]

/-- As long as the handler is in place it has been asked exactly by the events that close the
processor. -/
theorem notMem_log_iff {service : Option WebSocketService} {start : ℚ}
    {events : List ConnectionEvent} (hrun : run handler (opened service start) events =
      .ok connection) (halive : connection.processorAlive = true)
    (hattached : connection.handlerAttached = true) :
    .prepareToClose ∉ connection.log ↔
      FallibleRun.NoStep (step handler) (opened service start) events ClosesProcessor := by
  induction events using List.reverseRecOn generalizing connection with
  | nil =>
    cases hrun
    refine iff_of_true ?_ (FallibleRun.noStep_nil _ _)
    cases service <;> simp [opened, created, handlerSet, fireConnected, enqueue, emit]
  | append_singleton before event ih =>
    obtain ⟨middle, hmiddle, hlast⟩ := FallibleRun.run_concat_ok.mp hrun
    rw [FallibleRun.noStep_concat hmiddle, log_of_step hlast, List.mem_append, not_or]
    obtain rfl := eq_after_of_step hlast
    have halive := alive_of_after halive
    have hattached := attached_of_after hattached
    rw [ih hmiddle halive hattached, mem_outputs_iff, and_iff_left (And.intro halive hattached)]

end Asking

/-- A close frame of the client is dropped, and nobody has asked the handler to prepare to close. -/
def DroppedUnasked (connection : WebSocketConnection) (event : ConnectionEvent) : Prop :=
  (∃ now frame, event = .received now frame ∧ frame.opCode = .close) ∧
    connection.active = false ∧ connection.processorAlive = true ∧
    connection.handlerAttached = true ∧ .prepareToClose ∉ connection.log

/-- A step goes on as the handshake should, unless it drops a close frame unasked. -/
theorem handshakeEnds_after_iff {handler : SocketHandler} {before : List ConnectionEvent}
    {connection : WebSocketConnection} {event : ConnectionEvent}
    (hinv : HandshakeInvariant before connection) (hends : HandshakeEnds before connection) :
    HandshakeEnds (before ++ [event]) (connection.after handler event) ↔
      ¬ DroppedUnasked connection event := by
  constructor
  · rintro hnext ⟨⟨now, frame, rfl, hopCode⟩, hactive, halive, hattached, hnone⟩
    -- The frame is judged to be nothing: the log stays as it is.
    have hafter : connection.after handler (.received now frame) = connection.noted now frame := by
      simp [after, verdict, hopCode, hactive, settled]
    rw [hafter] at hnext
    have hclosed : ClientClosed (before ++ [.received now frame]) :=
      clientClosed_concat.mpr (.inr ⟨now, frame, rfl, hopCode⟩)
    exact hnone (hnext halive hattached (hinv.closeSent hactive halive hattached) hclosed)
  · intro hkept hstillAlive hstillAttached hsent hclosed
    have halive := alive_of_after hstillAlive
    have hattached := attached_of_after hstillAttached
    rw [after_log, List.mem_append]
    cases hactive : connection.active with
    | false =>
      by_contra hnone
      have hnone := not_or.mp hnone
      rcases clientClosed_concat.mp hclosed with hearlier | hnow
      · exact hnone.1 (hends halive hattached (hinv.closeSent hactive halive hattached) hearlier)
      · exact hkept ⟨hnow, hactive, halive, hattached, hnone.1⟩
    | true =>
      rcases clientClosed_concat.mp hclosed with hearlier | ⟨now, frame, rfl, hopCode⟩
      · rw [hinv.closed hearlier] at hactive
        cases hactive
      · have hasks : connection.ClosesProcessor (.received now frame) :=
          .inr (.inr ⟨hopCode, hactive⟩)
        exact .inr ((mem_outputs_iff _).mpr ⟨hasks, halive, hattached⟩)

/-- All along a run the handler has been asked to prepare to close when both sides have closed,
exactly when no close frame of the client is dropped in the run. -/
theorem handshakeEnds_iff (handler : SocketHandler) (service : Option WebSocketService)
    (start : ℚ) (events : List ConnectionEvent) (last : WebSocketConnection)
    (hrun : run handler (opened service start) events = .ok last) :
    FallibleRun.Always (step handler) (opened service start) events HandshakeEnds ↔
      ¬ DropsClose handler (opened service start) events := by
  have halways : FallibleRun.Always (step handler) (opened service start) events HandshakeEnds ↔
      FallibleRun.NoStep (step handler) (opened service start) events DroppedUnasked := by
    apply FallibleRun.always_iff_noStep HandshakeInvariant HandshakeEnds _ _ _ _ hrun
    · refine ⟨endsByFrame_opened service start, ?_⟩
      rintro ⟨_, _, hmem, _⟩
      cases hmem
    · intro before connection event next hinv hreturns
      rw [eq_after_of_step hreturns]
      exact hinv.after event
    · rintro _ _ _ ⟨_, _, hmem, _⟩
      cases hmem
    · intro before connection event next hinv hends hreturns
      rw [eq_after_of_step hreturns]
      exact handshakeEnds_after_iff hinv hends
  rw [halways, ← FallibleRun.not_someStep]
  refine not_congr ⟨?_, ?_⟩
  · rintro ⟨before, _, after, connection, hsplit, hbefore, ⟨now, frame, rfl, hopCode⟩, hactive,
      halive, hattached, hnone⟩
    exact ⟨before, now, frame, after, connection, hsplit, hopCode, hbefore, hactive, halive,
      hattached, (notMem_log_iff hbefore halive hattached).mp hnone⟩
  · rintro ⟨before, now, frame, after, connection, hsplit, hopCode, hbefore, hactive, halive,
      hattached, hnone⟩
    exact ⟨before, _, after, connection, hsplit, hbefore, ⟨now, frame, rfl, hopCode⟩, hactive,
      halive, hattached, (notMem_log_iff hbefore halive hattached).mpr hnone⟩

/-- A client that closes first is answered by a close that asks the handler. -/
theorem handshakeEnds_iff_close :
    FallibleRun.Always (step ⟨fun _ => false⟩) (opened (some ⟨none⟩) 0)
        [.received 0 ⟨true, .close, []⟩] HandshakeEnds ↔
      ¬ DropsClose ⟨fun _ => false⟩ (opened (some ⟨none⟩) 0) [.received 0 ⟨true, .close, []⟩] :=
  handshakeEnds_iff ⟨fun _ => false⟩ (some ⟨none⟩) 0 [.received 0 ⟨true, .close, []⟩]
    ((opened (some ⟨none⟩) 0).after ⟨fun _ => false⟩ (.received 0 ⟨true, .close, []⟩))
    (by decide +kernel)

/-- The service closes softly, the client answers with a close frame, and the handler is
never asked. -/
theorem not_handshakeEnds_soft_close :
    ∃ last, run ⟨fun _ => false⟩ (opened (some ⟨none⟩) 0)
        [.close none none, .received 0 ⟨true, .close, [3, 232]⟩] = .ok last ∧
      ¬ HandshakeEnds [.close none none, .received 0 ⟨true, .close, [3, 232]⟩] last := by
  refine ⟨((opened (some ⟨none⟩) 0).after ⟨fun _ => false⟩ (.close none none)).after
    ⟨fun _ => false⟩ (.received 0 ⟨true, .close, [3, 232]⟩), by decide +kernel, fun hends => ?_⟩
  have hsent : ∃ sent ∈ handed (((opened (some ⟨none⟩) 0).after ⟨fun _ => false⟩
      (.close none none)).after ⟨fun _ => false⟩ (.received 0 ⟨true, .close, [3, 232]⟩)).log,
      sent.opCode = .close := by decide +kernel
  have hasked := hends (by decide +kernel) (by decide +kernel) hsent
    ⟨0, ⟨true, .close, [3, 232]⟩, by simp, rfl⟩
  revert hasked
  decide +kernel

end WebSocketConnection

end KituraWebSocket
