/-
# The callbacks of a session

The two rules about callbacks, for whole sessions, in which one buffer may hold
many frames. The steps that close a connection keep to the first rule exactly
where they go through `connectionClosed` (`notifies_iff`), and nothing in the
delivery of messages keeps to the second (`messagesFirst_iff`).
-/

import KituraWebSocket.Connection.Callbacks
import KituraWebSocket.Session.Run

namespace KituraWebSocket

/-- Whether the service itself asks for an event. -/
def ConnectionEvent.requested : ConnectionEvent → Bool
  | .sendData _ _ | .sendString _ | .ping _ | .close _ _ | .drop _ _ => true
  | .received _ _ | .parseError _ | .timer _ | .processorClose | .socketClosed
  | .serviceChanged _ | .handlerReleased | .processorReleased => false

def SessionEvent.requested : SessionEvent → Bool
  | .process _ _ => false
  | .connection event => event.requested

namespace Session

open WebSocketConnection WSSocketProcessor

/-- A step that the service did not ask for and that takes an active connection out of
operation has told the service so, once. -/
def Notifies (session : Session) (event : SessionEvent) (next : Session) : Prop :=
  event.requested = false → session.connection.active = true →
    next.connection.active = false →
      next.connection.disconnections = session.connection.disconnections + 1

/-- In an event that the service did not ask for, the active connection ends silently: with a
parse error, or with a text or a close frame that is not UTF-8. -/
def FailsSilently (handler : SocketHandler) (session : Session) (event : SessionEvent) : Prop :=
  event.requested = false ∧ session.connection.active = true ∧
    FallibleRun.SomeStep (WebSocketConnection.step handler) session.connection
      (session.atoms event) FailsAt

/-- All along a session the service is told of every end that it did not ask for, once, exactly when
no event of the session is one in which the active connection ends silently. -/
theorem notifies_iff (handler : SocketHandler) (service : Option WebSocketService) (start : ℚ)
    (events : List SessionEvent) (last : Session)
    (hrun : run handler (fresh (opened service start)) events = .ok last) :
    FallibleRun.EveryStep (step handler) (fresh (opened service start)) events Notifies ↔
      FallibleRun.NoStep (step handler) (fresh (opened service start)) events
        (FailsSilently handler) := by
  apply FallibleRun.everyStep_iff_noStep (fun _ session => session.parser.Wf)
    WSFrameParser.wf_fresh (fun _ _ _ _ hwf hstep => (run_atoms hwf hstep).2) _ hrun
  intro _ session event next hwf hstep
  obtain ⟨hatoms, _⟩ := run_atoms hwf hstep
  rw [Notifies, FailsSilently, not_and, not_and, FallibleRun.not_someStep]
  apply forall_congr'
  intro _
  apply forall_congr'
  intro hactive
  exact disconnections_run hactive hatoms

/-- A client's close frame, in a session in which nothing is lost. -/
theorem notifies_iff_close :
    FallibleRun.EveryStep (step ⟨fun _ => false⟩) (fresh (opened (some ⟨none⟩) 0))
        [.process (fun _ => 0) [0x88, 0x80, 0, 0, 0, 0]] Notifies ↔
      FallibleRun.NoStep (step ⟨fun _ => false⟩) (fresh (opened (some ⟨none⟩) 0))
        [.process (fun _ => 0) [0x88, 0x80, 0, 0, 0, 0]] (FailsSilently ⟨fun _ => false⟩) :=
  notifies_iff ⟨fun _ => false⟩ (some ⟨none⟩) 0 [.process (fun _ => 0) [0x88, 0x80, 0, 0, 0, 0]]
    ⟨(opened (some ⟨none⟩) 0).after ⟨fun _ => false⟩ (.received 0 ⟨true, .close, []⟩),
      { frame := ⟨true, .close, []⟩, masked := true }, 0⟩ (by decide +kernel)

/-- A byte with reserved bits ends the connection, and the service is never told. -/
theorem not_notifies_reserved_bits :
    ¬ FallibleRun.EveryStep (step ⟨fun _ => false⟩) (fresh (opened (some ⟨none⟩) 0))
      [.process (fun _ => 0) [0xF1]] Notifies := by
  intro hevery
  have htold := hevery [] _ [] (fresh (opened (some ⟨none⟩) 0))
    ⟨(opened (some ⟨none⟩) 0).after ⟨fun _ => false⟩ (.parseError (.invalidOpCode 0x71)), {}, 0⟩
    rfl rfl (by decide +kernel) rfl rfl (by decide +kernel)
  revert htold
  decide +kernel

/-- In an event, a message is delivered late. -/
def MessageLate (handler : SocketHandler) (session : Session) (event : SessionEvent) : Prop :=
  FallibleRun.SomeStep (WebSocketConnection.step handler) session.connection
    (session.atoms event) DeliversLate

/-- In a session no message is enqueued after `disconnected` exactly when no frame that completes a
message is received after it. -/
theorem messagesFirst_iff (handler : SocketHandler) (service : Option WebSocketService)
    (start : ℚ) (events : List SessionEvent) (last : Session)
    (hrun : run handler (fresh (opened service start)) events = .ok last) :
    MessagesFirst (callbacks last.connection.log) ↔
      FallibleRun.NoStep (step handler) (fresh (opened service start)) events
        (MessageLate handler) := by
  have hstart : MessagesFirst (callbacks (opened service start).log) := by
    cases service with
    | none => exact List.Pairwise.nil
    | some service => exact List.pairwise_singleton _ _
  refine (FallibleRun.run_iff_noStep (fun _ session => session.parser.Wf)
    (fun _ session => MessagesFirst (callbacks session.connection.log)) WSFrameParser.wf_fresh
    (fun _ _ _ _ hwf hstep => (run_atoms hwf hstep).2) ?_ hrun).trans (and_iff_right hstart)
  intro _ session event next hwf hstep
  rw [MessageLate, FallibleRun.not_someStep]
  exact messagesFirst_run (run_atoms hwf hstep).1

/-- A message before the close frame. -/
theorem messagesFirst_iff_close :
    MessagesFirst (callbacks (((opened (some ⟨none⟩) 0).after ⟨fun _ => false⟩
        (.received 0 ⟨true, .binary, []⟩)).after ⟨fun _ => false⟩
        (.received 0 ⟨true, .close, []⟩)).log) ↔
      FallibleRun.NoStep (step ⟨fun _ => false⟩) (fresh (opened (some ⟨none⟩) 0))
        [.process (fun _ => 0) [0x82, 0x80, 0, 0, 0, 0, 0x88, 0x80, 0, 0, 0, 0]]
        (MessageLate ⟨fun _ => false⟩) :=
  messagesFirst_iff ⟨fun _ => false⟩ (some ⟨none⟩) 0
    [.process (fun _ => 0) [0x82, 0x80, 0, 0, 0, 0, 0x88, 0x80, 0, 0, 0, 0]]
    ⟨((opened (some ⟨none⟩) 0).after ⟨fun _ => false⟩ (.received 0 ⟨true, .binary, []⟩)).after
      ⟨fun _ => false⟩ (.received 0 ⟨true, .close, []⟩),
      { frame := ⟨true, .close, []⟩, masked := true }, 0⟩ (by decide +kernel)

/-- A message behind the close frame, in the same buffer. -/
theorem not_messagesFirst_one_buffer :
    ∃ last : Session, run ⟨fun _ => false⟩ (fresh (opened (some ⟨none⟩) 0))
        [.process (fun _ => 0) [0x88, 0x80, 0, 0, 0, 0, 0x82, 0x80, 0, 0, 0, 0]] = .ok last ∧
      ¬ MessagesFirst (callbacks last.connection.log) :=
  ⟨⟨((opened (some ⟨none⟩) 0).after ⟨fun _ => false⟩ (.received 0 ⟨true, .close, []⟩)).after
    ⟨fun _ => false⟩ (.received 0 ⟨true, .binary, []⟩),
    { frame := ⟨true, .binary, []⟩, masked := true }, 0⟩, by decide +kernel, by decide +kernel⟩

end Session

end KituraWebSocket
