/-
# Sessions

A session is a processor with its connection. It is given buffers to process, and
whatever else happens to its connection happens between two buffers. To the
connection a buffer is nothing but the frames and the error that the parser finds
in it: `run_atoms` turns one step of a session into a run of its connection, so
that what is known of the steps of a connection carries over to sessions.
-/

import KituraWebSocket.Connection.Runs
import KituraWebSocket.Receive.Safety

namespace KituraWebSocket

/-- What happens to a session. -/
inductive SessionEvent
  | /-- A buffer is given to `process`. The n-th frame of the call, from zero, is received at
    the time `clock n`. -/
    process (clock : ℕ → ℚ) (buffer : List UInt8)
  | /-- Anything else that happens to the connection. -/
    connection (event : ConnectionEvent)

/-- A processor and its connection. -/
abbrev Session := WSSocketProcessor WebSocketConnection

namespace Session

open WSSocketProcessor

/-- The connection as one call of `process` sees it, with the number of frames that the call
has handed over. -/
def clockedCalls (handler : SocketHandler) (clock : ℕ → ℚ) :
    ConnectionCalls (WebSocketConnection × ℕ) where
  received calling frame :=
    (WebSocketConnection.received handler (clock calling.2) calling.1 frame).map
      fun connection => (connection, calling.2 + 1)
  close calling reason description :=
    (WebSocketConnection.close handler calling.1 reason description).map
      fun connection => (connection, calling.2)

/-- The processor at the beginning of a call. -/
def calling (session : Session) : WSSocketProcessor (WebSocketConnection × ℕ) where
  connection := (session.connection, 0)
  parser := session.parser
  byteIndex := session.byteIndex

/-- One event. A processor that has been released cannot be called. -/
def step (handler : SocketHandler) (session : Session) : SessionEvent → Except Fault Session
  | .process clock buffer => do
    if ¬ session.connection.processorAlive then
      return session
    let (_, processor) ← process (clockedCalls handler clock) session.calling buffer
    return ⟨processor.connection.1, processor.parser, processor.byteIndex⟩
  | .connection event => do
    let connection ← session.connection.step handler event
    return { session with connection := connection }

/-- A sequence of events. -/
def run (handler : SocketHandler) (session : Session) (events : List SessionEvent) :
    Except Fault Session :=
  FallibleRun.run (step handler) session events

/-- What the parser has found, as events of the connection. -/
def timed (clock : ℕ → ℚ) : ℕ → List StreamEvent → List ConnectionEvent
  | _, [] => []
  | count, .frame frame :: events =>
    .received (clock count) frame :: timed clock (count + 1) events
  | count, .error error :: events => .parseError error :: timed clock count events

/-- The events of the connection that an event of the session amounts to. -/
def atoms (session : Session) : SessionEvent → List ConnectionEvent
  | .process clock buffer =>
    if session.connection.processorAlive then
      timed clock 0 (found session.parser (buffer.drop session.byteIndex))
    else []
  | .connection event => [event]

/-- Making the calls is running the connection. -/
theorem replayAll_clockedCalls (handler : SocketHandler) (clock : ℕ → ℚ)
    (events : List StreamEvent) (connection : WebSocketConnection) (count : ℕ) :
    (replayAll (clockedCalls handler clock) (connection, count) events).map Prod.fst =
      connection.run handler (timed clock count events) := by
  induction events generalizing connection count with
  | nil => rfl
  | cons event events ih =>
    rw [replayAll_cons]
    cases event with
    | frame frame =>
      have hcall : (StreamEvent.frame frame).call.replay (clockedCalls handler clock)
          (connection, count) =
          (connection.step handler (.received (clock count) frame)).map fun next =>
            (next, count + 1) := rfl
      rw [hcall, timed, WebSocketConnection.run, FallibleRun.run_cons]
      cases connection.step handler (.received (clock count) frame) with
      | error fault => rfl
      | ok next => exact ih next (count + 1)
    | error error =>
      have hcall : (StreamEvent.error error).call.replay (clockedCalls handler clock)
          (connection, count) =
          (connection.step handler (.parseError error)).map fun next => (next, count) := rfl
      rw [hcall, timed, WebSocketConnection.run, FallibleRun.run_cons]
      cases connection.step handler (.parseError error) with
      | error fault => rfl
      | ok next => exact ih next count

/-- A step of a session runs the connection over the events it amounts to, and leaves the parser
between two calls. -/
theorem run_atoms {handler : SocketHandler} {session next : Session} {event : SessionEvent}
    (hwf : session.parser.Wf) (hstep : session.step handler event = .ok next) :
    session.connection.run handler (session.atoms event) = .ok next.connection ∧
      next.parser.Wf := by
  cases event with
  | process clock buffer =>
    obtain ⟨connection, parser, index⟩ := session
    cases halive : connection.processorAlive with
    | false =>
      obtain rfl : ⟨connection, parser, index⟩ = next := by simpa [step, halive] using hstep
      simpa [atoms, halive] using ⟨rfl, hwf⟩
    | true =>
      obtain ⟨finished, parser', index', hwf', hprocess⟩ := exists_process hwf buffer index
      rw [atoms, if_pos halive, ← replayAll_clockedCalls]
      cases hreplay : replayAll (clockedCalls handler clock) (connection, 0)
          (found parser (buffer.drop index)) with
      | error fault => simp [step, calling, halive, hprocess, hreplay] at hstep
      | ok calling' =>
        obtain rfl : ⟨calling'.1, parser', index'⟩ = next := by
          simpa [step, calling, halive, hprocess, hreplay] using hstep
        exact ⟨rfl, hwf'⟩
  | connection event =>
    cases hevent : session.connection.step handler event with
    | error fault => simp [step, hevent] at hstep
    | ok connection =>
      obtain rfl : { session with connection := connection } = next := by
        simpa [step, hevent] using hstep
      refine ⟨?_, hwf⟩
      rw [atoms, WebSocketConnection.run, FallibleRun.run_singleton, hevent]

/-- A run of a session is a run of its connection. -/
theorem connection_of_run {handler : SocketHandler} {session last : Session}
    {events : List SessionEvent} (hwf : session.parser.Wf)
    (hrun : session.run handler events = .ok last) :
    last.parser.Wf ∧
      ∃ events, session.connection.run handler events = .ok last.connection := by
  refine FallibleRun.run_invariant (fun state => state.parser.Wf ∧
    ∃ events, session.connection.run handler events = .ok state.connection) ?_ ⟨hwf, [], rfl⟩ hrun
  rintro state event next ⟨hwf, before, hbefore⟩ hstep
  obtain ⟨hatoms, hnext⟩ := run_atoms hwf hstep
  exact ⟨hnext, _, FallibleRun.run_append_ok.mpr ⟨state.connection, hbefore, hatoms⟩⟩

/-- The calls that `process` makes on a connection return. -/
theorem callsReturn_clockedCalls (handler : SocketHandler) (clock : ℕ → ℚ) :
    CallsReturn (clockedCalls handler clock) := by
  constructor
  · intro calling frame
    exact ⟨_, by simp only [clockedCalls, WebSocketConnection.received_eq]; rfl⟩
  · intro calling error
    have hclose : WebSocketConnection.close handler calling.1 (some .protocolError)
        (some error.description) =
        .ok (calling.1.closed handler (some .protocolError) (some error.description) false) :=
      WebSocketConnection.closeConnection_eq 4 false
        (WebSocketConnection.short_description (error.length_description.trans_lt (by decide)))
    exact ⟨_, by simp only [clockedCalls, hclose]; rfl⟩

/-- Between two calls the next call is safe, whatever it is given. -/
theorem processSafe_calling (handler : SocketHandler) {session : Session}
    (hwf : session.parser.Wf) (clock : ℕ → ℚ) (buffer : List UInt8) :
    ProcessSafe (clockedCalls handler clock) session.calling buffer :=
  process_safe (callsReturn_clockedCalls handler clock) hwf buffer

theorem step_process_returns (handler : SocketHandler) {session : Session}
    (hwf : session.parser.Wf) (clock : ℕ → ℚ) (buffer : List UInt8) :
    ∃ next, session.step handler (.process clock buffer) = .ok next := by
  obtain ⟨result, hprocess⟩ := (processSafe_calling handler hwf clock buffer).returns
  cases halive : session.connection.processorAlive with
  | false => exact ⟨session, by simp [step, halive]⟩
  | true => exact ⟨_, by simp [step, halive, hprocess]; rfl⟩

/-- Any number of calls returns, and leaves the parser between two calls. -/
theorem run_process_returns (handler : SocketHandler) (buffers : List ((ℕ → ℚ) × List UInt8))
    {session : Session} (hwf : session.parser.Wf) :
    ∃ last, session.run handler (buffers.map fun given => .process given.1 given.2) = .ok last ∧
      last.parser.Wf := by
  induction buffers generalizing session with
  | nil => exact ⟨session, rfl, hwf⟩
  | cons given buffers ih =>
    obtain ⟨next, hstep⟩ := step_process_returns handler hwf given.1 given.2
    obtain ⟨last, hrun, hlast⟩ := ih (run_atoms hwf hstep).2
    refine ⟨last, ?_, hlast⟩
    rw [run, List.map_cons, FallibleRun.run_cons, hstep]
    exact hrun

/-- However many buffers a new processor has been given, whatever they held, every call has
returned, and the next call is safe for every buffer. -/
theorem process_always_safe (handler : SocketHandler) (connection : WebSocketConnection)
    (buffers : List ((ℕ → ℚ) × List UInt8)) :
    ∃ last : Session, run handler (fresh connection)
        (buffers.map fun given => .process given.1 given.2) = .ok last ∧
      ∀ (clock : ℕ → ℚ) (buffer : List UInt8),
        ProcessSafe (clockedCalls handler clock) last.calling buffer := by
  have hstart : (fresh connection).parser.Wf := WSFrameParser.wf_fresh
  obtain ⟨last, hrun, hwf⟩ := run_process_returns handler buffers hstart
  exact ⟨last, hrun, processSafe_calling handler hwf⟩

end Session

end KituraWebSocket
