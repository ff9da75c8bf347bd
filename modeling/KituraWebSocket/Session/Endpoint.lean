/-
# Endpoints

An endpoint is a session behind its socket. Its handler keeps the buffer for the next
socket read as `deliver` says, and its connection is freed when neither its processor
nor anyone else holds it. A run of an endpoint is a run of its session
(`session_of_run`), and what the socket reads amount to does not depend on what else
happens between them: the parser goes the way it goes under the recorder
(`Mirrors.read`, `Mirrors.of_same`).
-/

import KituraWebSocket.Receive.Chunking
import KituraWebSocket.Session.Run

namespace KituraWebSocket

open WSSocketProcessor

/-- A session with the buffer of its handler. `retained` says whether anyone but the processor
holds the connection. -/
structure Endpoint where
  session : Session
  buffer : List UInt8 := []
  retained : Bool := true
  deriving DecidableEq

/-- The processor hands over what its parser has found. -/
def ConnectionEvent.parsed : ConnectionEvent → Bool
  | .received _ _ | .parseError _ => true
  | _ => false

/-- What happens to a connection besides. -/
abbrev OutsideEvent := { event : ConnectionEvent // event.parsed = false }

inductive EndpointEvent
  | /-- A socket read. The n-th frame that it completes, from zero, is received at the time
    `clock n`. -/
    read (clock : ℕ → ℚ) (bytes : List UInt8)
  | connection (event : OutsideEvent)
  | /-- The application holds on to the connection, or lets it go. -/
    retained (kept : Bool)

namespace Endpoint

/-- The endpoint of a connection in operation. -/
def opened (service : Option WebSocketService) (start : ℚ) : Endpoint where
  session := fresh (WebSocketConnection.opened service start)

/-- The connection has not been freed. The processor holds its connection. -/
def held (endpoint : Endpoint) : Bool :=
  endpoint.session.connection.processorAlive || endpoint.retained

/-- One event. Nothing happens to a connection that has been freed, and a processor that has
been released is given no buffer. -/
def step (handler : SocketHandler) (endpoint : Endpoint) :
    EndpointEvent → Except Fault Endpoint
  | .read clock bytes => do
    if ¬ endpoint.session.connection.processorAlive then
      return endpoint
    let reading ← deliver (Session.clockedCalls handler clock)
      ⟨endpoint.session.calling, endpoint.buffer⟩ bytes
    let processor := reading.processor
    return { endpoint with
      session := ⟨processor.connection.1, processor.parser, processor.byteIndex⟩
      buffer := reading.buffer }
  | .connection event => do
    if ¬ endpoint.held then
      return endpoint
    let connection ← endpoint.session.connection.step handler event.1
    return { endpoint with session := { endpoint.session with connection := connection } }
  | .retained kept => .ok { endpoint with retained := kept && endpoint.held }

/-- A sequence of events. -/
def run (handler : SocketHandler) (endpoint : Endpoint) (events : List EndpointEvent) :
    Except Fault Endpoint :=
  FallibleRun.run (step handler) endpoint events

/-- The bytes of a socket read. -/
def bytesRead : EndpointEvent → Option (List UInt8)
  | .read _ bytes => some bytes
  | .connection _ | .retained _ => none

/-- The socket reads among some events. -/
def reads (events : List EndpointEvent) : List (List UInt8) := events.filterMap bytesRead

theorem reads_concat (events : List EndpointEvent) (event : EndpointEvent) :
    reads (events ++ [event]) = reads events ++ (bytesRead event).toList :=
  FallibleRun.filterMap_concat bytesRead events event

/-- Whatever the connection, a socket read makes the calls for what the parser finds in the
buffer behind its index. -/
theorem exists_deliver {parser : WSFrameParser} (hwf : parser.Wf) (index : ℕ)
    (buffer bytes : List UInt8) :
    ∃ next nextIndex nextBuffer, next.Wf ∧
      ∀ {σ : Type} (calls : ConnectionCalls σ) (connection : σ),
        deliver calls ⟨⟨connection, parser, index⟩, buffer⟩ bytes =
          replayAll calls connection (found parser ((buffer ++ bytes).drop index)) >>=
            fun connection => .ok ⟨⟨connection, next, nextIndex⟩, nextBuffer⟩ := by
  obtain ⟨finished, next, nextIndex, hnext, hprocess⟩ :=
    exists_process hwf (buffer ++ bytes) index
  refine ⟨next, nextIndex, if finished then [] else buffer ++ bytes, hnext, ?_⟩
  intro σ calls connection
  rw [deliver, hprocess]
  cases replayAll calls connection (found parser ((buffer ++ bytes).drop index)) <;> rfl

/-- The parser of an endpoint goes the way it goes under the recorder, which is given the same
socket reads. -/
structure Mirrors (reading : Reading (List ConnectionCall)) (endpoint : Endpoint) : Prop where
  wf : reading.processor.parser.Wf
  parser : endpoint.session.parser = reading.processor.parser
  byteIndex : endpoint.session.byteIndex = reading.processor.byteIndex
  buffer : endpoint.buffer = reading.buffer

/-- What happens besides the socket reads does not concern the recorder. -/
theorem Mirrors.of_same {reading : Reading (List ConnectionCall)} {endpoint next : Endpoint}
    (hmirrors : Mirrors reading endpoint)
    (hparser : next.session.parser = endpoint.session.parser)
    (hindex : next.session.byteIndex = endpoint.session.byteIndex)
    (hbuffer : next.buffer = endpoint.buffer) : Mirrors reading next where
  wf := hmirrors.wf
  parser := hparser.trans hmirrors.parser
  byteIndex := hindex.trans hmirrors.byteIndex
  buffer := hbuffer.trans hmirrors.buffer

/-- What a socket read does, to the endpoint and under the recorder. The connection runs over
the events that the parser finds. -/
theorem Mirrors.read {reading : Reading (List ConnectionCall)} {endpoint next : Endpoint}
    {handler : SocketHandler} {clock : ℕ → ℚ} {bytes : List UInt8}
    (hmirrors : Mirrors reading endpoint)
    (halive : endpoint.session.connection.processorAlive = true)
    (hstep : step handler endpoint (.read clock bytes) = .ok next) :
    ∃ events later, deliver recorder reading bytes = .ok later ∧ Mirrors later next ∧
      later.processor.connection =
        reading.processor.connection ++ events.map StreamEvent.call ∧
      endpoint.session.connection.run handler (Session.timed clock 0 events) =
        .ok next.session.connection := by
  obtain ⟨⟨connection, parser, index⟩, buffer, retained⟩ := endpoint
  obtain ⟨⟨recorded, parser', index'⟩, buffer'⟩ := reading
  obtain ⟨hwf, rfl, rfl, rfl⟩ := hmirrors
  obtain ⟨after, afterIndex, afterBuffer, hafter, hdeliver⟩ :=
    exists_deliver hwf index buffer bytes
  have hrecorder := hdeliver recorder recorded
  rw [replayAll_recorder, ok_bind] at hrecorder
  refine ⟨found parser ((buffer ++ bytes).drop index), _, hrecorder, ?_⟩
  rw [← Session.replayAll_clockedCalls]
  simp only at halive
  cases hreplay : replayAll (Session.clockedCalls handler clock) (connection, 0)
      (found parser ((buffer ++ bytes).drop index)) with
  | error fault => simp [step, Session.calling, halive, hdeliver, hreplay] at hstep
  | ok calling =>
    obtain rfl : Endpoint.mk ⟨calling.1, after, afterIndex⟩ afterBuffer retained = next := by
      simpa [step, Session.calling, halive, hdeliver, hreplay] using hstep
    exact ⟨⟨hafter, rfl, rfl, rfl⟩, rfl, rfl⟩

/-- One event of an endpoint is at most one of its session. -/
theorem session_of_step {handler : SocketHandler} {endpoint next : Endpoint}
    {event : EndpointEvent} (hstep : step handler endpoint event = .ok next) :
    ∃ events, endpoint.session.run handler events = .ok next.session := by
  cases event with
  | read clock bytes =>
    cases halive : endpoint.session.connection.processorAlive with
    | false =>
      obtain rfl : endpoint = next := by simpa [step, halive] using hstep
      exact ⟨[], rfl⟩
    | true =>
      refine ⟨[.process clock (endpoint.buffer ++ bytes)], ?_⟩
      rw [Session.run, FallibleRun.run_singleton]
      simp only [step, halive, deliver, not_true_eq_false, if_false, bind_eq_ok] at hstep
      obtain ⟨reading, ⟨result, hprocess, hreading⟩, hnext⟩ := hstep
      cases hreading
      cases hnext
      simp [Session.step, halive, hprocess]
  | connection event =>
    cases hheld : endpoint.held with
    | false =>
      obtain rfl : endpoint = next := by simpa [step, hheld] using hstep
      exact ⟨[], rfl⟩
    | true =>
      refine ⟨[.connection event.1], ?_⟩
      rw [Session.run, FallibleRun.run_singleton]
      simp only [step, hheld, not_true_eq_false, if_false, bind_eq_ok] at hstep
      obtain ⟨connection, hconnection, hnext⟩ := hstep
      cases hnext
      simp [Session.step, hconnection]
  | retained kept =>
    cases hstep
    exact ⟨[], rfl⟩

/-- A run of an endpoint is a run of its session. -/
theorem session_of_run {handler : SocketHandler} {endpoint last : Endpoint}
    {events : List EndpointEvent} (hrun : run handler endpoint events = .ok last) :
    ∃ events, endpoint.session.run handler events = .ok last.session := by
  refine FallibleRun.run_invariant
    (fun state => ∃ events, endpoint.session.run handler events = .ok state.session)
    ?_ ⟨[], rfl⟩ hrun
  rintro state event next ⟨before, hbefore⟩ hstep
  obtain ⟨more, hmore⟩ := session_of_step hstep
  exact ⟨before ++ more, FallibleRun.run_append_ok.mpr ⟨state.session, hbefore, hmore⟩⟩

/-- And so of its connection. -/
theorem connection_of_run {handler : SocketHandler} {endpoint last : Endpoint}
    {events : List EndpointEvent} (hwf : endpoint.session.parser.Wf)
    (hrun : run handler endpoint events = .ok last) :
    last.session.parser.Wf ∧ ∃ events,
      endpoint.session.connection.run handler events = .ok last.session.connection := by
  obtain ⟨events, hsession⟩ := session_of_run hrun
  exact Session.connection_of_run hwf hsession

theorem connection_of_step {handler : SocketHandler} {endpoint next : Endpoint}
    {event : EndpointEvent} (hwf : endpoint.session.parser.Wf)
    (hstep : step handler endpoint event = .ok next) :
    next.session.parser.Wf ∧ ∃ events,
      endpoint.session.connection.run handler events = .ok next.session.connection := by
  obtain ⟨events, hsession⟩ := session_of_step hstep
  exact Session.connection_of_run hwf hsession

/-- A connection that has been freed stays as it is. -/
theorem eq_of_step_freed {handler : SocketHandler} {endpoint next : Endpoint}
    {event : EndpointEvent} (hfreed : endpoint.held = false)
    (hstep : step handler endpoint event = .ok next) : next = endpoint := by
  have hgone : endpoint.session.connection.processorAlive = false ∧ endpoint.retained = false := by
    simpa [held] using hfreed
  cases event with
  | read clock bytes => simpa [step, hgone.1, eq_comm] using hstep
  | connection event => simpa [step, hfreed, eq_comm] using hstep
  | retained kept =>
    cases hstep
    rw [hfreed, Bool.and_false, ← hgone.2]

end Endpoint

end KituraWebSocket
