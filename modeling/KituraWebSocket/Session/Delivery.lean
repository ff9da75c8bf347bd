/-
# The callback queue

The callbacks of a connection are blocks on a serial queue of its own. A block runs some
time after it was enqueued, and holds the connection, and through it the service, only
weakly. So between the callbacks that the library enqueues and those that the service is
given stands a queue whose turns may fall anywhere between the events of the connection.
`delivers_in_order` says that nothing is repeated or reordered there and exactly when
something is lost, and `given_wellOrdered` what a service can rely on.
-/

import KituraWebSocket.Connection.Callbacks
import KituraWebSocket.Session.Endpoint
import KituraWebSocket.Support.SerialQueue

namespace KituraWebSocket

namespace WebSocketConnection

/-- No event announces the connection again. -/
theorem callbackOf_ne_connected (connection : WebSocketConnection) (event : ConnectionEvent) :
    connection.callbackOf event ≠ some .connected := by
  cases event with
  | received now frame =>
    have hmessage := connection.verdict_messagesOnly frame
    cases hverdict : connection.verdict frame with
    | deliver message =>
      rw [hverdict] at hmessage
      have hother : message ≠ .connected := by
        rintro rfl
        cases hmessage
      simp [callbackOf, verdictCallback, hverdict, hother]
    | _ => simp [callbackOf, verdictCallback, hverdict]
  | _ => simp [callbackOf]

/-- A service is told that it is connected, once and before anything else, and at most once that
it is not any more, which no active connection has done. -/
structure Announced (connection : WebSocketConnection) : Prop where
  first : ∃ later, callbacks connection.log = .connected :: later ∧ .connected ∉ later
  once : connection.disconnections ≤ 1
  active : connection.active = true → connection.disconnections = 0

theorem announced_opened (service : WebSocketService) (start : ℚ) :
    (opened (some service) start).Announced :=
  ⟨⟨[], rfl, List.not_mem_nil⟩, Nat.zero_le _, fun _ => rfl⟩

theorem Announced.step {handler : SocketHandler} {connection next : WebSocketConnection}
    {event : ConnectionEvent} (hannounced : connection.Announced)
    (hstep : step handler connection event = .ok next) : next.Announced := by
  obtain rfl := eq_after_of_step hstep
  obtain ⟨⟨later, hlater, hother⟩, honce, hnone⟩ := hannounced
  have hfirst : ∃ later, callbacks (connection.after handler event).log = .connected :: later ∧
      .connected ∉ later := by
    refine ⟨later ++ (connection.callbackOf event).toList, ?_, ?_⟩
    · rw [after_log, callbacks_append, callbacks_outputs, hlater, List.cons_append]
    · rw [List.mem_append, not_or]
      refine ⟨hother, fun hagain => connection.callbackOf_ne_connected event ?_⟩
      simpa using hagain
  by_cases htold : connection.active = true ∧ connection.ends event = true ∧
      ¬ connection.EndsSilently event
  · obtain ⟨hactive, hends, haloud⟩ := htold
    have hone := disconnections_of_ends handler hactive hends haloud
    rw [hnone hactive] at hone
    refine ⟨hfirst, hone.le, fun hstill => ?_⟩
    rw [after_active, hactive, hends] at hstill
    cases hstill
  · have hsame : (connection.after handler event).disconnections = connection.disconnections :=
      disconnections_of_not htold
    refine ⟨hfirst, by rwa [hsame], fun hstill => ?_⟩
    rw [after_active, Bool.and_eq_true] at hstill
    rw [hsame, hnone hstill.1]

theorem announced_of_run {handler : SocketHandler} {service : WebSocketService} {start : ℚ}
    {events : List ConnectionEvent} {last : WebSocketConnection}
    (hrun : run handler (opened (some service) start) events = .ok last) : last.Announced :=
  FallibleRun.run_invariant Announced (fun _ _ _ hannounced hstep => hannounced.step hstep)
    (announced_opened service start) hrun

end WebSocketConnection

namespace Endpoint

/-- The block of a callback finds the connection that it holds weakly and, there, the service. The
block of `connected` holds the service itself. -/
def admits (endpoint : Endpoint) : Callback → Bool
  | .connected => endpoint.held
  | .disconnected _ | .receivedData _ | .receivedString _ =>
    endpoint.held && endpoint.session.connection.service.isSome

/-- `callbackQueue`. What it performs are the callbacks that the service is given. -/
def callbackQueue (handler : SocketHandler) :
    SerialQueue.Producer Endpoint EndpointEvent Callback Fault where
  step := step handler
  enqueued endpoint := callbacks endpoint.session.connection.log
  admits := admits

/-- An endpoint with its queue, and what happens to them. -/
def runQueued (handler : SocketHandler) (endpoint : Endpoint)
    (events : List (SerialQueue.Event EndpointEvent)) :
    Except Fault (SerialQueue.State Endpoint Callback) :=
  FallibleRun.run (SerialQueue.step (callbackQueue handler))
    (SerialQueue.start (callbackQueue handler) endpoint) events

/-- No callback is taken back. -/
theorem callbackQueue_grows (handler : SocketHandler) :
    SerialQueue.Grows (callbackQueue handler) fun endpoint => endpoint.session.parser.Wf where
  keeps _ _ _ hwf hstep := (connection_of_step hwf hstep).1
  grows _ _ _ hwf hstep := by
    obtain ⟨_, _, hrun⟩ := connection_of_step hwf hstep
    obtain ⟨added, hadded⟩ := WebSocketConnection.log_of_run hrun
    exact ⟨callbacks added, by simp only [callbackQueue, ← callbacks_append, hadded]⟩

/-- A callback's turn comes, and its block finds the connection or the service gone. -/
def Lost (handler : SocketHandler) : SerialQueue.State Endpoint Callback →
    SerialQueue.Event EndpointEvent → Prop :=
  SerialQueue.Refused (callbackQueue handler)

/-- However the turns of the queue fall between the events of the connection, what the service has
been given and what is still to come are callbacks that were enqueued, in their order and each at
most once. They are all of them exactly when no block found the connection or the service gone. And
a queue left to itself gives the service the rest, while both are there. -/
theorem delivers_in_order (handler : SocketHandler) (service : Option WebSocketService)
    (start : ℚ) (events : List (SerialQueue.Event EndpointEvent))
    (last : SerialQueue.State Endpoint Callback)
    (hrun : runQueued handler (opened service start) events = .ok last) :
    (last.performed ++ last.pending).Sublist (callbacks last.machine.session.connection.log) ∧
      (last.performed ++ last.pending = callbacks last.machine.session.connection.log ↔
        FallibleRun.NoStep (SerialQueue.step (callbackQueue handler))
          (SerialQueue.start (callbackQueue handler) (opened service start)) events
          (Lost handler)) ∧
      (last.machine.held = true → last.machine.session.connection.service.isSome = true →
        ∃ later, FallibleRun.run (SerialQueue.step (callbackQueue handler)) last
            (List.replicate last.pending.length .work) = .ok later ∧
          later.performed = last.performed ++ last.pending) := by
  have hwf : (opened service start).session.parser.Wf := WSFrameParser.wf_fresh
  refine ⟨(SerialQueue.run_orderly (callbackQueue_grows handler) hwf hrun).sublist,
    SerialQueue.complete_iff (callbackQueue_grows handler) hwf hrun, ?_⟩
  intro hheld hservice
  refine ⟨_, SerialQueue.run_work last, ?_⟩
  have hall : last.pending.filter (fun job => (callbackQueue handler).admits last.machine job) =
      last.pending := by
    rw [List.filter_eq_self]
    intro job _
    cases job <;> simp [callbackQueue, admits, hheld, hservice]
  rw [hall]

/-- A connection that has received a message and lost its service. -/
def orphaned : Endpoint where
  session :=
    { connection := { (WebSocketConnection.opened (some ⟨none⟩) 0).enqueue (.receivedData [1]) with
        service := none }
      parser := { frame := ⟨true, .binary, []⟩, masked := true } }

/-- The service is given `connected`, and is gone when the turn of the message comes. -/
theorem delivers_in_order_orphaned :
    ([Callback.connected] ++ []).Sublist (callbacks orphaned.session.connection.log) ∧
      ([Callback.connected] ++ [] = callbacks orphaned.session.connection.log ↔
        FallibleRun.NoStep (SerialQueue.step (callbackQueue ⟨fun _ => false⟩))
          (SerialQueue.start (callbackQueue ⟨fun _ => false⟩) (opened (some ⟨none⟩) 0))
          [.work, .machine (.read (fun _ => 0) [0x82, 0x81, 0, 0, 0, 0, 1]),
            .machine (.connection ⟨.serviceChanged none, rfl⟩), .work]
          (Lost ⟨fun _ => false⟩)) ∧
      (orphaned.held = true → orphaned.session.connection.service.isSome = true →
        ∃ later, FallibleRun.run (SerialQueue.step (callbackQueue ⟨fun _ => false⟩))
            ⟨orphaned, [], [.connected]⟩ (List.replicate 0 .work) = .ok later ∧
          later.performed = [.connected] ++ []) :=
  delivers_in_order ⟨fun _ => false⟩ (some ⟨none⟩) 0
    [.work, .machine (.read (fun _ => 0) [0x82, 0x81, 0, 0, 0, 0, 1]),
      .machine (.connection ⟨.serviceChanged none, rfl⟩), .work]
    ⟨orphaned, [], [.connected]⟩ (by decide +kernel)

/-- What a service may rely on: it is given nothing before `connected`, which it is given once, and
`disconnected` at most once. -/
structure WellOrdered (given : List Callback) : Prop where
  first : ∀ callback ∈ given.head?, callback = .connected
  connected : given.count .connected ≤ 1
  disconnected : given.countP Callback.isDisconnected ≤ 1

/-- Nothing has been taken from the queue, whose first block is that of `connected`, or this was
the first to be given, or the connection was gone before. -/
def Opening (state : SerialQueue.State Endpoint Callback) : Prop :=
  (∃ later, state.performed = [] ∧ state.pending = .connected :: later) ∨
    state.performed.head? = some .connected ∨
    state.performed = [] ∧ state.machine.held = false

theorem Opening.step {handler : SocketHandler} {state next : SerialQueue.State Endpoint Callback}
    {event : SerialQueue.Event EndpointEvent} (hwf : state.machine.session.parser.Wf)
    (hopening : Opening state)
    (hstep : SerialQueue.step (callbackQueue handler) state event = .ok next) : Opening next := by
  cases event with
  | machine event =>
    obtain ⟨hmachine, hperformed, added, _, hpending⟩ :=
      SerialQueue.step_machine (callbackQueue_grows handler) hwf hstep
    rcases hopening with ⟨later, hnone, hfirst⟩ | hgiven | ⟨hnone, hgone⟩
    · exact .inl ⟨later ++ added, by rw [hperformed, hnone], by rw [hpending, hfirst]; rfl⟩
    · exact .inr (.inl (by rwa [hperformed]))
    · refine .inr (.inr ⟨by rw [hperformed, hnone], ?_⟩)
      rw [eq_of_step_freed hgone hmachine, hgone]
  | work =>
    obtain ⟨endpoint, pending, performed⟩ := state
    rcases hopening with ⟨later, rfl, rfl⟩ | hgiven | ⟨rfl, hgone⟩
    · cases hstep
      cases hheld : endpoint.held with
      | true => exact .inr (.inl (by simp [callbackQueue, admits, hheld]))
      | false => exact .inr (.inr ⟨by simp [callbackQueue, admits, hheld], hheld⟩)
    · right
      left
      simp only at hgiven
      cases pending with
      | nil =>
        cases hstep
        exact hgiven
      | cons job pending =>
        cases hstep
        show (if _ then performed ++ [job] else performed).head? = some .connected
        split
        · rw [List.head?_append, hgiven]
          rfl
        · exact hgiven
    · right
      right
      simp only at hgone
      cases pending with
      | nil =>
        cases hstep
        exact ⟨rfl, hgone⟩
      | cons job pending =>
        cases hstep
        refine ⟨?_, hgone⟩
        cases job <;> simp [callbackQueue, admits, hgone]

/-- The queue stays in order, and begins with `connected`. -/
theorem opening_of_run {handler : SocketHandler} {service : WebSocketService} {start : ℚ}
    {events : List (SerialQueue.Event EndpointEvent)} {last : SerialQueue.State Endpoint Callback}
    (hrun : runQueued handler (opened (some service) start) events = .ok last) :
    SerialQueue.Orderly (callbackQueue handler) (fun endpoint => endpoint.session.parser.Wf) last ∧
      Opening last := by
  have hwf : (opened (some service) start).session.parser.Wf := WSFrameParser.wf_fresh
  refine FallibleRun.run_invariant (fun state => SerialQueue.Orderly (callbackQueue handler)
    (fun endpoint => endpoint.session.parser.Wf) state ∧ Opening state) ?_
    ⟨SerialQueue.orderly_start hwf, .inl ⟨[], rfl, rfl⟩⟩ hrun
  rintro state event next ⟨horderly, hopening⟩ hstep
  exact ⟨horderly.step (callbackQueue_grows handler) hstep, hopening.step horderly.valid hstep⟩

theorem WellOrdered.of_sublist {given enqueued later : List Callback}
    (hsublist : given.Sublist enqueued) (hfirst : ∀ callback ∈ given.head?, callback = .connected)
    (hlater : enqueued = .connected :: later) (hother : .connected ∉ later)
    (honce : enqueued.countP Callback.isDisconnected ≤ 1) : WellOrdered given where
  first := hfirst
  connected := by
    refine (hsublist.count_le _).trans ?_
    rw [hlater, List.count_cons_self, List.count_eq_zero_of_not_mem hother]
  disconnected := hsublist.countP_le.trans honce

/-- Whatever happens to the connection, the handler, the processor and the service, and however late
the blocks run, nothing is given before `connected`, `connected` is given once, and `disconnected`
at most once. -/
theorem given_wellOrdered (handler : SocketHandler) (service : WebSocketService) (start : ℚ)
    (events : List (SerialQueue.Event EndpointEvent))
    (last : SerialQueue.State Endpoint Callback)
    (hrun : runQueued handler (opened (some service) start) events = .ok last) :
    WellOrdered last.performed := by
  obtain ⟨horderly, hopening⟩ := opening_of_run hrun
  obtain ⟨_, _, hconnection⟩ :=
    connection_of_run WSFrameParser.wf_fresh (SerialQueue.machine_of_run hrun)
  have hannounced := WebSocketConnection.announced_of_run hconnection
  obtain ⟨later, hlater, hother⟩ := hannounced.first
  refine .of_sublist ((List.sublist_append_left _ _).trans horderly.sublist) ?_ hlater hother
    hannounced.once
  intro callback hcallback
  rcases hopening with ⟨_, hnone, _⟩ | hgiven | ⟨hnone, _⟩
  · simp [hnone] at hcallback
  · rw [hgiven] at hcallback
    exact (Option.some.inj hcallback).symm
  · simp [hnone] at hcallback

/-- A message, and the end of the connection. -/
theorem given_wellOrdered_message :
    WellOrdered [.connected, .receivedData [1], .disconnected .noReasonCodeSent] :=
  given_wellOrdered ⟨fun _ => false⟩ ⟨none⟩ 0
    [.machine (.read (fun _ => 0) [0x82, 0x81, 0, 0, 0, 0, 1]), .work, .work,
      .machine (.connection ⟨.socketClosed, rfl⟩), .work]
    ⟨⟨⟨((WebSocketConnection.opened (some ⟨none⟩) 0).enqueue (.receivedData [1])).after
          ⟨fun _ => false⟩ .socketClosed,
        { frame := ⟨true, .binary, []⟩, masked := true }, 0⟩, [], true⟩,
      [], [.connected, .receivedData [1], .disconnected .noReasonCodeSent]⟩ (by decide +kernel)

end Endpoint

end KituraWebSocket
