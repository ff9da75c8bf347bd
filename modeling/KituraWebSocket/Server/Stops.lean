/-
# What stops a server

A fault stops the server with all its clients. `returns_iff` says which events cause one: two
kinds of upgrade requests whose headers have no values, an upgrade for a service whose timer
does not start, and a service that sends too much at once. Nothing that a client sends once it
is upgraded is among them.
-/

import KituraWebSocket.Connection.Stops
import KituraWebSocket.Server.Clients
import KituraWebSocket.Session.Service

namespace KituraWebSocket

open SwiftString

namespace Endpoint

/-- A connection that has not been freed is about to write a payload that is too long. -/
def Stops (endpoint : Endpoint) : EndpointEvent → Prop
  | .connection event => endpoint.held = true ∧ endpoint.session.connection.Stops event.1
  | .read _ _ | .retained _ => False

theorem step_returns_iff (handler : SocketHandler) {endpoint : Endpoint}
    (hwf : endpoint.session.parser.Wf) (event : EndpointEvent) :
    (∃ next, step handler endpoint event = .ok next) ↔ ¬ endpoint.Stops event := by
  cases event with
  | read clock bytes => exact iff_of_true (read_returns hwf clock bytes) id
  | retained kept => exact iff_of_true ⟨_, rfl⟩ id
  | connection event =>
    cases hheld : endpoint.held with
    | false =>
      refine iff_of_true ⟨endpoint, by simp [step, hheld]⟩ fun hstops => ?_
      rw [Stops, hheld] at hstops
      cases hstops.1
    | true =>
      rw [Stops, hheld, eq_self, true_and, ← WebSocketConnection.step_returns_iff handler]
      simp only [step, hheld, not_true_eq_false, if_false, bind_eq_ok]
      constructor
      · rintro ⟨next, connection, hconnection, _⟩
        exact ⟨connection, hconnection⟩
      · rintro ⟨connection, hconnection⟩
        exact ⟨_, connection, hconnection, rfl⟩

end Endpoint

namespace Server

open WSConnectionUpgradeFactory

variable {S V : Type} [DecidableEq S] [SwiftString S]

section Chosen

variable {factory : WSConnectionUpgradeFactory S V} {request : ServerRequest S}

/-- A request for version 13. -/
def Version13 (request : ServerRequest S) : Prop :=
  ∃ versions, request.headers "Sec-WebSocket-Version" = some (literal "13" :: versions)

/-- A service is chosen for a request with version 13 and a key whose path it is registered for. -/
theorem chosen_some_iff {service : V} :
    chosen factory request = .ok (some service) ↔
      Version13 request ∧ factory.registry request.path = some service ∧
        ∃ key keys, request.headers "Sec-WebSocket-Key" = some (key :: keys) := by
  rw [chosen, Version13]
  rcases request.headers "Sec-WebSocket-Version" with _ | _ | ⟨version, versions⟩
  · simp
  · simp
  · by_cases hversion : version = literal "13"
    · rcases request.headers "Sec-WebSocket-Key" with _ | _ | ⟨key, keys⟩ <;>
        cases factory.registry request.path <;> simp [hversion]
    · simp [hversion]

/-- The first of no versions or, where it matters, of no keys is read. -/
theorem chosen_faults_iff :
    (∃ fault, chosen factory request = .error fault) ↔
      request.headers "Sec-WebSocket-Version" = some [] ∨
        Version13 request ∧ (∃ service, factory.registry request.path = some service) ∧
          request.headers "Sec-WebSocket-Key" = some [] := by
  rw [chosen, Version13]
  rcases request.headers "Sec-WebSocket-Version" with _ | _ | ⟨version, versions⟩
  · simp
  · simp
  · by_cases hversion : version = literal "13"
    · rcases request.headers "Sec-WebSocket-Key" with _ | _ | ⟨key, keys⟩ <;>
        cases factory.registry request.path <;> simp [hversion]
    · simp [hversion]

end Chosen

/-- An upgrade request that stops the program: it has a header without values, or the timer of the
service that it is for does not start. -/
def UpgradeStops (schedule : ℤ → ℤ → Except Fault Unit) (factory : WSConnectionUpgradeFactory S V)
    (settings : V → WebSocketService) (request : ServerRequest S) : Prop :=
  (request.headers "Sec-WebSocket-Version" = some [] ∨
    Version13 request ∧ (∃ service, factory.registry request.path = some service) ∧
      request.headers "Sec-WebSocket-Key" = some []) ∨
  ∃ service, (Version13 request ∧ factory.registry request.path = some service ∧
      ∃ key keys, request.headers "Sec-WebSocket-Key" = some (key :: keys)) ∧
    ¬ WebSocketConnection.TimerStarts schedule (settings service)

/-- What stops the program. -/
def Stops (schedule : ℤ → ℤ → Except Fault Unit) (server : Server S V) : ServerEvent S V → Prop
  | .registry _ => False
  | .upgrade _ settings request _ _ => UpgradeStops schedule server.factory settings request
  | .client place event =>
    ∃ client, server.clients[place]? = some client ∧
      ∃ own ∈ event.machine?, client.state.machine.Stops own

section Step

variable {sha1 : S → List UInt8} {base64 : List UInt8 → S}
  {schedule : ℤ → ℤ → Except Fault Unit}

/-- The parsers of all clients are between two calls. -/
def Valid (server : Server S V) : Prop :=
  ∀ client ∈ server.clients, client.state.machine.session.parser.Wf

theorem Valid.step {server next : Server S V} {event : ServerEvent S V} (hvalid : server.Valid)
    (hstep : Server.step sha1 base64 schedule server event = .ok next) : next.Valid := by
  obtain ⟨grown, newcomer, hgrown, hclients, hjoins⟩ := keeps_clients server event next hstep
  intro client hclient
  rw [hclients, List.mem_append, Option.mem_toList] at hclient
  rcases hclient with hold | hnew
  · obtain ⟨index, hindex⟩ := List.mem_iff_getElem?.mp hold
    obtain ⟨earlier, hearlier, hrun⟩ := (Family.giveFrom_ok hgrown).2 index client hindex
    have hmachine := SerialQueue.machine_of_run (Family.Member.run_ok.mp hrun).2
    exact (Endpoint.connection_of_run (hvalid earlier (List.mem_of_getElem? hearlier)) hmachine).1
  · obtain ⟨settings, request, response, now, _, _, hjoined⟩ := hjoins client hnew
    rw [hjoined]
    exact WSFrameParser.wf_fresh

/-- An event of a client stops the server if it stops the client. -/
theorem client_returns_iff {server : Server S V} (hvalid : server.Valid) (place : ℕ)
    (event : SerialQueue.Event EndpointEvent) :
    (∃ next, server.step sha1 base64 schedule (.client place event) = .ok next) ↔
      ¬ server.Stops schedule (.client place event) := by
  have hone (client : Client V) (hclient : server.clients[place]? = some client) :
      (∃ state, SerialQueue.step (Endpoint.callbackQueue client.label.2) client.state event =
          .ok state) ↔
        ∀ own ∈ event.machine?, ¬ client.state.machine.Stops own := by
    rw [SerialQueue.step_returns_iff]
    exact forall₂_congr fun own _ => Endpoint.step_returns_iff client.label.2
      (hvalid client (List.mem_of_getElem? hclient)) own
  have hgive : (∃ next, server.step sha1 base64 schedule (.client place event) = .ok next) ↔
      ∃ clients, Family.giveFrom clientStep (own (S := S) (V := V) (.client place event)) 0
        server.clients = .ok clients := by
    simp only [step, bind_eq_ok]
    constructor
    · rintro ⟨next, clients, hclients, _⟩
      exact ⟨clients, hclients⟩
    · rintro ⟨clients, hclients⟩
      exact ⟨_, clients, hclients, rfl⟩
  rw [hgive, Family.giveFrom_returns_iff]
  simp only [Nat.zero_add, Family.Member.run_returns_iff]
  constructor
  · rintro hall ⟨client, hclient, hstops⟩
    have hown := hall place client hclient
    rw [own, if_pos rfl, FallibleRun.run_singleton, hone client hclient] at hown
    obtain ⟨other, hother, hstops⟩ := hstops
    exact hown other hother hstops
  · intro hnone index client hclient
    by_cases hindex : index = place
    · subst hindex
      rw [own, if_pos rfl, FallibleRun.run_singleton, hone client hclient]
      exact fun other hother hstops => hnone ⟨client, hclient, other, hother, hstops⟩
    · rw [own, if_neg hindex]
      exact ⟨client.state, rfl⟩

theorem upgrade_returns_iff (server : Server S V) (handler : SocketHandler)
    (settings : V → WebSocketService) (request : ServerRequest S) (response : ServerResponse S)
    (now : ℚ) :
    (∃ next, server.step sha1 base64 schedule (.upgrade handler settings request response now) =
        .ok next) ↔ ¬ UpgradeStops schedule server.factory settings request := by
  simp only [step_upgrade_iff, UpgradeStops, ← chosen_faults_iff, ← chosen_some_iff]
  rcases chosen server.factory request with fault | _ | service <;> simp

theorem step_returns_iff {server : Server S V} (hvalid : server.Valid) (event : ServerEvent S V) :
    (∃ next, server.step sha1 base64 schedule event = .ok next) ↔
      ¬ server.Stops schedule event := by
  cases event with
  | registry operation => exact iff_of_true ⟨_, rfl⟩ id
  | client place event => exact client_returns_iff hvalid place event
  | upgrade handler settings request response now =>
    exact upgrade_returns_iff server handler settings request response now

end Step

/-- A run of a server returns exactly if none of the events that stop it happens in it. In
particular no bytes that a client sends stop it. -/
theorem returns_iff (sha1 : S → List UInt8) (base64 : List UInt8 → S)
    (schedule : ℤ → ℤ → Except Fault Unit) (events : List (ServerEvent S V)) :
    (∃ server, run sha1 base64 schedule events = .ok server) ↔
      FallibleRun.NoStep (step sha1 base64 schedule) {} events (Stops schedule) :=
  FallibleRun.returns_iff_noStep Valid (fun client hclient => by simp at hclient)
    (fun _ _ _ hvalid hstep => hvalid.step hstep)
    (fun _ event hvalid => step_returns_iff hvalid event)

end Server

end KituraWebSocket
