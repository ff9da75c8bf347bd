/-
# Servers

A server is the registry with the clients that have been upgraded, each a connection with its
handler and its callback queue. Registrations come and go, requests are upgraded, and things
happen to the clients, in any order. `clients_of_run` says who the clients are, and that
none of them is touched by what happens to the others or to the registry.
-/

import KituraWebSocket.Session.Delivery
import KituraWebSocket.Support.Family
import KituraWebSocket.Upgrade.Registry

namespace KituraWebSocket

open SwiftString WSConnectionUpgradeFactory

/-- A client: the service that it was upgraded for and its handler, and its endpoint with the
callback queue. -/
abbrev Client (V : Type) := Family.Member (V × SocketHandler) (SerialQueue.State Endpoint Callback)

structure Server (S V : Type) where
  factory : WSConnectionUpgradeFactory S V := {}
  clients : List (Client V) := []

inductive ServerEvent (S V : Type)
  | registry (operation : RegistryOperation S V)
  | /-- An upgrade request on the socket of a handler, at a time when the services have these
    settings. -/
    upgrade (handler : SocketHandler) (settings : V → WebSocketService)
      (request : ServerRequest S) (response : ServerResponse S) (now : ℚ)
  | /-- An event of the client at a place, or a turn of its callback queue. -/
    client (place : ℕ) (event : SerialQueue.Event EndpointEvent)

namespace Server

variable {S V : Type}

/-- The machine of a client. -/
abbrev clientStep (label : V × SocketHandler) :
    SerialQueue.State Endpoint Callback → SerialQueue.Event EndpointEvent →
      Except Fault (SerialQueue.State Endpoint Callback) :=
  SerialQueue.step (Endpoint.callbackQueue label.2)

/-- The events of the client at a place in an event of the server. -/
def own : ServerEvent S V → ℕ → List (SerialQueue.Event EndpointEvent)
  | .client place event, other => if other = place then [event] else []
  | .registry _, _ | .upgrade _ _ _ _ _, _ => []

/-- The client of a processor whose handler is set. -/
def joining (service : V) (handler : SocketHandler)
    (processor : WSSocketProcessor WebSocketConnection) : Client V where
  label := (service, handler)
  state := SerialQueue.start (Endpoint.callbackQueue handler)
    { session := { processor with connection := processor.connection.handlerSet } }

section Run

variable [DecidableEq S] [SwiftString S] (sha1 : S → List UInt8) (base64 : List UInt8 → S)
  (schedule : ℤ → ℤ → Except Fault Unit)

/-- One event. KituraNet gives a processor that `upgrade` returns its handler. -/
def step (server : Server S V) : ServerEvent S V → Except Fault (Server S V)
  | .registry operation => .ok { server with factory := server.factory.apply operation }
  | .upgrade handler settings request response now => do
    let result ← server.factory.upgrade sha1 base64 schedule settings request response now
    match result.processor with
    | none => return server
    | some (service, processor) =>
      return { server with clients := server.clients ++ [joining service handler processor] }
  | .client place event => do
    let clients ← Family.giveFrom clientStep (own (S := S) (V := V) (.client place event)) 0
      server.clients
    return { server with clients := clients }

/-- A sequence of events, from the start of the program. -/
def run (events : List (ServerEvent S V)) : Except Fault (Server S V) :=
  FallibleRun.run (step sha1 base64 schedule) {} events

end Run

/-- The operations on the registry among some events. -/
def operation : ServerEvent S V → Option (RegistryOperation S V)
  | .registry operation => some operation
  | .upgrade _ _ _ _ _ | .client _ _ => none

def operations (events : List (ServerEvent S V)) : List (RegistryOperation S V) :=
  events.filterMap operation

section Admission

variable [DecidableEq S] [SwiftString S]

/-- The service that a request is upgraded for. It asks for version 13 and has a key, and its path
is in lower case and was registered last for the service. -/
def admission (history : List (RegistryOperation S V)) (request : ServerRequest S) : Option V :=
  match request.headers "Sec-WebSocket-Version", request.headers "Sec-WebSocket-Key" with
  | some (version :: _), some (_ :: _) =>
    if version = literal "13" ∧ lowercased request.path = request.path then
      lastService history request.path
    else none
  | _, _ => none

/-- The clients that join in some events, after a history of the registry. -/
def admissions (history : List (RegistryOperation S V)) :
    List (ServerEvent S V) → List (V × SocketHandler)
  | [] => []
  | .registry operation :: events => admissions (history ++ [operation]) events
  | .upgrade handler _ request _ _ :: events =>
    ((admission history request).map fun service => (service, handler)).toList ++
      admissions history events
  | .client _ _ :: events => admissions history events

end Admission

section Upgrade

variable [DecidableEq S] [SwiftString S]

/-- The client of a new connection. -/
def newcomer (handler : SocketHandler) (settings : V → WebSocketService) (now : ℚ) (service : V) :
    Client V :=
  joining service handler (.fresh (.created (some (settings service)) now))

/-- A client joins for the service that is chosen, once its timer has started. -/
theorem step_upgrade_iff (sha1 : S → List UInt8) (base64 : List UInt8 → S)
    (schedule : ℤ → ℤ → Except Fault Unit) {server next : Server S V} {handler : SocketHandler}
    {settings : V → WebSocketService} {request : ServerRequest S} {response : ServerResponse S}
    {now : ℚ} :
    server.step sha1 base64 schedule (.upgrade handler settings request response now) =
        .ok next ↔
      chosen server.factory request = .ok none ∧ next = server ∨
        ∃ service, chosen server.factory request = .ok (some service) ∧
          WebSocketConnection.TimerStarts schedule (settings service) ∧
          next = { server with
            clients := server.clients ++ [newcomer handler settings now service] } := by
  simp only [step, bind_eq_ok]
  constructor
  · rintro ⟨result, hresult, hnext⟩
    rcases (upgrade_processor_iff sha1 base64 schedule settings server.factory response now).mp
      ⟨result, hresult, rfl⟩ with ⟨hchosen, hnone⟩ | ⟨service, hchosen, hstarts, hprocessor⟩
    · rw [hnone] at hnext
      exact .inl ⟨hchosen, (Except.ok.inj hnext).symm⟩
    · rw [hprocessor] at hnext
      exact .inr ⟨service, hchosen, hstarts, (Except.ok.inj hnext).symm⟩
  · rintro (⟨hchosen, rfl⟩ | ⟨service, hchosen, hstarts, rfl⟩)
    · obtain ⟨result, hresult, hnone⟩ := (upgrade_processor_iff sha1 base64 schedule settings
        next.factory response now).mpr (.inl ⟨hchosen, rfl⟩)
      exact ⟨result, hresult, by rw [hnone]; rfl⟩
    · obtain ⟨result, hresult, hprocessor⟩ := (upgrade_processor_iff sha1 base64 schedule settings
        server.factory response now).mpr (.inr ⟨service, hchosen, hstarts, rfl⟩)
      exact ⟨result, hresult, by rw [hprocessor]; rfl⟩

/-- The service chosen from the registry after a history is the one that admits the request. -/
theorem admission_of_chosen {history : List (RegistryOperation S V)} {request : ServerRequest S}
    {service : Option V} (hchosen : chosen (afterAll history) request = .ok service) :
    service = admission history request := by
  have hregistry := registry_afterAll history request.path
  rw [chosen] at hchosen
  rw [admission]
  cases hversions : request.headers "Sec-WebSocket-Version" with
  | none => simpa [hversions, eq_comm] using hchosen
  | some versions =>
    cases versions with
    | nil => simp [hversions] at hchosen
    | cons version versions =>
      by_cases hversion : version = literal "13"
      · cases hkeys : request.headers "Sec-WebSocket-Key" with
        | none => simpa [hversions, hversion, hkeys, eq_comm] using hchosen
        | some keys =>
          cases keys with
          | nil =>
            cases hfound : (afterAll history).registry request.path <;>
              simp [hversions, hversion, hkeys, hfound] at hchosen
            exact hchosen.symm
          | cons key keys =>
            have hservice : service = (afterAll history).registry request.path := by
              cases hfound : (afterAll history).registry request.path <;>
                simpa [hversions, hversion, hkeys, hfound, eq_comm] using hchosen
            simp [hversion, hservice, hregistry]
      · have hnone : service = none := by simpa [hversions, hversion, eq_comm] using hchosen
        rw [hnone]
        cases request.headers "Sec-WebSocket-Key" with
        | none => rfl
        | some keys => cases keys <;> simp [hversion]

end Upgrade

section Runs

variable [DecidableEq S] [SwiftString S] {sha1 : S → List UInt8} {base64 : List UInt8 → S}
  {schedule : ℤ → ℤ → Except Fault Unit}

/-- A client joins with an upgrade whose request is admitted. -/
def Joins (server : Server S V) (event : ServerEvent S V) (client : Client V) : Prop :=
  ∃ settings request response now,
    event = .upgrade client.label.2 settings request response now ∧
      chosen server.factory request = .ok (some client.label.1) ∧
      client = newcomer client.label.2 settings now client.label.1

/-- Giving the clients no events changes nothing. -/
theorem giveFrom_nothing (clients : List (Client V)) (place : ℕ) :
    Family.giveFrom clientStep (fun _ => []) place clients = .ok clients := by
  induction clients generalizing place with
  | nil => rfl
  | cons client clients ih =>
    rw [Family.giveFrom, ih]
    rfl

/-- A server keeps its clients. -/
theorem keeps_clients :
    Family.Keeps clientStep (step sha1 base64 schedule) clients own (Joins (S := S) (V := V)) := by
  intro server event next hstep
  cases event with
  | registry operation =>
    cases hstep
    exact ⟨server.clients, none, giveFrom_nothing _ 0, by simp, by simp⟩
  | client place event =>
    simp only [step, bind_eq_ok] at hstep
    obtain ⟨clients, hclients, hnext⟩ := hstep
    cases hnext
    exact ⟨clients, none, hclients, by simp, by simp⟩
  | upgrade handler settings request response now =>
    rcases (step_upgrade_iff sha1 base64 schedule).mp hstep with
      ⟨-, rfl⟩ | ⟨service, hchosen, -, rfl⟩
    · exact ⟨next.clients, none, giveFrom_nothing _ 0, by simp, by simp⟩
    · refine ⟨server.clients, some (newcomer handler settings now service),
        giveFrom_nothing _ 0, rfl, ?_⟩
      rintro client ⟨⟩
      exact ⟨settings, request, response, now, rfl, hchosen, rfl⟩

theorem admissions_concat (history : List (RegistryOperation S V))
    (events : List (ServerEvent S V)) (event : ServerEvent S V) :
    admissions history (events ++ [event]) =
      admissions history events ++ admissions (history ++ operations events) [event] := by
  induction events generalizing history with
  | nil => simp [admissions, operations]
  | cons first events ih =>
    cases first with
    | registry operation =>
      show admissions (history ++ [operation]) (events ++ [event]) = _
      rw [ih, List.append_assoc]
      rfl
    | upgrade handler settings request response now =>
      show _ ++ admissions history (events ++ [event]) = _
      rw [ih, ← List.append_assoc]
      rfl
    | client place event =>
      show admissions history (events ++ _) = _
      rw [ih]
      rfl

/-- The registry is that of its history, and the clients are those that were admitted. -/
structure Follows (events : List (ServerEvent S V)) (server : Server S V) : Prop where
  factory : server.factory = afterAll (operations events)
  labels : server.clients.map Family.Member.label = admissions [] events

theorem Follows.step {events : List (ServerEvent S V)} {server next : Server S V}
    {event : ServerEvent S V} (hfollows : Follows events server)
    (hstep : Server.step sha1 base64 schedule server event = .ok next) :
    Follows (events ++ [event]) next := by
  obtain ⟨hfactory, hlabels⟩ := hfollows
  have hoperations : operations (events ++ [event]) = operations events ++ operations [event] :=
    List.filterMap_append
  cases event with
  | registry operation =>
    cases hstep
    constructor
    · rw [hoperations, afterAll, List.foldl_append, ← afterAll, ← hfactory]
      rfl
    · rw [admissions_concat]
      exact hlabels.trans (List.append_nil _).symm
  | client place event =>
    simp only [Server.step, bind_eq_ok] at hstep
    obtain ⟨clients, hclients, hnext⟩ := hstep
    cases hnext
    constructor
    · rw [hoperations]
      exact hfactory.trans (congrArg afterAll (List.append_nil _).symm)
    · rw [admissions_concat]
      exact (Family.giveFrom_labels hclients).trans (hlabels.trans (List.append_nil _).symm)
  | upgrade handler settings request response now =>
    have hsame : operations (events ++ [.upgrade handler settings request response now]) =
        operations events := by
      rw [hoperations]
      exact List.append_nil _
    have hadmitted (service : Option V) (hchosen : chosen server.factory request = .ok service) :
        admissions [] (events ++ [.upgrade handler settings request response now]) =
          server.clients.map Family.Member.label ++
            (service.map fun service => (service, handler)).toList := by
      rw [hfactory] at hchosen
      rw [admissions_concat, hlabels, admission_of_chosen hchosen]
      exact congrArg _ (List.append_nil _)
    rcases (step_upgrade_iff sha1 base64 schedule).mp hstep with
      ⟨hchosen, rfl⟩ | ⟨service, hchosen, -, rfl⟩
    · refine ⟨hsame.symm ▸ hfactory, ?_⟩
      rw [hadmitted none hchosen]
      exact (List.append_nil _).symm
    · refine ⟨hsame.symm ▸ hfactory, ?_⟩
      rw [hadmitted (some service) hchosen, List.map_append]
      rfl

theorem follows_of_run {events : List (ServerEvent S V)} {server : Server S V}
    (hrun : run sha1 base64 schedule events = .ok server) : Follows events server :=
  FallibleRun.run_history_invariant Follows ⟨rfl, rfl⟩
    (fun _ _ _ _ hfollows hstep => hfollows.step hstep) hrun

/-- A client has been upgraded for the service that was registered last for the path of its
request, after all the clients in front of it, and it has gone its own way since. -/
structure Served (events : List (ServerEvent S V)) (place : ℕ) (client : Client V) : Prop where
  upgraded : ∃ before settings request response now after,
    events = before ++ .upgrade client.label.2 settings request response now :: after ∧
      admission (operations before) request = some client.label.1 ∧
      (admissions [] before).length = place ∧
      Endpoint.runQueued client.label.2 (.opened (some (settings client.label.1)) now)
        (after.flatMap fun event => own event place) = .ok client.state

/-- After any events the clients of a server are those whose requests were admitted, in that order.
Each was upgraded for the service that had been registered last for its path, and is now where its
own events alone would have led it, whatever has happened to the other clients and to the registry.
-/
theorem clients_of_run (sha1 : S → List UInt8) (base64 : List UInt8 → S)
    (schedule : ℤ → ℤ → Except Fault Unit) (events : List (ServerEvent S V)) (server : Server S V)
    (hrun : run sha1 base64 schedule events = .ok server) :
    server.clients.map Family.Member.label = admissions [] events ∧
      ∀ (place : ℕ) (client : Client V), server.clients[place]? = some client →
        Served events place client := by
  refine ⟨(follows_of_run hrun).labels, fun place client hclient => ?_⟩
  obtain ⟨before, event, after, host, first, hsplit, hbefore, hplace, hjoins, hsince⟩ :=
    (Family.member_of_run keeps_clients rfl hrun place client hclient).joined
  obtain ⟨settings, request, response, now, rfl, hchosen, hfirst⟩ := hjoins
  have hfollows := follows_of_run hbefore
  rw [hfollows.factory] at hchosen
  have hopened : first = SerialQueue.start (Endpoint.callbackQueue client.label.2)
      (.opened (some (settings client.label.1)) now) := (Family.Member.mk.inj hfirst).2
  rw [hopened] at hsince
  refine ⟨before, settings, request, response, now, after, hsplit,
    (admission_of_chosen hchosen).symm, ?_, hsince⟩
  rw [← hfollows.labels, List.length_map, hplace]

end Runs

/-- Two clients of a service, one of which sends a message. -/
def twoClients : List (ServerEvent String WebSocketService) :=
  [.registry (.register ⟨none⟩ "Chat"),
    .upgrade ⟨fun _ => false⟩ id (sampleRequest "/chat") ⟨fun _ => none⟩ 0,
    .upgrade ⟨fun _ => false⟩ id (sampleRequest "/chat") ⟨fun _ => none⟩ 1,
    .client 1 .work, .client 1 (.machine (.read (fun _ => 2) [0x82, 0x81, 0, 0, 0, 0, 1])),
    .registry .clear, .client 1 .work]

/-- The second has given its service the message, the first not even `connected`. -/
theorem clients_of_run_two :
    ∃ server, run sampleDigest sampleAccept sampleSchedule twoClients = .ok server ∧
      server.clients.map (fun client => client.state.performed) =
        [[], [.connected, .receivedData [1]]] ∧
      server.clients.map Family.Member.label = admissions [] twoClients ∧
      ∀ (place : ℕ) (client : Client WebSocketService), server.clients[place]? = some client →
        Served twoClients place client := by
  have hgiven : (run sampleDigest sampleAccept sampleSchedule twoClients).map (fun server =>
      server.clients.map fun client => client.state.performed) =
        .ok [[], [.connected, .receivedData [1]]] := by decide +kernel
  obtain ⟨server, hrun, hserver⟩ := map_eq_ok.mp hgiven
  exact ⟨server, hrun, hserver,
    clients_of_run sampleDigest sampleAccept sampleSchedule twoClients server hrun⟩

end Server

end KituraWebSocket
