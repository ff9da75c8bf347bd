/-
# Looking up a service

The registry after any history of registrations, and what an upgrade finds in it. Its
keys are all lower case, and a lower-case path is served by the last registration
that reaches it (`registry_afterAll`). The upgrade looks up the path of the request as
it is, and starts the timer of the service: `servesLast_iff` says when neither matters.
-/

import KituraWebSocket.WSConnectionUpgradeFactory

namespace KituraWebSocket

open SwiftString

/-- What happens to the registry. -/
inductive RegistryOperation (S V : Type)
  | /-- `WebSocket.register(service:onPath:)`. -/
    register (service : V) (path : S)
  | /-- `WebSocket.unregister(path:)`. -/
    unregister (path : S)
  | /-- `factory.clear()`. -/
    clear
  deriving DecidableEq, Repr

namespace RegistryOperation

/-- The service that an operation registers. -/
def service? {S V : Type} : RegistryOperation S V → Option V
  | .register service _ => some service
  | .unregister _ | .clear => none

end RegistryOperation

namespace WSConnectionUpgradeFactory

variable {S V : Type} [SwiftString S]

/-- The two normalisations can be made in either order. -/
theorem slashed_lowercased (path : S) : slashed (lowercased path) = lowercased (slashed path) := by
  rw [slashed, slashed, hasPrefix_lowercased]
  split
  · rfl
  · exact (lowercased_slash path).symm

/-- The key of a registration is a path in lower case that the registration affects. -/
theorem eq_key_iff {path onPath : S} :
    path = slashed (lowercased onPath) ↔
      lowercased path = path ∧ lowercased (slashed onPath) = lowercased path := by
  rw [slashed_lowercased]
  constructor
  · rintro rfl
    exact ⟨lowercased_lowercased _, (lowercased_lowercased _).symm⟩
  · rintro ⟨hlower, haffects⟩
    rw [haffects, hlower]

variable [DecidableEq S]

/-- One operation. -/
def apply (factory : WSConnectionUpgradeFactory S V) :
    RegistryOperation S V → WSConnectionUpgradeFactory S V
  | .register service path => WebSocket.register factory service path
  | .unregister path => WebSocket.unregister factory path
  | .clear => factory.clear

/-- The factory after a history of operations. -/
def afterAll (history : List (RegistryOperation S V)) : WSConnectionUpgradeFactory S V :=
  history.foldl apply {}

/-- An operation affects a path if, with a missing leading slash added, its path is the same up
to letter case. -/
def Affects (path : S) : RegistryOperation S V → Prop
  | .register _ onPath | .unregister onPath => lowercased (slashed onPath) = lowercased path
  | .clear => True

instance (path : S) (operation : RegistryOperation S V) :
    Decidable (Affects path operation) := by
  cases operation <;> unfold Affects <;> infer_instance

/-- The last operation of a history that affects a path. -/
def lastAffecting (history : List (RegistryOperation S V)) (path : S) :
    Option (RegistryOperation S V) :=
  history.reverse.find? fun operation => Affects path operation

/-- The service that a path should be served by. -/
def lastService (history : List (RegistryOperation S V)) (path : S) : Option V :=
  (lastAffecting history path).bind RegistryOperation.service?

theorem lastService_concat (history : List (RegistryOperation S V))
    (operation : RegistryOperation S V) (path : S) :
    lastService (history ++ [operation]) path =
      if Affects path operation then operation.service? else lastService history path := by
  rw [lastService, lastAffecting, List.reverse_append, List.reverse_singleton,
    List.singleton_append, List.find?_cons]
  by_cases haffects : Affects path operation
  · simp [haffects]
  · simp only [haffects, decide_false, if_false]
    rfl

/-- A registration reaches a path in lower case exactly if it affects it, and no other path. -/
theorem registry_update (registry : S → Option V) (onPath path : S) (service : Option V) :
    Function.update registry (slashed (lowercased onPath)) service path =
      if lowercased path = path ∧ lowercased (slashed onPath) = lowercased path then service
      else registry path := by
  by_cases hkey : path = slashed (lowercased onPath)
  · rw [if_pos (eq_key_iff.mp hkey), hkey, Function.update_self]
  · rw [if_neg fun h => hkey (eq_key_iff.mpr h), Function.update_of_ne hkey]

/-- After a history a path in lower case has the service of the last operation that affects it, and
no other path has one. -/
theorem registry_afterAll (history : List (RegistryOperation S V)) (path : S) :
    (afterAll history).registry path =
      if lowercased path = path then lastService history path else none := by
  induction history using List.reverseRecOn with
  | nil => simp [afterAll, lastService, lastAffecting]
  | append_singleton before operation ih =>
    have hlast : afterAll (before ++ [operation]) = (afterAll before).apply operation := by
      simp [afterAll]
    rw [hlast, lastService_concat]
    cases operation with
    | register service onPath =>
      show Function.update (afterAll before).registry _ (some service) path = _
      rw [registry_update, ih]
      by_cases hlower : lowercased path = path
      · simp [hlower, Affects, RegistryOperation.service?]
      · simp [hlower]
    | unregister onPath =>
      show Function.update (afterAll before).registry _ none path = _
      rw [registry_update, ih]
      by_cases hlower : lowercased path = path
      · simp [hlower, Affects, RegistryOperation.service?]
      · simp [hlower]
    | clear => simp [apply, clear, Affects, RegistryOperation.service?]

/-- The service that `upgrade` creates a processor for, if any. -/
def chosen (factory : WSConnectionUpgradeFactory S V) (request : ServerRequest S) :
    Except Fault (Option V) :=
  match request.headers "Sec-WebSocket-Version" with
  | none => .ok none
  | some [] => .error .outOfRange
  | some (version :: _) =>
    if version ≠ literal "13" then .ok none
    else match request.headers "Sec-WebSocket-Key", factory.registry request.path with
    | some (_ :: _), some service => .ok (some service)
    | some [], some _ => .error .outOfRange
    | none, _ | _, none => .ok none

/-- A request with version 13 and a key is for the service of its path, if there is one. -/
theorem chosen_eq_registry (factory : WSConnectionUpgradeFactory S V) {request : ServerRequest S}
    {versions keys : List S} {key : S}
    (hversion : request.headers "Sec-WebSocket-Version" = some (literal "13" :: versions))
    (hkey : request.headers "Sec-WebSocket-Key" = some (key :: keys)) :
    chosen factory request = .ok (factory.registry request.path) := by
  rw [chosen, hversion, hkey]
  cases factory.registry request.path <;> simp

section Upgrade

variable (sha1 : S → List UInt8) (base64 : List UInt8 → S)
  (schedule : ℤ → ℤ → Except Fault Unit) (settings : V → WebSocketService)
  {request : ServerRequest S}

/-- The upgrade returns a new processor for the service that is chosen, once its timer has
started, or none if none is chosen. -/
theorem upgrade_processor_iff (factory : WSConnectionUpgradeFactory S V)
    (response : ServerResponse S) (now : ℚ)
    {processor : Option (V × WSSocketProcessor WebSocketConnection)} :
    (∃ result, upgrade sha1 base64 schedule settings factory request response now = .ok result ∧
        result.processor = processor) ↔
      chosen factory request = .ok none ∧ processor = none ∨
        ∃ service, chosen factory request = .ok (some service) ∧
          WebSocketConnection.TimerStarts schedule (settings service) ∧
          processor = some (service, WSSocketProcessor.fresh
            (WebSocketConnection.created (some (settings service)) now)) := by
  rw [upgrade, chosen]
  rcases request.headers "Sec-WebSocket-Version" with _ | _ | ⟨version, versions⟩
  · simp [eq_comm]
  · simp [firstValue]
  · by_cases hversion : version = literal "13"
    · rcases request.headers "Sec-WebSocket-Key" with _ | _ | ⟨key, keys⟩ <;>
        cases factory.registry request.path <;>
        simp [firstValue, hversion, bind_eq_ok, WebSocketConnection.init_eq_ok,
          @eq_comm _ _ processor]
    · simp [firstValue, hversion, eq_comm]

/-- The upgrade returns a processor for the service that was registered last, and its connection
is one of this service, if one was registered. Otherwise it returns none. -/
def ServesLast (history : List (RegistryOperation S V)) (request : ServerRequest S)
    (response : ServerResponse S) (now : ℚ) : Prop :=
  ∃ result,
    upgrade sha1 base64 schedule settings (afterAll history) request response now = .ok result ∧
    result.processor.map (fun served => (served.1, served.2.connection.service)) =
      (lastService history request.path).map fun service => (service, some (settings service))

theorem lastService_eq_some {history : List (RegistryOperation S V)} {path : S} {service : V} :
    lastService history path = some service ↔
      ∃ onPath, lastAffecting history path = some (.register service onPath) := by
  rw [lastService]
  cases lastAffecting history path with
  | none => simp
  | some operation => cases operation <;> simp [RegistryOperation.service?]

/-- A request with version 13 and a key is served by the last registration that affects its path,
or by nobody where the last operation that affects it is no registration, exactly when after a
registration the path is in lower case already and the timer of the service starts. -/
theorem servesLast_iff (history : List (RegistryOperation S V)) {versions keys : List S} {key : S}
    (hversion : request.headers "Sec-WebSocket-Version" = some (literal "13" :: versions))
    (hkey : request.headers "Sec-WebSocket-Key" = some (key :: keys))
    (response : ServerResponse S) (now : ℚ) :
    ServesLast sha1 base64 schedule settings history request response now ↔
      ∀ service onPath, lastAffecting history request.path = some (.register service onPath) →
        lowercased request.path = request.path ∧
          WebSocketConnection.TimerStarts schedule (settings service) := by
  have hchosen := chosen_eq_registry (afterAll history) hversion hkey
  rw [registry_afterAll] at hchosen
  have hupgrade (processor : Option (V × WSSocketProcessor WebSocketConnection)) :=
    @upgrade_processor_iff S V _ _ sha1 base64 schedule settings request (afterAll history)
      response now processor
  constructor
  · rintro ⟨result, hresult, hserved⟩ service onPath hlast
    rw [lastService_eq_some.mpr ⟨onPath, hlast⟩] at hchosen hserved
    rcases (hupgrade _).mp ⟨result, hresult, rfl⟩ with ⟨-, hnone⟩ | ⟨found, hfound, hstarts, -⟩
    · rw [hnone] at hserved
      cases hserved
    · rw [hchosen] at hfound
      split at hfound <;> cases hfound
      exact ⟨‹_›, hstarts⟩
  · intro hcondition
    rw [ServesLast]
    cases hlast : lastService history request.path with
    | none =>
      rw [hlast, ite_self] at hchosen
      obtain ⟨result, hresult, hnone⟩ := (hupgrade none).mpr (.inl ⟨hchosen, rfl⟩)
      exact ⟨result, hresult, by rw [hnone]; rfl⟩
    | some service =>
      obtain ⟨onPath, hregister⟩ := lastService_eq_some.mp hlast
      obtain ⟨hlower, hstarts⟩ := hcondition service onPath hregister
      rw [hlast, if_pos hlower] at hchosen
      obtain ⟨result, hresult, hprocessor⟩ :=
        (hupgrade _).mpr (.inr ⟨service, hchosen, hstarts, rfl⟩)
      exact ⟨result, hresult, by rw [hprocessor]; rfl⟩

end Upgrade

/-- A request with version 13 and a key. -/
def sampleRequest (path : String) : ServerRequest String where
  headers
    | "Sec-WebSocket-Version" => some ["13"]
    | "Sec-WebSocket-Key" => some ["dGhlIHNhbXBsZSBub25jZQ=="]
    | _ => none
  path := path

/-- The digest for its key. -/
def sampleDigest (_ : String) : List UInt8 :=
  [0xb3, 0x7a, 0x4f, 0x2c, 0xc0, 0x62, 0x4f, 0x16, 0x90, 0xf6, 0x46, 0x06, 0xcf, 0x38, 0x59, 0x45,
    0xb2, 0xbe, 0xc4, 0xea]

/-- The encoding of the digest. -/
def sampleAccept (_ : List UInt8) : String := "s3pPLMBiTxaQ9kYGzzhZRbK+xOo="

/-- A timer that takes every interval and leeway that are not negative. -/
def sampleSchedule (interval leeway : ℤ) : Except Fault Unit :=
  if 0 ≤ interval ∧ 0 ≤ leeway then .ok () else .error .overflow

/-- A service registered with capitals, looked up without. -/
theorem servesLast_iff_lower_case :
    ServesLast sampleDigest sampleAccept sampleSchedule (fun service : WebSocketService => service)
        [.register ⟨some 60⟩ "Chat"] (sampleRequest "/chat") ⟨fun _ => none⟩ 0 ↔
      ∀ service onPath,
        lastAffecting [.register (⟨some 60⟩ : WebSocketService) "Chat"] "/chat" =
            some (.register service onPath) →
          lowercased "/chat" = "/chat" ∧
            WebSocketConnection.TimerStarts sampleSchedule service := by
  have hversion : (sampleRequest "/chat").headers "Sec-WebSocket-Version" =
    some (literal "13" :: []) := rfl
  exact servesLast_iff sampleDigest sampleAccept sampleSchedule _ _ hversion rfl _ _

/-- A service registered with capitals, and looked up by the same path. -/
theorem not_servesLast_capitals :
    ¬ ServesLast sampleDigest sampleAccept sampleSchedule
      (fun service : WebSocketService => service)
      [.register ⟨none⟩ "/Chat"] (sampleRequest "/Chat") ⟨fun _ => none⟩ 0 := by
  rintro ⟨result, hresult, hserved⟩
  have hchosen : chosen (afterAll [.register (⟨none⟩ : WebSocketService) "/Chat"])
    (sampleRequest "/Chat") = .ok none := by decide +kernel
  rcases (upgrade_processor_iff sampleDigest sampleAccept sampleSchedule _ _ _ _).mp
    ⟨result, hresult, rfl⟩ with ⟨-, hnone⟩ | ⟨service, hservice, -⟩
  · rw [hnone] at hserved
    revert hserved
    decide +kernel
  · rw [hchosen] at hservice
    cases hservice

end WSConnectionUpgradeFactory

end KituraWebSocket
