/-
# The upgrade

The registry of services and `upgrade`, which looks up the service for the path of
an upgrade request and creates a processor with its connection. Paths go through two
normalisations in two places: `WebSocket` makes them lower case, the factory adds a
missing leading slash.

Swift compares strings up to canonical equivalence, and its `lowercased` follows the
Unicode version of its runtime, so strings are any type with the operations and the
laws of `SwiftString`; Lean's own strings are the case of ASCII text. The digest, its
encoding and the timer of a connection come from other packages and are parameters.
-/

import KituraWebSocket.WebSocketConnection
import Mathlib.Logic.Function.Basic

namespace KituraWebSocket

/-- Swift's strings, up to their equality, with what the library uses of them. -/
class SwiftString (S : Type) where
  literal : String → S
  append : S → S → S
  hasPrefix : S → S → Bool
  lowercased : S → S
  lowercased_lowercased (text : S) : lowercased (lowercased text) = lowercased text
  /-- Lower-casing neither makes nor takes away a leading slash. -/
  hasPrefix_lowercased (text : S) :
    hasPrefix (lowercased text) (literal "/") = hasPrefix text (literal "/")
  lowercased_slash (text : S) :
    lowercased (append (literal "/") text) = append (literal "/") (lowercased text)

section Ascii

variable {letter : Char}

theorem toLower_of_other (hother : ¬ (65 ≤ letter.toNat ∧ letter.toNat ≤ 90)) :
    letter.toLower = letter := by
  have hval : ¬ (letter.val ≥ 'A'.val ∧ letter.val ≤ 'Z'.val) := by
    simpa [UInt32.le_iff_toNat_le] using hother
  exact dif_neg hval

theorem toNat_toLower (hupper : 65 ≤ letter.toNat ∧ letter.toNat ≤ 90) :
    letter.toLower.toNat = letter.toNat + 32 := by
  have hval : letter.val ≥ 'A'.val ∧ letter.val ≤ 'Z'.val := by
    simpa [UInt32.le_iff_toNat_le] using hupper
  have hlower : letter.toLower = _ := dif_pos hval
  rw [hlower, Char.toNat]
  simp only [UInt32.toNat_add]
  grind [Char.toNat]

theorem toLower_toLower (letter : Char) : letter.toLower.toLower = letter.toLower := by
  by_cases hupper : 65 ≤ letter.toNat ∧ letter.toNat ≤ 90
  · apply toLower_of_other
    rw [toNat_toLower hupper]
    omega
  · rw [toLower_of_other hupper, toLower_of_other hupper]

theorem toLower_eq_slash (letter : Char) : letter.toLower = '/' ↔ letter = '/' := by
  by_cases hupper : 65 ≤ letter.toNat ∧ letter.toNat ≤ 90
  · have hslash : '/'.toNat = 47 := rfl
    have hlower := toNat_toLower hupper
    constructor
    · intro heq
      rw [heq, hslash] at hlower
      omega
    · rintro rfl
      rw [hslash] at hupper
      omega
  · rw [toLower_of_other hupper]

/-- ASCII text. -/
instance : SwiftString String where
  literal text := text
  append first second := String.ofList (first.toList ++ second.toList)
  hasPrefix text start := start.toList.isPrefixOf text.toList
  lowercased text := String.ofList (text.toList.map Char.toLower)
  lowercased_lowercased text := by
    rw [String.toList_ofList, List.map_map]
    congr 2
    funext letter
    exact toLower_toLower letter
  hasPrefix_lowercased text := by
    cases text.toList with
    | nil => simp
    | cons letter rest =>
      have hsame : '/' = letter.toLower ↔ '/' = letter := by
        rw [eq_comm, toLower_eq_slash, eq_comm]
      simp [List.isPrefixOf, hsame]
  lowercased_slash text := by simp

end Ascii

open SwiftString

/-- An upgrade request, as far as the factory reads it. -/
structure ServerRequest (S : Type) where
  headers : String → Option (List S)
  /-- `urlURL.path`. -/
  path : S

/-- The headers of a response. -/
structure ServerResponse (S : Type) where
  headers : String → Option (List S)

def ServerResponse.set {S : Type} (response : ServerResponse S) (name : String)
    (values : Option (List S)) : ServerResponse S where
  headers := Function.update response.headers name values

/-- The first value of a header. -/
def firstValue {S : Type} : List S → Except Fault S
  | value :: _ => .ok value
  | [] => .error .outOfRange

/-- What `upgrade` returns: the service whose processor was created, with the processor, or a
message, and the response with its headers set. -/
structure UpgradeResult (S V : Type) where
  processor : Option (V × WSSocketProcessor WebSocketConnection)
  message : Option S
  response : ServerResponse S

/-- The services of type `V` by their paths. -/
structure WSConnectionUpgradeFactory (S V : Type) where
  registry : S → Option V := fun _ => none

namespace WSConnectionUpgradeFactory

variable {S V : Type} [DecidableEq S] [SwiftString S]

/-- A path with a missing leading slash added. -/
def slashed (path : S) : S :=
  if hasPrefix path (literal "/") then path else append (literal "/") path

/-- `register(service:onPath:)` of the factory. -/
def register (factory : WSConnectionUpgradeFactory S V) (service : V) (onPath : S) :
    WSConnectionUpgradeFactory S V :=
  { factory with registry := Function.update factory.registry (slashed onPath) (some service) }

/-- `unregister(path:)` of the factory. -/
def unregister (factory : WSConnectionUpgradeFactory S V) (thePath : S) :
    WSConnectionUpgradeFactory S V :=
  { factory with registry := Function.update factory.registry (slashed thePath) none }

/-- `clear()`. -/
def clear (_ : WSConnectionUpgradeFactory S V) : WSConnectionUpgradeFactory S V := {}

def wsGUID : String := "258EAFA5-E914-47DA-95CA-C5AB0DC85B11"

section Upgrade

variable (sha1 : S → List UInt8) (base64 : List UInt8 → S)
  (schedule : ℤ → ℤ → Except Fault Unit) (settings : V → WebSocketService)

/-- `upgrade(handler:request:response:)`, at a time of the clock. The service is kept beside the
processor that was created for it. -/
def upgrade (factory : WSConnectionUpgradeFactory S V) (request : ServerRequest S)
    (response : ServerResponse S) (now : ℚ) : Except Fault (UpgradeResult S V) :=
  match request.headers "Sec-WebSocket-Version" with
  | none =>
    .ok ⟨none, some (literal "Sec-WebSocket-Version header missing in the upgrade request"),
      response⟩
  | some protocolVersion => do
    let version ← firstValue protocolVersion
    if version ≠ literal "13" then
      return ⟨none, some (literal "Only WebSocket protocol version 13 is supported"),
        response.set "Sec-WebSocket-Version" (some [literal "13"])⟩
    match request.headers "Sec-WebSocket-Key" with
    | none =>
      return ⟨none, some (literal "Sec-WebSocket-Key header missing in the upgrade request"),
        response⟩
    | some securityKey =>
      match factory.registry request.path with
      | none =>
        return ⟨none, some (append (literal "No service has been registered for the path ")
          request.path), response⟩
      | some service =>
        let key ← firstValue securityKey
        let sha1Data := sha1 (append key (literal wsGUID))
        let response := response.set "Sec-WebSocket-Accept" (some [base64 sha1Data])
        let response := response.set "Sec-WebSocket-Protocol"
          (request.headers "Sec-WebSocket-Protocol")
        let connection ← WebSocketConnection.init schedule (some (settings service)) now
        return ⟨some (service, WSSocketProcessor.fresh connection), none, response⟩

end Upgrade

end WSConnectionUpgradeFactory

namespace WebSocket

variable {S V : Type} [DecidableEq S] [SwiftString S]

/-- `WebSocket.register(service:onPath:)`. -/
def register (factory : WSConnectionUpgradeFactory S V) (service : V) (path : S) :
    WSConnectionUpgradeFactory S V :=
  factory.register service (lowercased path)

/-- `WebSocket.unregister(path:)`. -/
def unregister (factory : WSConnectionUpgradeFactory S V) (path : S) :
    WSConnectionUpgradeFactory S V :=
  factory.unregister (lowercased path)

end WebSocket

end KituraWebSocket
