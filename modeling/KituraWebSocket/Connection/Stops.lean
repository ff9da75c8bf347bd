/-
# What stops the program

An overflowing conversion stops the whole program. Of the events of a connection only those
that hand a payload to the processor can cause one, and they do exactly for a payload that no
header of the library can announce (`step_returns_iff`).
-/

import KituraWebSocket.Connection.Closing

namespace KituraWebSocket

namespace WebSocketConnection

/-- A send of at least `2 ^ 32` bytes is about to be written. -/
def Oversends (connection : WebSocketConnection) (event : ConnectionEvent) : Prop :=
  connection.active = true ∧ connection.processorAlive = true ∧
    match event with
    | .sendData message _ => 2 ^ 32 ≤ message.length
    | .sendString message => 2 ^ 32 ≤ (utf8Bytes message).length
    | .ping withMessage => 2 ^ 32 ≤ ((withMessage.map utf8Bytes).getD []).length
    | _ => False

/-- A payload that is too long is about to be written. -/
def Stops (connection : WebSocketConnection) (event : ConnectionEvent) : Prop :=
  connection.Oversends event ∨ connection.Overflows (.event event)

/-- A message is sent by an active connection only. -/
theorem sendIfActive_returns_iff {connection : WebSocketConnection} {opCode : FrameOpcode}
    (hknown : opCode ≠ .unknown) (payload : Option (List UInt8)) :
    (∃ next, (if connection.active then connection.sendMessage opCode payload
      else .ok connection) = .ok next) ↔
      ¬ (connection.active = true ∧ connection.processorAlive = true ∧
        2 ^ 32 ≤ (payload.getD []).length) := by
  cases hactive : connection.active with
  | false => simp
  | true =>
    cases halive : connection.processorAlive with
    | false => simp [sendMessage, halive]
    | true =>
      by_cases hlong : 2 ^ 32 ≤ (payload.getD []).length
      · refine iff_of_false (fun hreturns => ?_) (fun hfits => hfits ⟨rfl, rfl, hlong⟩)
        obtain ⟨next, hreturns⟩ := hreturns
        rw [if_pos rfl, sendMessage_overflow hknown halive hlong] at hreturns
        cases hreturns
      · exact iff_of_true ⟨_, sendMessage_eq hknown (Nat.not_le.mp hlong) connection⟩
          fun hstops => hlong hstops.2.2

/-- An event of a connection returns unless it is about to write a payload that is too long. -/
theorem step_returns_iff (handler : SocketHandler) (connection : WebSocketConnection)
    (event : ConnectionEvent) :
    (∃ next, step handler connection event = .ok next) ↔ ¬ connection.Stops event := by
  rw [Stops, not_or]
  cases hsends : ClosingEvent.onlySends (.event event) with
  | true =>
    have hfits : ¬ connection.Overflows (.event event) := by
      rintro ⟨_, hlong⟩
      cases event <;> first | exact hlong | cases hsends
    rw [and_iff_left hfits]
    cases event with
    | sendData message asBinary =>
      rw [step, sendData_eq]
      exact sendIfActive_returns_iff (by cases asBinary <;> decide) (some message)
    | sendString message =>
      rw [step, sendString_eq]
      exact sendIfActive_returns_iff (by decide) (some (utf8Bytes message))
    | ping withMessage =>
      rw [step, ping_eq]
      exact sendIfActive_returns_iff (by decide) (withMessage.map utf8Bytes)
    | _ => cases hsends
  | false =>
    have hshort : ¬ connection.Oversends event := by
      rintro ⟨_, _, hlong⟩
      cases event <;> first | exact hlong | cases hsends
    rw [and_iff_right hshort]
    constructor
    · rintro ⟨next, hreturns⟩ hlong
      have hfault : closingStep handler connection (.event event) = .error .overflow :=
        closingStep_overflow hlong
      rw [closingStep, hreturns] at hfault
      cases hfault
    · intro hfits
      exact ⟨_, closingStep_returns connection hsends hfits⟩

end WebSocketConnection

end KituraWebSocket
