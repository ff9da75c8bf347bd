/-
# Close reasons and parse errors

The two enumerations that travel between the parser, the connection and the
service: `WebSocketCloseReasonCode`, with its table of sixteen bit codes and the
inverse table for codes received from a client, and `WebSocketError`.
-/

import KituraWebSocket.Foundation

namespace KituraWebSocket

/-- The reasons a WebSocket application can send or receive when a connection is
closed. -/
inductive WebSocketCloseReasonCode
  | closedAbnormally
  | extensionMissing
  | goingAway
  | invalidDataContents
  | invalidDataType
  | messageTooLarge
  | normal
  | noReasonCodeSent
  | policyViolation
  | protocolError
  | serverError
  | userDefined (userCode : UInt16)
  deriving DecidableEq, Repr

namespace WebSocketCloseReasonCode

/-- The sixteen bit code of a reason. -/
def code : WebSocketCloseReasonCode → UInt16
  | closedAbnormally => 1006
  | extensionMissing => 1010
  | goingAway => 1001
  | invalidDataContents => 1007
  | invalidDataType => 1003
  | messageTooLarge => 1009
  | normal => 1000
  | noReasonCodeSent => 1005
  | policyViolation => 1008
  | protocolError => 1002
  | serverError => 1011
  | userDefined userCode => userCode

/-- `from(code:)`: the reason a received close frame code stands for. -/
def fromCode (reasonCode : ℕ) : WebSocketCloseReasonCode :=
  match reasonCode with
  | 1000 => normal
  | 1001 => goingAway
  | 1002 => protocolError
  | 1003 => invalidDataType
  | 1007 => invalidDataContents
  | 1008 => policyViolation
  | 1009 => messageTooLarge
  | 1010 => extensionMissing
  | 1011 => serverError
  | reasonCode => if reasonCode < 3000 then protocolError else userDefined (UInt16.ofNat reasonCode)

/-- The codes that `from(code:)` takes as they are. -/
def Recognized (reasonCode : ℕ) : Prop :=
  1000 ≤ reasonCode ∧ reasonCode ≤ 1003 ∨ 1007 ≤ reasonCode ∧ reasonCode ≤ 1011 ∨
    3000 ≤ reasonCode

instance (reasonCode : ℕ) : Decidable (Recognized reasonCode) := by
  unfold Recognized
  infer_instance

/-- A code that is received becomes a reason with the same code, or else a protocol error. -/
theorem code_fromCode {reasonCode : ℕ} (hfits : reasonCode < 2 ^ 16) :
    (fromCode reasonCode).code.toNat = if Recognized reasonCode then reasonCode else 1002 := by
  fun_cases fromCode reasonCode with
  | case10 hsmall =>
    rw [if_neg (by grind [Recognized])]
    rfl
  | case11 hlarge =>
    rw [if_pos (by rw [Recognized]; omega), code, UInt16.toNat_ofNat', Nat.mod_eq_of_lt hfits]
  | _ => rfl

/-- A reason whose code is received as the same code. -/
def Sendable (reason : WebSocketCloseReasonCode) : Prop :=
  (fromCode reason.code.toNat).code = reason.code

instance (reason : WebSocketCloseReasonCode) : Decidable reason.Sendable := by
  unfold Sendable
  infer_instance

/-- What has been received can be sent back. -/
theorem sendable_fromCode {reasonCode : ℕ} (hfits : reasonCode < 2 ^ 16) :
    (fromCode reasonCode).Sendable := by
  apply UInt16.toNat_inj.mp
  have hagain : Recognized (fromCode reasonCode).code.toNat := by
    rw [code_fromCode hfits]
    split
    · assumption
    · decide
  rw [code_fromCode (fromCode reasonCode).code.toNat_lt, if_pos hagain]

end WebSocketCloseReasonCode

/-- The errors of the frame parser. -/
inductive WebSocketError
  | /-- An invalid opcode was received in a WebSocket frame. -/
    invalidOpCode (opCode : UInt8)
  | /-- A frame was received that had an unmasked payload. -/
    unmaskedFrame
  deriving DecidableEq, Repr

/-- The printable version of an error, which becomes the text of a close frame. -/
def WebSocketError.description : WebSocketError → String
  | invalidOpCode opCode =>
    "Parsed a frame with an invalid operation code of " ++ toString opCode.toNat
  | unmaskedFrame => "Received a frame from a client that wasn't masked"

/-- The description of an error fits into a close frame. -/
theorem WebSocketError.length_description (error : WebSocketError) :
    (utf8Bytes error.description).length ≤ 123 := by
  cases error with
  | invalidOpCode opCode =>
    revert opCode
    apply forall_byte
    decide +kernel
  | unmaskedFrame => decide +kernel

end KituraWebSocket
