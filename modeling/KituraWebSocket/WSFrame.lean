/-
# Frames and the header of an outgoing frame

`WSFrame` is the frame value the parser fills and the connection consumes.
`createFrameHeader` appends the unmasked header of a frame to an output buffer,
writing the length through the trapping conversions and the partial memory
copies of the source.
-/

import KituraWebSocket.Foundation

namespace KituraWebSocket

/-- `WSFrame.FrameOpcode`. -/
inductive FrameOpcode
  | continuation
  | text
  | binary
  | close
  | ping
  | pong
  | unknown
  deriving DecidableEq, Repr

namespace FrameOpcode

def rawValue : FrameOpcode → ℤ
  | continuation => 0
  | text => 1
  | binary => 2
  | close => 8
  | ping => 9
  | pong => 10
  | unknown => -1

/-- `FrameOpcode(rawValue:)`. -/
def ofRawValue (rawValue : ℤ) : Option FrameOpcode :=
  if rawValue = 0 then some continuation
  else if rawValue = 1 then some text
  else if rawValue = 2 then some binary
  else if rawValue = 8 then some close
  else if rawValue = 9 then some ping
  else if rawValue = 10 then some pong
  else if rawValue = -1 then some unknown
  else none

end FrameOpcode

/-- A frame. The payload is a shared mutable buffer in the source; nobody keeps
or changes it after the call it is passed to, so a value models it. -/
structure WSFrame where
  finalFrame : Bool := false
  opCode : FrameOpcode := .unknown
  payload : List UInt8 := []
  deriving DecidableEq, Repr

/-- Append the header of a frame to `buffer`. -/
def WSFrame.createFrameHeader (finalFrame : Bool) (opCode : FrameOpcode) (payloadLength : ℕ)
    (buffer : List UInt8) : Except Fault (List UInt8) := do
  let rawOpCode ← toUnsigned 8 opCode.rawValue
  let bytes : List UInt8 :=
    [(if finalFrame then 0x80 else 0x00) ||| UInt8.ofNat rawOpCode, 0, 0, 0, 0, 0, 0, 0, 0, 0]
  let length := 1
  if payloadLength < 126 then
    let shortLength ← toUnsigned 8 payloadLength
    let bytes ← writeByte bytes 1 (UInt8.ofNat shortLength)
    return buffer ++ bytes.take (length + 1)
  else if payloadLength ≤ 65535 then
    let bytes ← writeByte bytes 1 126
    let tempPayloadLength ← toUnsigned 16 payloadLength
    let bytes ← copyMemory bytes (length + 1) (hostToNetwork 2 tempPayloadLength)
    return buffer ++ bytes.take (length + 3)
  else
    let bytes ← writeByte bytes 1 127
    let tempPayloadLength ← toUnsigned 32 payloadLength
    -- Only the low half of the eight byte field is written; the rest stays zero.
    let bytes ← copyMemory bytes (length + 5) (hostToNetwork 4 tempPayloadLength)
    return buffer ++ bytes.take (length + 9)

end KituraWebSocket
