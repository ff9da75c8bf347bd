/-
# The incremental frame parser

The parser keeps a position inside a frame (`state`), the fields read so far and
the part of the payload already unmasked, and is called with a buffer and a start
index. It reports whether a frame is complete, an error, and how many bytes it
consumed. The two loops of the source, over the parts of a frame and over the
blocks of a payload, are bodies run by `BoundedLoop.iterate`.
-/

import KituraWebSocket.Reasons
import KituraWebSocket.Support.BoundedLoop
import KituraWebSocket.WSFrame

namespace KituraWebSocket

/-- Where in a frame the parser stands. -/
inductive FrameParsingState
  | initial
  | opCodeParsed
  | lengthParsed
  deriving DecidableEq, Repr

/-- The number of bytes of a mask. -/
def maskSize : ℕ := 4

structure WSFrameParser where
  state : FrameParsingState := .initial
  frame : WSFrame := {}
  masked : Bool := false
  payloadLength : ℤ := -1
  mask : List UInt8 := [0x00, 0x00, 0x00, 0x00]
  deriving DecidableEq, Repr

namespace WSFrameParser

/-- Make ready for the next frame. The flags, opcode and mask of the last frame
stay where they are. -/
def reset (parser : WSFrameParser) : WSFrameParser :=
  { parser with
    state := .initial
    payloadLength := -1
    frame := { parser.frame with payload := [] } }

/-- The first byte of a frame: the error or nothing, the bytes consumed, and the
parser afterwards. -/
def parseOpCode (parser : WSFrameParser) (bytes : List UInt8) (start : ℕ) :
    Except Fault (Option WebSocketError × ℕ × WSFrameParser) := do
  let byte ← readByte bytes start
  let rsv := (byte &&& 0x70) >>> 4
  if rsv ≠ 0 then
    return (some (.invalidOpCode (byte &&& 0x7F)), 0, parser)
  let parser := { parser with frame := { parser.frame with finalFrame := byte &&& 0x80 != 0 } }
  let rawOpCode := byte &&& 0x0f
  match FrameOpcode.ofRawValue rawOpCode.toNat with
  | some opCode => return (none, 1, { parser with frame := { parser.frame with opCode := opCode } })
  | none => return (some (.invalidOpCode rawOpCode), 0, parser)

/-- The `switch lengthByte` of `parseMaskAndLength`: the bytes consumed, none while the
length field is incomplete, and the parser with the length. -/
def parseLength (parser : WSFrameParser) (bytes : List UInt8) (start length : ℕ)
    (lengthByte : UInt8) : Except Fault (ℕ × WSFrameParser) := do
  if lengthByte = 126 then
    if length - start ≥ 3 then
      let networkOrderedUInt16 ← readRange bytes (start + 1) (start + 3)
      return (3, { parser with payloadLength := networkToHost networkOrderedUInt16 })
    else return (0, parser)
  else if lengthByte = 127 then
    if length - start ≥ 9 then
      let networkOrderedUInt32 ← readRange bytes (start + 5) (start + 9)
      return (9, { parser with payloadLength := networkToHost networkOrderedUInt32 })
    else return (0, parser)
  else return (1, { parser with payloadLength := lengthByte.toNat })

/-- The length and the mask. Nothing is consumed while a part of them is missing,
but a length that is already there is stored. -/
def parseMaskAndLength (parser : WSFrameParser) (bytes : List UInt8) (start length : ℕ) :
    Except Fault (Option WebSocketError × ℕ × WSFrameParser) := do
  let byte ← readByte bytes start
  let parser := { parser with masked := byte &&& 0x80 != 0 }
  if ¬ parser.masked then
    return (some .unmaskedFrame, 0, parser)
  let lengthByte := byte &&& 0x7f
  let (bytesConsumed, parser) ← parser.parseLength bytes start length lengthByte
  if bytesConsumed > 0 then
    if length - start - bytesConsumed ≥ maskSize then
      let mask ← (List.range parser.mask.length).mapM fun i =>
        readByte bytes (start + bytesConsumed + i)
      return (none, bytesConsumed + maskSize, { parser with mask := mask })
    else return (none, 0, parser)
  else return (none, bytesConsumed, parser)

/-- The local variables of `parsePayload`, and the payload it appends to. -/
structure UnmaskState where
  unmaskedBytes : List UInt8
  bytesConsumed : ℕ
  bytesUnmasked : ℕ
  payload : List UInt8

/-- The size of the block that is unmasked before it is appended. -/
def blockSize : ℕ := 125

/-- Unmask one byte into the block. -/
def unmaskByte (mask bytes : List UInt8) (start : ℕ) (unmasking : UnmaskState) (index : ℕ) :
    Except Fault UnmaskState := do
  let byte ← readByte bytes (start + unmasking.bytesConsumed)
  let key ← readByte mask (unmasking.bytesUnmasked % maskSize)
  let unmaskedBytes ← writeByte unmasking.unmaskedBytes index (byte ^^^ key)
  return { unmasking with
    unmaskedBytes := unmaskedBytes
    bytesUnmasked := unmasking.bytesUnmasked + 1
    bytesConsumed := unmasking.bytesConsumed + 1 }

/-- One round of the outer loop: fill the block and append what was filled. -/
def unmaskBlock (mask bytes : List UInt8) (start bytesToUnmask : ℕ) (unmasking : UnmaskState) :
    Except Fault (UnmaskState ⊕ UnmaskState) :=
  if unmasking.bytesConsumed < bytesToUnmask then do
    let bytesToUnMaskInLoop :=
      min unmasking.unmaskedBytes.length (bytesToUnmask - unmasking.bytesConsumed)
    let unmasking ← (List.range bytesToUnMaskInLoop).foldlM (unmaskByte mask bytes start) unmasking
    let block ← readRange unmasking.unmaskedBytes 0 bytesToUnMaskInLoop
    return .inl { unmasking with payload := unmasking.payload ++ block }
  else return .inr unmasking

/-- How many payload bytes a call may take from the buffer. -/
def bytesToUnmask (parser : WSFrameParser) (start length : ℕ) : ℤ :=
  min (parser.payloadLength - parser.frame.payload.length) (length - start)

/-- Unmask what the buffer holds of the payload: the bytes consumed and the parser
afterwards. A count to unmask that is not positive runs no round. -/
def parsePayload (parser : WSFrameParser) (bytes : List UInt8) (start length : ℕ) :
    Except Fault (ℕ × WSFrameParser) := do
  let count := (parser.bytesToUnmask start length).toNat
  let unmasking ← BoundedLoop.iterate .outOfBudget (unmaskBlock parser.mask bytes start count)
    (count + 1)
    { unmaskedBytes := List.replicate blockSize 0
      bytesConsumed := 0
      bytesUnmasked := parser.frame.payload.length
      payload := parser.frame.payload }
  return (unmasking.bytesConsumed,
    { parser with frame := { parser.frame with payload := unmasking.payload } })

/-- The local variables of `parse`, and the parser it mutates. -/
structure ParseState where
  parser : WSFrameParser
  byteIndex : ℕ
  bytesParsed : ℕ

/-- What `parse` returns, and the parser it leaves. -/
structure ParseResult where
  completed : Bool
  error : Option WebSocketError
  bytesConsumed : ℕ
  parser : WSFrameParser

/-- The parser, index and count after a part of the frame was consumed. -/
def ParseState.advance (parsing : ParseState) (bytesConsumed : ℕ) (parser : WSFrameParser)
    (state : FrameParsingState) : ParseState where
  parser := { parser with state := state }
  byteIndex := parsing.byteIndex + bytesConsumed
  bytesParsed := parsing.bytesParsed + bytesConsumed

/-- One round of the loop over the parts of a frame. -/
def parseRound (bytes : List UInt8) (parsing : ParseState) :
    Except Fault (ParseState ⊕ ParseResult) :=
  let parser := parsing.parser
  let length := bytes.length
  if parsing.byteIndex < length ∧ parser.payloadLength ≠ parser.frame.payload.length then
    match parser.state with
    | .initial => do
      let (error, bytesConsumed, parser) ← parser.parseOpCode bytes parsing.byteIndex
      if error.isSome then
        return .inr ⟨false, error, 0, parser⟩
      return .inl (parsing.advance bytesConsumed parser .opCodeParsed)
    | .opCodeParsed => do
      let (error, bytesConsumed, parser) ← parser.parseMaskAndLength bytes parsing.byteIndex length
      if error.isSome then
        return .inr ⟨false, error, 0, parser⟩
      if bytesConsumed = 0 then
        return .inr ⟨false, error, parsing.bytesParsed, parser⟩
      return .inl (parsing.advance bytesConsumed parser .lengthParsed)
    | .lengthParsed => do
      let (bytesConsumed, parser) ← parser.parsePayload bytes parsing.byteIndex length
      return .inl (parsing.advance bytesConsumed parser .lengthParsed)
  else
    return .inr ⟨parser.payloadLength == parser.frame.payload.length, none, parsing.bytesParsed,
      parser⟩

/-- Parse from `start` until the frame is complete, the buffer is used up, a
header part is missing, or an error. -/
def parse (parser : WSFrameParser) (buffer : List UInt8) (start : ℕ) :
    Except Fault ParseResult :=
  BoundedLoop.iterate .outOfBudget (parseRound buffer) (buffer.length - start + 1)
    { parser := parser, byteIndex := start, bytesParsed := 0 }

end WSFrameParser

end KituraWebSocket
