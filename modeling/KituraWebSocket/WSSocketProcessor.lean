/-
# Processing the bytes of a socket

`process` is handed a buffer, feeds it to the parser from the processor's own
index and calls the connection for every complete frame and for a parse error.
The two calls it makes are a parameter, `ConnectionCalls`, so that the same
function drives a real connection and, in `recorder`, merely writes its calls
down. The source's `handler` is reached by the connection as well and is kept
there, and no call of the connection touches the parser or the index.
-/

import KituraWebSocket.Support.FallibleRun
import KituraWebSocket.WSFrameParser

namespace KituraWebSocket

/-- The methods of a connection that `process` calls. -/
structure ConnectionCalls (σ : Type) where
  /-- `received(frame:)`. -/
  received : σ → WSFrame → Except Fault σ
  /-- `close(reason:description:)`. -/
  close : σ → Option WebSocketCloseReasonCode → Option String → Except Fault σ

structure WSSocketProcessor (σ : Type) where
  connection : σ
  parser : WSFrameParser := {}
  byteIndex : ℕ := 0
  deriving DecidableEq, Repr

namespace WSSocketProcessor

variable {σ : Type}

/-- One round of the loop over the frames of a buffer. It leaves with whether an
error was reported. -/
def processRound (calls : ConnectionCalls σ) (buffer : List UInt8)
    (processor : WSSocketProcessor σ) :
    Except Fault (WSSocketProcessor σ ⊕ Bool × WSSocketProcessor σ) :=
  if processor.byteIndex < buffer.length then do
    let result ← processor.parser.parse buffer processor.byteIndex
    let processor := { processor with parser := result.parser }
    if result.error.isSome then
      let connection ← calls.close processor.connection (some .protocolError)
        (result.error.map WebSocketError.description)
      return .inr (true, { processor with connection := connection })
    if result.bytesConsumed = 0 then
      return .inr (false, processor)
    let processor := { processor with byteIndex := processor.byteIndex + result.bytesConsumed }
    if result.completed then
      let connection ← calls.received processor.connection processor.parser.frame
      return .inl { processor with connection := connection, parser := processor.parser.reset }
    return .inl processor
  else return .inr (false, processor)

/-- Process a buffer: whether it is finished with, and the processor afterwards. -/
def process (calls : ConnectionCalls σ) (processor : WSSocketProcessor σ) (buffer : List UInt8) :
    Except Fault (Bool × WSSocketProcessor σ) := do
  let length := buffer.length
  let (failed, processor) ←
    BoundedLoop.iterate .outOfBudget (processRound calls buffer) (length + 1) processor
  if failed then
    return (true, processor)
  if processor.byteIndex ≥ length then
    return (true, { processor with byteIndex := 0 })
  else return (false, processor)

/-- A call that `process` made. -/
inductive ConnectionCall
  | received (frame : WSFrame)
  | close (reason : Option WebSocketCloseReasonCode) (description : Option String)
  deriving DecidableEq, Repr

/-- Make a recorded call on a connection. -/
def ConnectionCall.replay (calls : ConnectionCalls σ) (connection : σ) :
    ConnectionCall → Except Fault σ
  | received frame => calls.received connection frame
  | close reason description => calls.close connection reason description

/-- The connection that only writes down what it is called with. -/
def recorder : ConnectionCalls (List ConnectionCall) where
  received recorded frame := .ok (recorded ++ [.received frame])
  close recorded reason description := .ok (recorded ++ [.close reason description])

/-- A processor as the upgrade creates it. -/
def fresh (connection : σ) : WSSocketProcessor σ where
  connection := connection

/-! ## The handler's side

The `IncomingSocketHandler` owns the buffer: when `process` has returned true it
empties it before new bytes arrive, otherwise it presents the same buffer again
with the new bytes appended.
-/

/-- A processor and the buffer its handler will extend by the next socket read. -/
structure Reading (σ : Type) where
  processor : WSSocketProcessor σ
  buffer : List UInt8 := []

/-- Deliver the bytes of one socket read. -/
def deliver (calls : ConnectionCalls σ) (reading : Reading σ) (bytes : List UInt8) :
    Except Fault (Reading σ) := do
  let buffer := reading.buffer ++ bytes
  let (finished, processor) ← reading.processor.process calls buffer
  return { processor := processor, buffer := if finished then [] else buffer }

/-- Deliver successive socket reads. -/
def deliverAll (calls : ConnectionCalls σ) (reading : Reading σ) (reads : List (List UInt8)) :
    Except Fault (Reading σ) :=
  FallibleRun.run (deliver calls) reading reads

/-- The calls recorded by a fresh processor for successive socket reads. -/
def recordedCalls (reads : List (List UInt8)) : Except Fault (List ConnectionCall) :=
  (deliverAll recorder { processor := fresh [] } reads).map (·.processor.connection)

end WSSocketProcessor

end KituraWebSocket
