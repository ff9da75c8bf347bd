/-
# The incoming byte stream, one byte at a time

The abstract model of the receive path. `scan` reads a stream of client frames
byte by byte and emits an event for each completed frame and for the first byte
that cannot belong to a frame. It holds no buffer and no index: what it has read
is in its state. Cutting a stream into socket reads means nothing to it, because
it is a `Transducer`; the parser and the processor are compared with it.

A length field of eight bytes is read as the parser reads it, by its last four
bytes.
-/

import KituraWebSocket.Support.Transducer
import KituraWebSocket.WSFrameParser

namespace KituraWebSocket

open Transducer

/-- What is found in a stream of bytes. -/
inductive StreamEvent
  | frame (frame : WSFrame)
  | error (error : WebSocketError)
  deriving DecidableEq, Repr

/-- The final flag and opcode of a first byte, or the error it is. -/
def readFirstByte (byte : UInt8) : Except WebSocketError (Bool × FrameOpcode) :=
  if byte &&& 0x70 ≠ 0 then .error (.invalidOpCode (byte &&& 0x7F))
  else
    match FrameOpcode.ofRawValue (byte &&& 0x0f).toNat with
    | some opCode => .ok (byte &&& 0x80 != 0, opCode)
    | none => .error (.invalidOpCode (byte &&& 0x0f))

/-- Whether the mask bit of a second byte is set. -/
def isMasked (second : UInt8) : Bool := second &&& 0x80 != 0

/-- The bytes a length takes, the second byte of the frame included. -/
def lengthSize (second : UInt8) : ℕ :=
  if second &&& 0x7f = 126 then 3 else if second &&& 0x7f = 127 then 9 else 1

/-- The bytes a length and the mask after it take. -/
def headerSize (second : UInt8) : ℕ := lengthSize second + maskSize

/-- The payload length that a second byte and the bytes after it give. -/
def headerLength (second : UInt8) (rest : List UInt8) : ℕ :=
  if second &&& 0x7f = 126 then BigEndian.value (rest.take 2)
  else if second &&& 0x7f = 127 then BigEndian.value ((rest.drop 4).take 4)
  else (second &&& 0x7f).toNat

/-- The mask that follows a length. -/
def headerMask (second : UInt8) (rest : List UInt8) : List UInt8 :=
  (rest.drop (lengthSize second - 1)).take maskSize

/-- The beginning of a length and mask, with more to come. -/
def HeaderShort : List UInt8 → Prop
  | [] => False
  | second :: rest => isMasked second = true ∧ rest.length + 1 < headerSize second

/-- The length is all there and it is zero. -/
def LengthIsZero : List UInt8 → Prop
  | [] => False
  | second :: rest => lengthSize second ≤ rest.length + 1 ∧ headerLength second rest = 0

/-- Xor with the mask, starting at a phase of it. -/
def unmask (mask : List UInt8) (phase : ℕ) (data : List UInt8) : List UInt8 :=
  data.mapIdx fun index byte => byte ^^^ mask.getD ((phase + index) % maskSize) 0

@[simp]
theorem unmask_nil (mask : List UInt8) (phase : ℕ) : unmask mask phase [] = [] := rfl

@[simp]
theorem length_unmask (mask : List UInt8) (phase : ℕ) (data : List UInt8) :
    (unmask mask phase data).length = data.length := by
  simp [unmask]

/-- The phase carries over from one piece to the next. -/
theorem unmask_append (mask : List UInt8) (phase : ℕ) (first second : List UInt8) :
    unmask mask phase (first ++ second) =
      unmask mask phase first ++ unmask mask (phase + first.length) second := by
  simp [unmask, List.mapIdx_append, Nat.add_comm, Nat.add_left_comm]

theorem unmask_singleton (mask : List UInt8) (phase : ℕ) (byte : UInt8) :
    unmask mask phase [byte] = [byte ^^^ mask.getD (phase % maskSize) 0] := by
  simp [unmask]

theorem lengthSize_pos (second : UInt8) : 0 < lengthSize second := by
  rw [lengthSize]
  split
  · omega
  · split <;> omega

theorem length_headerMask {second : UInt8} {rest : List UInt8}
    (hsize : headerSize second ≤ rest.length + 1) :
    (headerMask second rest).length = maskSize := by
  have := lengthSize_pos second
  simp only [headerSize] at hsize
  simp only [headerMask, List.length_take, List.length_drop]
  omega

/-- The length field is settled once its bytes are there. -/
theorem headerLength_append {second : UInt8} {rest more : List UInt8}
    (hsize : lengthSize second ≤ rest.length + 1) :
    headerLength second (rest ++ more) = headerLength second rest := by
  unfold headerLength lengthSize at *
  split
  · rename_i h
    rw [if_pos h] at hsize
    rw [List.take_append_of_le_length (by omega)]
  · rename_i h
    rw [if_neg h] at hsize
    split
    · rename_i h'
      rw [if_pos h'] at hsize
      rw [List.drop_append_of_le_length (by omega),
        List.take_append_of_le_length (by simp; omega)]
    · rfl

/-- The mask is settled once the header is there. -/
theorem headerMask_append {second : UInt8} {rest more : List UInt8}
    (hsize : headerSize second ≤ rest.length + 1) :
    headerMask second (rest ++ more) = headerMask second rest := by
  have := lengthSize_pos second
  simp only [headerSize] at hsize
  rw [headerMask, headerMask, List.drop_append_of_le_length (by omega),
    List.take_append_of_le_length (by simp; omega)]

/-- What has been read of the frame at hand. -/
inductive Scanner
  | /-- Nothing. -/
    start
  | /-- The first byte and some bytes of the length and mask. -/
    header (finalFrame : Bool) (opCode : FrameOpcode) (seen : List UInt8)
  | /-- The length, the mask and some bytes of the payload. -/
    body (finalFrame : Bool) (opCode : FrameOpcode) (length : ℕ) (mask payload : List UInt8)
  | /-- A byte that cannot belong to a frame. -/
    failed
  deriving DecidableEq, Repr

namespace Scanner

/-- The header is complete. A frame without payload is complete with it. -/
def enterBody (finalFrame : Bool) (opCode : FrameOpcode) (length : ℕ) (mask : List UInt8) :
    Scanner × List StreamEvent :=
  if length = 0 then (start, [.frame ⟨finalFrame, opCode, []⟩])
  else (body finalFrame opCode length mask [], [])

/-- Read one byte. -/
def step : Scanner → UInt8 → Scanner × List StreamEvent
  | start, byte =>
    match readFirstByte byte with
    | .ok (finalFrame, opCode) => (header finalFrame opCode [], [])
    | .error error => (failed, [.error error])
  | header finalFrame opCode seen, byte =>
    match seen ++ [byte] with
    | [] => (header finalFrame opCode [], [])
    | second :: rest =>
      if ¬ isMasked second then (failed, [.error .unmaskedFrame])
      else if rest.length + 1 < headerSize second then
        (header finalFrame opCode (second :: rest), [])
      else enterBody finalFrame opCode (headerLength second rest) (headerMask second rest)
  | body finalFrame opCode length mask payload, byte =>
    let payload := payload ++ unmask mask payload.length [byte]
    if payload.length = length then (start, [.frame ⟨finalFrame, opCode, payload⟩])
    else (body finalFrame opCode length mask payload, [])
  | failed, _ => (failed, [])

/-- Read bytes. -/
def scan (scanner : Scanner) (bytes : List UInt8) : Scanner × List StreamEvent :=
  read step scanner bytes

@[simp]
theorem scan_nil (scanner : Scanner) : scan scanner [] = (scanner, []) := rfl

theorem scan_append (scanner : Scanner) (first second : List UInt8) :
    scan scanner (first ++ second) =
      ((scan (scan scanner first).1 second).1,
        (scan scanner first).2 ++ (scan (scan scanner first).1 second).2) :=
  read_append scanner first second

theorem scan_cons (scanner : Scanner) (byte : UInt8) (bytes : List UInt8) :
    scan scanner (byte :: bytes) =
      ((scan (step scanner byte).1 bytes).1,
        (step scanner byte).2 ++ (scan (step scanner byte).1 bytes).2) :=
  read_cons scanner byte bytes

/-- What was found in a prefix is found first in the whole. -/
theorem scan_append_of_eq {scanner scanner' : Scanner} {first second : List UInt8}
    {events : List StreamEvent} (hfirst : scan scanner first = (scanner', events)) :
    scan scanner (first ++ second) =
      ((scan scanner' second).1, events ++ (scan scanner' second).2) := by
  rw [scan_append, hfirst]

/-- Silent bytes at the front only move the machine. -/
theorem scan_take_add {scanner scanner' : Scanner} {bytes : List UInt8} {first : ℕ}
    (hfirst : scan scanner (bytes.take first) = (scanner', [])) (second : ℕ) :
    scan scanner (bytes.take (first + second)) =
      scan scanner' ((bytes.drop first).take second) := by
  rw [List.take_add, scan_append_of_eq hfirst, List.nil_append]

theorem scan_of_take {scanner scanner' : Scanner} {bytes : List UInt8} {first : ℕ}
    {events : List StreamEvent} (hfirst : scan scanner (bytes.take first) = (scanner', events)) :
    scan scanner bytes =
      ((scan scanner' (bytes.drop first)).1, events ++ (scan scanner' (bytes.drop first)).2) := by
  rw [← scan_append_of_eq hfirst, List.take_append_drop]

@[simp]
theorem scan_failed (bytes : List UInt8) : scan failed bytes = (failed, []) :=
  read_absorbing (fun _ => rfl) bytes

/-- A legal first byte. -/
theorem scan_start_ok {byte : UInt8} {finalFrame : Bool} {opCode : FrameOpcode}
    (hbyte : readFirstByte byte = .ok (finalFrame, opCode)) (bytes : List UInt8) :
    scan start (byte :: bytes) = scan (header finalFrame opCode []) bytes := by
  simp [scan_cons, step, hbyte]

/-- An illegal first byte. -/
theorem scan_start_error {byte : UInt8} {error : WebSocketError}
    (hbyte : readFirstByte byte = .error error) (bytes : List UInt8) :
    scan start (byte :: bytes) = (failed, [.error error]) := by
  simp [scan_cons, step, hbyte]

/-- A second byte without the mask bit. -/
theorem scan_header_unmasked {finalFrame : Bool} {opCode : FrameOpcode} {second : UInt8}
    (hmask : isMasked second = false) (rest : List UInt8) :
    scan (header finalFrame opCode []) (second :: rest) = (failed, [.error .unmaskedFrame]) := by
  simp [scan_cons, step, hmask]

/-- A header that is cut short. -/
theorem scan_header_short {finalFrame : Bool} {opCode : FrameOpcode} {second : UInt8}
    {rest : List UInt8} (hmask : isMasked second = true)
    (hshort : rest.length + 1 < headerSize second) :
    scan (header finalFrame opCode []) (second :: rest) =
      (header finalFrame opCode (second :: rest), []) := by
  induction rest using List.reverseRecOn with
  | nil =>
    have : 1 < headerSize second := by simpa using hshort
    simp [scan_cons, step, hmask, this]
  | append_singleton rest byte ih =>
    rw [List.length_append, List.length_singleton] at hshort
    rw [← List.cons_append, scan_append, ih (by omega)]
    simp [scan_cons, step, hmask, hshort]

/-- A header that is all there. -/
theorem scan_header_full {finalFrame : Bool} {opCode : FrameOpcode} {second : UInt8}
    {rest : List UInt8} (hmask : isMasked second = true)
    (hfull : rest.length + 1 = headerSize second) :
    scan (header finalFrame opCode []) (second :: rest) =
      enterBody finalFrame opCode (headerLength second rest) (headerMask second rest) := by
  have hpos := lengthSize_pos second
  have hne : rest ≠ [] := by
    rintro rfl
    simp only [headerSize, maskSize, List.length_nil] at hfull
    omega
  obtain ⟨front, last, rfl⟩ : ∃ front last, rest = front ++ [last] :=
    ⟨rest.dropLast, rest.getLast hne, (List.dropLast_append_getLast hne).symm⟩
  rw [List.length_append, List.length_singleton] at hfull
  rw [← List.cons_append, scan_append, scan_header_short hmask (by omega)]
  simp [scan_cons, step, hmask, hfull]

/-- A payload that is cut short. -/
theorem scan_body_short {finalFrame : Bool} {opCode : FrameOpcode} {length : ℕ}
    {mask payload data : List UInt8} (hshort : payload.length + data.length < length) :
    scan (body finalFrame opCode length mask payload) data =
      (body finalFrame opCode length mask (payload ++ unmask mask payload.length data), []) := by
  induction data using List.reverseRecOn with
  | nil => simp
  | append_singleton data byte ih =>
    rw [List.length_append, List.length_singleton] at hshort
    have hne : ¬ payload.length + (data.length + 1) = length := by omega
    rw [scan_append, ih (by omega)]
    simp [scan_cons, step, unmask_append, hne]

/-- A payload that is all there. -/
theorem scan_body_full {finalFrame : Bool} {opCode : FrameOpcode} {length : ℕ}
    {mask payload data : List UInt8} (hmore : payload.length < length)
    (hfull : payload.length + data.length = length) :
    scan (body finalFrame opCode length mask payload) data =
      (start, [.frame ⟨finalFrame, opCode, payload ++ unmask mask payload.length data⟩]) := by
  have hne : data ≠ [] := by
    rintro rfl
    simp at hfull
    omega
  obtain ⟨front, last, rfl⟩ : ∃ front last, data = front ++ [last] :=
    ⟨data.dropLast, data.getLast hne, (List.dropLast_append_getLast hne).symm⟩
  rw [List.length_append, List.length_singleton] at hfull
  rw [scan_append, scan_body_short (by omega)]
  simp [scan_cons, step, unmask_append, hfull]

/-- More of a header that stays short. -/
theorem scan_header_more {finalFrame : Bool} {opCode : FrameOpcode} {second : UInt8}
    {rest more : List UInt8} (hmask : isMasked second = true)
    (hshort : rest.length + 1 + more.length < headerSize second) :
    scan (header finalFrame opCode (second :: rest)) more =
      (header finalFrame opCode (second :: (rest ++ more)), []) := by
  have hwhole : scan (header finalFrame opCode []) (second :: (rest ++ more)) =
      (header finalFrame opCode (second :: (rest ++ more)), []) :=
    scan_header_short hmask (by simp only [List.length_append]; omega)
  rw [← List.cons_append, scan_append_of_eq (scan_header_short hmask (by omega)),
    List.nil_append] at hwhole
  exact hwhole

/-- The end of a header of length zero completes a frame. -/
theorem scan_header_empty {finalFrame : Bool} {opCode : FrameOpcode} {second : UInt8}
    {rest more : List UInt8} (hmask : isMasked second = true)
    (hshort : rest.length + 1 < headerSize second) (hzero : LengthIsZero (second :: rest))
    (henough : headerSize second ≤ rest.length + 1 + more.length) :
    (scan (header finalFrame opCode (second :: rest)) more).2 ≠ [] := by
  have hfront : (more.take (headerSize second - (rest.length + 1))).length =
      headerSize second - (rest.length + 1) := by
    simp only [List.length_take]
    omega
  have hfull : (rest ++ more.take (headerSize second - (rest.length + 1))).length + 1 =
      headerSize second := by
    simp only [List.length_append, hfront]
    omega
  have hwhole : scan (header finalFrame opCode []) _ = _ := scan_header_full hmask hfull
  rw [← List.cons_append, scan_append_of_eq (scan_header_short hmask hshort), List.nil_append,
    headerLength_append hzero.1, hzero.2, enterBody, if_pos rfl] at hwhole
  rw [scan_of_take (Prod.mk.eta.symm.trans hwhole)]
  simp

/-- A step finds nothing, or a frame, or an error that it fails with. -/
theorem step_cases {scanner : Scanner} (hstart : scanner ≠ failed) (byte : UInt8) :
    ((step scanner byte).1 ≠ failed ∧
      ∃ frames : List WSFrame, (step scanner byte).2 = frames.map .frame) ∨
    ∃ error, step scanner byte = (failed, [.error error]) := by
  cases scanner with
  | start =>
    cases hbyte : readFirstByte byte with
    | error error => exact .inr ⟨error, by simp [step, hbyte]⟩
    | ok legal => exact .inl (by simp [step, hbyte])
  | header finalFrame opCode seen =>
    simp only [step]
    split
    · exact .inl ⟨by simp, [], rfl⟩
    · split
      · exact .inr ⟨_, rfl⟩
      · split
        · exact .inl ⟨by simp, [], rfl⟩
        · rw [enterBody]
          split
          · exact .inl ⟨by simp, [_], rfl⟩
          · exact .inl ⟨by simp, [], rfl⟩
  | body finalFrame opCode length mask payload =>
    simp only [step]
    split
    · exact .inl ⟨by simp, [_], rfl⟩
    · exact .inl ⟨by simp, [], rfl⟩
  | failed => exact absurd rfl hstart

/-- In a stream frames are found, and an error at most at the very end. -/
theorem scan_cases {scanner : Scanner} (hstart : scanner ≠ failed) (bytes : List UInt8) :
    ∃ frames : List WSFrame,
      ((scan scanner bytes).1 ≠ failed ∧ (scan scanner bytes).2 = frames.map .frame) ∨
      ∃ error, scan scanner bytes = (failed, frames.map .frame ++ [.error error]) := by
  induction bytes generalizing scanner with
  | nil => exact ⟨[], .inl ⟨hstart, rfl⟩⟩
  | cons byte bytes ih =>
    rw [scan_cons]
    rcases step_cases hstart byte with ⟨hnext, frames, hframes⟩ | ⟨error, herror⟩
    · obtain ⟨later, ⟨hstate, hlater⟩ | ⟨error, hlater⟩⟩ := ih hnext
      · exact ⟨frames ++ later, .inl ⟨hstate, by simp [hframes, hlater]⟩⟩
      · exact ⟨frames ++ later, .inr ⟨error, by simp [hframes, hlater]⟩⟩
    · exact ⟨[], .inr ⟨error, by simp [herror]⟩⟩

/-- The machine has failed exactly when an error has been found. -/
theorem failed_iff {scanner : Scanner} (hstart : scanner ≠ failed) (bytes : List UInt8) :
    (scan scanner bytes).1 = failed ↔ ∃ error, .error error ∈ (scan scanner bytes).2 := by
  obtain ⟨frames, ⟨hstate, hframes⟩ | ⟨error, herror⟩⟩ := scan_cases hstart bytes
  · rw [hframes]
    simp [hstate]
  · rw [herror]
    simp

/-- What has been seen of a header is what was read last. -/
theorem header_of_step {scanner : Scanner} {byte last : UInt8} {finalFrame : Bool}
    {opCode : FrameOpcode} {seen : List UInt8}
    (hstep : (step scanner byte).1 = header finalFrame opCode (seen ++ [last])) :
    scanner = header finalFrame opCode seen := by
  cases scanner with
  | start =>
    rw [step] at hstep
    split at hstep
    · simp at hstep
    · cases hstep
  | header finalFrame' opCode' seen' =>
    rw [step] at hstep
    split at hstep
    · simp at hstep
    · rename_i second rest hsplit
      split_ifs at hstep
      · injection hstep with hfinal hopCode hseen
        rw [← hsplit] at hseen
        rw [hfinal, hopCode, (List.append_inj' hseen rfl).1]
      · rw [enterBody] at hstep
        split at hstep
        · cases hstep
        · cases hstep
  | body finalFrame' opCode' length mask payload =>
    rw [step] at hstep
    split at hstep
    · cases hstep
    · cases hstep
  | failed => cases hstep

/-- Before the bytes seen of a header, only its first byte had been read. -/
theorem header_of_scan {scanner : Scanner} {first second : List UInt8} {finalFrame : Bool}
    {opCode : FrameOpcode}
    (hscan : (scan scanner (first ++ second)).1 = header finalFrame opCode second) :
    (scan scanner first).1 = header finalFrame opCode [] := by
  induction second using List.reverseRecOn with
  | nil => rwa [List.append_nil] at hscan
  | append_singleton second byte ih =>
    apply ih
    rw [← List.append_assoc, scan_append] at hscan
    exact header_of_step hscan

end Scanner

end KituraWebSocket
