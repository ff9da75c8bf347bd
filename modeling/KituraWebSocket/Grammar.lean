/-
# The grammar of frames

What a frame looks like on the wire, said without reference to the parser or to
the header writer: a first byte with the final flag and the opcode, a second byte
with the mask bit and seven bits of length, a length field of zero, two or eight
bytes, a mask if the mask bit is set, and the payload.

A `ClientFrame` is a frame a client may send. Its fields carry the proofs that
its parts fit together, so that every `ClientFrame` is well formed. A frame of
the server has no mask and the shortest length field for its payload; the bytes
of one and the decoder of a stream of them are at the end.
-/

import KituraWebSocket.Support.PrefixCode
import KituraWebSocket.WSFrame

namespace KituraWebSocket

namespace Grammar

/-- The first byte of a frame whose RSV bits are zero. -/
def firstByte (finalFrame : Bool) (opCode : FrameOpcode) : UInt8 :=
  (if finalFrame then 0x80 else 0x00) ||| UInt8.ofNat opCode.rawValue.toNat

/-- A first byte with RSV bits zero and one of the opcodes of a frame. -/
def LegalFirst (first : UInt8) : Prop :=
  first &&& 0x70 = 0 ∧ (first &&& 0x0f).toNat ∈ [0, 1, 2, 8, 9, 10]

instance (first : UInt8) : Decidable (LegalFirst first) := by
  unfold LegalFirst
  infer_instance

/-- The mask bit of a second byte. -/
def maskBit (second : UInt8) : Bool := second &&& 0x80 != 0

/-- The width of the length field that a second byte selects. -/
def extendedSize (second : UInt8) : ℕ :=
  if second &&& 0x7f = 126 then 2 else if second &&& 0x7f = 127 then 8 else 0

/-- The length that a second byte and the length field announce. -/
def announcedLength (second : UInt8) (field : List UInt8) : ℕ :=
  if extendedSize second = 0 then (second &&& 0x7f).toNat else BigEndian.value field

/-- The final flag and opcode that a first byte carries. -/
def carried (first : UInt8) : Bool × FrameOpcode :=
  (first &&& 0x80 != 0, (FrameOpcode.ofRawValue (first &&& 0x0f).toNat).getD .unknown)

theorem carried_firstByte {opCode : FrameOpcode} (hknown : opCode ≠ .unknown)
    (finalFrame : Bool) : carried (firstByte finalFrame opCode) = (finalFrame, opCode) := by
  revert hknown
  cases finalFrame <;> cases opCode <;> decide

theorem legalFirst_firstByte {opCode : FrameOpcode} (hknown : opCode ≠ .unknown)
    (finalFrame : Bool) : LegalFirst (firstByte finalFrame opCode) := by
  revert hknown
  cases finalFrame <;> cases opCode <;> decide

/-- Every legal first byte is the first byte of a frame. -/
theorem LegalFirst.exists_firstByte {first : UInt8} (hlegal : LegalFirst first) :
    ∃ finalFrame opCode, opCode ≠ .unknown ∧ first = firstByte finalFrame opCode := by
  have hbyte : ∀ byte : UInt8, LegalFirst byte →
      (carried byte).2 ≠ .unknown ∧ byte = firstByte (carried byte).1 (carried byte).2 := by
    apply forall_byte
    decide +kernel
  exact ⟨_, _, hbyte first hlegal⟩

/-- A frame that a client may send. -/
structure ClientFrame where
  finalFrame : Bool
  opCode : FrameOpcode
  /-- The second byte. -/
  second : UInt8
  /-- The length field after the second byte. -/
  field : List UInt8
  mask : List UInt8
  /-- The payload as it is sent. -/
  wire : List UInt8
  known : opCode ≠ .unknown
  masked : maskBit second = true
  fieldSize : field.length = extendedSize second
  maskSize : mask.length = 4
  wireSize : wire.length = announcedLength second field

namespace ClientFrame

/-- The bytes of a frame. -/
def encode (frame : ClientFrame) : List UInt8 :=
  firstByte frame.finalFrame frame.opCode ::
    frame.second :: (frame.field ++ frame.mask ++ frame.wire)

/-- The byte `i` of the payload is the byte `i` on the wire xor the byte `i mod 4` of the
mask. -/
def payload (frame : ClientFrame) : List UInt8 :=
  frame.wire.mapIdx fun i byte => byte ^^^ frame.mask.getD (i % 4) 0

/-- The frame that is delivered. -/
def delivered (frame : ClientFrame) : WSFrame where
  finalFrame := frame.finalFrame
  opCode := frame.opCode
  payload := frame.payload

/-- The bytes of a sequence of frames. -/
def encodeAll (frames : List ClientFrame) : List UInt8 :=
  frames.flatMap encode

@[simp]
theorem encodeAll_nil : encodeAll [] = [] := rfl

@[simp]
theorem encodeAll_cons (frame : ClientFrame) (frames : List ClientFrame) :
    encodeAll (frame :: frames) = frame.encode ++ encodeAll frames := rfl

/-- No frame is the beginning of another one. -/
theorem encode_append_inj {first second : ClientFrame} {rest rest' : List UInt8}
    (h : first.encode ++ rest = second.encode ++ rest') : first = second ∧ rest = rest' := by
  obtain ⟨finalFrame, opCode, byte, field, mask, wire, known, masked, fieldSize, maskSize,
    wireSize⟩ := first
  obtain ⟨finalFrame', opCode', byte', field', mask', wire', known', masked', fieldSize',
    maskSize', wireSize'⟩ := second
  simp only [encode, List.cons_append, List.append_assoc, List.cons.injEq] at h
  obtain ⟨hfirst, rfl, htail⟩ := h
  have hcarried := congrArg carried hfirst
  rw [carried_firstByte known, carried_firstByte known'] at hcarried
  cases hcarried
  obtain ⟨rfl, hbehind⟩ := List.append_inj htail (fieldSize.trans fieldSize'.symm)
  obtain ⟨rfl, hdata⟩ := List.append_inj hbehind (maskSize.trans maskSize'.symm)
  obtain ⟨rfl, rfl⟩ := List.append_inj hdata (wireSize.trans wireSize'.symm)
  exact ⟨rfl, rfl⟩

end ClientFrame

open ClientFrame

/-- The longest sequence of complete frames that a byte string starts with, and the
rest. -/
structure IsLongest (bytes : List UInt8) (frames : List ClientFrame) (rest : List UInt8) :
    Prop where
  split : bytes = encodeAll frames ++ rest
  longest : ∀ others rest', bytes = encodeAll others ++ rest' → others <+: frames

theorem isLongest_nil {rest : List UInt8}
    (hnone : ¬ ∃ (frame : ClientFrame) (more : List UInt8), rest = frame.encode ++ more) :
    IsLongest rest [] rest := by
  refine ⟨rfl, fun others rest' hsplit => ?_⟩
  cases others with
  | nil => exact List.nil_prefix
  | cons other others =>
    rw [encodeAll_cons, List.append_assoc] at hsplit
    exact absurd ⟨other, _, hsplit⟩ hnone

theorem IsLongest.cons {bytes rest : List UInt8} {frames : List ClientFrame}
    (h : IsLongest bytes frames rest) (frame : ClientFrame) :
    IsLongest (frame.encode ++ bytes) (frame :: frames) rest := by
  refine ⟨by rw [encodeAll_cons, List.append_assoc, ← h.split], fun others rest' hsplit => ?_⟩
  cases others with
  | nil => exact List.nil_prefix
  | cons other others =>
    rw [encodeAll_cons, List.append_assoc] at hsplit
    obtain ⟨rfl, htail⟩ := encode_append_inj hsplit
    exact List.cons_prefix_cons.mpr ⟨rfl, h.longest others rest' htail⟩

/-- Every eight byte length field in the stream is below 2^32. -/
def LongLengthsSmall (bytes : List UInt8) : Prop :=
  ∀ (frames : List ClientFrame) (first second : UInt8) (field rest : List UInt8),
    bytes = encodeAll frames ++ first :: second :: (field ++ rest) → LegalFirst first →
    maskBit second = true → extendedSize second = 8 → field.length = 8 →
    BigEndian.value field < 2 ^ 32

theorem LongLengthsSmall.of_append {frame : ClientFrame} {rest : List UInt8}
    (hsmall : LongLengthsSmall (frame.encode ++ rest)) : LongLengthsSmall rest := by
  intro frames first second field tail hsplit
  exact hsmall (frame :: frames) first second field tail (by
    rw [hsplit, encodeAll_cons, List.append_assoc])

theorem LongLengthsSmall.field {frame : ClientFrame} {rest : List UInt8}
    (hsmall : LongLengthsSmall (frame.encode ++ rest)) (hlong : extendedSize frame.second = 8) :
    BigEndian.value frame.field < 2 ^ 32 :=
  hsmall [] _ frame.second frame.field (frame.mask ++ (frame.wire ++ rest)) (by simp [encode])
    (legalFirst_firstByte frame.known frame.finalFrame) frame.masked hlong (frame.fieldSize.trans hlong)

/-- A stream of whole frames is small if its frames are. -/
theorem longLengthsSmall_encodeAll {frames : List ClientFrame}
    (hsmall : ∀ frame ∈ frames, extendedSize frame.second = 8 →
      BigEndian.value frame.field < 2 ^ 32) : LongLengthsSmall (encodeAll frames) := by
  intro others first second field rest hsplit hlegal hmasked hlong hfield
  induction others generalizing frames with
  | nil =>
    cases frames with
    | nil => cases hsplit
    | cons frame frames =>
      have hparts := hsplit
      simp only [encodeAll_cons, encodeAll_nil, encode, List.nil_append, List.cons_append,
        List.append_assoc, List.cons.injEq] at hparts
      obtain ⟨_, rfl, hbehind⟩ := hparts
      have hsize : frame.field.length = field.length := by rw [frame.fieldSize, hlong, hfield]
      obtain ⟨rfl, _⟩ := List.append_inj hbehind hsize
      exact hsmall frame List.mem_cons_self hlong
  | cons other others ih =>
    cases frames with
    | nil =>
      have hlength := congrArg List.length hsplit
      simp [encode] at hlength
    | cons frame frames =>
      rw [encodeAll_cons, encodeAll_cons, List.append_assoc] at hsplit
      obtain ⟨_, htail⟩ := encode_append_inj hsplit
      exact ih (fun later hlater => hsmall later (List.mem_cons_of_mem frame hlater)) htail

/-- The longest sequence of a stream of whole frames is all of it. -/
theorem IsLongest.eq_of_encodeAll {frames found : List ClientFrame} {rest : List UInt8}
    (h : IsLongest (encodeAll frames) found rest) : found = frames ∧ rest = [] := by
  obtain ⟨more, rfl⟩ := h.longest frames [] (List.append_nil _).symm
  have hnothing : encodeAll more ++ rest = [] := by
    have hsplit := h.split
    rw [encodeAll, encodeAll, List.flatMap_append, List.append_assoc,
      List.self_eq_append_right] at hsplit
    exact hsplit
  obtain ⟨hmore, hrest⟩ := List.append_eq_nil_iff.mp hnothing
  cases more with
  | nil => exact ⟨List.append_nil _, hrest⟩
  | cons frame more => cases hmore

/-- Bytes that no frame starts with. -/
inductive StartsIllegal : List UInt8 → Prop
  | /-- The first byte has an RSV bit or an unknown opcode. -/
    first {first : UInt8} {rest : List UInt8} (illegal : ¬ LegalFirst first) :
    StartsIllegal (first :: rest)
  | /-- The second byte has no mask bit. -/
    unmasked {first second : UInt8} {rest : List UInt8} (legal : LegalFirst first)
    (clear : maskBit second = false) : StartsIllegal (first :: second :: rest)

/-- Bytes that end inside the length and mask of a frame, with at least one byte of that
part present. -/
inductive EndsInHeader : List UInt8 → Prop
  | header {first second : UInt8} {rest : List UInt8} (legal : LegalFirst first)
    (masked : maskBit second = true) (short : rest.length < extendedSize second + 4) :
    EndsInHeader (first :: second :: rest)

/-- Bytes that are a proper beginning of a frame, cut before its length or in its payload. -/
inductive EndsElsewhere : List UInt8 → Prop
  | /-- Nothing of a frame. -/
    nothing : EndsElsewhere []
  | /-- The first byte. -/
    first {first : UInt8} (legal : LegalFirst first) : EndsElsewhere [first]
  | /-- A whole header and a part of the payload. -/
    payload {first second : UInt8} {field mask wire : List UInt8} (legal : LegalFirst first)
    (masked : maskBit second = true) (fieldSize : field.length = extendedSize second)
    (maskSize : mask.length = 4) (short : wire.length < announcedLength second field) :
    EndsElsewhere (first :: second :: (field ++ mask ++ wire))

/-- Behind a whole header the payload is all there or it is not. -/
theorem header_cases {first second : UInt8} {rest : List UInt8} (hlegal : LegalFirst first)
    (hmasked : maskBit second = true) (hheader : extendedSize second + 4 ≤ rest.length) :
    (∃ (frame : ClientFrame) (tail : List UInt8),
        first :: second :: rest = frame.encode ++ tail) ∨
      StartsIllegal (first :: second :: rest) ∨ EndsInHeader (first :: second :: rest) ∨
      EndsElsewhere (first :: second :: rest) := by
  obtain ⟨field, behind, rfl, hfield⟩ : ∃ field behind, rest = field ++ behind ∧
      field.length = extendedSize second :=
    ⟨_, _, (List.take_append_drop (extendedSize second) rest).symm,
      List.length_take_of_le (by omega)⟩
  rw [List.length_append] at hheader
  obtain ⟨mask, data, rfl, hmask⟩ : ∃ mask data, behind = mask ++ data ∧ mask.length = 4 :=
    ⟨_, _, (List.take_append_drop 4 behind).symm, List.length_take_of_le (by omega)⟩
  rw [← List.append_assoc]
  by_cases hshort : data.length < announcedLength second field
  · exact .inr (.inr (.inr (.payload hlegal hmasked hfield hmask hshort)))
  · obtain ⟨wire, tail, rfl, hwire⟩ : ∃ wire tail, data = wire ++ tail ∧
        wire.length = announcedLength second field :=
      ⟨_, _, (List.take_append_drop (announcedLength second field) data).symm,
        List.length_take_of_le (by omega)⟩
    obtain ⟨finalFrame, opCode, hknown, rfl⟩ := hlegal.exists_firstByte
    refine .inl ⟨⟨finalFrame, opCode, second, field, mask, wire, hknown, hmasked, hfield, hmask,
      hwire⟩, tail, ?_⟩
    simp [encode]

/-- A frame that is all there at the front of a byte string, or one of the three ways in
which it is not. -/
theorem front_cases (bytes : List UInt8) :
    (∃ (frame : ClientFrame) (rest : List UInt8), bytes = frame.encode ++ rest) ∨
      StartsIllegal bytes ∨ EndsInHeader bytes ∨ EndsElsewhere bytes := by
  cases bytes with
  | nil => exact .inr (.inr (.inr .nothing))
  | cons first bytes =>
    by_cases hlegal : LegalFirst first
    · cases bytes with
      | nil => exact .inr (.inr (.inr (.first hlegal)))
      | cons second rest =>
        cases hmasked : maskBit second with
        | false => exact .inr (.inl (.unmasked hlegal hmasked))
        | true =>
          by_cases hheader : rest.length < extendedSize second + 4
          · exact .inr (.inr (.inl (.header hlegal hmasked hheader)))
          · exact header_cases hlegal hmasked (Nat.not_lt.mp hheader)
    · exact .inr (.inl (.first hlegal))

/-- The width of the shortest length field for a payload. -/
def shortestSize (length : ℕ) : ℕ :=
  if length < 126 then 0 else if length < 2 ^ 16 then 2 else 8

/-- The header of a frame without mask. -/
def serverHeader (finalFrame : Bool) (opCode : FrameOpcode) (length : ℕ) : List UInt8 :=
  firstByte finalFrame opCode ::
    if length < 126 then [UInt8.ofNat length]
    else if length < 2 ^ 16 then 126 :: BigEndian.bytes 2 length
    else 127 :: BigEndian.bytes 8 length

/-- The bytes of a frame without mask. -/
def serverFrame (frame : WSFrame) : List UInt8 :=
  serverHeader frame.finalFrame frame.opCode frame.payload.length ++ frame.payload

/-- Take a frame without mask, with the shortest length field, off a byte string. -/
def decodeServerFrame : List UInt8 → Option (WSFrame × List UInt8)
  | first :: second :: rest =>
    let field := rest.take (extendedSize second)
    let data := rest.drop (extendedSize second)
    let length := announcedLength second field
    if LegalFirst first ∧ maskBit second = false ∧ field.length = extendedSize second ∧
        extendedSize second = shortestSize length ∧ length < 2 ^ 63 ∧ length ≤ data.length then
      some (⟨(carried first).1, (carried first).2, data.take length⟩, data.drop length)
    else none
  | _ => none

/-- A length below 126 is its own second byte. -/
theorem shortSecond {length : ℕ} (hshort : length < 126) :
    maskBit (UInt8.ofNat length) = false ∧ extendedSize (UInt8.ofNat length) = 0 ∧
      (UInt8.ofNat length &&& 0x7f).toNat = length := by
  have hall : ∀ length : Fin 126, maskBit (UInt8.ofNat length) = false ∧
      extendedSize (UInt8.ofNat length) = 0 ∧ (UInt8.ofNat length &&& 0x7f).toNat = length := by
    decide +kernel
  exact hall ⟨length, hshort⟩

/-- A second byte without mask bit and the length field behind it, for a payload length. -/
structure LengthCode (payloadLength : ℕ) (second : UInt8) (field : List UInt8) : Prop where
  unmasked : maskBit second = false
  width : field.length = extendedSize second
  announced : announcedLength second field = payloadLength

/-- The header of the server is a first byte and a code of the length with the shortest field. -/
theorem serverHeader_eq (finalFrame : Bool) (opCode : FrameOpcode) {payloadLength : ℕ}
    (hsmall : payloadLength < 2 ^ 64) :
    ∃ second field,
      serverHeader finalFrame opCode payloadLength =
        firstByte finalFrame opCode :: second :: field ∧
      LengthCode payloadLength second field ∧ field.length = shortestSize payloadLength := by
  rw [serverHeader, shortestSize]
  by_cases hshort : payloadLength < 126
  · obtain ⟨hmask, hsize, hvalue⟩ := shortSecond hshort
    have hannounced : announcedLength (UInt8.ofNat payloadLength) [] = payloadLength := by
      rw [announcedLength, if_pos hsize, hvalue]
    rw [if_pos hshort, if_pos hshort]
    exact ⟨_, [], rfl, ⟨hmask, hsize.symm, hannounced⟩, rfl⟩
  · rw [if_neg hshort, if_neg hshort]
    by_cases hmedium : payloadLength < 2 ^ 16
    · have hannounced : announcedLength 126 (BigEndian.bytes 2 payloadLength) = payloadLength :=
        BigEndian.value_bytes (hmedium.trans_le (by decide))
      rw [if_pos hmedium, if_pos hmedium]
      exact ⟨_, _, rfl, ⟨by decide, BigEndian.length_bytes _ _, hannounced⟩,
        BigEndian.length_bytes _ _⟩
    · have hannounced : announcedLength 127 (BigEndian.bytes 8 payloadLength) = payloadLength :=
        BigEndian.value_bytes (hsmall.trans_le (by decide))
      rw [if_neg hmedium, if_neg hmedium]
      exact ⟨_, _, rfl, ⟨by decide, BigEndian.length_bytes _ _, hannounced⟩,
        BigEndian.length_bytes _ _⟩

/-- Round trip of a frame. -/
theorem decodeServerFrame_serverFrame {frame : WSFrame} (hknown : frame.opCode ≠ .unknown)
    (hsmall : frame.payload.length < 2 ^ 63) :
    PrefixCode.Decodes decodeServerFrame serverFrame frame := by
  intro rest
  obtain ⟨finalFrame, opCode, payload⟩ := frame
  simp only at hknown hsmall
  obtain ⟨second, field, hheader, hcode, hshortest⟩ :=
    serverHeader_eq finalFrame opCode (hsmall.trans (by decide))
  have hdata : (field ++ (payload ++ rest)).drop (extendedSize second) = payload ++ rest := by
    rw [← hcode.width, List.drop_left]
  have htaken : (field ++ (payload ++ rest)).take (extendedSize second) = field := by
    rw [← hcode.width, List.take_left]
  rw [serverFrame, hheader]
  simp only [List.cons_append, List.append_assoc, decodeServerFrame, hdata, htaken,
    hcode.announced]
  rw [if_pos ⟨legalFirst_firstByte hknown finalFrame, hcode.unmasked, hcode.width,
      hcode.width.symm.trans hshortest, hsmall, by simp⟩,
    carried_firstByte hknown, List.take_left, List.drop_left]

end Grammar

end KituraWebSocket
