/-
# The Swift runtime and Foundation, as far as the library uses them

Byte buffers (`NSData`, `NSMutableData`, `[UInt8]`, raw buffer pointers) are lists
of bytes. Every read or write at an index, and every trapping integer
conversion, can fault, so that memory safety and freedom from traps are
statements about the model and not conventions of it.
-/

import KituraWebSocket.Support.BigEndian

namespace KituraWebSocket

/-- What stops the program, or the model of it. -/
inductive Fault
  | /-- An index or range outside the storage it is applied to. -/
    outOfRange
  | /-- An integer conversion or product whose value the type cannot hold. -/
    overflow
  | /-- Not a fault of the program: a loop or call budget of the model ran out. -/
    outOfBudget
  deriving DecidableEq, Repr

@[simp]
theorem ok_bind {α β : Type} (value : α) (next : α → Except Fault β) :
    (Except.ok value >>= next) = next value := rfl

@[simp]
theorem error_bind {α β : Type} (fault : Fault) (next : α → Except Fault β) :
    (Except.error fault >>= next) = .error fault := rfl

@[simp]
theorem pure_eq_ok {α : Type} (value : α) : (pure value : Except Fault α) = .ok value := rfl

/-- A bind returns when its parts return one after the other. -/
theorem bind_eq_ok {α β : Type} {first : Except Fault α} {next : α → Except Fault β}
    {result : β} :
    (first >>= next) = .ok result ↔ ∃ value, first = .ok value ∧ next value = .ok result := by
  cases first <;> simp

theorem map_eq_ok {α β : Type} {first : Except Fault α} {next : α → β} {result : β} :
    first.map next = .ok result ↔ ∃ value, first = .ok value ∧ next value = result := by
  cases first <;> simp [Except.map]

/-- `bytes[index]`. -/
def readByte (bytes : List UInt8) (index : ℕ) : Except Fault UInt8 :=
  match bytes[index]? with
  | some byte => .ok byte
  | none => .error .outOfRange

/-- `bytes[lower ..< upper]`. -/
def readRange (bytes : List UInt8) (lower upper : ℕ) : Except Fault (List UInt8) :=
  if lower ≤ upper ∧ upper ≤ bytes.length then .ok ((bytes.drop lower).take (upper - lower))
  else .error .outOfRange

/-- `bytes[index] = byte`. -/
def writeByte (bytes : List UInt8) (index : ℕ) (byte : UInt8) : Except Fault (List UInt8) :=
  if index < bytes.length then .ok (bytes.set index byte) else .error .outOfRange

/-- `copyMemory(from:byteCount:)` into array storage at an offset. -/
def copyMemory (bytes : List UInt8) (offset : ℕ) (source : List UInt8) :
    Except Fault (List UInt8) :=
  if offset + source.length ≤ bytes.length then
    .ok (bytes.take offset ++ source ++ bytes.drop (offset + source.length))
  else .error .outOfRange

theorem readByte_ok {bytes : List UInt8} {index : ℕ} {byte : UInt8}
    (h : bytes[index]? = some byte) : readByte bytes index = .ok byte := by
  simp [readByte, h]

theorem readByte_of_lt {bytes : List UInt8} {index : ℕ} (h : index < bytes.length) :
    readByte bytes index = .ok bytes[index] :=
  readByte_ok (List.getElem?_eq_getElem h)

theorem readRange_of_le {bytes : List UInt8} {lower upper : ℕ} (hrange : lower ≤ upper)
    (hupper : upper ≤ bytes.length) :
    readRange bytes lower upper = .ok ((bytes.drop lower).take (upper - lower)) :=
  if_pos ⟨hrange, hupper⟩

theorem writeByte_of_lt {bytes : List UInt8} {index : ℕ} {byte : UInt8}
    (h : index < bytes.length) : writeByte bytes index byte = .ok (bytes.set index byte) :=
  if_pos h

/-- A statement about all bytes is one about the first 256 numbers. -/
theorem forall_byte {P : UInt8 → Prop} (h : ∀ number : Fin 256, P (UInt8.ofNat number))
    (byte : UInt8) : P byte := by
  simpa using h ⟨byte.toNat, byte.toNat_lt⟩

/-- The trapping conversion to an unsigned integer type of the given width. -/
def toUnsigned (width : ℕ) (value : ℤ) : Except Fault ℕ :=
  if 0 ≤ value ∧ value < 2 ^ width then .ok value.toNat else .error .overflow

/-- The trapping product of two values of `Int`. -/
def multiplied (first second : ℤ) : Except Fault ℤ :=
  if -2 ^ 63 ≤ first * second ∧ first * second < 2 ^ 63 then .ok (first * second)
  else .error .overflow

theorem multiplied_eq_ok {first second product : ℤ} :
    multiplied first second = .ok product ↔
      (-2 ^ 63 ≤ first * second ∧ first * second < 2 ^ 63) ∧ first * second = product := by
  rw [multiplied]
  split <;> simp_all

/-- `htons` and `htonl`: the bytes that the swapped integer occupies in memory. -/
def hostToNetwork (byteCount value : ℕ) : List UInt8 := BigEndian.bytes byteCount value

/-- `ntohs` and `ntohl`, of the integer that occupies the given bytes in memory. -/
def networkToHost (memory : List UInt8) : ℕ := BigEndian.value memory

theorem toUnsigned_natCast {width value : ℕ} (h : value < 2 ^ width) :
    toUnsigned width value = .ok value := by
  rw [toUnsigned, if_pos ⟨Int.natCast_nonneg _, by exact_mod_cast h⟩, Int.toNat_natCast]

/-- `getCString(_:maxLength:encoding:)` and `lengthOfBytes(using:)` with UTF-8:
the encoded bytes, without the terminating zero. -/
def utf8Bytes (text : String) : List UInt8 := text.toByteArray.data.toList

/-- `String(data:encoding:)` with UTF-8. -/
def stringFromUTF8 (data : List UInt8) : Option String := String.fromUTF8? ⟨data.toArray⟩

/-- A letter of the alphabet takes one byte. -/
theorem length_utf8Bytes_replicate (count : ℕ) :
    (utf8Bytes (String.ofList (List.replicate count 'a'))).length = count := by
  have hsize : (List.replicate count 'a').utf8Encode.size = count := by
    induction count with
    | zero => rfl
    | succ count ih =>
      rw [List.replicate_succ, List.utf8Encode_cons, ByteArray.size_append, ih,
        List.utf8Encode_singleton]
      have hone : 'a'.utf8Size = 1 := rfl
      simp [hone, Nat.add_comm]
  simpa [utf8Bytes] using hsize

/-- Decoding and encoding are inverse to each other on valid UTF-8. -/
theorem stringFromUTF8_eq_some {data : List UInt8} {text : String} :
    stringFromUTF8 data = some text ↔ utf8Bytes text = data := by
  rw [stringFromUTF8, String.fromUTF8?, utf8Bytes]
  constructor
  · intro h
    split at h
    · cases h
      rfl
    · cases h
  · rintro rfl
    have hvalid : ByteArray.IsValidUTF8 ⟨text.toByteArray.data.toList.toArray⟩ :=
      text.isValidUTF8
    rw [dif_pos hvalid]
    rfl

end KituraWebSocket
