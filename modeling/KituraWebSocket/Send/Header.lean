/-
# The header writer

`createFrameHeader` appends the header that the grammar gives a frame of the
server, for every payload of fewer than 2^32 bytes. From there on its conversion
to thirty-two bits traps.
-/

import KituraWebSocket.Grammar

namespace KituraWebSocket

open Grammar

/-- A number in more bytes than it needs starts with zeros. -/
theorem bytes_eight {number : ℕ} (hsmall : number < 2 ^ 32) :
    BigEndian.bytes 8 number = 0 :: 0 :: 0 :: 0 :: BigEndian.bytes 4 number := by
  have hhigh : BigEndian.value [0, 0, 0, 0] = 0 := rfl
  have hfour : BigEndian.value (BigEndian.bytes 4 number) = number :=
    BigEndian.value_bytes (hsmall.trans_le (by decide))
  have height : BigEndian.value (BigEndian.bytes 8 number) = number :=
    BigEndian.value_bytes (hsmall.trans_le (by decide))
  apply BigEndian.value_injective
  · simp
  · rw [height]
    calc number = 256 ^ (BigEndian.bytes 4 number).length * BigEndian.value [0, 0, 0, 0] +
          BigEndian.value (BigEndian.bytes 4 number) := by rw [hhigh, hfour]; simp
      _ = BigEndian.value ([0, 0, 0, 0] ++ BigEndian.bytes 4 number) :=
          (BigEndian.value_append _ _).symm

theorem toUnsigned_rawValue {opCode : FrameOpcode} (hknown : opCode ≠ .unknown) :
    toUnsigned 8 opCode.rawValue = .ok opCode.rawValue.toNat := by
  revert hknown
  cases opCode <;> decide

/-- The header of a frame. -/
theorem createFrameHeader_eq {opCode : FrameOpcode} (hknown : opCode ≠ .unknown)
    {payloadLength : ℕ} (hlength : payloadLength < 2 ^ 32) (finalFrame : Bool)
    (buffer : List UInt8) :
    WSFrame.createFrameHeader finalFrame opCode payloadLength buffer =
      .ok (buffer ++ serverHeader finalFrame opCode payloadLength) := by
  rw [WSFrame.createFrameHeader, toUnsigned_rawValue hknown, ok_bind, serverHeader, firstByte]
  by_cases hshort : payloadLength < 126
  · rw [if_pos hshort, if_pos hshort, toUnsigned_natCast (by omega)]
    simp [writeByte]
  · by_cases hmedium : payloadLength < 2 ^ 16
    · have hle : payloadLength ≤ 65535 := by omega
      rw [if_neg hshort, if_neg hshort, if_pos hle, if_pos hmedium, toUnsigned_natCast hmedium]
      simp [writeByte, copyMemory, hostToNetwork]
    · have hgt : ¬ payloadLength ≤ 65535 := by omega
      rw [if_neg hshort, if_neg hshort, if_neg hgt, if_neg hmedium, toUnsigned_natCast hlength,
        bytes_eight hlength]
      simp [writeByte, copyMemory, hostToNetwork, List.take_of_length_le]

/-- A payload of 2^32 bytes or more stops the program. -/
theorem createFrameHeader_overflow {opCode : FrameOpcode} (hknown : opCode ≠ .unknown)
    {payloadLength : ℕ} (hlength : 2 ^ 32 ≤ payloadLength) (finalFrame : Bool)
    (buffer : List UInt8) :
    WSFrame.createFrameHeader finalFrame opCode payloadLength buffer = .error .overflow := by
  have hlong : toUnsigned 32 payloadLength = .error .overflow :=
    if_neg fun h => absurd (Int.ofNat_lt.mp h.2) (Nat.not_lt.mpr hlength)
  rw [WSFrame.createFrameHeader, toUnsigned_rawValue hknown, ok_bind, if_neg (by omega),
    if_neg (by omega), hlong]
  simp [writeByte]

end KituraWebSocket
