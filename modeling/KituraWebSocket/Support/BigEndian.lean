/-
# Big-endian byte strings

`value` reads a byte string as a natural number, most significant byte first,
and `bytes` writes a number in a given number of bytes. They are inverse to each
other between the strings of a length and the numbers that fit in it.
-/

import Mathlib.Data.List.Induction
import Mathlib.Data.Nat.Notation
import Mathlib.Algebra.Order.Ring.Nat
import Mathlib.Tactic.Ring

namespace BigEndian

/-- The number a byte string stands for. -/
def value (data : List UInt8) : ℕ :=
  data.foldl (fun number byte => 256 * number + byte.toNat) 0

/-- A number in `width` bytes; what does not fit is cut off at the top. -/
def bytes : ℕ → ℕ → List UInt8
  | 0, _ => []
  | width + 1, number => bytes width (number / 256) ++ [UInt8.ofNat number]

@[simp]
theorem value_nil : value [] = 0 := rfl

theorem value_concat (data : List UInt8) (byte : UInt8) :
    value (data ++ [byte]) = 256 * value data + byte.toNat := by
  simp [value, List.foldl_append]

@[simp]
theorem length_bytes (width number : ℕ) : (bytes width number).length = width := by
  induction width generalizing number with
  | zero => rfl
  | succ width ih => simp [bytes, ih]

/-- What does not fit is cut off. -/
theorem value_bytes_eq_mod (width number : ℕ) :
    value (bytes width number) = number % 256 ^ width := by
  induction width generalizing number with
  | zero => simp [bytes, Nat.mod_one]
  | succ width ih =>
    have hlow : (UInt8.ofNat number).toNat = number % 256 := by simp
    rw [bytes, value_concat, ih, hlow, pow_succ', Nat.mod_mul]
    ring

theorem value_bytes {width number : ℕ} (hfits : number < 256 ^ width) :
    value (bytes width number) = number := by
  rw [value_bytes_eq_mod, Nat.mod_eq_of_lt hfits]

/-- The last bytes are those of the number in fewer bytes. -/
theorem drop_bytes (high low number : ℕ) :
    (bytes (high + low) number).drop high = bytes low number := by
  induction low generalizing number with
  | zero => simp [bytes]
  | succ low ih =>
    rw [← Nat.add_assoc, bytes, List.drop_append_of_le_length (by simp), ih]
    rfl

theorem value_lt (data : List UInt8) : value data < 256 ^ data.length := by
  induction data using List.reverseRecOn with
  | nil => simp
  | append_singleton data byte ih =>
    have hbyte := byte.toNat_lt
    rw [value_concat, List.length_append, List.length_singleton, pow_succ]
    omega

theorem bytes_value (data : List UInt8) : bytes data.length (value data) = data := by
  induction data using List.reverseRecOn with
  | nil => rfl
  | append_singleton data byte ih =>
    have hbyte := byte.toNat_lt
    have hquot : (256 * value data + byte.toNat) / 256 = value data := by omega
    rw [value_concat, List.length_append, List.length_singleton, bytes, hquot, ih]
    congr 2
    apply UInt8.toNat_inj.mp
    simp only [UInt8.toNat_ofNat']
    omega

/-- Leading bytes weigh by the width of what follows them. -/
theorem value_append (high low : List UInt8) :
    value (high ++ low) = 256 ^ low.length * value high + value low := by
  induction low using List.reverseRecOn with
  | nil => simp
  | append_singleton low byte ih =>
    rw [← List.append_assoc, value_concat, value_concat, ih, List.length_append,
      List.length_singleton, pow_succ]
    ring

theorem value_injective {first second : List UInt8} (hlength : first.length = second.length)
    (hvalue : value first = value second) : first = second := by
  rw [← bytes_value first, ← bytes_value second, hlength, hvalue]

end BigEndian
