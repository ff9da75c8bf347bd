/-
# Streams of self-delimiting items

A decoder takes one item off the front of a byte string and leaves the rest. It
decodes an encoder when it takes every encoded item off any string that starts
with it. Such a decoder, applied until the bytes run out, recovers a list of
items from the concatenation of their encodings, and nothing is left over.
-/

import Mathlib.Data.Nat.Notation
import Mathlib.Tactic.TypeStar

namespace PrefixCode

variable {α β : Type*}

/-- Take items off a string until it is empty, at most `fuel` of them. -/
def decodeAll (decode : List β → Option (α × List β)) : ℕ → List β → Option (List α)
  | _, [] => some []
  | 0, _ :: _ => none
  | fuel + 1, symbol :: symbols =>
    match decode (symbol :: symbols) with
    | some (item, rest) => (decodeAll decode fuel rest).map (item :: ·)
    | none => none

/-- The decoder takes an encoded item off any string that starts with it. -/
def Decodes (decode : List β → Option (α × List β)) (encode : α → List β) (item : α) : Prop :=
  ∀ rest, decode (encode item ++ rest) = some (item, rest)

variable {decode : List β → Option (α × List β)} {encode : α → List β}

theorem decodeAll_append {item : α} (hitem : Decodes decode encode item)
    (hnonempty : encode item ≠ []) (fuel : ℕ) (rest : List β) :
    decodeAll decode (fuel + 1) (encode item ++ rest) =
      (decodeAll decode fuel rest).map (item :: ·) := by
  obtain ⟨symbol, symbols, hcons⟩ : ∃ symbol symbols, encode item ++ rest = symbol :: symbols :=
    List.exists_cons_of_ne_nil (List.append_ne_nil_of_left_ne_nil hnonempty rest)
  have hdecode := hitem rest
  rw [hcons] at hdecode ⊢
  rw [decodeAll, hdecode]

/-- Round trip of a stream. -/
theorem decodeAll_flatMap {items : List α} (hitems : ∀ item ∈ items, Decodes decode encode item)
    (hnonempty : ∀ item, encode item ≠ []) {fuel : ℕ} (hfuel : items.length ≤ fuel) :
    decodeAll decode fuel (items.flatMap encode) = some items := by
  induction items generalizing fuel with
  | nil => simp [decodeAll]
  | cons item items ih =>
    obtain ⟨fuel, rfl⟩ : ∃ more, fuel = more + 1 := ⟨fuel - 1, by simp at hfuel; omega⟩
    rw [List.flatMap_cons, decodeAll_append (hitems item (by simp)) (hnonempty item),
      ih (fun other hother => hitems other (by simp [hother])) (by simpa using hfuel)]
    rfl

end PrefixCode
