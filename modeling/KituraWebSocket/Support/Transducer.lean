/-
# Machines that read one symbol at a time

A transducer reads a symbol in a state, moves to the next state and emits a list
of outputs. Reading a word is reading its symbols in order, so what is emitted
for a concatenation does not depend on where it was cut.
-/

import Mathlib.Data.List.Basic
import Mathlib.Tactic.TypeStar

namespace Transducer

variable {σ α β : Type*}

/-- Read a word: the state reached and everything emitted on the way. -/
def read (step : σ → α → σ × List β) : σ → List α → σ × List β
  | state, [] => (state, [])
  | state, symbol :: word =>
    let here := step state symbol
    let later := read step here.1 word
    (later.1, here.2 ++ later.2)

variable {step : σ → α → σ × List β}

@[simp]
theorem read_nil (state : σ) : read step state [] = (state, []) := rfl

theorem read_cons (state : σ) (symbol : α) (word : List α) :
    read step state (symbol :: word) =
      ((read step (step state symbol).1 word).1,
        (step state symbol).2 ++ (read step (step state symbol).1 word).2) := rfl

/-- Reading a concatenation is reading its parts one after the other. -/
theorem read_append (state : σ) (first second : List α) :
    read step state (first ++ second) =
      ((read step (read step state first).1 second).1,
        (read step state first).2 ++ (read step (read step state first).1 second).2) := by
  induction first generalizing state with
  | nil => simp
  | cons symbol word ih => simp [read_cons, ih]

/-- From a state that absorbs every symbol silently nothing is emitted. -/
theorem read_absorbing {state : σ} (habsorb : ∀ symbol, step state symbol = (state, []))
    (word : List α) : read step state word = (state, []) := by
  induction word with
  | nil => rfl
  | cons symbol word ih => simp [read_cons, habsorb, ih]

end Transducer
