/-
# Loops with a budget

A loop body takes a loop state either to the next loop state or to the result
the loop leaves with, and it may fault. `iterate` runs a body for at most a given
number of rounds. The budget makes the runner structural; it is never what a
correctness statement rests on, because `iterate_total` shows from an invariant
and a variant that the loop leaves by itself before the budget is spent.

`Visits` relates a state to every state the loop can stand at afterwards, so
that a property of each single round can be stated about whole executions.
-/

import Mathlib.Data.Nat.Notation
import Mathlib.Tactic.TypeStar

namespace BoundedLoop

variable {σ ρ ε : Type*}

/-- Run `body` from a state for at most `budget` rounds. `exhausted` is the fault
reported when the budget runs out first. -/
def iterate (exhausted : ε) (body : σ → Except ε (σ ⊕ ρ)) : ℕ → σ → Except ε ρ
  | 0, _ => .error exhausted
  | budget + 1, state =>
    match body state with
    | .error fault => .error fault
    | .ok (.inl next) => iterate exhausted body budget next
    | .ok (.inr result) => .ok result

variable {exhausted : ε} {body : σ → Except ε (σ ⊕ ρ)}

theorem iterate_next {budget : ℕ} {state next : σ} (hround : body state = .ok (.inl next)) :
    iterate exhausted body (budget + 1) state = iterate exhausted body budget next := by
  simp [iterate, hround]

theorem iterate_done {budget : ℕ} {state : σ} {result : ρ}
    (hround : body state = .ok (.inr result)) :
    iterate exhausted body (budget + 1) state = .ok result := by
  simp [iterate, hround]

/-- If every round from a state of the invariant either keeps the invariant and decreases the
variant or leaves with a result of the postcondition, then a loop with more budget than variant
leaves with such a result: it neither faults nor exhausts its budget. -/
theorem iterate_total (exhausted : ε) (body : σ → Except ε (σ ⊕ ρ)) (Inv : σ → Prop)
    (Post : ρ → Prop) (variant : σ → ℕ)
    (hround : ∀ state, Inv state →
      (∃ next, body state = .ok (.inl next) ∧ Inv next ∧ variant next < variant state) ∨
      ∃ result, body state = .ok (.inr result) ∧ Post result) :
    ∀ (budget : ℕ) (state : σ), variant state < budget → Inv state →
      ∃ result, iterate exhausted body budget state = .ok result ∧ Post result := by
  intro budget
  induction budget with
  | zero => intro state hlt; exact absurd hlt (Nat.not_lt_zero _)
  | succ budget ih =>
    intro state hlt hinv
    rcases hround state hinv with ⟨next, hnext, hinv', hless⟩ | ⟨result, hresult, hpost⟩
    · rw [iterate_next hnext]
      exact ih next (by omega) hinv'
    · exact ⟨result, iterate_done hresult, hpost⟩

/-- If every round from a state of the invariant keeps the invariant or leaves with a result of the
postcondition, then a loop that leaves does so with such a result. -/
theorem iterate_partial (Inv : σ → Prop) (Post : ρ → Prop)
    (hround : ∀ state outcome, Inv state → body state = .ok outcome → Sum.elim Inv Post outcome) :
    ∀ (budget : ℕ) (state : σ) (result : ρ), Inv state →
      iterate exhausted body budget state = .ok result → Post result := by
  intro budget
  induction budget with
  | zero =>
    intro state result _ hresult
    cases hresult
  | succ budget ih =>
    intro state result hinv hresult
    cases hbody : body state with
    | error fault =>
      rw [iterate, hbody] at hresult
      cases hresult
    | ok outcome =>
      have houtcome := hround state outcome hinv hbody
      cases outcome with
      | inl next =>
        rw [iterate_next hbody] at hresult
        exact ih next result houtcome hresult
      | inr last =>
        rw [iterate_done hbody] at hresult
        cases hresult
        exact houtcome

/-- The states a loop can stand at once it has stood at a given state. -/
inductive Visits (body : σ → Except ε (σ ⊕ ρ)) (start : σ) : σ → Prop
  | /-- It stands at the given state. -/
    refl : Visits body start start
  | /-- It stands wherever one more round leads. -/
    round {state next : σ} (hvisit : Visits body start state)
      (hround : body state = .ok (.inl next)) : Visits body start next

/-- What every continuing round preserves holds wherever the loop stands. -/
theorem Visits.invariant {Inv : σ → Prop} {start state : σ}
    (hround : ∀ state next, Inv state → body state = .ok (.inl next) → Inv next)
    (hstart : Inv start) (hvisit : Visits body start state) : Inv state := by
  induction hvisit with
  | refl => exact hstart
  | round _ hnext ih => exact hround _ _ ih hnext

/-- Wherever the loop stands, the next round goes through, and one that goes on moves the
position forward. -/
def Progresses (body : σ → Except ε (σ ⊕ ρ)) (position : σ → ℕ) (start : σ) : Prop :=
  ∀ state, Visits body start state → ∃ outcome, body state = .ok outcome ∧
    ∀ next, outcome = .inl next → position state < position next

/-- Progress from an invariant: a round keeps it and moves forward, or leaves. -/
theorem progresses (Inv : σ → Prop) (position : σ → ℕ) {start : σ}
    (hround : ∀ state, Inv state →
      (∃ next, body state = .ok (.inl next) ∧ Inv next ∧ position state < position next) ∨
      ∃ result, body state = .ok (.inr result))
    (hstart : Inv start) :
    Progresses body position start ∧ ∀ state, Visits body start state → Inv state := by
  have hinv : ∀ state, Visits body start state → Inv state := by
    intro state hvisit
    apply hvisit.invariant _ hstart
    intro state next hstate hnext
    rcases hround state hstate with ⟨next', hnext', hkept, _⟩ | ⟨result, hresult⟩
    · rw [hnext] at hnext'
      cases hnext'
      exact hkept
    · rw [hnext] at hresult
      cases hresult
  refine ⟨fun state hvisit => ?_, hinv⟩
  rcases hround state (hinv state hvisit) with ⟨next, hnext, _, hless⟩ | ⟨result, hresult⟩
  · exact ⟨_, hnext, fun other hother => by cases hother; exact hless⟩
  · exact ⟨_, hresult, fun other hother => by cases hother⟩

end BoundedLoop
