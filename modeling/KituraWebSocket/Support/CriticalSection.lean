/-
# Critical sections

Any number of participants each go once through a section of steps on a shared
state, guarded by one semaphore that starts at one. A schedule says whose turn it is; a
participant that waits for the semaphore lets its turn pass. `run_orderly` says what
every schedule leaves: the sections of those who are done have been carried out whole, one
after the other in the order of entry, and behind them at most one section in part.
-/

import Mathlib.Data.List.Nodup
import Mathlib.Logic.Function.Basic
import KituraWebSocket.Support.FallibleRun

namespace CriticalSection

variable {ι σ ρ ε : Type*}

/-- A section: the position it starts at, and the step it makes on the shared state from a
position, which leads to the next position or to its end. -/
structure Section (σ ρ ε : Type*) where
  first : ρ
  act : ρ → σ → Except ε (Option ρ × σ)

/-- Where a participant is. Inside, without a position, it has only the semaphore left to
signal. -/
inductive Stage (ρ : Type*)
  | waiting
  | inside (position : Option ρ)
  | done

/-- The semaphore, the participants and the shared state. The order of entry is kept as
history. -/
structure State (ι σ ρ : Type*) where
  semaphore : ℕ
  stage : ι → Stage ρ
  shared : σ
  entered : List ι

/-- Nobody has entered yet. -/
def initial (shared : σ) : State ι σ ρ where
  semaphore := 1
  stage _ := .waiting
  shared := shared
  entered := []

/-- One turn of a participant. -/
def step [DecidableEq ι] (sections : ι → Section σ ρ ε) (state : State ι σ ρ) (turn : ι) :
    Except ε (State ι σ ρ) :=
  match state.stage turn with
  | .waiting =>
    if state.semaphore = 0 then .ok state
    else .ok { state with
      semaphore := state.semaphore - 1
      stage := Function.update state.stage turn (.inside (some (sections turn).first))
      entered := state.entered ++ [turn] }
  | .inside (some position) =>
    ((sections turn).act position state.shared).map fun next =>
      { state with
        stage := Function.update state.stage turn (.inside next.1)
        shared := next.2 }
  | .inside none =>
    .ok { state with
      semaphore := state.semaphore + 1
      stage := Function.update state.stage turn .done }
  | .done => .ok state

/-- A section that was entered in a state has come to a position, and the shared state to
another. -/
inductive Within (code : Section σ ρ ε) (start : σ) : Option ρ → σ → Prop
  | enter : Within code start (some code.first) start
  | act {position : ρ} {shared : σ} {next : Option ρ × σ} :
      Within code start (some position) shared → code.act position shared = .ok next →
      Within code start next.1 next.2

/-- Sections carried out whole, one after the other. -/
inductive Serial (sections : ι → Section σ ρ ε) (start : σ) : List ι → σ → Prop
  | nil : Serial sections start [] start
  | concat {before : List ι} {participant : ι} {middle last : σ} :
      Serial sections start before middle → Within (sections participant) middle none last →
      Serial sections start (before ++ [participant]) last

/-- The participants outside the section are done or waiting. -/
def Outside (state : State ι σ ρ) (finished : List ι) (participant : ι) : Prop :=
  state.stage participant = .done ∧ participant ∈ finished ∨
    state.stage participant = .waiting ∧ participant ∉ finished

/-- Nobody is inside. -/
structure Free (sections : ι → Section σ ρ ε) (start : σ) (state : State ι σ ρ) : Prop where
  semaphore : state.semaphore = 1
  outside : ∀ participant, Outside state state.entered participant
  nodup : state.entered.Nodup
  serial : Serial sections start state.entered state.shared

/-- One participant is inside, and those before it are done. -/
structure Held (sections : ι → Section σ ρ ε) (start : σ) (state : State ι σ ρ)
    (before : List ι) (holder : ι) (position : Option ρ) : Prop where
  semaphore : state.semaphore = 0
  entered : state.entered = before ++ [holder]
  inside : state.stage holder = .inside position
  outside : ∀ participant ≠ holder, Outside state before participant
  nodup : (before ++ [holder]).Nodup
  serial : ∃ middle, Serial sections start before middle ∧
    Within (sections holder) middle position state.shared

/-- What every schedule keeps to. -/
def Orderly (sections : ι → Section σ ρ ε) (start : σ) (state : State ι σ ρ) : Prop :=
  Free sections start state ∨
    ∃ before holder position, Held sections start state before holder position

theorem Outside.not_inside {state : State ι σ ρ} {finished : List ι} {participant : ι} {position : Option ρ}
    (houtside : Outside state finished participant) :
    state.stage participant ≠ .inside position := by
  rcases houtside with ⟨hstage, _⟩ | ⟨hstage, _⟩
  · simp [hstage]
  · simp [hstage]

/-- Whoever is inside is in the middle of its section. -/
theorem Orderly.within {sections : ι → Section σ ρ ε} {start : σ} {state : State ι σ ρ}
    (horderly : Orderly sections start state) {participant : ι} {position : Option ρ}
    (hinside : state.stage participant = .inside position) :
    ∃ middle, Within (sections participant) middle position state.shared := by
  rcases horderly with hfree | ⟨before, holder, held, hheld⟩
  · exact absurd hinside (hfree.outside participant).not_inside
  · obtain rfl : participant = holder := by
      by_contra hother
      exact (hheld.outside participant hother).not_inside hinside
    obtain rfl : position = held := Stage.inside.inj (hinside.symm.trans hheld.inside)
    obtain ⟨middle, _, hwithin⟩ := hheld.serial
    exact ⟨middle, hwithin⟩

theorem free_initial (sections : ι → Section σ ρ ε) (start : σ) :
    Free sections start (initial start) where
  semaphore := rfl
  outside _ := .inr ⟨rfl, List.not_mem_nil⟩
  nodup := List.nodup_nil
  serial := .nil

section Step

variable [DecidableEq ι] {sections : ι → Section σ ρ ε} {start : σ} {state next : State ι σ ρ}

/-- From a free section, whoever waits enters. -/
theorem Free.step (hfree : Free sections start state) {turn : ι}
    (hstep : CriticalSection.step sections state turn = .ok next) :
    Orderly sections start next := by
  rcases hfree.outside turn with ⟨hdone, _⟩ | ⟨hwaiting, hnew⟩
  · rw [CriticalSection.step, hdone] at hstep
    cases hstep
    exact .inl hfree
  · rw [CriticalSection.step, hwaiting] at hstep
    rw [if_neg (by rw [hfree.semaphore]; decide)] at hstep
    cases hstep
    right
    refine ⟨state.entered, turn, some (sections turn).first, by simp [hfree.semaphore], rfl,
      by simp, ?_, ?_, state.shared, hfree.serial, .enter⟩
    · intro participant hother
      simpa [Outside, Function.update_of_ne hother] using hfree.outside participant
    · rw [← List.concat_eq_append]
      exact hfree.nodup.concat hnew

/-- While one is inside, only it moves on. -/
theorem Held.step {before : List ι} {holder : ι} {position : Option ρ}
    (hheld : Held sections start state before holder position) {turn : ι}
    (hstep : CriticalSection.step sections state turn = .ok next) :
    Orderly sections start next := by
  by_cases hturn : turn = holder
  · subst hturn
    obtain ⟨middle, hserial, hwithin⟩ := hheld.serial
    cases position with
    | none =>
      -- The semaphore is signalled.
      rw [CriticalSection.step, hheld.inside] at hstep
      cases hstep
      left
      constructor
      · simp [hheld.semaphore]
      · intro participant
        rw [hheld.entered]
        by_cases hsame : participant = turn
        · subst hsame
          exact .inl ⟨by simp, by simp⟩
        · simpa [Outside, hsame] using hheld.outside participant hsame
      · rw [hheld.entered]
        exact hheld.nodup
      · rw [hheld.entered]
        exact hserial.concat hwithin
    | some position =>
      rw [CriticalSection.step, hheld.inside] at hstep
      cases hact : (sections turn).act position state.shared with
      | error fault => simp [hact, Except.map] at hstep
      | ok moved =>
        simp only [hact, Except.map] at hstep
        cases hstep
        right
        refine ⟨before, turn, moved.1, hheld.semaphore, hheld.entered, by simp, ?_,
          hheld.nodup, middle, hserial, hwithin.act hact⟩
        intro participant hother
        simpa [Outside, Function.update_of_ne hother] using hheld.outside participant hother
  · -- The others find the semaphore at zero.
    have hstays : next = state := by
      rcases hheld.outside turn hturn with ⟨hdone, _⟩ | ⟨hwaiting, _⟩
      · rw [CriticalSection.step, hdone] at hstep
        cases hstep
        rfl
      · rw [CriticalSection.step, hwaiting] at hstep
        simp only [hheld.semaphore, if_true] at hstep
        cases hstep
        rfl
    rw [hstays]
    exact .inr ⟨before, holder, position, hheld⟩

/-- Every schedule that does not fault leaves the sections in order. -/
theorem run_orderly {schedule : List ι}
    (hrun : FallibleRun.run (CriticalSection.step sections) (initial start) schedule =
      .ok state) : Orderly sections start state := by
  apply FallibleRun.run_invariant (Orderly sections start) _ (.inl (free_initial sections start))
    hrun
  rintro state turn next (hfree | ⟨before, holder, position, hheld⟩) hstep
  · exact hfree.step hstep
  · exact hheld.step hstep

/-- A section none of whose steps faults. -/
def Total (code : Section σ ρ ε) : Prop :=
  ∀ start position shared, Within code start (some position) shared →
    ∃ next, code.act position shared = .ok next

theorem Orderly.step_returns (htotal : ∀ participant, Total (sections participant))
    (horderly : Orderly sections start state) (turn : ι) :
    ∃ next, CriticalSection.step sections state turn = .ok next := by
  rw [CriticalSection.step]
  cases hstage : state.stage turn with
  | waiting =>
    simp only
    split <;> exact ⟨_, rfl⟩
  | done => exact ⟨_, rfl⟩
  | inside position =>
    cases position with
    | none => exact ⟨_, rfl⟩
    | some position =>
      obtain ⟨middle, hwithin⟩ := horderly.within hstage
      obtain ⟨moved, hact⟩ := htotal turn middle position state.shared hwithin
      simp only [hact, Except.map]
      exact ⟨_, rfl⟩

/-- Total sections run to any schedule. -/
theorem run_returns (htotal : ∀ participant, Total (sections participant)) (start : σ)
    (schedule : List ι) :
    ∃ state, FallibleRun.run (CriticalSection.step sections) (initial start) schedule =
      .ok state := by
  induction schedule using List.reverseRecOn with
  | nil => exact ⟨_, rfl⟩
  | append_singleton before turn ih =>
    obtain ⟨state, hrun⟩ := ih
    obtain ⟨next, hnext⟩ := (run_orderly hrun).step_returns htotal turn
    exact ⟨next, FallibleRun.run_concat_ok.mpr ⟨state, hrun, hnext⟩⟩

end Step

end CriticalSection
