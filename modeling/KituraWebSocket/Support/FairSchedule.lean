/-
# Fair schedules

A schedule is fair if everyone's turn always comes again. A machine whose every turn either
changes nothing or lowers a measure, and for which someone can lower it as long as it has not
finished, finishes under every fair schedule (`finishes`). So do critical sections of
bounded length (`all_done`).
-/

import KituraWebSocket.Support.CriticalSection
import Mathlib.Algebra.BigOperators.Group.Finset.Basic
import Mathlib.Algebra.Order.BigOperators.Group.Finset
import Mathlib.Data.Fintype.Basic

namespace FairSchedule

open FallibleRun

variable {σ ι ε : Type*}

/-- Everyone's turn always comes again. -/
def Fair (schedule : ℕ → ι) : Prop := ∀ turn now, ∃ later, now ≤ later ∧ schedule later = turn

/-- The first turns of a schedule. -/
def turns (schedule : ℕ → ι) (count : ℕ) : List ι := (List.range count).map schedule

theorem turns_succ (schedule : ℕ → ι) (count : ℕ) :
    turns schedule (count + 1) = schedule 0 :: turns (fun n => schedule (n + 1)) count := by
  simp [turns, List.range_succ_eq_map, Function.comp_def]

theorem turns_add (schedule : ℕ → ι) (first second : ℕ) :
    turns schedule (first + second) =
      turns schedule first ++ turns (fun n => schedule (first + n)) second := by
  simp [turns, List.range_add, Function.comp_def]

/-- What comes after some turns is fair as well. -/
theorem Fair.shift {schedule : ℕ → ι} (hfair : Fair schedule) (count : ℕ) :
    Fair fun n => schedule (count + n) := by
  intro turn now
  obtain ⟨later, hlater, hturn⟩ := hfair turn (count + now)
  have hsame : count + (later - count) = later := by omega
  exact ⟨later - count, by omega, (congrArg schedule hsame).trans hturn⟩

/-- What a machine needs to finish: its turns return and change nothing or lower a measure, and
somebody's turn does lower it. -/
structure Progresses (step : σ → ι → Except ε σ) (Inv Finished : σ → Prop) (measure : σ → ℕ) :
    Prop where
  returns : ∀ state turn, Inv state → ∃ next, step state turn = .ok next ∧ Inv next ∧
    (next = state ∨ measure next < measure state)
  useful : ∀ state, Inv state → ¬ Finished state →
    ∃ turn, ∀ next, step state turn = .ok next → measure next < measure state

variable {step : σ → ι → Except ε σ} {Inv Finished : σ → Prop} {measure : σ → ℕ}

/-- By the time that somebody's useful turn has come, the measure is lower. -/
theorem Progresses.lowers (hprogresses : Progresses step Inv Finished measure) {state : σ}
    (hinv : Inv state) {turn : ι}
    (huseful : ∀ next, step state turn = .ok next → measure next < measure state) (later : ℕ)
    {schedule : ℕ → ι} (hturn : schedule later = turn) :
    ∃ count next, run step state (turns schedule count) = .ok next ∧ Inv next ∧
      measure next < measure state := by
  induction later generalizing schedule with
  | zero =>
    obtain ⟨next, hstep, hnext, _⟩ := hprogresses.returns state turn hinv
    refine ⟨1, next, ?_, hnext, huseful next hstep⟩
    rw [turns_succ, hturn]
    exact (run_singleton state turn).trans hstep
  | succ later ih =>
    obtain ⟨next, hstep, hnext, hsame | hlower⟩ :=
      hprogresses.returns state (schedule 0) hinv
    · obtain ⟨count, last, hrun, hlast⟩ := @ih (fun n => schedule (n + 1)) hturn
      refine ⟨count + 1, last, ?_, hlast⟩
      rw [turns_succ, run_cons, hstep, hsame]
      exact hrun
    · refine ⟨1, next, ?_, hnext, hlower⟩
      rw [turns_succ]
      exact (run_singleton state _).trans hstep

/-- A fair schedule finishes. -/
theorem Progresses.finishes (hprogresses : Progresses step Inv Finished measure) {start : σ}
    (hstart : Inv start) {schedule : ℕ → ι} (hfair : Fair schedule) :
    ∃ count last, run step start (turns schedule count) = .ok last ∧ Inv last ∧
      Finished last := by
  induction hmeasure : measure start using Nat.strong_induction_on generalizing start schedule with
  | _ bound ih =>
    by_cases hfinished : Finished start
    · exact ⟨0, start, rfl, hstart, hfinished⟩
    · obtain ⟨turn, huseful⟩ := hprogresses.useful start hstart hfinished
      obtain ⟨later, _, hturn⟩ := hfair turn 0
      obtain ⟨count, next, hrun, hnext, hlower⟩ :=
        hprogresses.lowers hstart huseful later hturn
      obtain ⟨more, last, hmore, hlast⟩ :=
        ih _ (hmeasure ▸ hlower) hnext (hfair.shift count) rfl
      refine ⟨count + more, last, ?_, hlast⟩
      rw [turns_add, run_append_ok]
      exact ⟨next, hrun, hmore⟩

end FairSchedule

namespace CriticalSection

open FairSchedule

variable {ι σ ρ ε : Type*}

/-- The positions of a section come ever closer to its end. -/
def Ranked (code : Section σ ρ ε) (rank : ρ → ℕ) : Prop :=
  ∀ position shared next after, code.act position shared = .ok (some next, after) →
    rank next < rank position

/-- How many steps a participant has ahead of it, at most. -/
def ahead (code : Section σ ρ ε) (rank : ρ → ℕ) : Stage ρ → ℕ
  | .waiting => rank code.first + 3
  | .inside (some position) => rank position + 2
  | .inside none => 1
  | .done => 0

variable [DecidableEq ι] [Fintype ι] {sections : ι → Section σ ρ ε} {rank : ι → ρ → ℕ}

/-- How many steps everyone has ahead. -/
def work (sections : ι → Section σ ρ ε) (rank : ι → ρ → ℕ) (state : State ι σ ρ) : ℕ :=
  ∑ participant, ahead (sections participant) (rank participant) (state.stage participant)

/-- If one participant gets ahead, everyone together does. -/
theorem work_lt {state next : State ι σ ρ} {turn : ι} {stage : Stage ρ}
    (hnext : next.stage = Function.update state.stage turn stage)
    (hless : ahead (sections turn) (rank turn) stage <
      ahead (sections turn) (rank turn) (state.stage turn)) :
    work sections rank next < work sections rank state := by
  apply Finset.sum_lt_sum
  · intro participant _
    rw [hnext]
    by_cases hturn : participant = turn
    · subst hturn
      simpa using hless.le
    · rw [Function.update_of_ne hturn]
  · exact ⟨turn, Finset.mem_univ turn, by simpa [hnext] using hless⟩

/-- A turn changes nothing, for somebody who is done or waits in vain, or gets ahead. -/
theorem step_gets_ahead (hranked : ∀ participant, Ranked (sections participant) (rank participant))
    {state next : State ι σ ρ} {turn : ι} (hstep : step sections state turn = .ok next) :
    (next = state ∧ (state.stage turn = .done ∨
        state.stage turn = .waiting ∧ state.semaphore = 0)) ∨
      work sections rank next < work sections rank state := by
  rw [step] at hstep
  cases hstage : state.stage turn with
  | waiting =>
    simp only [hstage] at hstep
    split at hstep
    · rename_i hzero
      cases hstep
      exact .inl ⟨rfl, .inr ⟨rfl, hzero⟩⟩
    · cases hstep
      exact .inr (work_lt rfl (by simp [hstage, ahead]))
  | done =>
    simp only [hstage] at hstep
    cases hstep
    exact .inl ⟨rfl, .inl rfl⟩
  | inside position =>
    right
    cases position with
    | none =>
      simp only [hstage] at hstep
      cases hstep
      exact work_lt rfl (by simp [hstage, ahead])
    | some position =>
      simp only [hstage] at hstep
      cases hact : (sections turn).act position state.shared with
      | error fault => simp [hact, Except.map] at hstep
      | ok moved =>
        simp only [hact, Except.map] at hstep
        cases hstep
        obtain ⟨nextPosition, shared⟩ := moved
        apply work_lt rfl
        cases nextPosition with
        | none => simp [hstage, ahead]
        | some nextPosition =>
          have hless := hranked turn position state.shared nextPosition shared hact
          simp only [hstage, ahead]
          omega

/-- Everyone is done. -/
def AllDone (state : State ι σ ρ) : Prop := ∀ participant, state.stage participant = .done

theorem progresses (htotal : ∀ participant, Total (sections participant))
    (hranked : ∀ participant, Ranked (sections participant) (rank participant)) (start : σ) :
    Progresses (step sections) (Orderly sections start) AllDone (work sections rank) where
  returns state turn horderly := by
    obtain ⟨next, hstep⟩ := horderly.step_returns htotal turn
    refine ⟨next, hstep, ?_, (step_gets_ahead hranked hstep).imp_left fun h => h.1⟩
    rcases horderly with hfree | ⟨before, holder, position, hheld⟩
    · exact hfree.step hstep
    · exact hheld.step hstep
  useful state horderly hunfinished := by
    rcases horderly with hfree | ⟨before, holder, position, hheld⟩
    · -- Nobody is inside, so one who waits can enter.
      obtain ⟨turn, hturn⟩ := not_forall.mp hunfinished
      have hwaiting : state.stage turn = .waiting :=
        ((hfree.outside turn).resolve_left fun h => hturn h.1).1
      refine ⟨turn, fun next hstep => ?_⟩
      rcases step_gets_ahead hranked hstep with ⟨_, hdone | ⟨_, hzero⟩⟩ | hless
      · exact absurd hdone hturn
      · rw [hfree.semaphore] at hzero
        cases hzero
      · exact hless
    · refine ⟨holder, fun next hstep => ?_⟩
      rcases step_gets_ahead hranked hstep with ⟨_, hdone | ⟨hwaiting, _⟩⟩ | hless
      · rw [hheld.inside] at hdone
        cases hdone
      · rw [hheld.inside] at hwaiting
        cases hwaiting
      · exact hless

/-- Under a fair schedule, bounded sections that do not fault are all carried out, one after the
other. -/
theorem all_done (htotal : ∀ participant, Total (sections participant))
    (hranked : ∀ participant, Ranked (sections participant) (rank participant)) (start : σ)
    {schedule : ℕ → ι} (hfair : Fair schedule) :
    ∃ count state, FallibleRun.run (step sections) (initial start) (turns schedule count) =
        .ok state ∧ AllDone state ∧ Free sections start state ∧
      ∀ participant, participant ∈ state.entered := by
  obtain ⟨count, state, hrun, horderly, hdone⟩ :=
    (progresses htotal hranked start).finishes (.inl (free_initial sections start)) hfair
  have hfree : Free sections start state := by
    rcases horderly with hfree | ⟨before, holder, position, hheld⟩
    · exact hfree
    · have hinside := hheld.inside
      rw [hdone holder] at hinside
      cases hinside
  refine ⟨count, state, hrun, hdone, hfree, fun participant => ?_⟩
  rcases hfree.outside participant with ⟨_, hentered⟩ | ⟨hwaiting, _⟩
  · exact hentered
  · rw [hdone participant] at hwaiting
    cases hwaiting

end CriticalSection
