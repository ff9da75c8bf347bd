/-
# Runs of a machine whose steps may fault

A machine is a step function from states and events to states that may fault. A
run feeds it a list of events. `run_invariant` carries facts about one step to
whole runs, `returns_iff_noStep` says which runs return; `run_iff_noStep`,
`everyStep_iff_noStep` and `always_iff_noStep` say exactly when a property of the end, of
the steps or of all states of a run holds, in terms of the single steps that would break it.
-/

import Mathlib.Data.List.Induction
import Mathlib.Tactic.TypeStar

namespace FallibleRun

variable {σ α ε : Type*}

/-- Feed a list of events to a machine, stopping at the first fault. -/
def run (step : σ → α → Except ε σ) (state : σ) (events : List α) : Except ε σ :=
  events.foldlM step state

variable {step : σ → α → Except ε σ}

theorem run_cons (state : σ) (event : α) (events : List α) :
    run step state (event :: events) =
      (step state event).bind fun next => run step next events := rfl

theorem run_append (state : σ) (first second : List α) :
    run step state (first ++ second) =
      (run step state first).bind fun middle => run step middle second := by
  simp only [run, List.foldlM_append]
  rfl

theorem run_singleton (state : σ) (event : α) :
    run step state [event] = step state event := by
  rw [run_cons]
  cases step state event <;> rfl

theorem run_append_ok {state last : σ} {first second : List α} :
    run step state (first ++ second) = .ok last ↔
      ∃ middle, run step state first = .ok middle ∧ run step middle second = .ok last := by
  rw [run_append]
  cases run step state first <;> simp [Except.bind]

theorem run_cons_ok {state last : σ} {event : α} {events : List α} :
    run step state (event :: events) = .ok last ↔
      ∃ next, step state event = .ok next ∧ run step next events = .ok last := by
  rw [← List.singleton_append]
  simp only [run_append_ok, run_singleton]

theorem run_concat_ok {state last : σ} {events : List α} {event : α} :
    run step state (events ++ [event]) = .ok last ↔
      ∃ middle, run step state events = .ok middle ∧ step middle event = .ok last := by
  simp only [run_append_ok, run_singleton]

/-- What is recorded of one event more. -/
theorem filterMap_concat {β : Type*} (record : α → Option β) (before : List α) (event : α) :
    (before ++ [event]).filterMap record = before.filterMap record ++ (record event).toList := by
  rw [List.filterMap_append]
  cases hrecord : record event <;> simp [hrecord]

/-- What every step preserves, of the events consumed so far and the state they lead to,
holds after every run. -/
theorem run_history_invariant (Inv : List α → σ → Prop) {start last : σ} {events : List α}
    (hinit : Inv [] start)
    (hstep : ∀ before state event next, Inv before state → step state event = .ok next →
      Inv (before ++ [event]) next)
    (hrun : run step start events = .ok last) : Inv events last := by
  induction events using List.reverseRecOn generalizing last with
  | nil =>
    cases hrun
    exact hinit
  | append_singleton before event ih =>
    obtain ⟨middle, hmiddle, hlast⟩ := run_concat_ok.mp hrun
    exact hstep _ _ _ _ (ih hmiddle) hlast

/-- What every step preserves of the state holds after every run. -/
theorem run_invariant (Inv : σ → Prop)
    (hstep : ∀ state event next, Inv state → step state event = .ok next → Inv next)
    {start last : σ} {events : List α} (hinit : Inv start)
    (hrun : run step start events = .ok last) : Inv last :=
  run_history_invariant (fun _ state => Inv state) hinit (fun _ => hstep) hrun

/-- What no step brings about holds before a run if it holds after it. -/
theorem before_run {P : σ → Prop}
    (hstep : ∀ state event next, step state event = .ok next → P next → P state)
    {start last : σ} {events : List α} (hrun : run step start events = .ok last)
    (hlast : P last) : P start := by
  by_contra hstart
  exact run_invariant (fun state => ¬ P state)
    (fun state event next hstate hnext hafter => hstate (hstep state event next hnext hafter))
    hstart hrun hlast

/-- No step of a run is taken from a state where its event is bad. -/
def NoStep (step : σ → α → Except ε σ) (start : σ) (events : List α)
    (Bad : σ → α → Prop) : Prop :=
  ∀ before event after state, events = before ++ event :: after →
    run step start before = .ok state → ¬ Bad state event

/-- Some step of a run is taken from a state where its event is bad. -/
def SomeStep (step : σ → α → Except ε σ) (start : σ) (events : List α)
    (Bad : σ → α → Prop) : Prop :=
  ∃ before event after state, events = before ++ event :: after ∧
    run step start before = .ok state ∧ Bad state event

theorem not_someStep {start : σ} {events : List α} {Bad : σ → α → Prop} :
    ¬ SomeStep step start events Bad ↔ NoStep step start events Bad := by
  simp only [SomeStep, NoStep, not_exists, not_and]

theorem not_noStep {start : σ} {events : List α} {Bad : σ → α → Prop} :
    ¬ NoStep step start events Bad ↔ SomeStep step start events Bad := by
  rw [← not_someStep, not_not]

theorem noStep_nil (start : σ) (Bad : σ → α → Prop) : NoStep step start [] Bad := by
  intro before event after state hsplit
  simp at hsplit

theorem noStep_concat {start middle : σ} {events : List α} {event : α} {Bad : σ → α → Prop}
    (hrun : run step start events = .ok middle) :
    NoStep step start (events ++ [event]) Bad ↔
      NoStep step start events Bad ∧ ¬ Bad middle event := by
  constructor
  · intro hnone
    refine ⟨fun before other after state hsplit => ?_, hnone events event [] middle rfl hrun⟩
    exact hnone before other (after ++ [event]) state (by simp [hsplit])
  · rintro ⟨hnone, hlast⟩ before other after state hsplit hbefore
    rcases List.eq_nil_or_concat after with rfl | ⟨front, final, rfl⟩
    · obtain ⟨rfl, rfl⟩ : events = before ∧ event = other := by simpa using hsplit
      rw [hrun] at hbefore
      cases hbefore
      exact hlast
    · rw [List.concat_eq_append, ← List.cons_append, ← List.append_assoc] at hsplit
      exact hnone before other front state (List.append_inj' hsplit rfl).1 hbefore

theorem someStep_concat {start middle : σ} {events : List α} {event : α} {Bad : σ → α → Prop}
    (hrun : run step start events = .ok middle) :
    SomeStep step start (events ++ [event]) Bad ↔
      SomeStep step start events Bad ∨ Bad middle event := by
  rw [← not_iff_not, not_or, not_someStep, not_someStep, noStep_concat hrun]

/-- If from a valid state a step returns exactly when its event is not bad, then a run returns
exactly when no step of it is bad. -/
theorem returns_iff_noStep (Valid : σ → Prop) {Bad : σ → α → Prop} {start : σ} {events : List α}
    (hinit : Valid start)
    (hvalid : ∀ state event next, Valid state → step state event = .ok next → Valid next)
    (hstep : ∀ state event, Valid state →
      ((∃ next, step state event = .ok next) ↔ ¬ Bad state event)) :
    (∃ last, run step start events = .ok last) ↔ NoStep step start events Bad := by
  constructor
  · rintro ⟨last, hrun⟩ before event after state hsplit hbefore
    rw [hsplit, List.append_cons, run_append_ok] at hrun
    obtain ⟨next, hthrough, _⟩ := hrun
    obtain ⟨middle, hmiddle, hnext⟩ := run_concat_ok.mp hthrough
    obtain rfl : state = middle := Except.ok.inj (hbefore.symm.trans hmiddle)
    exact (hstep state event (run_invariant Valid hvalid hinit hbefore)).mp ⟨next, hnext⟩
  · intro hnone
    induction events using List.reverseRecOn with
    | nil => exact ⟨start, rfl⟩
    | append_singleton before event ih =>
      obtain ⟨middle, hmiddle⟩ := ih fun first other second state hsplit =>
        hnone first other (second ++ [event]) state (by simp [hsplit])
      have hgood := hnone before event [] middle rfl hmiddle
      obtain ⟨last, hlast⟩ :=
        (hstep middle event (run_invariant Valid hvalid hinit hmiddle)).mpr hgood
      exact ⟨last, run_concat_ok.mpr ⟨middle, hmiddle, hlast⟩⟩

/-- If a step keeps a property, exactly when it held before and the event is not bad, then it holds
after a run exactly when it held at the start and no step of the run is bad. -/
theorem run_iff_noStep (Inv P : List α → σ → Prop) {Bad : σ → α → Prop} {start last : σ}
    {events : List α} (hinit : Inv [] start)
    (hinv : ∀ before state event next, Inv before state → step state event = .ok next →
      Inv (before ++ [event]) next)
    (hstep : ∀ before state event next, Inv before state → step state event = .ok next →
      (P (before ++ [event]) next ↔ P before state ∧ ¬ Bad state event))
    (hrun : run step start events = .ok last) :
    P events last ↔ P [] start ∧ NoStep step start events Bad := by
  induction events using List.reverseRecOn generalizing last with
  | nil =>
    cases hrun
    exact (and_iff_left (noStep_nil start Bad)).symm
  | append_singleton before event ih =>
    obtain ⟨middle, hmiddle, hlast⟩ := run_concat_ok.mp hrun
    rw [hstep _ _ _ _ (run_history_invariant Inv hinit hinv hmiddle) hlast, ih hmiddle,
      noStep_concat hmiddle, and_assoc]

/-- A property holds of every step of a run: of the state before it, its event and the state
after it. -/
def EveryStep (step : σ → α → Except ε σ) (start : σ) (events : List α)
    (P : σ → α → σ → Prop) : Prop :=
  ∀ before event after state next, events = before ++ event :: after →
    run step start before = .ok state → step state event = .ok next → P state event next

/-- If a step has a property exactly when its event is not bad, then every step of a run has
it exactly when no step of the run is bad. -/
theorem everyStep_iff_noStep (Inv : List α → σ → Prop) {P : σ → α → σ → Prop}
    {Bad : σ → α → Prop} {start last : σ} {events : List α} (hinit : Inv [] start)
    (hinv : ∀ before state event next, Inv before state → step state event = .ok next →
      Inv (before ++ [event]) next)
    (hstep : ∀ before state event next, Inv before state → step state event = .ok next →
      (P state event next ↔ ¬ Bad state event))
    (hrun : run step start events = .ok last) :
    EveryStep step start events P ↔ NoStep step start events Bad := by
  constructor
  · intro hevery before event after state hsplit hbefore
    rw [hsplit, List.append_cons, run_append_ok] at hrun
    obtain ⟨next, hthrough, _⟩ := hrun
    obtain ⟨middle, hmiddle, hnext⟩ := run_concat_ok.mp hthrough
    obtain rfl : state = middle := Except.ok.inj (hbefore.symm.trans hmiddle)
    exact (hstep before state event next (run_history_invariant Inv hinit hinv hbefore) hnext).mp
      (hevery before event after state next hsplit hbefore hnext)
  · intro hnone before event after state next hsplit hbefore hnext
    exact (hstep before state event next (run_history_invariant Inv hinit hinv hbefore) hnext).mpr
      (hnone before event after state hsplit hbefore)

/-- A property holds after every beginning of a run. -/
def Always (step : σ → α → Except ε σ) (start : σ) (events : List α)
    (P : List α → σ → Prop) : Prop :=
  ∀ before after state, events = before ++ after →
    run step start before = .ok state → P before state

theorem always_concat {start middle last : σ} {events : List α} {event : α}
    {P : List α → σ → Prop} (hrun : run step start events = .ok middle)
    (hlast : step middle event = .ok last) :
    Always step start (events ++ [event]) P ↔
      Always step start events P ∧ P (events ++ [event]) last := by
  have hwhole : run step start (events ++ [event]) = .ok last :=
    run_concat_ok.mpr ⟨middle, hrun, hlast⟩
  constructor
  · intro halways
    refine ⟨fun before after state hsplit => ?_, halways _ [] last (by simp) hwhole⟩
    exact halways before (after ++ [event]) state (by simp [hsplit])
  · rintro ⟨halways, hP⟩ before after state hsplit hbefore
    rcases List.eq_nil_or_concat after with rfl | ⟨front, final, rfl⟩
    · rw [List.append_nil] at hsplit
      subst hsplit
      rw [hwhole] at hbefore
      cases hbefore
      exact hP
    · rw [List.concat_eq_append, ← List.append_assoc] at hsplit
      exact halways before front state (List.append_inj' hsplit rfl).1 hbefore

/-- If a step from a state of the property leads to a state of the property exactly when its event
is not bad, then the property holds all along a run exactly when no step of the run is bad. -/
theorem always_iff_noStep (Inv P : List α → σ → Prop) {Bad : σ → α → Prop} {start last : σ}
    {events : List α} (hinit : Inv [] start)
    (hinv : ∀ before state event next, Inv before state → step state event = .ok next →
      Inv (before ++ [event]) next)
    (hP : P [] start)
    (hstep : ∀ before state event next, Inv before state → P before state →
      step state event = .ok next → (P (before ++ [event]) next ↔ ¬ Bad state event))
    (hrun : run step start events = .ok last) :
    Always step start events P ↔ NoStep step start events Bad := by
  induction events using List.reverseRecOn generalizing last with
  | nil =>
    refine iff_of_true (fun before after state hsplit hbefore => ?_) (noStep_nil start Bad)
    obtain ⟨rfl, rfl⟩ := List.append_eq_nil_iff.mp hsplit.symm
    cases hbefore
    exact hP
  | append_singleton before event ih =>
    obtain ⟨middle, hmiddle, hlast⟩ := run_concat_ok.mp hrun
    rw [always_concat hmiddle hlast, noStep_concat hmiddle, ← ih hmiddle]
    apply and_congr_right
    intro halways
    exact hstep _ _ _ _ (run_history_invariant Inv hinit hinv hmiddle)
      (halways before [] middle (by simp) hmiddle) hlast

end FallibleRun
