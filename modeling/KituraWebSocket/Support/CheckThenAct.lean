/-
# Checking, then acting

Each of any number of participants looks once whether a flag of the shared state is up, and
then goes through one list of steps or another, as it has found the flag. Nothing is locked:
the others may step, and the flag may go down, anywhere in between. `balance_run` adds up
what the participants leave, in any commutative monoid, `alone_iff` says when no two of them
find the flag up, and `potential_run` what may still come once it is down.
-/

import KituraWebSocket.Support.FallibleRun
import Mathlib.Algebra.BigOperators.Group.Finset.Basic
import Mathlib.Algebra.Order.Ring.Nat
import Mathlib.Data.Fintype.Basic
import Mathlib.Data.Set.Subsingleton

namespace CheckThenAct

variable {ι σ β ε : Type*}

/-- The steps of a participant that has found the flag up, and of one that has found it down. -/
structure Program (β : Type*) where
  up : List β
  down : List β
  deriving DecidableEq, Repr

def Program.after (program : Program β) (found : Bool) : List β :=
  if found then program.up else program.down

/-- Where a participant is: it has not looked yet, or it has found the flag up or down and has some
steps ahead. -/
inductive Stage (β : Type*)
  | waiting
  | acting (found : Bool) (ahead : List β)
  deriving DecidableEq, Repr

structure State (ι σ β : Type*) where
  stage : ι → Stage β
  shared : σ

/-- The flag, the steps and the programs of the participants. -/
structure Race (ι σ β ε : Type*) where
  flag : σ → Bool
  perform : σ → β → Except ε σ
  program : ι → Program β

/-- Nobody has looked yet. -/
def start (shared : σ) : State ι σ β where
  stage _ := .waiting
  shared := shared

/-- One turn of a participant. -/
def step [DecidableEq ι] (race : Race ι σ β ε) (state : State ι σ β) (turn : ι) :
    Except ε (State ι σ β) :=
  match state.stage turn with
  | .waiting =>
    let found := race.flag state.shared
    .ok { state with
      stage := Function.update state.stage turn (.acting found ((race.program turn).after found)) }
  | .acting found (next :: ahead) =>
    (race.perform state.shared next).map fun shared =>
      { stage := Function.update state.stage turn (.acting found ahead), shared := shared }
  | .acting _ [] => .ok state

/-- A participant has found the flag up. -/
def Found (state : State ι σ β) (participant : ι) : Prop :=
  ∃ ahead, state.stage participant = .acting true ahead

instance (state : State ι σ β) (participant : ι) : Decidable (Found state participant) :=
  match hstage : state.stage participant with
  | .acting true ahead => isTrue ⟨ahead, hstage⟩
  | .acting false _ => isFalse fun hfound => by
    obtain ⟨_, hfound⟩ := hfound
    rw [hstage] at hfound
    cases hfound
  | .waiting => isFalse fun hfound => by
    obtain ⟨_, hfound⟩ := hfound
    rw [hstage] at hfound
    cases hfound

/-- A participant has nothing ahead any more. -/
def Done (state : State ι σ β) (participant : ι) : Prop :=
  ∃ found, state.stage participant = .acting found []

instance (state : State ι σ β) (participant : ι) : Decidable (Done state participant) :=
  match hstage : state.stage participant with
  | .acting found [] => isTrue ⟨found, hstage⟩
  | .acting _ (_ :: _) | .waiting => isFalse fun hdone => by
    obtain ⟨_, hdone⟩ := hdone
    rw [hstage] at hdone
    cases hdone

section Turns

variable [DecidableEq ι] {race : Race ι σ β ε} {state next : State ι σ β} {turn : ι}

/-- What a turn does. -/
theorem step_cases (hstep : step race state turn = .ok next) :
    (state.stage turn = .waiting ∧ next = { state with
        stage := Function.update state.stage turn (.acting (race.flag state.shared)
          ((race.program turn).after (race.flag state.shared))) }) ∨
      (∃ found act ahead shared, state.stage turn = .acting found (act :: ahead) ∧
        race.perform state.shared act = .ok shared ∧
        next = ⟨Function.update state.stage turn (.acting found ahead), shared⟩) ∨
      ((∃ found, state.stage turn = .acting found []) ∧ next = state) := by
  rw [step] at hstep
  split at hstep
  · cases hstep
    exact .inl ⟨‹_›, rfl⟩
  · rename_i found act ahead hstage
    cases hperform : race.perform state.shared act with
    | error fault =>
      rw [hperform] at hstep
      cases hstep
    | ok shared =>
      rw [hperform] at hstep
      cases hstep
      exact .inr (.inl ⟨found, act, ahead, shared, hstage, hperform, rfl⟩)
  · rename_i found hstage
    cases hstep
    exact .inr (.inr ⟨⟨found, hstage⟩, rfl⟩)

/-- The steps of a participant with nobody in between. -/
theorem run_acting (race : Race ι σ β ε) (state : State ι σ β) (turn : ι) {found : Bool}
    {ahead : List β} (hstage : state.stage turn = .acting found ahead) :
    FallibleRun.run (step race) state (List.replicate ahead.length turn) =
      (FallibleRun.run race.perform state.shared ahead).map fun shared =>
        { stage := Function.update state.stage turn (.acting found []), shared := shared } := by
  induction ahead generalizing state with
  | nil =>
    have hsame : Function.update state.stage turn (.acting found []) = state.stage := by
      rw [← hstage, Function.update_eq_self]
    rw [hsame]
    rfl
  | cons act ahead ih =>
    rw [List.length_cons, List.replicate_succ, FallibleRun.run_cons, FallibleRun.run_cons, step,
      hstage]
    cases hperform : race.perform state.shared act with
    | error fault => simp [hperform, Except.map, Except.bind]
    | ok shared =>
      simp only [hperform, Except.map, Except.bind]
      rw [ih _ (Function.update_self ..)]
      simp only [Function.update_idem]
      rfl

/-- The turns of a participant in a row carry out the list of steps for what it finds. -/
theorem run_alone (race : Race ι σ β ε) (state : State ι σ β) (turn : ι)
    (hwaiting : state.stage turn = .waiting) :
    let found := race.flag state.shared
    let steps := (race.program turn).after found
    FallibleRun.run (step race) state (List.replicate (steps.length + 1) turn) =
      (FallibleRun.run race.perform state.shared steps).map fun shared =>
        { stage := Function.update state.stage turn (.acting found []), shared := shared } := by
  intro found steps
  rw [List.replicate_succ, FallibleRun.run_cons, step, hwaiting]
  have hacting := run_acting race
    { state with stage := Function.update state.stage turn (.acting found steps) } turn
    (Function.update_self ..)
  simp only [Function.update_idem] at hacting
  exact hacting

end Turns

/-- What a participant has ahead is the end of its list of steps. -/
def Underway (race : Race ι σ β ε) (state : State ι σ β) : Prop :=
  ∀ participant found ahead, state.stage participant = .acting found ahead →
    ahead <:+ (race.program participant).after found

theorem underway_run [DecidableEq ι] {race : Race ι σ β ε} {shared : σ} {turns : List ι}
    {last : State ι σ β} (hrun : FallibleRun.run (step race) (start shared) turns = .ok last) :
    Underway race last := by
  refine FallibleRun.run_invariant (Underway race) ?_ (fun _ _ _ hstage => by cases hstage) hrun
  intro state turn next hunderway hstep participant found ahead hstage
  rcases step_cases hstep with ⟨_, rfl⟩ | ⟨found', act, ahead', shared', hturn, _, rfl⟩ | ⟨_, rfl⟩
  · by_cases hsame : participant = turn
    · subst hsame
      obtain ⟨rfl, rfl⟩ : _ = found ∧ _ = ahead := by simpa using hstage
      exact List.suffix_rfl
    · exact hunderway participant found ahead (by simpa [hsame] using hstage)
  · by_cases hsame : participant = turn
    · subst hsame
      obtain ⟨rfl, rfl⟩ : found' = found ∧ ahead' = ahead := by simpa using hstage
      exact (List.suffix_cons act ahead').trans (hunderway participant found' _ hturn)
    · exact hunderway participant found ahead (by simpa [hsame] using hstage)
  · exact hunderway participant found ahead hstage

section Finding

variable [DecidableEq ι] {race : Race ι σ β ε} {state next : State ι σ β} {turn : ι}

/-- A turn that finds the flag up. -/
def Finds (race : Race ι σ β ε) (state : State ι σ β) (turn : ι) : Prop :=
  state.stage turn = .waiting ∧ race.flag state.shared = true

/-- Who has found the flag up after a turn. -/
theorem found_step_iff (hstep : step race state turn = .ok next) (participant : ι) :
    Found next participant ↔
      Found state participant ∨ participant = turn ∧ Finds race state turn := by
  rcases step_cases hstep with ⟨hwaiting, rfl⟩ | ⟨found, act, ahead, shared, hstage, _, rfl⟩ |
    ⟨⟨found, hstage⟩, rfl⟩
  · by_cases hturn : participant = turn
    · subst hturn
      simp [Found, Finds, hwaiting]
    · simp [Found, Finds, hturn]
  · by_cases hturn : participant = turn
    · subst hturn
      simp [Found, Finds, hstage]
    · simp [Found, Finds, hturn]
  · by_cases hturn : participant = turn
    · subst hturn
      simp [Found, Finds, hstage]
    · simp [hturn]

/-- One of some participants finds the flag up after another one has. -/
def Overtakes (race : Race ι σ β ε) (among : Set ι) (state : State ι σ β) (turn : ι) : Prop :=
  turn ∈ among ∧ Finds race state turn ∧ ∃ other ∈ among, Found state other

/-- Of some participants at most one has found the flag up. -/
def Alone (among : Set ι) (state : State ι σ β) : Prop :=
  {participant ∈ among | Found state participant}.Subsingleton

theorem alone_step_iff (among : Set ι) (hstep : step race state turn = .ok next) :
    Alone among next ↔ Alone among state ∧ ¬ Overtakes race among state turn := by
  have hfound := found_step_iff hstep
  constructor
  · intro halone
    refine ⟨fun first hfirst second hsecond => ?_, ?_⟩
    · exact halone ⟨hfirst.1, (hfound first).mpr (.inl hfirst.2)⟩
        ⟨hsecond.1, (hfound second).mpr (.inl hsecond.2)⟩
    · rintro ⟨hturn, hfinds, other, hother, hold⟩
      have hsame : turn = other := halone ⟨hturn, (hfound turn).mpr (.inr ⟨rfl, hfinds⟩)⟩
        ⟨hother, (hfound other).mpr (.inl hold)⟩
      -- Whoever has not looked yet has not found the flag up.
      obtain ⟨ahead, hstage⟩ := hold
      rw [← hsame, hfinds.1] at hstage
      cases hstage
  · rintro ⟨halone, hnot⟩ first ⟨hfirst, hfirstFound⟩ second ⟨hsecond, hsecondFound⟩
    rcases (hfound first).mp hfirstFound with hold | ⟨rfl, hfinds⟩
    · rcases (hfound second).mp hsecondFound with hold' | ⟨rfl, hfinds⟩
      · exact halone ⟨hfirst, hold⟩ ⟨hsecond, hold'⟩
      · exact absurd ⟨hsecond, hfinds, first, hfirst, hold⟩ hnot
    · rcases (hfound second).mp hsecondFound with hold' | ⟨hsame, _⟩
      · exact absurd ⟨hfirst, hfinds, second, hsecond, hold'⟩ hnot
      · exact hsame.symm

/-- At most one of some participants has found the flag up, exactly if none of them has overtaken
another. -/
theorem alone_iff (among : Set ι) {shared : σ} {turns : List ι} {last : State ι σ β}
    (hrun : FallibleRun.run (step race) (start shared) turns = .ok last) :
    Alone among last ↔
      FallibleRun.NoStep (step race) (start shared) turns (Overtakes race among) := by
  have hstart : Alone among (start shared : State ι σ β) := by
    rintro first ⟨_, ahead, hstage⟩
    cases hstage
  exact (FallibleRun.run_iff_noStep (fun _ _ => True) (fun _ => Alone among) trivial
    (fun _ _ _ _ _ _ => trivial) (fun _ _ _ _ _ hstep => alone_step_iff among hstep) hrun).trans
    (and_iff_right hstart)

end Finding

section Worst

variable [DecidableEq ι] {race : Race ι σ β ε}

/-- Some participants look one after the other. -/
theorem run_look (shared : σ) (hup : race.flag shared = true) (looking : List ι)
    (hnodup : looking.Nodup) :
    FallibleRun.run (step race) (start shared) looking = .ok
      { stage := fun participant =>
          if participant ∈ looking then .acting true (race.program participant).up else .waiting
        shared := shared } := by
  induction looking using List.reverseRecOn with
  | nil =>
    simp only [List.not_mem_nil, if_false]
    rfl
  | append_singleton looking turn ih =>
    obtain ⟨hrest, hnew⟩ : looking.Nodup ∧ turn ∉ looking := by
      simpa [List.nodup_append, List.forall_mem_ne'] using hnodup
    refine FallibleRun.run_concat_ok.mpr ⟨_, ih hrest, ?_⟩
    simp only [step, if_neg hnew, hup, Program.after, if_true, Except.ok.injEq, State.mk.injEq,
      and_true]
    funext participant
    by_cases hturn : participant = turn
    · subst hturn
      simp
    · simp [hturn]

/-- Some participants that have found the flag up act one after the other. -/
theorem exists_run_act
    (htotal : ∀ participant shared, ∃ next,
      FallibleRun.run race.perform shared (race.program participant).up = .ok next)
    (acting : List ι) (hnodup : acting.Nodup) (state : State ι σ β)
    (hstage : ∀ participant ∈ acting,
      state.stage participant = .acting true (race.program participant).up) :
    ∃ turns last, FallibleRun.run (step race) state turns = .ok last ∧
      (∀ participant ∈ acting, last.stage participant = .acting true []) ∧
      ∀ participant ∉ acting, last.stage participant = state.stage participant := by
  induction acting generalizing state with
  | nil => exact ⟨[], state, rfl, by simp, fun _ _ => rfl⟩
  | cons turn acting ih =>
    obtain ⟨hnew, hrest⟩ := List.nodup_cons.mp hnodup
    obtain ⟨shared, hshared⟩ := htotal turn state.shared
    have hturn := run_acting race state turn (hstage turn List.mem_cons_self)
    rw [hshared] at hturn
    have hothers (participant : ι) (hparticipant : participant ∈ acting) :
        Function.update state.stage turn (.acting true []) participant =
          .acting true (race.program participant).up := by
      have hother : participant ≠ turn := by
        rintro rfl
        exact hnew hparticipant
      rw [Function.update_of_ne hother]
      exact hstage participant (List.mem_cons_of_mem _ hparticipant)
    obtain ⟨turns, last, hrun, hdone, hsame⟩ := ih hrest
      ⟨Function.update state.stage turn (.acting true []), shared⟩ hothers
    refine ⟨_, last, FallibleRun.run_append_ok.mpr ⟨_, hturn, hrun⟩, ?_, ?_⟩
    · rintro participant (_ | ⟨_, hparticipant⟩)
      · exact (hsame turn hnew).trans (Function.update_self ..)
      · exact hdone participant hparticipant
    · intro participant hparticipant
      obtain ⟨hother, hnot⟩ : participant ≠ turn ∧ participant ∉ acting := by
        simpa using hparticipant
      exact (hsame participant hnot).trans (Function.update_of_ne hother ..)

/-- In some schedule everybody finds the flag up, and acts on it. -/
theorem exists_everybody_finds [Fintype ι] (shared : σ) (hup : race.flag shared = true)
    (htotal : ∀ participant shared, ∃ next,
      FallibleRun.run race.perform shared (race.program participant).up = .ok next) :
    ∃ turns last, FallibleRun.run (step race) (start shared) turns = .ok last ∧
      ∀ participant, last.stage participant = .acting true [] := by
  have hlooked := run_look shared hup (Finset.univ : Finset ι).toList (Finset.nodup_toList _)
  obtain ⟨turns, last, hrun, hlast, _⟩ := exists_run_act htotal (Finset.univ : Finset ι).toList
    (Finset.nodup_toList _)
    ⟨fun participant => if participant ∈ Finset.univ.toList then
      .acting true (race.program participant).up else .waiting, shared⟩
    fun participant hparticipant => if_pos hparticipant
  exact ⟨_, last, FallibleRun.run_append_ok.mpr ⟨_, hlooked, hrun⟩,
    fun participant => hlast participant (by simp)⟩

end Worst

section Counting

open Finset

variable {M : Type*} [AddCommMonoid M]

/-- The weight of the steps that a participant has ahead. -/
def owed (weight : β → M) : Stage β → M
  | .waiting => 0
  | .acting _ ahead => (ahead.map weight).sum

/-- The weight of all the steps that a participant has taken on. -/
def taken (weight : β → M) (program : Program β) : Stage β → M
  | .waiting => 0
  | .acting found _ => ((program.after found).map weight).sum

@[simp]
theorem owed_waiting (weight : β → M) : owed weight .waiting = 0 := rfl

@[simp]
theorem owed_acting (weight : β → M) (found : Bool) (ahead : List β) :
    owed weight (.acting found ahead) = (ahead.map weight).sum := rfl

@[simp]
theorem taken_waiting (weight : β → M) (program : Program β) :
    taken weight program .waiting = 0 := rfl

@[simp]
theorem taken_acting (weight : β → M) (program : Program β) (found : Bool) (ahead : List β) :
    taken weight program (.acting found ahead) = ((program.after found).map weight).sum := rfl

variable [DecidableEq ι] [Fintype ι] {race : Race ι σ β ε} {state next : State ι σ β} {turn : ι}

/-- One participant's part of a sum. -/
theorem sum_update (value : ι → Stage β → M) (stage : ι → Stage β) (turn : ι) (now : Stage β) :
    ∃ others,
      ∑ participant, value participant (stage participant) = value turn (stage turn) + others ∧
      ∑ participant, value participant (Function.update stage turn now participant) =
        value turn now + others := by
  refine ⟨∑ participant ∈ univ.erase turn, value participant (stage participant),
    (add_sum_erase univ _ (mem_univ turn)).symm, ?_⟩
  rw [← add_sum_erase univ _ (mem_univ turn), Function.update_self]
  congr 1
  exact sum_congr rfl fun participant hother => by
    rw [Function.update_of_ne (ne_of_mem_erase hother)]

/-- What has been done and what is ahead is what was there and what has been taken on. -/
def InBalance (race : Race ι σ β ε) (weight : β → M) (measure : σ → M) (shared : σ)
    (state : State ι σ β) : Prop :=
  measure state.shared + ∑ participant, owed weight (state.stage participant) =
    measure shared +
      ∑ participant, taken weight (race.program participant) (state.stage participant)

theorem InBalance.step {weight : β → M} {measure : σ → M} {shared : σ}
    (hexact : ∀ found act ahead shared, state.stage turn = .acting found (act :: ahead) →
      race.perform state.shared act = .ok shared →
      measure shared = measure state.shared + weight act)
    (hbalanced : InBalance race weight measure shared state)
    (hstep : CheckThenAct.step race state turn = .ok next) :
    InBalance race weight measure shared next := by
  rw [InBalance] at hbalanced ⊢
  rcases step_cases hstep with ⟨hwaiting, rfl⟩ |
    ⟨found, act, ahead, shared', hstage, hperform, rfl⟩ | ⟨_, rfl⟩
  · obtain ⟨owing, howed, howed'⟩ := sum_update (fun _ => owed weight) state.stage turn
      (.acting (race.flag state.shared) ((race.program turn).after (race.flag state.shared)))
    obtain ⟨taking, htaken, htaken'⟩ :=
      sum_update (fun participant => taken weight (race.program participant)) state.stage turn
        (.acting (race.flag state.shared) ((race.program turn).after (race.flag state.shared)))
    rw [howed, htaken, hwaiting, owed_waiting, taken_waiting, zero_add, zero_add] at hbalanced
    rw [howed', htaken', owed_acting, taken_acting, add_left_comm, hbalanced, add_left_comm]
  · obtain ⟨owing, howed, howed'⟩ := sum_update (fun _ => owed weight) state.stage turn
      (.acting found ahead)
    obtain ⟨taking, htaken, htaken'⟩ :=
      sum_update (fun participant => taken weight (race.program participant)) state.stage turn
        (.acting found ahead)
    have hmeasure := hexact _ _ _ _ hstage hperform
    rw [howed, htaken, hstage, owed_acting, taken_acting, List.map_cons, List.sum_cons] at hbalanced
    rw [howed', htaken', owed_acting, taken_acting, hmeasure, ← hbalanced, add_assoc, add_assoc]
  · exact hbalanced

/-- If in valid states every step that is taken adds its weight to a measure, then what has been
added and what is ahead are the weights of the lists that the participants go through. -/
theorem balance_run {Valid : State ι σ β → Prop} {weight : β → M} {measure : σ → M}
    (hvalid : ∀ state turn next, Valid state → CheckThenAct.step race state turn = .ok next →
      Valid next)
    (hexact : ∀ state turn found act ahead shared, Valid state →
      state.stage turn = .acting found (act :: ahead) →
      race.perform state.shared act = .ok shared →
      measure shared = measure state.shared + weight act)
    {shared : σ} (hstart : Valid (start shared)) {turns : List ι} {last : State ι σ β}
    (hrun : FallibleRun.run (CheckThenAct.step race) (start shared) turns = .ok last) :
    InBalance race weight measure shared last := by
  refine (FallibleRun.run_invariant (fun state => Valid state ∧
    InBalance race weight measure shared state) ?_ ⟨hstart, ?_⟩ hrun).2
  · rintro state turn next ⟨hstate, hbalanced⟩ hstep
    exact ⟨hvalid state turn next hstate hstep, hbalanced.step
      (fun found act ahead shared => hexact state turn found act ahead shared hstate) hstep⟩
  · simp [InBalance, start]

/-- What has been done and what is ahead. -/
def potential (weight : β → M) (measure : σ → M) (state : State ι σ β) : M :=
  measure state.shared + ∑ participant, owed weight (state.stage participant)

/-- If no step raises the flag again, every step adds at most its weight to a measure, and those
who find the flag down do nothing of weight, then once the flag is down nothing comes but what is
ahead. -/
theorem potential_run [PartialOrder M] [IsOrderedAddMonoid M] {weight : β → M} {measure : σ → M}
    (hdown : ∀ shared act next, race.perform shared act = .ok next → race.flag shared = false →
      race.flag next = false)
    (hadds : ∀ shared act next, race.perform shared act = .ok next →
      measure next ≤ measure shared + weight act)
    (hnothing : ∀ participant, ((race.program participant).down.map weight).sum = 0)
    {state last : State ι σ β} (hflag : race.flag state.shared = false) {turns : List ι}
    (hrun : FallibleRun.run (CheckThenAct.step race) state turns = .ok last) :
    potential weight measure last ≤ potential weight measure state := by
  refine (FallibleRun.run_invariant (fun middle => race.flag middle.shared = false ∧
    potential weight measure middle ≤ potential weight measure state) ?_ ⟨hflag, le_rfl⟩ hrun).2
  rintro middle turn next ⟨hmiddle, hless⟩ hstep
  rcases step_cases hstep with ⟨hwaiting, rfl⟩ |
    ⟨found, act, ahead, shared, hstage, hperform, rfl⟩ | ⟨_, rfl⟩
  · refine ⟨hmiddle, le_trans (le_of_eq ?_) hless⟩
    obtain ⟨owing, howed, howed'⟩ := sum_update (fun _ => owed weight) middle.stage turn
      (.acting false (race.program turn).down)
    rw [hwaiting, owed_waiting] at howed
    rw [owed_acting, hnothing] at howed'
    simp only [potential, hmiddle, Program.after, Bool.false_eq_true, if_false]
    rw [howed, howed']
  · refine ⟨hdown _ _ _ hperform hmiddle, le_trans ?_ hless⟩
    obtain ⟨owing, howed, howed'⟩ := sum_update (fun _ => owed weight) middle.stage turn
      (.acting found ahead)
    rw [hstage, owed_acting, List.map_cons, List.sum_cons] at howed
    simp only [potential]
    rw [howed, howed', owed_acting]
    calc
      measure shared + ((ahead.map weight).sum + owing)
          ≤ measure middle.shared + weight act + ((ahead.map weight).sum + owing) := by
        gcongr
        exact hadds _ _ _ hperform
      _ = measure middle.shared + (weight act + (ahead.map weight).sum + owing) := by
        rw [add_assoc, add_assoc]
  · exact ⟨hmiddle, hless⟩

end Counting

end CheckThenAct
