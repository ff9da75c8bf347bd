/-
# A serial queue behind a machine

A machine leaves jobs for a queue as it runs, and the queue performs them later, one
after the other, each at any time between two steps of the machine. A job whose turn
comes may not be admitted any more, and is then dropped. Whatever the order of steps
and turns, the jobs performed are some of those left, in the order in which they were
left (`run_orderly`), and `complete_iff` says exactly when none is missing.
-/

import KituraWebSocket.Support.FallibleRun

namespace SerialQueue

/-- A machine, the jobs it has left in each of its states, and those it admits there. -/
structure Producer (σ α β ε : Type*) where
  step : σ → α → Except ε σ
  enqueued : σ → List β
  admits : σ → β → Bool

/-- A machine with its queue. -/
structure State (σ β : Type*) where
  machine : σ
  pending : List β
  performed : List β
  deriving DecidableEq

/-- A step of the machine, or a turn of the queue. -/
inductive Event (α : Type*)
  | machine (event : α)
  | work
  deriving Repr

/-- The step of the machine, if it is one. -/
def Event.machine? {α : Type*} : Event α → Option α
  | .machine event => some event
  | .work => none

variable {σ α β ε : Type*} (producer : Producer σ α β ε)

/-- A machine none of whose jobs has been performed yet. -/
def start (machine : σ) : State σ β where
  machine := machine
  pending := producer.enqueued machine
  performed := []

/-- One event. What a step of the machine leaves goes to the end of the queue. -/
def step (state : State σ β) : Event α → Except ε (State σ β)
  | .machine event =>
    (producer.step state.machine event).map fun next =>
      { state with
        machine := next
        pending := state.pending ++
          (producer.enqueued next).drop (producer.enqueued state.machine).length }
  | .work =>
    match state.pending with
    | [] => .ok state
    | job :: pending =>
      .ok { state with
        pending := pending
        performed :=
          if producer.admits state.machine job then state.performed ++ [job]
          else state.performed }

/-- In valid states the machine never takes back a job, and it stays valid. -/
structure Grows (Valid : σ → Prop) : Prop where
  keeps : ∀ state event next, Valid state → producer.step state event = .ok next → Valid next
  grows : ∀ state event next, Valid state → producer.step state event = .ok next →
    producer.enqueued state <+: producer.enqueued next

/-- The jobs left are those taken from the queue and those still in it, and the jobs performed
are some of those taken. -/
structure Orderly (Valid : σ → Prop) (state : State σ β) : Prop where
  valid : Valid state.machine
  jobs : ∃ taken, producer.enqueued state.machine = taken ++ state.pending ∧
    state.performed.Sublist taken

/-- No job is missing. -/
def Complete (state : State σ β) : Prop :=
  state.performed ++ state.pending = producer.enqueued state.machine

/-- The queue takes a job that is not admitted. -/
def Refused (state : State σ β) (event : Event α) : Prop :=
  event = .work ∧ ∃ job pending, state.pending = job :: pending ∧
    producer.admits state.machine job = false

variable {producer} {Valid : σ → Prop}

theorem orderly_start {machine : σ} (hvalid : Valid machine) :
    Orderly producer Valid (start producer machine) :=
  ⟨hvalid, [], rfl, List.Sublist.refl []⟩

/-- A step of the machine leaves jobs at the end of the queue. -/
theorem step_machine {state next : State σ β} {event : α} (hgrows : Grows producer Valid)
    (hvalid : Valid state.machine) (hstep : step producer state (.machine event) = .ok next) :
    producer.step state.machine event = .ok next.machine ∧ next.performed = state.performed ∧
      ∃ added, producer.enqueued next.machine = producer.enqueued state.machine ++ added ∧
        next.pending = state.pending ++ added := by
  cases hmachine : producer.step state.machine event with
  | error fault => simp [step, hmachine, Except.map] at hstep
  | ok machine =>
    obtain ⟨added, hadded⟩ := hgrows.grows _ _ _ hvalid hmachine
    obtain rfl : State.mk machine (state.pending ++
        (producer.enqueued machine).drop (producer.enqueued state.machine).length)
        state.performed = next := by
      simpa [step, hmachine, Except.map] using hstep
    refine ⟨rfl, rfl, added, hadded.symm, ?_⟩
    show state.pending ++ _ = state.pending ++ added
    rw [← hadded, List.drop_left]

/-- The queue itself never faults. -/
theorem step_returns_iff (state : State σ β) (event : Event α) :
    (∃ next, step producer state event = .ok next) ↔
      ∀ own ∈ event.machine?, ∃ next, producer.step state.machine own = .ok next := by
  cases event with
  | machine event =>
    simp only [Event.machine?, Option.mem_def, Option.some.injEq, forall_eq']
    rw [step]
    cases producer.step state.machine event <;> simp [Except.map]
  | work =>
    refine iff_of_true ?_ fun own hown => by cases hown
    rw [step]
    cases state.pending with
    | nil => exact ⟨_, rfl⟩
    | cons job pending => exact ⟨_, rfl⟩

/-- To the machine, the turns of its queue are nothing. -/
theorem machine_of_run {state last : State σ β} {events : List (Event α)}
    (hrun : FallibleRun.run (step producer) state events = .ok last) :
    FallibleRun.run producer.step state.machine (events.filterMap Event.machine?) =
      .ok last.machine := by
  induction events using List.reverseRecOn generalizing last with
  | nil =>
    cases hrun
    rfl
  | append_singleton before event ih =>
    obtain ⟨middle, hmiddle, hlast⟩ := FallibleRun.run_concat_ok.mp hrun
    rw [List.filterMap_append]
    cases event with
    | machine event =>
      refine FallibleRun.run_concat_ok.mpr ⟨middle.machine, ih hmiddle, ?_⟩
      cases hmachine : producer.step middle.machine event with
      | error fault => simp [step, hmachine, Except.map] at hlast
      | ok machine =>
        rw [step, hmachine] at hlast
        cases hlast
        rfl
    | work =>
      have hsame : middle.machine = last.machine := by
        rw [step] at hlast
        split at hlast <;> cases hlast <;> rfl
      rw [← hsame, List.filterMap_cons_none (by rfl), List.filterMap_nil, List.append_nil]
      exact ih hmiddle

/-- One event keeps the jobs in order. -/
theorem Orderly.step {state next : State σ β} {event : Event α} (hgrows : Grows producer Valid)
    (horderly : Orderly producer Valid state)
    (hstep : SerialQueue.step producer state event = .ok next) : Orderly producer Valid next := by
  obtain ⟨hvalid, taken, htaken, hperformed⟩ := horderly
  cases event with
  | machine event =>
    obtain ⟨hnext, hsame, added, hadded, hpending⟩ := step_machine hgrows hvalid hstep
    refine ⟨hgrows.keeps _ _ _ hvalid hnext, taken, ?_, by rwa [hsame]⟩
    rw [hadded, htaken, hpending, List.append_assoc]
  | work =>
    cases hpending : state.pending with
    | nil =>
      rw [SerialQueue.step, hpending] at hstep
      cases hstep
      exact ⟨hvalid, taken, htaken, hperformed⟩
    | cons job pending =>
      rw [SerialQueue.step, hpending] at hstep
      cases hstep
      refine ⟨hvalid, taken ++ [job], by simp [htaken, hpending], ?_⟩
      show List.Sublist (if _ then _ else _) _
      split
      · exact hperformed.append (List.Sublist.refl [job])
      · exact hperformed.trans (List.sublist_append_left taken [job])

/-- Every run keeps the jobs in order. -/
theorem run_orderly (hgrows : Grows producer Valid) {machine : σ} (hvalid : Valid machine)
    {events : List (Event α)} {last : State σ β}
    (hrun : FallibleRun.run (step producer) (start producer machine) events = .ok last) :
    Orderly producer Valid last :=
  FallibleRun.run_invariant (Orderly producer Valid)
    (fun _ _ _ horderly hstep => horderly.step hgrows hstep) (orderly_start hvalid) hrun

/-- What has been performed and what is still to come is in order among the jobs left. -/
theorem Orderly.sublist {state : State σ β} (horderly : Orderly producer Valid state) :
    (state.performed ++ state.pending).Sublist (producer.enqueued state.machine) := by
  obtain ⟨_, taken, htaken, hperformed⟩ := horderly
  rw [htaken]
  exact hperformed.append (List.Sublist.refl _)

/-- A step keeps the queue complete exactly if it refuses no job. -/
theorem complete_step_iff {state next : State σ β} {event : Event α} (hgrows : Grows producer Valid)
    (horderly : Orderly producer Valid state) (hstep : step producer state event = .ok next) :
    Complete producer next ↔ Complete producer state ∧ ¬ Refused producer state event := by
  cases event with
  | machine event =>
    obtain ⟨_, hsame, added, hadded, hpending⟩ := step_machine hgrows horderly.valid hstep
    have hnot : ¬ Refused producer state (.machine event) := by
      rintro ⟨hwork, _⟩
      cases hwork
    rw [Complete, Complete, hsame, hadded, hpending, ← List.append_assoc,
      List.append_left_inj, and_iff_left hnot]
  | work =>
    cases hpending : state.pending with
    | nil =>
      rw [step, hpending] at hstep
      cases hstep
      simp [Refused, hpending]
    | cons job pending =>
      rw [step, hpending] at hstep
      cases hstep
      cases hadmits : producer.admits state.machine job with
      | true => simp [Complete, Refused, hpending, hadmits]
      | false =>
        -- The job that is dropped leaves too few of them.
        obtain ⟨_, taken, htaken, hperformed⟩ := horderly
        refine iff_of_false (fun hcomplete => ?_)
          (fun h => h.2 ⟨rfl, job, pending, hpending, hadmits⟩)
        have hlength := congrArg List.length hcomplete
        simp only [Bool.false_eq_true, if_false, htaken, hpending, List.length_append,
          List.length_cons] at hlength
        have hfewer := hperformed.length_le
        omega

/-- After a run no job is missing exactly when none was refused. -/
theorem complete_iff (hgrows : Grows producer Valid) {machine : σ} (hvalid : Valid machine)
    {events : List (Event α)} {last : State σ β}
    (hrun : FallibleRun.run (step producer) (start producer machine) events = .ok last) :
    Complete producer last ↔
      FallibleRun.NoStep (step producer) (start producer machine) events (Refused producer) :=
  (FallibleRun.run_iff_noStep (fun _ => Orderly producer Valid) (fun _ => Complete producer)
    (orderly_start hvalid) (fun _ _ _ _ horderly hstep => horderly.step hgrows hstep)
    (fun _ _ _ _ horderly hstep => complete_step_iff hgrows horderly hstep) hrun).trans
    (and_iff_right (List.nil_append _))

/-- A queue left to itself performs every job that is admitted. -/
theorem run_work (state : State σ β) :
    FallibleRun.run (step producer) state (List.replicate state.pending.length .work) =
      .ok { state with
        pending := []
        performed := state.performed ++
          state.pending.filter fun job => producer.admits state.machine job } := by
  obtain ⟨machine, pending, performed⟩ := state
  induction pending generalizing performed with
  | nil =>
    rw [List.filter_nil, List.append_nil]
    rfl
  | cons job pending ih =>
    rw [List.length_cons, List.replicate_succ, FallibleRun.run_cons]
    show FallibleRun.run (step producer) ⟨machine, pending, _⟩ _ = _
    rw [ih, List.filter_cons]
    cases producer.admits machine job <;> simp

end SerialQueue
