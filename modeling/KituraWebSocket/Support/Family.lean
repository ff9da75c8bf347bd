/-
# Growing families of machines

A host keeps a family of labelled machines that do not know of each other. With each of its
events the host gives those that are there some events of their own, and it may take in a
newcomer. What has become of a member depends on nothing but its label, the state it joined in
and its own events since then (`member_of_run`).
-/

import KituraWebSocket.Support.FallibleRun

namespace Family

variable {τ σ α β ε η : Type*}

/-- A machine of the family. -/
structure Member (τ σ : Type*) where
  label : τ
  state : σ
  deriving DecidableEq

section Giving

variable (machine : τ → σ → α → Except ε σ)

/-- A member goes through its own events. -/
def Member.run (member : Member τ σ) (events : List α) : Except ε (Member τ σ) :=
  (FallibleRun.run (machine member.label) member.state events).map fun state =>
    { member with state := state }

/-- The members from a place on go through their own events. -/
def giveFrom (given : ℕ → List α) : ℕ → List (Member τ σ) → Except ε (List (Member τ σ))
  | _, [] => .ok []
  | place, member :: family => do
    let next ← member.run machine (given place)
    let rest ← giveFrom given (place + 1) family
    return next :: rest

end Giving

variable {machine : τ → σ → α → Except ε σ}

theorem Member.run_ok {member next : Member τ σ} {events : List α} :
    member.run machine events = .ok next ↔
      next.label = member.label ∧
        FallibleRun.run (machine member.label) member.state events = .ok next.state := by
  rw [run]
  obtain ⟨label, state⟩ := next
  cases hrun : FallibleRun.run (machine member.label) member.state events with
  | error fault => simp [Except.map]
  | ok last =>
    simp only [Except.map, Except.ok.injEq, Member.mk.injEq]
    exact and_congr_left' eq_comm

theorem Member.run_returns_iff {member : Member τ σ} {events : List α} :
    (∃ next, member.run machine events = .ok next) ↔
      ∃ state, FallibleRun.run (machine member.label) member.state events = .ok state := by
  rw [run]
  cases FallibleRun.run (machine member.label) member.state events <;> simp [Except.map]

/-- Every member goes its own way. -/
theorem giveFrom_ok {given : ℕ → List α} {place : ℕ} {family next : List (Member τ σ)}
    (hgive : giveFrom machine given place family = .ok next) :
    next.length = family.length ∧ ∀ (index : ℕ) (last : Member τ σ), next[index]? = some last →
      ∃ member, family[index]? = some member ∧
        member.run machine (given (place + index)) = .ok last := by
  induction family generalizing place next with
  | nil =>
    cases hgive
    exact ⟨rfl, fun index last hlast => by simp at hlast⟩
  | cons member family ih =>
    rw [giveFrom] at hgive
    cases hfirst : member.run machine (given place) with
    | error fault =>
      rw [hfirst] at hgive
      cases hgive
    | ok first =>
      cases hrest : giveFrom machine given (place + 1) family with
      | error fault =>
        rw [hfirst, hrest] at hgive
        cases hgive
      | ok rest =>
        rw [hfirst, hrest] at hgive
        cases hgive
        obtain ⟨hlength, hmembers⟩ := ih hrest
        refine ⟨by simp [hlength], fun index last hlast => ?_⟩
        cases index with
        | zero =>
          obtain rfl : first = last := by simpa using hlast
          exact ⟨member, rfl, hfirst⟩
        | succ index =>
          obtain ⟨other, hother, hrun⟩ := hmembers index last (by simpa using hlast)
          refine ⟨other, by simpa using hother, ?_⟩
          rwa [show place + (index + 1) = place + 1 + index by omega]

/-- Nobody's label changes. -/
theorem giveFrom_labels {given : ℕ → List α} {place : ℕ} {family next : List (Member τ σ)}
    (hgive : giveFrom machine given place family = .ok next) :
    next.map Member.label = family.map Member.label := by
  obtain ⟨hlength, hmembers⟩ := giveFrom_ok hgive
  refine List.ext_getElem (by simp [hlength]) fun index hnext hfamily => ?_
  rw [List.length_map] at hnext hfamily
  obtain ⟨member, hmember, hrun⟩ := hmembers index next[index] (List.getElem?_eq_getElem hnext)
  obtain rfl : family[index] = member := by
    rw [List.getElem?_eq_getElem hfamily] at hmember
    exact Option.some.inj hmember
  simp [(Member.run_ok.mp hrun).1]

/-- The family goes on as long as every member does. -/
theorem giveFrom_returns_iff {given : ℕ → List α} {place : ℕ} {family : List (Member τ σ)} :
    (∃ next, giveFrom machine given place family = .ok next) ↔
      ∀ (index : ℕ) (member : Member τ σ), family[index]? = some member →
        ∃ last, member.run machine (given (place + index)) = .ok last := by
  constructor
  · rintro ⟨next, hgive⟩ index member hmember
    obtain ⟨hlength, hmembers⟩ := giveFrom_ok hgive
    obtain ⟨hindex, _⟩ := List.getElem?_eq_some_iff.mp hmember
    obtain ⟨other, hother, hrun⟩ := hmembers index next[index] (by simp)
    rw [hmember] at hother
    cases hother
    exact ⟨_, hrun⟩
  · intro hall
    induction family generalizing place with
    | nil => exact ⟨[], rfl⟩
    | cons member family ih =>
      obtain ⟨first, hfirst⟩ := hall 0 member rfl
      obtain ⟨rest, hrest⟩ : ∃ rest, giveFrom machine given (place + 1) family = .ok rest := by
        apply ih
        intro index other hother
        rw [show place + 1 + index = place + (index + 1) by omega]
        exact hall (index + 1) other (by simpa using hother)
      rw [Nat.add_zero] at hfirst
      refine ⟨first :: rest, ?_⟩
      rw [giveFrom, hfirst, hrest]
      rfl

/-- A host keeps a family if with each of its events every member goes through its own events, and
then a newcomer may join, as the last. -/
def Keeps (machine : τ → σ → α → Except ε σ) (host : η → β → Except ε η)
    (family : η → List (Member τ σ)) (own : β → ℕ → List α)
    (Joins : η → β → Member τ σ → Prop) : Prop :=
  ∀ state event next, host state event = .ok next →
    ∃ grown, ∃ newcomer : Option (Member τ σ),
      giveFrom machine (own event) 0 (family state) = .ok grown ∧
        family next = grown ++ newcomer.toList ∧ ∀ member ∈ newcomer, Joins state event member

/-- A member has joined the host at its place, and has gone through its own events since. -/
structure Grown (machine : τ → σ → α → Except ε σ) (host : η → β → Except ε η)
    (family : η → List (Member τ σ)) (own : β → ℕ → List α) (Joins : η → β → Member τ σ → Prop)
    (start : η) (events : List β) (place : ℕ) (member : Member τ σ) : Prop where
  joined : ∃ before event after state first, events = before ++ event :: after ∧
    FallibleRun.run host start before = .ok state ∧ (family state).length = place ∧
    Joins state event ⟨member.label, first⟩ ∧
    FallibleRun.run (machine member.label) first (after.flatMap fun event => own event place) =
      .ok member.state

variable {host : η → β → Except ε η} {family : η → List (Member τ σ)} {own : β → ℕ → List α}
  {Joins : η → β → Member τ σ → Prop}

/-- Members are independent. -/
theorem member_of_run (hkeeps : Keeps machine host family own Joins) {start last : η}
    (hempty : family start = []) {events : List β}
    (hrun : FallibleRun.run host start events = .ok last) (place : ℕ) (member : Member τ σ)
    (hmember : (family last)[place]? = some member) :
    Grown machine host family own Joins start events place member := by
  induction events using List.reverseRecOn generalizing last member with
  | nil =>
    cases hrun
    simp [hempty] at hmember
  | append_singleton events event ih =>
    obtain ⟨middle, hmiddle, hlast⟩ := FallibleRun.run_concat_ok.mp hrun
    obtain ⟨grown, newcomer, hgrown, hfamily, hjoins⟩ := hkeeps middle event last hlast
    obtain ⟨hlength, hmembers⟩ := giveFrom_ok hgrown
    rw [hfamily] at hmember
    rcases Nat.lt_or_ge place grown.length with hold | hnew
    · -- A member that was there before has gone through what the event gives it.
      rw [List.getElem?_append_left hold] at hmember
      obtain ⟨earlier, hearlier, hnext⟩ := hmembers place member hmember
      obtain ⟨hlabel, hown⟩ := Member.run_ok.mp hnext
      obtain ⟨before, entry, after, state, first, rfl, hstate, hplace, hjoined, hsince⟩ :=
        (ih hmiddle earlier hearlier).joined
      refine ⟨before, entry, after ++ [event], state, first, by simp, hstate, hplace, ?_, ?_⟩
      · rwa [hlabel]
      · rw [hlabel, List.flatMap_append, List.flatMap_singleton]
        rw [Nat.zero_add] at hown
        exact FallibleRun.run_append_ok.mpr ⟨_, hsince, hown⟩
    · cases newcomer with
      | none =>
        rw [Option.toList_none, List.append_nil, List.getElem?_eq_none hnew] at hmember
        cases hmember
      | some newcomer =>
        obtain ⟨hplace, hsame⟩ : place = grown.length ∧ newcomer = member := by
          rw [List.getElem?_append_right hnew, Option.toList_some] at hmember
          obtain ⟨hlast, hsame⟩ := List.getElem?_eq_some_iff.mp hmember
          rw [List.length_singleton] at hlast
          exact ⟨by omega, by simpa using hsame⟩
        subst hsame
        exact ⟨events, event, [], middle, newcomer.state, rfl, hmiddle, by omega,
          hjoins newcomer rfl, rfl⟩

end Family
