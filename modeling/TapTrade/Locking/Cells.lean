import TapTrade.Resumption.Course

/-! # Cells that are tested before they are written

Agents write a cell only after they have found it empty, but they test it in one step and write it
in another. Every cell is written at most once iff every write still finds its cell empty: what
another agent has written in the meantime is replaced, and both believe that theirs was taken.
-/

namespace Locking

open Resumption

/-- Agents that act one at a time, with cells that they test before they write them. -/
structure TestedCells (σ ι κ ν : Type*) where
  step : σ → ι → σ
  /-- The states that are considered. -/
  inv : σ → Prop
  value : σ → κ → Option ν
  /-- The agent has found the cell empty and is going to write it. -/
  intends : σ → ι → κ → Prop
  /-- The next step of the agent writes the cell. -/
  writes : σ → ι → κ → Prop
  /-- The agent has written the cell. -/
  wrote : σ → ι → κ → Prop
  inv_step : ∀ {s i}, inv s → inv (step s i)
  intends_of_writes : ∀ {s i k}, writes s i k → intends s i k
  not_wrote_of_intends : ∀ {s i k}, intends s i k → ¬ wrote s i k
  intends_other : ∀ {s i j k}, j ≠ i → (intends (step s i) j k ↔ intends s j k)
  wrote_other : ∀ {s i j k}, j ≠ i → (wrote (step s i) j k ↔ wrote s j k)
  /-- The step after which an agent intends to write has found the cell empty. -/
  empty_of_intends : ∀ {s i k}, inv s → intends (step s i) i k → value (step s i) k = none
  value_quiet : ∀ {s i k}, inv s → ¬ writes s i k → value (step s i) k = value s k
  value_written : ∀ {s i k}, inv s → writes s i k → (value (step s i) k).isSome
  wrote_step : ∀ {s i k}, inv s → (wrote (step s i) i k ↔ wrote s i k ∨ writes s i k)

namespace TestedCells

variable {σ ι κ ν : Type*} (cells : TestedCells σ ι κ ν) {s : σ} {i j : ι} {k : κ}
  {schedule : List ι}

def run (s : σ) (schedule : List ι) : σ := schedule.foldl cells.step s

/-- No cell has been written by two agents. -/
def Single (s : σ) : Prop := ∀ k i j, cells.wrote s i k → cells.wrote s j k → i = j

/-- A step leaves everything that is stored. -/
def Keeps (s : σ) (i : ι) : Prop :=
  ∀ k v, cells.value s k = some v → cells.value (cells.step s i) k = some v

/-- If the step is a write, then the cell is empty. -/
def FindsEmpty (s : σ) (i : ι) : Prop := ∀ k, cells.writes s i k → cells.value s k = none

variable {cells}

theorem wrote_mono (inv : cells.inv s) (wrote : cells.wrote s j k) :
    cells.wrote (cells.step s i) j k := by
  by_cases same : j = i
  · subst same
    exact (cells.wrote_step inv).mpr (.inl wrote)
  · exact (cells.wrote_other same).mpr wrote

theorem wrote_run (inv : cells.inv s) (wrote : cells.wrote s j k) (schedule : List ι) :
    cells.wrote (cells.run s schedule) j k := by
  induction schedule generalizing s with
  | nil => exact wrote
  | cons i schedule ih => exact ih (cells.inv_step inv) (wrote_mono inv wrote)

theorem value_step_isSome (inv : cells.inv s) (stored : (cells.value s k).isSome) :
    (cells.value (cells.step s i) k).isSome := by
  by_cases writes : cells.writes s i k
  · exact cells.value_written inv writes
  · rwa [cells.value_quiet inv writes]

theorem keeps_of_findsEmpty (inv : cells.inv s) (empty : cells.FindsEmpty s i) :
    cells.Keeps s i := by
  intro k v stored
  by_cases writes : cells.writes s i k
  · have missing := empty k writes
    rw [stored] at missing
    cases missing
  · rw [cells.value_quiet inv writes, stored]

/-- At most one agent has written a cell, and then the cell is not empty. -/
structure Settled (cells : TestedCells σ ι κ ν) (s : σ) : Prop where
  inv : cells.inv s
  single : cells.Single s
  stored : ∀ i k, cells.wrote s i k → (cells.value s k).isSome

theorem Settled.step (settled : cells.Settled s) (empty : cells.FindsEmpty s i) :
    cells.Settled (cells.step s i) := by
  have inv := settled.inv
  -- whoever else has written the cell has filled it
  have alone (k : κ) (j : ι) (other : j ≠ i) (new : cells.wrote (cells.step s i) i k)
      (old : cells.wrote (cells.step s i) j k) : False := by
    have before := (cells.wrote_other other).mp old
    rcases (cells.wrote_step inv).mp new with wrote | writes
    · exact other (settled.single k j i before wrote)
    · have filled := settled.stored j k before
      rw [empty k writes] at filled
      cases filled
  refine ⟨cells.inv_step inv, fun k j j' first second => ?_, fun j k wrote => ?_⟩
  · by_cases isFirst : j = i
    · by_cases isSecond : j' = i
      · exact isFirst.trans isSecond.symm
      · exact (alone k j' isSecond (isFirst ▸ first) second).elim
    · by_cases isSecond : j' = i
      · exact (alone k j isFirst (isSecond ▸ second) first).elim
      · exact settled.single k j j' ((cells.wrote_other isFirst).mp first)
          ((cells.wrote_other isSecond).mp second)
  · by_cases same : j = i
    · subst same
      rcases (cells.wrote_step inv).mp wrote with before | writes
      · exact value_step_isSome inv (settled.stored j k before)
      · exact cells.value_written inv writes
    · exact value_step_isSome inv (settled.stored j k ((cells.wrote_other same).mp wrote))

/-- A cell that an agent intends to write is empty, or another agent has written it since. -/
structure Tested (cells : TestedCells σ ι κ ν) (s : σ) : Prop where
  inv : cells.inv s
  tested : ∀ i k, cells.intends s i k → cells.value s k = none ∨ ∃ j, cells.wrote s j k

theorem Tested.step (tested : cells.Tested s) (i : ι) : cells.Tested (cells.step s i) := by
  have inv := tested.inv
  refine ⟨cells.inv_step inv, fun j k intends => ?_⟩
  by_cases same : j = i
  · subst same
    exact .inl (cells.empty_of_intends inv intends)
  · rcases tested.tested j k ((cells.intends_other same).mp intends) with empty | ⟨j', wrote⟩
    · by_cases writes : cells.writes s i k
      · exact .inr ⟨i, (cells.wrote_step inv).mpr (.inr writes)⟩
      · exact .inl ((cells.value_quiet inv writes).trans empty)
    · exact .inr ⟨j', wrote_mono inv wrote⟩

/-- A write that does not find its cell empty makes its agent the second one to have written it. -/
theorem not_single_of_full (tested : cells.Tested s) (writes : cells.writes s i k)
    (full : cells.value s k ≠ none) : ¬ cells.Single (cells.run (cells.step s i) schedule) := by
  intro single
  have inv := tested.inv
  have intends := cells.intends_of_writes writes
  rcases tested.tested i k intends with empty | ⟨j, wrote⟩
  · exact full empty
  · have next := cells.inv_step (i := i) inv
    have first := wrote_run next (wrote_mono inv wrote) schedule
    have second := wrote_run next ((cells.wrote_step inv).mpr (.inr writes)) schedule
    obtain rfl := single k j i first second
    exact cells.not_wrote_of_intends intends wrote

theorem findsEmpty_of_single (tested : cells.Tested s)
    (single : cells.Single (cells.run s schedule)) :
    Course.Throughout cells.step cells.FindsEmpty s schedule := by
  induction schedule generalizing s with
  | nil => trivial
  | cons i schedule ih =>
      constructor
      · intro k writes
        by_contra full
        exact not_single_of_full tested writes full single
      · exact ih (tested.step i) single

/-- From a state in which nobody has written or tested a cell: what is stored never changes and
    no cell is written by two agents iff every write finds its cell empty. -/
theorem once_iff (inv : cells.inv s) (idle : ∀ i k, ¬ cells.intends s i k)
    (fresh : ∀ i k, ¬ cells.wrote s i k) :
    Course.Throughout cells.step cells.Keeps s schedule ∧ cells.Single (cells.run s schedule) ↔
      Course.Throughout cells.step cells.FindsEmpty s schedule := by
  constructor
  · rintro ⟨-, single⟩
    have tested : cells.Tested s := ⟨inv, fun i k intends => absurd intends (idle i k)⟩
    exact findsEmpty_of_single tested single
  · intro empty
    have settled : cells.Settled s :=
      ⟨inv, fun k i j first => absurd first (fresh i k), fun i k wrote => absurd wrote (fresh i k)⟩
    constructor
    · exact Course.throughout_of_invariant cells.inv (fun _ _ inv _ => cells.inv_step inv)
        (fun _ _ inv empty => keeps_of_findsEmpty inv empty) inv empty
    · exact (Course.invariant_foldl cells.Settled (fun _ _ settled empty => settled.step empty)
        settled empty).single

end TestedCells

end Locking
