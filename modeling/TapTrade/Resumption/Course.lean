import Mathlib.Data.List.Basic
import TapTrade.Resumption.Program

/-! # Courses of steps

What holds at the start and is preserved by every step that meets a condition holds after
any number of steps that all meet it. The steps can be single operations of interleaved
programs or whole programs run one after the other.
-/

namespace Resumption

variable {σ ι : Type*}

namespace Course

/-- Every step of the course meets the condition, in the state before the step. -/
def Throughout (step : σ → ι → σ) (condition : σ → ι → Prop) : σ → List ι → Prop
  | _, [] => True
  | s, i :: rest => condition s i ∧ Throughout step condition (step s i) rest

instance decidableThroughout (step : σ → ι → σ) (condition : σ → ι → Prop)
    [∀ s i, Decidable (condition s i)] (s : σ) (course : List ι) :
    Decidable (Throughout step condition s course) :=
  match course with
  | [] => .isTrue trivial
  | i :: rest =>
      have := decidableThroughout step condition (step s i) rest
      inferInstanceAs (Decidable (condition s i ∧ Throughout step condition (step s i) rest))

variable {step : σ → ι → σ} {condition consequence : σ → ι → Prop} {s : σ}

theorem throughout_congr {condition' : σ → ι → Prop}
    (same : ∀ s i, condition s i ↔ condition' s i) {course : List ι} :
    Throughout step condition s course ↔ Throughout step condition' s course := by
  induction course generalizing s with
  | nil => exact Iff.rfl
  | cons i course ih => exact and_congr (same s i) ih

/-- A condition on the steps alone. -/
theorem throughout_of_mem {course : List ι} (met : ∀ i ∈ course, ∀ s, condition s i) :
    Throughout step condition s course := by
  induction course generalizing s with
  | nil => trivial
  | cons i course ih =>
      constructor
      · exact met i (List.mem_cons_self ..) s
      · exact ih fun j member => met j (List.mem_cons_of_mem i member)

/-- The condition is met by every step, after the steps before it. -/
theorem throughout_iff_earlier {course : List ι} : Throughout step condition s course ↔
    ∀ earlier i, earlier ++ [i] <+: course → condition (earlier.foldl step s) i := by
  induction course generalizing s with
  | nil =>
      refine iff_of_true trivial fun earlier i part => ?_
      cases List.append_eq_nil_iff.mp (List.prefix_nil.mp part) |>.2
  | cons j course ih =>
      constructor
      · rintro ⟨now, later⟩ earlier i part
        cases earlier with
        | nil =>
            obtain ⟨rfl, -⟩ := List.cons_prefix_cons.mp part
            exact now
        | cons k earlier =>
            obtain ⟨rfl, rest⟩ := List.cons_prefix_cons.mp part
            exact ih.mp later earlier i rest
      · intro met
        refine ⟨met [] j (List.cons_prefix_cons.mpr ⟨rfl, List.nil_prefix⟩), ih.mpr ?_⟩
        intro earlier i part
        exact met (j :: earlier) i (List.cons_prefix_cons.mpr ⟨rfl, part⟩)

theorem Throughout.of_prefix {earlier course : List ι} (met : Throughout step condition s course)
    (part : earlier <+: course) : Throughout step condition s earlier := by
  rw [throughout_iff_earlier] at *
  exact fun first i now => met first i (now.trans part)

theorem invariant_foldl (invariant : σ → Prop)
    (preserved : ∀ s i, invariant s → condition s i → invariant (step s i))
    {course : List ι} (holds : invariant s) (met : Throughout step condition s course) :
    invariant (course.foldl step s) := by
  induction course generalizing s with
  | nil => exact holds
  | cons i course ih => exact ih (preserved s i holds met.1) met.2

/-- What the invariant implies of a step holds of every step. -/
theorem throughout_of_invariant (invariant : σ → Prop)
    (preserved : ∀ s i, invariant s → condition s i → invariant (step s i))
    (implies : ∀ s i, invariant s → condition s i → consequence s i)
    {course : List ι} (holds : invariant s) (met : Throughout step condition s course) :
    Throughout step consequence s course := by
  induction course generalizing s with
  | nil => trivial
  | cons i course ih =>
      constructor
      · exact implies s i holds met.1
      · exact ih (preserved s i holds met.1) met.2

/-- How many steps of the course meet the condition, in the state before the step. -/
def tally (step : σ → ι → σ) (counts : σ → ι → Prop) [∀ s i, Decidable (counts s i)] :
    σ → List ι → Nat
  | _, [] => 0
  | s, i :: rest => (if counts s i then 1 else 0) + tally step counts (step s i) rest

/-- If every step that spends is covered by the budget, or by one that earns, then the course
    spends no more than what it earns and the budget at its start. -/
theorem tally_le_of_budget {spends earns : σ → ι → Prop} [∀ s i, Decidable (spends s i)]
    [∀ s i, Decidable (earns s i)] (budget : Nat → σ → Prop)
    (covered : ∀ k s i, budget k s → condition s i → ∃ k', budget k' (step s i) ∧
      (if spends s i then 1 else 0) + k' ≤ (if earns s i then 1 else 0) + k)
    {course : List ι} {k : Nat} (start : budget k s) (met : Throughout step condition s course) :
    tally step spends s course ≤ tally step earns s course + k := by
  induction course generalizing s k with
  | nil => exact Nat.zero_le _
  | cons i course ih =>
      obtain ⟨k', next, pays⟩ := covered k s i start met.1
      have rest := ih next met.2
      simp only [tally]
      omega

end Course

variable {I : Interface} {ρ : Type} {α : Type}

/-- The log and the clock of a run only grow. -/
theorem Program.log_run (env : Environment I) (p : Program I α) (w : World I) :
    w.log <+: (p.run env w).2.log := by
  induction p generalizing w with
  | done a => exact List.prefix_rfl
  | statement effect next ih =>
      have rest := ih (w.exec env effect).1 (w.exec env effect).2
      rwa [World.exec_log] at rest
  | ask query next ih =>
      have grown : w.log <+: (w.ask env query).2.log := List.prefix_append _ _
      exact grown.trans (ih _ _)

theorem Program.clock_run (env : Environment I) (p : Program I α) (w : World I) :
    w.clock ≤ (p.run env w).2.clock := by
  induction p generalizing w with
  | done a => exact Nat.le_refl _
  | statement effect next ih =>
      have rest := ih (w.exec env effect).1 (w.exec env effect).2
      rw [World.exec_clock] at rest
      exact Nat.le_of_succ_le rest
  | ask query next ih =>
      exact Nat.le_trans (Nat.le_succ w.clock) (ih (w.ask env query).1 (w.ask env query).2)

/-- The world after the request was served without interference. -/
def World.serve (env : Environment I) (serve : ρ → Program I α) (w : World I) (request : ρ) :
    World I := ((serve request).run env w).2

end Resumption
