import TapTrade.Resumption.Operation

/-! # Programs in stages

A `Staging` presents programs by the stages they go through: what is left to do at a stage,
the stage after the next operation and the world it leaves. A program in stages runs from
one stage to the next, and in a pool the number of its operations tells its stage.
-/

namespace Resumption

variable {I : Interface} {ι α : Type}

/-- A program that has ended does nothing. -/
theorem Program.step_of_ended {p : Program I α} (ended : p.ended = true) (env : Environment I)
    (w : World I) : p.step env w = (p, w) := by
  cases p with
  | done a => rfl
  | statement effect next => cases ended
  | ask query next => cases ended

theorem Pool.step_of_ended [DecidableEq ι] {pool : Pool I ι α} {i : ι}
    (ended : (pool.calls i).ended = true) (env : Environment I) : pool.step env i = pool := by
  simp only [Pool.step, Program.step_of_ended ended, ended, if_true, Function.update_eq_self]

structure Staging (I : Interface) (α : Type) where
  Stage : Type
  /-- What is left to do at a stage. -/
  program : Stage → Program I α
  /-- The stage after the next operation. -/
  advance : Environment I → World I → Stage → Stage
  /-- The world after the next operation. -/
  after : Environment I → World I → Stage → World I
  isEnded : Stage → Bool
  /-- The number of operations made before a stage that is not ended. -/
  operations : Stage → Nat
  step : ∀ env w stage,
    (program stage).step env w = (program (advance env w stage), after env w stage)
  ended : ∀ stage, (program stage).ended = isEnded stage
  counts : ∀ env w stage, isEnded stage = false →
    isEnded (advance env w stage) = true ∨ operations (advance env w stage) = operations stage + 1

/-- A world some operations later in which nothing has been written or asked. -/
def World.later (w : World I) (n : Nat) : World I := { w with clock := w.clock + n }

namespace Staging

variable (S : Staging I α) {env : Environment I} {w : World I}

theorem run_advance (stage : S.Stage) :
    (S.program stage).run env w = (S.program (S.advance env w stage)).run env
      (S.after env w stage) := by
  rw [← Program.run_step, S.step]

/-- The program that has made `n` operations is at the stage. -/
structure At (stage : S.Stage) (n : Nat) (p : Program I α) : Prop where
  same : p = S.program stage
  counted : S.isEnded stage = false → n = S.operations stage

variable {S} {stage : S.Stage} {n : Nat} {p : Program I α}

theorem At.ended (at_stage : S.At stage n p) : p.ended = S.isEnded stage := by
  rw [at_stage.same, S.ended]

/-- One operation of a program at a stage. -/
theorem At.step (at_stage : S.At stage n p) (env : Environment I) (w : World I) :
    S.At (S.advance env w stage) (if p.ended then n else n + 1) (p.step env w).1 ∧
      (p.step env w).2 = S.after env w stage := by
  have ended := at_stage.ended
  obtain ⟨rfl, counted⟩ := at_stage
  have steps := S.step env w stage
  rw [steps]
  refine ⟨⟨rfl, fun going => ?_⟩, rfl⟩
  cases stopped : S.isEnded stage with
  | true =>
      rw [stopped] at ended
      have still : S.program (S.advance env w stage) = S.program stage :=
        congrArg Prod.fst (steps.symm.trans (Program.step_of_ended ended env w))
      rw [← S.ended, still, ended] at going
      cases going
  | false =>
      rw [stopped] at ended
      rw [ended]
      rcases S.counts env w stage stopped with stops | next
      · cases going.symm.trans stops
      · exact next ▸ congrArg (· + 1) (counted stopped)

/-- The position of a program in a pool tells its stage. -/
theorem At.about_iff {pool : Pool I ι α} {i : ι}
    (at_stage : S.At stage (pool.past i).length (pool.calls i)) (k : Nat) :
    pool.About i k ↔ S.isEnded stage = false ∧ S.operations stage = k := by
  rw [Pool.About, at_stage.ended]
  exact and_congr_right fun going => by rw [at_stage.counted going]

/-- The program runs from the stage `start` in `n` operations to another stage. None of them
    fails or changes anything. -/
structure Reaches (S : Staging I α) (env : Environment I) (w : World I) (start : S.Stage) (n : Nat)
    (stage : S.Stage) : Prop where
  run : (S.program start).run env w = (S.program stage).run env (w.later n)
  unfailing : ∀ k < n, env.fault (w.clock + k) = none

theorem Reaches.start {start : S.Stage} : S.Reaches env w start 0 start := ⟨rfl, nofun⟩

/-- One operation further. -/
theorem Reaches.run_next {start : S.Stage} (reaches : S.Reaches env w start n stage) :
    (S.program start).run env w = (S.program (S.advance env (w.later n) stage)).run env
      (S.after env (w.later n) stage) :=
  reaches.run.trans (S.run_advance stage)

theorem unfailing_succ (earlier : ∀ k < n, env.fault (w.clock + k) = none)
    (now : env.fault (w.clock + n) = none) : ∀ k < n + 1, env.fault (w.clock + k) = none := by
  intro k below
  rcases Nat.lt_succ_iff_lt_or_eq.mp below with before | rfl
  · exact earlier k before
  · exact now

end Staging

end Resumption
