import Mathlib.Logic.Function.Basic
import TapTrade.Resumption.Call

/-! # Interleaved programs

A `Pool` holds any number of programs in progress over one shared world. A schedule
names, operation by operation, the program that acts next; every interleaving at the
granularity of single operations is the play of a schedule. For each program the pool
remembers the states in which it has acted, so that what two of its operations saw can
be compared.
-/

namespace Resumption

variable {I : Interface} {ι α : Type}

/-- Whether a program has ended. -/
def Program.ended : Program I α → Bool
  | .done _ => true
  | _ => false

structure Pool (I : Interface) (ι α : Type) where
  world : World I
  calls : ι → Program I α
  /-- The states in which each program has acted, the first one first. -/
  past : ι → List I.State

namespace Pool

variable [DecidableEq ι] (env : Environment I)

/-- Programs of which none has acted yet. -/
def start (world : World I) (calls : ι → Program I α) : Pool I ι α := ⟨world, calls, fun _ => []⟩

/-- One operation of the program `i`. -/
def step (pool : Pool I ι α) (i : ι) : Pool I ι α where
  world := ((pool.calls i).step env pool.world).2
  calls := Function.update pool.calls i ((pool.calls i).step env pool.world).1
  past := Function.update pool.past i
    (if (pool.calls i).ended then pool.past i else pool.past i ++ [pool.world.state])

/-- The operations of a schedule, one after the other. -/
def play (pool : Pool I ι α) (schedule : List ι) : Pool I ι α :=
  schedule.foldl (step env) pool

variable {env} {pool : Pool I ι α} {i j : ι} {schedule : List ι}

@[simp] theorem play_nil : pool.play env [] = pool := rfl

@[simp] theorem play_cons :
    pool.play env (i :: schedule) = (pool.step env i).play env schedule := rfl

theorem play_append {earlier later : List ι} :
    pool.play env (earlier ++ later) = (pool.play env earlier).play env later :=
  List.foldl_append

@[simp] theorem step_calls_self :
    (pool.step env i).calls i = ((pool.calls i).step env pool.world).1 := by
  simp [step]

@[simp] theorem step_calls_of_ne (other : j ≠ i) : (pool.step env i).calls j = pool.calls j := by
  simp [step, other]

@[simp] theorem step_past_of_ne (other : j ≠ i) : (pool.step env i).past j = pool.past j := by
  simp [step, other]

theorem step_past_self (going : (pool.calls i).ended = false) :
    (pool.step env i).past i = pool.past i ++ [pool.world.state] := by
  simp [step, going]

/-- A program that is not scheduled does not act. -/
theorem play_past_of_not_mem (idle : i ∉ schedule) :
    (pool.play env schedule).past i = pool.past i := by
  induction schedule generalizing pool with
  | nil => rfl
  | cons j schedule ih =>
      obtain ⟨other, rest⟩ : i ≠ j ∧ i ∉ schedule := by simpa using idle
      rw [play_cons, ih rest, step_past_of_ne other]

end Pool

end Resumption
