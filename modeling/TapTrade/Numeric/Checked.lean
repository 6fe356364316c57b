import Mathlib.Algebra.BigOperators.Group.List.Basic
import Mathlib.Algebra.GroupWithZero.Nat

/-! # Machine words that do not wrap

The checked operations on `UInt64` have no result when the exact one does not fit. A program
that wraps and one that stops on overflow agree as long as the checked operations have results,
which are the exact ones.
-/

namespace Numeric

variable {a b c start sum : UInt64} {values : List UInt64}

def checkedAdd (a b : UInt64) : Option UInt64 :=
  if a.toNat + b.toNat < 2 ^ 64 then some (a + b) else none

def checkedSub (a b : UInt64) : Option UInt64 := if b ≤ a then some (a - b) else none

def checkedMul (a b : UInt64) : Option UInt64 :=
  if a.toNat * b.toNat < 2 ^ 64 then some (a * b) else none

/-- The values added up from the left. -/
def checkedSum (start : UInt64) : List UInt64 → Option UInt64
  | [] => some start
  | value :: values => (checkedAdd start value).bind fun next => checkedSum next values

/-- What the words are worth together. -/
def exactSum (values : List UInt64) : Nat := (values.map UInt64.toNat).sum

@[simp] theorem exactSum_nil : exactSum [] = 0 := rfl

@[simp] theorem exactSum_cons (value : UInt64) (values : List UInt64) :
    exactSum (value :: values) = value.toNat + exactSum values := by
  simp [exactSum]

theorem checkedAdd_eq_some : checkedAdd a b = some c ↔ c.toNat = a.toNat + b.toNat := by
  have below := c.toNat_lt
  unfold checkedAdd
  split
  · rw [Option.some.injEq, ← UInt64.toNat_inj, UInt64.toNat_add]
    omega
  · simp only [reduceCtorEq, false_iff]
    omega

theorem checkedSub_eq_some : checkedSub a b = some c ↔ c.toNat + b.toNat = a.toNat := by
  unfold checkedSub
  split
  case isTrue covered =>
    rw [Option.some.injEq, ← UInt64.toNat_inj, UInt64.toNat_sub_of_le _ _ covered]
    rw [UInt64.le_iff_toNat_le] at covered
    omega
  case isFalse short =>
    rw [UInt64.le_iff_toNat_le] at short
    simp only [reduceCtorEq, false_iff]
    omega

theorem checkedMul_eq_some : checkedMul a b = some c ↔ c.toNat = a.toNat * b.toNat := by
  have below := c.toNat_lt
  unfold checkedMul
  split
  case isTrue fits =>
    rw [Option.some.injEq, ← UInt64.toNat_inj, UInt64.toNat_mul, Nat.mod_eq_of_lt fits]
    exact eq_comm
  · simp only [reduceCtorEq, false_iff]
    omega

/-! Where a checked operation has a result, wrapping has not changed it. -/

theorem add_of_checkedAdd (found : checkedAdd a b = some c) : a + b = c := by
  rw [checkedAdd_eq_some] at found
  rw [← UInt64.toNat_inj, UInt64.toNat_add, ← found, Nat.mod_eq_of_lt c.toNat_lt]

theorem sub_of_checkedSub (found : checkedSub a b = some c) : a - b = c := by
  unfold checkedSub at found
  split at found
  · exact Option.some.inj found
  · cases found

theorem mul_of_checkedMul (found : checkedMul a b = some c) : a * b = c := by
  rw [checkedMul_eq_some] at found
  rw [← UInt64.toNat_inj, UInt64.toNat_mul, ← found, Nat.mod_eq_of_lt c.toNat_lt]

theorem checkedSum_eq_some :
    checkedSum start values = some sum ↔ sum.toNat = start.toNat + exactSum values := by
  induction values generalizing start with
  | nil => simp [checkedSum, ← UInt64.toNat_inj, eq_comm]
  | cons value values ih =>
      simp only [checkedSum, Option.bind_eq_some_iff, checkedAdd_eq_some, ih, exactSum_cons]
      constructor
      · rintro ⟨next, step, rest⟩
        omega
      · intro exact
        have below := sum.toNat_lt
        refine ⟨start + value, ?_⟩
        rw [UInt64.toNat_add]
        omega

theorem checkedAdd_eq_none : checkedAdd a b = none ↔ 2 ^ 64 ≤ a.toNat + b.toNat := by
  simp [checkedAdd]

theorem checkedSub_eq_none : checkedSub a b = none ↔ a < b := by simp [checkedSub]

theorem checkedMul_eq_none : checkedMul a b = none ↔ 2 ^ 64 ≤ a.toNat * b.toNat := by
  simp [checkedMul]

/-- The exact sum is found as soon as it fits. -/
theorem checkedSum_eq_none :
    checkedSum start values = none ↔ 2 ^ 64 ≤ start.toNat + exactSum values := by
  induction values generalizing start with
  | nil =>
      have below := start.toNat_lt
      simp only [checkedSum, reduceCtorEq, exactSum_nil, false_iff]
      omega
  | cons value values ih =>
      rw [checkedSum, exactSum_cons]
      cases step : checkedAdd start value with
      | none =>
          rw [checkedAdd_eq_none] at step
          simp only [Option.bind_none, true_iff]
          omega
      | some next =>
          rw [checkedAdd_eq_some] at step
          rw [Option.bind_some, ih]
          omega

theorem foldl_of_checkedSum (found : checkedSum start values = some sum) :
    values.foldl (· + ·) start = sum := by
  induction values generalizing start with
  | nil => exact Option.some.inj found
  | cons value values ih =>
      obtain ⟨next, step, rest⟩ := Option.bind_eq_some_iff.mp found
      rw [List.foldl_cons, add_of_checkedAdd step]
      exact ih rest

end Numeric
