import TapTrade.Model.EscrowPsbt
import TapTrade.Numeric.Checked

/-! # The two builds

A `u64` operation whose result does not fit panics in a build that checks for overflow and wraps
in one that does not. `Word` has the operations of both builds; those of the model are the ones of
its platform.
-/

namespace TapTrade

open Resumption Numeric

variable {P : Platform} {checks : Bool} {a b c start : UInt64} {values : List UInt64} {ε : Type}

namespace Word

/-- What a build makes of an operation. -/
def op (checks : Bool) (checked : Option UInt64) (wrapped : UInt64) : Outcome ε UInt64 :=
  if checks then Outcome.unwrap checked else .ok wrapped

def add (checks : Bool) (a b : UInt64) : Outcome ε UInt64 := op checks (checkedAdd a b) (a + b)

def sub (checks : Bool) (a b : UInt64) : Outcome ε UInt64 := op checks (checkedSub a b) (a - b)

def mul (checks : Bool) (a b : UInt64) : Outcome ε UInt64 := op checks (checkedMul a b) (a * b)

def sum (checks : Bool) (start : UInt64) (values : List UInt64) : Outcome ε UInt64 :=
  op checks (checkedSum start values) (values.foldl (· + ·) start)

theorem op_some (checks : Bool) (c : UInt64) :
    op checks (some c) c = (.ok c : Outcome ε UInt64) := by
  cases checks <;> rfl

/-- An operation can only panic. -/
theorem op_eq_error {checked : Option UInt64} {wrapped : UInt64} {abort : Abort ε}
    (fails : op checks checked wrapped = .error abort) :
    abort = .panicked ∧ checks = true ∧ checked = none := by
  cases checks <;> cases checked <;> simp_all [op, Outcome.unwrap]

theorem sub_of_le (covered : b ≤ a) : sub checks a b = (.ok (a - b) : Outcome ε UInt64) := by
  rw [sub, checkedSub, if_pos covered, op_some]

end Word

/-- An operation of the model is the one of the build. -/
theorem computes_checked {overflows : Bool} {checked : Option UInt64} {wrapped : UInt64}
    (none_iff : checked = none ↔ overflows = true)
    (same : ∀ c, checked = some c → wrapped = c) :
    (U64.checked overflows wrapped : Act P Error UInt64).Computes
      (Word.op P.overflowChecks checked wrapped) := by
  intro env w
  unfold U64.checked
  cases checks : P.overflowChecks with
  | false => rfl
  | true =>
      cases found : checked with
      | none =>
          rw [none_iff.mp found]
          rfl
      | some c =>
          have fits : overflows = false := by
            rw [← Bool.not_eq_true, ← none_iff, found]
            exact nofun
          obtain rfl := same c found
          rw [fits]
          rfl

theorem computes_add (a b : UInt64) :
    (U64.add a b : Act P Error UInt64).Computes (Word.add P.overflowChecks a b) := by
  apply computes_checked
  · rw [checkedAdd_eq_none, decide_eq_true_iff]
  · exact fun c => add_of_checkedAdd

theorem computes_sub (a b : UInt64) :
    (U64.sub a b : Act P Error UInt64).Computes (Word.sub P.overflowChecks a b) := by
  apply computes_checked
  · rw [checkedSub_eq_none, decide_eq_true_iff]
  · exact fun c => sub_of_checkedSub

theorem computes_mul (a b : UInt64) :
    (U64.mul a b : Act P Error UInt64).Computes (Word.mul P.overflowChecks a b) := by
  apply computes_checked
  · rw [checkedMul_eq_none, decide_eq_true_iff]
  · exact fun c => mul_of_checkedMul

/-- A sum panics where one of its additions does. -/
theorem computes_sum (start : UInt64) (values : List UInt64) :
    (U64.sum start values : Act P Error UInt64).Computes
      (Word.sum P.overflowChecks start values) := by
  induction values generalizing start with
  | nil =>
      rw [Word.sum, checkedSum, List.foldl_nil, Word.op_some]
      exact Call.computes_pure start
  | cons value values ih =>
      have rest := (computes_add (P := P) start value).bind ih
      have same : (Word.add P.overflowChecks start value >>= fun next =>
          Word.sum P.overflowChecks next values : Outcome Error UInt64) =
          Word.sum P.overflowChecks start (value :: values) := by
        rw [Word.add, Word.sum, checkedSum, List.foldl_cons]
        cases P.overflowChecks with
        | false => rfl
        | true => cases checkedAdd start value <;> rfl
      rwa [same] at rest

end TapTrade
