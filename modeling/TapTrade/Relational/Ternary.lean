import Mathlib.Data.Int.Order.Basic

/-! # Three-valued logic of SQL

A comparison with `NULL` is unknown, and a `WHERE` clause keeps a row only when its
condition is true.
-/

namespace Relational

/-- A truth value of SQL; `none` is unknown. -/
abbrev Ternary := Option Bool

namespace Ternary

variable {α : Type}

/-- `a = b`. -/
def eq [DecidableEq α] : Option α → Option α → Ternary
  | some a, some b => some (a = b)
  | _, _ => none

/-- `a BETWEEN low AND high`, for values that are not `NULL`. -/
def between [LE α] [DecidableLE α] (a low high : α) : Ternary := some (low ≤ a ∧ a ≤ high)

/-- `p AND q`: false as soon as one of them is. -/
def and : Ternary → Ternary → Ternary
  | some false, _ => some false
  | _, some false => some false
  | some true, some true => some true
  | _, _ => none

/-- `p OR q`: true as soon as one of them is. -/
def or : Ternary → Ternary → Ternary
  | some true, _ => some true
  | _, some true => some true
  | some false, some false => some false
  | _, _ => none

/-- Whether a `WHERE` clause with this condition keeps the row. -/
def holds (p : Ternary) : Bool := p = some true

@[simp] theorem holds_eq [DecidableEq α] (a b : Option α) :
    (eq a b).holds ↔ a = b ∧ a ≠ none := by
  cases a <;> cases b <;> simp [eq, holds]

@[simp] theorem holds_between [LE α] [DecidableLE α] (a low high : α) :
    (between a low high).holds ↔ low ≤ a ∧ a ≤ high := by
  simp [between, holds]

@[simp] theorem holds_and (p q : Ternary) : (p.and q).holds ↔ p.holds ∧ q.holds := by
  rcases p with _ | _ | _ <;> rcases q with _ | _ | _ <;> simp [and, holds]

@[simp] theorem holds_or (p q : Ternary) : (p.or q).holds ↔ p.holds ∨ q.holds := by
  rcases p with _ | _ | _ <;> rcases q with _ | _ | _ <;> simp [or, holds]

end Ternary

end Relational
