import Mathlib.Data.List.Infix

/-! # Taking elements until they are enough

A loop takes the elements of a list one after the other, and stops as soon as those that it has
taken are enough, or when there are no more. When they are enough decides what it takes.
-/

namespace Selecting

variable {α : Type*} {enough : List α → Prop} {xs part other : List α} {x : α}

/-- What the loop takes of the list. -/
structure Taken (enough : List α → Prop) (xs part : List α) : Prop where
  within : part <+: xs
  early : ∀ shorter, shorter <+: part → shorter ≠ [] → shorter ≠ part → ¬ enough shorter
  ends : part = xs ∨ part ≠ [] ∧ enough part

namespace Taken

theorem nil : Taken enough [] [] where
  within := List.nil_prefix
  early _ part some _ := absurd (List.prefix_nil.mp part) some
  ends := .inl rfl

/-- The loop stops behind the element. -/
theorem last (done : enough [x]) : Taken enough (x :: xs) [x] where
  within := List.cons_prefix_cons.mpr ⟨rfl, List.nil_prefix⟩
  early shorter part some proper := by
    obtain ⟨y, rest, rfl⟩ := List.exists_cons_of_ne_nil some
    obtain ⟨rfl, nothing⟩ := List.cons_prefix_cons.mp part
    rw [List.prefix_nil.mp nothing] at proper
    exact absurd rfl proper
  ends := .inr ⟨List.cons_ne_nil x [], done⟩

/-- The loop goes on behind the element. -/
theorem cons (more : ¬ enough [x]) (taken : Taken (fun part => enough (x :: part)) xs part) :
    Taken enough (x :: xs) (x :: part) where
  within := List.cons_prefix_cons.mpr ⟨rfl, taken.within⟩
  early shorter part some proper := by
    obtain ⟨y, rest, rfl⟩ := List.exists_cons_of_ne_nil some
    obtain ⟨rfl, prefixed⟩ := List.cons_prefix_cons.mp part
    by_cases single : rest = []
    · rw [single]
      exact more
    · exact taken.early rest prefixed single fun same => proper (congrArg (y :: ·) same)
  ends := by
    obtain rfl | ⟨-, done⟩ := taken.ends
    · exact .inl rfl
    · exact .inr ⟨List.cons_ne_nil x part, done⟩

theorem exists_taken (enough : List α → Prop) (xs : List α) : ∃ part, Taken enough xs part := by
  induction xs generalizing enough with
  | nil => exact ⟨[], nil⟩
  | cons x xs ih =>
      by_cases done : enough [x]
      · exact ⟨[x], last done⟩
      · obtain ⟨part, taken⟩ := ih fun part => enough (x :: part)
        exact ⟨x :: part, cons done taken⟩

/-- Something is taken of a list in which there is something. -/
theorem ne_nil (taken : Taken enough xs part) (within : other <+: xs) (some : other ≠ []) :
    part ≠ [] := by
  rintro rfl
  obtain rfl | ⟨some', -⟩ := taken.ends
  · exact some (List.prefix_nil.mp within)
  · exact some' rfl

/-- Of two parts that are taken, neither is shorter. -/
theorem eq_of_prefix (taken : Taken enough xs part) (taken' : Taken enough xs other)
    (shorter : part <+: other) : part = other := by
  obtain rfl | ⟨some, done⟩ := taken.ends
  · exact shorter.eq_of_length_le taken'.within.length_le
  · by_contra proper
    exact taken'.early part shorter some proper done

theorem unique (taken : Taken enough xs part) (taken' : Taken enough xs other) : part = other := by
  obtain shorter | longer := List.prefix_or_prefix_of_prefix taken.within taken'.within
  · exact taken.eq_of_prefix taken' shorter
  · exact (taken'.eq_of_prefix taken longer).symm

end Taken

end Selecting
