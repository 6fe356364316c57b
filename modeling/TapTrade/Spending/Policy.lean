import Mathlib.Data.Finset.Card

/-! # Spending policies with absolute lock times

The conjunctive fragment of the policy language: keys that have to sign and block
heights that have to be passed. `after n` is an absolute lock time; it is satisfied
in every block of height greater than `n`, whenever the output was created.
-/

namespace Spending

inductive Policy (Key : Type) where
  | pk (key : Key)
  | after (height : Nat)
  | and (left right : Policy Key)
  deriving DecidableEq, Repr

/-- A tree of script leaves, as committed to by a taproot output. -/
inductive TapTree (Leaf : Type) where
  | leaf (leaf : Leaf)
  | tree (left right : TapTree Leaf)
  deriving DecidableEq, Repr

variable {Key Leaf : Type}

namespace Policy

/-- The policy as text, given the text of keys. -/
def text (keyText : Key → String) : Policy Key → String
  | pk key => "pk(" ++ keyText key ++ ")"
  | after height => "after(" ++ toString height ++ ")"
  | and left right => "and(" ++ left.text keyText ++ "," ++ right.text keyText ++ ")"

/-- Whether a spend mined at `height` that carries the signatures `signed` meets
    the policy. -/
def Satisfied (signed : Key → Prop) (height : Nat) : Policy Key → Prop
  | pk key => signed key
  | after lock => lock < height
  | and left right => left.Satisfied signed height ∧ right.Satisfied signed height

/-- The keys that have to sign. -/
def keys : Policy Key → List Key
  | pk key => [key]
  | after _ => []
  | and left right => left.keys ++ right.keys

/-- The heights that have to be passed. -/
def locks : Policy Key → List Nat
  | pk _ => []
  | after lock => [lock]
  | and left right => left.locks ++ right.locks

theorem satisfied_iff (signed : Key → Prop) (height : Nat) (p : Policy Key) :
    p.Satisfied signed height ↔ (∀ key ∈ p.keys, signed key) ∧ ∀ lock ∈ p.locks, lock < height := by
  induction p with
  | pk key => simp [Satisfied, keys, locks]
  | after lock => simp [Satisfied, keys, locks]
  | and left right ihl ihr =>
      simp only [Satisfied, ihl, ihr, keys, locks, List.forall_mem_append]
      tauto

/-- A policy needs as many signers as it has keys. -/
theorem Satisfied.card_le {Signer : Type} [DecidableEq Key] {p : Policy Key} {height : Nat}
    {signers : Finset Signer} {keyOf : Signer → Key}
    (satisfied : p.Satisfied (fun key => ∃ signer ∈ signers, keyOf signer = key) height) :
    p.keys.toFinset.card ≤ signers.card := by
  have covered : p.keys.toFinset ⊆ signers.image keyOf := by
    intro key member
    obtain ⟨signer, signs, rfl⟩ :=
      ((satisfied_iff _ _ p).mp satisfied).1 key (List.mem_toFinset.mp member)
    exact Finset.mem_image_of_mem keyOf signs
  exact (Finset.card_le_card covered).trans Finset.card_image_le

/-- A policy is closed until its lock times have passed. -/
theorem Satisfied.lock_lt {p : Policy Key} {signed : Key → Prop} {height lock : Nat}
    (satisfied : p.Satisfied signed height) (locked : lock ∈ p.locks) : lock < height :=
  ((satisfied_iff _ _ p).mp satisfied).2 lock locked

end Policy

/-- The leaves of a tree, from left to right. -/
def TapTree.leaves : TapTree Leaf → List Leaf
  | leaf l => [l]
  | tree left right => left.leaves ++ right.leaves

/-- A taproot output is spent by its internal key or by one of its leaves. -/
def TapTree.Spendable (tree : TapTree Leaf) (keyPath : Prop) (satisfied : Leaf → Prop) : Prop :=
  keyPath ∨ ∃ leaf ∈ tree.leaves, satisfied leaf

end Spending
