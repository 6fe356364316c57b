import Mathlib.Algebra.Module.Defs

/-! # Keys that are known by their x coordinate

The points of a curve other than infinity come in pairs, a point and its negative, that share
their x coordinate and differ in the parity of the other one. An x-only key stands for the even
point of the pair. An aggregated key is tweaked as a point, and first replaced by its negative
if the tweak is an x-only one; an output key is tweaked from the x-only internal key. Both give
the same x-only key.
-/

namespace Spending

variable {G X R : Type*} [AddCommGroup G]

/-- The x-only keys of a group of points. -/
structure XOnlyKeys (G X : Type*) [AddCommGroup G] where
  /-- The x coordinate; infinity has none. -/
  x : G → Option X
  hasEvenY : G → Bool
  /-- The even point with the x coordinate, if there is one. -/
  lift : X → Option G
  x_eq_none : ∀ p, x p = none ↔ p = 0
  x_neg : ∀ p, x (-p) = x p
  hasEvenY_neg : ∀ p, p ≠ 0 → hasEvenY (-p) = !hasEvenY p
  lift_eq_some : ∀ key p, lift key = some p ↔ x p = some key ∧ hasEvenY p = true

/-- An aggregated key with the accumulated sign and tweak. -/
structure KeyAggregate (G R : Type*) where
  point : G
  gacc : R
  tacc : R
  deriving DecidableEq

namespace XOnlyKeys

variable [CommRing R] [Module R G] (keys : XOnlyKeys G X) (generator : G)

/-- The sign that makes the point even. -/
def sign (R : Type*) [CommRing R] (p : G) : R := if keys.hasEvenY p then 1 else -1

/-- An aggregated key is tweaked; with an x-only tweak it is made even first. -/
def applyTweak [DecidableEq G] (aggregate : KeyAggregate G R) (tweak : R) (isXonly : Bool) :
    Option (KeyAggregate G R) :=
  let g := if isXonly then keys.sign R aggregate.point else 1
  let point := g • aggregate.point + tweak • generator
  if point = 0 then none
  else some ⟨point, g * aggregate.gacc, tweak + g * aggregate.tacc⟩

/-- The output key of an internal key. -/
def outputKey (internalKey : X) (tweak : R) : Option X :=
  (keys.lift internalKey).bind fun p => keys.x (p + tweak • generator)

variable {keys generator} {p : G} {key : X} {aggregate : KeyAggregate G R} {tweak : R}

/-- The even one of a point and its negative is what its x coordinate lifts to. -/
theorem lift_of_x (known : keys.x p = some key) : keys.lift key = some (keys.sign R p • p) := by
  have finite : p ≠ 0 := by
    intro infinite
    rw [(keys.x_eq_none p).mpr infinite] at known
    cases known
  rw [keys.lift_eq_some, sign]
  cases parity : keys.hasEvenY p with
  | true =>
      rw [if_pos rfl, one_smul]
      exact ⟨known, parity⟩
  | false =>
      rw [if_neg Bool.false_ne_true, neg_one_smul, keys.x_neg, keys.hasEvenY_neg p finite, parity]
      exact ⟨known, rfl⟩

/-- An x-only tweak of an aggregated key is the tweak of its x-only key. -/
theorem x_applyTweak [DecidableEq G] (known : keys.x aggregate.point = some key) :
    (keys.applyTweak generator aggregate tweak true).bind (fun tweaked => keys.x tweaked.point) =
      keys.outputKey generator key tweak := by
  have lifted : keys.lift key = some (keys.sign R aggregate.point • aggregate.point) :=
    lift_of_x known
  rw [outputKey, lifted, Option.bind_some, applyTweak, if_pos rfl]
  split
  case isTrue infinite => exact ((keys.x_eq_none _).mpr infinite).symm
  case isFalse => rfl

/-- A tweaked key is not infinite. -/
theorem exists_x_of_applyTweak [DecidableEq G] {tweaked : KeyAggregate G R} {isXonly : Bool}
    (applied : keys.applyTweak generator aggregate tweak isXonly = some tweaked) :
    ∃ key, keys.x tweaked.point = some key := by
  simp only [applyTweak, Option.ite_none_left_eq_some, Option.some.injEq] at applied
  obtain ⟨finite, rfl⟩ := applied
  exact Option.ne_none_iff_exists'.mp fun none => finite ((keys.x_eq_none _).mp none)

end XOnlyKeys

end Spending
