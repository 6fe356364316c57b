import TapTrade.Numeric.Checked

/-! # Unsigned words taken from a signed one

A program that keeps what is left of an unsigned amount in a signed word of the same width finds
the exact difference up to a multiple of `2 ^ 64`. Whether what it finds is positive is then right
as long as the exact difference is in the range of the signed word.
-/

namespace Numeric

variable {values : List UInt64} {d : Int}

/-- What is left after the values have been taken away. -/
def takeAway (start : Int64) (values : List UInt64) : Int64 :=
  values.foldl (fun left value => left - value.toInt64) start

theorem toInt_toInt64_eq_bmod (a : UInt64) : a.toInt64.toInt = (a.toNat : Int).bmod (2 ^ 64) :=
  BitVec.toInt_eq_toNat_bmod a.toBitVec

theorem toInt_takeAway (start : Int64) (values : List UInt64) :
    (takeAway start values).toInt = (start.toInt - exactSum values).bmod (2 ^ 64) := by
  induction values generalizing start with
  | nil => simp [takeAway]
  | cons value values ih =>
      have rest : takeAway start (value :: values) = takeAway (start - value.toInt64) values := rfl
      rw [rest, ih, Int64.toInt_sub, Int.bmod_sub_bmod, toInt_toInt64_eq_bmod, exactSum_cons]
      rw [Int.sub_sub, Int.add_comm, ← Int.sub_sub, Int.sub_bmod_bmod]
      congr 1
      omega

/-- What is left of an amount. -/
theorem takeAway_nonpos_iff (amount : UInt64) (values : List UInt64) :
    takeAway amount.toInt64 values ≤ 0 ↔
      ((amount.toNat : Int) - exactSum values).bmod (2 ^ 64) ≤ 0 := by
  rw [Int64.le_iff_toInt_le, toInt_takeAway, toInt_toInt64_eq_bmod, Int.bmod_sub_bmod,
    Int64.toInt_zero]

theorem bmod_nonpos_iff_of_pos (pos : 0 < d) (below : d < 2 ^ 64) :
    d.bmod (2 ^ 64) ≤ 0 ↔ 2 ^ 63 ≤ d := by
  rw [Int.bmod_def]
  split <;> omega

theorem bmod_nonpos_iff_of_nonpos (nonpos : d ≤ 0) (above : -2 ^ 64 < d) :
    d.bmod (2 ^ 64) ≤ 0 ↔ -2 ^ 63 ≤ d := by
  rw [Int.bmod_def]
  split <;> omega

end Numeric
