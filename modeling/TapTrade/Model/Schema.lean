import Mathlib.Algebra.Group.Int.Defs
import Mathlib.Algebra.Group.Nat.Defs
import TapTrade.Model.Hex
import TapTrade.Relational.Table
import TapTrade.Relational.Ternary

/-! # The database of the coordinator

The three tables of `CoordinatorDB::init`, column by column. A column without
`NOT NULL` is an `Option`; an `INTEGER` is an `Int64`. Reading a `NULL` as a plain
integer, text or blob gives `0` or the empty value, as sqlx-sqlite does.
-/

namespace TapTrade

open Relational

/-- A row of `maker_requests`. -/
structure MakerRequest where
  robohash : Bytes
  isBuyOrder : Option Int64
  amountSat : Int64
  bondRatio : Int64
  offerDurationTs : Int64
  bondAddress : String
  bondAmountSat : Int64
  escrowLockingInputAmountWithoutTradeSum : Int64
  deriving DecidableEq, Repr

/-- A row of `active_maker_offers`. -/
structure ActiveMakerOffer where
  offerId : String
  robohash : Option Bytes
  isBuyOrder : Option Int64
  amountSat : Int64
  bondRatio : Int64
  offerDurationTs : Int64
  bondAddress : String
  bondAmountSat : Int64
  escrowLockingInputAmountWithoutTradeSum : Option Int64
  bondTxHex : String
  payoutAddress : String
  changeAddressMaker : String
  escrowInputsHexMakerCsv : String
  taprootPubkeyHexMaker : String
  musigPubNonceHex : String
  musigPubkeyHex : String
  takerBondAddress : Option String
  deriving DecidableEq, Repr

/-- A row of `taken_offers`. -/
structure TakenOffer where
  offerId : String
  robohashMaker : Option Bytes
  robohashTaker : Option Bytes
  isBuyOrder : Option Int64
  amountSat : Int64
  bondRatio : Int64
  offerDurationTs : Int64
  bondAddressMaker : String
  bondAddressTaker : String
  bondAmountSat : Int64
  bondTxHexMaker : String
  bondTxHexTaker : String
  payoutAddressMaker : String
  taprootXonlyPubkeyHexMaker : String
  payoutAddressTaker : String
  taprootXonlyPubkeyHexTaker : String
  musigPubNonceHexMaker : String
  musigPubkeyCompressedHexMaker : String
  musigPubNonceHexTaker : String
  musigPubkeyCompressedHexTaker : String
  musigPartialSigHexMaker : Option String
  musigPartialSigHexTaker : Option String
  escrowPsbtHex : String
  escrowPsbtTxid : String
  signedEscrowPsbtHexMaker : Option String
  signedEscrowPsbtHexTaker : Option String
  escrowPsbtIsConfirmed : Option Int64
  makerHappy : Option Int64
  takerHappy : Option Int64
  escrowOngoing : Int64
  escrowWinnerRobohash : Option String
  escrowTaprootPkCoordinator : Option String
  escrowAmountMakerSat : Option Int64
  escrowAmountTakerSat : Option Int64
  escrowFeePerParticipant : Option Int64
  escrowOutputDescriptor : Option String
  payoutTransactionPsbtHex : Option String
  processing : Int64
  deriving DecidableEq, Repr

instance : Keyed MakerRequest Bytes := ⟨MakerRequest.robohash⟩
instance : Keyed ActiveMakerOffer String := ⟨ActiveMakerOffer.offerId⟩
instance : Keyed TakenOffer String := ⟨TakenOffer.offerId⟩

structure Database where
  makerRequests : Table MakerRequest
  activeMakerOffers : Table ActiveMakerOffer
  takenOffers : Table TakenOffer

/-- The database right after `CoordinatorDB::init` created it. -/
def Database.init : Database := ⟨Table.empty, Table.empty, Table.empty⟩

/-- How a flag is stored: `1` or `NULL`. -/
def boolToSqlInt (flag : Bool) : Option Int64 := if flag then some 1 else none

namespace Column

/-- `try_get::<i64, _>`. -/
def i64 (value : Option Int64) : Int64 := value.getD 0

/-- `try_get::<String, _>`. -/
def text (value : Option String) : String := value.getD ""

/-- `try_get::<Vec<u8>, _>`. -/
def blob (value : Option Bytes) : Bytes := value.getD []

/-- `try_get::<bool, _>`. -/
def bool (value : Option Int64) : Bool := i64 value ≠ 0

/-- `try_get::<u64, _>`. -/
def u64? (value : Int64) : Option UInt64 := if 0 ≤ value then some value.toUInt64 else none

/-- `try_get::<u8, _>`. No other numbers are stored; of those sqlx would keep the low bits. -/
def u8? (value : Int64) : Option UInt8 :=
  if 0 ≤ value ∧ value < 256 then some value.toUInt64.toUInt8 else none

/-- `try_get::<i32, _>`. No other numbers are stored; of those sqlx would keep the low bits. -/
def i32? (value : Int64) : Option Int32 :=
  if -2147483648 ≤ value ∧ value < 2147483648 then some value.toInt32 else none

@[simp] theorem bool_boolToSqlInt (flag : Bool) : bool (boolToSqlInt flag) = flag := by
  cases flag <;> decide

@[simp] theorem i64_boolToSqlInt (flag : Bool) : (i64 (boolToSqlInt flag) = 1) ↔ flag = true := by
  cases flag <;> decide

end Column

/-! A `u64` that is bound to a statement is cast to `i64`: from `2 ^ 63` on it turns
negative. -/

theorem toInt_toInt64 (a : UInt64) :
    a.toInt64.toInt = if a.toNat < 2 ^ 63 then (a.toNat : Int) else (a.toNat : Int) - 2 ^ 64 := by
  have below := a.toNat_lt
  change a.toBitVec.toInt = _
  rw [BitVec.toInt_eq_toNat_cond]
  change (if 2 * a.toNat < 2 ^ 64 then _ else _) = _
  split <;> split <;> simp <;> omega

/-- Only what did not turn negative can be read back. -/
theorem Column.u64?_toInt64 {a b : UInt64} (read : Column.u64? a.toInt64 = some b) :
    b = a ∧ a.toNat < 2 ^ 63 := by
  unfold Column.u64? at read
  split at read
  case isFalse => cases read
  case isTrue nonneg =>
    rw [Int64.le_iff_toInt_le, toInt_toInt64] at nonneg
    refine ⟨by simpa using read.symm, ?_⟩
    by_contra large
    have below := a.toNat_lt
    rw [if_neg large] at nonneg
    change (0 : Int) ≤ _ at nonneg
    omega

theorem Column.u64?_of_small {a : UInt64} (small : a.toNat < 2 ^ 63) :
    Column.u64? a.toInt64 = some a := by
  have nonneg : (0 : Int64) ≤ a.toInt64 := by
    rw [Int64.le_iff_toInt_le, toInt_toInt64, if_pos small]
    change (0 : Int) ≤ _
    omega
  rw [Column.u64?, if_pos nonneg, UInt64.toUInt64_toInt64]

theorem toNat_add_of_small {a b : UInt64} (smallA : a.toNat < 2 ^ 63) (smallB : b.toNat < 2 ^ 63) :
    (a + b).toNat = a.toNat + b.toNat := by
  rw [UInt64.toNat_add]
  omega

theorem toInt64_le_of_small {a b : UInt64} (small : a.toNat < 2 ^ 63) :
    b.toInt64 ≤ a.toInt64 ↔ b ≤ a ∨ 2 ^ 63 ≤ b.toNat := by
  have below := b.toNat_lt
  rw [Int64.le_iff_toInt_le, toInt_toInt64, toInt_toInt64, UInt64.le_iff_toNat_le]
  split <;> omega

theorem small_le_toInt64 {a b : UInt64} (small : a.toNat < 2 ^ 63) :
    a.toInt64 ≤ b.toInt64 ↔ a ≤ b ∧ b.toNat < 2 ^ 63 := by
  have below := b.toNat_lt
  rw [Int64.le_iff_toInt_le, toInt_toInt64, toInt_toInt64, UInt64.le_iff_toNat_le]
  split <;> omega

end TapTrade
