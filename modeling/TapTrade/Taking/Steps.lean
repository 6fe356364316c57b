import TapTrade.Model.Writes
import TapTrade.Resumption.Operation

/-! # The operations of a take

A take makes seven operations until its escrow is built, none of which writes. The eighth
reads the offer again, the ninth deletes it and the tenth inserts it among the taken
offers.
-/

namespace TapTrade

open Relational Resumption

variable {P : Platform} {ε α : Type} {ends : Nat → α → Prop} {n : Nat}

section Rules

open Call

theorem timed_fetchOptional {read : Database → Option α} {ends : Nat → Option α → Prop}
    (after : ∀ row, ends (n + 1) row) :
    (fetchOptional read : Act P Error (Option α)).Timed ends n := timed_query after

theorem timed_fetchOne {read : Database → Option α} (after : ∀ row, ends (n + 1) row) :
    (fetchOne read : Act P Error α).Timed ends n := by
  apply timed_bind.mpr
  apply timed_fetchOptional
  intro row
  rw [timed_ofOption]
  exact fun a _ => after a

theorem timed_tryAsk {query : Query P} {answer : query.Answer → Except Error α}
    (after : ∀ a, ends (n + 1) a) : (tryAsk query answer : Act P Error α).Timed ends n := by
  apply timed_bind.mpr
  rintro given _ ⟨⟩
  rw [timed_ofExcept]
  exact fun a _ => after a

theorem timed_checked {overflows : Bool} {wrapped : UInt64} {ends : Nat → UInt64 → Prop}
    (after : ∀ value, ends n value) :
    (U64.checked overflows wrapped : Act P Error UInt64).Timed ends n := by
  unfold U64.checked
  split
  · exact timed_panic
  · exact (timed_pure wrapped).mpr (after wrapped)

theorem timed_sum {values : List UInt64} {total : UInt64} {ends : Nat → UInt64 → Prop}
    (after : ∀ value, ends n value) :
    (U64.sum total values : Act P Error UInt64).Timed ends n := by
  induction values generalizing total with
  | nil => exact (timed_pure total).mpr (after total)
  | cons value values ih => exact timed_bind.mpr (timed_checked fun _ => ih)

theorem timed_inputSum {data : EscrowPsbtConstructionData P} {ends : Nat → UInt64 → Prop}
    (after : ∀ value, ends n value) : data.inputSum.Timed ends n := by
  apply timed_bind.mpr
  apply timed_sum
  intro sum
  split
  · exact timed_fail _
  · exact (timed_pure sum).mpr (after sum)

theorem timed_changeAmount {inputSum escrowAmount escrowFee : UInt64}
    {ends : Nat → UInt64 → Prop} (after : ∀ value, ends n value) :
    (changeAmount inputSum escrowAmount escrowFee : Act P Error UInt64).Timed ends n := by
  apply timed_bind.mpr
  apply timed_checked
  intro locked
  apply timed_bind.mpr
  apply timed_checked
  intro share
  exact timed_checked after

end Rules

section Escrow

open Call

theorem timed_fetchMakerEscrowPsbtData {tradeId : String}
    {ends : Nat → EscrowPsbtConstructionData P → Prop} (after : ∀ data, ends (n + 1) data) :
    (fetchMakerEscrowPsbtData tradeId : Act P Error _).Timed ends n := by
  apply timed_bind.mpr
  apply timed_fetchOne
  intro row
  simp only [timed_bind, timed_ofExcept, timed_pure]
  exact fun _ _ _ _ => after _

theorem timed_getEscrowTxAmounts {tradeId : String} {feerate : ℚ}
    {ends : Nat → UInt64 × UInt64 × UInt64 → Prop} (after : ∀ amounts, ends (n + 1) amounts) :
    (getEscrowTxAmounts tradeId feerate : Act P Error _).Timed ends n := by
  apply timed_bind.mpr
  apply timed_fetchOne
  intro row
  simp only [timed_bind, timed_unwrap, timed_pure]
  exact fun _ _ _ _ => after _

/-- A take makes seven operations until its escrow is built. -/
theorem timed_escrowForTaker (payload : OfferPsbtRequest) :
    (escrowForTaker payload : Act P BondError EscrowPsbt).Timed (fun n _ => n = 7) 0 := by
  simp only [escrowForTaker, fetchTakerBondRequirements, createEscrowPsbt, takerEscrowPsbtData,
    timed_bind, timed_mapError, timed_ofExcept, timed_pure]
  refine timed_fetchOne fun row => timed_tryAsk fun validated => ?_
  refine timed_fetchMakerEscrowPsbtData fun makerData inputs _ address _ => ?_
  refine timed_tryAsk fun coordinatorPk descriptor _ => timed_tryAsk fun text feeAddress _ => ?_
  refine timed_getEscrowTxAmounts fun amounts script _ => ?_
  refine timed_inputSum fun makerSum => timed_changeAmount fun makerChange => ?_
  refine timed_inputSum fun takerSum => timed_changeAmount fun takerChange => ?_
  refine timed_checked fun total => timed_checked fun fee => ?_
  exact timed_tryAsk fun tx => rfl

end Escrow

section Bounds

open Call

@[simp] theorem bounded_fetchOne (read : Database → Option α) :
    (fetchOne read : Act P Error α).Bounded 1 :=
  Bounded.bind_one (bounded_query _ _) fun _ => bounded_ofOption _ _

@[simp] theorem bounded_tryAsk (query : Query P) (answer : query.Answer → Except Error α) :
    (tryAsk query answer).Bounded 1 :=
  Bounded.bind_one (bounded_ask (I := coordinator P) query) fun _ => bounded_ofExcept _

@[simp] theorem bounded_checked (overflows : Bool) (wrapped : UInt64) :
    (U64.checked overflows wrapped : Act P Error UInt64).Bounded 0 :=
  bounded_ite (by simp) (by simp)

theorem bounded_sum (total : UInt64) (values : List UInt64) :
    (U64.sum total values : Act P Error UInt64).Bounded 0 := by
  induction values generalizing total with
  | nil => exact bounded_pure _
  | cons value values ih => exact Bounded.bind_idle (by simp [U64.add]) fun _ => ih _

@[simp] theorem bounded_inputSum (data : EscrowPsbtConstructionData P) :
    data.inputSum.Bounded 0 :=
  Bounded.bind_idle (bounded_sum _ _) fun _ => bounded_ite (by simp) (by simp)

@[simp] theorem bounded_changeAmount (inputSum escrowAmount escrowFee : UInt64) :
    (changeAmount inputSum escrowAmount escrowFee : Act P Error UInt64).Bounded 0 := by
  apply Bounded.bind_idle (by simp [U64.add])
  intro share
  apply Bounded.bind_idle (by simp [U64.add])
  intro total
  simp [U64.sub]

@[simp] theorem bounded_fetchMakerEscrowPsbtData (tradeId : String) :
    (fetchMakerEscrowPsbtData tradeId : Act P Error _).Bounded 1 := by
  apply Bounded.bind_one (by simp)
  intro row
  apply Bounded.bind_idle (by simp)
  intro inputs
  exact Bounded.bind_idle (by simp) fun address => by simp

@[simp] theorem bounded_getEscrowTxAmounts (tradeId : String) (feerate : ℚ) :
    (getEscrowTxAmounts tradeId feerate : Act P Error _).Bounded 1 := by
  apply Bounded.bind_one (by simp)
  intro row
  apply Bounded.bind_idle (by simp)
  intro amount
  exact Bounded.bind_idle (by simp) fun bond => by simp

@[simp] theorem bounded_takerEscrowPsbtData (payload : OfferPsbtRequest) :
    (takerEscrowPsbtData payload : Act P Error _).Bounded 0 := by
  apply Bounded.bind_idle (by simp)
  intro inputs
  exact Bounded.bind_idle (by simp) fun address => by simp

theorem bounded_createEscrowPsbt (payload : OfferPsbtRequest) :
    (createEscrowPsbt payload : Act P Error EscrowPsbt).Bounded 5 := by
  apply Bounded.bind_one (by simp)
  intro makerData
  apply Bounded.bind_idle (by simp)
  intro takerData
  apply Bounded.bind_one (by simp)
  intro coordinatorPk
  apply Bounded.bind_idle (by simp)
  intro descriptor
  apply Bounded.bind_one (by simp)
  intro feeText
  apply Bounded.bind_idle (by simp)
  intro feeAddress
  apply Bounded.bind_one (by simp)
  intro amounts
  apply Bounded.bind_idle (by simp)
  intro script
  refine Bounded.bind_idle (by simp) fun makerSum => Bounded.bind_idle (by simp) fun makerChange => ?_
  refine Bounded.bind_idle (by simp) fun takerSum => Bounded.bind_idle (by simp) fun takerChange => ?_
  refine Bounded.bind_idle (by simp [U64.add]) fun total => ?_
  refine Bounded.bind_idle (by simp [U64.mul]) fun fee => ?_
  exact Bounded.bind_one (by simp) fun tx => by simp

/-- A take makes no more than these seven operations before it moves the offer. -/
theorem bounded_escrowForTaker (payload : OfferPsbtRequest) :
    (escrowForTaker payload : Act P BondError EscrowPsbt).Bounded 7 := by
  apply Bounded.bind_one (bounded_mapError (Bounded.bind_one (by simp) fun _ => by simp))
  intro requirements
  apply Bounded.bind_one (by simp)
  exact fun validated => bounded_mapError (bounded_createEscrowPsbt payload)

end Bounds

end TapTrade
