import TapTrade.Model.PayoutTx
import TapTrade.OrderBook.Quote

/-! # The fee of the payout transaction

Each trader pays half of the fee out of its payout, rounded down, and the builder is told the
whole fee. The smaller payout is the bond alone, which is computed from the order long before the
fee is known, and the fee is odd as often as not.
-/

namespace TapTrade

open Relational Resumption Numeric

variable {P : Platform} {B : PayoutBackend P} {data : PayoutData P}
  {tx : PayoutTx P.Input}
  {order : OfferRequest} {requirements : BondRequirementResponse}

/-- The transaction pays each trader its amount less half of the fee. -/
def Halves (B : PayoutBackend P) (data : PayoutData P) (tx : PayoutTx P.Input) : Prop :=
  ∃ toMaker toTaker, tx.recipients = [(P.scriptPubkey data.payoutAddressMaker, toMaker),
      (P.scriptPubkey data.payoutAddressTaker, toTaker)] ∧
    toMaker.toNat + B.getTxFeesAbsSat.2.toNat = data.payoutAmountMaker.toNat ∧
    toTaker.toNat + B.getTxFeesAbsSat.2.toNat = data.payoutAmountTaker.toNat

/-- The assembly ends with an error, or pays each trader its amount less half of the fee. It does
    neither if a subtraction wraps or panics. -/
def PaysExactly (B : PayoutBackend P) (data : PayoutData P) : Prop :=
  (∃ e, B.payoutTx data = .error (.failed e)) ∨
    ∃ tx, B.payoutTx data = .ok tx ∧ Halves B data tx

/-- What the recipients get and the fee are the value of the escrow output. -/
def Balances (tx : PayoutTx P.Input) (escrowValue : UInt64) : Prop :=
  exactSum (tx.recipients.map Prod.snd) + tx.feeAbsolute.toNat = escrowValue.toNat

theorem toNat_sub_add {a b : UInt64} (covered : b ≤ a) : (a - b).toNat + b.toNat = a.toNat := by
  rw [UInt64.toNat_sub_of_le _ _ covered]
  rw [UInt64.le_iff_toNat_le] at covered
  omega

/-- The transaction for payouts that cover half of the fee. -/
theorem payoutTx_of_covered {escrowUtxo : PsbtInput P.Input}
    (spends : B.Spends data.escrowOutputDescriptor escrowUtxo)
    (maker : B.getTxFeesAbsSat.2 ≤ data.payoutAmountMaker)
    (taker : B.getTxFeesAbsSat.2 ≤ data.payoutAmountTaker) :
    B.payoutTx data = .ok {
      foreignUtxos := [escrowUtxo]
      recipients := [
        (P.scriptPubkey data.payoutAddressMaker,
          data.payoutAmountMaker - B.getTxFeesAbsSat.2),
        (P.scriptPubkey data.payoutAddressTaker,
          data.payoutAmountTaker - B.getTxFeesAbsSat.2)]
      feeAbsolute := B.getTxFeesAbsSat.1 } := by
  rw [PayoutBackend.payoutTx_of_spends spends, Word.sub_of_le maker, Word.sub_of_le taker]
  rfl

/-- A subtraction gives no error. -/
theorem payoutTx_ne_failed {escrowUtxo : PsbtInput P.Input}
    (spends : B.Spends data.escrowOutputDescriptor escrowUtxo) (e : Error) :
    B.payoutTx data ≠ .error (.failed e) := by
  rw [PayoutBackend.payoutTx_of_spends spends]
  cases maker : (Word.sub P.overflowChecks data.payoutAmountMaker B.getTxFeesAbsSat.2 :
      Outcome Error UInt64) with
  | error abort =>
      cases (Word.op_eq_error maker).1
      exact nofun
  | ok toMaker =>
      cases taker : (Word.sub P.overflowChecks data.payoutAmountTaker B.getTxFeesAbsSat.2 :
          Outcome Error UInt64) with
      | error abort =>
          cases (Word.op_eq_error taker).1
          exact nofun
      | ok toTaker => exact nofun

theorem paysExactly_iff : PaysExactly B data ↔
    ((∃ escrowUtxo, B.Spends data.escrowOutputDescriptor escrowUtxo) →
      B.getTxFeesAbsSat.2 ≤ data.payoutAmountMaker ∧
        B.getTxFeesAbsSat.2 ≤ data.payoutAmountTaker) := by
  constructor
  · rintro pays ⟨escrowUtxo, spends⟩
    rcases pays with ⟨e, failed⟩ | ⟨tx, -, toMaker, toTaker, -, maker, taker⟩
    · exact absurd failed (payoutTx_ne_failed spends e)
    · constructor <;> rw [UInt64.le_iff_toNat_le] <;> omega
  · intro covered
    by_cases spends : ∃ escrowUtxo, B.Spends data.escrowOutputDescriptor escrowUtxo
    · obtain ⟨maker, taker⟩ := covered spends
      obtain ⟨escrowUtxo, spends⟩ := spends
      exact .inr ⟨_, payoutTx_of_covered spends maker taker, _, _, rfl, toNat_sub_add maker,
        toNat_sub_add taker⟩
    · exact .inl (PayoutBackend.payoutTx_of_not_spends (not_exists.mp spends))

/-- Then what the assembly returns is an error or the PSBT of such a transaction. -/
theorem PaysExactly.assembled (pays : PaysExactly B data) :
    (∃ e, B.assembleKeyspendPayoutPsbt data = .error (.failed e)) ∨
      ∃ tx psbt, B.assembleKeyspendPayoutPsbt data = .ok psbt ∧ B.finish tx = .ok psbt ∧
        Halves B data tx := by
  rcases pays with ⟨e, failed⟩ | ⟨tx, built, halves⟩
  · refine .inl ⟨e, ?_⟩
    rw [PayoutBackend.assembleKeyspendPayoutPsbt, failed]
    rfl
  · have assembled : B.assembleKeyspendPayoutPsbt data = Outcome.ofExcept (B.finish tx) := by
      rw [PayoutBackend.assembleKeyspendPayoutPsbt, built]
      rfl
    cases finished : B.finish tx with
    | error e => exact .inl ⟨e, by rw [assembled, finished]; rfl⟩
    | ok psbt => exact .inr ⟨tx, psbt, by rw [assembled, finished]; rfl, finished, halves⟩

/-- In either direction the maker is paid the traded amount and the bond, and the taker the bond. -/
theorem Settlement.payouts {env : Environment (coordinator P)}
    (s : Settlement env order requirements) :
    s.payoutData.payoutAmountMaker.toNat =
        order.amountSatoshi.toNat + requirements.lockingAmountSat.toNat ∧
      s.payoutData.payoutAmountTaker = requirements.lockingAmountSat := by
  obtain ⟨locked, smallAmount, smallBond⟩ := s.locked
  have paid := s.paidOut
  have sum := toNat_add_of_small smallAmount smallBond
  cases direction : order.isBuyOrder with
  | true =>
      simp only [direction, escrowAmounts, Bool.not_true, Bool.false_eq_true, if_true, if_false,
        Prod.mk.injEq] at locked paid
      simp only [paid, locked, sum, and_self]
  | false =>
      simp only [direction, escrowAmounts, Bool.not_false, Bool.false_eq_true, if_true, if_false,
        Prod.mk.injEq] at locked paid
      simp only [paid, locked, sum, and_self]

/-- For an accepted order the payout comes out right iff half of the fee is at most the bond. -/
theorem paysExactly_iff_bond (B : PayoutBackend P) {now : UInt64}
    {env env' : Environment (coordinator P)} {w w' : World (coordinator P)}
    (valid : order.validate now)
    (quoted : Call.exec env' (processOrder order) w = (.ok requirements, w'))
    (s : Settlement env order requirements) :
    PaysExactly B s.payoutData ↔
      ((∃ escrowUtxo, B.Spends s.payoutData.escrowOutputDescriptor escrowUtxo) →
        B.getTxFeesAbsSat.2.toNat ≤ order.bondAmount) := by
  obtain ⟨-, -, -, bond, -, -⟩ := processOrder_ok valid quoted
  obtain ⟨maker, taker⟩ := s.payouts
  rw [paysExactly_iff]
  simp only [UInt64.le_iff_toNat_le, maker, taker, bond]
  apply forall_congr'
  intro found
  omega

/-- The payout transaction spends exactly the escrow output iff its fee is even. -/
theorem balances_iff (B : PayoutBackend P) {row : TakenOffer} {escrowValue : UInt64}
    (read : row.payoutData P = .ok data) (built : B.payoutTx data = .ok tx)
    (locked : escrowValue.toNat = (Column.i64 row.escrowAmountMakerSat).toUInt64.toNat +
      (Column.i64 row.escrowAmountTakerSat).toUInt64.toNat)
    (maker : B.getTxFeesAbsSat.2 ≤ data.payoutAmountMaker)
    (taker : B.getTxFeesAbsSat.2 ≤ data.payoutAmountTaker) :
    Balances tx escrowValue ↔ B.getTxFeesAbsSat.1.toNat % 2 = 0 := by
  have paid := payoutAmounts_of_payoutData read
  have sum : data.payoutAmountMaker.toNat + data.payoutAmountTaker.toNat = escrowValue.toNat := by
    rw [locked]
    unfold TakenOffer.payoutAmounts at paid
    split at paid
    · obtain ⟨toMaker, toTaker⟩ := Prod.mk.inj paid
      rw [toMaker, toTaker]
      exact Nat.add_comm _ _
    · obtain ⟨toMaker, toTaker⟩ := Prod.mk.inj paid
      rw [toMaker, toTaker]
  have half : B.getTxFeesAbsSat.2.toNat = B.getTxFeesAbsSat.1.toNat / 2 := UInt64.toNat_div _ 2
  have toMaker := toNat_sub_add maker
  have toTaker := toNat_sub_add taker
  obtain ⟨escrowUtxo, spends⟩ := PayoutBackend.spends_of_built built
  rw [payoutTx_of_covered spends maker taker] at built
  cases built
  simp only [Balances, List.map_cons, List.map_nil, exactSum_cons, exactSum_nil]
  omega

namespace Sample

def escrowUtxo : LocalUtxo := ⟨⟨"e5c1", 0⟩, ⟨120000, [0x51, 0x20]⟩⟩

/-- The escrow output is there, and the node estimates the fee rate, in sat/vB. -/
def backend (feerate : ℚ) : PayoutBackend .sample where
  FeeRate := ℚ
  estimateFee _ := .ok feerate
  fromSatPerVb feerate := feerate
  feeVb feerate vbytes := UInt64.ofNat ⌈feerate * vbytes⌉.toNat
  listUnspent _ := .ok [escrowUtxo]
  getPsbtInput utxo := .ok (some utxo.txout)
  debugUtxos _ := "[]"
  addForeignUtxo _ := .ok ()
  finish _ := .ok "70736274ff01"

/-- The payout transaction at a fee rate. -/
def payoutTx (feerate : ℚ) : Outcome Error (PayoutTx Platform.sample.Input) :=
  (backend feerate).payoutTx payoutData

end Sample

theorem paysExactly_iff_bond_sample :
    PaysExactly (Sample.backend 40) (Sample.settlement true).payoutData ↔
      ((∃ escrowUtxo, (Sample.backend 40).Spends
          (Sample.settlement true).payoutData.escrowOutputDescriptor escrowUtxo) →
        (Sample.backend 40).getTxFeesAbsSat.2.toNat ≤ (Sample.order true).bondAmount) := by
  have valid : (Sample.order true).validate 1700000000 := by decide +kernel
  have quoted : (Call.exec Sample.environment (processOrder (Sample.order true))
      (startup .sample)).1 = .ok Sample.requirements := by decide +kernel
  exact paysExactly_iff_bond (Sample.backend 40) valid (Prod.ext quoted rfl)
    (Sample.settlement true)

/-- At 150 sat/vB half of the fee is 10500 sat, and the bond of the sample order 10000 sat. -/
theorem payout_underflows :
    ¬ PaysExactly (Sample.backend 150) (Sample.settlement true).payoutData := by
  intro pays
  have spends : (Sample.backend 150).Spends Sample.descriptor
      ⟨some ⟨120000, [0x51, 0x20]⟩, ⟨"e5c1", 0⟩⟩ := ⟨rfl, rfl⟩
  have covered := (paysExactly_iff.mp pays ⟨_, spends⟩).2
  revert covered
  decide +kernel

theorem balances_iff_sample :
    ∃ tx, Sample.payoutTx 40 = .ok tx ∧
      (Balances tx 120000 ↔ (Sample.backend 40).getTxFeesAbsSat.1.toNat % 2 = 0) := by
  obtain ⟨tx, built⟩ : ∃ tx, Sample.payoutTx 40 = .ok tx :=
    ⟨_, payoutTx_of_covered ⟨rfl, rfl⟩ (by decide +kernel) (by decide +kernel)⟩
  have read : (Sample.takenOffer true).payoutData .sample = .ok Sample.payoutData := by
    decide +kernel
  exact ⟨tx, built, balances_iff (Sample.backend 40) read built (by decide +kernel)
    (by decide +kernel) (by decide +kernel)⟩

/-- A fee of 147 sat leaves the transaction 1 sat short. -/
theorem payout_unbalanced :
    (Sample.takenOffer true).payoutData .sample = .ok Sample.payoutData ∧
      Sample.payoutData.payoutAmountMaker.toNat + Sample.payoutData.payoutAmountTaker.toNat =
        120000 ∧
      ∃ tx, Sample.payoutTx (21 / 20) = .ok tx ∧
        Halves (Sample.backend (21 / 20)) Sample.payoutData tx ∧ ¬ Balances tx 120000 := by
  refine ⟨by decide +kernel, rfl, _, payoutTx_of_covered ⟨rfl, rfl⟩ (by decide +kernel)
    (by decide +kernel), ⟨_, _, rfl, by decide +kernel, by decide +kernel⟩, ?_⟩
  unfold Balances
  decide +kernel

end TapTrade
