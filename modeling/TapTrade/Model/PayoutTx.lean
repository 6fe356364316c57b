import TapTrade.Model.Words

/-! # The payout transaction

`wallet/payout_tx.rs`: the transaction that spends the escrow output to the two traders. Half of
its fee is deducted from each payout. The fee rate is estimated by the node, or 40 sat/vB where it
has no estimate.
-/

namespace TapTrade

open Resumption

/-- `LocalUtxo`, as far as it is looked into. -/
structure LocalUtxo where
  outpoint : OutPoint
  txout : TxOut
  deriving DecidableEq, Repr

/-- What the transaction builder is given for the payout transaction. Unlike for the escrow
    transaction it may add inputs of the coordinator's wallet. -/
structure PayoutTx (Input : Type) where
  foreignUtxos : List (PsbtInput Input)
  recipients : List (Bytes × UInt64)
  feeAbsolute : UInt64
  deriving DecidableEq, Repr

/-- The wallet library and the node, when a payout transaction is assembled. -/
structure PayoutBackend (P : Platform) where
  FeeRate : Type
  /-- `estimate_fee`, for a number of blocks. -/
  estimateFee : Nat → Except Error FeeRate
  /-- `FeeRate::from_sat_per_vb`. -/
  fromSatPerVb : ℚ → FeeRate
  /-- `fee_vb`, for a number of virtual bytes. -/
  feeVb : FeeRate → Nat → UInt64
  /-- `list_unspent` of a new wallet for the descriptor, once it is synced. -/
  listUnspent : P.EscrowDescriptor → Except Error (List LocalUtxo)
  getPsbtInput : LocalUtxo → Except Error P.Input
  /-- How a list of outputs is shown by `{:?}`. -/
  debugUtxos : List LocalUtxo → String
  addForeignUtxo : PsbtInput P.Input → Except Error Unit
  /-- `builder.finish()` and `serialize_hex`. -/
  finish : PayoutTx P.Input → Except Error String

namespace PayoutBackend

variable {P : Platform} (B : PayoutBackend P)

/-- `get_tx_fees_abs_sat`, which never fails: the fee and what each trader pays of it. -/
def getTxFeesAbsSat : UInt64 × UInt64 :=
  let feerate := match B.estimateFee 6 with
    | .ok feerate => feerate
    | .error _ => B.fromSatPerVb 40
  let keyspendPayoutTxSizeVb := 140
  let txFeeAbs := B.feeVb feerate keyspendPayoutTxSizeVb
  (txFeeAbs, txFeeAbs / 2)

/-- `get_escrow_utxo`. -/
def getEscrowUtxo (descriptor : P.EscrowDescriptor) : Except Error (PsbtInput P.Input) := do
  match ← B.listUnspent descriptor with
  | [utxo] => return ⟨← B.getPsbtInput utxo, utxo.outpoint⟩
  | availableUtxos => .error (.message
      ("Expected exactly one utxo [found: " ++ toString availableUtxos.length ++
        "] for escrow output: " ++ B.debugUtxos availableUtxos))

/-- What `assemble_keyspend_payout_psbt` tells the builder. -/
def payoutTx (payoutInformation : PayoutData P) : Outcome Error (PayoutTx P.Input) := do
  let escrowUtxo ← Outcome.ofExcept (B.getEscrowUtxo payoutInformation.escrowOutputDescriptor)
  let (txFeeAbs, txFeeAbsSatPerUser) := B.getTxFeesAbsSat
  Outcome.ofExcept (B.addForeignUtxo escrowUtxo)
  let toMaker ← Word.sub P.overflowChecks payoutInformation.payoutAmountMaker txFeeAbsSatPerUser
  let toTaker ← Word.sub P.overflowChecks payoutInformation.payoutAmountTaker txFeeAbsSatPerUser
  return {
    foreignUtxos := [escrowUtxo]
    recipients := [
      (P.scriptPubkey payoutInformation.payoutAddressMaker, toMaker),
      (P.scriptPubkey payoutInformation.payoutAddressTaker, toTaker)]
    feeAbsolute := txFeeAbs }

def assembleKeyspendPayoutPsbt (payoutInformation : PayoutData P) : Outcome Error String := do
  Outcome.ofExcept (B.finish (← B.payoutTx payoutInformation))

/-- The escrow output is found and taken as an input. -/
def Spends (descriptor : P.EscrowDescriptor) (escrowUtxo : PsbtInput P.Input) : Prop :=
  B.getEscrowUtxo descriptor = .ok escrowUtxo ∧ B.addForeignUtxo escrowUtxo = .ok ()

variable {B} {data : PayoutData P}

/-- Without the escrow output there is an error before anything is subtracted. -/
theorem payoutTx_of_not_spends
    (missing : ∀ escrowUtxo, ¬ B.Spends data.escrowOutputDescriptor escrowUtxo) :
    ∃ e, B.payoutTx data = .error (.failed e) := by
  rw [payoutTx]
  cases found : B.getEscrowUtxo data.escrowOutputDescriptor with
  | error e => exact ⟨e, rfl⟩
  | ok escrowUtxo =>
      cases added : B.addForeignUtxo escrowUtxo with
      | error e =>
          refine ⟨e, ?_⟩
          change (Outcome.ofExcept (B.addForeignUtxo escrowUtxo) >>= _) = _
          rw [added]
          rfl
      | ok u => exact absurd ⟨found, added⟩ (missing escrowUtxo)

theorem spends_of_built {tx : PayoutTx P.Input} (built : B.payoutTx data = .ok tx) :
    ∃ escrowUtxo, B.Spends data.escrowOutputDescriptor escrowUtxo := by
  by_contra missing
  obtain ⟨e, failed⟩ := payoutTx_of_not_spends (not_exists.mp missing)
  cases built.symm.trans failed

/-- With it the two subtractions are made. -/
theorem payoutTx_of_spends {escrowUtxo : PsbtInput P.Input}
    (spends : B.Spends data.escrowOutputDescriptor escrowUtxo) :
    B.payoutTx data = (do
      let toMaker ← Word.sub P.overflowChecks data.payoutAmountMaker B.getTxFeesAbsSat.2
      let toTaker ← Word.sub P.overflowChecks data.payoutAmountTaker B.getTxFeesAbsSat.2
      return {
        foreignUtxos := [escrowUtxo]
        recipients := [
          (P.scriptPubkey data.payoutAddressMaker, toMaker),
          (P.scriptPubkey data.payoutAddressTaker, toTaker)]
        feeAbsolute := B.getTxFeesAbsSat.1 }) := by
  rw [payoutTx, spends.1]
  change (Outcome.ofExcept (B.addForeignUtxo escrowUtxo) >>= _) = _
  rw [spends.2]
  rfl

end PayoutBackend

end TapTrade
