import TapTrade.Model.PayoutTx

/-! # The wallet of a trader

`get_escrow_psbt_inputs` of the trader's client: it takes the unspent outputs of the wallet one
after the other until they are worth the amount, and writes their inputs down for the coordinator.
-/

namespace TapTrade

open Resumption

/-- The wallet library and `bincode`, when a client chooses the inputs of the escrow. -/
structure TradingWallet (P : Platform) where
  sync : Except Error Unit
  listUnspent : Except Error (List LocalUtxo)
  getPsbtInput : LocalUtxo → Except Error P.Input
  /-- `bincode::serialize`. -/
  bincodeSerialize : PsbtInput P.Input → Except Error Bytes
  getNewAddress : Except Error String

/-- `a - b` on `i64`, in either build. -/
def I64.sub (checks : Bool) (a b : Int64) : Outcome Error Int64 :=
  if checks && (a - b).toInt ≠ a.toInt - b.toInt then .error .panicked else .ok (a - b)

namespace TradingWallet

variable {P : Platform} (W : TradingWallet P) (checks : Bool)

/-- The input that spends the output. -/
def input (utxo : LocalUtxo) : Except Error (PsbtInput P.Input) := do
  let psbtInput ← W.getPsbtInput utxo
  return { psbtInput, utxo := utxo.outpoint }

/-- `hex::encode(bincode::serialize(&input)?)`. -/
def inputHex (input : PsbtInput P.Input) : Except Error String := do
  return Hex.encode (← W.bincodeSerialize input)

/-- The loop over the unspent outputs, with the amount that is still missing. -/
def selectInputs (amountSat : Int64) : List LocalUtxo → Outcome Error (List String)
  | [] => return []
  | utxo :: availableUtxos => do
      let input ← Outcome.ofExcept (W.input utxo)
      let inputHex ← Outcome.ofExcept (W.inputHex input)
      let amountSat ← I64.sub checks amountSat utxo.txout.value.toInt64
      if amountSat ≤ 0 then return [inputHex]
      else return inputHex :: (← selectInputs amountSat availableUtxos)

/-- `get_escrow_psbt_inputs`. -/
def getEscrowPsbtInputs (amountSat : UInt64) : Outcome Error (String × String) := do
  Outcome.ofExcept W.sync
  let availableUtxos ← Outcome.ofExcept W.listUnspent
  let inputs ← W.selectInputs checks amountSat.toInt64 availableUtxos
  let serializedInputs := ",".intercalate inputs
  let changeAddress ← Outcome.ofExcept W.getNewAddress
  return (serializedInputs, changeAddress)

end TradingWallet

end TapTrade
