import TapTrade.Model.Database.Trades

/-! # The escrow locking transaction

`wallet/escrow_psbt.rs`: the output descriptor with its four script leaves and the
transaction that locks the escrow. Arithmetic on `u64` panics or wraps on overflow,
depending on the build.
-/

namespace TapTrade

open Relational Resumption Spending

variable {P : Platform}

namespace U64

/-- The result of a `u64` operation, of which `overflows` tells whether it left 64 bits. -/
def checked (overflows : Bool) (wrapped : UInt64) : Act P Error UInt64 :=
  if P.overflowChecks && overflows then Call.panic else return wrapped

def add (a b : UInt64) : Act P Error UInt64 := checked (2 ^ 64 ≤ a.toNat + b.toNat) (a + b)

def sub (a b : UInt64) : Act P Error UInt64 := checked (a < b) (a - b)

def mul (a b : UInt64) : Act P Error UInt64 := checked (2 ^ 64 ≤ a.toNat * b.toNat) (a * b)

/-- The values added up from the left, starting with `total`. -/
def sum (total : UInt64) : List UInt64 → Act P Error UInt64
  | [] => return total
  | value :: values => do sum (← add total value) values

end U64

/-- `EscrowPsbtConstructionData::input_sum`. Inputs without a `witness_utxo` do not count. -/
def EscrowPsbtConstructionData.inputSum (data : EscrowPsbtConstructionData P) :
    Act P Error UInt64 := do
  let inputSum ← U64.sum 0
    (data.escrowInputUtxos.filterMap fun input =>
      (P.witnessUtxo input.psbtInput).map TxOut.value)
  if inputSum = 0 then
    Call.fail (.message "Input sum of escrow creation psbt input is 0")
  else
    return inputSum

/-- The text of a policy over keys given as text. -/
def policyText (policy : Policy String) : String := policy.text id

example : policyText (.and (.pk "02ab") (.after 12228)) = "and(pk(02ab),after(12228))" := by decide

/-- Maker wins escrow. -/
def policyA {Key : Type} (makerPk coordinatorPk : Key) : Policy Key :=
  .and (.pk makerPk) (.pk coordinatorPk)

/-- Taker wins escrow. -/
def policyB {Key : Type} (takerPk coordinatorPk : Key) : Policy Key :=
  .and (.pk takerPk) (.pk coordinatorPk)

/-- To prevent the possibility of extortion through the coordinator. -/
def policyC {Key : Type} (makerPk : Key) : Policy Key := .and (.pk makerPk) (.after 12228)

/-- In case the coordinator vanishes or does not cooperate anymore. -/
def policyD {Key : Type} (makerPk takerPk : Key) : Policy Key :=
  .and (.and (.pk makerPk) (.pk takerPk)) (.after 2048)

/-- `Concrete::from_str(policy_string).context("Failed to parse policy string x")?`. -/
def parsePolicy (P : Platform) (which : String) (policy : Policy String) :
    Except Error P.Concrete :=
  withContext ("Failed to parse policy string " ++ which)
    (parse "Concrete::from_str" P.concreteFromStr (policyText policy))

/-- `policy.compile::<Tap>().context("Failed to compile miniscript x")?`. -/
def compilePolicy (P : Platform) (which : String) (policy : P.Concrete) :
    Except Error P.Miniscript :=
  withContext ("Failed to compile miniscript " ++ which) (parse "compile" P.compileTap policy)

/-- `build_escrow_transaction_output_descriptor`. -/
def buildEscrowTransactionOutputDescriptor
    (makerEscrowData takerEscrowData : EscrowPsbtConstructionData P)
    (coordinatorPk : P.XOnlyPublicKey) : Except Error P.EscrowDescriptor := do
  let makerPk := makerEscrowData.taprootXonlyPubkeyHex
  let takerPk := takerEscrowData.taprootXonlyPubkeyHex
  let coordinatorPk := Hex.encode (P.xonlySerialize coordinatorPk)
  let a ← parsePolicy P "a" (policyA makerPk coordinatorPk)
  let b ← parsePolicy P "b" (policyB takerPk coordinatorPk)
  let c ← parsePolicy P "c" (policyC makerPk)
  let d ← parsePolicy P "d" (policyD makerPk takerPk)
  let miniscriptA ← compilePolicy P "a" a
  let miniscriptB ← compilePolicy P "b" b
  let miniscriptC ← compilePolicy P "c" c
  let miniscriptD ← compilePolicy P "d" d
  let tapNodeAB := TapTree.tree (.leaf miniscriptA) (.leaf miniscriptB)
  let tapNodeCD := TapTree.tree (.leaf miniscriptD) (.leaf miniscriptC)
  let keyAggCtx ← aggregateMusigPubkeys (P := P)
    makerEscrowData.musigPubkeyCompressedHex takerEscrowData.musigPubkeyCompressedHex
  let internalAggMusigKey ← withContext "Error converting musig pk to bitcoin pk"
    (parse "PublicKey::from_slice" P.aggregatedXonly keyAggCtx)
  -- `new_tr` only refuses trees of more than 128 levels
  let descriptor : P.EscrowDescriptor := .tr internalAggMusigKey (some (.tree tapNodeAB tapNodeCD))
  if P.descriptorIsSane descriptor then return descriptor
  else .error (.library "sanity_check")

/-- The fee of the escrow locking transaction. -/
def txFeeAbs : UInt64 := 10000

/-- What is left of the inputs of a trader after its share. -/
def changeAmount (inputSum escrowAmount escrowFee : UInt64) : Act P Error UInt64 := do
  let share ← U64.add (← U64.add escrowAmount escrowFee) (txFeeAbs / 2)
  U64.sub inputSum share

/-- The taker's side of the construction data, from its request. -/
def takerEscrowPsbtData (takerPsbtRequest : OfferPsbtRequest) :
    Act P Error (EscrowPsbtConstructionData P) := do
  let escrowInputUtxos ← Call.ofExcept
    (csvHexToBdkInput P takerPsbtRequest.tradeData.bdkPsbtInputsHexCsv)
  let changeAddress ← Call.ofExcept
    (parse "Address::from_str" P.addressFromStr takerPsbtRequest.tradeData.clientChangeAddress)
  return {
    taprootXonlyPubkeyHex := takerPsbtRequest.tradeData.taprootPubkeyHex
    escrowInputUtxos
    changeAddress
    musigPubkeyCompressedHex := takerPsbtRequest.tradeData.musigPubkeyHex }

/-- `create_escrow_psbt`. -/
def createEscrowPsbt (takerPsbtRequest : OfferPsbtRequest) : Act P Error EscrowPsbt := do
  let tradeId := takerPsbtRequest.offer.offerIdHex
  let makerData ← fetchMakerEscrowPsbtData tradeId
  let takerData ← takerEscrowPsbtData takerPsbtRequest
  let coordinatorEscrowPk ← tryAsk .getCoordinatorTaprootPk id
  let descriptor ← Call.ofExcept
    (buildEscrowTransactionOutputDescriptor makerData takerData coordinatorEscrowPk)
  let feeAddressText ← tryAsk .getNewAddress id
  let feeAddress ← Call.ofExcept (parse "Address::from_str" P.addressFromStr feeAddressText)
  let (escrowAmountMakerSat, escrowAmountTakerSat, escrowFeeSatPerParticipant) ←
    getEscrowTxAmounts tradeId P.coordinatorFeerate
  let escrowScript ← Call.ofExcept (parse "address" P.descriptorAddress descriptor)
  let changeAmountMaker ←
    changeAmount (← makerData.inputSum) escrowAmountMakerSat escrowFeeSatPerParticipant
  let changeAmountTaker ←
    changeAmount (← takerData.inputSum) escrowAmountTakerSat escrowFeeSatPerParticipant
  let amountEscrow ← U64.add escrowAmountMakerSat escrowAmountTakerSat
  let feeAmount ← U64.mul escrowFeeSatPerParticipant 2
  let (escrowPsbtHex, escrowTxTxid) ← tryAsk (.finishEscrowTx {
    recipients := [
      (escrowScript, amountEscrow),
      (P.scriptPubkey feeAddress, feeAmount),
      (P.scriptPubkey makerData.changeAddress, changeAmountMaker),
      (P.scriptPubkey takerData.changeAddress, changeAmountTaker)]
    feeAbsolute := txFeeAbs
    foreignUtxos := makerData.escrowInputUtxos ++ takerData.escrowInputUtxos }) id
  return {
    escrowTxTxid
    escrowPsbtHex
    escrowOutputDescriptor := P.descriptorToString descriptor
    coordinatorXonlyEscrowPk := Hex.encode (P.xonlySerialize coordinatorEscrowPk)
    escrowAmountMakerSat
    escrowAmountTakerSat
    escrowFeeSatPerParticipant }

end TapTrade
