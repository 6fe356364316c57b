import TapTrade.Model.Words
import TapTrade.OrderBook.Quote

/-! # The arithmetic of the escrow locking transaction

The assembly of the transaction reads first, then computes the amounts of its four recipients and
last hands them to the wallet. The values of the inputs are what the traders say they are.
-/

namespace TapTrade

open Relational Resumption Numeric

variable {P : Platform} {checks : Bool} {values : List UInt64} {amount fee c : UInt64}
  {request : OfferPsbtRequest}

/-- What the inputs are said to be worth, as far as they have a `witness_utxo`. -/
def declaredValues (inputs : List (PsbtInput P.Input)) : List UInt64 :=
  inputs.filterMap fun input => (P.witnessUtxo input.psbtInput).map TxOut.value

/-- What the amounts are computed from. -/
structure EscrowFigures where
  makerValues : List UInt64
  takerValues : List UInt64
  escrowAmountMakerSat : UInt64
  escrowAmountTakerSat : UInt64
  escrowFeeSatPerParticipant : UInt64
  deriving DecidableEq, Repr

/-- The amounts of the recipients. -/
structure EscrowOutputs where
  changeAmountMaker : UInt64
  changeAmountTaker : UInt64
  amountEscrow : UInt64
  feeAmount : UInt64
  deriving DecidableEq, Repr

namespace Word

def inputSum (checks : Bool) (values : List UInt64) : Outcome Error UInt64 := do
  let inputSum ← sum checks 0 values
  if inputSum = 0 then
    .error (.failed (.message "Input sum of escrow creation psbt input is 0"))
  else
    .ok inputSum

def changeAmount (checks : Bool) (inputSum amount fee : UInt64) : Outcome Error UInt64 := do
  let share ← add checks (← add checks amount fee) (txFeeAbs / 2)
  sub checks inputSum share

/-- The change of a trader. -/
def change (checks : Bool) (values : List UInt64) (amount fee : UInt64) :
    Outcome Error UInt64 := do
  changeAmount checks (← inputSum checks values) amount fee

end Word

def EscrowFigures.outputs (checks : Bool) (figures : EscrowFigures) :
    Outcome Error EscrowOutputs := do
  let changeAmountMaker ← Word.change checks figures.makerValues figures.escrowAmountMakerSat
    figures.escrowFeeSatPerParticipant
  let changeAmountTaker ← Word.change checks figures.takerValues figures.escrowAmountTakerSat
    figures.escrowFeeSatPerParticipant
  let amountEscrow ← Word.add checks figures.escrowAmountMakerSat figures.escrowAmountTakerSat
  let feeAmount ← Word.mul checks figures.escrowFeeSatPerParticipant 2
  .ok { changeAmountMaker, changeAmountTaker, amountEscrow, feeAmount }

/-- What the assembly has read before it computes. -/
structure PreparedEscrow (P : Platform) where
  makerData : EscrowPsbtConstructionData P
  takerData : EscrowPsbtConstructionData P
  coordinatorEscrowPk : P.XOnlyPublicKey
  descriptor : P.EscrowDescriptor
  feeAddress : P.Address
  escrowAmountMakerSat : UInt64
  escrowAmountTakerSat : UInt64
  escrowFeeSatPerParticipant : UInt64
  escrowScript : Bytes

namespace PreparedEscrow

def figures (p : PreparedEscrow P) : EscrowFigures where
  makerValues := declaredValues p.makerData.escrowInputUtxos
  takerValues := declaredValues p.takerData.escrowInputUtxos
  escrowAmountMakerSat := p.escrowAmountMakerSat
  escrowAmountTakerSat := p.escrowAmountTakerSat
  escrowFeeSatPerParticipant := p.escrowFeeSatPerParticipant

/-- What the wallet is asked to build. -/
def tx (p : PreparedEscrow P) (outputs : EscrowOutputs) : EscrowTx P.Input where
  recipients := [
    (p.escrowScript, outputs.amountEscrow),
    (P.scriptPubkey p.feeAddress, outputs.feeAmount),
    (P.scriptPubkey p.makerData.changeAddress, outputs.changeAmountMaker),
    (P.scriptPubkey p.takerData.changeAddress, outputs.changeAmountTaker)]
  feeAbsolute := txFeeAbs
  foreignUtxos := p.makerData.escrowInputUtxos ++ p.takerData.escrowInputUtxos

/-- The arithmetic between reading and building. -/
def computeOutputs (p : PreparedEscrow P) : Act P Error EscrowOutputs := do
  let changeAmountMaker ← changeAmount (← p.makerData.inputSum) p.escrowAmountMakerSat
    p.escrowFeeSatPerParticipant
  let changeAmountTaker ← changeAmount (← p.takerData.inputSum) p.escrowAmountTakerSat
    p.escrowFeeSatPerParticipant
  let amountEscrow ← U64.add p.escrowAmountMakerSat p.escrowAmountTakerSat
  let feeAmount ← U64.mul p.escrowFeeSatPerParticipant 2
  return { changeAmountMaker, changeAmountTaker, amountEscrow, feeAmount }

def build (p : PreparedEscrow P) (outputs : EscrowOutputs) : Act P Error EscrowPsbt := do
  let (escrowPsbtHex, escrowTxTxid) ← tryAsk (.finishEscrowTx (p.tx outputs)) id
  return {
    escrowTxTxid
    escrowPsbtHex
    escrowOutputDescriptor := P.descriptorToString p.descriptor
    coordinatorXonlyEscrowPk := Hex.encode (P.xonlySerialize p.coordinatorEscrowPk)
    escrowAmountMakerSat := p.escrowAmountMakerSat
    escrowAmountTakerSat := p.escrowAmountTakerSat
    escrowFeeSatPerParticipant := p.escrowFeeSatPerParticipant }

end PreparedEscrow

/-- `create_escrow_psbt` up to the first sum. -/
def prepareEscrow (takerPsbtRequest : OfferPsbtRequest) : Act P Error (PreparedEscrow P) := do
  let tradeId := takerPsbtRequest.offer.offerIdHex
  let makerData ← fetchMakerEscrowPsbtData tradeId
  let takerData ← takerEscrowPsbtData takerPsbtRequest
  let coordinatorEscrowPk ← tryAsk .getCoordinatorTaprootPk id
  let descriptor ← Call.ofExcept
    (buildEscrowTransactionOutputDescriptor makerData takerData coordinatorEscrowPk)
  let feeAddressText ← tryAsk .getNewAddress id
  let feeAddress ← Call.ofExcept (parse "Address::from_str" P.addressFromStr feeAddressText)
  let (escrowAmountMakerSat, escrowAmountTakerSat, escrowFeeSatPerParticipant) ←
    getEscrowTxAmounts tradeId P.coordinatorFeerate
  let escrowScript ← Call.ofExcept (parse "address" P.descriptorAddress descriptor)
  return {
    makerData, takerData, coordinatorEscrowPk, descriptor, feeAddress, escrowAmountMakerSat,
    escrowAmountTakerSat, escrowFeeSatPerParticipant, escrowScript }

/-- The three parts of the assembly. -/
theorem createEscrowPsbt_eq (request : OfferPsbtRequest) :
    (createEscrowPsbt request : Act P Error EscrowPsbt) =
      prepareEscrow request >>= fun p => p.computeOutputs >>= p.build := by
  simp only [createEscrowPsbt, prepareEscrow, PreparedEscrow.computeOutputs, bind_assoc, pure_bind,
    PreparedEscrow.build, PreparedEscrow.tx]

/-! The arithmetic of the model is the one of the build. -/

theorem computes_inputSum (data : EscrowPsbtConstructionData P) :
    data.inputSum.Computes
      (Word.inputSum P.overflowChecks (declaredValues data.escrowInputUtxos)) := by
  apply (computes_sum 0 _).bind
  intro sum
  exact (Call.computes_fail _).ite (Call.computes_pure sum)

theorem computes_changeAmount (inputSum amount fee : UInt64) :
    (changeAmount inputSum amount fee : Act P Error UInt64).Computes
      (Word.changeAmount P.overflowChecks inputSum amount fee) := by
  apply (computes_add amount fee).bind
  intro locked
  apply (computes_add locked (txFeeAbs / 2)).bind
  exact fun share => computes_sub inputSum share

theorem computes_change (data : EscrowPsbtConstructionData P) (amount fee : UInt64) :
    (data.inputSum >>= fun inputSum => changeAmount inputSum amount fee).Computes
      (Word.change P.overflowChecks (declaredValues data.escrowInputUtxos) amount fee) := by
  apply (computes_inputSum data).bind
  exact fun inputSum => computes_changeAmount inputSum amount fee

theorem computes_computeOutputs (p : PreparedEscrow P) :
    p.computeOutputs.Computes (p.figures.outputs P.overflowChecks) := by
  unfold PreparedEscrow.computeOutputs
  rw [← bind_assoc]
  apply (computes_change p.makerData p.escrowAmountMakerSat p.escrowFeeSatPerParticipant).bind
  intro changeAmountMaker
  rw [← bind_assoc]
  apply (computes_change p.takerData p.escrowAmountTakerSat p.escrowFeeSatPerParticipant).bind
  intro changeAmountTaker
  apply (computes_add p.escrowAmountMakerSat p.escrowAmountTakerSat).bind
  intro amountEscrow
  apply (computes_mul p.escrowFeeSatPerParticipant 2).bind
  exact fun feeAmount => Call.computes_pure _

/-! Exact results, in either build. -/

namespace Word

theorem inputSum_of_fits (checks : Bool) (fits : exactSum values < 2 ^ 64)
    (some : exactSum values ≠ 0) :
    ∃ sum, inputSum checks values = .ok sum ∧ sum.toNat = exactSum values := by
  cases found : checkedSum 0 values with
  | none =>
      rw [checkedSum_eq_none, UInt64.toNat_zero] at found
      omega
  | some sum =>
      have exact := checkedSum_eq_some.mp found
      rw [UInt64.toNat_zero, Nat.zero_add] at exact
      have nonzero : sum ≠ 0 := by
        rintro rfl
        exact some exact.symm
      refine ⟨sum, ?_, exact⟩
      rw [inputSum, Word.sum, found, foldl_of_checkedSum found, op_some]
      exact if_neg nonzero

theorem inputSum_of_zero (checks : Bool) (nothing : exactSum values = 0) :
    ∃ e, inputSum checks values = .error (.failed e) := by
  have found : checkedSum 0 values = some 0 := by
    rw [checkedSum_eq_some, nothing, Nat.add_zero]
  refine ⟨.message "Input sum of escrow creation psbt input is 0", ?_⟩
  rw [inputSum, Word.sum, found, foldl_of_checkedSum found, op_some]
  rfl

theorem add_of_fits {a b : UInt64} (fits : a.toNat + b.toNat < 2 ^ 64) :
    add checks a b = (.ok (a + b) : Outcome Error UInt64) := by
  rw [add, checkedAdd, if_pos fits, op_some]

theorem mul_of_fits {a b : UInt64} (fits : a.toNat * b.toNat < 2 ^ 64) :
    mul checks a b = (.ok (a * b) : Outcome Error UInt64) := by
  rw [mul, checkedMul, if_pos fits, op_some]

/-- The change of a trader that brings its share. -/
theorem changeAmount_of_covered (checks : Bool) {inputSum : UInt64}
    (covered : deducted amount fee ≤ inputSum.toNat) :
    ∃ c, changeAmount checks inputSum amount fee = .ok c ∧
      inputSum.toNat = c.toNat + deducted amount fee := by
  unfold deducted at covered ⊢
  have below := inputSum.toNat_lt
  have half : (txFeeAbs / 2).toNat = 5000 := rfl
  have locked : (amount + fee).toNat = amount.toNat + fee.toNat := by
    rw [UInt64.toNat_add]
    omega
  have owed : (amount + fee + txFeeAbs / 2).toNat = amount.toNat + fee.toNat + 5000 := by
    rw [UInt64.toNat_add, locked, half]
    omega
  have pays : amount + fee + txFeeAbs / 2 ≤ inputSum := by
    rw [UInt64.le_iff_toNat_le, owed]
    exact covered
  refine ⟨inputSum - (amount + fee + txFeeAbs / 2), ?_, ?_⟩
  · rw [changeAmount, add_of_fits (by omega)]
    change (add checks (amount + fee) (txFeeAbs / 2) >>= _) = _
    rw [add_of_fits (by omega)]
    exact sub_of_le pays
  · rw [UInt64.toNat_sub_of_le _ _ pays, owed]
    omega

end Word

/-! What is read before. -/

/-- The figures of a listed offer and of a request to take it, where they can be read. -/
def ActiveMakerOffer.figures? (P : Platform) (row : ActiveMakerOffer) (request : OfferPsbtRequest) :
    Option EscrowFigures := do
  let makerInputs ← (csvHexToBdkInput P row.escrowInputsHexMakerCsv).toOption
  let takerInputs ← (csvHexToBdkInput P request.tradeData.bdkPsbtInputsHexCsv).toOption
  let amountSat ← Column.u64? row.amountSat
  let bondAmountSat ← Column.u64? row.bondAmountSat
  let amounts := escrowAmounts (1 = Column.i64 row.isBuyOrder) amountSat bondAmountSat
  return {
    makerValues := declaredValues makerInputs
    takerValues := declaredValues takerInputs
    escrowAmountMakerSat := amounts.1
    escrowAmountTakerSat := amounts.2
    escrowFeeSatPerParticipant := escrowFeePerParticipant P amountSat P.coordinatorFeerate }

section Specs

open Call

variable {env : Environment (coordinator P)} {w w' : World (coordinator P)}
  {p : PreparedEscrow P} {row : ActiveMakerOffer} {figures : EscrowFigures} {escrow : EscrowPsbt}

theorem fetchMakerEscrowPsbtData_ok {tradeId : String} {data : EscrowPsbtConstructionData P}
    (h : exec env (fetchMakerEscrowPsbtData tradeId) w = (.ok data, w')) :
    ∃ row, w.state.activeMakerOffers.find? tradeId = some row ∧
      csvHexToBdkInput P row.escrowInputsHexMakerCsv = .ok data.escrowInputUtxos ∧
      w'.state = w.state := by
  obtain ⟨row, w₁, fetched, h₁⟩ := exec_bind_ok env w h
  obtain ⟨found, rfl⟩ := exec_fetchOne_ok fetched
  obtain ⟨inputs, w₂, read, h₂⟩ := exec_bind_ok env _ h₁
  obtain ⟨reads, rfl⟩ := exec_ofExcept_ok env _ read
  obtain ⟨address, w₃, parsed, h₃⟩ := exec_bind_ok env _ h₂
  obtain ⟨-, rfl⟩ := exec_ofExcept_ok env _ parsed
  cases h₃
  exact ⟨row, found, reads, rfl⟩

theorem takerEscrowPsbtData_ok {data : EscrowPsbtConstructionData P}
    (h : exec env (takerEscrowPsbtData request) w = (.ok data, w')) :
    csvHexToBdkInput P request.tradeData.bdkPsbtInputsHexCsv = .ok data.escrowInputUtxos ∧
      w' = w := by
  obtain ⟨inputs, w₁, read, h₁⟩ := exec_bind_ok env w h
  obtain ⟨reads, rfl⟩ := exec_ofExcept_ok env w read
  obtain ⟨address, w₂, parsed, h₂⟩ := exec_bind_ok env _ h₁
  obtain ⟨-, rfl⟩ := exec_ofExcept_ok env _ parsed
  cases h₂
  exact ⟨reads, rfl⟩

/-- The figures are those of the listed offer and the request. -/
theorem prepareEscrow_ok (h : exec env (prepareEscrow request) w = (.ok p, w')) :
    ∃ row, w.state.activeMakerOffers.find? request.offer.offerIdHex = some row ∧
      row.figures? P request = some p.figures := by
  obtain ⟨makerData, w₁, maker, h₁⟩ := exec_bind_ok env w h
  obtain ⟨row, found, makerInputs, same₁⟩ := fetchMakerEscrowPsbtData_ok maker
  obtain ⟨takerData, w₂, taker, h₂⟩ := exec_bind_ok env _ h₁
  obtain ⟨takerInputs, rfl⟩ := takerEscrowPsbtData_ok taker
  obtain ⟨coordinatorPk, w₃, asked, h₃⟩ := exec_bind_ok env _ h₂
  obtain ⟨-, rfl⟩ := exec_tryAsk_ok asked
  obtain ⟨descriptor, w₄, built, h₄⟩ := exec_bind_ok env _ h₃
  obtain ⟨-, rfl⟩ := exec_ofExcept_ok env _ built
  obtain ⟨feeText, w₅, asked', h₅⟩ := exec_bind_ok env _ h₄
  obtain ⟨-, rfl⟩ := exec_tryAsk_ok asked'
  obtain ⟨feeAddress, w₆, parsed, h₆⟩ := exec_bind_ok env _ h₅
  obtain ⟨-, rfl⟩ := exec_ofExcept_ok env _ parsed
  obtain ⟨⟨amountMaker, amountTaker, fee⟩, w₇, amounts, h₇⟩ := exec_bind_ok env _ h₆
  obtain ⟨row', amountSat, bondAmountSat, found', amountOk, bondOk, locked, feeOk⟩ :=
    getEscrowTxAmounts_ok amounts
  obtain ⟨script, w₈, address, h₈⟩ := exec_bind_ok env _ h₇
  cases h₈
  have same : row' = row := by
    simp only [World.ask_state, same₁] at found'
    exact Option.some.inj (found'.symm.trans found)
  subst same
  obtain ⟨rfl, rfl⟩ := Prod.mk.inj locked
  refine ⟨row', found, ?_⟩
  simp only [ActiveMakerOffer.figures?, makerInputs, takerInputs, amountOk, bondOk, feeOk]
  rfl

/-- An assembly that succeeds has computed the outputs and let the wallet build them. -/
theorem createEscrowPsbt_ok (h : exec env (createEscrowPsbt request) w = (.ok escrow, w')) :
    ∃ p w₁ outputs, exec env (prepareEscrow request) w = (.ok p, w₁) ∧
      p.figures.outputs P.overflowChecks = .ok outputs ∧
      w' = (w₁.ask env (.finishEscrowTx (p.tx outputs))).2 ∧
      escrow.escrowAmountMakerSat = p.escrowAmountMakerSat ∧
      escrow.escrowAmountTakerSat = p.escrowAmountTakerSat ∧
      escrow.escrowFeeSatPerParticipant = p.escrowFeeSatPerParticipant := by
  rw [createEscrowPsbt_eq] at h
  obtain ⟨p, w₁, prepared, h₁⟩ := exec_bind_ok env w h
  obtain ⟨outputs, w₂, computed, h₂⟩ := exec_bind_ok env w₁ h₁
  rw [computes_computeOutputs p env w₁] at computed
  obtain ⟨computes, rfl⟩ := Prod.mk.inj computed
  obtain ⟨texts, w₃, asked, h₃⟩ := exec_bind_ok env w₁ h₂
  obtain ⟨-, rfl⟩ := exec_tryAsk_ok asked
  cases h₃
  exact ⟨p, w₁, outputs, prepared, computes, rfl, rfl, rfl, rfl⟩

/-- An assembly whose arithmetic fails ends as the arithmetic does. -/
theorem createEscrowPsbt_of_error {abort : Abort Error}
    (prepared : exec env (prepareEscrow request) w = (.ok p, w'))
    (fails : p.figures.outputs P.overflowChecks = .error abort) :
    exec env (createEscrowPsbt request) w = (.error abort, w') := by
  rw [createEscrowPsbt_eq, exec_bind_of_ok env w prepared, exec_bind,
    computes_computeOutputs p env w', fails]

theorem calm_fetchMakerEscrowPsbtData (tradeId : String) :
    (fetchMakerEscrowPsbtData tradeId : Act P Error _).Calm := by
  apply Calm.bind (calm_fetchOne _)
  intro row
  apply Calm.bind (calm_ofExcept _)
  intro inputs
  exact Calm.bind (calm_ofExcept _) fun address => calm_pure _

theorem calm_takerEscrowPsbtData (request : OfferPsbtRequest) :
    (takerEscrowPsbtData request : Act P Error _).Calm := by
  apply Calm.bind (calm_ofExcept _)
  intro inputs
  exact Calm.bind (calm_ofExcept _) fun address => calm_pure _

/-- The amounts of a listed offer can be read if they are not negative. -/
theorem getEscrowTxAmounts_calm {tradeId : String}
    (found : w.state.activeMakerOffers.find? tradeId = some row)
    (readable : row.figures? P request = some figures) :
    (exec env (getEscrowTxAmounts tradeId P.coordinatorFeerate) w).1 ≠ .error .panicked := by
  simp only [ActiveMakerOffer.figures?, Option.bind_eq_bind, Option.bind_eq_some_iff] at readable
  obtain ⟨_, -, _, -, amountSat, amountOk, bondAmountSat, bondOk, -⟩ := readable
  apply exec_bind_calm (calm_fetchOne _ env w)
  intro row' w₁ fetched
  obtain ⟨found', -⟩ := exec_fetchOne_ok fetched
  cases found.symm.trans found'
  rw [amountOk, bondOk]
  exact nofun

/-- Nothing panics before the sums. -/
theorem prepareEscrow_calm (env : Environment (coordinator P))
    (found : w.state.activeMakerOffers.find? request.offer.offerIdHex = some row)
    (readable : row.figures? P request = some figures) :
    (exec env (prepareEscrow request) w).1 ≠ .error .panicked := by
  apply exec_bind_calm (calm_fetchMakerEscrowPsbtData _ env w)
  intro makerData w₁ maker
  obtain ⟨_, -, -, same⟩ := fetchMakerEscrowPsbtData_ok maker
  rw [← same] at found
  apply exec_bind_calm (calm_takerEscrowPsbtData request env w₁)
  intro takerData w₂ taker
  obtain ⟨-, rfl⟩ := takerEscrowPsbtData_ok taker
  apply exec_bind_calm (calm_tryAsk _ _ env _)
  intro coordinatorPk w₃ asked
  obtain ⟨-, rfl⟩ := exec_tryAsk_ok asked
  apply exec_bind_calm (calm_ofExcept _ env _)
  intro descriptor w₄ built
  obtain ⟨-, rfl⟩ := exec_ofExcept_ok env _ built
  apply exec_bind_calm (calm_tryAsk _ _ env _)
  intro feeText w₅ asked'
  obtain ⟨-, rfl⟩ := exec_tryAsk_ok asked'
  apply exec_bind_calm (calm_ofExcept _ env _)
  intro feeAddress w₆ parsed
  obtain ⟨-, rfl⟩ := exec_ofExcept_ok env _ parsed
  apply exec_bind_calm
  · exact getEscrowTxAmounts_calm found readable
  · exact fun amounts w₇ _ => exec_bind_calm (calm_ofExcept _ env _) fun script w₈ _ => nofun

end Specs

end TapTrade
