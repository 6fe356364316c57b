import TapTrade.Escrow.Coverage
import TapTrade.Payout.Fees

/-! # What comes in goes out

The amounts of the escrow are computed from the listed offer, deducted from the inputs, stored as
signed integers and read again for the payout. Where the inputs cover what is deducted, nothing is
lost on the way.
-/

namespace TapTrade

open Relational Resumption Numeric

variable {P : Platform} {checks : Bool} {values : List UInt64} {amount fee inputSum : UInt64}
  {order : OfferRequest} {requirements : BondRequirementResponse}

/-- The inputs of the two traders go into the outputs and the fee, each trader pays for its own
    part, and the escrow output is worth what the traders are paid out of it. -/
structure Conserved (p : PreparedEscrow P) (outputs : EscrowOutputs)
    (inputSumMaker inputSumTaker : UInt64) (payoutData : PayoutData P) : Prop where
  total : exactSum ((p.tx outputs).recipients.map Prod.snd) + (p.tx outputs).feeAbsolute.toNat =
    inputSumMaker.toNat + inputSumTaker.toNat
  maker : inputSumMaker.toNat = outputs.changeAmountMaker.toNat +
    deducted p.escrowAmountMakerSat p.escrowFeeSatPerParticipant
  taker : inputSumTaker.toNat = outputs.changeAmountTaker.toNat +
    deducted p.escrowAmountTakerSat p.escrowFeeSatPerParticipant
  escrow : outputs.amountEscrow.toNat =
    payoutData.payoutAmountMaker.toNat + payoutData.payoutAmountTaker.toNat
  /-- A build that checks for overflow has added up what the inputs are said to be worth. -/
  declared : P.overflowChecks = true →
    inputSumMaker.toNat = exactSum (declaredValues p.makerData.escrowInputUtxos) ∧
      inputSumTaker.toNat = exactSum (declaredValues p.takerData.escrowInputUtxos)

/-! The parts of the arithmetic. -/

namespace Word

theorem exact_of_inputSum (computed : Word.inputSum true values = .ok inputSum) :
    inputSum.toNat = exactSum values := by
  have fits : exactSum values < 2 ^ 64 := by
    rw [← inputSum_ne_panicked, computed]
    exact nofun
  by_cases nothing : exactSum values = 0
  · obtain ⟨e, refused⟩ := inputSum_of_zero true nothing
    cases refused.symm.trans computed
  · obtain ⟨sum, found, exact⟩ := inputSum_of_fits true fits nothing
    cases found.symm.trans computed
    exact exact

/-- The change of a trader whose inputs cover the deduction. -/
theorem exact_of_change {c : UInt64} (summed : Word.inputSum checks values = .ok inputSum)
    (covered : deducted amount fee ≤ inputSum.toNat)
    (computed : change checks values amount fee = .ok c) :
    inputSum.toNat = c.toNat + deducted amount fee := by
  obtain ⟨c', computed', exact⟩ := changeAmount_of_covered checks covered
  rw [change, summed] at computed
  cases computed.symm.trans computed'
  exact exact

theorem exact_of_add {a b c : UInt64} (computed : add checks a b = (.ok c : Outcome Error UInt64))
    (fits : a.toNat + b.toNat < 2 ^ 64) : c.toNat = a.toNat + b.toNat := by
  rw [add_of_fits fits] at computed
  cases computed
  rw [UInt64.toNat_add, Nat.mod_eq_of_lt fits]

theorem exact_of_mul {a b c : UInt64} (computed : mul checks a b = (.ok c : Outcome Error UInt64))
    (fits : checks = true ∨ a.toNat * b.toNat < 2 ^ 64) : c.toNat = a.toNat * b.toNat := by
  have small : a.toNat * b.toNat < 2 ^ 64 := by
    rcases fits with rfl | small
    · rw [← mul_ne_panicked, computed]
      exact nofun
    · exact small
  rw [mul_of_fits small] at computed
  cases computed
  rw [UInt64.toNat_mul, Nat.mod_eq_of_lt small]

end Word

theorem EscrowFigures.outputs_eq_ok {figures : EscrowFigures} {outputs : EscrowOutputs}
    (computed : figures.outputs checks = .ok outputs) :
    Word.change checks figures.makerValues figures.escrowAmountMakerSat
        figures.escrowFeeSatPerParticipant = .ok outputs.changeAmountMaker ∧
      Word.change checks figures.takerValues figures.escrowAmountTakerSat
        figures.escrowFeeSatPerParticipant = .ok outputs.changeAmountTaker ∧
      Word.add checks figures.escrowAmountMakerSat figures.escrowAmountTakerSat =
        (.ok outputs.amountEscrow : Outcome Error UInt64) ∧
      Word.mul checks figures.escrowFeeSatPerParticipant 2 =
        (.ok outputs.feeAmount : Outcome Error UInt64) := by
  simp only [EscrowFigures.outputs, bind_eq_ok] at computed
  obtain ⟨changeMaker, maker, changeTaker, taker, escrow, locked, fee, doubled, rest⟩ := computed
  cases rest
  exact ⟨maker, taker, locked, doubled⟩

/-- What the traders lock together. -/
theorem Settlement.escrowed {env : Environment (coordinator P)}
    (s : Settlement env order requirements) :
    s.escrow.escrowAmountMakerSat.toNat + s.escrow.escrowAmountTakerSat.toNat =
      order.amountSatoshi.toNat + 2 * requirements.lockingAmountSat.toNat := by
  obtain ⟨locked, smallAmount, smallBond⟩ := s.locked
  have sum := toNat_add_of_small smallAmount smallBond
  cases direction : order.isBuyOrder with
  | true =>
      simp only [direction, escrowAmounts, Bool.not_true, Bool.false_eq_true, if_false,
        Prod.mk.injEq] at locked
      rw [locked.1, locked.2, sum]
      omega
  | false =>
      simp only [direction, escrowAmounts, Bool.not_false, if_true, Prod.mk.injEq] at locked
      rw [locked.1, locked.2, sum]
      omega

open Call in
/-- An escrow that is created for an accepted order keeps every satoshi. -/
theorem conserved_of_created {now : UInt64} {env env' : Environment (coordinator P)}
    {w₀ w₀' w w' w₁ : World (coordinator P)} {p : PreparedEscrow P}
    {inputSumMaker inputSumTaker : UInt64} (valid : order.validate now)
    (quoted : exec env (processOrder order) w₀ = (.ok requirements, w₀'))
    (s : Settlement env order requirements)
    (prepared : exec env' (prepareEscrow s.take) w = (.ok p, w₁))
    (created : exec env' (createEscrowPsbt s.take) w = (.ok s.escrow, w'))
    (sumMaker : (exec env' p.makerData.inputSum w₁).1 = .ok inputSumMaker)
    (sumTaker : (exec env' p.takerData.inputSum w₁).1 = .ok inputSumTaker)
    (coversMaker : deducted p.escrowAmountMakerSat p.escrowFeeSatPerParticipant ≤
      inputSumMaker.toNat)
    (coversTaker : deducted p.escrowAmountTakerSat p.escrowFeeSatPerParticipant ≤
      inputSumTaker.toNat)
    (fits : P.overflowChecks = true ∨ p.escrowFeeSatPerParticipant.toNat * 2 < 2 ^ 64) :
    ∃ outputs, w' = (w₁.ask env' (.finishEscrowTx (p.tx outputs))).2 ∧
      Conserved p outputs inputSumMaker inputSumTaker s.payoutData := by
  obtain ⟨p', w₁', outputs, prepared', computed, asked, amountMaker, amountTaker, -⟩ :=
    createEscrowPsbt_ok created
  cases prepared.symm.trans prepared'
  obtain ⟨computedMaker, computedTaker, computedEscrow, computedFee⟩ :=
    EscrowFigures.outputs_eq_ok computed
  rw [computes_inputSum p.makerData env' w₁] at sumMaker
  rw [computes_inputSum p.takerData env' w₁] at sumTaker
  have changeMaker := Word.exact_of_change sumMaker coversMaker computedMaker
  have changeTaker := Word.exact_of_change sumTaker coversTaker computedTaker
  -- the amounts of an accepted order are small
  obtain ⟨-, -, -, bond, -, -⟩ := processOrder_ok valid quoted
  have smallAmount := (OfferRequest.amount_of_validate valid).2
  have smallBond := (OfferRequest.bondAmount_of_validate valid).2
  have escrowed := s.escrowed
  rw [amountMaker, amountTaker] at escrowed
  have locked : outputs.amountEscrow.toNat =
      p.escrowAmountMakerSat.toNat + p.escrowAmountTakerSat.toNat := by
    apply Word.exact_of_add computedEscrow
    change p.escrowAmountMakerSat.toNat + p.escrowAmountTakerSat.toNat < 2 ^ 64
    omega
  have fee : outputs.feeAmount.toNat = p.escrowFeeSatPerParticipant.toNat * 2 :=
    Word.exact_of_mul computedFee fits
  obtain ⟨paidMaker, paidTaker⟩ := s.payouts
  have half : (txFeeAbs / 2).toNat = 5000 := rfl
  have whole : txFeeAbs.toNat = 10000 := rfl
  refine ⟨outputs, asked, ⟨?_, changeMaker, changeTaker, ?_, ?_⟩⟩
  · simp only [PreparedEscrow.tx, List.map_cons, List.map_nil, exactSum_cons, exactSum_nil]
    unfold deducted at changeMaker changeTaker
    omega
  · rw [locked, paidMaker, paidTaker]
    omega
  · intro checks
    rw [checks] at sumMaker sumTaker
    exact ⟨Word.exact_of_inputSum sumMaker, Word.exact_of_inputSum sumTaker⟩

namespace Sample

/-- What the assembly returns for the sell order. -/
def assembled : EscrowPsbt := ⟨"70736274ff", "e5c1", "tr()", coordinatorPk, 110000, 10000, 200⟩

/-- The world in which the sell offer is taken with what the assembly returned. -/
def assembledTaken : World (coordinator .sample) :=
  (Call.exec environment (addTakerInfoAndMoveTable take assembled) (activated false)).2

def assembledOffer : TakenOffer :=
  (assembledTaken.state.takenOffers.find? offerId).get (by decide +kernel)

theorem assembled_moved : (Call.exec environment (moveOfferToActive makerBond offerId makerAddress)
    (ordered false)).1 = .ok 1700086400 := by
  decide +kernel

theorem take_offerId : take.offer.offerIdHex = offerId := rfl

/-- The trade of the sell order, with the escrow that is assembled for it. -/
def assembledSettlement : Settlement environment (Sample.order false) Sample.requirements where
  robohash := makerRobohash
  bond := makerBond
  offerId
  takerBondAddress := makerAddress
  duration := 1700086400
  feerate := 1 / 5
  fee := 200
  take
  escrow := assembled
  row := assembledOffer
  payoutData
  atMove := ordered false
  atAmounts := activated false
  atTake := activated false
  atPayout := assembledTaken
  robohashHex := by decide +kernel
  stored := by decide +kernel
  moved := assembled_moved
  listed := by rw [activated]
  amounts := by decide +kernel
  takesOffer := take_offerId
  stillListed := rfl
  taken := by decide +kernel
  found := by decide +kernel
  sameTrade := by decide +kernel
  paid := by decide +kernel

end Sample

open Call in
theorem conserved_of_created_sample :
    ∃ (p : PreparedEscrow .sample) (w : World (coordinator .sample)) (outputs : EscrowOutputs),
      exec Sample.environment (prepareEscrow Sample.take) (Sample.activated false) = (.ok p, w) ∧
      Conserved p outputs 30000000 30000000 Sample.assembledSettlement.payoutData := by
  have valid : (Sample.order false).validate 1700000000 := by decide +kernel
  have quoted : (exec Sample.environment (processOrder (Sample.order false))
      (startup .sample)).1 = .ok Sample.requirements := by decide +kernel
  have created : (exec Sample.environment (createEscrowPsbt Sample.take)
      (Sample.activated false)).1 = .ok Sample.assembled := by decide +kernel
  obtain ⟨p, w, -, prepared, -⟩ := createEscrowPsbt_ok (Prod.ext created rfl)
  have listed : ((Sample.activated false).state.activeMakerOffers.find? Sample.offerId).bind
      (ActiveMakerOffer.figures? .sample · Sample.take) =
        some ⟨[30000000], [30000000], 110000, 10000, 200⟩ := by decide +kernel
  obtain ⟨row, found, readable⟩ := prepareEscrow_ok prepared
  have figures : p.figures = ⟨[30000000], [30000000], 110000, 10000, 200⟩ := by
    change Table.find? _ Sample.offerId = _ at found
    rw [found] at listed
    exact Option.some.inj (readable.symm.trans listed)
  have maker : (exec Sample.environment p.makerData.inputSum w).1 = .ok 30000000 := by
    rw [computes_inputSum p.makerData Sample.environment w]
    change Word.inputSum true p.figures.makerValues = _
    rw [figures]
    decide +kernel
  have taker : (exec Sample.environment p.takerData.inputSum w).1 = .ok 30000000 := by
    rw [computes_inputSum p.takerData Sample.environment w]
    change Word.inputSum true p.figures.takerValues = _
    rw [figures]
    decide +kernel
  have coversMaker : deducted p.figures.escrowAmountMakerSat
      p.figures.escrowFeeSatPerParticipant ≤ (30000000 : UInt64).toNat := by
    rw [figures]
    decide
  have coversTaker : deducted p.figures.escrowAmountTakerSat
      p.figures.escrowFeeSatPerParticipant ≤ (30000000 : UInt64).toNat := by
    rw [figures]
    decide
  obtain ⟨outputs, -, conserved⟩ := conserved_of_created valid (Prod.ext quoted rfl)
    Sample.assembledSettlement prepared (Prod.ext created rfl) maker taker coversMaker
    coversTaker (.inl rfl)
  exact ⟨p, w, outputs, prepared, conserved⟩

end TapTrade
