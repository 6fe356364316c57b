import TapTrade.Model.Frame
import TapTrade.Model.Sample

/-! # What buyer and seller are paid

The direction of an order decides twice: who locks the traded amount in the escrow, and
who is paid it. It travels through three tables as `1` or `NULL` and is decoded
differently in each. Both decisions are made as the source makes them; for a buy order
they are opposite, for a sell order they are the same.
-/

namespace TapTrade

open Relational Resumption

variable {P : Platform} {env : Environment (coordinator P)} {w w' : World (coordinator P)}

section Specs

open Call

theorem fetchAndDeleteOfferFromBondTable_ok {robohashHex : String} {offer : AwaitingBondOffer}
    (h : exec env (fetchAndDeleteOfferFromBondTable robohashHex) w = (.ok offer, w')) :
    ∃ robohash row, Hex.decode robohashHex = some robohash ∧
      w.state.makerRequests.find? robohash = some row ∧ AwaitingBondOffer.ofRow row = some offer ∧
      w'.state = w.state.deleteMakerRequest robohash := by
  obtain ⟨robohash, w₁, decoded, h₁⟩ := exec_bind_ok env w h
  obtain ⟨decodes, same⟩ := exec_hexDecode_ok decoded
  obtain ⟨row, w₂, fetched, h₂⟩ := exec_bind_ok env w₁ h₁
  obtain ⟨found, tick⟩ := exec_fetchOne_ok fetched
  obtain ⟨offer', w₃, read, h₃⟩ := exec_bind_ok env w₂ h₂
  obtain ⟨reads, same'⟩ := exec_ofOption_ok env w₂ read
  obtain ⟨u, w₄, deleted, h₄⟩ := exec_bind_ok env w₃ h₃
  have effect := exec_execute_ok deleted
  cases h₄
  subst effect same' tick same
  exact ⟨robohash, row, decodes, found, reads, rfl⟩

/-- What the move of a pending offer leaves in the order book. -/
theorem moveOfferToActive_ok {data : BondSubmissionRequest} {offerId takerBondAddress : String}
    {duration : UInt64}
    (h : exec env (moveOfferToActive data offerId takerBondAddress) w = (.ok duration, w')) :
    ∃ robohash row offer, Hex.decode data.robohashHex = some robohash ∧
      w.state.makerRequests.find? robohash = some row ∧ AwaitingBondOffer.ofRow row = some offer ∧
      w'.state.activeMakerOffers.find? offerId =
        some (activeRow offerId robohash offer data takerBondAddress) := by
  obtain ⟨offer, w₁, fetched, h₁⟩ := exec_bind_ok env w h
  obtain ⟨robohash, row, decodes, found, reads, -⟩ := fetchAndDeleteOfferFromBondTable_ok fetched
  obtain ⟨robohash', w₂, decoded, h₂⟩ := exec_bind_ok env w₁ h₁
  obtain ⟨decodes', same⟩ := exec_hexDecode_ok decoded
  obtain ⟨u, w₃, inserted, h₃⟩ := exec_bind_ok env w₂ h₂
  have effect := exec_execute_ok inserted
  cases h₃
  cases decodes.symm.trans decodes'
  subst effect same
  exact ⟨robohash, row, offer, decodes, found, reads, Table.find?_insertOrReplace_self _ _⟩

theorem getEscrowTxAmounts_ok {tradeId : String} {feerate : ℚ} {maker taker fee : UInt64}
    (h : exec env (getEscrowTxAmounts tradeId feerate) w = (.ok (maker, taker, fee), w')) :
    ∃ row amountSat bondAmountSat, w.state.activeMakerOffers.find? tradeId = some row ∧
      Column.u64? row.amountSat = some amountSat ∧
      Column.u64? row.bondAmountSat = some bondAmountSat ∧
      (maker, taker) = escrowAmounts (1 = Column.i64 row.isBuyOrder) amountSat bondAmountSat ∧
      fee = escrowFeePerParticipant P amountSat feerate := by
  obtain ⟨row, w₁, fetched, h₁⟩ := exec_bind_ok env w h
  obtain ⟨found, -⟩ := exec_fetchOne_ok fetched
  obtain ⟨amountSat, w₂, amount, h₂⟩ := exec_bind_ok env w₁ h₁
  obtain ⟨amountOk, -⟩ := exec_unwrap_ok env w₁ amount
  obtain ⟨bondAmountSat, w₃, bond, h₃⟩ := exec_bind_ok env w₂ h₂
  obtain ⟨bondOk, -⟩ := exec_unwrap_ok env w₂ bond
  cases h₃
  exact ⟨row, amountSat, bondAmountSat, found, amountOk, bondOk, rfl, rfl⟩

theorem fetchAndDeleteOfferFromPublicOffersTable_ok {offerIdHex : String}
    {offer : AwaitingTakerOffer}
    (h : exec env (fetchAndDeleteOfferFromPublicOffersTable offerIdHex) w = (.ok offer, w')) :
    ∃ row, w.state.activeMakerOffers.find? offerIdHex = some row ∧
      AwaitingTakerOffer.ofRow offerIdHex row = some offer := by
  obtain ⟨row, w₁, fetched, h₁⟩ := exec_bind_ok env w h
  obtain ⟨found, -⟩ := exec_fetchOne_ok fetched
  obtain ⟨offer', w₂, read, h₂⟩ := exec_bind_ok env w₁ h₁
  obtain ⟨reads, -⟩ := exec_ofOption_ok env w₁ read
  obtain ⟨u, w₃, deleted, h₃⟩ := exec_bind_ok env w₂ h₂
  cases h₃
  exact ⟨row, found, reads⟩

/-- What a take leaves among the taken offers. -/
theorem addTakerInfoAndMoveTable_ok {take : OfferPsbtRequest} {escrow : EscrowPsbt} {u : Unit}
    (h : exec env (addTakerInfoAndMoveTable take escrow) w = (.ok u, w')) :
    ∃ row offer robohashTaker, w.state.activeMakerOffers.find? take.offer.offerIdHex = some row ∧
      AwaitingTakerOffer.ofRow take.offer.offerIdHex row = some offer ∧
      w'.state.takenOffers.find? offer.offerId =
        some (takenRow offer robohashTaker take escrow) := by
  obtain ⟨offer, w₁, fetched, h₁⟩ := exec_bind_ok env w h
  obtain ⟨row, found, reads⟩ := fetchAndDeleteOfferFromPublicOffersTable_ok fetched
  obtain ⟨robohashTaker, w₂, decoded, h₂⟩ := exec_bind_ok env w₁ h₁
  have effect := exec_execute_ok h₂
  subst effect
  exact ⟨row, offer, robohashTaker, found, reads, Table.find?_insertOrReplace_self _ _⟩

theorem fetchPayoutData_ok {tradeId : String} {data : PayoutData P}
    (h : exec env (fetchPayoutData tradeId) w = (.ok data, w')) :
    ∃ row, w.state.takenOffers.find? tradeId = some row ∧ row.payoutData P = .ok data := by
  obtain ⟨row, w₁, fetched, h₁⟩ := exec_bind_ok env w h
  obtain ⟨found, -⟩ := exec_fetchOne_ok (exec_mapError_ok env w fetched)
  exact ⟨row, found, (exec_ofExcept_ok env w₁ h₁).1⟩

end Specs

theorem payoutAmounts_of_payoutData {row : TakenOffer} {data : PayoutData P}
    (read : row.payoutData P = .ok data) :
    (data.payoutAmountMaker, data.payoutAmountTaker) = row.payoutAmounts := by
  simp only [TakenOffer.payoutData, PayoutData.newFromStrings, bind_eq_ok] at read
  obtain ⟨_, -, _, -, _, -, _, -, _, -, _, -, rest⟩ := read
  cases rest
  rfl

/-- A trade from the activation of the offer to the reading of its payout data. Others may
    act in between, as long as they leave the offer and then the trade as they are. -/
structure Settlement (env : Environment (coordinator P)) (order : OfferRequest)
    (requirements : BondRequirementResponse) where
  robohash : Bytes
  bond : BondSubmissionRequest
  offerId : String
  takerBondAddress : String
  duration : UInt64
  feerate : ℚ
  fee : UInt64
  take : OfferPsbtRequest
  escrow : EscrowPsbt
  row : TakenOffer
  payoutData : PayoutData P
  /-- The worlds in which the four steps are made. -/
  atMove : World (coordinator P)
  atAmounts : World (coordinator P)
  atTake : World (coordinator P)
  atPayout : World (coordinator P)
  robohashHex : Hex.decode bond.robohashHex = some robohash
  stored : atMove.state.makerRequests.find? robohash =
    some (makerRequestRow robohash order requirements)
  moved : (Call.exec env (moveOfferToActive bond offerId takerBondAddress) atMove).1 = .ok duration
  listed : atAmounts.state.activeMakerOffers.find? offerId =
    (Call.exec env (moveOfferToActive bond offerId takerBondAddress)
      atMove).2.state.activeMakerOffers.find? offerId
  amounts : (Call.exec env (getEscrowTxAmounts offerId feerate) atAmounts).1 =
    .ok (escrow.escrowAmountMakerSat, escrow.escrowAmountTakerSat, fee)
  takesOffer : take.offer.offerIdHex = offerId
  stillListed : atTake.state.activeMakerOffers.find? offerId =
    atAmounts.state.activeMakerOffers.find? offerId
  taken : (Call.exec env (addTakerInfoAndMoveTable take escrow) atTake).1 = .ok ()
  found : atPayout.state.takenOffers.find? offerId = some row
  sameTrade : ((Call.exec env (addTakerInfoAndMoveTable take escrow)
    atTake).2.state.takenOffers.find? offerId).map TakenOffer.trade = some row.trade
  paid : (Call.exec env (fetchPayoutData offerId) atPayout).1 = .ok payoutData

/-- The buyer is paid the traded amount and its bond, the seller its bond. The maker is
    the buyer of a buy order. -/
def BuyerGetsTheCoins (order : OfferRequest) (requirements : BondRequirementResponse)
    (payoutData : PayoutData P) : Prop :=
  let buyerGets := if order.isBuyOrder then payoutData.payoutAmountMaker
    else payoutData.payoutAmountTaker
  let sellerGets := if order.isBuyOrder then payoutData.payoutAmountTaker
    else payoutData.payoutAmountMaker
  buyerGets.toNat = order.amountSatoshi.toNat + requirements.lockingAmountSat.toNat ∧
    sellerGets.toNat = requirements.lockingAmountSat.toNat

namespace Settlement

variable {order : OfferRequest} {requirements : BondRequirementResponse}

/-- The row that is listed for the order. -/
theorem listed_row (s : Settlement env order requirements) :
    ∃ row, s.atAmounts.state.activeMakerOffers.find? s.offerId = some row ∧
      row.isBuyOrder = boolToSqlInt order.isBuyOrder ∧
      row.amountSat = order.amountSatoshi.toInt64 ∧
      row.bondAmountSat = requirements.lockingAmountSat.toInt64 := by
  obtain ⟨robohash, pending, offer, decodes, found, reads, active⟩ :=
    moveOfferToActive_ok (Prod.ext s.moved rfl)
  cases s.robohashHex.symm.trans decodes
  cases s.stored.symm.trans found
  obtain ⟨direction, amount, -, bond⟩ := AwaitingBondOffer.ofRow_eq_some reads
  refine ⟨_, s.listed.trans active, ?_, ?_, ?_⟩
  · simp only [activeRow, direction, makerRequestRow, Column.bool_boolToSqlInt]
  · simp only [activeRow, amount, makerRequestRow, UInt64.toUInt64_toInt64]
  · simp only [activeRow, bond, makerRequestRow, UInt64.toUInt64_toInt64]

/-- What the traders lock is decided by the direction of the order. -/
theorem locked (s : Settlement env order requirements) :
    (s.escrow.escrowAmountMakerSat, s.escrow.escrowAmountTakerSat) =
        escrowAmounts order.isBuyOrder order.amountSatoshi requirements.lockingAmountSat ∧
      order.amountSatoshi.toNat < 2 ^ 63 ∧ requirements.lockingAmountSat.toNat < 2 ^ 63 := by
  obtain ⟨row, listed, direction, amount, bond⟩ := s.listed_row
  obtain ⟨row', amountSat, bondAmountSat, listed', amountOk, bondOk, escrow, -⟩ :=
    getEscrowTxAmounts_ok (Prod.ext s.amounts rfl)
  cases listed.symm.trans listed'
  rw [amount] at amountOk
  rw [bond] at bondOk
  obtain ⟨rfl, smallAmount⟩ := Column.u64?_toInt64 amountOk
  obtain ⟨rfl, smallBond⟩ := Column.u64?_toInt64 bondOk
  have decoded : decide (1 = Column.i64 row.isBuyOrder) = order.isBuyOrder := by
    rw [direction]
    cases order.isBuyOrder <;> decide
  rw [decoded] at escrow
  exact ⟨escrow, smallAmount, smallBond⟩

/-- What the traders are paid is decided by the direction of the order, too. -/
theorem paidOut (s : Settlement env order requirements) :
    (s.payoutData.payoutAmountMaker, s.payoutData.payoutAmountTaker) =
      if order.isBuyOrder then (s.escrow.escrowAmountTakerSat, s.escrow.escrowAmountMakerSat)
      else (s.escrow.escrowAmountMakerSat, s.escrow.escrowAmountTakerSat) := by
  obtain ⟨row, listed, direction, -, -⟩ := s.listed_row
  obtain ⟨row', offer, robohashTaker, listed', reads, inserted⟩ :=
    addTakerInfoAndMoveTable_ok (Prod.ext s.taken rfl)
  rw [s.takesOffer] at listed' reads
  cases (s.stillListed.trans listed).symm.trans listed'
  have sameId := (AwaitingTakerOffer.ofRow_eq_some reads).1
  have trade := s.sameTrade
  rw [← sameId, inserted, Option.map_some, Option.some.injEq] at trade
  obtain ⟨row'', found, read⟩ := fetchPayoutData_ok (Prod.ext s.paid rfl)
  cases s.found.symm.trans found
  rw [payoutAmounts_of_payoutData read]
  change s.row.trade.payoutAmounts = _
  rw [← trade]
  have stored : offer.isBuyOrder = order.isBuyOrder :=
    AwaitingTakerOffer.direction_of_ofRow reads direction
  simp only [TakenOffer.payoutAmounts, TakenOffer.trade, takenRow, Column.i64_boolToSqlInt, stored]
  cases order.isBuyOrder <;> simp [Column.i64]

/-- The buyer gets the coins iff it is the maker, or there are none to get. -/
theorem buyerGetsTheCoins_iff (s : Settlement env order requirements) :
    BuyerGetsTheCoins order requirements s.payoutData ↔
      order.isBuyOrder = true ∨ order.amountSatoshi = 0 := by
  obtain ⟨locked, smallAmount, smallBond⟩ := s.locked
  have paid := s.paidOut
  have sum := toNat_add_of_small smallAmount smallBond
  have noCoins : order.amountSatoshi = 0 ↔ order.amountSatoshi.toNat = 0 := by
    rw [← UInt64.toNat_inj, UInt64.toNat_zero]
  cases direction : order.isBuyOrder with
  | true =>
      -- the seller is the taker, who locks the coins that the maker is paid
      simp only [direction, escrowAmounts, Bool.not_true, Bool.false_eq_true, if_true, if_false,
        Prod.mk.injEq] at locked paid
      simp [BuyerGetsTheCoins, direction, paid, locked, sum]
  | false =>
      -- the seller is the maker, who locks the coins and is paid them back
      simp only [direction, escrowAmounts, Bool.not_false, Bool.false_eq_true, if_true, if_false,
        Prod.mk.injEq] at locked paid
      simp only [BuyerGetsTheCoins, direction, Bool.false_eq_true, if_false, paid, locked, sum,
        noCoins, false_or]
      omega

end Settlement

namespace Sample

/-- The world in which the order is pending. -/
def ordered (isBuyOrder : Bool) : World (coordinator .sample) :=
  (Call.exec environment (processOrder (order isBuyOrder)) (startup .sample)).2

def requirements : BondRequirementResponse := ⟨makerAddress, 10000, 20200⟩

/-- The world in which the offer is listed. -/
def activated (isBuyOrder : Bool) : World (coordinator .sample) :=
  (Call.exec environment (moveOfferToActive makerBond offerId makerAddress)
    (ordered isBuyOrder)).2

def escrow (isBuyOrder : Bool) : EscrowPsbt :=
  let amounts := escrowAmounts isBuyOrder 100000 10000
  ⟨"e5c1", "70736274ff", "tr()", coordinatorPk, amounts.1, amounts.2, 200⟩

/-- The world in which the offer is taken. -/
def taken (isBuyOrder : Bool) : World (coordinator .sample) :=
  (Call.exec environment (addTakerInfoAndMoveTable take (escrow isBuyOrder))
    (activated isBuyOrder)).2

/-- The row of the taken offer. -/
def takenOffer (isBuyOrder : Bool) : TakenOffer :=
  ((taken isBuyOrder).state.takenOffers.find? offerId).get (by cases isBuyOrder <;> decide +kernel)

/-- The maker is paid the coins in both directions. -/
def payoutData : PayoutData .sample where
  escrowOutputDescriptor := descriptor
  payoutAddressMaker := makerAddress
  payoutAddressTaker := takerAddress
  payoutAmountMaker := 110000
  payoutAmountTaker := 10000
  aggMusigNonce := (makerNonce, takerNonce)
  aggregatedMusigPubkeyCtxHex := "0279"

instance : DecidableEq Platform.sample.Address := inferInstanceAs (DecidableEq String)

instance : DecidableEq Platform.sample.MusigAggNonce :=
  inferInstanceAs (DecidableEq (String × String))

instance : DecidableEq (PayoutData .sample) := fun a b =>
  decidable_of_iff
    (a.escrowOutputDescriptor = b.escrowOutputDescriptor ∧
      a.payoutAddressMaker = b.payoutAddressMaker ∧
      a.payoutAddressTaker = b.payoutAddressTaker ∧
      a.payoutAmountMaker = b.payoutAmountMaker ∧ a.payoutAmountTaker = b.payoutAmountTaker ∧
      a.aggMusigNonce = b.aggMusigNonce ∧
      a.aggregatedMusigPubkeyCtxHex = b.aggregatedMusigPubkeyCtxHex)
    (by cases a; cases b; simp)

/-- The trade of the order, without anybody acting in between. -/
def settlement (isBuyOrder : Bool) : Settlement environment (order isBuyOrder) requirements where
  robohash := [0xa3, 0xf1, 0xf1, 0xf0, 0xe2, 0xf3, 0xf4, 0xf5]
  bond := makerBond
  offerId
  takerBondAddress := makerAddress
  duration := 1700086400
  feerate := 1 / 5
  fee := 200
  take
  escrow := escrow isBuyOrder
  row := takenOffer isBuyOrder
  payoutData
  atMove := ordered isBuyOrder
  atAmounts := activated isBuyOrder
  atTake := activated isBuyOrder
  atPayout := taken isBuyOrder
  robohashHex := by decide +kernel
  stored := by cases isBuyOrder <;> decide +kernel
  moved := by cases isBuyOrder <;> decide +kernel
  listed := by rw [activated]
  amounts := by cases isBuyOrder <;> decide +kernel
  takesOffer := rfl
  stillListed := rfl
  taken := by cases isBuyOrder <;> decide +kernel
  found := by cases isBuyOrder <;> decide +kernel
  sameTrade := by cases isBuyOrder <;> decide +kernel
  paid := by cases isBuyOrder <;> decide +kernel

end Sample

theorem buyerGetsTheCoins_iff_sample :
    BuyerGetsTheCoins (Sample.order true) Sample.requirements (Sample.settlement true).payoutData ↔
      (Sample.order true).isBuyOrder = true ∨ (Sample.order true).amountSatoshi = 0 :=
  (Sample.settlement true).buyerGetsTheCoins_iff

/-- The taker of a sell order buys the coins, and the maker is paid them. -/
theorem seller_gets_the_coins :
    ¬ BuyerGetsTheCoins (Sample.order false) Sample.requirements
      (Sample.settlement false).payoutData := by
  intro gets
  exact absurd gets.1 (by decide)

end TapTrade
