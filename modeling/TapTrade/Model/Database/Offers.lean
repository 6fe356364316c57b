import TapTrade.Model.CoordinatorUtils
import TapTrade.Model.Interface

/-! # Pending requests and the order book

The methods of `CoordinatorDB` on `maker_requests` and `active_maker_offers`, one
`execute` or `fetch` for every SQL statement of the source, in its order. A move
between tables is a `SELECT`, a `DELETE` and an `INSERT` of their own.
-/

namespace TapTrade

open Relational Resumption

variable {P : Platform}

/-- `database::AwaitingBondOffer`. -/
structure AwaitingBondOffer where
  robohashHex : String
  isBuyOrder : Bool
  amountSatoshi : UInt64
  bondRatio : UInt8
  offerDurationTs : UInt64
  bondAddress : String
  bondAmountSat : UInt64
  escrowLockingInputAmountWithoutTradeSum : UInt64
  deriving DecidableEq, Repr

/-- `database::AwaitingTakerOffer`. -/
structure AwaitingTakerOffer where
  offerId : String
  robohashMaker : Bytes
  isBuyOrder : Bool
  amountSat : Int64
  bondRatio : Int32
  offerDurationTs : Int64
  bondAddressMaker : String
  bondAmountSat : Int64
  bondTxHexMaker : String
  payoutAddressMaker : String
  taprootPubkeyHexMaker : String
  musigPubNonceHexMaker : String
  musigPubkeyHexMaker : String
  deriving DecidableEq, Repr

/-- The row that `insert_new_maker_request` binds. -/
def makerRequestRow (robohash : Bytes) (order : OfferRequest)
    (bondRequirements : BondRequirementResponse) : MakerRequest where
  robohash
  isBuyOrder := boolToSqlInt order.isBuyOrder
  amountSat := order.amountSatoshi.toInt64
  bondRatio := order.bondRatio.toUInt64.toInt64
  offerDurationTs := order.offerDurationTs.toInt64
  bondAddress := bondRequirements.bondAddress
  bondAmountSat := bondRequirements.lockingAmountSat.toInt64
  escrowLockingInputAmountWithoutTradeSum :=
    bondRequirements.escrowLockingInputAmountWithoutTradeSum.toInt64

namespace Database

def insertMakerRequest (db : Database) (row : MakerRequest) : Database :=
  { db with makerRequests := db.makerRequests.insertOrReplace row }

def deleteMakerRequest (db : Database) (robohash : Bytes) : Database :=
  { db with makerRequests := db.makerRequests.delete robohash }

def insertActive (db : Database) (row : ActiveMakerOffer) : Database :=
  { db with activeMakerOffers := db.activeMakerOffers.insertOrReplace row }

def deleteActive (db : Database) (offerId : String) : Database :=
  { db with activeMakerOffers := db.activeMakerOffers.delete offerId }

end Database

def insertNewMakerRequest (order : OfferRequest) (bondRequirements : BondRequirementResponse) :
    Act P Error Unit := do
  let robohash ← hexDecode order.robohashHex
  execute fun db => db.insertMakerRequest (makerRequestRow robohash order bondRequirements)

/-- The requirements that a pending row imposes on the bond of its maker. -/
def MakerRequest.bondRequirements (row : MakerRequest) : BondRequirements where
  bondAddress := row.bondAddress
  lockingAmountSat := row.bondAmountSat.toUInt64
  minInputSumSat := row.amountSat.toUInt64

def fetchBondRequirements (robohash : String) : Act P Error BondRequirements := do
  let robohash ← hexDecode robohash
  let makerRequest ← fetchOne fun db => db.makerRequests.find? robohash
  return makerRequest.bondRequirements

/-- The offer as it is read from its pending row, or the column that does not fit. -/
def AwaitingBondOffer.ofRow (row : MakerRequest) : Option AwaitingBondOffer := do
  let bondRatio ← Column.u8? row.bondRatio
  return {
    robohashHex := Hex.encode row.robohash
    isBuyOrder := Column.bool row.isBuyOrder
    amountSatoshi := row.amountSat.toUInt64
    bondRatio
    offerDurationTs := row.offerDurationTs.toUInt64
    bondAddress := row.bondAddress
    bondAmountSat := row.bondAmountSat.toUInt64
    -- the source reads the seventh column twice and never the eighth
    escrowLockingInputAmountWithoutTradeSum := row.bondAmountSat.toUInt64 }

theorem AwaitingBondOffer.ofRow_eq_some {row : MakerRequest} {offer : AwaitingBondOffer}
    (read : ofRow row = some offer) :
    offer.isBuyOrder = Column.bool row.isBuyOrder ∧
      offer.amountSatoshi = row.amountSat.toUInt64 ∧
      offer.bondAddress = row.bondAddress ∧
      offer.bondAmountSat = row.bondAmountSat.toUInt64 := by
  obtain ⟨ratio, -, rest⟩ := Option.bind_eq_some_iff.mp read
  cases rest
  exact ⟨rfl, rfl, rfl, rfl⟩

def fetchAndDeleteOfferFromBondTable (robohashHex : String) : Act P Error AwaitingBondOffer := do
  let robohash ← hexDecode robohashHex
  let row ← fetchOne fun db => db.makerRequests.find? robohash
  let awaitingBondOffer ← Call.ofOption .columnDecode (AwaitingBondOffer.ofRow row)
  execute fun db => db.deleteMakerRequest robohash
  return awaitingBondOffer

/-- The row that `move_offer_to_active` binds. -/
def activeRow (offerId : String) (robohash : Bytes) (offer : AwaitingBondOffer)
    (data : BondSubmissionRequest) (takerBondAddress : String) : ActiveMakerOffer where
  offerId
  robohash := some robohash
  isBuyOrder := boolToSqlInt offer.isBuyOrder
  amountSat := offer.amountSatoshi.toInt64
  bondRatio := offer.bondRatio.toUInt64.toInt64
  offerDurationTs := offer.offerDurationTs.toInt64
  bondAddress := offer.bondAddress
  bondAmountSat := offer.bondAmountSat.toInt64
  escrowLockingInputAmountWithoutTradeSum :=
    some offer.escrowLockingInputAmountWithoutTradeSum.toInt64
  bondTxHex := data.signedBondHex
  payoutAddress := data.payoutAddress
  changeAddressMaker := data.clientChangeAddress
  escrowInputsHexMakerCsv := data.bdkPsbtInputsHexCsv
  taprootPubkeyHexMaker := data.taprootPubkeyHex
  musigPubNonceHex := data.musigPubNonceHex
  musigPubkeyHex := data.musigPubkeyHex
  takerBondAddress := some takerBondAddress

def moveOfferToActive (data : BondSubmissionRequest) (offerId takerBondAddress : String) :
    Act P Error UInt64 := do
  let remainingOfferInformation ← fetchAndDeleteOfferFromBondTable data.robohashHex
  let robohash ← hexDecode data.robohashHex
  execute fun db =>
    db.insertActive (activeRow offerId robohash remainingOfferInformation data takerBondAddress)
  return remainingOfferInformation.offerDurationTs

/-- `is_buy_order = ? AND amount_sat BETWEEN ? AND ?`. -/
def suits (requestedOffer : OffersRequest) (row : ActiveMakerOffer) : Ternary :=
  (Ternary.eq row.isBuyOrder (some (if requestedOffer.buyOffers then 1 else 0))).and
    (Ternary.between row.amountSat requestedOffer.amountMinSat.toInt64
      requestedOffer.amountMaxSat.toInt64)

/-- What the order book shows of an offer. -/
def ActiveMakerOffer.publicOffer (row : ActiveMakerOffer) : PublicOffer where
  offerIdHex := row.offerId
  amountSat := row.amountSat.toUInt64
  bondRequirements := {
    bondAddress := Column.text row.takerBondAddress
    lockingAmountSat := row.bondAmountSat.toUInt64
    escrowLockingInputAmountWithoutTradeSum :=
      (Column.i64 row.escrowLockingInputAmountWithoutTradeSum).toUInt64 }

def fetchSuitableOffers (requestedOffer : OffersRequest) :
    Act P Error (Option (List PublicOffer)) := do
  let fetchedOffers ← fetchAll fun db =>
    db.activeMakerOffers.select fun row => (suits requestedOffer row).holds
  let availableOffers := fetchedOffers.map ActiveMakerOffer.publicOffer
  if availableOffers.isEmpty then return none else return some availableOffers

/-- The requirements that an offer imposes on the bond of its taker. -/
def ActiveMakerOffer.takerBondRequirements (row : ActiveMakerOffer) : BondRequirements where
  bondAddress := Column.text row.takerBondAddress
  lockingAmountSat := row.bondAmountSat.toUInt64
  minInputSumSat := row.amountSat.toUInt64

def fetchTakerBondRequirements (offerIdHex : String) : Act P Error BondRequirements := do
  let row ← fetchOne fun db => db.activeMakerOffers.find? offerIdHex
  return row.takerBondRequirements

/-- The offer as it is read from the order book, or the column that does not fit. -/
def AwaitingTakerOffer.ofRow (offerIdHex : String) (row : ActiveMakerOffer) :
    Option AwaitingTakerOffer := do
  let isBuyOrder ← Column.i32? (Column.i64 row.isBuyOrder)
  let bondRatio ← Column.i32? row.bondRatio
  return {
    offerId := offerIdHex
    robohashMaker := Column.blob row.robohash
    isBuyOrder := isBuyOrder ≠ 0
    amountSat := row.amountSat
    bondRatio
    offerDurationTs := row.offerDurationTs
    bondAddressMaker := row.bondAddress
    bondAmountSat := row.bondAmountSat
    bondTxHexMaker := row.bondTxHex
    payoutAddressMaker := row.payoutAddress
    taprootPubkeyHexMaker := row.taprootPubkeyHexMaker
    musigPubNonceHexMaker := row.musigPubNonceHex
    musigPubkeyHexMaker := row.musigPubkeyHex }

theorem AwaitingTakerOffer.ofRow_eq_some {offerIdHex : String} {row : ActiveMakerOffer}
    {offer : AwaitingTakerOffer} (read : ofRow offerIdHex row = some offer) :
    offer.offerId = offerIdHex ∧ offer.musigPubkeyHexMaker = row.musigPubkeyHex ∧
      ∃ direction, Column.i32? (Column.i64 row.isBuyOrder) = some direction ∧
        offer.isBuyOrder = decide (direction ≠ 0) := by
  simp only [ofRow, Option.bind_eq_bind, Option.bind_eq_some_iff] at read
  obtain ⟨direction, direction32, ratio, -, rest⟩ := read
  cases rest
  exact ⟨rfl, rfl, direction, direction32, rfl⟩

theorem AwaitingTakerOffer.amounts_of_ofRow {offerIdHex : String} {row : ActiveMakerOffer}
    {offer : AwaitingTakerOffer} (read : ofRow offerIdHex row = some offer) :
    offer.amountSat = row.amountSat ∧ offer.bondAmountSat = row.bondAmountSat := by
  simp only [ofRow, Option.bind_eq_bind, Option.bind_eq_some_iff] at read
  obtain ⟨direction, -, ratio, -, rest⟩ := read
  cases rest
  exact ⟨rfl, rfl⟩

theorem AwaitingTakerOffer.robohashMaker_of_ofRow {offerIdHex : String} {row : ActiveMakerOffer}
    {offer : AwaitingTakerOffer} (read : ofRow offerIdHex row = some offer) :
    offer.robohashMaker = Column.blob row.robohash := by
  simp only [ofRow, Option.bind_eq_bind, Option.bind_eq_some_iff] at read
  obtain ⟨direction, -, ratio, -, rest⟩ := read
  cases rest
  rfl

/-- A stored direction is read back as it was. -/
theorem AwaitingTakerOffer.direction_of_ofRow {offerIdHex : String} {row : ActiveMakerOffer}
    {offer : AwaitingTakerOffer} {isBuyOrder : Bool} (read : ofRow offerIdHex row = some offer)
    (stored : row.isBuyOrder = boolToSqlInt isBuyOrder) : offer.isBuyOrder = isBuyOrder := by
  obtain ⟨-, -, direction, direction32, same⟩ := ofRow_eq_some read
  rw [stored] at direction32
  rw [same]
  cases isBuyOrder <;> cases direction32 <;> decide

def fetchAndDeleteOfferFromPublicOffersTable (offerIdHex : String) :
    Act P Error AwaitingTakerOffer := do
  let row ← fetchOne fun db => db.activeMakerOffers.find? offerIdHex
  let awaitingTakerOffer ← Call.ofOption .columnDecode (AwaitingTakerOffer.ofRow offerIdHex row)
  execute fun db => db.deleteActive offerIdHex
  return awaitingTakerOffer

/-- The maker's bond as the monitoring loop sees it. -/
def ActiveMakerOffer.monitoringBond (row : ActiveMakerOffer) : MonitoringBond where
  bondTxHex := row.bondTxHex
  robot := Column.blob row.robohash
  tradeIdHex := row.offerId
  requirements := {
    bondAddress := row.bondAddress
    lockingAmountSat := row.bondAmountSat.toUInt64
    minInputSumSat := row.amountSat.toUInt64 }
  table := .orderbook

def fetchAllBonds : Act P Error (List MonitoringBond) := do
  let rows ← fetchAll fun db => db.activeMakerOffers.rows
  return rows.map ActiveMakerOffer.monitoringBond

def removeViolatingBond (bond : MonitoringBond) : Act P Error Unit :=
  if bond.table = .orderbook then
    execute fun db => db.deleteActive bond.tradeIdHex
  else
    Call.fail (.message "Invalid table type when trying to remove violating bond from db")

/-- `(amount_sat as f64 * (coordinator_feerate / 100.0)) as u64`. -/
def escrowFeePerParticipant (P : Platform) (amountSat : UInt64) (coordinatorFeerate : ℚ) : UInt64 :=
  floorU64 (P.roundF64 (P.roundF64 amountSat.toNat * P.roundF64 (coordinatorFeerate / 100)))

/-- What maker and taker lock: the seller the traded amount and the bond, the buyer
    the bond. -/
def escrowAmounts (isBuyOrder : Bool) (amountSat bondAmountSat : UInt64) : UInt64 × UInt64 :=
  if !isBuyOrder then (amountSat + bondAmountSat, bondAmountSat)
  else (bondAmountSat, amountSat + bondAmountSat)

/-- The amounts of maker and taker and the fee of each. `row.get` panics on a negative
    amount; the sum of two amounts that are not negative fits into 64 bits. -/
def getEscrowTxAmounts (tradeId : String) (coordinatorFeerate : ℚ) :
    Act P Error (UInt64 × UInt64 × UInt64) := do
  let row ← fetchOne fun db => db.activeMakerOffers.find? tradeId
  let amountSat ← Call.unwrap (Column.u64? row.amountSat)
  let isBuyOrder := 1 = Column.i64 row.isBuyOrder
  let bondAmountSat ← Call.unwrap (Column.u64? row.bondAmountSat)
  let amounts := escrowAmounts isBuyOrder amountSat bondAmountSat
  return (amounts.1, amounts.2, escrowFeePerParticipant P amountSat coordinatorFeerate)

def fetchMakerEscrowPsbtData (tradeId : String) :
    Act P Error (EscrowPsbtConstructionData P) := do
  let row ← fetchOne fun db => db.activeMakerOffers.find? tradeId
  let deserializedInputs ← Call.ofExcept (csvHexToBdkInput P row.escrowInputsHexMakerCsv)
  let changeAddress ← Call.ofExcept
    (parse "Address::from_str" P.addressFromStr row.changeAddressMaker)
  return {
    escrowInputUtxos := deserializedInputs
    changeAddress
    taprootXonlyPubkeyHex := row.taprootPubkeyHexMaker
    musigPubkeyCompressedHex := row.musigPubkeyHex }

end TapTrade
