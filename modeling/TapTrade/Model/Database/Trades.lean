import TapTrade.Model.Database.Offers

/-! # Taken offers

The methods of `CoordinatorDB` on `taken_offers`. The columns that change during a
trade have a `Change` each; a method that decides by a column reads it in a statement
of its own and writes in a later one, as the source does.
-/

namespace TapTrade

open Relational Resumption

variable {P : Platform}

namespace TakenOffer

def setPartialSig (isMaker : Bool) (partialSigHex : String) : Change TakenOffer where
  apply row := if isMaker then { row with musigPartialSigHexMaker := some partialSigHex }
    else { row with musigPartialSigHexTaker := some partialSigHex }
  keepsKey row := by cases isMaker <;> rfl

def setSignedEscrowPsbt (isMaker : Bool) (signedPsbtHex : String) : Change TakenOffer where
  apply row := if isMaker then { row with signedEscrowPsbtHexMaker := some signedPsbtHex }
    else { row with signedEscrowPsbtHexTaker := some signedPsbtHex }
  keepsKey row := by cases isMaker <;> rfl

def setHappy (isMaker : Bool) (happy : Option Int64) : Change TakenOffer where
  apply row := if isMaker then { row with makerHappy := happy }
    else { row with takerHappy := happy }
  keepsKey row := by cases isMaker <;> rfl

def setConfirmed : Change TakenOffer where
  apply row := { row with escrowPsbtIsConfirmed := some 1 }

def setEscrowOngoing : Change TakenOffer where
  apply row := { row with escrowOngoing := 1 }

def setEscrowWinner (winnerRobohash : String) : Change TakenOffer where
  apply row := { row with escrowOngoing := 0, escrowWinnerRobohash := some winnerRobohash }

def setPayoutPsbt (payoutPsbtHex : String) : Change TakenOffer where
  apply row := { row with payoutTransactionPsbtHex := some payoutPsbtHex }

/-- `CASE WHEN processing = 0 THEN 1 ELSE 0 END`. -/
def toggle (processing : Int64) : Int64 := if processing = 0 then 1 else 0

def toggleProcessing : Change TakenOffer where
  apply row := { row with processing := toggle row.processing }

end TakenOffer

/-- The row that `add_taker_info_and_move_table` binds. -/
def takenRow (publicOffer : AwaitingTakerOffer) (robohashTaker : Bytes)
    (tradeAndTakerInfo : OfferPsbtRequest) (escrowTxData : EscrowPsbt) : TakenOffer where
  offerId := publicOffer.offerId
  robohashMaker := some publicOffer.robohashMaker
  robohashTaker := some robohashTaker
  isBuyOrder := boolToSqlInt publicOffer.isBuyOrder
  amountSat := publicOffer.amountSat
  bondRatio := publicOffer.bondRatio.toInt64
  offerDurationTs := publicOffer.offerDurationTs
  bondAddressMaker := publicOffer.bondAddressMaker
  bondAddressTaker := tradeAndTakerInfo.offer.bondRequirements.bondAddress
  bondAmountSat := publicOffer.bondAmountSat
  bondTxHexMaker := publicOffer.bondTxHexMaker
  bondTxHexTaker := tradeAndTakerInfo.tradeData.signedBondHex
  payoutAddressMaker := publicOffer.payoutAddressMaker
  payoutAddressTaker := tradeAndTakerInfo.tradeData.payoutAddress
  taprootXonlyPubkeyHexMaker := publicOffer.taprootPubkeyHexMaker
  taprootXonlyPubkeyHexTaker := tradeAndTakerInfo.tradeData.taprootPubkeyHex
  musigPubNonceHexMaker := publicOffer.musigPubNonceHexMaker
  musigPubkeyCompressedHexMaker := publicOffer.musigPubkeyHexMaker
  musigPubNonceHexTaker := tradeAndTakerInfo.tradeData.musigPubNonceHex
  musigPubkeyCompressedHexTaker := tradeAndTakerInfo.tradeData.musigPubkeyHex
  escrowPsbtHex := escrowTxData.escrowPsbtHex
  escrowPsbtTxid := escrowTxData.escrowTxTxid
  escrowOutputDescriptor := some escrowTxData.escrowOutputDescriptor
  escrowPsbtIsConfirmed := some 0
  escrowOngoing := 0
  escrowTaprootPkCoordinator := some escrowTxData.coordinatorXonlyEscrowPk
  escrowAmountMakerSat := some escrowTxData.escrowAmountMakerSat.toInt64
  escrowAmountTakerSat := some escrowTxData.escrowAmountTakerSat.toInt64
  escrowFeePerParticipant := some escrowTxData.escrowFeeSatPerParticipant.toInt64
  processing := 0
  -- not bound by the statement, hence `NULL`
  musigPartialSigHexMaker := none
  musigPartialSigHexTaker := none
  signedEscrowPsbtHexMaker := none
  signedEscrowPsbtHexTaker := none
  makerHappy := none
  takerHappy := none
  escrowWinnerRobohash := none
  payoutTransactionPsbtHex := none

namespace Database

def insertTaken (db : Database) (row : TakenOffer) : Database :=
  { db with takenOffers := db.takenOffers.insertOrReplace row }

def deleteTaken (db : Database) (offerId : String) : Database :=
  { db with takenOffers := db.takenOffers.delete offerId }

/-- `UPDATE taken_offers SET .. WHERE offer_id = ?`. -/
def updateTaken (db : Database) (offerId : String) (change : Change TakenOffer) : Database :=
  { db with takenOffers := db.takenOffers.update offerId change }

end Database

def addTakerInfoAndMoveTable (tradeAndTakerInfo : OfferPsbtRequest) (escrowTxData : EscrowPsbt) :
    Act P Error Unit := do
  let publicOffer ← fetchAndDeleteOfferFromPublicOffersTable tradeAndTakerInfo.offer.offerIdHex
  let robohashTaker ← hexDecode tradeAndTakerInfo.tradeData.robohashHex
  execute fun db =>
    db.insertTaken (takenRow publicOffer robohashTaker tradeAndTakerInfo escrowTxData)

/-- The escrow output information of a taken offer. -/
def TakenOffer.escrowPsbt (row : TakenOffer) : EscrowPsbt where
  escrowTxTxid := row.escrowPsbtTxid
  escrowPsbtHex := row.escrowPsbtHex
  escrowOutputDescriptor := Column.text row.escrowOutputDescriptor
  coordinatorXonlyEscrowPk := Column.text row.escrowTaprootPkCoordinator
  escrowAmountMakerSat := (Column.i64 row.escrowAmountMakerSat).toUInt64
  escrowAmountTakerSat := (Column.i64 row.escrowAmountTakerSat).toUInt64
  escrowFeeSatPerParticipant := (Column.i64 row.escrowFeePerParticipant).toUInt64

def fetchEscrowOutputInformation (offerIdHex : String) : Act P Error (Option EscrowPsbt) := do
  let offer ← fetchOptional fun db => db.takenOffers.find? offerIdHex
  return offer.map TakenOffer.escrowPsbt

/-- `WHERE escrow_psbt_is_confirmed = 0`. -/
def fetchUnconfirmedEscrowTxids : Act P Error (List String) := do
  let rows ← fetchAll fun db =>
    db.takenOffers.select fun row => (Ternary.eq row.escrowPsbtIsConfirmed (some 0)).holds
  return rows.map TakenOffer.escrowPsbtTxid

def confirmBondTxids : List String → Act P Error Unit
  | [] => return ()
  | txid :: confirmedTxids => do
      execute fun db => { db with
        takenOffers := db.takenOffers.updateWhere (fun row => row.escrowPsbtTxid = txid)
          TakenOffer.setConfirmed }
      confirmBondTxids confirmedTxids

/-- `robohash_maker = ? OR robohash_taker = ?`. -/
def TakenOffer.names (robohash : Bytes) (row : TakenOffer) : Ternary :=
  (Ternary.eq row.robohashMaker (some robohash)).or (Ternary.eq row.robohashTaker (some robohash))

def isValidRobohashInTable (robohashHex offerId : String) : Act P Error Bool := do
  let robohash ← hexDecode robohashHex
  let row ← fetchOptional fun db =>
    (db.takenOffers.find? offerId).filter fun row => (row.names robohash).holds
  return row.isSome

/-- True for the maker, false for the taker, an error for anybody else. A trader that is
    both counts as the maker. -/
def isMakerInTakenOffers (offerId robohashHex : String) : Act P Error Bool := do
  let robohashBytes ← hexDecode robohashHex
  let row ← fetchOne fun db => db.takenOffers.find? offerId
  let isMaker : Bool := Column.blob row.robohashMaker = robohashBytes
  let isTaker : Bool := Column.blob row.robohashTaker = robohashBytes
  if !isMaker && !isTaker then
    Call.fail (.message "Robohash does not match maker or taker")
  else
    return isMaker

/-- False if the trader has already submitted a PSBT, true if it was inserted. -/
def insertSignedEscrowPsbt (signedEscrowPsbtData : PsbtSubmissionRequest) : Act P Error Bool := do
  let offerId := signedEscrowPsbtData.offerIdHex
  let isMaker ← isMakerInTakenOffers offerId signedEscrowPsbtData.robohashHex
  let status ← fetchOne fun db => db.takenOffers.find? offerId
  let isAlreadyThere :=
    if isMaker then status.signedEscrowPsbtHexMaker.isSome
    else status.signedEscrowPsbtHexTaker.isSome
  if isAlreadyThere then
    return false
  else
    execute fun db => db.updateTaken offerId
      (TakenOffer.setSignedEscrowPsbt isMaker signedEscrowPsbtData.signedPsbtHex)
    return true

def fetchBothSignedEscrowPsbts (offerIdHex : String) : Act P Error (Option (String × String)) := do
  let row ← fetchOne fun db => db.takenOffers.find? offerIdHex
  match row.signedEscrowPsbtHexMaker, row.signedEscrowPsbtHexTaker with
  | some maker, some taker => return some (maker, taker)
  | _, _ => return none

def fetchEscrowTxConfirmationStatus (offerId : String) : Act P Error Bool := do
  let status ← fetchOne fun db => db.takenOffers.find? offerId
  return Column.i64 status.escrowPsbtIsConfirmed = 1

def setTraderHappyField (offerId robohash : String) (isHappy : Bool) : Act P Error Unit := do
  let isMaker ← isMakerInTakenOffers offerId robohash
  execute fun db => db.updateTaken offerId (TakenOffer.setHappy isMaker (boolToSqlInt isHappy))
  if !isHappy then
    execute fun db => db.updateTaken offerId TakenOffer.setEscrowOngoing
  else
    return ()

def TakenOffer.happiness (row : TakenOffer) : TraderHappiness where
  makerHappy := row.makerHappy.map (· ≠ 0)
  takerHappy := row.takerHappy.map (· ≠ 0)
  escrowOngoing := row.escrowOngoing ≠ 0

def fetchTraderHappiness (offerId : String) : Act P Error TraderHappiness := do
  let row ← fetchOne fun db => db.takenOffers.find? offerId
  return row.happiness

def fetchEscrowResult (offerId : String) : Act P Error (Option String) := do
  let row ← fetchOne fun db => db.takenOffers.find? offerId
  return row.escrowWinnerRobohash

/-- The payout amounts of maker and taker. -/
def TakenOffer.payoutAmounts (row : TakenOffer) : UInt64 × UInt64 :=
  if Column.i64 row.isBuyOrder = 1 then
    ((Column.i64 row.escrowAmountTakerSat).toUInt64, (Column.i64 row.escrowAmountMakerSat).toUInt64)
  else
    ((Column.i64 row.escrowAmountMakerSat).toUInt64, (Column.i64 row.escrowAmountTakerSat).toUInt64)

/-- What `fetch_payout_data` makes of a row. -/
def TakenOffer.payoutData (P : Platform) (row : TakenOffer) : Except Error (PayoutData P) :=
  PayoutData.newFromStrings (Column.text row.escrowOutputDescriptor) row.payoutAddressMaker
    row.payoutAddressTaker row.payoutAmounts.1 row.payoutAmounts.2 row.musigPubNonceHexMaker
    row.musigPubNonceHexTaker row.musigPubkeyCompressedHexMaker row.musigPubkeyCompressedHexTaker

def fetchPayoutData (tradeId : String) : Act P Error (PayoutData P) := do
  let row ← Call.mapError (.context "SQL query to fetch escrow_ouput_descriptor failed.")
    (fetchOne fun db => db.takenOffers.find? tradeId)
  Call.ofExcept (row.payoutData P)

def insertKeyspendPayoutPsbt (offerIdHex payoutPsbtHex : String) : Act P Error Unit :=
  execute fun db => db.updateTaken offerIdHex (TakenOffer.setPayoutPsbt payoutPsbtHex)

def insertPartialSig (partialSigHex offerIdHex robohashHex : String) : Act P Error Unit := do
  let isMaker ← isMakerInTakenOffers offerIdHex robohashHex
  let status ← fetchOne fun db => db.takenOffers.find? offerIdHex
  let isAlreadyThere :=
    if isMaker then status.musigPartialSigHexMaker.isSome else status.musigPartialSigHexTaker.isSome
  if isAlreadyThere then
    Call.fail (.message "Partial sig already submitted")
  else
    execute fun db => db.updateTaken offerIdHex (TakenOffer.setPartialSig isMaker partialSigHex)

/-- What `fetch_keyspend_payout_information` makes of a row; `none` while a partial
    signature is missing. -/
def TakenOffer.keyspendContext (P : Platform) (row : TakenOffer) :
    Except Error (Option (KeyspendContext P)) :=
  match row.musigPartialSigHexMaker, row.musigPartialSigHexTaker with
  | some maker, some taker => do
      let context ← KeyspendContext.fromHexStr (P := P) maker taker row.musigPubNonceHexMaker
        row.musigPubNonceHexTaker row.musigPubkeyCompressedHexMaker
        row.musigPubkeyCompressedHexTaker (Column.text row.payoutTransactionPsbtHex)
        (Column.text row.escrowOutputDescriptor)
      return some context
  | _, _ => return none

def fetchKeyspendPayoutInformation (offerIdHex : String) :
    Act P Error (Option (KeyspendContext P)) := do
  let row ← fetchOne fun db => db.takenOffers.find? offerIdHex
  Call.ofExcept (row.keyspendContext P)

def fetchKeyspendPayoutPsbt (offerIdHex : String) : Act P Error (Option String) := do
  let row ← fetchOne fun db => db.takenOffers.find? offerIdHex
  return row.payoutTransactionPsbtHex

/-- Flips `processing` and returns whether it is set now. -/
def toggleProcessing (offerId : String) : Act P Error Bool := do
  let result ← Call.statement (fun _ => Error.database) fun db : Database =>
    ((db.takenOffers.find? offerId).map fun row => TakenOffer.toggle row.processing,
      db.updateTaken offerId TakenOffer.toggleProcessing)
  let processing ← Call.ofOption .rowNotFound result
  return processing = 1

def deleteCompleteOffer (offerId : String) : Act P Error Unit :=
  execute fun db => db.deleteTaken offerId

/-- The dispute of a row, as shown to the operator. -/
def TakenOffer.escrowCase (row : TakenOffer) : EscrowCase where
  offerId := row.offerId
  makerId := Hex.encode (Column.blob row.robohashMaker)
  takerId := Hex.encode (Column.blob row.robohashTaker)

/-- `WHERE escrow_ongoing = 1`. -/
def getOpenEscrows : Act P Error (List EscrowCase) := do
  let escrows ← fetchAll fun db => db.takenOffers.select fun row => row.escrowOngoing = 1
  return escrows.map TakenOffer.escrowCase

def resolveEscrow (offerId winnerRobohash : String) : Act P Error Unit :=
  execute fun db => db.updateTaken offerId (TakenOffer.setEscrowWinner winnerRobohash)

end TapTrade
