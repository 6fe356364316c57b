import TapTrade.Model.EscrowPsbt

/-! # The handlers of the coordinator

`coordinator/mod.rs`, with the checks of `check_offer_and_confirmation` and the
validation of an offer request that `receive_order` makes before it calls
`process_order`.
-/

namespace TapTrade

open Relational Resumption

variable {P : Platform}

/-- `validate_timestamp` at the given time. -/
def validateTimestamp (offerDurationTs unixTimestamp : UInt64) : Bool :=
  !(offerDurationTs < unixTimestamp + 10800) && !(offerDurationTs > unixTimestamp + 604800)

/-- `offer.validate().is_ok()` at the given time. -/
def OfferRequest.validate (offer : OfferRequest) (unixTimestamp : UInt64) : Bool :=
  10000 ≤ offer.amountSatoshi && offer.amountSatoshi ≤ 20000000 &&
    2 ≤ offer.bondRatio && offer.bondRatio ≤ 50 &&
    validateTimestamp offer.offerDurationTs unixTimestamp

/-- `((coordinator_feerate * offer.amount_satoshi as f64) / 100.0) as u64`. -/
def coordinatorFee (P : Platform) (amountSatoshi : UInt64) : UInt64 :=
  let product := P.roundF64 (P.coordinatorFeerate * P.roundF64 amountSatoshi.toNat)
  floorU64 (P.roundF64 (product / 100))

def processOrder (offer : OfferRequest) : Act P Error BondRequirementResponse := do
  let bondAmount := (← U64.mul offer.bondRatio.toUInt64 offer.amountSatoshi) / 100
  let coordinatorFee := coordinatorFee P offer.amountSatoshi
  let absoluteTxFee := 5000
  let escrowLockingInputAmountWithoutTradeSum ←
    U64.add (← U64.add (← U64.add bondAmount coordinatorFee) absoluteTxFee) 5000
  let bondAddress ← tryAsk .getNewAddress id
  let bondRequirements : BondRequirementResponse := {
    bondAddress
    lockingAmountSat := bondAmount
    escrowLockingInputAmountWithoutTradeSum }
  insertNewMakerRequest offer bondRequirements
  return bondRequirements

/-- `receive_order`; `none` is the answer to a request that does not validate. -/
def receiveOrder (offer : OfferRequest) : Act P Error (Option BondRequirementResponse) := do
  if offer.validate (← ask .now) then
    return some (← processOrder offer)
  else
    return none

def handleMakerBond (payload : BondSubmissionRequest) : Act P BondError OfferActivatedResponse := do
  let bondRequirements ← Call.mapError (fun _ => .bondNotFound)
    (fetchBondRequirements payload.robohashHex)
  Call.mapError .invalidBond
    (tryAsk (.validateBondTxHex payload.signedBondHex bondRequirements) id)
  let offerIdHex ← ask (.generateRandomOrderId 16)
  let newTakerBondAddress ← Call.mapError .coordinatorError (tryAsk .getNewAddress id)
  let bondLockedUntilTimestamp ← Call.mapError .coordinatorError
    (moveOfferToActive payload offerIdHex newTakerBondAddress)
  return { bondLockedUntilTimestamp, offerIdHex }

def getPublicOffers (request : OffersRequest) : Act P FetchOffersError PublicOffers := do
  let offers ← Call.mapError .database (fetchSuitableOffers request)
  if offers.isNone then Call.fail .noOffersAvailable else return { offers }

/-- What `handle_taker_bond` does before it touches the order book: the checks of the
    taker's bond and the construction of the escrow locking transaction. -/
def escrowForTaker (payload : OfferPsbtRequest) : Act P BondError EscrowPsbt := do
  let bondRequirements ← Call.mapError (fun _ => .bondNotFound)
    (fetchTakerBondRequirements payload.offer.offerIdHex)
  Call.mapError .invalidBond
    (tryAsk (.validateBondTxHex payload.tradeData.signedBondHex bondRequirements) id)
  Call.mapError .coordinatorError (createEscrowPsbt payload)

def EscrowPsbt.offerTaken (escrow : EscrowPsbt) : OfferTakenResponse where
  escrowPsbtHex := escrow.escrowPsbtHex
  escrowOutputDescriptor := escrow.escrowOutputDescriptor
  escrowAmountMakerSat := escrow.escrowAmountMakerSat
  escrowAmountTakerSat := escrow.escrowAmountTakerSat
  escrowFeeSatPerParticipant := escrow.escrowFeeSatPerParticipant

def handleTakerBond (payload : OfferPsbtRequest) : Act P BondError OfferTakenResponse := do
  let escrowOutputData ← escrowForTaker payload
  Call.mapError .coordinatorError (addTakerInfoAndMoveTable payload escrowOutputData)
  return escrowOutputData.offerTaken

def getOfferStatusMaker (payload : OfferTakenRequest) :
    Act P FetchOffersError OfferTakenResponse := do
  match ← Call.mapError .database (fetchEscrowOutputInformation payload.offerIdHex) with
  | some escrowPsbtData => return escrowPsbtData.offerTaken
  | none => Call.fail .noOffersAvailable

def fetchEscrowConfirmationStatus (payload : OfferTakenRequest) :
    Act P FetchEscrowConfirmationError Bool := do
  if ← Call.mapError .database (isValidRobohashInTable payload.robohashHex payload.offerIdHex) then
    Call.mapError .database (fetchEscrowTxConfirmationStatus payload.offerIdHex)
  else
    Call.fail .notFound

def handleSignedEscrowPsbt (payload : PsbtSubmissionRequest) : Act P RequestError Unit := do
  if ← Call.mapError .database (isValidRobohashInTable payload.robohashHex payload.offerIdHex) then
    -- `validate_escrow_init_psbt` is a placeholder that accepts everything
    if ← Call.mapError .database (insertSignedEscrowPsbt payload) then
      match ← Call.mapError .database (fetchBothSignedEscrowPsbts payload.offerIdHex) with
      | some (makerPsbt, takerPsbt) =>
          Call.mapError .psbtInvalid
            (tryAsk (.combineAndBroadcastEscrowPsbt makerPsbt takerPsbt) id)
      | none => return ()
    else
      Call.fail .psbtAlreadySubmitted
  else
    Call.fail .notFound

/-- `check_offer_and_confirmation`. -/
def checkOfferAndConfirmation (offerIdHex robohashHex : String) : Act P RequestError Unit := do
  if ← Call.mapError .database (isValidRobohashInTable robohashHex offerIdHex) then
    if ← Call.mapError .database (fetchEscrowTxConfirmationStatus offerIdHex) then
      return ()
    else
      Call.fail .notConfirmed
  else
    Call.fail .notFound

def handleObligationConfirmation (payload : OfferTakenRequest) : Act P RequestError Unit := do
  checkOfferAndConfirmation payload.offerIdHex payload.robohashHex
  Call.mapError .database (setTraderHappyField payload.offerIdHex payload.robohashHex true)

def initiateEscrow (payload : TradeObligationsUnsatisfied) : Act P RequestError Unit := do
  checkOfferAndConfirmation payload.offerIdHex payload.robohashHex
  Call.mapError .database (setTraderHappyField payload.offerIdHex payload.robohashHex false)

/-- Both traders reported satisfaction. -/
def TraderHappiness.bothHappy (happiness : TraderHappiness) : Bool :=
  happiness.makerHappy = some true && happiness.takerHappy = some true

/-- A report is missing and no escrow is ongoing. -/
def TraderHappiness.undecided (happiness : TraderHappiness) : Bool :=
  (happiness.makerHappy.isNone || happiness.takerHappy.isNone) && !happiness.escrowOngoing

/-- The answer that carries a payout PSBT. -/
def readyPsbt (data : PayoutData P) (payoutPsbtHex : String) : PayoutProcessingResult :=
  .readyPsbt {
    payoutPsbtHex
    aggMusigNonceHex := P.aggNonceToString data.aggMusigNonce
    aggMusigPubkeyCtxHex := data.aggregatedMusigPubkeyCtxHex }

/-- Store the assembled PSBT and give the processing flag back. -/
def storePayoutPsbt (offerIdHex : String) (data : PayoutData P) (payoutPsbtHex : String) :
    Act P RequestError PayoutProcessingResult := do
  Call.mapError .database (insertKeyspendPayoutPsbt offerIdHex payoutPsbtHex)
  let _ ← Call.mapError .database (toggleProcessing offerIdHex)
  return readyPsbt data payoutPsbtHex

/-- What a poll does that holds the processing flag. -/
def assemblePayout (offerIdHex : String) (data : PayoutData P) :
    Act P RequestError PayoutProcessingResult := do
  let payoutPsbtHex ← Call.mapError .coordinatorError
    (tryAsk (.assembleKeyspendPayoutPsbt data) id)
  storePayoutPsbt offerIdHex data payoutPsbtHex

/-- What a poll does that found no payout PSBT: try to take the processing flag. -/
def beginPayout (offerIdHex : String) (data : PayoutData P) :
    Act P RequestError PayoutProcessingResult := do
  if ← Call.mapError .database (toggleProcessing offerIdHex) then
    assemblePayout offerIdHex data
  else
    return .notReady

/-- The answer to a poll when both traders are satisfied. -/
def keyspendPayout (offerIdHex : String) : Act P RequestError PayoutProcessingResult := do
  let escrowPayoutData ← Call.mapError .database (fetchPayoutData offerIdHex)
  match ← Call.mapError .database (fetchKeyspendPayoutPsbt offerIdHex) with
  | some payoutPsbtHex => return readyPsbt escrowPayoutData payoutPsbtHex
  | none => beginPayout offerIdHex escrowPayoutData

/-- The answer to a poll of a disputed offer. The payout to the winner is not
    implemented: the source panics. -/
def disputeResult (payload : OfferTakenRequest) : Act P RequestError PayoutProcessingResult := do
  match ← Call.mapError .database (fetchEscrowResult payload.offerIdHex) with
  | some escrowWinner =>
      if escrowWinner = payload.robohashHex then Call.panic else return .lostEscrow
  | none => return .decidingEscrow

def handleFinalPayout (payload : OfferTakenRequest) :
    Act P RequestError PayoutProcessingResult := do
  let traderHappiness ← Call.mapError .database (fetchTraderHappiness payload.offerIdHex)
  if traderHappiness.bothHappy then
    keyspendPayout payload.offerIdHex
  else if traderHappiness.undecided then
    return .notReady
  else
    disputeResult payload

/-- Broadcast the payout transaction and delete the offer. -/
def finishPayout (offerIdHex : String) (keyspendInformation : KeyspendContext P) :
    Act P RequestError Bool := do
  Call.mapError .coordinatorError (tryAsk (.broadcastKeyspendTx keyspendInformation) id)
  Call.mapError (fun e =>
      .database (.context "Failed to delete complete offer from taken_offers" e))
    (deleteCompleteOffer offerIdHex)
  return true

def handlePayoutSignature (payload : PayoutSignatureRequest) : Act P RequestError Bool := do
  checkOfferAndConfirmation payload.offerIdHex payload.robohashHex
  Call.mapError .database
    (insertPartialSig payload.partialSigHex payload.offerIdHex payload.robohashHex)
  match ← Call.mapError .database (fetchKeyspendPayoutInformation payload.offerIdHex) with
  | some context => finishPayout payload.offerIdHex context
  | none => return false

end TapTrade
