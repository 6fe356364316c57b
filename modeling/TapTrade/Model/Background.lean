import TapTrade.Model.Handlers
import TapTrade.Resumption.Course

/-! # Background tasks and requests

One round of each of the tasks that `main` spawns, and the requests of the HTTP
interface. Together they are everything that reads or writes the database.
-/

namespace TapTrade

open Relational Resumption

variable {P : Platform}

/-- `MonitoringBond::punish`. -/
def MonitoringBond.punish (bond : MonitoringBond) : Act P Error Unit := do
  tryAsk (.publishBondTxHex bond.bondTxHex) id
  Call.mapError (.context "Error removing violating bond from db") (removeViolatingBond bond)

/-- The loop over the flagged bonds, in the order in which the map yields them. -/
def punishViolations : List (MonitoringBond × Error) → Act P Error Unit
  | [] => return ()
  | (bond, _) :: validationResults => do
      match (← ask .punishmentEnabled).getD "0" with
      | "1" => do
          bond.punish
          punishViolations validationResults
      | "0" => punishViolations validationResults
      | _ => Call.fail (.message "Invalid PUNISHMENT_ENABLED env var")

/-- One round of `monitor_bonds`. -/
def monitorBonds : Act P Error Unit := do
  let bonds ← fetchAllBonds
  if bonds.isEmpty then
    return ()
  else
    punishViolations (← tryAsk (.validateBonds bonds) id)

/-- One round of `update_transaction_confirmations`, whose errors are only logged. -/
def updateTransactionConfirmations : Act P Error Unit := do
  let unconfirmedTransactions ← fetchUnconfirmedEscrowTxids
  if unconfirmedTransactions.isEmpty then
    return ()
  else
    let newlyConfirmedTxids := match ← ask (.getConfirmations unconfirmedTransactions) with
      | .ok txids => txids
      | .error _ => []
    confirmBondTxids newlyConfirmedTxids

/-- The operator decides one dispute after the other. One that it could not be asked about stays
    open. -/
def resolveEscrows : List EscrowCase → Act P Error Unit
  | [] => return ()
  | escrow :: openEscrows => do
      match ← ask (.getCoordinatorCliInput escrow) with
      | .ok .maker => resolveEscrow escrow.offerId escrow.makerId
      | .ok .taker => resolveEscrow escrow.offerId escrow.takerId
      | .error _ => pure ()
      resolveEscrows openEscrows

/-- One round of `escrow_cli_loop`. -/
def escrowCliLoop : Act P Error Unit := do
  resolveEscrows (← getOpenEscrows)

inductive Request where
  | createOffer (offer : OfferRequest)
  | submitMakerBond (payload : BondSubmissionRequest)
  | fetchAvailableOffers (request : OffersRequest)
  | submitTakerBond (payload : OfferPsbtRequest)
  | requestOfferStatus (payload : OfferTakenRequest)
  | submitEscrowPsbt (payload : PsbtSubmissionRequest)
  | pollEscrowConfirmation (payload : OfferTakenRequest)
  | submitObligationConfirmation (payload : OfferTakenRequest)
  | requestEscrow (payload : TradeObligationsUnsatisfied)
  | pollFinalPayout (payload : OfferTakenRequest)
  | submitPayoutSignature (payload : PayoutSignatureRequest)
  | monitorBonds
  | updateTransactionConfirmations
  | escrowCliLoop
  deriving DecidableEq, Repr

inductive Reply where
  | createOffer (outcome : Outcome Error (Option BondRequirementResponse))
  | submitMakerBond (outcome : Outcome BondError OfferActivatedResponse)
  | fetchAvailableOffers (outcome : Outcome FetchOffersError PublicOffers)
  | submitTakerBond (outcome : Outcome BondError OfferTakenResponse)
  | requestOfferStatus (outcome : Outcome FetchOffersError OfferTakenResponse)
  | submitEscrowPsbt (outcome : Outcome RequestError Unit)
  | pollEscrowConfirmation (outcome : Outcome FetchEscrowConfirmationError Bool)
  | submitObligationConfirmation (outcome : Outcome RequestError Unit)
  | requestEscrow (outcome : Outcome RequestError Unit)
  | pollFinalPayout (outcome : Outcome RequestError PayoutProcessingResult)
  | submitPayoutSignature (outcome : Outcome RequestError Bool)
  | background (outcome : Outcome Error Unit)

/-- The program that serves a request. -/
def Request.serve (P : Platform) : Request → Program (coordinator P) Reply
  | createOffer offer => (receiveOrder offer).run.map .createOffer
  | submitMakerBond payload => (handleMakerBond payload).run.map .submitMakerBond
  | fetchAvailableOffers request => (getPublicOffers request).run.map .fetchAvailableOffers
  | submitTakerBond payload => (handleTakerBond payload).run.map .submitTakerBond
  | requestOfferStatus payload => (getOfferStatusMaker payload).run.map .requestOfferStatus
  | submitEscrowPsbt payload => (handleSignedEscrowPsbt payload).run.map .submitEscrowPsbt
  | pollEscrowConfirmation payload =>
      (fetchEscrowConfirmationStatus payload).run.map .pollEscrowConfirmation
  | submitObligationConfirmation payload =>
      (handleObligationConfirmation payload).run.map .submitObligationConfirmation
  | requestEscrow payload => (initiateEscrow payload).run.map .requestEscrow
  | pollFinalPayout payload => (handleFinalPayout payload).run.map .pollFinalPayout
  | submitPayoutSignature payload => (handlePayoutSignature payload).run.map .submitPayoutSignature
  | monitorBonds => (TapTrade.monitorBonds (P := P)).run.map .background
  | updateTransactionConfirmations =>
      (TapTrade.updateTransactionConfirmations (P := P)).run.map .background
  | escrowCliLoop => (TapTrade.escrowCliLoop (P := P)).run.map .background

/-- A request that is served while nobody else acts. -/
abbrev serveAlone (env : Environment (coordinator P)) :
    World (coordinator P) → Request → World (coordinator P) :=
  World.serve env (Request.serve P)

/-- The world in which the coordinator starts. -/
def startup (P : Platform) : World (coordinator P) := ⟨Database.init, [], 0⟩

/-- The world after the requests were served one after the other. -/
abbrev runAlone (env : Environment (coordinator P)) (requests : List Request) :
    World (coordinator P) :=
  requests.foldl (serveAlone env) (startup P)

/-- So many rounds of the loop of `monitor_bonds`. A round that ends with an error is logged and
    the loop started again. -/
def monitorLoop : Nat → Program (coordinator P) Reply
  | 0 => .done (.background (.ok ()))
  | rounds + 1 => (monitorBonds (P := P)).run.bind fun _ => monitorLoop rounds

/-- So many rounds of the loop of `escrow_cli_loop`. A round that ends with an error panics, and
    the loop is not started again. -/
def escrowCliRounds : Nat → Act P Error Unit
  | 0 => return ()
  | rounds + 1 => do
      escrowCliLoop
      escrowCliRounds rounds

end TapTrade
