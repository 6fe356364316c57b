import TapTrade.Model.Background
import TapTrade.Resumption.Questions

/-! # What a request may ask

`Request.Poses` lists the questions of each request to the wallet, the node, the clock and the
operator, and `poses_serve` says that there are no others.
-/

namespace TapTrade

open Resumption Call

variable {P : Platform}

/-- A question that the request may ask. -/
def Request.Poses : Request → Query P → Prop
  | .createOffer _, .now | .createOffer _, .getNewAddress => True
  | .submitMakerBond _, .validateBondTxHex _ _ | .submitMakerBond _, .generateRandomOrderId _
  | .submitMakerBond _, .getNewAddress => True
  | .submitTakerBond _, .validateBondTxHex _ _ | .submitTakerBond _, .getCoordinatorTaprootPk
  | .submitTakerBond _, .getNewAddress | .submitTakerBond _, .finishEscrowTx _ => True
  | .submitEscrowPsbt _, .combineAndBroadcastEscrowPsbt _ _ => True
  | .pollFinalPayout _, .assembleKeyspendPayoutPsbt _ => True
  | .submitPayoutSignature _, .broadcastKeyspendTx _ => True
  | .monitorBonds, .validateBonds _ | .monitorBonds, .punishmentEnabled
  | .monitorBonds, .publishBondTxHex _ => True
  | .updateTransactionConfirmations, .getConfirmations _ => True
  | .escrowCliLoop, .getCoordinatorCliInput _ => True
  | _, _ => False

section Parts

variable {allowed : Query P → Prop} {α : Type}

theorem poses_tryAsk {query : Query P} (permitted : allowed query)
    (answer : query.Answer → Except Error α) : (tryAsk query answer).Asks allowed :=
  Asks.bind (asks_ask permitted) fun _ => asks_ofExcept _

@[simp] theorem poses_fetchOptional (read : Database → Option α) :
    (fetchOptional read : Act P Error (Option α)).Asks allowed := asks_statement _ _

@[simp] theorem poses_fetchAll (read : Database → List α) :
    (fetchAll read : Act P Error (List α)).Asks allowed := asks_statement _ _

@[simp] theorem poses_fetchOne (read : Database → Option α) :
    (fetchOne read : Act P Error α).Asks allowed := Asks.bind (by simp) fun _ => by simp

@[simp] theorem poses_execute (write : Database → Database) :
    (execute write : Act P Error Unit).Asks allowed := asks_statement _ _

@[simp] theorem poses_hexDecode (text : String) :
    (hexDecode text : Act P Error Bytes).Asks allowed := asks_ofOption _ _

@[simp] theorem poses_checked (overflows : Bool) (wrapped : UInt64) :
    (U64.checked overflows wrapped : Act P Error UInt64).Asks allowed :=
  asks_ite (by simp) (by simp)

theorem poses_sum (total : UInt64) (values : List UInt64) :
    (U64.sum total values : Act P Error UInt64).Asks allowed := by
  induction values generalizing total with
  | nil => exact asks_pure _
  | cons value values ih => exact Asks.bind (poses_checked _ _) fun _ => ih _

theorem poses_inputSum (data : EscrowPsbtConstructionData P) : data.inputSum.Asks allowed :=
  Asks.bind (poses_sum _ _) fun _ => asks_ite (by simp) (by simp)

theorem poses_changeAmount (inputSum escrowAmount escrowFee : UInt64) :
    (changeAmount inputSum escrowAmount escrowFee : Act P Error UInt64).Asks allowed := by
  apply Asks.bind (poses_checked _ _)
  intro locked
  exact Asks.bind (poses_checked _ _) fun _ => poses_checked _ _

@[simp] theorem poses_isValidRobohashInTable (robohashHex offerId : String) :
    (isValidRobohashInTable robohashHex offerId : Act P Error Bool).Asks allowed :=
  Asks.bind (by simp) fun _ => Asks.bind (by simp) fun _ => by simp

@[simp] theorem poses_isMakerInTakenOffers (offerId robohashHex : String) :
    (isMakerInTakenOffers offerId robohashHex : Act P Error Bool).Asks allowed :=
  Asks.bind (by simp) fun _ => Asks.bind (by simp) fun _ => by simp

@[simp] theorem poses_checkOfferAndConfirmation (offerIdHex robohashHex : String) :
    (checkOfferAndConfirmation offerIdHex robohashHex : Act P RequestError Unit).Asks allowed := by
  apply Asks.bind (by simp)
  intro valid
  exact asks_ite (Asks.bind (asks_mapError (Asks.bind (by simp) fun _ => by simp)) fun _ => by simp)
    (by simp)

theorem poses_setTraderHappyField (offerId robohash : String) (isHappy : Bool) :
    (setTraderHappyField offerId robohash isHappy : Act P Error Unit).Asks allowed :=
  Asks.bind (by simp) fun _ => Asks.bind (by simp) fun _ => by simp

theorem poses_toggleProcessing (offerId : String) :
    (toggleProcessing offerId : Act P Error Bool).Asks allowed :=
  Asks.bind (asks_statement _ _) fun _ => Asks.bind (by simp) fun _ => by simp

end Parts

section Handlers

theorem poses_receiveOrder (offer : OfferRequest) :
    (receiveOrder offer : Act P Error _).Asks (Request.Poses (.createOffer offer)) := by
  apply Asks.bind (asks_ask trivial)
  intro now
  apply asks_ite (Asks.bind ?_ fun _ => by simp) (by simp)
  refine Asks.bind (by simp [U64.mul]) fun _ => Asks.bind (by simp [U64.add]) fun _ => ?_
  refine Asks.bind (by simp [U64.add]) fun _ => Asks.bind (by simp [U64.add]) fun _ => ?_
  apply Asks.bind (poses_tryAsk trivial _)
  intro address
  exact Asks.bind (Asks.bind (by simp) fun _ => by simp) fun _ => by simp

theorem poses_handleMakerBond (payload : BondSubmissionRequest) :
    (handleMakerBond payload : Act P BondError _).Asks
      (Request.Poses (.submitMakerBond payload)) := by
  apply Asks.bind
  · exact asks_mapError (Asks.bind (by simp) fun _ => Asks.bind (by simp) fun _ => by simp)
  intro requirements
  apply Asks.bind (asks_mapError (poses_tryAsk trivial _))
  intro validated
  apply Asks.bind (asks_ask trivial)
  intro offerId
  apply Asks.bind (asks_mapError (poses_tryAsk trivial _))
  intro address
  apply Asks.bind (asks_mapError (Asks.bind ?_ fun offer => ?_)) fun _ => by simp
  · refine Asks.bind (by simp) fun _ => Asks.bind (by simp) fun _ => ?_
    exact Asks.bind (by simp) fun _ => Asks.bind (by simp) fun _ => by simp
  · exact Asks.bind (by simp) fun _ => Asks.bind (by simp) fun _ => by simp

theorem poses_getPublicOffers {allowed : Query P → Prop} (request : OffersRequest) :
    (getPublicOffers request : Act P FetchOffersError PublicOffers).Asks allowed := by
  apply Asks.bind (asks_mapError (Asks.bind (by simp) fun rows => ?_)) fun offers => by simp
  exact asks_ite (by simp) (by simp)

theorem poses_createEscrowPsbt (payload : OfferPsbtRequest) :
    (createEscrowPsbt payload : Act P Error EscrowPsbt).Asks
      (Request.Poses (.submitTakerBond payload)) := by
  refine Asks.bind ?_ fun makerData => Asks.bind ?_ fun takerData => ?_
  · exact Asks.bind (by simp) fun _ => Asks.bind (by simp) fun _ => Asks.bind (by simp) fun _ =>
      by simp
  · exact Asks.bind (by simp) fun _ => Asks.bind (by simp) fun _ => by simp
  refine Asks.bind (poses_tryAsk trivial _) fun coordinatorPk => ?_
  refine Asks.bind (by simp) fun descriptor => ?_
  refine Asks.bind (poses_tryAsk trivial _) fun feeText => ?_
  refine Asks.bind (by simp) fun feeAddress => Asks.bind ?_ fun amounts => ?_
  · exact Asks.bind (by simp) fun _ => Asks.bind (by simp) fun _ => Asks.bind (by simp) fun _ =>
      by simp
  refine Asks.bind (by simp) fun script => Asks.bind (poses_inputSum _) fun makerSum => ?_
  refine Asks.bind (poses_changeAmount _ _ _) fun makerChange => ?_
  refine Asks.bind (poses_inputSum _) fun takerSum => ?_
  refine Asks.bind (poses_changeAmount _ _ _) fun takerChange => ?_
  refine Asks.bind (by simp [U64.add]) fun total => Asks.bind (by simp [U64.mul]) fun fee => ?_
  exact Asks.bind (poses_tryAsk trivial _) fun tx => by simp

theorem poses_escrowForTaker (payload : OfferPsbtRequest) :
    (escrowForTaker payload : Act P BondError EscrowPsbt).Asks
      (Request.Poses (.submitTakerBond payload)) := by
  refine Asks.bind ?_ fun requirements => Asks.bind ?_ fun validated => ?_
  · exact asks_mapError (Asks.bind (by simp) fun _ => by simp)
  · exact asks_mapError (poses_tryAsk trivial _)
  · exact asks_mapError (poses_createEscrowPsbt payload)

theorem poses_handleTakerBond (payload : OfferPsbtRequest) :
    (handleTakerBond payload : Act P BondError _).Asks
      (Request.Poses (.submitTakerBond payload)) := by
  refine Asks.bind (poses_escrowForTaker payload) fun escrow => ?_
  refine Asks.bind (asks_mapError (Asks.bind ?_ fun _ => ?_)) fun _ => by simp
  · refine Asks.bind (by simp) fun _ => Asks.bind (by simp) fun _ => ?_
    exact Asks.bind (by simp) fun _ => by simp
  · exact Asks.bind (by simp) fun _ => by simp

theorem poses_getOfferStatusMaker {allowed : Query P → Prop} (payload : OfferTakenRequest) :
    (getOfferStatusMaker payload : Act P FetchOffersError OfferTakenResponse).Asks allowed := by
  apply Asks.bind (asks_mapError (Asks.bind (by simp) fun _ => by simp))
  intro escrow
  cases escrow <;> simp

theorem poses_handleSignedEscrowPsbt (payload : PsbtSubmissionRequest) :
    (handleSignedEscrowPsbt payload : Act P RequestError Unit).Asks
      (Request.Poses (.submitEscrowPsbt payload)) := by
  refine Asks.bind (by simp) fun valid => asks_ite ?_ (by simp)
  refine Asks.bind (asks_mapError ?_) fun inserted => asks_ite ?_ (by simp)
  · refine Asks.bind (by simp) fun isMaker => Asks.bind (by simp) fun status => ?_
    exact asks_ite (by simp) (Asks.bind (by simp) fun _ => by simp)
  · apply Asks.bind (asks_mapError (Asks.bind (by simp) fun row => ?_))
    · intro psbts
      cases psbts with
      | none => simp
      | some psbts => exact asks_mapError (poses_tryAsk trivial _)
    · split <;> simp

theorem poses_keyspendPayout (payload : OfferTakenRequest) :
    (keyspendPayout payload.offerIdHex : Act P RequestError _).Asks
      (Request.Poses (.pollFinalPayout payload)) := by
  apply Asks.bind (asks_mapError (Asks.bind (by simp) fun _ => by simp))
  intro data
  apply Asks.bind (asks_mapError (Asks.bind (by simp) fun _ => by simp))
  intro stored
  cases stored with
  | some psbt => simp
  | none =>
      apply Asks.bind (asks_mapError (poses_toggleProcessing _))
      intro acquired
      refine asks_ite (Asks.bind (asks_mapError (poses_tryAsk trivial _)) fun psbt => ?_) (by simp)
      refine Asks.bind (asks_mapError (poses_execute _)) fun _ => ?_
      exact Asks.bind (asks_mapError (poses_toggleProcessing _)) fun _ => by simp

theorem poses_handleFinalPayout (payload : OfferTakenRequest) :
    (handleFinalPayout payload : Act P RequestError _).Asks
      (Request.Poses (.pollFinalPayout payload)) := by
  refine Asks.bind (asks_mapError (Asks.bind (by simp) fun _ => by simp)) fun happiness => ?_
  refine asks_ite (poses_keyspendPayout payload) (asks_ite (by simp) (Asks.bind ?_ fun winner => ?_))
  · exact asks_mapError (Asks.bind (by simp) fun _ => by simp)
  · cases winner <;> simp

theorem poses_handlePayoutSignature (payload : PayoutSignatureRequest) :
    (handlePayoutSignature payload : Act P RequestError Bool).Asks
      (Request.Poses (.submitPayoutSignature payload)) := by
  refine Asks.bind (by simp) fun checked => Asks.bind (asks_mapError ?_) fun inserted => ?_
  · refine Asks.bind (by simp) fun isMaker => Asks.bind (by simp) fun status => ?_
    exact asks_ite (by simp) (by simp)
  apply Asks.bind (asks_mapError (Asks.bind (by simp) fun _ => by simp))
  intro context
  cases context with
  | none => simp
  | some context =>
      apply Asks.bind (asks_mapError (poses_tryAsk trivial _))
      intro broadcast
      exact Asks.bind (asks_mapError (poses_execute _)) fun _ => by simp

theorem poses_punishViolations (violations : List (MonitoringBond × Error)) :
    (punishViolations violations : Act P Error Unit).Asks (Request.Poses .monitorBonds) := by
  induction violations with
  | nil => exact asks_pure _
  | cons violation violations ih =>
      apply Asks.bind (asks_ask trivial)
      intro enabled
      split
      · apply Asks.bind (Asks.bind (poses_tryAsk trivial _) fun _ => ?_) fun _ => ih
        exact asks_mapError (asks_ite (by simp) (by simp))
      · exact ih
      · exact asks_fail _

theorem poses_confirmBondTxids {allowed : Query P → Prop} (txids : List String) :
    (confirmBondTxids txids : Act P Error Unit).Asks allowed := by
  induction txids with
  | nil => exact asks_pure _
  | cons txid txids ih => exact Asks.bind (by simp) fun _ => ih

theorem poses_resolveEscrows (escrows : List EscrowCase) :
    (resolveEscrows escrows : Act P Error Unit).Asks (Request.Poses .escrowCliLoop) := by
  induction escrows with
  | nil => exact asks_pure _
  | cons escrow escrows ih =>
      apply Asks.bind (asks_ask trivial)
      rintro (e | winner)
      · exact ih
      · cases winner <;> exact Asks.bind (by simp [resolveEscrow]) fun _ => ih

/-- Everything that a request can ask. -/
theorem poses_serve (P : Platform) (request : Request) :
    (request.serve P).Asks request.Poses := by
  cases request with
  | createOffer offer => exact Program.Asks.bind (poses_receiveOrder offer) fun _ => trivial
  | submitMakerBond payload =>
      exact Program.Asks.bind (poses_handleMakerBond payload) fun _ => trivial
  | fetchAvailableOffers request =>
      exact Program.Asks.bind (poses_getPublicOffers request) fun _ => trivial
  | submitTakerBond payload =>
      exact Program.Asks.bind (poses_handleTakerBond payload) fun _ => trivial
  | requestOfferStatus payload =>
      exact Program.Asks.bind (poses_getOfferStatusMaker payload) fun _ => trivial
  | submitEscrowPsbt payload =>
      exact Program.Asks.bind (poses_handleSignedEscrowPsbt payload) fun _ => trivial
  | pollEscrowConfirmation payload =>
      refine Program.Asks.bind (Asks.bind (by simp) fun valid => ?_) fun _ => trivial
      exact asks_ite (asks_mapError (Asks.bind (by simp) fun _ => by simp)) (by simp)
  | submitObligationConfirmation payload =>
      refine Program.Asks.bind (Asks.bind (by simp) fun checked => ?_) fun _ => trivial
      exact asks_mapError (poses_setTraderHappyField _ _ _)
  | requestEscrow payload =>
      refine Program.Asks.bind (Asks.bind (by simp) fun checked => ?_) fun _ => trivial
      exact asks_mapError (poses_setTraderHappyField _ _ _)
  | pollFinalPayout payload =>
      exact Program.Asks.bind (poses_handleFinalPayout payload) fun _ => trivial
  | submitPayoutSignature payload =>
      exact Program.Asks.bind (poses_handlePayoutSignature payload) fun _ => trivial
  | monitorBonds =>
      refine Program.Asks.bind (Asks.bind ?_ fun bonds => asks_ite (by simp) ?_) fun _ => trivial
      · exact Asks.bind (by simp) fun _ => by simp
      · exact Asks.bind (poses_tryAsk trivial _) fun _ => poses_punishViolations _
  | updateTransactionConfirmations =>
      refine Program.Asks.bind (Asks.bind ?_ fun txids => asks_ite (by simp) ?_) fun _ => trivial
      · exact Asks.bind (by simp) fun _ => by simp
      · exact Asks.bind (asks_ask trivial) fun _ => poses_confirmBondTxids _
  | escrowCliLoop =>
      refine Program.Asks.bind (Asks.bind ?_ fun escrows => ?_) fun _ => trivial
      · exact Asks.bind (by simp) fun _ => by simp
      · exact poses_resolveEscrows escrows

end Handlers

end TapTrade
