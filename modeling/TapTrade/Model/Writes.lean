import TapTrade.Model.Rules

/-! # What a request may write

`Request.Writes` lists every write that the statements of a request can make, and
`writes_serve` says that there are no others. Whatever a request leaves alone follows from
this by cases on the write, without another look at its handler.
-/

namespace TapTrade

open Relational Resumption

/-- A write that the request may make. -/
inductive Request.Writes : Request → (Database → Database) → Prop
  | createOffer {offer} (robohash requirements) : Writes (.createOffer offer) fun db =>
      db.insertMakerRequest (makerRequestRow robohash offer requirements)
  | delistPending {payload} (robohash) : Writes (.submitMakerBond payload) fun db =>
      db.deleteMakerRequest robohash
  | activate {payload} (offerId robohash offer address) :
      Writes (.submitMakerBond payload) fun db =>
        db.insertActive (activeRow offerId robohash offer payload address)
  | delist {payload} : Writes (.submitTakerBond payload) fun db =>
      db.deleteActive payload.offer.offerIdHex
  | take {payload} (offer robohash escrow) (same : offer.offerId = payload.offer.offerIdHex) :
      Writes (.submitTakerBond payload) fun db =>
        db.insertTaken (takenRow offer robohash payload escrow)
  | signEscrow {payload} (isMaker) : Writes (.submitEscrowPsbt payload) fun db =>
      db.updateTaken payload.offerIdHex
        (TakenOffer.setSignedEscrowPsbt isMaker payload.signedPsbtHex)
  | confirmObligation {payload} (isMaker) : Writes (.submitObligationConfirmation payload) fun db =>
      db.updateTaken payload.offerIdHex (TakenOffer.setHappy isMaker (boolToSqlInt true))
  | complain {payload} (isMaker) : Writes (.requestEscrow payload) fun db =>
      db.updateTaken payload.offerIdHex (TakenOffer.setHappy isMaker (boolToSqlInt false))
  | openDispute {payload} : Writes (.requestEscrow payload) fun db =>
      db.updateTaken payload.offerIdHex TakenOffer.setEscrowOngoing
  | toggleProcessing {payload} : Writes (.pollFinalPayout payload) fun db =>
      db.updateTaken payload.offerIdHex TakenOffer.toggleProcessing
  | storePayout {payload} (psbt) : Writes (.pollFinalPayout payload) fun db =>
      db.updateTaken payload.offerIdHex (TakenOffer.setPayoutPsbt psbt)
  | signPayout {payload} (isMaker) : Writes (.submitPayoutSignature payload) fun db =>
      db.updateTaken payload.offerIdHex (TakenOffer.setPartialSig isMaker payload.partialSigHex)
  | finish {payload} : Writes (.submitPayoutSignature payload) fun db =>
      db.deleteTaken payload.offerIdHex
  | punish (offerId) : Writes .monitorBonds fun db => db.deleteActive offerId
  | confirmEscrow (txid) : Writes .updateTransactionConfirmations fun db => { db with
      takenOffers := db.takenOffers.updateWhere (fun row => row.escrowPsbtTxid = txid)
        TakenOffer.setConfirmed }
  | decide (offerId winner) : Writes .escrowCliLoop fun db =>
      db.updateTaken offerId (TakenOffer.setEscrowWinner winner)

/-- The effect of one statement of the request. -/
inductive Database.Served (request : Request) (before : Database) : Database → Prop
  | reads : Served request before before
  | writes {write} (permitted : request.Writes write) : Served request before (write before)

instance (request : Request) : Std.Refl (Database.Served request) := ⟨fun _ => .reads⟩

section Reads

open Call

variable {P : Platform} {allowed : Database → Database → Prop}

@[simp] theorem keeps_checked (overflows : Bool) (wrapped : UInt64) :
    (U64.checked overflows wrapped : Act P Error UInt64).Keeps allowed :=
  keeps_ite (by simp) (by simp)

theorem keeps_sum (total : UInt64) (values : List UInt64) :
    (U64.sum total values : Act P Error UInt64).Keeps allowed := by
  induction values generalizing total with
  | nil => exact keeps_pure _
  | cons value values ih => exact Keeps.bind (by simp [U64.add]) fun _ => ih _

@[simp] theorem keeps_inputSum (data : EscrowPsbtConstructionData P) :
    data.inputSum.Keeps allowed :=
  Keeps.bind (keeps_sum _ _) fun _ => keeps_ite (by simp) (by simp)

@[simp] theorem keeps_changeAmount (inputSum escrowAmount escrowFee : UInt64) :
    (changeAmount inputSum escrowAmount escrowFee : Act P Error UInt64).Keeps allowed := by
  apply Keeps.bind (by simp [U64.add])
  intro share
  apply Keeps.bind (by simp [U64.add])
  intro total
  simp [U64.sub]

theorem keeps_toggleProcessing {offerId : String}
    (toggles : ∀ db, allowed db (db.updateTaken offerId TakenOffer.toggleProcessing)) :
    (toggleProcessing offerId : Act P Error Bool).Keeps allowed := by
  apply Keeps.bind (keeps_statement toggles)
  intro toggled
  exact Keeps.bind (by simp) fun _ => by simp

theorem keeps_confirmBondTxids {txids : List String}
    (confirms : ∀ txid ∈ txids, ∀ db : Database, allowed db { db with
      takenOffers := db.takenOffers.updateWhere (fun row => row.escrowPsbtTxid = txid)
        TakenOffer.setConfirmed }) :
    (confirmBondTxids txids : Act P Error Unit).Keeps allowed := by
  induction txids with
  | nil => exact keeps_pure _
  | cons txid txids ih =>
      apply Keeps.bind (keeps_execute (confirms txid (List.mem_cons_self ..)))
      exact fun _ => ih fun other member => confirms other (List.mem_cons_of_mem _ member)

theorem keeps_resolveEscrows {escrows : List EscrowCase}
    (decides : ∀ escrow ∈ escrows, ∀ db winner, winner = escrow.makerId ∨ winner = escrow.takerId →
      allowed db (db.updateTaken escrow.offerId (TakenOffer.setEscrowWinner winner))) :
    (resolveEscrows escrows : Act P Error Unit).Keeps allowed := by
  induction escrows with
  | nil => exact keeps_pure _
  | cons escrow escrows ih =>
      have rest := ih fun other member => decides other (List.mem_cons_of_mem _ member)
      have first := decides escrow (List.mem_cons_self ..)
      apply Keeps.bind (keeps_asking _)
      rintro (e | winner)
      · exact rest
      · cases winner with
        | maker => exact Keeps.bind (keeps_execute fun db => first db _ (.inl rfl)) fun _ => rest
        | taker => exact Keeps.bind (keeps_execute fun db => first db _ (.inr rfl)) fun _ => rest

variable [Std.Refl allowed]

@[simp] theorem keeps_fetchBondRequirements (robohash : String) :
    (fetchBondRequirements robohash : Act P Error BondRequirements).Keeps allowed :=
  Keeps.bind (by simp) fun _ => Keeps.bind (by simp) fun _ => by simp

@[simp] theorem keeps_getEscrowTxAmounts (tradeId : String) (feerate : ℚ) :
    (getEscrowTxAmounts tradeId feerate : Act P Error _).Keeps allowed := by
  apply Keeps.bind (by simp)
  intro row
  apply Keeps.bind (by simp)
  intro amount
  exact Keeps.bind (by simp) fun bond => by simp

@[simp] theorem keeps_fetchMakerEscrowPsbtData (tradeId : String) :
    (fetchMakerEscrowPsbtData tradeId : Act P Error _).Keeps allowed := by
  apply Keeps.bind (by simp)
  intro row
  apply Keeps.bind (by simp)
  intro inputs
  exact Keeps.bind (by simp) fun address => by simp

/-- The construction of the escrow locking transaction only reads. -/
@[simp] theorem keeps_createEscrowPsbt (payload : OfferPsbtRequest) :
    (createEscrowPsbt payload : Act P Error EscrowPsbt).Keeps allowed := by
  refine Keeps.bind (by simp) fun makerData => Keeps.bind ?_ fun takerData => ?_
  · exact Keeps.bind (by simp) fun _ => Keeps.bind (by simp) fun _ => by simp
  refine Keeps.bind (by simp) fun coordinatorPk => Keeps.bind (by simp) fun descriptor => ?_
  refine Keeps.bind (by simp) fun feeText => Keeps.bind (by simp) fun feeAddress => ?_
  refine Keeps.bind (by simp) fun amounts => Keeps.bind (by simp) fun script => ?_
  refine Keeps.bind (by simp) fun makerSum => Keeps.bind (by simp) fun makerChange => ?_
  refine Keeps.bind (by simp) fun takerSum => Keeps.bind (by simp) fun takerChange => ?_
  refine Keeps.bind (by simp [U64.add]) fun total => Keeps.bind (by simp [U64.mul]) fun fee => ?_
  exact Keeps.bind (by simp) fun tx => by simp

@[simp] theorem keeps_escrowForTaker (payload : OfferPsbtRequest) :
    (escrowForTaker payload : Act P BondError EscrowPsbt).Keeps allowed := by
  apply Keeps.bind (keeps_mapError (Keeps.bind (by simp) fun _ => by simp))
  intro requirements
  exact Keeps.bind (by simp) fun _ => by simp

@[simp] theorem keeps_isValidRobohashInTable (robohashHex offerId : String) :
    (isValidRobohashInTable robohashHex offerId : Act P Error Bool).Keeps allowed :=
  Keeps.bind (by simp) fun _ => Keeps.bind (by simp) fun _ => by simp

@[simp] theorem keeps_isMakerInTakenOffers (offerId robohashHex : String) :
    (isMakerInTakenOffers offerId robohashHex : Act P Error Bool).Keeps allowed :=
  Keeps.bind (by simp) fun _ => Keeps.bind (by simp) fun _ => by simp

@[simp] theorem keeps_checkOfferAndConfirmation (offerIdHex robohashHex : String) :
    (checkOfferAndConfirmation offerIdHex robohashHex : Act P RequestError Unit).Keeps allowed := by
  apply Keeps.bind (by simp)
  intro valid
  apply keeps_ite (Keeps.bind ?_ fun _ => by simp) (by simp)
  exact keeps_mapError (Keeps.bind (by simp) fun _ => by simp)

@[simp] theorem keeps_fetchPayoutData (tradeId : String) :
    (fetchPayoutData tradeId : Act P Error (PayoutData P)).Keeps allowed :=
  Keeps.bind (by simp) fun _ => by simp

@[simp] theorem keeps_disputeResult (payload : OfferTakenRequest) :
    (disputeResult payload : Act P RequestError PayoutProcessingResult).Keeps allowed := by
  apply Keeps.bind (keeps_mapError (Keeps.bind (by simp) fun _ => by simp))
  intro winner
  cases winner <;> simp

@[simp] theorem keeps_getPublicOffers (request : OffersRequest) :
    (getPublicOffers request : Act P FetchOffersError PublicOffers).Keeps allowed := by
  apply Keeps.bind (keeps_mapError (Keeps.bind (by simp) fun rows => ?_)) fun offers => by simp
  exact keeps_ite (by simp) (by simp)

@[simp] theorem keeps_getOfferStatusMaker (payload : OfferTakenRequest) :
    (getOfferStatusMaker payload : Act P FetchOffersError OfferTakenResponse).Keeps allowed := by
  apply Keeps.bind (keeps_mapError (Keeps.bind (by simp) fun _ => by simp))
  intro escrow
  cases escrow <;> simp

@[simp] theorem keeps_fetchEscrowConfirmationStatus (payload : OfferTakenRequest) :
    (fetchEscrowConfirmationStatus payload :
      Act P FetchEscrowConfirmationError Bool).Keeps allowed := by
  apply Keeps.bind (by simp)
  intro valid
  apply keeps_ite (keeps_mapError ?_) (by simp)
  exact Keeps.bind (by simp) fun _ => by simp

@[simp] theorem keeps_fetchKeyspendPayoutInformation (offerIdHex : String) :
    (fetchKeyspendPayoutInformation offerIdHex :
      Act P Error (Option (KeyspendContext P))).Keeps allowed :=
  Keeps.bind (by simp) fun _ => by simp

theorem keeps_insertPartialSig {sig offerId robohash : String}
    (signs : ∀ db isMaker,
      allowed db (db.updateTaken offerId (TakenOffer.setPartialSig isMaker sig))) :
    (insertPartialSig sig offerId robohash : Act P Error Unit).Keeps allowed := by
  apply Keeps.bind (by simp)
  intro isMaker
  apply Keeps.bind (by simp)
  intro status
  exact keeps_ite (by simp) (keeps_execute fun db => signs db isMaker)

theorem keeps_keyspendPayout {offerId : String}
    (toggles : ∀ db, allowed db (db.updateTaken offerId TakenOffer.toggleProcessing))
    (stores : ∀ db psbt, allowed db (db.updateTaken offerId (TakenOffer.setPayoutPsbt psbt))) :
    (keyspendPayout offerId : Act P RequestError PayoutProcessingResult).Keeps allowed := by
  apply Keeps.bind (by simp)
  intro data
  apply Keeps.bind (keeps_mapError (Keeps.bind (by simp) fun _ => by simp))
  intro stored
  cases stored with
  | some psbt => simp
  | none =>
      apply Keeps.bind (keeps_mapError (keeps_toggleProcessing toggles))
      intro acquired
      apply keeps_ite (Keeps.bind (by simp) fun psbt => ?_) (by simp)
      apply Keeps.bind (keeps_mapError (keeps_execute fun db => stores db psbt))
      intro inserted
      exact Keeps.bind (keeps_mapError (keeps_toggleProcessing toggles)) fun _ => by simp

end Reads

section Writes

open Call Database Request

variable {P : Platform} {request : Request}

/-- A statement that makes one of the listed writes. -/
theorem keeps_write {write : Database → Database} (permitted : request.Writes write) :
    (execute write : Act P Error Unit).Keeps (Served request) :=
  keeps_execute fun _ => .writes permitted

theorem writes_receiveOrder (offer : OfferRequest) :
    (receiveOrder offer : Act P Error _).Keeps (Served (.createOffer offer)) := by
  apply Keeps.bind (keeps_asking _)
  intro now
  apply keeps_ite (Keeps.bind ?_ fun _ => by simp) (by simp)
  refine Keeps.bind (by simp [U64.mul]) fun _ => Keeps.bind (by simp [U64.add]) fun _ => ?_
  refine Keeps.bind (by simp [U64.add]) fun _ => Keeps.bind (by simp [U64.add]) fun _ => ?_
  apply Keeps.bind (by simp)
  intro address
  apply Keeps.bind (Keeps.bind (by simp) fun robohash => ?_) fun _ => by simp
  exact keeps_write (.createOffer robohash _)

theorem writes_handleMakerBond (payload : BondSubmissionRequest) :
    (handleMakerBond payload : Act P BondError _).Keeps (Served (.submitMakerBond payload)) := by
  apply Keeps.bind (by simp)
  intro requirements
  apply Keeps.bind (by simp)
  intro validated
  apply Keeps.bind (keeps_asking _)
  intro offerId
  apply Keeps.bind (by simp)
  intro address
  apply Keeps.bind (keeps_mapError (Keeps.bind ?_ fun offer => ?_)) fun _ => by simp
  · apply Keeps.bind (by simp)
    intro robohash
    refine Keeps.bind (by simp) fun row => Keeps.bind (by simp) fun offer => ?_
    exact Keeps.bind (keeps_write (.delistPending robohash)) fun _ => by simp
  · apply Keeps.bind (by simp)
    intro robohash
    exact Keeps.bind (keeps_write (.activate offerId robohash offer address)) fun _ => by simp

theorem writes_handleTakerBond (payload : OfferPsbtRequest) :
    (handleTakerBond payload : Act P BondError _).Keeps (Served (.submitTakerBond payload)) := by
  apply Keeps.bind (by simp)
  intro escrow
  apply Keeps.bind (keeps_mapError ?_) fun _ => by simp
  simp only [addTakerInfoAndMoveTable, fetchAndDeleteOfferFromPublicOffersTable, bind_assoc,
    pure_bind]
  apply Keeps.bind (by simp)
  intro row
  apply Keeps.ofOption_bind
  intro offer read
  apply Keeps.bind (keeps_write .delist)
  intro deleted
  apply Keeps.bind (by simp)
  intro robohash
  exact keeps_write (.take offer robohash escrow (AwaitingTakerOffer.ofRow_eq_some read).1)

theorem writes_handleSignedEscrowPsbt (payload : PsbtSubmissionRequest) :
    (handleSignedEscrowPsbt payload : Act P RequestError Unit).Keeps
      (Served (.submitEscrowPsbt payload)) := by
  apply Keeps.bind (by simp)
  intro valid
  apply keeps_ite (Keeps.bind (keeps_mapError ?_) fun inserted => ?_) (by simp)
  · apply Keeps.bind (by simp)
    intro isMaker
    apply Keeps.bind (by simp)
    intro status
    apply keeps_ite (by simp)
    exact Keeps.bind (keeps_write (.signEscrow isMaker)) fun _ => by simp
  · apply keeps_ite (Keeps.bind (keeps_mapError (Keeps.bind (by simp) fun row => ?_)) ?_) (by simp)
    · intro both
      cases both <;> simp
    · split <;> simp

theorem writes_handleObligationConfirmation (payload : OfferTakenRequest) :
    (handleObligationConfirmation payload : Act P RequestError Unit).Keeps
      (Served (.submitObligationConfirmation payload)) := by
  apply Keeps.bind (by simp)
  intro checked
  apply keeps_mapError (Keeps.bind (by simp) fun isMaker => ?_)
  exact Keeps.bind (keeps_write (.confirmObligation isMaker)) fun _ => by simp

theorem writes_initiateEscrow (payload : TradeObligationsUnsatisfied) :
    (initiateEscrow payload : Act P RequestError Unit).Keeps (Served (.requestEscrow payload)) := by
  apply Keeps.bind (by simp)
  intro checked
  apply keeps_mapError (Keeps.bind (by simp) fun isMaker => ?_)
  apply Keeps.bind (keeps_write (.complain isMaker))
  intro complained
  exact keeps_ite (keeps_write .openDispute) (by simp)

theorem writes_handleFinalPayout (payload : OfferTakenRequest) :
    (handleFinalPayout payload : Act P RequestError _).Keeps
      (Served (.pollFinalPayout payload)) := by
  apply Keeps.bind (keeps_mapError (Keeps.bind (by simp) fun _ => by simp))
  intro happiness
  apply keeps_ite ?_ (keeps_ite (by simp) (by simp))
  exact keeps_keyspendPayout (fun db => .writes .toggleProcessing) fun db psbt =>
    .writes (.storePayout psbt)

theorem writes_handlePayoutSignature (payload : PayoutSignatureRequest) :
    (handlePayoutSignature payload : Act P RequestError Bool).Keeps
      (Served (.submitPayoutSignature payload)) := by
  apply Keeps.bind (by simp)
  intro checked
  apply Keeps.bind (keeps_mapError (keeps_insertPartialSig fun db isMaker =>
    .writes (.signPayout isMaker)))
  intro inserted
  apply Keeps.bind (by simp)
  intro context
  cases context with
  | none => simp
  | some context =>
      apply Keeps.bind (by simp)
      intro broadcast
      exact Keeps.bind (keeps_mapError (keeps_write .finish)) fun _ => by simp

theorem writes_punishViolations (violations : List (MonitoringBond × Error)) :
    (punishViolations violations : Act P Error Unit).Keeps (Served .monitorBonds) := by
  induction violations with
  | nil => exact keeps_pure _
  | cons violation violations ih =>
      apply Keeps.bind (keeps_asking _)
      intro enabled
      split
      · apply Keeps.bind ?_ fun _ => ih
        apply Keeps.bind (by simp)
        intro published
        exact keeps_mapError (keeps_ite (keeps_write (.punish _)) (by simp))
      · exact ih
      · exact keeps_fail _

theorem writes_monitorBonds : (monitorBonds : Act P Error Unit).Keeps (Served .monitorBonds) := by
  apply Keeps.bind (Keeps.bind (by simp) fun _ => by simp)
  intro bonds
  apply keeps_ite (by simp)
  exact Keeps.bind (by simp) fun violations => writes_punishViolations violations

theorem writes_updateTransactionConfirmations :
    (updateTransactionConfirmations : Act P Error Unit).Keeps
      (Served .updateTransactionConfirmations) := by
  apply Keeps.bind (Keeps.bind (by simp) fun _ => by simp)
  intro txids
  apply keeps_ite (by simp)
  exact Keeps.bind (keeps_asking _) fun _ => keeps_confirmBondTxids fun txid _ _ =>
    .writes (.confirmEscrow txid)

theorem writes_escrowCliLoop :
    (escrowCliLoop : Act P Error Unit).Keeps (Served .escrowCliLoop) := by
  apply Keeps.bind (Keeps.bind (by simp) fun _ => by simp)
  intro escrows
  exact keeps_resolveEscrows fun escrow _ db winner _ => .writes (.decide escrow.offerId winner)

/-- Everything that a request can do to the database. -/
theorem writes_serve (P : Platform) (request : Request) :
    (request.serve P).Keeps (Served request) := by
  cases request with
  | createOffer offer => exact Program.Keeps.bind (writes_receiveOrder offer) fun _ => trivial
  | submitMakerBond payload =>
      exact Program.Keeps.bind (writes_handleMakerBond payload) fun _ => trivial
  | fetchAvailableOffers request =>
      exact Program.Keeps.bind (keeps_getPublicOffers request) fun _ => trivial
  | submitTakerBond payload =>
      exact Program.Keeps.bind (writes_handleTakerBond payload) fun _ => trivial
  | requestOfferStatus payload =>
      exact Program.Keeps.bind (keeps_getOfferStatusMaker payload) fun _ => trivial
  | submitEscrowPsbt payload =>
      exact Program.Keeps.bind (writes_handleSignedEscrowPsbt payload) fun _ => trivial
  | pollEscrowConfirmation payload =>
      exact Program.Keeps.bind (keeps_fetchEscrowConfirmationStatus payload) fun _ => trivial
  | submitObligationConfirmation payload =>
      exact Program.Keeps.bind (writes_handleObligationConfirmation payload) fun _ => trivial
  | requestEscrow payload =>
      exact Program.Keeps.bind (writes_initiateEscrow payload) fun _ => trivial
  | pollFinalPayout payload =>
      exact Program.Keeps.bind (writes_handleFinalPayout payload) fun _ => trivial
  | submitPayoutSignature payload =>
      exact Program.Keeps.bind (writes_handlePayoutSignature payload) fun _ => trivial
  | monitorBonds => exact Program.Keeps.bind writes_monitorBonds fun _ => trivial
  | updateTransactionConfirmations =>
      exact Program.Keeps.bind writes_updateTransactionConfirmations fun _ => trivial
  | escrowCliLoop => exact Program.Keeps.bind writes_escrowCliLoop fun _ => trivial

/-- What the writes of a request preserve, serving it preserves. -/
theorem holds_serveAlone {holds : Database → Prop} (env : Environment (coordinator P))
    (preserved : ∀ before after, Served request before after → holds before → holds after)
    {w : World (coordinator P)} (before : holds w.state) :
    holds (serveAlone env w request).state := by
  have keeps : (request.serve P).Keeps (Preserving holds) :=
    (writes_serve P request).mono preserved
  exact keeps.run_holds before

/-- What the writes of all requests preserve, the run preserves. -/
theorem holds_foldl {holds : Database → Prop} (env : Environment (coordinator P))
    {requests : List Request} (preserved : ∀ request ∈ requests, ∀ before after,
      Served request before after → holds before → holds after)
    {w : World (coordinator P)} (before : holds w.state) :
    holds (requests.foldl (serveAlone env) w).state := by
  have met : Course.Throughout (serveAlone env) (fun _ request => ∀ before after,
      Served request before after → holds before → holds after) w requests :=
    Course.throughout_of_mem fun request member _ => preserved request member
  apply Course.invariant_foldl (fun w : World (coordinator P) => holds w.state) ?_ before met
  intro w request now preserves
  exact holds_serveAlone env preserves now

end Writes

end TapTrade
