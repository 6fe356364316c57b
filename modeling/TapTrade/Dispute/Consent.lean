import TapTrade.Model.Guards
import TapTrade.Model.Sample
import TapTrade.Resumption.Course

/-! # Payouts and disputes

Whether both traders are satisfied is checked when the payout is prepared, but not whether a
dispute is open. Their signatures come later, and nobody checks again: a dispute that is
opened in between does not keep the payout from being broadcast. If disputes only come before
the payout is prepared and keep it from being prepared, then the check is enough.
-/

namespace TapTrade

open Relational Resumption

section Consent

variable {P : Platform} {env : Environment (coordinator P)} {offerId : String}

namespace TakenOffer

/-- No dispute has been opened and none decided. -/
structure Undisputed (row : TakenOffer) : Prop where
  ongoing : row.escrowOngoing = 0
  winner : row.escrowWinnerRobohash = none

/-- Both traders are satisfied and nothing is in dispute. -/
structure Agreed (row : TakenOffer) : Prop extends row.Undisputed where
  bothHappy : row.happiness.bothHappy = true

/-- If a payout has been prepared, then with the consent of both traders. -/
def Consented (row : TakenOffer) : Prop := row.payoutTransactionPsbtHex ≠ none → row.Agreed

instance (row : TakenOffer) : Decidable row.Undisputed :=
  decidable_of_iff (row.escrowOngoing = 0 ∧ row.escrowWinnerRobohash = none)
    ⟨fun holds => ⟨holds.1, holds.2⟩, fun holds => ⟨holds.ongoing, holds.winner⟩⟩

theorem Agreed.setHappy {row : TakenOffer} (agreed : row.Agreed) (isMaker : Bool) :
    ((TakenOffer.setHappy isMaker (boolToSqlInt true)).apply row).Agreed := by
  obtain ⟨⟨ongoing, winner⟩, happy⟩ := agreed
  simp only [happiness, TraderHappiness.bothHappy, Bool.and_eq_true] at happy
  cases isMaker with
  | true =>
      refine ⟨⟨ongoing, winner⟩, ?_⟩
      simp only [happiness, TraderHappiness.bothHappy, Bool.and_eq_true]
      exact ⟨rfl, happy.2⟩
  | false =>
      refine ⟨⟨ongoing, winner⟩, ?_⟩
      simp only [happiness, TraderHappiness.bothHappy, Bool.and_eq_true]
      exact ⟨happy.1, rfl⟩

/-- What leaves the reports, the dispute and the payout alone keeps the consent. -/
theorem Consented.same {row row' : TakenOffer} (consented : row.Consented)
    (payout : row'.payoutTransactionPsbtHex = row.payoutTransactionPsbtHex)
    (agreed : row.Agreed → row'.Agreed) : row'.Consented :=
  fun prepared => agreed (consented (payout ▸ prepared))

theorem Consented.setHappy {row : TakenOffer} (consented : row.Consented) (isMaker : Bool) :
    ((TakenOffer.setHappy isMaker (boolToSqlInt true)).apply row).Consented := by
  apply consented.same
  · cases isMaker <;> rfl
  · exact fun agreed => agreed.setHappy isMaker

theorem Consented.setPartialSig {row : TakenOffer} (consented : row.Consented) (isMaker : Bool)
    (sig : String) : ((TakenOffer.setPartialSig isMaker sig).apply row).Consented := by
  cases isMaker <;> exact consented.same rfl fun agreed => ⟨⟨agreed.1.1, agreed.1.2⟩, agreed.2⟩

theorem Consented.setSignedEscrowPsbt {row : TakenOffer} (consented : row.Consented)
    (isMaker : Bool) (psbt : String) :
    ((TakenOffer.setSignedEscrowPsbt isMaker psbt).apply row).Consented := by
  cases isMaker <;> exact consented.same rfl fun agreed => ⟨⟨agreed.1.1, agreed.1.2⟩, agreed.2⟩

end TakenOffer

section Requests

open Database

theorem consented_takenRow (offer : AwaitingTakerOffer) (robohash : Bytes)
    (payload : OfferPsbtRequest) (escrow : EscrowPsbt) :
    (takenRow offer robohash payload escrow).Consented := fun prepared => absurd rfl prepared

/-- No payout of the offer is prepared. -/
abbrev Unprepared (offerId : String) : Database → Prop :=
  AtOffer offerId fun row => row.payoutTransactionPsbtHex = none

theorem Unprepared.consented {db : Database} (unprepared : Unprepared offerId db) :
    db.AtOffer offerId TakenOffer.Consented :=
  fun row found prepared => absurd (unprepared row found) prepared

/-- A request that neither disputes the offer nor prepares its payout nor decides disputes. -/
def Request.Calm (offerId : String) : Request → Prop
  | .requestEscrow payload => payload.offerIdHex ≠ offerId
  | .pollFinalPayout payload => payload.offerIdHex ≠ offerId
  | .escrowCliLoop => False
  | _ => True

/-- A statement of a calm request does not break the consent. -/
theorem consented_served {request : Request} (calm : request.Calm offerId)
    {before after : Database} (served : Served request before after)
    (consented : before.AtOffer offerId TakenOffer.Consented) :
    after.AtOffer offerId TakenOffer.Consented := by
  cases served with
  | reads => exact consented
  | writes permitted =>
      cases permitted with
      | take => exact consented.insertTaken fun _ => consented_takenRow _ _ _ _
      | signEscrow isMaker =>
          exact consented.updateTaken fun _ row kept => kept.setSignedEscrowPsbt isMaker _
      | confirmObligation isMaker =>
          exact consented.updateTaken fun _ row kept => kept.setHappy isMaker
      | complain | openDispute | toggleProcessing | storePayout =>
          exact consented.updateTaken fun same => absurd same calm
      | signPayout isMaker =>
          exact consented.updateTaken fun _ row kept => kept.setPartialSig isMaker _
      | finish => exact consented.deleteTaken
      | confirmEscrow txid =>
          exact consented.confirm fun row kept => kept.same rfl fun agreed =>
            ⟨⟨agreed.ongoing, agreed.winner⟩, agreed.bothHappy⟩
      | decide => exact calm.elim
      | _ => exact consented

end Requests

section Serving

open Call Database

variable {w : World (coordinator P)}

/-- A request for an escrow that does not get past the checks changes nothing. -/
theorem initiateEscrow_state {payload : TradeObligationsUnsatisfied}
    (refused : (exec env (checkOfferAndConfirmation (P := P) payload.offerIdHex
      payload.robohashHex) w).1 ≠ .ok ()) :
    (exec env (initiateEscrow payload) w).2.state = w.state := by
  have unchanged : w.state = (exec env (initiateEscrow payload) w).2.state := by
    apply holds_of_checked (rfl : w.state = w.state)
    intro w' passed _ _
    rw [passed] at refused
    exact absurd rfl refused
  exact unchanged.symm

/-- A dispute of an offer whose payout is not prepared. -/
theorem unprepared_requestEscrow {payload : TradeObligationsUnsatisfied}
    (unprepared : Unprepared offerId w.state) :
    Unprepared offerId (serveAlone env w (.requestEscrow payload)).state := by
  refine holds_serveAlone env ?_ unprepared
  rintro before after (_ | permitted) holds
  · exact holds
  · cases permitted with
    | complain isMaker =>
        refine AtOffer.updateTaken holds fun _ row missing => ?_
        cases isMaker <;> exact missing
    | openDispute => exact AtOffer.updateTaken holds fun _ _ missing => missing

/-- The payout of an offer is prepared with the consent of both traders, if not over a
    dispute. -/
theorem consented_handleFinalPayout {payload : OfferTakenRequest}
    (consented : w.state.AtOffer payload.offerIdHex TakenOffer.Consented)
    (undisputed : w.state.AtOffer payload.offerIdHex fun row =>
      row.happiness.bothHappy = true → row.Undisputed) :
    (exec env (handleFinalPayout payload) w).2.state.AtOffer payload.offerIdHex
      TakenOffer.Consented := by
  by_cases happy : ∃ row, w.state.takenOffers.find? payload.offerIdHex = some row ∧
      row.happiness.bothHappy = true
  · obtain ⟨row, found, happy⟩ := happy
    have agreed : w.state.AtOffer payload.offerIdHex TakenOffer.Agreed := by
      intro other same
      cases found.symm.trans same
      exact ⟨undisputed row found happy, happy⟩
    have kept : (exec env (handleFinalPayout payload) w).2.state.AtOffer payload.offerIdHex
        TakenOffer.Agreed := by
      apply Keeps.exec_holds ?_ agreed
      apply (writes_handleFinalPayout payload).mono
      rintro before after (_ | permitted) holds
      · exact holds
      · cases permitted with
        | toggleProcessing | storePayout =>
            exact AtOffer.updateTaken holds fun _ row old =>
              ⟨⟨old.ongoing, old.winner⟩, old.bothHappy⟩
    exact fun row found _ => kept row found
  · rw [handleFinalPayout_state fun row found => ?_]
    · exact consented
    · cases reported : row.happiness.bothHappy with
      | true => exact absurd ⟨row, found, reported⟩ happy
      | false => exact reported

/-- A verdict is not recorded for an offer whose payout is prepared. -/
theorem consented_escrowCliLoop (consented : w.state.AtOffer offerId TakenOffer.Consented) :
    (exec env escrowCliLoop w).2.state.AtOffer offerId TakenOffer.Consented := by
  by_cases disputed : ∃ row, w.state.takenOffers.find? offerId = some row ∧ row.escrowOngoing = 1
  · obtain ⟨row, found, ongoing⟩ := disputed
    have unprepared : Unprepared offerId w.state := by
      intro other same
      cases found.symm.trans same
      by_contra prepared
      cases ongoing.symm.trans (consented row found prepared).ongoing
    apply Unprepared.consented
    apply holds_escrowCliLoop unprepared
    exact fun _ _ _ _ db winner holds => AtOffer.updateTaken holds fun _ _ missing => missing
  · apply holds_escrowCliLoop consented
    intro id row found ongoing db winner holds
    exact holds.updateTaken fun same => absurd ⟨row, same ▸ found, ongoing⟩ disputed

/-- The request opens no dispute of an offer whose payout is prepared, and it prepares no
    payout of an offer in dispute. -/
def Undisputing (offerId : String) (env : Environment (coordinator P)) (w : World (coordinator P)) :
    Request → Prop
  | .requestEscrow payload => payload.offerIdHex = offerId →
      (exec env (checkOfferAndConfirmation (P := P) payload.offerIdHex
        payload.robohashHex) w).1 = .ok () → Unprepared offerId w.state
  | .pollFinalPayout payload => payload.offerIdHex = offerId →
      w.state.AtOffer offerId fun row => row.happiness.bothHappy = true → row.Undisputed
  | _ => True

instance : DecidablePred (Undisputing offerId env w)
  | .requestEscrow _ | .pollFinalPayout _ => inferInstanceAs (Decidable (_ → _))
  | .createOffer _ | .submitMakerBond _ | .fetchAvailableOffers _ | .submitTakerBond _
  | .requestOfferStatus _ | .submitEscrowPsbt _ | .pollEscrowConfirmation _
  | .submitObligationConfirmation _ | .submitPayoutSignature _
  | .monitorBonds | .updateTransactionConfirmations | .escrowCliLoop => .isTrue trivial

/-- Such a request leaves the consent as it was. -/
theorem consented_serve {request : Request}
    (consented : w.state.AtOffer offerId TakenOffer.Consented)
    (undisputing : Undisputing offerId env w request) :
    (serveAlone env w request).state.AtOffer offerId TakenOffer.Consented := by
  by_cases calm : request.Calm offerId
  · exact holds_serveAlone env (fun _ _ served => consented_served calm served) consented
  cases request with
  | requestEscrow payload =>
      have same : payload.offerIdHex = offerId := not_ne_iff.mp calm
      by_cases checked : (exec env (checkOfferAndConfirmation (P := P) payload.offerIdHex
          payload.robohashHex) w).1 = .ok ()
      · exact Unprepared.consented (unprepared_requestEscrow (undisputing same checked))
      · rw [serveAlone, World.serve, Request.serve, Program.map, Program.run_bind]
        exact (initiateEscrow_state checked).symm ▸ consented
  | pollFinalPayout payload =>
      have same : payload.offerIdHex = offerId := not_ne_iff.mp calm
      subst same
      rw [serveAlone, World.serve, Request.serve, Program.map, Program.run_bind]
      exact consented_handleFinalPayout consented (undisputing rfl)
  | escrowCliLoop =>
      rw [serveAlone, World.serve, Request.serve, Program.map, Program.run_bind]
      exact consented_escrowCliLoop consented
  | _ => exact absurd trivial calm

/-- Both traders agree at every question that is asked after those of `log`. -/
def AgreedSince (offerId : String) (log log' : Log (coordinator P)) : Prop :=
  ∀ event ∈ log'.drop log.length,
    ∃ row, event.state.takenOffers.find? offerId = some row ∧ row.Agreed

/-- Whatever a signature of the payout makes the coordinator broadcast, both traders agree
    to it at that moment. -/
def PaysByConsent (env : Environment (coordinator P)) (w : World (coordinator P))
    (payload : PayoutSignatureRequest) : Prop :=
  AgreedSince payload.offerIdHex w.log (exec env (handlePayoutSignature payload) w).2.log

theorem agreedSince_self {log log' : Log (coordinator P)} (same : log' = log) :
    AgreedSince offerId log log' := by
  subst same
  simp [AgreedSince]

theorem silent_checkOfferAndConfirmation (offerIdHex robohashHex : String) :
    (checkOfferAndConfirmation offerIdHex robohashHex : Act P RequestError Unit).Silent := by
  apply Silent.bind
  · exact silent_mapError (Silent.bind (by simp) fun _ => Silent.bind (by simp) fun _ => by simp)
  intro valid
  apply silent_ite (Silent.bind ?_ fun _ => by simp) (by simp)
  exact silent_mapError (Silent.bind (by simp) fun _ => by simp)

theorem silent_insertPartialSig (sig offerIdHex robohashHex : String) :
    (insertPartialSig sig offerIdHex robohashHex : Act P Error Unit).Silent := by
  apply Silent.bind
  · exact Silent.bind (by simp) fun _ => Silent.bind (by simp) fun _ => by simp
  intro isMaker
  exact Silent.bind (by simp) fun _ => by simp

theorem fetchKeyspendPayoutInformation_ok {context : Option (KeyspendContext P)}
    {w' : World (coordinator P)}
    (h : exec env (fetchKeyspendPayoutInformation offerId) w = (.ok context, w')) :
    ∃ row, w.state.takenOffers.find? offerId = some row ∧ row.keyspendContext P = .ok context ∧
      w' = World.tick w := by
  obtain ⟨row, w₁, fetched, h₁⟩ := exec_bind_ok env w h
  obtain ⟨found, rfl⟩ := exec_fetchOne_ok fetched
  obtain ⟨read, rfl⟩ := exec_ofExcept_ok env _ h₁
  exact ⟨row, found, read, rfl⟩

/-- The broadcast is the only question at the end of a payout. -/
theorem finishPayout_log (env : Environment (coordinator P)) (offerId : String)
    (context : KeyspendContext P) (w : World (coordinator P)) :
    ∃ event, (exec env (finishPayout offerId context) w).2.log = w.log ++ [event] ∧
      event.state = w.state := by
  let query : Query P := .broadcastKeyspendTx context
  let asked := (w.ask env query).2
  have asks : (exec env (Call.mapError RequestError.coordinatorError
      (tryAsk (.broadcastKeyspendTx context) id)) w).2.log = asked.log := by
    rw [exec_mapError, tryAsk, exec_bind]
    exact silent_ofExcept _ env asked
  refine ⟨⟨query, env.answer w.clock query, w.state⟩, ?_, rfl⟩
  apply exec_bind_cases (motive := fun ends => ends.2.log = asked.log) env w
  · intro e w' failed
    rw [failed] at asks
    exact asks
  · intro u w' broadcast
    rw [broadcast] at asks
    have deletes : (Call.mapError (fun e => RequestError.database
        (.context "Failed to delete complete offer from taken_offers" e))
        (deleteCompleteOffer offerId) >>= fun _ => pure true : Act P RequestError Bool).Silent :=
      Silent.bind (silent_mapError (silent_execute _)) fun _ => silent_pure _
    exact (deletes env w').trans asks

/-- A part of a call that asks nothing and keeps the consent. -/
theorem agreedSince_bind {ε α β : Type} {c : Act P ε α} {g : α → Act P ε β} (silent : c.Silent)
    (keeps : c.Keeps (Preserving (AtOffer offerId TakenOffer.Consented)))
    (consented : w.state.AtOffer offerId TakenOffer.Consented)
    (continues : ∀ a w', w'.state.AtOffer offerId TakenOffer.Consented →
      AgreedSince offerId w'.log (exec env (g a) w').2.log) :
    AgreedSince offerId w.log (exec env (c >>= g) w).2.log := by
  have log : (exec env c w).2.log = w.log := silent env w
  have kept : (exec env c w).2.state.AtOffer offerId TakenOffer.Consented :=
    keeps.exec_holds consented
  apply exec_bind_cases (motive := fun ends => AgreedSince offerId w.log ends.2.log) env w
  · intro e w' failed
    rw [failed] at log
    exact agreedSince_self log
  · intro a w' returned
    rw [returned] at log kept
    exact log ▸ continues a w' kept

/-- The aggregation of the partial signatures. -/
theorem agreedSince_aggregation (noPsbt : P.psbtDeserialize [] = none)
    (consented : w.state.AtOffer offerId TakenOffer.Consented) :
    AgreedSince offerId w.log (exec env
      (Call.mapError .database (fetchKeyspendPayoutInformation offerId) >>= fun
        | some context => finishPayout offerId context
        | none => pure false : Act P RequestError Bool) w).2.log := by
  apply exec_bind_cases (motive := fun ends => AgreedSince offerId w.log ends.2.log) env w
  · intro e w' failed
    have silent : (Call.mapError RequestError.database
        (fetchKeyspendPayoutInformation (P := P) offerId)).Silent :=
      silent_mapError (Silent.bind (silent_fetchOne _) fun _ => silent_ofExcept _)
    have log := silent env w
    rw [failed] at log
    exact agreedSince_self log
  · intro context w' fetched
    obtain ⟨row, found, read, rfl⟩ := fetchKeyspendPayoutInformation_ok
      (exec_mapError_ok env w fetched)
    cases context with
    | none => exact agreedSince_self rfl
    | some context =>
        obtain ⟨event, asked, atThatMoment⟩ := finishPayout_log env offerId context (World.tick w)
        have before : (World.tick w).log = w.log := rfl
        intro other member
        rw [asked, before, List.drop_left, List.mem_singleton] at member
        subst member
        refine ⟨row, ?_, consented row found (prepared_of_keyspendContext noPsbt read)⟩
        rw [atThatMoment]
        exact found

theorem paysByConsent_of_consented (noPsbt : P.psbtDeserialize [] = none)
    {payload : PayoutSignatureRequest}
    (consented : w.state.AtOffer payload.offerIdHex TakenOffer.Consented) :
    PaysByConsent env w payload := by
  apply agreedSince_bind (silent_checkOfferAndConfirmation _ _) (by simp) consented
  intro checked w₁ consented
  apply agreedSince_bind (silent_mapError (silent_insertPartialSig _ _ _)) ?_ consented
  · exact fun inserted w₂ consented => agreedSince_aggregation noPsbt consented
  · refine keeps_mapError (keeps_insertPartialSig fun db isMaker holds => ?_)
    exact holds.updateTaken fun _ row kept => kept.setPartialSig isMaker _

/-- In every run in which no dispute is opened once the payout is prepared, and no payout is
    prepared over a dispute, the payout is broadcast only by consent. -/
theorem paysByConsent_throughout (noPsbt : P.psbtDeserialize [] = none)
    (env : Environment (coordinator P)) {w : World (coordinator P)} (offerId : String)
    (absent : w.state.takenOffers.find? offerId = none) {requests : List Request}
    (undisputed : Course.Throughout (serveAlone env) (Undisputing offerId env) w requests) :
    Course.Throughout (serveAlone env)
      (fun w request => ∀ payload, request = .submitPayoutSignature payload →
        payload.offerIdHex = offerId → PaysByConsent env w payload) w requests := by
  refine Course.throughout_of_invariant
    (fun w => w.state.AtOffer offerId TakenOffer.Consented) ?_ ?_ ?_ undisputed
  · exact fun w request consented undisputing => consented_serve consented undisputing
  · rintro w request consented - payload rfl rfl
    exact paysByConsent_of_consented noPsbt consented
  · intro row found
    cases absent.symm.trans found

end Serving

end Consent

namespace Sample

/-- A trade in which the requests `between` are made once the payout is prepared, up to
    the first signature. -/
def signedOnce (between : List Request) : List Request :=
  prepared ++ between ++ [Request.submitPayoutSignature makerSignature]

/-- The world before the second signature. -/
def beforeBroadcast (between : List Request) : World (coordinator .sample) :=
  runAlone environment (signedOnce between)

end Sample

/-- Without a complaint the second signature makes the coordinator broadcast by consent. -/
theorem paysByConsent_throughout_sample :
    Course.Throughout (serveAlone Sample.environment)
      (fun w request => ∀ payload, request = .submitPayoutSignature payload →
        payload.offerIdHex = Sample.offerId → PaysByConsent Sample.environment w payload)
      (startup .sample)
      (Sample.signedOnce [] ++ [Request.submitPayoutSignature Sample.takerSignature]) :=
  paysByConsent_throughout rfl Sample.environment Sample.offerId rfl
    (by decide +kernel)

/-- The maker asks for an escrow once the payout is prepared, and then both sign: the payout
    is broadcast over the open dispute. -/
theorem payout_over_dispute :
    ¬ PaysByConsent Sample.environment
      (Sample.beforeBroadcast [Request.requestEscrow Sample.complaint]) Sample.takerSignature := by
  intro pays
  have disputed : ∃ event ∈ (Call.exec Sample.environment
      (handlePayoutSignature Sample.takerSignature)
      (Sample.beforeBroadcast [Request.requestEscrow Sample.complaint])).2.log.drop
        (Sample.beforeBroadcast [Request.requestEscrow Sample.complaint]).log.length,
      (event.state.takenOffers.find? Sample.offerId).map TakenOffer.escrowOngoing = some 1 := by
    decide +kernel
  obtain ⟨event, member, ongoing⟩ := disputed
  obtain ⟨row, found, agreed⟩ := pays event member
  have open' : some row.escrowOngoing = some 1 := by
    rw [← ongoing]
    exact (congrArg (Option.map TakenOffer.escrowOngoing) found).symm
  rw [agreed.ongoing] at open'
  cases open'

end TapTrade
