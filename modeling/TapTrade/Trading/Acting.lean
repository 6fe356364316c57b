import TapTrade.Trading.Insertions
import TapTrade.Model.Guards
import TapTrade.Taking.Usability

/-! # What a trader changes

The handlers by which the traders of an offer act look up which of the two is calling, and write
into the columns of that one. What is not theirs stays as it is: the other tables, the other
trades and, in their own trade, whatever the other trader has reported.
-/

namespace TapTrade

open Relational Resumption

/-- The offer and the robohash of a request by which a trader acts in a trade. -/
def Request.acting? : Request → Option (String × String)
  | .submitEscrowPsbt payload => some (payload.offerIdHex, payload.robohashHex)
  | .submitObligationConfirmation payload => some (payload.offerIdHex, payload.robohashHex)
  | .requestEscrow payload => some (payload.offerIdHex, payload.robohashHex)
  | .submitPayoutSignature payload => some (payload.offerIdHex, payload.robohashHex)
  | _ => none

/-- The row without what the request of the maker or the taker may change in it. -/
def Request.mask (isMaker : Bool) : Request → TakenOffer → TakenOffer
  | .submitEscrowPsbt _ => (TakenOffer.setSignedEscrowPsbt isMaker "").apply
  | .submitObligationConfirmation _ => (TakenOffer.setHappy isMaker none).apply
  | .requestEscrow _ => fun row =>
      TakenOffer.setEscrowOngoing.apply ((TakenOffer.setHappy isMaker none).apply row)
  | .submitPayoutSignature _ => (TakenOffer.setPartialSig isMaker "").apply
  | _ => id

theorem Request.trade_mask (request : Request) (isMaker : Bool) (row : TakenOffer) :
    (request.mask isMaker row).trade = row.trade := by
  cases request <;> cases isMaker <;> rfl

/-- Only the row of the offer changes, and in it only what is masked. -/
structure ActsIn (offerId : String) (mask : TakenOffer → TakenOffer) (before after : Database) :
    Prop where
  makerRequests : after.makerRequests = before.makerRequests
  activeMakerOffers : after.activeMakerOffers = before.activeMakerOffers
  others : ∀ id, id ≠ offerId → after.takenOffers.find? id = before.takenOffers.find? id
  own : (after.takenOffers.find? offerId).map mask = (before.takenOffers.find? offerId).map mask

namespace ActsIn

variable {offerId : String} {mask : TakenOffer → TakenOffer} {db before between after : Database}

instance : Std.Refl (ActsIn offerId mask) := ⟨fun _ => ⟨rfl, rfl, fun _ _ => rfl, rfl⟩⟩

theorem trans (first : ActsIn offerId mask before between)
    (second : ActsIn offerId mask between after) : ActsIn offerId mask before after where
  makerRequests := second.makerRequests.trans first.makerRequests
  activeMakerOffers := second.activeMakerOffers.trans first.activeMakerOffers
  others id other := (second.others id other).trans (first.others id other)
  own := second.own.trans first.own

theorem updateTaken {change : Change TakenOffer}
    (masked : ∀ row, mask (change.apply row) = mask row) :
    ActsIn offerId mask db (db.updateTaken offerId change) := by
  refine ⟨rfl, rfl, fun id other => ?_, ?_⟩
  · rw [Database.updateTaken, Table.find?_update, if_neg other]
  · rw [Database.updateTaken, Table.find?_update_self, Option.map_map]
    exact congrArg (fun f => (db.takenOffers.find? offerId).map f) (funext masked)

/-- The roles stay if they are not masked. -/
theorem role? (acts : ActsIn offerId mask before after)
    (keeps : ∀ row, (mask row).trade = row.trade) (robohash : Bytes) :
    after.role? offerId robohash = before.role? offerId robohash := by
  have unmasked (row : TakenOffer) : (mask row).role? robohash = row.role? robohash :=
    TakenOffer.role?_of_trade (keeps row) robohash
  have roles (found : Option TakenOffer) :
      found.bind (TakenOffer.role? robohash) = (found.map mask).bind (TakenOffer.role? robohash) := by
    cases found with
    | none => rfl
    | some row => exact (unmasked row).symm
  rw [Database.role?, Database.role?, roles, acts.own, ← roles]

end ActsIn

section Roles

open Call

variable {P : Platform} {α β ε ε' : Type} {env : Environment (coordinator P)}
  {w w' : World (coordinator P)} {offerId robohashHex : String} {robohash : Bytes} {isMaker : Bool}

theorem exec_isMakerInTakenOffers_ok {answer : Bool}
    (decoded : Hex.decode robohashHex = some robohash)
    (h : exec env (isMakerInTakenOffers offerId robohashHex) w = (.ok answer, w')) :
    w.state.role? offerId robohash = some answer := by
  rw [isMakerInTakenOffers_eq decoded] at h
  obtain ⟨row, w₁, fetched, rest⟩ := exec_bind_ok env w h
  obtain ⟨found, -⟩ := exec_fetchOne_ok fetched
  obtain ⟨role, -⟩ := exec_ofOption_ok env w₁ rest
  rw [Database.role?, found, Option.bind_some, role]

/-- The call of a trader with the role changes only what is masked, in the row of the offer. -/
def ActsFor (offerId : String) (robohash : Bytes) (isMaker : Bool) (mask : TakenOffer → TakenOffer)
    (c : Act P ε α) : Prop :=
  ∀ (env : Environment (coordinator P)) (w : World (coordinator P)),
    w.state.role? offerId robohash = some isMaker →
      ActsIn offerId mask w.state (exec env c w).2.state

variable {mask : TakenOffer → TakenOffer} {c : Act P ε α} {g : α → Act P ε β}

theorem actsFor_of_keeps (keeps : c.Keeps (ActsIn offerId mask)) :
    ActsFor offerId robohash isMaker mask c :=
  fun env w _ => Program.Keeps.run keeps env w (fun _ => Std.Refl.refl _) ActsIn.trans

theorem ActsFor.bind (unmasked : ∀ row, (mask row).trade = row.trade)
    (first : ActsFor offerId robohash isMaker mask c)
    (second : ∀ a, ActsFor offerId robohash isMaker mask (g a)) :
    ActsFor offerId robohash isMaker mask (c >>= g) := by
  intro env w role
  have acts := first env w role
  apply exec_bind_cases (motive := fun ends => ActsIn offerId mask w.state ends.2.state) env w
  · intro e w' stops
    rw [stops] at acts
    exact acts
  · intro a w' goesOn
    rw [goesOn] at acts
    exact acts.trans (second a env w' ((acts.role? unmasked robohash).trans role))

theorem ActsFor.mapError {f : ε → ε'} (acts : ActsFor offerId robohash isMaker mask c) :
    ActsFor offerId robohash isMaker mask (c.mapError f) := by
  intro env w role
  rw [exec_mapError]
  exact acts env w role

theorem ActsFor.ite {p : Prop} [Decidable p] {d : Act P ε α}
    (yes : ActsFor offerId robohash isMaker mask c) (no : ActsFor offerId robohash isMaker mask d) :
    ActsFor offerId robohash isMaker mask (if p then c else d) := by
  split
  · exact yes
  · exact no

/-- A call that goes by the role of the trader. -/
theorem ActsFor.role {method : Bool → Act P Error α}
    (decoded : Hex.decode robohashHex = some robohash)
    (acts : ActsFor offerId robohash isMaker mask (method isMaker)) :
    ActsFor offerId robohash isMaker mask
      (isMakerInTakenOffers offerId robohashHex >>= method) := by
  intro env w role
  have reads : (exec env (isMakerInTakenOffers (P := P) offerId robohashHex) w).2.state =
      w.state := Keeps.exec_state (by simp)
  apply exec_bind_cases (motive := fun ends => ActsIn offerId mask w.state ends.2.state) env w
  · intro e w' stops
    rw [stops] at reads
    rw [show w'.state = w.state from reads]
    exact Std.Refl.refl _
  · intro answer w' answers
    rw [answers] at reads
    have same : w'.state = w.state := reads
    obtain rfl : answer = isMaker :=
      Option.some.inj ((exec_isMakerInTakenOffers_ok decoded answers).symm.trans role)
    rw [← same] at role ⊢
    exact acts env w' role

/-- What each handler does up to the deletion of a finished trade. -/
theorem actsFor_setTraderHappyField (decoded : Hex.decode robohashHex = some robohash)
    (happy : Bool)
    (hides : ∀ row,
      mask ((TakenOffer.setHappy isMaker (boolToSqlInt happy)).apply row) = mask row)
    (opens : happy = false → ∀ row, mask (TakenOffer.setEscrowOngoing.apply row) = mask row) :
    ActsFor offerId robohash isMaker mask
      (setTraderHappyField offerId robohashHex happy : Act P Error Unit) := by
  apply ActsFor.role decoded
  apply actsFor_of_keeps
  apply Keeps.bind (keeps_execute fun db => .updateTaken hides)
  intro reported
  cases happy with
  | true => exact keeps_pure _
  | false => exact keeps_execute fun db => .updateTaken (opens rfl)

theorem actsFor_insertPartialSig (decoded : Hex.decode robohashHex = some robohash)
    (sig : String)
    (hides : ∀ row, mask ((TakenOffer.setPartialSig isMaker sig).apply row) = mask row) :
    ActsFor offerId robohash isMaker mask
      (insertPartialSig sig offerId robohashHex : Act P Error Unit) := by
  apply ActsFor.role decoded
  apply actsFor_of_keeps
  apply Keeps.bind (by simp)
  intro status
  exact keeps_ite (by simp) (keeps_execute fun db => .updateTaken hides)

theorem actsFor_insertSignedEscrowPsbt {payload : PsbtSubmissionRequest}
    (decoded : Hex.decode payload.robohashHex = some robohash)
    (hides : ∀ row,
      mask ((TakenOffer.setSignedEscrowPsbt isMaker payload.signedPsbtHex).apply row) = mask row) :
    ActsFor payload.offerIdHex robohash isMaker mask
      (insertSignedEscrowPsbt payload : Act P Error Bool) := by
  apply ActsFor.role decoded
  apply actsFor_of_keeps
  apply Keeps.bind (by simp)
  intro status
  apply keeps_ite (by simp)
  exact Keeps.bind (keeps_execute fun db => .updateTaken hides) fun _ => keeps_pure _

theorem actsFor_handleSignedEscrowPsbt {payload : PsbtSubmissionRequest}
    (decoded : Hex.decode payload.robohashHex = some robohash) :
    ActsFor payload.offerIdHex robohash isMaker ((Request.submitEscrowPsbt payload).mask isMaker)
      (handleSignedEscrowPsbt payload : Act P RequestError Unit) := by
  have unmasked := (Request.submitEscrowPsbt payload).trade_mask isMaker
  apply ActsFor.bind unmasked (actsFor_of_keeps (by simp))
  intro valid
  apply ActsFor.ite _ (actsFor_of_keeps (by simp))
  apply ActsFor.bind unmasked
  · exact (actsFor_insertSignedEscrowPsbt decoded fun row => by cases isMaker <;> rfl).mapError
  · intro inserted
    apply actsFor_of_keeps
    apply keeps_ite _ (by simp)
    apply Keeps.bind (keeps_mapError (Keeps.bind (by simp) fun row => by split <;> simp))
    intro both
    cases both <;> simp

theorem actsFor_handleObligationConfirmation {payload : OfferTakenRequest}
    (decoded : Hex.decode payload.robohashHex = some robohash) :
    ActsFor payload.offerIdHex robohash isMaker
      ((Request.submitObligationConfirmation payload).mask isMaker)
      (handleObligationConfirmation payload : Act P RequestError Unit) := by
  apply ActsFor.bind (Request.trade_mask _ isMaker) (actsFor_of_keeps (by simp))
  intro checked
  apply ActsFor.mapError
  exact actsFor_setTraderHappyField decoded true (fun row => by cases isMaker <;> rfl) nofun

theorem actsFor_initiateEscrow {payload : TradeObligationsUnsatisfied}
    (decoded : Hex.decode payload.robohashHex = some robohash) :
    ActsFor payload.offerIdHex robohash isMaker ((Request.requestEscrow payload).mask isMaker)
      (initiateEscrow payload : Act P RequestError Unit) := by
  apply ActsFor.bind (Request.trade_mask _ isMaker) (actsFor_of_keeps (by simp))
  intro checked
  apply ActsFor.mapError
  apply actsFor_setTraderHappyField decoded false
  · exact fun row => by cases isMaker <;> rfl
  · exact fun _ row => by cases isMaker <;> rfl

/-- What a signature does before both are there. -/
def signing (payload : PayoutSignatureRequest) :
    Act P RequestError (Option (KeyspendContext P)) := do
  checkOfferAndConfirmation payload.offerIdHex payload.robohashHex
  Call.mapError .database
    (insertPartialSig payload.partialSigHex payload.offerIdHex payload.robohashHex)
  Call.mapError .database (fetchKeyspendPayoutInformation payload.offerIdHex)

theorem handlePayoutSignature_eq (payload : PayoutSignatureRequest) :
    (handlePayoutSignature payload : Act P RequestError Bool) = (do
      match ← signing payload with
      | some context => finishPayout payload.offerIdHex context
      | none => return false) := by
  simp only [signing, bind_assoc]
  rfl

theorem actsFor_signing {payload : PayoutSignatureRequest}
    (decoded : Hex.decode payload.robohashHex = some robohash) :
    ActsFor payload.offerIdHex robohash isMaker
      ((Request.submitPayoutSignature payload).mask isMaker) (signing (P := P) payload) := by
  have unmasked := (Request.submitPayoutSignature payload).trade_mask isMaker
  apply ActsFor.bind unmasked (actsFor_of_keeps (by simp))
  intro checked
  apply ActsFor.bind unmasked
  · exact (actsFor_insertPartialSig decoded _ fun row => by cases isMaker <;> rfl).mapError
  · exact fun inserted => actsFor_of_keeps (by simp)

/-- Both partial signatures are there. -/
def TakenOffer.Signed (row : TakenOffer) : Prop :=
  row.musigPartialSigHexMaker.isSome ∧ row.musigPartialSigHexTaker.isSome

theorem TakenOffer.signed_of_keyspendContext {row : TakenOffer} {context : KeyspendContext P}
    (read : row.keyspendContext P = .ok (some context)) : row.Signed := by
  unfold TakenOffer.keyspendContext at read
  split at read
  case h_1 maker taker => exact ⟨by rw [maker]; rfl, by rw [taker]; rfl⟩
  case h_2 => cases read

theorem silent_signing (payload : PayoutSignatureRequest) :
    (signing (P := P) payload).Silent := by
  have valid : (isValidRobohashInTable payload.robohashHex payload.offerIdHex :
      Act P Error Bool).Silent :=
    Silent.bind (by simp) fun _ => Silent.bind (by simp) fun _ => by simp
  have role : (isMakerInTakenOffers payload.offerIdHex payload.robohashHex :
      Act P Error Bool).Silent :=
    Silent.bind (by simp) fun _ => Silent.bind (by simp) fun _ => by simp
  apply Silent.bind
  · apply Silent.bind (silent_mapError valid)
    intro named
    apply silent_ite _ (by simp)
    apply Silent.bind (silent_mapError (Silent.bind (by simp) fun _ => by simp))
    exact fun confirmed => silent_ite (by simp) (by simp)
  · intro checked
    apply Silent.bind
    · apply silent_mapError (Silent.bind role fun isMaker => ?_)
      exact Silent.bind (by simp) fun status => silent_ite (by simp) (by simp)
    · exact fun inserted => silent_mapError (Silent.bind (by simp) fun _ => by simp)

theorem signed_of_signing {payload : PayoutSignatureRequest} {context : KeyspendContext P}
    (signs : exec env (signing payload) w = (.ok (some context), w')) :
    ∃ row, w'.state.takenOffers.find? payload.offerIdHex = some row ∧ row.Signed := by
  obtain ⟨checked, w₁, -, rest⟩ := exec_bind_ok env w signs
  obtain ⟨inserted, w₂, -, looks⟩ := exec_bind_ok env w₁ rest
  obtain ⟨row, w₃, fetched, reads⟩ := exec_bind_ok env w₂ (exec_mapError_ok env w₂ looks)
  obtain ⟨found, rfl⟩ := exec_fetchOne_ok fetched
  obtain ⟨read, rfl⟩ := exec_ofExcept_ok env _ reads
  exact ⟨row, found, TakenOffer.signed_of_keyspendContext read⟩

/-- The payout transaction has been broadcast. -/
def broadcastEvent (context : KeyspendContext P) (state : Database) : Event (coordinator P) where
  query := .broadcastKeyspendTx context
  answer := .ok ()
  state := state

/-- The payout was broadcast with both partial signatures at hand, and the trade is gone. -/
structure Finishes (offerId : String) (w after : World (coordinator P)) : Prop where
  gone : after.state.takenOffers.find? offerId = none
  broadcast : ∃ context state row, after.log = w.log ++ [broadcastEvent context state] ∧
    state.takenOffers.find? offerId = some row ∧ row.Signed

/-- The payout is not broadcast or the trade is not deleted, or both are done. -/
theorem exec_finishPayout (env : Environment (coordinator P)) (w : World (coordinator P))
    (context : KeyspendContext P) :
    (exec env (finishPayout offerId context) w).2.state = w.state ∨
      (exec env (finishPayout offerId context) w).2.state = w.state.deleteTaken offerId ∧
      (exec env (finishPayout offerId context) w).2.log =
        w.log ++ [broadcastEvent context w.state] := by
  apply exec_bind_cases (motive := fun ends => ends.2.state = w.state ∨
    ends.2.state = w.state.deleteTaken offerId ∧
      ends.2.log = w.log ++ [broadcastEvent context w.state]) env w
  · intro e w' refused
    have same : (exec env (Call.mapError RequestError.coordinatorError
        (tryAsk (.broadcastKeyspendTx context) id)) w).2.state = w.state :=
      Keeps.exec_state (by simp)
    rw [refused] at same
    exact .inl same
  · intro u w₁ broadcast
    obtain ⟨accepted, rfl⟩ := exec_tryAsk_ok (exec_mapError_ok env w broadcast)
    have accepted : env.answer w.clock (.broadcastKeyspendTx context) = .ok () := accepted
    have logged : (w.ask env (.broadcastKeyspendTx context)).2.log =
        w.log ++ [broadcastEvent context w.state] := by
      rw [World.ask, accepted]
      rfl
    rw [exec_bind, exec_mapError, deleteCompleteOffer]
    cases fault : env.fault (w.ask env (.broadcastKeyspendTx context)).2.clock with
    | some failure =>
        rw [exec_execute_of_fault fault]
        exact .inl rfl
    | none =>
        rw [exec_execute fault]
        exact .inr ⟨rfl, logged⟩

/-- What a request of a trader has done, if it was served without interference. -/
structure ActsAlone (request : Request) (offerId : String) (isMaker : Bool) (row : TakenOffer)
    (w after : World (coordinator P)) : Prop where
  makerRequests : after.state.makerRequests = w.state.makerRequests
  activeMakerOffers : after.state.activeMakerOffers = w.state.activeMakerOffers
  others : ∀ id, id ≠ offerId → after.state.takenOffers.find? id = w.state.takenOffers.find? id
  own : (∃ now, after.state.takenOffers.find? offerId = some now ∧
      request.mask isMaker now = request.mask isMaker row) ∨
    (∃ payload, request = .submitPayoutSignature payload) ∧ Finishes offerId w after

theorem ActsIn.alone {request : Request} {row : TakenOffer} {after : World (coordinator P)}
    (acts : ActsIn offerId (request.mask isMaker) w.state after.state)
    (found : w.state.takenOffers.find? offerId = some row) :
    ActsAlone request offerId isMaker row w after := by
  refine ⟨acts.makerRequests, acts.activeMakerOffers, acts.others, .inl ?_⟩
  have own := acts.own
  rw [found, Option.map_some] at own
  exact Option.map_eq_some_iff.mp own

theorem actsAlone_handlePayoutSignature {payload : PayoutSignatureRequest} {row : TakenOffer}
    (decoded : Hex.decode payload.robohashHex = some robohash)
    (found : w.state.takenOffers.find? payload.offerIdHex = some row)
    (role : w.state.role? payload.offerIdHex robohash = some isMaker) :
    ActsAlone (.submitPayoutSignature payload) payload.offerIdHex isMaker row w
      (exec env (handlePayoutSignature payload) w).2 := by
  rw [handlePayoutSignature_eq]
  have acts := actsFor_signing decoded env w role
  have silent := silent_signing payload env w
  apply exec_bind_cases (motive := fun ends => ActsAlone (.submitPayoutSignature payload)
    payload.offerIdHex isMaker row w ends.2) env w
  · intro e w' stops
    rw [stops] at acts
    exact acts.alone found
  · intro context w' signs
    rw [signs] at acts silent
    cases context with
    | none => exact acts.alone found
    | some context =>
        rcases exec_finishPayout env w' context with same | ⟨deleted, logged⟩
        · apply ActsIn.alone _ found
          rw [same]
          exact acts
        · obtain ⟨now, there, signed⟩ := signed_of_signing signs
          have others (id : String) (other : id ≠ payload.offerIdHex) :
              (w'.state.deleteTaken payload.offerIdHex).takenOffers.find? id =
                w.state.takenOffers.find? id := by
            rw [Database.deleteTaken, Table.find?_delete, if_neg other]
            exact acts.others id other
          refine ⟨?_, ?_, ?_, .inr ⟨⟨payload, rfl⟩, ?_, context, w'.state, now, ?_, there, signed⟩⟩
          · rw [deleted]
            exact acts.makerRequests
          · rw [deleted]
            exact acts.activeMakerOffers
          · rw [deleted]
            exact others
          · rw [deleted]
            exact Table.find?_delete_self _ _
          · rw [logged]
            exact congrArg (· ++ _) silent

theorem serveAlone_of_call {request : Request} {c : Act P ε α} {reply : Outcome ε α → Reply}
    (serves : request.serve P = c.run.map reply) :
    serveAlone env w request = (exec env c w).2 := by
  rw [serveAlone, World.serve, serves, Program.map, Program.run_bind]
  rfl

/-- A request of one of the traders of an offer. -/
theorem actsAlone_serveAlone {request : Request} {row : TakenOffer}
    (acting : request.acting? = some (offerId, robohashHex))
    (decoded : Hex.decode robohashHex = some robohash)
    (found : w.state.takenOffers.find? offerId = some row)
    (role : row.role? robohash = some isMaker) :
    ActsAlone request offerId isMaker row w (serveAlone env w request) := by
  have known : w.state.role? offerId robohash = some isMaker := by
    rw [Database.role?, found]
    exact role
  cases request with
  | submitEscrowPsbt payload =>
      cases acting
      rw [serveAlone_of_call rfl]
      exact (actsFor_handleSignedEscrowPsbt decoded env w known).alone found
  | submitObligationConfirmation payload =>
      cases acting
      rw [serveAlone_of_call rfl]
      exact (actsFor_handleObligationConfirmation decoded env w known).alone found
  | requestEscrow payload =>
      cases acting
      rw [serveAlone_of_call rfl]
      exact (actsFor_initiateEscrow decoded env w known).alone found
  | submitPayoutSignature payload =>
      cases acting
      rw [serveAlone_of_call rfl]
      exact actsAlone_handlePayoutSignature decoded found known
  | _ => cases acting

end Roles

section Reachable

variable {P : Platform}

/-- The robohash of the maker or of the taker. -/
def TakenOffer.robohash (isMaker : Bool) (row : TakenOffer) : Option Bytes :=
  if isMaker then row.robohashMaker else row.robohashTaker

/-- Every taken offer names a maker and a taker. -/
def Database.Named (db : Database) : Prop :=
  ∀ offerId, db.AtOffer offerId fun row => ∀ isMaker, row.robohash isMaker ≠ none

theorem named_served {request : Request} {before after : Database}
    (served : Database.Served request before after) (named : before.Named) : after.Named := by
  intro offerId
  have known := named offerId
  cases served with
  | reads => exact known
  | writes permitted =>
      cases permitted with
      | take => exact known.insertTaken fun _ isMaker => by cases isMaker <;> nofun
      | signEscrow isMaker | confirmObligation isMaker | complain isMaker | signPayout isMaker =>
          exact known.updateTaken fun _ row kept => by cases isMaker <;> exact kept
      | openDispute | toggleProcessing | storePayout | decide =>
          exact known.updateTaken fun _ row kept => kept
      | finish => exact known.deleteTaken
      | confirmEscrow => exact known.confirm fun row kept => kept
      | _ => exact known

/-- The role of a trader of an offer whose traders differ. -/
theorem TakenOffer.role?_of_robohash {row : TakenOffer} {robohash : Bytes} {isMaker : Bool}
    (named : ∀ isMaker, row.robohash isMaker ≠ none)
    (distinct : row.robohashMaker ≠ row.robohashTaker)
    (trader : row.robohash isMaker = some robohash) : row.role? robohash = some isMaker := by
  obtain ⟨maker, isMakers⟩ := Option.ne_none_iff_exists'.mp (named true)
  obtain ⟨taker, isTakers⟩ := Option.ne_none_iff_exists'.mp (named false)
  simp only [TakenOffer.robohash, if_true, Bool.false_eq_true, if_false] at isMakers isTakers
  rw [isMakers, isTakers, Ne, Option.some.injEq] at distinct
  simp only [role?, isMakers, isTakers, Column.blob, Option.getD_some]
  cases isMaker with
  | true =>
      cases isMakers.symm.trans trader
      rw [if_pos rfl]
  | false =>
      cases isTakers.symm.trans trader
      rw [if_neg distinct, if_pos rfl]

variable {ι : Type} [DecidableEq ι]

/-- What the writes of all requests preserve holds at any time, however they interleave. -/
theorem holds_play {holds : Database → Prop} (env : Environment (coordinator P))
    (requests : ι → Request) (schedule : List ι)
    (preserved : ∀ i before after, Database.Served (requests i) before after →
      holds before → holds after)
    {w : World (coordinator P)} (before : holds w.state) :
    holds ((Pool.start w fun i => (requests i).serve P).play env schedule).world.state :=
  Pool.holds_play (fun i => (writes_serve P (requests i)).mono (preserved i)) before env schedule

/-- A trader acts only for itself: from every database that any interleaving of requests leads to,
    a request of one of two different traders of an offer changes, whatever comes of it, only what
    this trader reports with it. A trade is deleted only after its payout has been broadcast with
    both partial signatures at hand. -/
theorem actsAlone_of_reached (env env' : Environment (coordinator P)) (requests : ι → Request)
    (schedule : List ι) {request : Request} {offerId robohashHex : String} {robohash : Bytes}
    {row : TakenOffer} {isMaker : Bool}
    (acting : request.acting? = some (offerId, robohashHex))
    (decoded : Hex.decode robohashHex = some robohash)
    (found : ((Pool.start (startup P) fun i => (requests i).serve P).play env
      schedule).world.state.takenOffers.find? offerId = some row)
    (distinct : row.robohashMaker ≠ row.robohashTaker)
    (trader : row.robohash isMaker = some robohash) :
    ActsAlone request offerId isMaker row
      ((Pool.start (startup P) fun i => (requests i).serve P).play env schedule).world
      (serveAlone env' ((Pool.start (startup P) fun i => (requests i).serve P).play env
        schedule).world request) := by
  have named : ((Pool.start (startup P) fun i => (requests i).serve P).play env
      schedule).world.state.Named :=
    holds_play env requests schedule (fun _ _ _ => named_served) fun _ => .startup
  exact actsAlone_serveAlone acting decoded found
    (TakenOffer.role?_of_robohash (named offerId row found) distinct trader)

end Reachable

namespace Sample

/-- The maker submits its signed escrow PSBT. -/
def escrowSubmission : PsbtSubmissionRequest := ⟨"70736274ff0a", offerId, makerBond.robohashHex⟩

end Sample

theorem actsAlone_of_reached_sample :
    ActsAlone (.submitEscrowPsbt Sample.escrowSubmission) Sample.offerId true Sample.tradedRow
      (Sample.tradePool Sample.makerBond).world
      (serveAlone Sample.environment (Sample.tradePool Sample.makerBond).world
        (.submitEscrowPsbt Sample.escrowSubmission)) :=
  actsAlone_of_reached Sample.environment Sample.environment (Sample.trade Sample.makerBond)
    (List.replicate 3 0 ++ List.replicate 7 1 ++ List.replicate 10 2) rfl
    (show Hex.decode _ = some Sample.makerRobohash by decide +kernel) (Option.some_get _).symm
    (by decide +kernel) (by decide +kernel)

end TapTrade
