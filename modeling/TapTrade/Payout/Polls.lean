import TapTrade.Model.Frame
import TapTrade.Resumption.Operation

/-! # The operations of a poll

A poll for the payout reads three times. If no payout transaction is stored it then toggles
the processing flag, its fourth operation; the poll that sets the flag assembles the
transaction, stores it and toggles the flag back.
-/

namespace TapTrade

open Relational Resumption

section Polls

variable {P : Platform} {offerId : String}

/-- The program of a poll that goes on with the given call. -/
abbrev answering (c : Act P RequestError PayoutProcessingResult) : Program (coordinator P) Reply :=
  c.run.map .pollFinalPayout

/-- The payout transaction that the reply carries. -/
def Reply.payoutPsbt : Reply → Option String
  | .pollFinalPayout (.ok (.readyPsbt answer)) => some answer.payoutPsbtHex
  | _ => none

/-- The program has ended without a payout transaction. -/
def Unready (p : Program (coordinator P) Reply) : Prop :=
  ∃ reply, p = .done reply ∧ reply.payoutPsbt = none

section Views

/-- The first operation reads the reports of the traders. -/
theorem serve_pollFinalPayout (payload : OfferTakenRequest) :
    ∃ next, (Request.pollFinalPayout payload).serve P =
        .statement (fun db => (db.takenOffers.find? payload.offerIdHex, db)) next ∧
      ∀ result, Unready (next result) ∨ next result = answering (disputeResult payload) ∨
        next result = answering (keyspendPayout payload.offerIdHex) := by
  refine ⟨_, rfl, ?_⟩
  intro result
  rcases result with fault | (_ | row)
  · exact .inl ⟨_, rfl, rfl⟩
  · exact .inl ⟨_, rfl, rfl⟩
  · dsimp only [fetchOptional, Program.bind, Call.ofOption, ExceptT.bindCont, pure, ExceptT.pure,
      ExceptT.mk, Outcome.mapError]
    split
    · exact .inr (.inr rfl)
    · split
      · exact .inl ⟨_, rfl, rfl⟩
      · exact .inr (.inl rfl)

/-- The second operation of a poll of a disputed offer reads the winner. -/
theorem answering_disputeResult (payload : OfferTakenRequest) :
    ∃ next, answering (P := P) (disputeResult payload) =
        .statement (fun db => (db.takenOffers.find? payload.offerIdHex, db)) next ∧
      ∀ result, Unready (next result) := by
  refine ⟨_, rfl, ?_⟩
  intro result
  rcases result with fault | (_ | row)
  · exact ⟨_, rfl, rfl⟩
  · exact ⟨_, rfl, rfl⟩
  · dsimp only [fetchOptional, Program.bind, Call.ofOption, ExceptT.bindCont, pure, ExceptT.pure,
      ExceptT.mk, Outcome.mapError]
    cases row.escrowWinnerRobohash with
    | none => exact ⟨_, rfl, rfl⟩
    | some winner =>
        dsimp only
        split <;> exact ⟨_, rfl, rfl⟩

/-- What a poll does that knows the payout data: it looks for a stored transaction. -/
structure Looking (offerId : String) (p : Program (coordinator P) Reply) : Prop where
  next : ∃ next, p = .statement (fun db => (db.takenOffers.find? offerId, db)) next ∧
    (∀ fault, Unready (next (.error fault))) ∧ Unready (next (.ok none)) ∧
    ∀ row, (∃ psbt reply, row.payoutTransactionPsbtHex = some psbt ∧
        next (.ok (some row)) = .done reply ∧ reply.payoutPsbt = some psbt) ∨
      ∃ data, row.payoutTransactionPsbtHex = none ∧
        next (.ok (some row)) = answering (beginPayout offerId data)

/-- The second operation of a poll of two satisfied traders reads the payout data. -/
theorem answering_keyspendPayout (offerId : String) :
    ∃ next, answering (P := P) (keyspendPayout offerId) =
        .statement (fun db => (db.takenOffers.find? offerId, db)) next ∧
      ∀ result, Unready (next result) ∨ Looking offerId (next result) := by
  refine ⟨_, rfl, ?_⟩
  intro result
  rcases result with fault | (_ | row)
  · exact .inl ⟨_, rfl, rfl⟩
  · exact .inl ⟨_, rfl, rfl⟩
  · dsimp only [fetchOptional, Program.bind, Call.ofOption, ExceptT.bindCont, pure, ExceptT.pure,
      ExceptT.mk, Outcome.mapError]
    cases row.payoutData P with
    | error e => exact .inl ⟨_, rfl, rfl⟩
    | ok data =>
        refine .inr ⟨_, rfl, fun fault => ⟨_, rfl, rfl⟩, ⟨_, rfl, rfl⟩, fun row => ?_⟩
        dsimp only [Program.bind, Call.ofOption, ExceptT.bindCont, pure, ExceptT.pure, ExceptT.mk,
          Outcome.mapError]
        cases stored : row.payoutTransactionPsbtHex with
        | some psbt => exact .inl ⟨psbt, _, rfl, rfl, rfl⟩
        | none => exact .inr ⟨data, rfl, rfl⟩

/-- The statement that toggles the processing flag and returns it. -/
def toggling (offerId : String) (db : Database) : Option Int64 × Database :=
  ((db.takenOffers.find? offerId).map fun row => TakenOffer.toggle row.processing,
    db.updateTaken offerId TakenOffer.toggleProcessing)

/-- The fourth operation toggles the flag; the poll that sets it goes on. -/
theorem answering_beginPayout (offerId : String) (data : PayoutData P) :
    ∃ next, answering (beginPayout offerId data) = .statement (toggling offerId) next ∧
      (∀ fault, Unready (next (.error fault))) ∧ Unready (next (.ok none)) ∧
      next (.ok (some 1)) = answering (assemblePayout offerId data) ∧
      ∀ flag, flag ≠ 1 → Unready (next (.ok (some flag))) := by
  refine ⟨_, rfl, fun fault => ⟨_, rfl, rfl⟩, ⟨_, rfl, rfl⟩, rfl, fun flag other => ?_⟩
  change Unready
    (answering (if decide (flag = 1) then assemblePayout offerId data else pure .notReady))
  rw [decide_eq_false other]
  exact ⟨_, rfl, rfl⟩

/-- The fifth operation assembles a transaction. -/
theorem answering_assemblePayout (offerId : String) (data : PayoutData P) :
    ∃ next, answering (assemblePayout offerId data) =
        .ask (.assembleKeyspendPayoutPsbt data) next ∧
      ∀ answer, Unready (next answer) ∨
        ∃ psbt, next answer = answering (storePayoutPsbt offerId data psbt) := by
  refine ⟨_, rfl, ?_⟩
  intro answer
  cases answer with
  | error e => exact .inl ⟨_, rfl, rfl⟩
  | ok psbt => exact .inr ⟨psbt, rfl⟩

/-- The last operation of a poll that stored the transaction gives the flag back. -/
structure Returning (offerId psbt : String) (p : Program (coordinator P) Reply) : Prop where
  next : ∃ next, p = .statement (toggling offerId) next ∧
    (∀ fault, Unready (next (.error fault))) ∧ Unready (next (.ok none)) ∧
    ∀ flag, ∃ reply, next (.ok (some flag)) = .done reply ∧ reply.payoutPsbt = some psbt

/-- The sixth operation stores the transaction. -/
theorem answering_storePayoutPsbt (offerId : String) (data : PayoutData P) (psbt : String) :
    ∃ next, answering (storePayoutPsbt offerId data psbt) =
        .statement (fun db => ((), db.updateTaken offerId (TakenOffer.setPayoutPsbt psbt))) next ∧
      (∀ fault, Unready (next (.error fault))) ∧ Returning offerId psbt (next (.ok ())) := by
  refine ⟨_, rfl, fun fault => ⟨_, rfl, rfl⟩, _, rfl, fun fault => ⟨_, rfl, rfl⟩,
    ⟨_, rfl, rfl⟩, fun flag => ⟨_, rfl, rfl⟩⟩

end Views

end Polls

end TapTrade
