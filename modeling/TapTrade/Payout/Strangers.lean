import TapTrade.Model.Guards
import TapTrade.Payout.Polls
import TapTrade.Taking.Move

/-! # Strangers

The id of an offer is public, so what keeps strangers away from a trade is the robohash that
comes with a request. Every handler that changes a taken offer looks it up by both, except the
poll for the payout: it reads the reports of the traders by the id alone, and goes on to prepare
and to hand out the payout transaction for whoever asks.
-/

namespace TapTrade

open Relational Resumption

section Strangers

variable {P : Platform}

/-- The trade and the robohash that a request names. -/
def Request.names? : Request → Option (String × String)
  | .submitTakerBond payload => some (payload.offer.offerIdHex, payload.tradeData.robohashHex)
  | .requestOfferStatus payload | .pollEscrowConfirmation payload
  | .submitObligationConfirmation payload | .pollFinalPayout payload =>
      some (payload.offerIdHex, payload.robohashHex)
  | .submitEscrowPsbt payload => some (payload.offerIdHex, payload.robohashHex)
  | .requestEscrow payload => some (payload.offerIdHex, payload.robohashHex)
  | .submitPayoutSignature payload => some (payload.offerIdHex, payload.robohashHex)
  | .createOffer _ | .submitMakerBond _ | .fetchAvailableOffers _ | .monitorBonds
  | .updateTransactionConfirmations | .escrowCliLoop => none

/-- The text decodes to neither robohash of the trade. -/
def TakenOffer.Stranger (row : TakenOffer) (robohashHex : String) : Prop :=
  ∀ robohash, Hex.decode robohashHex = some robohash →
    row.robohashMaker ≠ some robohash ∧ row.robohashTaker ≠ some robohash

/-- The call leaves the row as it is and does not hand out the payout transaction. -/
structure Untouched (env : Environment (coordinator P)) (w : World (coordinator P))
    (request : Request) (offerId : String) (row : TakenOffer) : Prop where
  same : ((request.serve P).run env w).2.state.takenOffers.find? offerId = some row
  withheld : ∀ response,
    ((request.serve P).run env w).1 ≠ .pollFinalPayout (.ok (.readyPsbt response))

/-- A poll hands out the payout transaction or begins to prepare it: both traders are satisfied,
    the payout data can be read, and none of the statements up to there fails. -/
structure PaysOut (env : Environment (coordinator P)) (w : World (coordinator P))
    (row : TakenOffer) : Prop where
  satisfied : row.happiness.bothHappy = true
  unfailing : ∀ k < 3, env.fault (w.clock + k) = none
  payable : ∃ data, row.payoutData P = .ok data
  begins : row.payoutTransactionPsbtHex = none → env.fault (w.clock + 3) = none

/-- The calls that do not look at the robohash: polls that pay out, and takes of an offer that is
    still listed under the id of the trade. -/
def Exposes (env : Environment (coordinator P)) (w : World (coordinator P)) (row : TakenOffer) :
    Request → Prop
  | .pollFinalPayout _ => PaysOut env w row
  | .submitTakerBond payload => GoesThrough env w payload
  | _ => False

open Call

variable {env : Environment (coordinator P)} {w : World (coordinator P)} {offerId : String}
  {robohashHex : String} {row : TakenOffer}

theorem TakenOffer.Stranger.not_named {robohash : Bytes} (stranger : row.Stranger robohashHex)
    (decoded : Hex.decode robohashHex = some robohash) : (row.names robohash).holds = false := by
  obtain ⟨notMaker, notTaker⟩ := stranger robohash decoded
  rw [Bool.eq_false_iff]
  intro named
  rcases (Ternary.holds_or _ _).mp named with maker | taker
  · exact notMaker ((Ternary.holds_eq _ _).mp maker).1
  · exact notTaker ((Ternary.holds_eq _ _).mp taker).1

section Guarded

variable {α ε : Type} {f : Error → ε} {w' : World (coordinator P)}

/-- No stranger passes the look-up by id and robohash. -/
theorem isValidRobohashInTable_ne_true (found : w.state.takenOffers.find? offerId = some row)
    (stranger : row.Stranger robohashHex) :
    exec env (isValidRobohashInTable robohashHex offerId) w ≠ (.ok true, w') := by
  intro valid
  obtain ⟨robohash, w₁, decodes, looked⟩ := exec_bind_ok env w valid
  obtain ⟨decoded, rfl⟩ := exec_hexDecode_ok decodes
  obtain ⟨named, w₂, fetched, returned⟩ := exec_bind_ok env _ looked
  obtain ⟨rfl, -⟩ := exec_fetchOptional_ok fetched
  simp only [found, Option.filter_some, stranger.not_named decoded] at returned
  cases returned

/-- A call that starts with that look-up does nothing for a stranger. -/
theorem exec_state_of_stranger (found : w.state.takenOffers.find? offerId = some row)
    (stranger : row.Stranger robohashHex) (rest : Act P ε α) (e : ε) :
    (exec env (do
      if ← Call.mapError f (isValidRobohashInTable robohashHex offerId) then rest
      else Call.fail e) w).2.state = w.state := by
  have reads : (exec env (Call.mapError f (isValidRobohashInTable (P := P) robohashHex offerId))
      w).2.state = w.state := Keeps.exec_state (by simp)
  apply exec_bind_cases (motive := fun ends => ends.2.state = w.state) env w
  · intro stop w' failed
    rw [failed] at reads
    exact reads
  · intro valid w' looked
    rw [looked] at reads
    cases valid with
    | true =>
        exact absurd (exec_mapError_ok env w looked)
          (isValidRobohashInTable_ne_true found stranger)
    | false => exact reads

theorem checkOfferAndConfirmation_ne_ok (found : w.state.takenOffers.find? offerId = some row)
    (stranger : row.Stranger robohashHex) :
    exec env (checkOfferAndConfirmation offerId robohashHex) w ≠ (.ok (), w') := by
  intro passed
  obtain ⟨valid, w₁, looked, goesOn⟩ := exec_bind_ok env w passed
  cases valid with
  | true =>
      exact isValidRobohashInTable_ne_true found stranger (exec_mapError_ok env w looked)
  | false => cases goesOn

/-- Nor does a call that starts with the check of the confirmation. -/
theorem exec_state_of_unchecked (found : w.state.takenOffers.find? offerId = some row)
    (stranger : row.Stranger robohashHex) (rest : Unit → Act P RequestError α) :
    (exec env (checkOfferAndConfirmation offerId robohashHex >>= rest) w).2.state = w.state := by
  apply @holds_of_checked P α env w offerId robohashHex rest (fun db => db = w.state) rfl
  intro w' passed
  exact absurd passed (checkOfferAndConfirmation_ne_ok found stranger)

end Guarded

section Takes

variable {payload : OfferPsbtRequest}

/-- A take leaves a trade of the same id as it is, unless it goes through and replaces it. -/
theorem untouched_submitTakerBond_iff (found : w.state.takenOffers.find? payload.offer.offerIdHex =
      some row) (stranger : row.Stranger payload.tradeData.robohashHex) :
    Untouched env w (.submitTakerBond payload) payload.offer.offerIdHex row ↔
      ¬ GoesThrough env w payload := by
  have serves : ((Request.submitTakerBond payload).serve P).run env w =
      (.submitTakerBond (exec env (handleTakerBond payload) w).1,
        (exec env (handleTakerBond payload) w).2) :=
    Program.run_bind env (handleTakerBond (P := P) payload).run _ w
  by_cases through : GoesThrough env w payload
  · refine iff_of_false ?_ fun stays => stays through
    rintro ⟨same, -⟩
    obtain ⟨escrow, w', listed, offer, robohash, moved⟩ := takenOffers_of_goesThrough through
    rw [serves] at same
    dsimp only at same
    rw [moved.takenOffers, ← moved.about] at same
    have replaced := Option.some.inj
      ((Table.find?_insertOrReplace_self _ (takenRow offer robohash payload escrow)).symm.trans same)
    exact (stranger robohash moved.decoded).2 (congrArg TakenOffer.robohashTaker replaced).symm
  · refine iff_of_true ⟨?_, ?_⟩ through
    · rw [serves]
      dsimp only
      rw [takenOffers_of_not_goesThrough through]
      exact found
    · rw [serves]
      intro response ready
      cases ready

end Takes

section Polls

variable {payload : OfferTakenRequest}

/-- A poll that has toggled the flag does not restore the row. -/
theorem changed_assemblePayout (data : PayoutData P)
    (changed : w.state.AtOffer offerId fun now => now ≠ row)
    (unprepared : row.payoutTransactionPsbtHex = none) :
    (exec env (assemblePayout offerId data) w).2.state.AtOffer offerId fun now => now ≠ row := by
  have asks : (exec env (Call.mapError RequestError.coordinatorError
      (tryAsk (.assembleKeyspendPayoutPsbt data) id)) w).2.state = w.state :=
    Keeps.exec_state (by simp)
  apply exec_bind_cases
    (motive := fun ends => ends.2.state.AtOffer offerId fun now => now ≠ row) env w
  · intro e w₁ failed
    rw [failed] at asks
    exact asks ▸ changed
  · intro psbt w₁ assembled
    rw [assembled] at asks
    dsimp only at asks
    cases fault : env.fault w₁.clock with
    | some failure =>
        rw [storePayoutPsbt, insertKeyspendPayoutPsbt, exec_bind, exec_mapError,
          exec_execute_of_fault fault]
        exact asks ▸ changed
    | none =>
        have stored := exec_mapError_of_ok (f := RequestError.database) env w₁
          (exec_execute fault fun db => db.updateTaken offerId (TakenOffer.setPayoutPsbt psbt))
        rw [storePayoutPsbt, insertKeyspendPayoutPsbt, exec_bind_of_ok env w₁ stored]
        have prepared : (w₁.state.updateTaken offerId (TakenOffer.setPayoutPsbt psbt)).AtOffer
            offerId fun now => now.payoutTransactionPsbtHex ≠ none := by
          intro now there
          simp only [Database.updateTaken, Table.find?_update_self] at there
          obtain ⟨old, -, rfl⟩ := Option.map_eq_some_iff.mp there
          exact Option.some_ne_none psbt
        have stays : (do
            let _ ← Call.mapError .database (toggleProcessing offerId)
            return readyPsbt data psbt : Act P RequestError PayoutProcessingResult).Keeps
              (Preserving fun db : Database => db.AtOffer offerId fun now =>
                now.payoutTransactionPsbtHex ≠ none) := by
          apply Keeps.bind (keeps_mapError (keeps_toggleProcessing ?_)) fun _ => by simp
          exact fun db kept => kept.updateTaken fun _ now there => there
        intro now there same
        let after := w₁.state.updateTaken offerId (TakenOffer.setPayoutPsbt psbt)
        have kept : (exec env _ { World.tick w₁ with state := after }).2.state.AtOffer offerId _ :=
          stays.exec_holds prepared
        exact kept now there (same ▸ unprepared)

theorem toggle_ne (processing : Int64) : TakenOffer.toggle processing ≠ processing := by
  rw [TakenOffer.toggle]
  split
  case isTrue zero =>
    rw [zero]
    decide
  case isFalse nonzero => exact Ne.symm nonzero

theorem exec_toggleProcessing (unfailing : env.fault w.clock = none)
    (found : w.state.takenOffers.find? offerId = some row) :
    exec env (toggleProcessing offerId) w = (.ok (TakenOffer.toggle row.processing = 1),
      { World.tick w with state := w.state.updateTaken offerId TakenOffer.toggleProcessing }) := by
  rw [toggleProcessing, exec_bind, exec_statement, unfailing]
  simp only [found, Option.map_some]
  rfl

/-- A poll that finds no payout transaction changes the row, unless its next statement fails. -/
theorem changed_beginPayout (data : PayoutData P) (unfailing : env.fault w.clock = none)
    (found : w.state.takenOffers.find? offerId = some row)
    (unprepared : row.payoutTransactionPsbtHex = none) :
    (exec env (beginPayout offerId data) w).2.state.AtOffer offerId fun now => now ≠ row := by
  have toggled : (w.state.updateTaken offerId TakenOffer.toggleProcessing).AtOffer offerId
      fun now => now ≠ row := by
    intro now there same
    simp only [Database.updateTaken, Table.find?_update_self, found, Option.map_some,
      Option.some.injEq] at there
    subst there
    exact toggle_ne row.processing (congrArg TakenOffer.processing same)
  rw [beginPayout, exec_bind_of_ok env w (exec_mapError_of_ok env w
    (exec_toggleProcessing unfailing found))]
  split
  · exact changed_assemblePayout data toggled unprepared
  · exact toggled

/-- The three look-ups of a poll for the payout of two satisfied traders. -/
theorem exec_pollSatisfied (satisfied : row.happiness.bothHappy = true)
    (unfailing : ∀ k < 3, env.fault (w.clock + k) = none) {data : PayoutData P}
    (payable : row.payoutData P = .ok data)
    (found : w.state.takenOffers.find? payload.offerIdHex = some row) :
    exec env (handleFinalPayout payload) w = exec env
      (match row.payoutTransactionPsbtHex with
        | some psbt => pure (readyPsbt data psbt)
        | none => beginPayout payload.offerIdHex data) (w.later 3) := by
  have looks (k : Nat) (below : k < 3) : exec env (fetchOne fun db =>
      db.takenOffers.find? payload.offerIdHex) (w.later k) = (.ok row, w.later (k + 1)) :=
    exec_fetchOne_of_found (w := w.later k) (unfailing k below) found
  have reports : exec env (Call.mapError RequestError.database
      (fetchTraderHappiness (P := P) payload.offerIdHex)) w = (.ok row.happiness, w.later 1) := by
    apply exec_mapError_of_ok
    rw [fetchTraderHappiness, exec_bind_of_ok env w (looks 0 (by decide))]
    rfl
  have pays : exec env (Call.mapError RequestError.database
      (fetchPayoutData (P := P) payload.offerIdHex)) (w.later 1) = (.ok data, w.later 2) := by
    apply exec_mapError_of_ok
    rw [fetchPayoutData, exec_bind_of_ok env _ (exec_mapError_of_ok env _ (looks 1 (by decide))),
      payable]
    rfl
  have stores : exec env (Call.mapError RequestError.database
      (fetchKeyspendPayoutPsbt (P := P) payload.offerIdHex)) (w.later 2) =
        (.ok row.payoutTransactionPsbtHex, w.later 3) := by
    apply exec_mapError_of_ok
    rw [fetchKeyspendPayoutPsbt, exec_bind_of_ok env _ (looks 2 (by decide))]
    rfl
  rw [handleFinalPayout, exec_bind_of_ok env w reports, if_pos satisfied, keyspendPayout,
    exec_bind_of_ok env _ pays]
  apply (exec_bind_of_ok env _ stores).trans
  cases row.payoutTransactionPsbtHex <;> rfl

/-- The call leaves the database as it is and does not answer with the payout transaction. -/
def Withholds (before : Database)
    (ends : Outcome RequestError PayoutProcessingResult × World (coordinator P)) : Prop :=
  ends.2.state = before ∧ ∀ response, ends.1 ≠ .ok (.readyPsbt response)

theorem withholds_error {before : Database} {stop : Resumption.Abort RequestError}
    (same : w.state = before) : Withholds before (.error stop, w) := by
  refine ⟨same, fun response ready => ?_⟩
  cases ready

/-- A call that looks something up first, and hands out nothing if that fails. -/
theorem withholds_bind {α : Type} {look : Act P RequestError α}
    {method : α → Act P RequestError PayoutProcessingResult} {before : Database}
    (reads : look.Keeps Eq) (same : w.state = before)
    (goesOn : ∀ a w₁, exec env look w = (.ok a, w₁) → w₁.state = before →
      Withholds before (exec env (method a) w₁)) :
    Withholds before (exec env (look >>= method) w) := by
  have kept : (exec env look w).2.state = before := (Keeps.exec_state reads).trans same
  apply exec_bind_cases (motive := Withholds before) env w
  · intro stop w₁ failed
    rw [failed] at kept
    exact withholds_error kept
  · intro a w₁ found
    rw [found] at kept
    exact goesOn a w₁ found kept

theorem withholds_disputeResult : Withholds w.state (exec env (disputeResult payload) w) := by
  apply withholds_bind (keeps_mapError (Keeps.bind (by simp) fun _ => by simp)) rfl
  intro winner w₁ _ reads
  cases winner with
  | none =>
      refine ⟨reads, fun response ready => ?_⟩
      cases ready
  | some winner =>
      dsimp only
      split
      · exact withholds_error reads
      · refine ⟨reads, fun response ready => ?_⟩
        cases ready

/-- A poll that looks for a payout transaction which is not there cannot toggle the flag. -/
theorem withholds_beginPayout {fault : Unit} (fails : env.fault w.clock = some fault)
    (data : PayoutData P) : Withholds w.state (exec env (beginPayout offerId data) w) := by
  rw [beginPayout, exec_bind, exec_mapError, toggleProcessing, exec_bind, exec_statement, fails]
  exact withholds_error rfl

/-- A look-up of the offer after `k` operations that have changed nothing. -/
theorem fetched_later {offerId : String} {row' : TakenOffer} {w' : World (coordinator P)}
    {k : Nat} (found : w.state.takenOffers.find? offerId = some row)
    (fetched : exec env (fetchOne fun db => db.takenOffers.find? offerId) (w.later k) =
      (.ok row', w')) :
    env.fault (w.clock + k) = none ∧ row' = row ∧ w' = w.later (k + 1) := by
  obtain ⟨there, rfl⟩ := exec_fetchOne_ok fetched
  exact ⟨unfailing_of_fetchOne fetched, Option.some.inj (there.symm.trans found), rfl⟩

/-- A poll of two satisfied traders that does not pay out. -/
theorem withholds_keyspendPayout {offerId : String}
    (found : w.state.takenOffers.find? offerId = some row)
    (first : env.fault (w.clock + 0) = none) (satisfied : row.happiness.bothHappy = true)
    (keeps : ¬ PaysOut env w row) :
    Withholds w.state (exec env (keyspendPayout offerId) (w.later 1)) := by
  apply withholds_bind (by simp) rfl
  intro data w₁ fetched _
  obtain ⟨row₂, w₂, looked, returned⟩ :=
    exec_bind_ok env _ (exec_mapError_ok env (w.later 1) fetched)
  obtain ⟨second, rfl, rfl⟩ := fetched_later found (k := 1) (exec_mapError_ok env _ looked)
  obtain ⟨payable, rfl⟩ := exec_ofExcept_ok env _ returned
  apply withholds_bind (keeps_mapError (Keeps.bind (by simp) fun _ => by simp)) rfl
  intro stored w₁ fetched _
  obtain ⟨row₃, w₂, looked, returned⟩ :=
    exec_bind_ok env _ (exec_mapError_ok env (w.later 2) fetched)
  obtain ⟨third, rfl, rfl⟩ := fetched_later found (k := 2) looked
  cases returned
  have none_before : ∀ k < 0, env.fault (w.clock + k) = none :=
    fun k below => absurd below (Nat.not_lt_zero k)
  have unfailing := Staging.unfailing_succ (Staging.unfailing_succ
    (Staging.unfailing_succ none_before first) second) third
  have pays (begins : row₃.payoutTransactionPsbtHex = none → env.fault (w.clock + 3) = none) :
      PaysOut env w row₃ := ⟨satisfied, unfailing, ⟨data, payable⟩, begins⟩
  cases prepared : row₃.payoutTransactionPsbtHex with
  | some psbt =>
      refine absurd (pays fun missing => ?_) keeps
      cases prepared.symm.trans missing
  | none =>
      cases fault : env.fault (w.later 3).clock with
      | none => exact absurd (pays fun _ => fault) keeps
      | some failure => exact withholds_beginPayout (w := w.later 3) fault data

/-- A poll that does not pay out changes nothing and hands out nothing. -/
theorem withholds_handleFinalPayout
    (found : w.state.takenOffers.find? payload.offerIdHex = some row)
    (keeps : ¬ PaysOut env w row) : Withholds w.state (exec env (handleFinalPayout payload) w) := by
  apply withholds_bind (keeps_mapError (Keeps.bind (by simp) fun _ => by simp)) rfl
  intro happiness w₁ fetched _
  obtain ⟨row₁, w₂, looked, returned⟩ := exec_bind_ok env w (exec_mapError_ok env w fetched)
  obtain ⟨first, rfl, rfl⟩ := fetched_later found (k := 0) looked
  cases returned
  split
  case isFalse unhappy =>
    split
    · refine ⟨rfl, fun response ready => ?_⟩
      cases ready
    · exact withholds_disputeResult (w := w.later 1)
  case isTrue satisfied => exact withholds_keyspendPayout found first satisfied keeps

/-- A stranger gets at the payout by a poll that pays out. -/
theorem untouched_pollFinalPayout_iff
    (found : w.state.takenOffers.find? payload.offerIdHex = some row) :
    Untouched env w (.pollFinalPayout payload) payload.offerIdHex row ↔ ¬ PaysOut env w row := by
  have serves : ((Request.pollFinalPayout payload).serve P).run env w =
      (.pollFinalPayout (exec env (handleFinalPayout payload) w).1,
        (exec env (handleFinalPayout payload) w).2) :=
    Program.run_bind env (handleFinalPayout (P := P) payload).run _ w
  constructor
  · rintro ⟨same, withheld⟩ ⟨satisfied, unfailing, ⟨data, payable⟩, begins⟩
    rw [serves] at same withheld
    rw [exec_pollSatisfied satisfied unfailing payable found] at same withheld
    cases prepared : row.payoutTransactionPsbtHex with
    | some psbt =>
        rw [prepared] at withheld
        exact withheld _ rfl
    | none =>
        rw [prepared] at same
        exact changed_beginPayout (w := w.later 3) data (begins prepared) found prepared row same rfl
  · intro keeps
    obtain ⟨same, withheld⟩ := withholds_handleFinalPayout found keeps
    refine ⟨?_, fun response ready => ?_⟩
    · rw [serves]
      exact (congrArg (fun db => db.takenOffers.find? payload.offerIdHex) same).trans found
    · rw [serves] at ready
      exact withheld response (Reply.pollFinalPayout.inj ready)

end Polls

/-- A call that is no poll for the payout leaves the trade alone if it leaves the database. -/
theorem untouched_of_call {α ε : Type} {request : Request} {c : Act P ε α}
    {reply : Outcome ε α → Reply} (serves : request.serve P = c.run.map reply)
    (other : ∀ outcome response, reply outcome ≠ .pollFinalPayout (.ok (.readyPsbt response)))
    (found : w.state.takenOffers.find? offerId = some row)
    (same : (exec env c w).2.state = w.state) : Untouched env w request offerId row := by
  have run : (request.serve P).run env w = (reply (exec env c w).1, (exec env c w).2) := by
    rw [serves]
    exact Program.run_bind env c.run _ w
  refine ⟨?_, fun response => ?_⟩
  · rw [run]
    exact (congrArg (fun db => db.takenOffers.find? offerId) same).trans found
  · rw [run]
    exact other _ response

/-- Whatever the state: a request that names a trade with the robohash of a stranger leaves its
    row as it is and gets no payout transaction, unless it is a poll that pays out to two
    satisfied traders or a take of an offer that is listed under the same id. -/
theorem untouched_iff (env : Environment (coordinator P)) (w : World (coordinator P))
    {request : Request} (found : w.state.takenOffers.find? offerId = some row)
    (names : request.names? = some (offerId, robohashHex)) (stranger : row.Stranger robohashHex) :
    Untouched env w request offerId row ↔ ¬ Exposes env w row request := by
  cases request with
  | submitTakerBond payload =>
      cases names
      exact untouched_submitTakerBond_iff found stranger
  | pollFinalPayout payload =>
      cases names
      exact untouched_pollFinalPayout_iff found
  | requestOfferStatus payload =>
      cases names
      refine iff_of_true (untouched_of_call (c := getOfferStatusMaker payload) rfl ?_ found ?_) id
      · exact fun outcome response ready => Reply.noConfusion ready
      · exact Keeps.exec_state (by simp)
  | pollEscrowConfirmation payload =>
      cases names
      refine iff_of_true
        (untouched_of_call (c := fetchEscrowConfirmationStatus payload) rfl ?_ found ?_) id
      · exact fun outcome response ready => Reply.noConfusion ready
      · exact Keeps.exec_state (by simp)
  | submitEscrowPsbt payload =>
      cases names
      refine iff_of_true
        (untouched_of_call (c := handleSignedEscrowPsbt payload) rfl ?_ found ?_) id
      · exact fun outcome response ready => Reply.noConfusion ready
      · exact exec_state_of_stranger found stranger _ _
  | submitObligationConfirmation payload =>
      cases names
      refine iff_of_true
        (untouched_of_call (c := handleObligationConfirmation payload) rfl ?_ found ?_) id
      · exact fun outcome response ready => Reply.noConfusion ready
      · exact exec_state_of_unchecked found stranger _
  | requestEscrow payload =>
      cases names
      refine iff_of_true (untouched_of_call (c := initiateEscrow payload) rfl ?_ found ?_) id
      · exact fun outcome response ready => Reply.noConfusion ready
      · exact exec_state_of_unchecked found stranger _
  | submitPayoutSignature payload =>
      cases names
      refine iff_of_true (untouched_of_call (c := handlePayoutSignature payload) rfl ?_ found ?_) id
      · exact fun outcome response ready => Reply.noConfusion ready
      · exact exec_state_of_unchecked found stranger _
  | _ => cases names

end Strangers

namespace Sample

/-- The robohash of nobody. -/
def strangerPoll : OfferTakenRequest := ⟨"c5d5d5d4c5d6d7d8", offerId⟩

theorem strangerPoll_stranger : preparedOffer.Stranger strangerPoll.robohashHex := by
  intro robohash decoded
  have bytes : Hex.decode strangerPoll.robohashHex =
      some [0xc5, 0xd5, 0xd5, 0xd4, 0xc5, 0xd6, 0xd7, 0xd8] := by decide
  cases bytes.symm.trans decoded
  decide

end Sample

theorem untouched_iff_sample :
    Untouched Sample.environment (Sample.trading Sample.preparedOffer)
        (.requestEscrow ⟨Sample.strangerPoll.robohashHex, Sample.offerId⟩) Sample.offerId
        Sample.preparedOffer ↔
      ¬ Exposes Sample.environment (Sample.trading Sample.preparedOffer) Sample.preparedOffer
        (.requestEscrow ⟨Sample.strangerPoll.robohashHex, Sample.offerId⟩) :=
  untouched_iff Sample.environment (Sample.trading Sample.preparedOffer) (by decide) rfl
    Sample.strangerPoll_stranger

/-- Anybody who knows the id of the offer gets its payout transaction. -/
theorem stranger_gets_payout :
    (runAlone Sample.environment Sample.prepared).state.takenOffers.find? Sample.offerId =
        some Sample.preparedOffer ∧
      Sample.preparedOffer.Stranger Sample.strangerPoll.robohashHex ∧
      ¬ Untouched Sample.environment (runAlone Sample.environment Sample.prepared)
        (.pollFinalPayout Sample.strangerPoll) Sample.offerId Sample.preparedOffer := by
  refine ⟨by decide +kernel, Sample.strangerPoll_stranger, fun untouched => ?_⟩
  have answered : ((Request.serve .sample (.pollFinalPayout Sample.strangerPoll)).run
      Sample.environment (runAlone Sample.environment Sample.prepared)).1.payoutPsbt =
        some "70736274ff01" := by decide +kernel
  have withheld := untouched.withheld
  generalize ((Request.serve .sample (.pollFinalPayout Sample.strangerPoll)).run
    Sample.environment (runAlone Sample.environment Sample.prepared)).1 = reply
    at answered withheld
  unfold Reply.payoutPsbt at answered
  split at answered
  · exact withheld _ rfl
  · cases answered

end TapTrade
