import TapTrade.Model.Frame

/-! # What a handler checks first

The handlers of a trade look at the taken offer before they change anything. What they have
found is all that the order of a trade rests on: the escrow is confirmed, both traders are
satisfied, a dispute is open.
-/

namespace TapTrade

open Relational Resumption

section Guards

open Call Database

variable {P : Platform} {α : Type} {env : Environment (coordinator P)} {w w' : World (coordinator P)}
  {offerId robohash : String}

/-- The escrow of the offer is confirmed. -/
def TakenOffer.Confirmed (row : TakenOffer) : Prop := row.escrowPsbtIsConfirmed = some 1

theorem TakenOffer.confirmed_of_i64 {row : TakenOffer}
    (read : Column.i64 row.escrowPsbtIsConfirmed = 1) : row.Confirmed := by
  rw [Confirmed]
  cases status : row.escrowPsbtIsConfirmed with
  | none =>
      rw [status] at read
      cases read
  | some value =>
      rw [status] at read
      exact congrArg some read

/-- The check is passed only by an offer whose escrow is confirmed. -/
theorem exec_checkOfferAndConfirmation_ok
    (passed : exec env (checkOfferAndConfirmation offerId robohash) w = (.ok (), w')) :
    w'.state = w.state ∧ w.state.AtOffer offerId TakenOffer.Confirmed := by
  have reads : (exec env (checkOfferAndConfirmation (P := P) offerId robohash) w).2.state =
      w.state := Keeps.exec_state (by simp)
  rw [passed] at reads
  refine ⟨reads, ?_⟩
  obtain ⟨valid, w₁, validated, h₁⟩ := exec_bind_ok env w passed
  have same : (exec env (Call.mapError RequestError.database
      (isValidRobohashInTable (P := P) robohash offerId)) w).2.state = w.state :=
    Keeps.exec_state (by simp)
  rw [validated] at same
  cases valid with
  | false => cases h₁
  | true =>
      obtain ⟨status, w₂, fetched, h₂⟩ := exec_bind_ok env w₁ h₁
      obtain ⟨row, w₃, looked, h₃⟩ := exec_bind_ok env w₁ (exec_mapError_ok env w₁ fetched)
      obtain ⟨found, -⟩ := exec_fetchOne_ok looked
      intro other there
      rw [same, there] at found
      cases found
      cases status with
      | false => cases h₂
      | true =>
          rw [exec_pure] at h₃
          have read := congrArg Prod.fst h₃
          rw [Except.ok.injEq, decide_eq_true_iff] at read
          exact TakenOffer.confirmed_of_i64 read

/-- A guarded call changes the database only for an offer whose escrow is confirmed. -/
theorem holds_of_checked {rest : Unit → Act P RequestError α} {holds : Database → Prop}
    (before : holds w.state)
    (continues : ∀ w', exec env (checkOfferAndConfirmation (P := P) offerId robohash) w =
      (.ok (), w') → w'.state = w.state → w.state.AtOffer offerId TakenOffer.Confirmed →
      holds (exec env (rest ()) w').2.state) :
    holds (exec env (checkOfferAndConfirmation offerId robohash >>= rest) w).2.state := by
  have reads : (exec env (checkOfferAndConfirmation (P := P) offerId robohash) w).2.state =
      w.state := Keeps.exec_state (by simp)
  apply exec_bind_cases (motive := fun ends => holds ends.2.state) env w
  · intro e w' refused
    rw [refused] at reads
    exact reads ▸ before
  · intro u w' passed
    obtain ⟨same, confirmed⟩ := exec_checkOfferAndConfirmation_ok passed
    exact continues w' passed same confirmed

/-- What a poll finds the traders to have reported. -/
theorem fetchTraderHappiness_ok {happiness : TraderHappiness} {w' : World (coordinator P)}
    (h : exec env (fetchTraderHappiness offerId) w = (.ok happiness, w')) :
    ∃ row, w.state.takenOffers.find? offerId = some row ∧ happiness = row.happiness ∧
      w' = World.tick w := by
  obtain ⟨row, w₁, fetched, h₁⟩ := exec_bind_ok env w h
  obtain ⟨found, tick⟩ := exec_fetchOne_ok fetched
  cases h₁
  exact ⟨row, found, rfl, tick⟩

/-- A poll prepares no payout unless both traders are satisfied. -/
theorem handleFinalPayout_state {payload : OfferTakenRequest}
    (unhappy : w.state.AtOffer payload.offerIdHex fun row => row.happiness.bothHappy = false) :
    (exec env (handleFinalPayout payload) w).2.state = w.state := by
  have reads : (exec env (Call.mapError RequestError.database
      (fetchTraderHappiness (P := P) payload.offerIdHex)) w).2.state = w.state :=
    Keeps.exec_state (keeps_mapError (Keeps.bind (by simp) fun _ => by simp))
  apply exec_bind_cases (motive := fun ends => ends.2.state = w.state) env w
  · intro e w' failed
    rw [failed] at reads
    exact reads
  · intro happiness w' fetched
    rw [fetched] at reads
    obtain ⟨row, found, rfl, -⟩ := fetchTraderHappiness_ok (exec_mapError_ok env w fetched)
    rw [unhappy row found, if_neg Bool.false_ne_true]
    exact (Keeps.exec_state (keeps_ite (by simp) (by simp))).trans reads

/-- The operator decides only disputes that are open. -/
theorem holds_escrowCliLoop {holds : Database → Prop} (before : holds w.state)
    (decides : ∀ id row, w.state.takenOffers.find? id = some row → row.escrowOngoing = 1 →
      ∀ db winner, holds db → holds (db.updateTaken id (TakenOffer.setEscrowWinner winner))) :
    holds (exec env escrowCliLoop w).2.state := by
  have reads : (exec env (getOpenEscrows (P := P)) w).2.state = w.state :=
    Keeps.exec_state (Keeps.bind (by simp) fun _ => by simp)
  apply exec_bind_cases (motive := fun ends => holds ends.2.state) env w
  · intro e w' failed
    rw [failed] at reads
    exact reads ▸ before
  · intro escrows w' listed
    rw [listed] at reads
    obtain ⟨rows, w₁, fetched, h₁⟩ := exec_bind_ok env w listed
    obtain ⟨rfl, -⟩ := exec_fetchAll_ok fetched
    cases h₁
    refine Keeps.exec_holds (keeps_resolveEscrows ?_) (reads ▸ before)
    intro escrow member db winner _ holds
    obtain ⟨row, selected, rfl⟩ := List.mem_map.mp member
    obtain ⟨inTable, ongoing⟩ := List.mem_filter.mp selected
    exact decides row.offerId row (Table.mem_rows.mp inTable) (of_decide_eq_true ongoing) db winner
      holds

end Guards

end TapTrade
