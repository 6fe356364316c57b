import TapTrade.Model.Frame
import TapTrade.Model.Sample

/-! # A take that fails

A take reads the offer, checks the bond and builds the escrow before it touches a table.
Then it moves the offer: read it, delete it, decode the robohash of the taker, insert.
The decoding can fail, on a string that nobody has looked at before, and by then the offer
is gone.
-/

namespace TapTrade

open Relational Resumption

variable {P : Platform} {env : Environment (coordinator P)}

/-- The order book and the taken offers. -/
structure Database.SameOffers (before after : Database) : Prop where
  activeMakerOffers : after.activeMakerOffers = before.activeMakerOffers
  takenOffers : after.takenOffers = before.takenOffers

/-- If the take returns an error, the offers are as they were before. -/
def FailureKeepsOffers (env : Environment (coordinator P)) (payload : OfferPsbtRequest)
    (w : World (coordinator P)) : Prop :=
  ∀ e, (Call.exec env (handleTakerBond payload) w).1 = .error (.failed e) →
    w.state.SameOffers (Call.exec env (handleTakerBond payload) w).2.state

/-- The bond is accepted, the escrow can be built, and the columns of the offer fit the
    types that they are read into. -/
def Movable (env : Environment (coordinator P)) (payload : OfferPsbtRequest)
    (w : World (coordinator P)) : Prop :=
  (∃ escrow, (Call.exec env (escrowForTaker payload) w).1 = .ok escrow) ∧
    ∃ row offer, w.state.activeMakerOffers.find? payload.offer.offerIdHex = some row ∧
      AwaitingTakerOffer.ofRow payload.offer.offerIdHex row = some offer

section Undisturbed

open Call

/-- The move, statement by statement. -/
theorem exec_addTakerInfoAndMoveTable (faultless : env.Faultless) (payload : OfferPsbtRequest)
    (escrow : EscrowPsbt) (w : World (coordinator P)) :
    ∃ clock, exec env (addTakerInfoAndMoveTable payload escrow) w =
      match w.state.activeMakerOffers.find? payload.offer.offerIdHex with
      | none => (.error (.failed .rowNotFound), { w with clock })
      | some row => match AwaitingTakerOffer.ofRow payload.offer.offerIdHex row with
        | none => (.error (.failed .columnDecode), { w with clock })
        | some offer =>
            let deleted := w.state.deleteActive payload.offer.offerIdHex
            match Hex.decode payload.tradeData.robohashHex with
            | none => (.error (.failed .fromHex), { w with state := deleted, clock })
            | some robohash =>
                (.ok (), { w with
                  state := deleted.insertTaken (takenRow offer robohash payload escrow)
                  clock }) := by
  simp only [addTakerInfoAndMoveTable, fetchAndDeleteOfferFromPublicOffersTable, exec_bind,
    exec_fetchOne (faultless _), exec_execute (faultless _), exec_hexDecode]
  cases w.state.activeMakerOffers.find? payload.offer.offerIdHex with
  | none => exact ⟨_, rfl⟩
  | some row =>
      cases read : AwaitingTakerOffer.ofRow payload.offer.offerIdHex row with
      | none => simp only [read]; exact ⟨_, rfl⟩
      | some offer =>
          simp only [read]
          cases Hex.decode payload.tradeData.robohashHex <;> exact ⟨_, rfl⟩

/-- A take is the construction of the escrow and then the move. -/
theorem exec_handleTakerBond (payload : OfferPsbtRequest) (w : World (coordinator P)) :
    exec env (handleTakerBond payload) w =
      match exec env (escrowForTaker payload) w with
      | (.error stop, w') => (.error stop, w')
      | (.ok escrow, w') =>
          let moved := exec env (addTakerInfoAndMoveTable payload escrow) w'
          ((Outcome.mapError .coordinatorError moved.1).map fun _ => escrow.offerTaken,
            moved.2) := by
  rw [handleTakerBond, exec_bind]
  rcases exec env (escrowForTaker payload) w with ⟨stop | escrow, w'⟩
  · rfl
  · simp only [exec_bind, exec_mapError]
    rcases exec env (addTakerInfoAndMoveTable payload escrow) w' with ⟨(_ | _) | _, _⟩ <;> rfl

end Undisturbed

/-- A take that ends before the offer is deleted changes nothing. -/
theorem sameOffers_of_not_movable (faultless : env.Faultless) {payload : OfferPsbtRequest}
    {w : World (coordinator P)} (stays : ¬ Movable env payload w) :
    w.state.SameOffers (Call.exec env (handleTakerBond payload) w).2.state := by
  have reads : (Call.exec env (escrowForTaker payload) w).2.state = w.state :=
    Call.Keeps.exec_state (by simp)
  rw [exec_handleTakerBond]
  rcases built : Call.exec env (escrowForTaker payload) w with ⟨stop | escrow, w'⟩
  all_goals
    rw [built] at reads
    dsimp only at reads
  · exact ⟨congrArg _ reads, congrArg _ reads⟩
  · obtain ⟨clock, moves⟩ := exec_addTakerInfoAndMoveTable faultless payload escrow w'
    simp only [moves, reads]
    cases found : w.state.activeMakerOffers.find? payload.offer.offerIdHex with
    | none => exact ⟨rfl, rfl⟩
    | some row =>
        cases read : AwaitingTakerOffer.ofRow payload.offer.offerIdHex row with
        | none =>
            simp only [read]
            exact ⟨rfl, rfl⟩
        | some offer =>
            exact absurd ⟨⟨escrow, by rw [built]⟩, row, offer, found, read⟩ stays

/-- How a take ends that gets to the move. -/
theorem exec_handleTakerBond_of_movable (faultless : env.Faultless) {payload : OfferPsbtRequest}
    {w : World (coordinator P)} (movable : Movable env payload w) :
    match Hex.decode payload.tradeData.robohashHex with
    | none =>
        (Call.exec env (handleTakerBond payload) w).1 =
            .error (.failed (.coordinatorError .fromHex)) ∧
          (Call.exec env (handleTakerBond payload) w).2.state =
            w.state.deleteActive payload.offer.offerIdHex
    | some _ => ∃ response, (Call.exec env (handleTakerBond payload) w).1 = .ok response := by
  obtain ⟨⟨escrow, builds⟩, row, offer, found, read⟩ := movable
  have reads : (Call.exec env (escrowForTaker payload) w).2.state = w.state :=
    Call.Keeps.exec_state (by simp)
  rw [exec_handleTakerBond]
  rcases built : Call.exec env (escrowForTaker payload) w with ⟨result, w'⟩
  rw [built] at reads builds
  dsimp only at reads
  cases builds
  obtain ⟨clock, moves⟩ := exec_addTakerInfoAndMoveTable faultless payload escrow w'
  simp only [moves, reads, found, read]
  cases Hex.decode payload.tradeData.robohashHex with
  | none => exact ⟨rfl, rfl⟩
  | some robohash => exact ⟨_, rfl⟩

/-- A failed take leaves the offers as they were iff the robohash of the taker is hex, or
    the take ends before the offer is deleted. -/
theorem failureKeepsOffers_iff (faultless : env.Faultless) (payload : OfferPsbtRequest)
    (w : World (coordinator P)) :
    FailureKeepsOffers env payload w ↔
      (∃ robohash, Hex.decode payload.tradeData.robohashHex = some robohash) ∨
        ¬ Movable env payload w := by
  constructor
  · intro keeps
    by_contra! both
    obtain ⟨notHex, movable⟩ := both
    have ends := exec_handleTakerBond_of_movable faultless movable
    obtain ⟨-, row, offer, found, -⟩ := movable
    cases decoded : Hex.decode payload.tradeData.robohashHex with
    | some robohash => exact notHex robohash decoded
    | none =>
        rw [decoded] at ends
        -- the offer is gone although the take failed
        have same := (keeps _ ends.1).activeMakerOffers
        rw [ends.2, Database.deleteActive] at same
        have kept := congrArg (·.find? payload.offer.offerIdHex) same
        simp [found] at kept
  · rintro (⟨robohash, decoded⟩ | stays) e fails
    · by_cases movable : Movable env payload w
      · have ends := exec_handleTakerBond_of_movable faultless movable
        rw [decoded] at ends
        obtain ⟨response, succeeds⟩ := ends
        cases succeeds.symm.trans fails
      · exact sameOffers_of_not_movable faultless movable
    · exact sameOffers_of_not_movable faultless stays

namespace Sample

/-- A take by a trader whose robohash is no hex. -/
def takeWithoutHex : OfferPsbtRequest :=
  ⟨publicOffer, { takerBond with robohashHex := "b4e2e2e1d3e4e5eg" }⟩

end Sample

theorem failureKeepsOffers_iff_sample :
    FailureKeepsOffers Sample.environment Sample.take Sample.listed ↔
      (∃ robohash, Hex.decode Sample.take.tradeData.robohashHex = some robohash) ∨
        ¬ Movable Sample.environment Sample.take Sample.listed :=
  failureKeepsOffers_iff (fun _ => rfl) Sample.take Sample.listed

/-- The take of a trader whose robohash is no hex fails and deletes the offer. -/
theorem offer_lost_after_failure :
    ¬ FailureKeepsOffers Sample.environment Sample.takeWithoutHex Sample.listed := by
  intro keeps
  have same := keeps (.coordinatorError .fromHex) (by decide +kernel)
  have gone : (Call.exec Sample.environment (handleTakerBond Sample.takeWithoutHex)
      Sample.listed).2.state.activeMakerOffers.rows ≠
        Sample.listed.state.activeMakerOffers.rows := by
    decide +kernel
  exact gone (congrArg Table.rows same.activeMakerOffers)

end TapTrade
