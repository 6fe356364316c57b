import TapTrade.Payout.Amounts
import TapTrade.Resumption.Staging
import TapTrade.Taking.Failure
import TapTrade.Taking.Steps

/-! # A take that goes through

A take that has built its escrow makes three more statements: it reads the offer again, deletes
it and inserts it among the taken ones. Whether it gets that far decides what becomes of the
trades: either the row of the taker is stored, or all of them stay as they are.
-/

namespace TapTrade

open Relational Resumption

section Move

variable {P : Platform}

/-- The move of an offer succeeds: it is listed, its columns fit the types that they are read
    into, the robohash of the taker is hex, and none of the three statements fails. -/
structure MovesOffer (env : Environment (coordinator P)) (w : World (coordinator P))
    (payload : OfferPsbtRequest) : Prop where
  readable : ∃ listed offer, w.state.activeMakerOffers.find? payload.offer.offerIdHex = some listed ∧
    AwaitingTakerOffer.ofRow payload.offer.offerIdHex listed = some offer
  hex : ∃ robohash, Hex.decode payload.tradeData.robohashHex = some robohash
  unfailing : ∀ k < 3, env.fault (w.clock + k) = none

/-- A take goes through: the bond is accepted, the escrow can be built, and the move that follows
    succeeds. -/
structure GoesThrough (env : Environment (coordinator P)) (w : World (coordinator P))
    (payload : OfferPsbtRequest) : Prop where
  builds : ∃ escrow, (Call.exec env (escrowForTaker payload) w).1 = .ok escrow
  moves : MovesOffer env (w.later 7) payload

/-- What a take that goes through leaves behind. -/
structure Stored (env : Environment (coordinator P)) (w : World (coordinator P))
    (payload : OfferPsbtRequest) (escrow : EscrowPsbt) (w' : World (coordinator P))
    (listed : ActiveMakerOffer) (offer : AwaitingTakerOffer) (robohash : Bytes) : Prop where
  builds : Call.exec env (escrowForTaker payload) w = (.ok escrow, w')
  found : w.state.activeMakerOffers.find? payload.offer.offerIdHex = some listed
  read : AwaitingTakerOffer.ofRow payload.offer.offerIdHex listed = some offer
  decoded : Hex.decode payload.tradeData.robohashHex = some robohash
  answered : ∃ response, (Call.exec env (handleTakerBond payload) w).1 = .ok response
  takenOffers : (Call.exec env (handleTakerBond payload) w).2.state.takenOffers =
    w.state.takenOffers.insertOrReplace (takenRow offer robohash payload escrow)
  grown : w'.log <+: (Call.exec env (handleTakerBond payload) w).2.log

open Call

variable {env : Environment (coordinator P)} {w w' : World (coordinator P)} {offerId : String}
  {payload : OfferPsbtRequest} {escrow : EscrowPsbt} {listed : ActiveMakerOffer}
  {offer : AwaitingTakerOffer} {robohash : Bytes}

theorem Stored.about (stored : Stored env w payload escrow w' listed offer robohash) :
    offer.offerId = payload.offer.offerIdHex := (AwaitingTakerOffer.ofRow_eq_some stored.read).1

/-- The three operations of the move that come before the insertion. -/
theorem unfailing_of_fetchAndDelete {offer : AwaitingTakerOffer}
    (moved : exec env (fetchAndDeleteOfferFromPublicOffersTable offerId) w = (.ok offer, w')) :
    env.fault w.clock = none ∧ env.fault (w.clock + 1) = none ∧ w'.clock = w.clock + 2 := by
  obtain ⟨listed, w₁, fetched, h₁⟩ := exec_bind_ok env w moved
  obtain ⟨-, rfl⟩ := exec_fetchOne_ok fetched
  obtain ⟨offer', w₂, read, h₂⟩ := exec_bind_ok env _ h₁
  obtain ⟨-, rfl⟩ := exec_ofOption_ok env _ read
  obtain ⟨u, w₃, deleted, returned⟩ := exec_bind_ok env _ h₂
  have second := unfailing_of_execute deleted
  have written := exec_execute_ok deleted
  subst written
  cases returned
  exact ⟨unfailing_of_fetchOne fetched, second, rfl⟩

/-- A move that gets past its operations one by one. -/
theorem movesOffer_of_steps {offer : AwaitingTakerOffer}
    (moved : exec env (fetchAndDeleteOfferFromPublicOffersTable payload.offer.offerIdHex) w =
      (.ok offer, w'))
    (decoded : Hex.decode payload.tradeData.robohashHex = some robohash)
    (third : env.fault w'.clock = none) : MovesOffer env w payload := by
  obtain ⟨first, second, clock⟩ := unfailing_of_fetchAndDelete moved
  obtain ⟨listed, found, read⟩ := fetchAndDeleteOfferFromPublicOffersTable_ok moved
  refine ⟨⟨listed, offer, found, read⟩, ⟨robohash, decoded⟩, ?_⟩
  rw [clock] at third
  have none_before : ∀ k < 0, env.fault (w.clock + k) = none :=
    fun k below => absurd below (Nat.not_lt_zero k)
  exact Staging.unfailing_succ (Staging.unfailing_succ
    (Staging.unfailing_succ none_before first) second) third

theorem movesOffer_of_ok {u : Unit}
    (moved : exec env (addTakerInfoAndMoveTable payload escrow) w = (.ok u, w')) :
    MovesOffer env w payload := by
  obtain ⟨offer, w₁, fetched, h₁⟩ := exec_bind_ok env w moved
  obtain ⟨robohash, w₂, decodes, stored⟩ := exec_bind_ok env _ h₁
  obtain ⟨decoded, rfl⟩ := exec_hexDecode_ok decodes
  exact movesOffer_of_steps fetched decoded (unfailing_of_execute stored)

/-- A move that does not succeed leaves the trades as they are. -/
theorem takenOffers_of_not_movesOffer (stays : ¬ MovesOffer env w payload) (escrow : EscrowPsbt) :
    (exec env (addTakerInfoAndMoveTable payload escrow) w).2.state.takenOffers =
      w.state.takenOffers := by
  have leaves : (fetchAndDeleteOfferFromPublicOffersTable (P := P) payload.offer.offerIdHex).Keeps
      (Preserving fun db : Database => db.takenOffers = w.state.takenOffers) := by
    apply Keeps.bind (by simp)
    intro listed
    apply Keeps.bind (by simp)
    intro offer
    exact Keeps.bind (keeps_execute fun _ same => same) fun _ => by simp
  have keeps : (exec env (fetchAndDeleteOfferFromPublicOffersTable payload.offer.offerIdHex)
      w).2.state.takenOffers = w.state.takenOffers := leaves.exec_holds rfl
  apply exec_bind_cases
    (motive := fun ends => ends.2.state.takenOffers = w.state.takenOffers) env w
  · intro e w₁ failed
    rw [failed] at keeps
    exact keeps
  · intro offer w₁ moved
    rw [moved] at keeps
    rw [exec_bind, exec_hexDecode]
    cases decoded : Hex.decode payload.tradeData.robohashHex with
    | none => exact keeps
    | some robohash =>
        dsimp only
        cases fault : env.fault w₁.clock with
        | some failure =>
            rw [exec_execute_of_fault fault]
            exact keeps
        | none => exact absurd (movesOffer_of_steps moved decoded fault) stays

/-- A move that succeeds, statement by statement. -/
theorem exec_move_of_movesOffer (unfailing : ∀ k < 3, env.fault (w.clock + k) = none)
    (found : w.state.activeMakerOffers.find? payload.offer.offerIdHex = some listed)
    (read : AwaitingTakerOffer.ofRow payload.offer.offerIdHex listed = some offer)
    (decoded : Hex.decode payload.tradeData.robohashHex = some robohash) (escrow : EscrowPsbt) :
    exec env (addTakerInfoAndMoveTable payload escrow) w =
      (.ok (), { w.later 3 with
        state := (w.state.deleteActive payload.offer.offerIdHex).insertTaken
          (takenRow offer robohash payload escrow) }) := by
  have fetched : exec env (fetchOne fun db =>
      db.activeMakerOffers.find? payload.offer.offerIdHex) w = (.ok listed, World.tick w) :=
    exec_fetchOne_of_found (unfailing 0 (by decide)) found
  have second : env.fault (World.tick w).clock = none := unfailing 1 (by decide)
  rw [addTakerInfoAndMoveTable, fetchAndDeleteOfferFromPublicOffersTable, bind_assoc,
    exec_bind_of_ok env w fetched, read]
  simp only [Call.ofOption, pure_bind, bind_assoc]
  rw [exec_bind_of_ok env _ (exec_execute second _), exec_bind, exec_hexDecode, decoded]
  dsimp only
  rw [exec_execute (unfailing 2 (by decide))]
  rfl

theorem movesOffer_congr (state : w'.state = w.state) (clock : w'.clock = w.clock) :
    MovesOffer env w' payload ↔ MovesOffer env w payload := by
  constructor
  · rintro ⟨readable, hex, unfailing⟩
    rw [state] at readable
    rw [clock] at unfailing
    exact ⟨readable, hex, unfailing⟩
  · rintro ⟨readable, hex, unfailing⟩
    rw [← state] at readable
    rw [← clock] at unfailing
    exact ⟨readable, hex, unfailing⟩

/-- Seven operations build the escrow, and none of them writes. -/
theorem escrowForTaker_ok (builds : exec env (escrowForTaker payload) w = (.ok escrow, w')) :
    w'.state = w.state ∧ w'.clock = w.clock + 7 := by
  have reads : (exec env (escrowForTaker payload) w).2.state = w.state :=
    Keeps.exec_state (by simp)
  rw [builds] at reads
  obtain ⟨k, clock, seven⟩ := (timed_escrowForTaker (P := P) payload).clock builds
  rw [Nat.zero_add] at seven
  exact ⟨reads, seven ▸ clock⟩

theorem takenOffers_of_goesThrough (through : GoesThrough env w payload) :
    ∃ escrow w' listed offer robohash, Stored env w payload escrow w' listed offer robohash := by
  obtain ⟨⟨escrow, builds⟩, moves⟩ := through
  rcases built : exec env (escrowForTaker payload) w with ⟨result, w'⟩
  rw [built] at builds
  cases builds
  obtain ⟨state, clock⟩ := escrowForTaker_ok built
  obtain ⟨⟨listed, offer, found, read⟩, ⟨robohash, decoded⟩, unfailing⟩ := moves
  have there : w'.state.activeMakerOffers.find? payload.offer.offerIdHex = some listed := by
    rw [state]
    exact found
  have onwards : ∀ k < 3, env.fault (w'.clock + k) = none := by
    rw [clock]
    exact unfailing
  have moved := exec_move_of_movesOffer onwards there read decoded escrow
  refine ⟨escrow, w', listed, offer, robohash, built, found, read, decoded, ⟨escrow.offerTaken, ?_⟩,
    ?_, ?_⟩
  · rw [exec_handleTakerBond, built]
    dsimp only
    rw [moved]
    rfl
  · rw [exec_handleTakerBond, built]
    dsimp only
    rw [moved, state]
    rfl
  · rw [exec_handleTakerBond, built]
    exact Program.log_run env (addTakerInfoAndMoveTable (P := P) payload escrow).run w'

theorem takenOffers_of_not_goesThrough (stays : ¬ GoesThrough env w payload) :
    (exec env (handleTakerBond payload) w).2.state.takenOffers = w.state.takenOffers := by
  have reads : (exec env (escrowForTaker payload) w).2.state = w.state :=
    Keeps.exec_state (by simp)
  rw [exec_handleTakerBond]
  rcases built : exec env (escrowForTaker payload) w with ⟨stop | escrow, w'⟩
  · rw [built] at reads
    exact congrArg Database.takenOffers reads
  · obtain ⟨state, clock⟩ := escrowForTaker_ok built
    dsimp only
    rw [takenOffers_of_not_movesOffer fun moves => stays ⟨⟨escrow, by rw [built]⟩, ?_⟩, state]
    exact (movesOffer_congr (w := w.later 7) state clock).mp moves

/-- A take succeeds iff it goes through. -/
theorem handleTakerBond_ok_iff :
    (∃ response, (exec env (handleTakerBond payload) w).1 = .ok response) ↔
      GoesThrough env w payload := by
  constructor
  · rintro ⟨response, answered⟩
    obtain ⟨escrow, w', built, h₁⟩ := exec_bind_ok env w (Prod.ext answered rfl)
    obtain ⟨u, w₁, moved, -⟩ := exec_bind_ok env _ h₁
    obtain ⟨state, clock⟩ := escrowForTaker_ok built
    refine ⟨⟨escrow, by rw [built]⟩, (movesOffer_congr (w := w.later 7) state clock).mp ?_⟩
    exact movesOffer_of_ok (exec_mapError_ok env _ moved)
  · intro through
    obtain ⟨escrow, w', listed, offer, robohash, stored⟩ := takenOffers_of_goesThrough through
    exact stored.answered

end Move

end TapTrade
