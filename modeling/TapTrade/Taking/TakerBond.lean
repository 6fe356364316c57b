import TapTrade.OrderBook.Backing
import TapTrade.Taking.Move

/-! # The bond of the taker

The offer that a taker sends along is a copy of the listed one, bond requirements included. The
bond is validated against the requirements in the order book, and so are the amounts of the trade
taken from there, but the address that the trade records for the bond is the one of the copy.
-/

namespace TapTrade

open Relational Resumption

section TakerBond

variable {P : Platform}

/-- The requirements that a trade records for the bond of its taker. -/
def TakenOffer.takerBondRequirements (row : TakenOffer) : BondRequirements where
  bondAddress := row.bondAddressTaker
  lockingAmountSat := row.bondAmountSat.toUInt64
  minInputSumSat := row.amountSat.toUInt64

/-- The recorded bond was validated against the recorded requirements. -/
def TakenOffer.TakerBondValidated (log : Log (coordinator P)) (row : TakenOffer) : Prop :=
  Validated log row.bondTxHexTaker row.takerBondRequirements

instance (log : Log (coordinator P)) : DecidablePred (TakenOffer.TakerBondValidated log) :=
  fun row => inferInstanceAs (Decidable (Validated log row.bondTxHexTaker row.takerBondRequirements))

/-- So it is for every trade. -/
def TakerBondsValidated (db : Database) (log : Log (coordinator P)) : Prop :=
  ∀ row ∈ db.takenOffers.rows, row.TakerBondValidated log

instance (db : Database) (log : Log (coordinator P)) : Decidable (TakerBondsValidated db log) := by
  unfold TakerBondsValidated
  infer_instance

/-- A take that goes through names the address that the listed offer names for the bond. -/
def QuotesBondAddress (env : Environment (coordinator P)) (w : World (coordinator P)) :
    Request → Prop
  | .submitTakerBond payload => GoesThrough env w payload →
      ∀ listed, w.state.activeMakerOffers.find? payload.offer.offerIdHex = some listed →
        payload.offer.bondRequirements.bondAddress = listed.takerBondRequirements.bondAddress
  | _ => True

open Call

variable {env : Environment (coordinator P)} {w w' : World (coordinator P)} {row : TakenOffer}
  {payload : OfferPsbtRequest} {escrow : EscrowPsbt} {listed : ActiveMakerOffer}
  {offer : AwaitingTakerOffer} {robohash : Bytes}

theorem TakenOffer.TakerBondValidated.later {log log' : Log (coordinator P)}
    (validated : row.TakerBondValidated log) (grown : log <+: log') :
    row.TakerBondValidated log' := Validated.later validated grown

/-- An escrow is built only for a bond that meets the requirements in the order book. -/
theorem validated_of_escrowForTaker
    (builds : exec env (escrowForTaker payload) w = (.ok escrow, w'))
    (found : w.state.activeMakerOffers.find? payload.offer.offerIdHex = some listed) :
    Validated w'.log payload.tradeData.signedBondHex listed.takerBondRequirements := by
  obtain ⟨requirements, w₁, fetched, h₁⟩ := exec_bind_ok env w builds
  obtain ⟨row, w₂, looked, returned⟩ := exec_bind_ok env w (exec_mapError_ok env w fetched)
  obtain ⟨there, rfl⟩ := exec_fetchOne_ok looked
  cases there.symm.trans found
  cases returned
  obtain ⟨u, w₃, asked, h₂⟩ := exec_bind_ok env _ h₁
  obtain ⟨accepted, rfl⟩ := exec_tryAsk_ok (exec_mapError_ok env _ asked)
  have validated : Validated (World.ask env (.validateBondTxHex payload.tradeData.signedBondHex
      listed.takerBondRequirements) (World.tick w)).2.log payload.tradeData.signedBondHex
      listed.takerBondRequirements := by
    rw [id] at accepted
    simp [World.ask, Validated, validated?, accepted]
  have grown := Program.log_run env (Call.mapError BondError.coordinatorError
    (createEscrowPsbt (P := P) payload)).run
    (World.ask env (.validateBondTxHex payload.tradeData.signedBondHex
      listed.takerBondRequirements) (World.tick w)).2
  rw [show Program.run env _ _ = _ from h₂] at grown
  exact validated.later grown

/-- The amounts of the trade are those of the listed offer. -/
theorem takerBondRequirements_takenRow (robohash : Bytes) (escrow : EscrowPsbt)
    (read : AwaitingTakerOffer.ofRow payload.offer.offerIdHex listed = some offer)
    (quoted : payload.offer.bondRequirements.bondAddress =
      listed.takerBondRequirements.bondAddress) :
    (takenRow offer robohash payload escrow).takerBondRequirements =
      listed.takerBondRequirements := by
  obtain ⟨amount, bondAmount⟩ := AwaitingTakerOffer.amounts_of_ofRow read
  simp only [TakenOffer.takerBondRequirements, takenRow, amount, bondAmount, quoted]
  rfl

theorem TakerBondsValidated.later {db : Database} {log log' : Log (coordinator P)}
    (validated : TakerBondsValidated db log) (grown : log <+: log') :
    TakerBondsValidated db log' := fun row member => (validated row member).later grown

/-- A take records a bond that was validated against what it records along with it. -/
theorem takerBondsValidated_handleTakerBond (holds : TakerBondsValidated w.state w.log)
    (quotes : QuotesBondAddress env w (.submitTakerBond payload)) :
    TakerBondsValidated (exec env (handleTakerBond payload) w).2.state
      (exec env (handleTakerBond payload) w).2.log := by
  have before : TakerBondsValidated w.state (exec env (handleTakerBond payload) w).2.log :=
    holds.later (Program.log_run env (handleTakerBond (P := P) payload).run w)
  intro row member
  by_cases through : GoesThrough env w payload
  · obtain ⟨escrow, w', listed, offer, robohash, stored⟩ := takenOffers_of_goesThrough through
    rw [stored.takenOffers] at member
    rcases Table.mem_of_mem_insertOrReplace member with rfl | old
    · have validated := validated_of_escrowForTaker stored.builds stored.found
      have same := takerBondRequirements_takenRow robohash escrow stored.read
        (quotes through listed stored.found)
      unfold TakenOffer.TakerBondValidated
      rw [same]
      exact validated.later stored.grown
    · exact before row old
  · rw [takenOffers_of_not_goesThrough through] at member
    exact before row member

/-- Trades that go on keep what they recorded about the bond. -/
theorem TakenOffer.TakerBondValidated.of_trade {old : TakenOffer} {log : Log (coordinator P)}
    (same : row.trade = old.trade) (validated : old.TakerBondValidated log) :
    row.TakerBondValidated log := by
  have bond : row.bondTxHexTaker = old.bondTxHexTaker := congrArg (·.bondTxHexTaker) same
  have requirements : row.takerBondRequirements = old.takerBondRequirements :=
    congrArg (·.takerBondRequirements) same
  unfold TakerBondValidated
  rw [bond, requirements]
  exact validated

/-- A request that is no take does not add to what has to be validated. -/
theorem keeps_takerBondsValidated (log : Log (coordinator P)) {request : Request}
    (kind : request.kind ≠ .taking) :
    (request.serve P).Keeps (Preserving fun db => TakerBondsValidated db log) := by
  cases kind' : request.kind with
  | listing =>
      apply (listing_serve P request kind').mono
      intro before after listing holds row member
      rw [listing.takenOffers] at member
      exact holds row member
  | trading =>
      apply (trading_serve P request kind').mono
      intro before after trading holds row member
      obtain ⟨old, found, same⟩ := trading.takenOffers _ row (Table.mem_rows.mp member)
      exact (holds old (Table.mem_of_find? found)).of_trade same
  | taking => exact absurd kind' kind

theorem takerBondsValidated_serveAlone (request : Request)
    (holds : TakerBondsValidated w.state w.log) (quotes : QuotesBondAddress env w request) :
    TakerBondsValidated (serveAlone env w request).state (serveAlone env w request).log := by
  by_cases kind : request.kind = .taking
  · obtain ⟨payload, rfl⟩ := Request.eq_submitTakerBond kind
    rw [serveAlone, World.serve, Request.serve, Program.map, Program.run_bind]
    exact takerBondsValidated_handleTakerBond holds quotes
  · exact (keeps_takerBondsValidated _ kind).run_holds
      (holds.later (Program.log_run env (request.serve P) w))

end TakerBond

/-- However the requests come, one after the other and with whatever clients send: as long as no
    take goes through that names another address for its bond than the listed offer, the bond of
    every taker was validated against the address and the amounts that its trade records. -/
theorem takerBonds_validated {P : Platform} (env : Environment (coordinator P))
    (requests : List Request)
    (quotes : Course.Throughout (serveAlone env) (QuotesBondAddress env) (startup P) requests) :
    TakerBondsValidated (runAlone env requests).state (runAlone env requests).log := by
  apply Course.invariant_foldl
    (fun w : World (coordinator P) => TakerBondsValidated w.state w.log) ?_ ?_ quotes
  · exact fun w request holds quotes => takerBondsValidated_serveAlone request holds quotes
  · exact fun row member => (List.not_mem_nil member).elim

namespace Sample

/-- A take that names another address for its bond. -/
def takeElsewhere : OfferPsbtRequest :=
  ⟨{ publicOffer with bondRequirements := ⟨takerAddress, 10000, 10000⟩ }, takerBond⟩

end Sample

theorem takerBonds_validated_sample :
    TakerBondsValidated (runAlone Sample.environment Sample.prepared).state
      (runAlone Sample.environment Sample.prepared).log := by
  apply takerBonds_validated Sample.environment Sample.prepared
  refine ⟨trivial, trivial, fun _ listed found => ?_, trivial, trivial, trivial, trivial, trivial⟩
  have names : ∀ listed, Sample.listed.state.activeMakerOffers.find? Sample.offerId = some listed →
      Sample.take.offer.bondRequirements.bondAddress =
        listed.takerBondRequirements.bondAddress := by decide +kernel
  exact names listed found

/-- The bond pays to the address in the order book, and the trade records another one. -/
theorem other_address_recorded :
    ¬ TakerBondsValidated
        (runAlone Sample.environment [.createOffer (Sample.order true),
          .submitMakerBond Sample.makerBond, .submitTakerBond Sample.takeElsewhere]).state
        (runAlone Sample.environment [.createOffer (Sample.order true),
          .submitMakerBond Sample.makerBond, .submitTakerBond Sample.takeElsewhere]).log := by
  decide +kernel

end TapTrade
