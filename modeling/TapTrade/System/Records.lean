import TapTrade.Model.Guards
import TapTrade.Model.Lookup
import TapTrade.Model.Questions
import TapTrade.Resumption.Knowledge

/-! # What the coordinator keeps on record of a trade

Who is in a trade, with which bond, address and keys, what it has signed and whether it is
satisfied, disputes and the confirmation of the escrow are records of an offer that only some
requests can make. Others act between the look-ups of a request and its writes; but what it makes
a record of, it has read.
-/

namespace TapTrade

open Relational Resumption

variable {P : Platform}

/-- What a trader enters a trade with. -/
structure Stake where
  robohash : Bytes
  bondTxHex : String
  payoutAddress : String
  taprootPubkeyHex : String
  musigPubNonceHex : String
  musigPubkeyHex : String
  deriving DecidableEq, Repr

def BondSubmissionRequest.stake (robohash : Bytes) (payload : BondSubmissionRequest) : Stake where
  robohash
  bondTxHex := payload.signedBondHex
  payoutAddress := payload.payoutAddress
  taprootPubkeyHex := payload.taprootPubkeyHex
  musigPubNonceHex := payload.musigPubNonceHex
  musigPubkeyHex := payload.musigPubkeyHex

/-- The trader submits the stake with its bond. -/
def BondSubmissionRequest.Enters (payload : BondSubmissionRequest) (stake : Stake) : Prop :=
  ∃ robohash, Hex.decode payload.robohashHex = some robohash ∧ payload.stake robohash = stake

/-- The stake of the maker of an offer. -/
def ActiveMakerOffer.stake (offer : ActiveMakerOffer) : Stake where
  robohash := Column.blob offer.robohash
  bondTxHex := offer.bondTxHex
  payoutAddress := offer.payoutAddress
  taprootPubkeyHex := offer.taprootPubkeyHexMaker
  musigPubNonceHex := offer.musigPubNonceHex
  musigPubkeyHex := offer.musigPubkeyHex

/-- The stake of the maker, or of the taker. -/
def TakenOffer.stake : Bool → TakenOffer → Stake
  | true, row => {
      robohash := Column.blob row.robohashMaker
      bondTxHex := row.bondTxHexMaker
      payoutAddress := row.payoutAddressMaker
      taprootPubkeyHex := row.taprootXonlyPubkeyHexMaker
      musigPubNonceHex := row.musigPubNonceHexMaker
      musigPubkeyHex := row.musigPubkeyCompressedHexMaker }
  | false, row => {
      robohash := Column.blob row.robohashTaker
      bondTxHex := row.bondTxHexTaker
      payoutAddress := row.payoutAddressTaker
      taprootPubkeyHex := row.taprootXonlyPubkeyHexTaker
      musigPubNonceHex := row.musigPubNonceHexTaker
      musigPubkeyHex := row.musigPubkeyCompressedHexTaker }

/-- The stake of an offer is the one of the maker in the trade. -/
theorem AwaitingTakerOffer.stake_of_ofRow {offerIdHex : String} {row : ActiveMakerOffer}
    {offer : AwaitingTakerOffer} (read : ofRow offerIdHex row = some offer) (robohash : Bytes)
    (payload : OfferPsbtRequest) (escrow : EscrowPsbt) :
    offer.offerId = offerIdHex ∧ (takenRow offer robohash payload escrow).stake true = row.stake := by
  simp only [ofRow, Option.bind_eq_bind, Option.bind_eq_some_iff] at read
  obtain ⟨direction, -, ratio, -, rest⟩ := read
  cases rest
  exact ⟨rfl, rfl⟩

/-- What can be on record in a row of `taken_offers`. -/
inductive Record where
  /-- The stake of the maker, or of the taker. -/
  | entered (isMaker : Bool) (stake : Stake)
  /-- The escrow transaction with the signature of the maker, or of the taker. -/
  | cosigned (isMaker : Bool) (psbt : String)
  /-- The maker, or the taker, is satisfied. -/
  | satisfied (isMaker : Bool)
  /-- The partial signature of the maker, or of the taker. -/
  | signed (isMaker : Bool) (signature : String)
  /-- The payout transaction. -/
  | prepared
  /-- A dispute that is open or decided. -/
  | disputed
  /-- The winner of the dispute. -/
  | decided (winner : String)
  /-- The confirmation of the escrow transaction. -/
  | confirmed (txid : String)
  deriving DecidableEq, Repr

/-- The record is in the row. -/
def Record.In : Record → TakenOffer → Prop
  | entered isMaker stake, row => row.stake isMaker = stake
  | cosigned true psbt, row => row.signedEscrowPsbtHexMaker = some psbt
  | cosigned false psbt, row => row.signedEscrowPsbtHexTaker = some psbt
  | satisfied true, row => row.happiness.makerHappy = some true
  | satisfied false, row => row.happiness.takerHappy = some true
  | signed true signature, row => row.musigPartialSigHexMaker = some signature
  | signed false signature, row => row.musigPartialSigHexTaker = some signature
  | prepared, row => row.payoutTransactionPsbtHex ≠ none
  | disputed, row => row.escrowOngoing = 1 ∨ row.escrowWinnerRobohash ≠ none
  | decided winner, row => row.escrowWinnerRobohash = some winner
  | confirmed txid, row => row.Confirmed ∧ row.escrowPsbtTxid = txid

/-- In the row of a take, nothing is on record but the stakes. -/
theorem Record.in_takenRow {record : Record} {offer : AwaitingTakerOffer} {robohash : Bytes}
    {payload : OfferPsbtRequest} {escrow : EscrowPsbt}
    (recorded : record.In (takenRow offer robohash payload escrow)) :
    ∃ isMaker, record = .entered isMaker ((takenRow offer robohash payload escrow).stake isMaker) := by
  cases record with
  | entered isMaker stake =>
      cases recorded
      exact ⟨isMaker, rfl⟩
  | cosigned isMaker | satisfied isMaker | signed isMaker => cases isMaker <;> cases recorded
  | prepared => exact absurd rfl recorded
  | disputed => obtain ongoing | decided := recorded <;> simp [takenRow] at *
  | decided winner => cases recorded
  | confirmed txid => cases recorded.1

theorem Record.satisfied_of_bothHappy {row : TakenOffer} (happy : row.happiness.bothHappy = true)
    (isMaker : Bool) : (satisfied isMaker).In row := by
  obtain ⟨maker, taker⟩ : row.happiness.makerHappy = some true ∧
      row.happiness.takerHappy = some true := by
    simpa [TraderHappiness.bothHappy] using happy
  cases isMaker with
  | true => exact maker
  | false => exact taker

/-- The winner by the choice of the operator. -/
def EscrowCase.winner (escrow : EscrowCase) : EscrowWinner → String
  | .maker => escrow.makerId
  | .taker => escrow.takerId

/-- The dispute that the operator is asked about. -/
def TakenOffer.Case (escrow : EscrowCase) (row : TakenOffer) : Prop :=
  row.escrowOngoing = 1 ∧ row.escrowCase = escrow

/-- The robot with the robohash is the maker of the offer, or its taker. -/
def Acting (offerId robohashHex : String) (isMaker : Bool) (db : Database) : Prop :=
  ∃ robohash, Hex.decode robohashHex = some robohash ∧
    db.HasOffer offerId fun row => row.role? robohash = some isMaker

/-- The order book has an offer with the stake. -/
def Database.HasListed (offerId : String) (stake : Stake) (db : Database) : Prop :=
  ∃ offer, db.activeMakerOffers.find? offerId = some offer ∧ offer.stake = stake

/-- A request that knows so much makes the record of the offer. -/
def Request.Makes (k : Knowledge (coordinator P)) (offerId : String) : Request → Record → Prop
  | .submitTakerBond payload, .entered true stake =>
      payload.offer.offerIdHex = offerId ∧ k.Knows (·.HasListed offerId stake)
  | .submitTakerBond payload, .entered false stake =>
      payload.offer.offerIdHex = offerId ∧ payload.tradeData.Enters stake
  | .submitEscrowPsbt payload, .cosigned isMaker psbt =>
      payload.offerIdHex = offerId ∧ payload.signedPsbtHex = psbt ∧
        k.Knows (Acting offerId payload.robohashHex isMaker)
  | .submitObligationConfirmation payload, .satisfied isMaker =>
      payload.offerIdHex = offerId ∧ k.Knows (Acting offerId payload.robohashHex isMaker)
  | .submitPayoutSignature payload, .signed isMaker signature =>
      payload.offerIdHex = offerId ∧ payload.partialSigHex = signature ∧
        k.Knows (Acting offerId payload.robohashHex isMaker)
  | .pollFinalPayout payload, .prepared => payload.offerIdHex = offerId ∧
      k.Knows (·.HasOffer offerId fun row => row.happiness.bothHappy = true)
  | .requestEscrow payload, .disputed =>
      payload.offerIdHex = offerId ∧ ∃ isMaker, k.Knows (Acting offerId payload.robohashHex isMaker)
  | .escrowCliLoop, .disputed => k.Knows (·.HasOffer offerId Record.disputed.In)
  | .escrowCliLoop, .decided winner => ∃ escrow choice,
      ⟨.getCoordinatorCliInput escrow, .ok choice⟩ ∈ k.heard ∧ winner = escrow.winner choice ∧
        k.Knows (·.HasOffer offerId (TakenOffer.Case escrow))
  | .updateTransactionConfirmations, .confirmed txid =>
      ∃ txids confirmed, ⟨.getConfirmations txids, .ok confirmed⟩ ∈ k.heard ∧ txid ∈ confirmed
  | _, _ => False

/-- A request that gets an offer with the stake into the order book. -/
def Request.Enlists : Request → Stake → Prop
  | .submitMakerBond payload, stake => payload.Enters stake
  | _, _ => False

/-- A statement of the request: it adds no record but those that the request makes, and no other
    offers. -/
structure Request.Records (request : Request) (k : Knowledge (coordinator P))
    (before after : Database) : Prop where
  trades : ∀ offerId record, ¬ request.Makes k offerId record →
    before.AtOffer offerId (¬ record.In ·) → after.AtOffer offerId (¬ record.In ·)
  offers : ∀ offerId stake, after.HasListed offerId stake →
    before.HasListed offerId stake ∨ request.Enlists stake

/-- What must be known and heard before: a bond is published only if the node has flagged it, and
    the coordinator acts on the blockchain for a trade only if the row has all that it needs. -/
def Query.Founded (knows : (Database → Prop) → Prop)
    (heard : ∀ query : Query P, query.Answer → Prop) : Query P → Prop
  | .publishBondTxHex bondTxHex => heard .punishmentEnabled (some "1") ∧
      ∃ bonds violations, heard (.validateBonds bonds) (.ok violations) ∧
        knows (fun db => db.activeMakerOffers.rows.map ActiveMakerOffer.monitoringBond = bonds) ∧
          ∃ violation ∈ violations, violation.1.bondTxHex = bondTxHex
  | .combineAndBroadcastEscrowPsbt maker taker => ∃ offerId, knows (·.HasOffer offerId fun row =>
      (Record.cosigned true maker).In row ∧ (Record.cosigned false taker).In row)
  | .assembleKeyspendPayoutPsbt data => ∃ offerId,
      knows (·.HasOffer offerId fun row => row.payoutData P = .ok data) ∧
        knows (·.HasOffer offerId fun row => row.happiness.bothHappy = true)
  | .broadcastKeyspendTx context => ∃ offerId,
      knows (·.HasOffer offerId fun row => row.keyspendContext P = .ok (some context))
  | _ => True

theorem Query.Founded.mono {knows knows' : (Database → Prop) → Prop}
    {heard heard' : ∀ query : Query P, query.Answer → Prop} {query : Query P}
    (founded : query.Founded knows heard) (more : ∀ fact, knows fact → knows' fact)
    (further : ∀ query answer, heard query answer → heard' query answer) :
    query.Founded knows' heard' := by
  cases query with
  | publishBondTxHex bondTxHex =>
      obtain ⟨enabled, bonds, violations, checked, listed, flagged⟩ := founded
      exact ⟨further _ _ enabled, bonds, violations, further _ _ checked, more _ listed, flagged⟩
  | combineAndBroadcastEscrowPsbt maker taker => exact founded.imp fun _ => more _
  | assembleKeyspendPayoutPsbt data => exact founded.imp fun _ known => known.imp (more _) (more _)
  | broadcastKeyspendTx context => exact founded.imp fun _ => more _
  | _ => trivial

/-- A question that the request may ask with what it knows. -/
def Request.MayAsk (request : Request) (k : Knowledge (coordinator P)) (query : Query P) : Prop :=
  request.Poses query ∧ query.Founded k.Knows fun query answer => ⟨query, answer⟩ ∈ k.heard

section Statements

open Database

variable {request : Request} {k : Knowledge (coordinator P)} {db : Database}

theorem Request.records_self : request.Records k db db :=
  ⟨fun _ _ _ before => before, fun _ _ => .inl⟩

/-- A change of the row: what it puts on record, the request makes. -/
theorem Request.records_updateTaken {id : String} {change : Change TakenOffer}
    (makes : ∀ record row, ¬ record.In row → record.In (change.apply row) →
      request.Makes k id record) : request.Records k db (db.updateTaken id change) := by
  refine ⟨fun offerId record unmade before => ?_, fun _ _ => .inl⟩
  refine before.updateTaken fun same row absent recorded => unmade ?_
  exact same ▸ makes record row absent recorded

theorem Request.records_setHappy {id : String} {isMaker : Bool} {value : Option Int64}
    (makes : value ≠ none → request.Makes k id (.satisfied isMaker)) :
    request.Records k db (db.updateTaken id (TakenOffer.setHappy isMaker value)) := by
  apply records_updateTaken
  intro record row absent recorded
  have happy (recorded : value.map (fun flag => decide (flag ≠ 0)) = some true) :
      request.Makes k id (.satisfied isMaker) := by
    apply makes
    rintro rfl
    cases recorded
  cases record with
  | satisfied side =>
      cases isMaker <;> cases side
      · exact happy recorded
      · exact absurd recorded absent
      · exact absurd recorded absent
      · exact happy recorded
  | entered side | cosigned side | signed side =>
      cases isMaker <;> cases side <;> exact absurd recorded absent
  | _ => cases isMaker <;> exact absurd recorded absent

theorem Request.records_setPartialSig {id signature : String} {isMaker : Bool}
    (makes : request.Makes k id (.signed isMaker signature)) :
    request.Records k db (db.updateTaken id (TakenOffer.setPartialSig isMaker signature)) := by
  apply records_updateTaken
  intro record row absent recorded
  cases record with
  | signed side other =>
      cases isMaker <;> cases side
      · cases recorded
        exact makes
      · exact absurd recorded absent
      · exact absurd recorded absent
      · cases recorded
        exact makes
  | entered side | cosigned side | satisfied side =>
      cases isMaker <;> cases side <;> exact absurd recorded absent
  | _ => cases isMaker <;> exact absurd recorded absent

theorem Request.records_setSignedEscrowPsbt {id psbt : String} {isMaker : Bool}
    (makes : request.Makes k id (.cosigned isMaker psbt)) :
    request.Records k db (db.updateTaken id (TakenOffer.setSignedEscrowPsbt isMaker psbt)) := by
  apply records_updateTaken
  intro record row absent recorded
  cases record with
  | cosigned side other =>
      cases isMaker <;> cases side
      · cases recorded
        exact makes
      · exact absurd recorded absent
      · exact absurd recorded absent
      · cases recorded
        exact makes
  | entered side | satisfied side | signed side =>
      cases isMaker <;> cases side <;> exact absurd recorded absent
  | _ => cases isMaker <;> exact absurd recorded absent

theorem Request.records_setEscrowOngoing {id : String} (makes : request.Makes k id .disputed) :
    request.Records k db (db.updateTaken id TakenOffer.setEscrowOngoing) := by
  apply records_updateTaken
  intro record row absent recorded
  cases record with
  | entered side | cosigned side | satisfied side | signed side =>
      cases side <;> exact absurd recorded absent
  | disputed => exact makes
  | _ => exact absurd recorded absent

theorem Request.records_setEscrowWinner {id winner : String}
    (disputes : request.Makes k id .disputed) (decides : request.Makes k id (.decided winner)) :
    request.Records k db (db.updateTaken id (TakenOffer.setEscrowWinner winner)) := by
  apply records_updateTaken
  intro record row absent recorded
  cases record with
  | entered side | cosigned side | satisfied side | signed side =>
      cases side <;> exact absurd recorded absent
  | disputed => exact disputes
  | decided other =>
      cases recorded
      exact decides
  | _ => exact absurd recorded absent

theorem Request.records_toggleProcessing {id : String} :
    request.Records k db (db.updateTaken id TakenOffer.toggleProcessing) := by
  apply records_updateTaken
  intro record row absent recorded
  cases record with
  | entered side | cosigned side | satisfied side | signed side =>
      cases side <;> exact absurd recorded absent
  | _ => exact absurd recorded absent

theorem Request.records_setPayoutPsbt {id psbt : String} (makes : request.Makes k id .prepared) :
    request.Records k db (db.updateTaken id (TakenOffer.setPayoutPsbt psbt)) := by
  apply records_updateTaken
  intro record row absent recorded
  cases record with
  | entered side | cosigned side | satisfied side | signed side =>
      cases side <;> exact absurd recorded absent
  | prepared => exact makes
  | _ => exact absurd recorded absent

theorem Request.records_confirm {txid : String} (makes : ∀ id, request.Makes k id (.confirmed txid)) :
    request.Records k db { db with
      takenOffers := db.takenOffers.updateWhere (fun row => row.escrowPsbtTxid = txid)
        TakenOffer.setConfirmed } := by
  refine ⟨fun offerId record unmade before row found recorded => ?_, fun _ _ => .inl⟩
  simp only [Table.find?_updateWhere] at found
  obtain ⟨old, inTable, rfl⟩ := Option.map_eq_some_iff.mp found
  split at recorded
  case isFalse => exact before old inTable recorded
  case isTrue same =>
    cases record with
    | entered side | cosigned side | satisfied side | signed side =>
        cases side <;> exact before old inTable recorded
    | prepared | disputed | decided _ => exact before old inTable recorded
    | confirmed other =>
        obtain ⟨-, rfl⟩ := recorded
        have same : old.escrowPsbtTxid = txid := of_decide_eq_true same
        exact unmade (same ▸ makes offerId)

theorem Request.records_insertTaken {offer : AwaitingTakerOffer} {robohash : Bytes}
    {payload : OfferPsbtRequest} {escrow : EscrowPsbt}
    (makes : ∀ isMaker, request.Makes k offer.offerId
      (.entered isMaker ((takenRow offer robohash payload escrow).stake isMaker))) :
    request.Records k db (db.insertTaken (takenRow offer robohash payload escrow)) := by
  refine ⟨fun offerId record unmade before => ?_, fun _ _ => .inl⟩
  refine before.insertTaken fun same recorded => unmade ?_
  obtain ⟨isMaker, rfl⟩ := Record.in_takenRow recorded
  exact same ▸ makes isMaker

theorem Request.records_deleteTaken {id : String} : request.Records k db (db.deleteTaken id) :=
  ⟨fun _ _ _ before => before.deleteTaken, fun _ _ => .inl⟩

theorem Request.records_insertActive {row : ActiveMakerOffer} (enlists : request.Enlists row.stake) :
    request.Records k db (db.insertActive row) := by
  refine ⟨fun _ _ _ before => before, ?_⟩
  rintro offerId stake ⟨offer, found, rfl⟩
  obtain ⟨-, rfl⟩ | before := Table.find?_of_insertOrReplace found
  · exact .inr enlists
  · exact .inl ⟨offer, before, rfl⟩

theorem Request.records_deleteActive {id : String} : request.Records k db (db.deleteActive id) :=
  ⟨fun _ _ _ before => before, fun _ _ ⟨offer, found, same⟩ =>
    .inl ⟨offer, Table.find?_of_delete found, same⟩⟩

/-- The pending requests are no offers yet. -/
theorem Request.records_makerRequests {makerRequests : Relational.Table MakerRequest} :
    request.Records k db { db with makerRequests } := ⟨fun _ _ _ before => before, fun _ _ => .inl⟩

/-- A request that makes no record, and no offer. -/
def Request.Plain : Request → Prop
  | .createOffer _ | .fetchAvailableOffers _ | .requestOfferStatus _
  | .pollEscrowConfirmation _ => True
  | _ => False

theorem Request.records_of_served (plain : request.Plain) {before after : Database}
    (served : Served request before after) : request.Records k before after := by
  cases served with
  | reads => exact records_self
  | writes permitted =>
      cases permitted with
      | createOffer => exact records_makerRequests
      | _ => exact plain.elim

end Statements

end TapTrade
