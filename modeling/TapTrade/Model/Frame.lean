import TapTrade.Model.Writes

/-! # What the handlers leave alone

The columns of `taken_offers` that the take fixes are the trade; the others record its
progress. Every request but those that create, activate or take an offer leaves the
other two tables alone and the trade of each taken offer as it is, and no offer gets into
the order book but by the bond of its maker.
-/

namespace TapTrade

open Relational Resumption

/-- The row as the take inserted it, without what has been recorded since. -/
def TakenOffer.trade (row : TakenOffer) : TakenOffer :=
  { row with
    musigPartialSigHexMaker := none
    musigPartialSigHexTaker := none
    signedEscrowPsbtHexMaker := none
    signedEscrowPsbtHexTaker := none
    escrowPsbtIsConfirmed := none
    makerHappy := none
    takerHappy := none
    escrowOngoing := 0
    escrowWinnerRobohash := none
    payoutTransactionPsbtHex := none
    processing := 0 }

/-- A change that records progress only. -/
def KeepsTrade (change : Change TakenOffer) : Prop := ∀ row, (change.apply row).trade = row.trade

namespace TakenOffer

theorem keepsTrade_setPartialSig (isMaker : Bool) (sig : String) :
    KeepsTrade (setPartialSig isMaker sig) := by
  intro row
  cases isMaker <;> rfl

theorem keepsTrade_setSignedEscrowPsbt (isMaker : Bool) (psbt : String) :
    KeepsTrade (setSignedEscrowPsbt isMaker psbt) := by
  intro row
  cases isMaker <;> rfl

theorem keepsTrade_setHappy (isMaker : Bool) (happy : Option Int64) :
    KeepsTrade (setHappy isMaker happy) := by
  intro row
  cases isMaker <;> rfl

end TakenOffer

namespace Database

/-- Trades go on or end; nothing else happens. -/
structure Trading (before after : Database) : Prop where
  makerRequests : after.makerRequests = before.makerRequests
  activeMakerOffers : after.activeMakerOffers = before.activeMakerOffers
  takenOffers : ∀ offerId row, after.takenOffers.find? offerId = some row →
    ∃ old, before.takenOffers.find? offerId = some old ∧ row.trade = old.trade

instance : Std.Refl Trading where
  refl _ := ⟨rfl, rfl, fun _ row found => ⟨row, found, rfl⟩⟩

theorem trading_updateTaken (db : Database) (offerId : String) {change : Change TakenOffer}
    (keeps : KeepsTrade change) : Trading db (db.updateTaken offerId change) := by
  refine ⟨rfl, rfl, fun id row found => ?_⟩
  simp only [updateTaken, Table.find?_update] at found
  split at found
  · obtain ⟨old, inTable, rfl⟩ := Option.map_eq_some_iff.mp found
    exact ⟨old, inTable, keeps old⟩
  · exact ⟨row, found, rfl⟩

theorem trading_deleteTaken (db : Database) (offerId : String) :
    Trading db (db.deleteTaken offerId) := by
  refine ⟨rfl, rfl, fun id row found => ?_⟩
  exact ⟨row, Table.find?_of_delete found, rfl⟩

theorem trading_confirm (db : Database) (p : TakenOffer → Bool) :
    Trading db { db with takenOffers := db.takenOffers.updateWhere p TakenOffer.setConfirmed } := by
  refine ⟨rfl, rfl, fun id row found => ?_⟩
  simp only [Table.find?_updateWhere] at found
  obtain ⟨old, inTable, rfl⟩ := Option.map_eq_some_iff.mp found
  refine ⟨old, inTable, ?_⟩
  split <;> rfl

/-- Only the pending requests may change. -/
structure Pending (before after : Database) : Prop where
  activeMakerOffers : after.activeMakerOffers = before.activeMakerOffers
  takenOffers : after.takenOffers = before.takenOffers

/-- Pending and listed offers may change; the taken ones do not. -/
structure Listing (before after : Database) : Prop where
  takenOffers : after.takenOffers = before.takenOffers

instance : Std.Refl Listing where
  refl _ := ⟨rfl⟩

/-- No offer is listed: the pending requests stay and the order book can only shrink. -/
structure Delisting (before after : Database) : Prop where
  makerRequests : after.makerRequests = before.makerRequests
  activeMakerOffers : ∀ offerId row, after.activeMakerOffers.find? offerId = some row →
    before.activeMakerOffers.find? offerId = some row

instance : Std.Refl Delisting where
  refl _ := ⟨rfl, fun _ _ found => found⟩

theorem delisting_deleteActive (db : Database) (offerId : String) :
    Delisting db (db.deleteActive offerId) :=
  ⟨rfl, fun _ _ found => Table.find?_of_delete found⟩

end Database

/-- The offer is in the order book. -/
def Database.Lists (db : Database) (offerId : String) : Prop :=
  db.activeMakerOffers.find? offerId ≠ none

instance (db : Database) (offerId : String) : Decidable (db.Lists offerId) :=
  inferInstanceAs (Decidable (_ ≠ _))

theorem Database.lists_of_mem {db : Database} {row : ActiveMakerOffer}
    (member : row ∈ db.activeMakerOffers.rows) : db.Lists row.offerId := by
  intro missing
  cases (Table.mem_rows.mp member).symm.trans missing

theorem Database.lists_deleteActive {db : Database} {offerId other : String} :
    (db.deleteActive other).Lists offerId ↔ offerId ≠ other ∧ db.Lists offerId := by
  rw [Lists, deleteActive, Table.find?_delete]
  split
  · simp_all
  · simp_all [Lists]

/-- The payout transaction that is broadcast has been prepared. -/
theorem prepared_of_keyspendContext {P : Platform} (noPsbt : P.psbtDeserialize [] = none)
    {row : TakenOffer} {context : KeyspendContext P} (read : row.keyspendContext P = .ok (some context)) :
    row.payoutTransactionPsbtHex ≠ none := by
  intro missing
  unfold TakenOffer.keyspendContext at read
  split at read
  · obtain ⟨context', built, -⟩ := bind_eq_ok.mp read
    simp only [KeyspendContext.fromHexStr, bind_eq_ok] at built
    obtain ⟨_, -, _, -, _, -, bytes, decoded, psbt, parsed, -⟩ := built
    rw [missing] at decoded
    cases decoded
    rw [parse_eq_ok, noPsbt] at parsed
    cases parsed
  · cases read

/-- The taken offer, if there is one, has the property. -/
def Database.AtOffer (offerId : String) (p : TakenOffer → Prop) (db : Database) : Prop :=
  ∀ row, db.takenOffers.find? offerId = some row → p row

instance (offerId : String) (p : TakenOffer → Prop) [DecidablePred p] (db : Database) :
    Decidable (db.AtOffer offerId p) :=
  inferInstanceAs (Decidable (∀ row ∈ db.takenOffers.find? offerId, p row))

namespace Database.AtOffer

variable {offerId : String} {p : TakenOffer → Prop} {db : Database}

theorem startup {P : Platform} : (startup P).state.AtOffer offerId p := by
  intro row found
  cases found

theorem updateTaken {id : String} {change : Change TakenOffer} (holds : db.AtOffer offerId p)
    (keeps : id = offerId → ∀ row, p row → p (change.apply row)) :
    (db.updateTaken id change).AtOffer offerId p := by
  intro row found
  simp only [Database.updateTaken, Table.find?_update] at found
  split at found
  · rename_i same
    obtain ⟨old, inTable, rfl⟩ := Option.map_eq_some_iff.mp found
    exact keeps same.symm old (holds old inTable)
  · exact holds row found

theorem deleteTaken {id : String} (holds : db.AtOffer offerId p) :
    (db.deleteTaken id).AtOffer offerId p := by
  intro row found
  exact holds row (Table.find?_of_delete found)

theorem insertTaken {new : TakenOffer} (holds : db.AtOffer offerId p)
    (fresh : new.offerId = offerId → p new) : (db.insertTaken new).AtOffer offerId p := by
  intro row found
  obtain ⟨about, rfl⟩ | before := Table.find?_of_insertOrReplace found
  · exact fresh about
  · exact holds row before

theorem confirm {matching : TakenOffer → Bool} (holds : db.AtOffer offerId p)
    (keeps : ∀ row, p row → p (TakenOffer.setConfirmed.apply row)) :
    Database.AtOffer offerId p { db with
      takenOffers := db.takenOffers.updateWhere matching TakenOffer.setConfirmed } := by
  intro row found
  simp only [Table.find?_updateWhere] at found
  obtain ⟨old, inTable, rfl⟩ := Option.map_eq_some_iff.mp found
  split
  · exact keeps old (holds old inTable)
  · exact holds old inTable

end Database.AtOffer

/-- There is a taken offer, and it has the property. -/
def Database.HasOffer (offerId : String) (p : TakenOffer → Prop) (db : Database) : Prop :=
  ∃ row, db.takenOffers.find? offerId = some row ∧ p row

instance (offerId : String) (p : TakenOffer → Prop) [DecidablePred p] (db : Database) :
    Decidable (db.HasOffer offerId p) :=
  inferInstanceAs (Decidable (∃ row ∈ db.takenOffers.find? offerId, p row))

namespace Database.HasOffer

variable {offerId : String} {p : TakenOffer → Prop} {db : Database}

theorem updateTaken {id : String} {change : Change TakenOffer} (holds : db.HasOffer offerId p)
    (keeps : id = offerId → ∀ row, p row → p (change.apply row)) :
    (db.updateTaken id change).HasOffer offerId p := by
  obtain ⟨row, found, now⟩ := holds
  simp only [HasOffer, Database.updateTaken, Table.find?_update]
  split
  · rename_i same
    exact ⟨change.apply row, by rw [found]; rfl, keeps same.symm row now⟩
  · exact ⟨row, found, now⟩

theorem deleteTaken {id : String} (holds : db.HasOffer offerId p) (other : id ≠ offerId) :
    (db.deleteTaken id).HasOffer offerId p := by
  obtain ⟨row, found, now⟩ := holds
  simp only [HasOffer, Database.deleteTaken, Table.find?_delete, other.symm, if_false]
  exact ⟨row, found, now⟩

theorem insertTaken {new : TakenOffer} (holds : db.HasOffer offerId p)
    (other : new.offerId ≠ offerId) : (db.insertTaken new).HasOffer offerId p := by
  obtain ⟨row, found, now⟩ := holds
  refine ⟨row, ?_, now⟩
  simp only [Database.insertTaken, Table.find?_insertOrReplace]
  split
  · rename_i same
    exact absurd same.symm other
  · exact found

theorem confirm {matching : TakenOffer → Bool} (holds : db.HasOffer offerId p)
    (keeps : ∀ row, p row → p (TakenOffer.setConfirmed.apply row)) :
    Database.HasOffer offerId p { db with
      takenOffers := db.takenOffers.updateWhere matching TakenOffer.setConfirmed } := by
  obtain ⟨row, found, now⟩ := holds
  simp only [HasOffer, Table.find?_updateWhere, found, Option.map_some, Option.some.injEq,
    exists_eq_left']
  split
  · exact keeps row now
  · exact now

end Database.HasOffer

section Requests

open Database

/-- What a request is about: the order book, a take, or the trades that go on. -/
inductive Request.Kind where
  | listing
  | taking
  | trading
  deriving DecidableEq, Repr

def Request.kind : Request → Request.Kind
  | .createOffer _ | .submitMakerBond _ | .monitorBonds => .listing
  | .submitTakerBond _ => .taking
  | _ => .trading

theorem Request.eq_submitTakerBond {request : Request} (kind : request.kind = .taking) :
    ∃ payload, request = .submitTakerBond payload := by
  cases request with
  | submitTakerBond payload => exact ⟨payload, rfl⟩
  | _ => cases kind

/-- The offer that the request takes. -/
def Request.taken? : Request → Option String
  | .submitTakerBond payload => some payload.offer.offerIdHex
  | _ => none

/-- The frame of a trade: requests about taken offers do nothing else. -/
theorem trading_serve (P : Platform) (request : Request) (kind : request.kind = .trading) :
    (request.serve P).Keeps Trading := by
  apply (writes_serve P request).mono
  rintro before after (_ | permitted)
  · exact Std.Refl.refl before
  · cases permitted with
    | signEscrow isMaker =>
        exact trading_updateTaken _ _ (TakenOffer.keepsTrade_setSignedEscrowPsbt _ _)
    | confirmObligation isMaker =>
        exact trading_updateTaken _ _ (TakenOffer.keepsTrade_setHappy _ _)
    | complain isMaker => exact trading_updateTaken _ _ (TakenOffer.keepsTrade_setHappy _ _)
    | signPayout isMaker =>
        exact trading_updateTaken _ _ (TakenOffer.keepsTrade_setPartialSig _ _)
    | openDispute | toggleProcessing | storePayout | decide =>
        exact trading_updateTaken _ _ fun _ => rfl
    | finish => exact trading_deleteTaken _ _
    | confirmEscrow txid => exact trading_confirm _ _
    | _ => cases kind

/-- Requests about the order book do not touch the taken offers. -/
theorem listing_serve (P : Platform) (request : Request) (kind : request.kind = .listing) :
    (request.serve P).Keeps Listing := by
  apply (writes_serve P request).mono
  rintro before after (_ | permitted)
  · exact Std.Refl.refl before
  · cases permitted with
    | createOffer | delistPending | activate | punish => exact ⟨rfl⟩
    | _ => cases kind

/-- Only a new request and the bond of a maker get an offer nearer to the order book. -/
theorem delisting_serve (P : Platform) (request : Request)
    (noOrder : ∀ offer, request ≠ .createOffer offer)
    (noBond : ∀ payload, request ≠ .submitMakerBond payload) :
    (request.serve P).Keeps Delisting := by
  apply (writes_serve P request).mono
  rintro before after (_ | permitted)
  · exact Std.Refl.refl before
  · cases permitted with
    | createOffer => exact absurd rfl (noOrder _)
    | delistPending | activate => exact absurd rfl (noBond _)
    | delist | punish => exact delisting_deleteActive _ _
    | _ => exact ⟨rfl, fun _ _ found => found⟩

/-- The request takes no offer of this id. -/
def Request.KeepsOffer (offerId : String) : Request → Prop
  | .submitTakerBond payload => payload.offer.offerIdHex ≠ offerId
  | _ => True

/-- The request neither takes an offer of this id nor finishes it. -/
def Request.LeavesOffer (offerId : String) : Request → Prop
  | .submitTakerBond payload => payload.offer.offerIdHex ≠ offerId
  | .submitPayoutSignature payload => payload.offerIdHex ≠ offerId
  | _ => True

end Requests

section Pending

open Database Call

variable {P : Platform}

theorem pending_processOrder (order : OfferRequest) :
    (processOrder order : Act P Error BondRequirementResponse).Keeps Pending := by
  refine Keeps.bind (by simp [U64.mul]) fun _ => Keeps.bind (by simp [U64.add]) fun _ => ?_
  refine Keeps.bind (by simp [U64.add]) fun _ => Keeps.bind (by simp [U64.add]) fun _ => ?_
  refine Keeps.bind (by simp) fun _ => Keeps.bind ?_ fun _ => by simp
  apply Keeps.bind (by simp) fun _ => ?_
  exact keeps_execute fun _ => ⟨rfl, rfl⟩

end Pending

end TapTrade
