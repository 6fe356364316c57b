import TapTrade.Model.Frame

/-! # Where the offers in the order book come from

Every row of `active_maker_offers` goes back to a request of a maker: the request was
valid, its terms were stored in `maker_requests`, read from there when the bond came in
and stored again. What the two tables encode differently is traced here once; the order
book search is then judged by the requests.
-/

namespace TapTrade

open Relational Resumption

variable {ι : Type} {P : Platform}

/-- The request was made, and it was valid at some time. -/
def Accepted (requests : ι → Request) (order : OfferRequest) : Prop :=
  (∃ i, requests i = .createOffer order) ∧ ∃ now, order.validate now

/-- A pending row that stores the request. -/
def MakerRequest.From (order : OfferRequest) (row : MakerRequest) : Prop :=
  ∃ robohash requirements, row = makerRequestRow robohash order requirements

/-- An offer that was activated from a pending row that stores the request. -/
def ActiveMakerOffer.From (order : OfferRequest) (row : ActiveMakerOffer) : Prop :=
  ∃ pending offer offerId robohash data takerBondAddress, pending.From order ∧
    AwaitingBondOffer.ofRow pending = some offer ∧
    row = activeRow offerId robohash offer data takerBondAddress

/-- The direction and the amount survive the way into the order book. -/
theorem ActiveMakerOffer.From.stored {order : OfferRequest} {row : ActiveMakerOffer}
    (origin : row.From order) :
    row.isBuyOrder = boolToSqlInt order.isBuyOrder ∧
      row.amountSat = order.amountSatoshi.toInt64 := by
  obtain ⟨_, offer, _, _, _, _, ⟨robohash, requirements, rfl⟩, read, rfl⟩ := origin
  obtain ⟨direction, amount, -⟩ := AwaitingBondOffer.ofRow_eq_some read
  simp only [makerRequestRow, Column.bool_boolToSqlInt, UInt64.toUInt64_toInt64] at direction amount
  exact ⟨by rw [activeRow, direction], by rw [activeRow, amount]⟩

theorem OfferRequest.amount_of_validate {order : OfferRequest} {now : UInt64}
    (valid : order.validate now) :
    10000 ≤ order.amountSatoshi.toNat ∧ order.amountSatoshi.toNat ≤ 20000000 := by
  simp only [validate, Bool.and_eq_true, decide_eq_true_eq, UInt64.le_iff_toNat_le] at valid
  exact ⟨valid.1.1.1.1, valid.1.1.1.2⟩

theorem Accepted.small {requests : ι → Request} {order : OfferRequest}
    (accepted : Accepted requests order) : order.amountSatoshi.toNat < 2 ^ 63 := by
  obtain ⟨-, now, valid⟩ := accepted
  have bounds := OfferRequest.amount_of_validate valid
  omega

/-- Every row of the two tables goes back to an accepted request. -/
structure Traceable (requests : ι → Request) (db : Database) : Prop where
  makerRequests : ∀ robohash row, db.makerRequests.find? robohash = some row →
    ∃ order, Accepted requests order ∧ row.From order
  activeMakerOffers : ∀ offerId row, db.activeMakerOffers.find? offerId = some row →
    ∃ order, Accepted requests order ∧ row.From order

namespace Traceable

variable {requests : ι → Request} {db : Database}

theorem init : Traceable requests Database.init where
  makerRequests _ _ found := by cases found
  activeMakerOffers _ _ found := by cases found

theorem delisting {after : Database} (traceable : Traceable requests db)
    (delisting : db.Delisting after) : Traceable requests after where
  makerRequests robohash row found :=
    traceable.makerRequests robohash row (delisting.makerRequests ▸ found)
  activeMakerOffers offerId row found :=
    traceable.activeMakerOffers offerId row (delisting.activeMakerOffers offerId row found)

theorem insertMakerRequest (traceable : Traceable requests db) {robohash : Bytes}
    {order : OfferRequest} (requirements : BondRequirementResponse)
    (accepted : Accepted requests order) :
    Traceable requests
      (db.insertMakerRequest (makerRequestRow robohash order requirements)) where
  makerRequests key row found := by
    obtain ⟨-, rfl⟩ | before := Table.find?_of_insertOrReplace found
    · exact ⟨order, accepted, robohash, requirements, rfl⟩
    · exact traceable.makerRequests key row before
  activeMakerOffers := traceable.activeMakerOffers

theorem deleteMakerRequest (traceable : Traceable requests db) (robohash : Bytes) :
    Traceable requests (db.deleteMakerRequest robohash) where
  makerRequests key row found := traceable.makerRequests key row (Table.find?_of_delete found)
  activeMakerOffers := traceable.activeMakerOffers

theorem insertActive (traceable : Traceable requests db) {row : ActiveMakerOffer}
    {order : OfferRequest} (accepted : Accepted requests order) (origin : row.From order) :
    Traceable requests (db.insertActive row) where
  makerRequests := traceable.makerRequests
  activeMakerOffers key row' found := by
    obtain ⟨-, rfl⟩ | before := Table.find?_of_insertOrReplace found
    · exact ⟨order, accepted, origin⟩
    · exact traceable.activeMakerOffers key row' before

/-- Traceability as an invariant of runs. -/
def invariant (P : Platform) (requests : ι → Request) : Invariant (coordinator P) :=
  Invariant.ofState (Traceable requests)

end Traceable

section Safe

open Call

variable {requests : ι → Request} {condition : List Database → Prop} {past : List Database}
  {log : Log (coordinator P)}

theorem traceable_processOrder {order : OfferRequest} (accepted : Accepted requests order) :
    (processOrder order : Act P Error _).Safe (Traceable.invariant P requests) condition
      (fun _ _ _ => True) past log := by
  refine Safe.bind (safe_checked fun _ _ => ?_)
  refine Safe.bind (safe_checked fun _ _ => Safe.bind (safe_checked fun _ _ => ?_))
  refine Safe.bind (safe_checked fun _ _ => Safe.bind (safe_tryAsk ?_))
  intro _ _ _ bondAddress _ _ _ _ _ _
  refine Safe.bind (Safe.bind (safe_hexDecode fun robohash _ _ _ => safe_execute ?_))
  intro db log' _ traceable _
  exact ⟨traceable.insertMakerRequest _ accepted, fun _ _ => safe_pure fun _ _ => trivial⟩

theorem traceable_receiveOrder {order : OfferRequest} {i : ι}
    (requested : requests i = .createOffer order) :
    (receiveOrder order : Act P Error _).Safe (Traceable.invariant P requests) condition
      (fun _ _ _ => True) past log := by
  refine Safe.bind (safe_ask fun _ _ now _ _ _ _ _ => ?_)
  split
  case isTrue valid =>
    exact Safe.bind (Program.Safe.mono (traceable_processOrder ⟨⟨i, requested⟩, now, valid⟩)
      fun _ _ _ _ _ _ => safe_pure fun _ _ => trivial)
  case isFalse => exact safe_pure fun _ _ => trivial

theorem traceable_moveOfferToActive (data : BondSubmissionRequest)
    (offerId takerBondAddress : String) :
    (moveOfferToActive data offerId takerBondAddress : Act P Error _).Safe
      (Traceable.invariant P requests) condition (fun _ _ _ => True) past log := by
  refine Safe.bind (Safe.bind (safe_hexDecode fun robohash _ _ _ => ?_))
  refine Safe.bind (safe_fetchOne fun db _ row _ traceable _ found => ?_)
  obtain ⟨order, accepted, origin⟩ := traceable.makerRequests robohash row found
  refine Safe.bind (safe_ofOption fun offer read _ _ => Safe.bind (safe_execute ?_))
  intro db' _ _ traceable' _
  refine ⟨traceable'.deleteMakerRequest robohash, fun _ _ => safe_pure fun _ _ => ?_⟩
  refine Safe.bind (safe_hexDecode fun robohash' _ _ _ => Safe.bind (safe_execute ?_))
  intro db'' _ _ traceable'' _
  refine ⟨traceable''.insertActive accepted ?_, fun _ _ => safe_pure fun _ _ => trivial⟩
  exact ⟨row, offer, offerId, robohash', data, takerBondAddress, origin, read, rfl⟩

theorem traceable_handleMakerBond (payload : BondSubmissionRequest) :
    (handleMakerBond payload : Act P BondError _).Safe (Traceable.invariant P requests) condition
      (fun _ _ _ => True) past log := by
  refine Safe.bind (safe_of_reads ?_ fun requirements _ _ => ?_)
  · exact keeps_mapError (Keeps.bind (by simp) fun _ => Keeps.bind (by simp) fun _ => by simp)
  refine Safe.bind (safe_of_reads (by simp) fun _ _ _ => ?_)
  refine Safe.bind (safe_of_reads (keeps_asking _) fun offerId _ _ => ?_)
  refine Safe.bind (safe_of_reads (by simp) fun address _ _ => Safe.bind (Safe.mapError ?_))
  refine Program.Safe.mono (traceable_moveOfferToActive payload offerId address) ?_
  exact fun _ _ _ _ _ _ => safe_pure fun _ _ => trivial

/-- Whatever is requested, in whatever interleaving: the two tables stay traceable. -/
theorem traceable_serve (requests : ι → Request) (i : ι) :
    ((requests i).serve P).Safe (Traceable.invariant P requests) condition
      (fun _ _ _ => True) past log := by
  by_cases order : ∃ offer, requests i = .createOffer offer
  · obtain ⟨offer, requested⟩ := order
    rw [requested]
    exact Program.Safe.bind (Program.Safe.mono (traceable_receiveOrder requested)
      fun _ _ _ _ _ _ => trivial)
  by_cases bond : ∃ payload, requests i = .submitMakerBond payload
  · obtain ⟨payload, requested⟩ := bond
    rw [requested]
    exact Program.Safe.bind (Program.Safe.mono (traceable_handleMakerBond payload)
      fun _ _ _ _ _ _ => trivial)
  refine (delisting_serve P (requests i) ?_ ?_).safe fun _ _ _ delisting traceable =>
    Traceable.delisting traceable delisting
  · exact fun offer requested => order ⟨offer, requested⟩
  · exact fun payload requested => bond ⟨payload, requested⟩

/-- What is pending or listed in a reachable database goes back to accepted requests. -/
theorem traceable_play [DecidableEq ι] (env : Environment (coordinator P))
    (requests : ι → Request) (schedule : List ι) :
    Traceable requests
      ((Pool.start (startup P) fun i => (requests i).serve P).play env schedule).world.state := by
  have start : Pool.Keeping (Traceable.invariant P requests) (fun _ _ => True)
      (fun _ _ _ _ => True) (Pool.start (startup P) fun i => (requests i).serve P) :=
    ⟨Traceable.init, fun i => traceable_serve requests i⟩
  exact (Pool.safe_play schedule (fun _ _ _ _ _ => trivial) start fun _ => trivial).holds

end Safe

end TapTrade
