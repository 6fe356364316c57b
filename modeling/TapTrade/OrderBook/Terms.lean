import TapTrade.Model.Lookup
import TapTrade.OrderBook.Search

/-! # The terms of an offer

An offer moves through three tables. Each move reads some columns by position, converts
them, and writes them again. The direction, the amount, the bond and the duration arrive as
they were stored. The quote for the escrow inputs does not: the move into the order book
reads the bond amount in its place.
-/

namespace TapTrade

open Relational Resumption

variable {ι : Type} {P : Platform} {robohash : Bytes} {order : OfferRequest}
  {requirements : BondRequirementResponse}

/-- What the maker offers and what it locks, as the columns store it. -/
structure Terms where
  isBuyOrder : Option Int64
  amountSat : Int64
  bondRatio : Int64
  offerDurationTs : Int64
  bondAddress : String
  bondAmountSat : Int64
  deriving DecidableEq, Repr

/-- The terms of a request, with the bond that the maker was asked for. -/
def OfferRequest.terms (order : OfferRequest) (requirements : BondRequirementResponse) : Terms where
  isBuyOrder := boolToSqlInt order.isBuyOrder
  amountSat := order.amountSatoshi.toInt64
  bondRatio := order.bondRatio.toUInt64.toInt64
  offerDurationTs := order.offerDurationTs.toInt64
  bondAddress := requirements.bondAddress
  bondAmountSat := requirements.lockingAmountSat.toInt64

def ActiveMakerOffer.terms (row : ActiveMakerOffer) : Terms where
  isBuyOrder := row.isBuyOrder
  amountSat := row.amountSat
  bondRatio := row.bondRatio
  offerDurationTs := row.offerDurationTs
  bondAddress := row.bondAddress
  bondAmountSat := row.bondAmountSat

/-- The terms of a taken offer, with the bond of its maker. -/
def TakenOffer.terms (row : TakenOffer) : Terms where
  isBuyOrder := row.isBuyOrder
  amountSat := row.amountSat
  bondRatio := row.bondRatio
  offerDurationTs := row.offerDurationTs
  bondAddress := row.bondAddressMaker
  bondAmountSat := row.bondAmountSat

section Columns

/-- A narrow integer that was stored is read back as it was. -/
@[simp] theorem Column.u8?_toInt64 (ratio : UInt8) :
    Column.u8? ratio.toUInt64.toInt64 = some ratio := by
  have below := ratio.toNat_lt
  have value : ratio.toUInt64.toInt64.toInt = ratio.toNat := by
    rw [toInt_toInt64, UInt8.toNat_toUInt64, if_pos (by omega)]
  have range : (0 : Int64) ≤ ratio.toUInt64.toInt64 ∧ ratio.toUInt64.toInt64 < 256 := by
    rw [Int64.le_iff_toInt_le, Int64.lt_iff_toInt_lt, value]
    change (0 : Int) ≤ _ ∧ _ < (256 : Int)
    omega
  rw [Column.u8?, if_pos range]
  simp

theorem Column.i32?_toInt64 {value : Int64} {read : Int32} (fits : Column.i32? value = some read) :
    read.toInt64 = value := by
  unfold Column.i32? at fits
  split at fits
  case isFalse => cases fits
  case isTrue range =>
    cases fits
    rw [Int64.le_iff_toInt_le, Int64.lt_iff_toInt_lt] at range
    apply Int64.toInt_inj.mp
    rw [Int32.toInt_toInt64, Int64.toInt_toInt32]
    change (-2147483648 : Int) ≤ _ ∧ _ < (2147483648 : Int) at range
    exact Int.bmod_eq_of_le (by omega) (by omega)

/-- The pending row of a request is read as it was stored, but for the quote. -/
theorem ofRow_makerRequestRow (robohash : Bytes) (order : OfferRequest)
    (requirements : BondRequirementResponse) :
    AwaitingBondOffer.ofRow (makerRequestRow robohash order requirements) = some
      { robohashHex := Hex.encode robohash
        isBuyOrder := order.isBuyOrder
        amountSatoshi := order.amountSatoshi
        bondRatio := order.bondRatio
        offerDurationTs := order.offerDurationTs
        bondAddress := requirements.bondAddress
        bondAmountSat := requirements.lockingAmountSat
        escrowLockingInputAmountWithoutTradeSum := requirements.lockingAmountSat } := by
  simp [AwaitingBondOffer.ofRow, makerRequestRow]

/-- The move into the order book keeps the terms and takes the bond amount for the quote. -/
theorem terms_activeRow {offer : AwaitingBondOffer}
    (read : AwaitingBondOffer.ofRow (makerRequestRow robohash order requirements) = some offer)
    (offerId : String) (maker : Bytes) (data : BondSubmissionRequest) (takerBondAddress : String) :
    (activeRow offerId maker offer data takerBondAddress).terms = order.terms requirements ∧
      (activeRow offerId maker offer data
        takerBondAddress).escrowLockingInputAmountWithoutTradeSum =
          some requirements.lockingAmountSat.toInt64 := by
  rw [ofRow_makerRequestRow] at read
  cases read
  exact ⟨rfl, rfl⟩

theorem AwaitingTakerOffer.robohash_of_ofRow {offerId : String} {row : ActiveMakerOffer}
    {offer : AwaitingTakerOffer} (read : ofRow offerId row = some offer) :
    offer.robohashMaker = Column.blob row.robohash := by
  simp only [ofRow, Option.bind_eq_bind, Option.bind_eq_some_iff] at read
  obtain ⟨_, _, _, _, rest⟩ := read
  cases rest
  rfl

/-- The move out of the order book keeps the terms. -/
theorem terms_takenRow {offerId : String} {row : ActiveMakerOffer} {offer : AwaitingTakerOffer}
    (read : AwaitingTakerOffer.ofRow offerId row = some offer)
    (terms : row.terms = order.terms requirements) (taker : Bytes) (payload : OfferPsbtRequest)
    (escrow : EscrowPsbt) :
    (takenRow offer taker payload escrow).terms = order.terms requirements := by
  have direction := AwaitingTakerOffer.direction_of_ofRow read (congrArg Terms.isBuyOrder terms)
  simp only [AwaitingTakerOffer.ofRow, Option.bind_eq_bind, Option.bind_eq_some_iff] at read
  obtain ⟨_, _, ratio, narrow, rest⟩ := read
  cases rest
  simp only at direction
  have stored : row.isBuyOrder = boolToSqlInt order.isBuyOrder := congrArg Terms.isBuyOrder terms
  rw [← terms]
  simp only [TakenOffer.terms, ActiveMakerOffer.terms, takenRow, Column.i32?_toInt64 narrow,
    direction, stored]

end Columns

/-- The ids of the offers that the maker has listed or taken in the database. -/
def OffersOf (robohash : Bytes) (db : Database) (id : String) : Prop :=
  (∃ row, db.activeMakerOffers.find? id = some row ∧ Column.blob row.robohash = robohash) ∨
    ∃ row, db.takenOffers.find? id = some row ∧ Column.blob row.robohashMaker = robohash

/-- Everything in the three tables that comes from the request of the maker, and not from an
    earlier one. The order book has the bond amount where the quote belongs. -/
structure Moving (earlier : String → Prop) (robohash : Bytes) (order : OfferRequest)
    (requirements : BondRequirementResponse) (db : Database) : Prop where
  pending : ∀ row, db.makerRequests.find? robohash = some row →
    row = makerRequestRow robohash order requirements
  active : ∀ id row, db.activeMakerOffers.find? id = some row → ¬ earlier id →
    Column.blob row.robohash = robohash → row.terms = order.terms requirements ∧
      row.escrowLockingInputAmountWithoutTradeSum = some requirements.lockingAmountSat.toInt64
  taken : ∀ id row, db.takenOffers.find? id = some row → ¬ earlier id →
    Column.blob row.robohashMaker = robohash → row.terms = order.terms requirements

namespace Moving

variable {earlier : String → Prop} {db : Database}

theorem insertMakerRequest (moving : Moving earlier robohash order requirements db)
    {row : MakerRequest} (other : row.robohash ≠ robohash) :
    Moving earlier robohash order requirements (db.insertMakerRequest row) where
  pending row' found := by
    obtain ⟨same, -⟩ | before := Table.find?_of_insertOrReplace found
    · exact absurd same other
    · exact moving.pending row' before
  active := moving.active
  taken := moving.taken

theorem deleteMakerRequest (moving : Moving earlier robohash order requirements db)
    (other : Bytes) : Moving earlier robohash order requirements (db.deleteMakerRequest other) where
  pending row found := moving.pending row (Table.find?_of_delete found)
  active := moving.active
  taken := moving.taken

theorem insertActive (moving : Moving earlier robohash order requirements db)
    {row : ActiveMakerOffer}
    (carries : ¬ earlier row.offerId → Column.blob row.robohash = robohash →
      row.terms = order.terms requirements ∧
        row.escrowLockingInputAmountWithoutTradeSum =
          some requirements.lockingAmountSat.toInt64) :
    Moving earlier robohash order requirements (db.insertActive row) where
  pending := moving.pending
  active id row' found := by
    obtain ⟨rfl, rfl⟩ | before := Table.find?_of_insertOrReplace found
    · exact carries
    · exact moving.active id row' before
  taken := moving.taken

theorem deleteActive (moving : Moving earlier robohash order requirements db) (id : String) :
    Moving earlier robohash order requirements (db.deleteActive id) where
  pending := moving.pending
  active other row found := moving.active other row (Table.find?_of_delete found)
  taken := moving.taken

theorem insertTaken (moving : Moving earlier robohash order requirements db) {row : TakenOffer}
    (carries : ¬ earlier row.offerId → Column.blob row.robohashMaker = robohash →
      row.terms = order.terms requirements) :
    Moving earlier robohash order requirements (db.insertTaken row) where
  pending := moving.pending
  active := moving.active
  taken id row' found := by
    obtain ⟨rfl, rfl⟩ | before := Table.find?_of_insertOrReplace found
    · exact carries
    · exact moving.taken id row' before

/-- Trades that go on or end change no terms. -/
theorem trading {after : Database} (moving : Moving earlier robohash order requirements db)
    (trading : db.Trading after) : Moving earlier robohash order requirements after where
  pending := trading.makerRequests ▸ moving.pending
  active := trading.activeMakerOffers ▸ moving.active
  taken id row found new maker := by
    obtain ⟨old, inTable, same⟩ := trading.takenOffers id row found
    have terms : row.trade.terms = old.trade.terms := congrArg TakenOffer.terms same
    have robohash : Column.blob row.trade.robohashMaker = Column.blob old.trade.robohashMaker :=
      congrArg (fun row => Column.blob (TakenOffer.robohashMaker row)) same
    exact terms.trans (moving.taken id old inTable new (robohash.symm.trans maker))

/-- The moves as an invariant of runs. -/
def invariant (P : Platform) (earlier : String → Prop) (robohash : Bytes) (order : OfferRequest)
    (requirements : BondRequirementResponse) : Invariant (coordinator P) :=
  Invariant.ofState (Moving earlier robohash order requirements)

end Moving

section Safe

open Call

variable {earlier : String → Prop} {condition : List Database → Prop} {past : List Database}
  {log : Log (coordinator P)}

theorem moving_receiveOrder {offer : OfferRequest}
    (other : Hex.decode offer.robohashHex ≠ some robohash) :
    (receiveOrder offer : Act P Error _).Safe (Moving.invariant P earlier robohash order requirements)
      condition (fun _ _ _ => True) past log := by
  refine Safe.bind (safe_ask fun _ _ now _ _ _ _ _ => ?_)
  split
  case isFalse => exact safe_pure fun _ _ => trivial
  case isTrue =>
    refine Safe.bind (Safe.bind (safe_checked fun _ _ => ?_))
    refine Safe.bind (safe_checked fun _ _ => Safe.bind (safe_checked fun _ _ => ?_))
    refine Safe.bind (safe_checked fun _ _ => Safe.bind (safe_tryAsk ?_))
    intro _ _ _ bondAddress _ _ _ _ _ _
    refine Safe.bind (Safe.bind (safe_hexDecode fun robohash' _ decoded _ => safe_execute ?_))
    intro db log' _ moving _
    refine ⟨moving.insertMakerRequest fun same => other (same ▸ decoded), fun _ _ => ?_⟩
    exact safe_pure fun _ _ => safe_pure fun _ _ => trivial

theorem moving_moveOfferToActive (data : BondSubmissionRequest) (offerId takerBondAddress : String) :
    (moveOfferToActive data offerId takerBondAddress : Act P Error _).Safe
      (Moving.invariant P earlier robohash order requirements) condition (fun _ _ _ => True) past
      log := by
  refine Safe.bind (Safe.bind (safe_hexDecode fun maker _ decoded _ => ?_))
  refine Safe.bind (safe_fetchOne fun db _ row _ moving _ found => ?_)
  refine Safe.bind (safe_ofOption fun offer read _ _ => Safe.bind (safe_execute ?_))
  intro db' _ _ moving' _
  refine ⟨moving'.deleteMakerRequest maker, fun _ _ => safe_pure fun _ _ => ?_⟩
  refine Safe.bind (safe_hexDecode fun maker' _ decoded' _ => Safe.bind (safe_execute ?_))
  intro db'' _ _ moving'' _
  refine ⟨moving''.insertActive fun _ same => ?_, fun _ _ => safe_pure fun _ _ => trivial⟩
  cases decoded.symm.trans decoded'
  obtain rfl : maker = robohash := same
  cases moving.pending row found
  exact terms_activeRow read offerId maker data takerBondAddress

theorem moving_handleMakerBond (payload : BondSubmissionRequest) :
    (handleMakerBond payload : Act P BondError _).Safe
      (Moving.invariant P earlier robohash order requirements) condition (fun _ _ _ => True) past
      log := by
  refine Safe.bind (safe_of_reads ?_ fun required _ _ => ?_)
  · exact keeps_mapError (Keeps.bind (by simp) fun _ => Keeps.bind (by simp) fun _ => by simp)
  refine Safe.bind (safe_of_reads (by simp) fun _ _ _ => ?_)
  refine Safe.bind (safe_of_reads (keeps_asking _) fun offerId _ _ => ?_)
  refine Safe.bind (safe_of_reads (by simp) fun address _ _ => Safe.bind (Safe.mapError ?_))
  refine Program.Safe.mono (moving_moveOfferToActive payload offerId address) ?_
  exact fun _ _ _ _ _ _ => safe_pure fun _ _ => trivial

theorem moving_handleTakerBond (payload : OfferPsbtRequest) :
    (handleTakerBond payload : Act P BondError _).Safe
      (Moving.invariant P earlier robohash order requirements) condition (fun _ _ _ => True) past
      log := by
  refine Safe.bind (safe_of_reads (by simp) fun escrow _ _ => Safe.bind (Safe.mapError ?_))
  refine Safe.bind (Safe.bind (safe_fetchOne fun db _ row _ moving _ found => ?_))
  refine Safe.bind (safe_ofOption fun offer read _ _ => Safe.bind (safe_execute ?_))
  intro db' _ _ moving' _
  refine ⟨moving'.deleteActive _, fun _ _ => safe_pure fun _ _ => ?_⟩
  refine Safe.bind (safe_hexDecode fun taker _ _ _ => safe_execute ?_)
  intro db'' _ _ moving'' _
  refine ⟨moving''.insertTaken fun new same => ?_, fun _ _ => safe_pure fun _ _ => trivial⟩
  have maker : Column.blob row.robohash = robohash :=
    (AwaitingTakerOffer.robohash_of_ofRow read).symm.trans same
  have listed : ¬ earlier payload.offer.offerIdHex :=
    (AwaitingTakerOffer.ofRow_eq_some read).1 ▸ new
  exact terms_takenRow read (moving.active _ row found listed maker).1 _ _ _

/-- Whatever is requested, the terms move on as they were stored, unless the same maker makes
    another request. -/
theorem moving_serve {request : Request}
    (others : ∀ offer, request = .createOffer offer → Hex.decode offer.robohashHex ≠ some robohash) :
    (request.serve P).Safe (Moving.invariant P earlier robohash order requirements) condition
      (fun _ _ _ => True) past log := by
  cases request with
  | createOffer offer =>
      exact Program.Safe.bind (Program.Safe.mono (moving_receiveOrder (others offer rfl))
        fun _ _ _ _ _ _ => trivial)
  | submitMakerBond payload =>
      exact Program.Safe.bind (Program.Safe.mono (moving_handleMakerBond payload)
        fun _ _ _ _ _ _ => trivial)
  | submitTakerBond payload =>
      exact Program.Safe.bind (Program.Safe.mono (moving_handleTakerBond payload)
        fun _ _ _ _ _ _ => trivial)
  | monitorBonds =>
      apply (writes_serve P .monitorBonds).safe
      rintro before after _ (_ | permitted) moving
      · exact moving
      · cases permitted with
        | punish offerId => exact Moving.deleteActive moving offerId
  | _ => exact (trading_serve P _ rfl).safe fun _ _ _ trading moving => Moving.trading moving trading

end Safe

/-- The offer that goes back to the request has its terms in both tables, and whoever finds it
    in the order book is shown the quote that was computed for it. -/
structure TermsCarried (P : Platform) (earlier : String → Prop) (robohash : Bytes)
    (order : OfferRequest) (requirements : BondRequirementResponse) (db : Database) : Prop where
  active : ∀ row ∈ db.activeMakerOffers.rows, ¬ earlier row.offerId →
    Column.blob row.robohash = robohash → row.terms = order.terms requirements
  taken : ∀ row ∈ db.takenOffers.rows, ¬ earlier row.offerId →
    Column.blob row.robohashMaker = robohash → row.terms = order.terms requirements
  published : ∀ (env : Environment (coordinator P)) (w : World (coordinator P)) search offers,
    w.state = db → (Call.exec env (fetchSuitableOffers search) w).1 = .ok (some offers) →
    ∀ row ∈ db.activeMakerOffers.rows, ¬ earlier row.offerId → Column.blob row.robohash = robohash →
    ∀ offer ∈ offers, offer.offerIdHex = row.offerId →
      offer.bondRequirements.escrowLockingInputAmountWithoutTradeSum =
        requirements.escrowLockingInputAmountWithoutTradeSum

/-- However the request got stored, and in whatever interleaving of requests afterwards, among
    which the maker makes no other one: the terms are carried. -/
def TermsSurvive (P : Platform) (order : OfferRequest) (requirements : BondRequirementResponse) :
    Prop :=
  ∀ (env : Environment (coordinator P)) (w w' : World (coordinator P)) (robohash : Bytes),
    Call.exec env (insertNewMakerRequest order requirements) w = (.ok (), w') →
    Hex.decode order.robohashHex = some robohash →
    ∀ {ι : Type} [DecidableEq ι] (requests : ι → Request) (schedule : List ι),
      (∀ i offer, requests i = .createOffer offer → Hex.decode offer.robohashHex ≠ some robohash) →
      TermsCarried P (OffersOf robohash w.state) robohash order requirements
        ((Pool.start w' fun i => (requests i).serve P).play env schedule).world.state

theorem insertNewMakerRequest_ok {env : Environment (coordinator P)} {w w' : World (coordinator P)}
    (stored : Call.exec env (insertNewMakerRequest order requirements) w = (.ok (), w')) :
    ∃ maker, Hex.decode order.robohashHex = some maker ∧
      w'.state = w.state.insertMakerRequest (makerRequestRow maker order requirements) := by
  obtain ⟨maker, w₁, decoded, rest⟩ := Call.exec_bind_ok env w stored
  obtain ⟨read, rfl⟩ := exec_hexDecode_ok decoded
  have written := exec_execute_ok rest
  exact ⟨maker, read, congrArg World.state written⟩

/-- Right after the request was stored. -/
theorem Moving.stored {db : Database} (robohash : Bytes) (order : OfferRequest)
    (requirements : BondRequirementResponse) :
    Moving (OffersOf robohash db) robohash order requirements
      (db.insertMakerRequest (makerRequestRow robohash order requirements)) where
  pending row found := by
    have inserted := Table.find?_insertOrReplace_self db.makerRequests
      (makerRequestRow robohash order requirements)
    exact (Option.some.inj (inserted.symm.trans found)).symm
  active id row found new maker := absurd (.inl ⟨row, found, maker⟩) new
  taken id row found new maker := absurd (.inr ⟨row, found, maker⟩) new

/-- Once a request was stored, every run moves its terms as they were stored. -/
theorem moving_play [DecidableEq ι] (env : Environment (coordinator P)) {db : Database}
    {w : World (coordinator P)}
    (stored : w.state = db.insertMakerRequest (makerRequestRow robohash order requirements))
    {requests : ι → Request}
    (others : ∀ i offer, requests i = .createOffer offer →
      Hex.decode offer.robohashHex ≠ some robohash) (schedule : List ι) :
    Moving (OffersOf robohash db) robohash order requirements
      ((Pool.start w fun i => (requests i).serve P).play env schedule).world.state := by
  have start : Pool.Keeping (Moving.invariant P (OffersOf robohash db) robohash order requirements)
      (fun _ _ => True) (fun _ _ _ _ => True) (Pool.start w fun i => (requests i).serve P) := by
    refine ⟨?_, fun i => moving_serve (others i)⟩
    change Moving _ _ _ _ w.state
    exact stored ▸ Moving.stored robohash order requirements
  exact (Pool.safe_play schedule (fun _ _ _ _ _ => trivial) start fun _ => trivial).holds

/-- A sell offer is never published. -/
theorem isBuyOrder_of_suits {search : OffersRequest} {row : ActiveMakerOffer}
    (direction : row.isBuyOrder = boolToSqlInt order.isBuyOrder)
    (suited : (suits search row).holds = true) : order.isBuyOrder = true := by
  rw [suits, Ternary.holds_and, direction, Ternary.holds_eq] at suited
  cases buys : order.isBuyOrder with
  | true => rfl
  | false =>
      rw [buys] at suited
      cases suited.1.1

/-- What the moves leave carries the terms, if no wrong quote can be seen. -/
theorem Moving.carried {earlier : String → Prop} {db : Database}
    (moving : Moving earlier robohash order requirements db)
    (quoted : order.isBuyOrder = true →
      requirements.escrowLockingInputAmountWithoutTradeSum = requirements.lockingAmountSat) :
    TermsCarried P earlier robohash order requirements db := by
  refine ⟨fun row member new maker => ?_, fun row member new maker => ?_, ?_⟩
  · exact (moving.active row.offerId row (Table.mem_rows.mp member) new maker).1
  · exact moving.taken row.offerId row (Table.mem_rows.mp member) new maker
  · rintro env w search offers rfl answered row member new maker offer published same
    obtain ⟨rfl, suits⟩ := publicOffer_of_answered answered published member same
    obtain ⟨terms, quote⟩ := moving.active row.offerId row (Table.mem_rows.mp member) new maker
    have buys := isBuyOrder_of_suits (congrArg Terms.isBuyOrder terms) suits
    simp [ActiveMakerOffer.publicOffer, quote, Column.i64, quoted buys]

section Publishing

open Call

/-- Surroundings in which every bond is accepted. -/
def accepting (P : Platform) : Environment (coordinator P) where
  answer _
    | .now => 0
    | .punishmentEnabled => none
    | .generateRandomOrderId _ => ""
    | .getNewAddress => .ok ""
    | .validateBondTxHex _ _ => .ok ()
    | .validateBonds _ => .ok []
    | .getCoordinatorCliInput _ => .ok .maker
    | .getCoordinatorTaprootPk | .publishBondTxHex _ | .finishEscrowTx _
    | .combineAndBroadcastEscrowPsbt _ _ | .assembleKeyspendPayoutPsbt _ | .broadcastKeyspendTx _
    | .getConfirmations _ => .error .database
  fault _ := none

theorem exec_handleMakerBond_accepting {w : World (coordinator P)} {payload : BondSubmissionRequest}
    {row : MakerRequest} {offer : AwaitingBondOffer}
    (decoded : Hex.decode payload.robohashHex = some robohash)
    (found : w.state.makerRequests.find? robohash = some row)
    (read : AwaitingBondOffer.ofRow row = some offer) :
    (exec (accepting P) (handleMakerBond payload) w).2.state =
      (w.state.deleteMakerRequest robohash).insertActive
        (activeRow "" robohash offer payload "") := by
  have fetched {row : MakerRequest} {v : World (coordinator P)}
      (there : v.state.makerRequests.find? robohash = some row) :
      exec (accepting P) (fetchOne fun db => db.makerRequests.find? robohash) v =
        (.ok row, World.tick v) := exec_fetchOne_of_found rfl there
  have required : exec (accepting P) (Call.mapError (fun _ => BondError.bondNotFound)
      (fetchBondRequirements payload.robohashHex)) w = (.ok row.bondRequirements, World.tick w) := by
    apply exec_mapError_of_ok
    rw [fetchBondRequirements, hexDecode_eq decoded, pure_bind, exec_bind_of_ok _ _ (fetched found)]
    rfl
  have moved (v : World (coordinator P)) (same : v.state = w.state) :
      exec (accepting P) (moveOfferToActive payload "" "") v = (.ok offer.offerDurationTs,
        ⟨(w.state.deleteMakerRequest robohash).insertActive (activeRow "" robohash offer payload ""),
          v.log, v.clock + 1 + 1 + 1⟩) := by
    rw [moveOfferToActive, fetchAndDeleteOfferFromBondTable, hexDecode_eq decoded]
    simp only [pure_bind, bind_assoc]
    rw [exec_bind_of_ok _ _ (fetched (same ▸ found)), read, ← same]
    rfl
  have validated (v : World (coordinator P)) (bond : String) (terms : BondRequirements) :
      exec (accepting P) (Call.mapError BondError.invalidBond
        (tryAsk (.validateBondTxHex bond terms) id)) v =
        (.ok (), (v.ask (accepting P) (.validateBondTxHex bond terms)).2) := rfl
  have addressed (v : World (coordinator P)) :
      exec (accepting P) (Call.mapError BondError.coordinatorError (tryAsk .getNewAddress id)) v =
        (.ok "", (v.ask (accepting P) .getNewAddress).2) := rfl
  have named (v : World (coordinator P)) :
      exec (accepting P) (ask (.generateRandomOrderId 16) : Act P BondError String) v =
        (.ok "", (v.ask (accepting P) (.generateRandomOrderId 16)).2) := rfl
  rw [handleMakerBond, exec_bind_of_ok _ _ required, exec_bind_of_ok _ _ (validated _ _ _),
    exec_bind_of_ok _ _ (named _), exec_bind_of_ok _ _ (addressed _)]
  have ends (v : World (coordinator P)) (same : v.state = w.state) :
      (exec (accepting P) (Call.mapError BondError.coordinatorError
        (moveOfferToActive payload "" "") >>= fun timestamp =>
          pure (OfferActivatedResponse.mk "" timestamp)) v).2.state =
        (w.state.deleteMakerRequest robohash).insertActive
          (activeRow "" robohash offer payload "") := by
    rw [exec_bind_of_ok _ _ (exec_mapError_of_ok _ _ (moved v same))]
    rfl
  exact ends _ rfl

/-- An offer that suits a search is published. -/
theorem published_accepting {w : World (coordinator P)} {row : ActiveMakerOffer}
    {search : OffersRequest} (member : row ∈ w.state.activeMakerOffers.rows)
    (suited : (suits search row).holds = true) :
    ∃ offers, (exec (accepting P) (fetchSuitableOffers search) w).1 = .ok (some offers) ∧
      row.publicOffer ∈ offers := by
  have shown : row.publicOffer ∈ listed search w.state.activeMakerOffers :=
    List.mem_map_of_mem (List.mem_filter.mpr ⟨member, suited⟩)
  have some : (listed search w.state.activeMakerOffers).isEmpty = false :=
    List.isEmpty_eq_false_iff.mpr (List.ne_nil_of_mem shown)
  refine ⟨listed search w.state.activeMakerOffers, ?_, shown⟩
  change (exec (accepting P) (if (listed search w.state.activeMakerOffers).isEmpty then pure none
    else pure (.some (listed search w.state.activeMakerOffers))) _).1 = _
  rw [some]
  rfl

/-- When the bond of the maker comes in, the offer that was stored gets into the order book. -/
theorem listed_accepting {stored : World (coordinator P)}
    (pending : stored.state.makerRequests.find? robohash =
      some (makerRequestRow robohash order requirements))
    (decoded : Hex.decode order.robohashHex = some robohash) :
    ∃ (payload : BondSubmissionRequest) (schedule : List Unit) (row : ActiveMakerOffer),
      row ∈ ((Pool.start stored fun _ : Unit => (Request.submitMakerBond payload).serve P).play
        (accepting P) schedule).world.state.activeMakerOffers.rows ∧
      row.offerId = "" ∧ Column.blob row.robohash = robohash ∧
      row.terms = order.terms requirements ∧
      row.escrowLockingInputAmountWithoutTradeSum =
        some requirements.lockingAmountSat.toInt64 := by
  let data : BondSubmissionRequest := ⟨order.robohashHex, "", "", "", "", "", "", ""⟩
  obtain ⟨offer, read⟩ : ∃ offer,
      AwaitingBondOffer.ofRow (makerRequestRow robohash order requirements) = some offer :=
    ⟨_, ofRow_makerRequestRow robohash order requirements⟩
  let bond : Pool (coordinator P) Unit Reply :=
    Pool.start stored fun _ => (Request.submitMakerBond data).serve P
  obtain ⟨n, served⟩ := bond.play_alone (accepting P) ()
  let row := activeRow "" robohash offer data ""
  have inserted : (bond.play (accepting P) (List.replicate n ())).world.state =
      (stored.state.deleteMakerRequest robohash).insertActive row := by
    rw [served]
    change ((Request.submitMakerBond data).serve P).run (accepting P) stored |>.2.state = _
    rw [Request.serve, Program.map, Program.run_bind]
    exact exec_handleMakerBond_accepting decoded pending read
  obtain ⟨terms, quote⟩ := terms_activeRow read "" robohash data ""
  refine ⟨data, List.replicate n (), row, ?_, rfl, rfl, terms, quote⟩
  rw [inserted]
  exact List.mem_append_right _ (List.mem_singleton_self row)

end Publishing

open Call in
/-- The bond of the maker comes in, and the offer is searched for. -/
theorem quote_of_termsSurvive (decoded : Hex.decode order.robohashHex = some robohash)
    (survive : TermsSurvive P order requirements) (buys : order.isBuyOrder = true) :
    requirements.escrowLockingInputAmountWithoutTradeSum = requirements.lockingAmountSat := by
  let stored : World (coordinator P) :=
    ⟨Database.init.insertMakerRequest (makerRequestRow robohash order requirements), [], 1⟩
  have stores : exec (accepting P) (insertNewMakerRequest order requirements) (startup P) =
      (.ok (), stored) := by
    rw [insertNewMakerRequest, hexDecode_eq decoded]
    rfl
  have pending : stored.state.makerRequests.find? robohash =
      some (makerRequestRow robohash order requirements) := Table.find?_insertOrReplace_self _ _
  obtain ⟨payload, schedule, row, member, offerId, maker, terms, quote⟩ :=
    listed_accepting pending decoded
  have carried := survive (accepting P) (startup P) stored robohash stores decoded
    (fun _ : Unit => Request.submitMakerBond payload) schedule nofun
  have direction : row.isBuyOrder = boolToSqlInt true :=
    (congrArg Terms.isBuyOrder terms).trans (congrArg boolToSqlInt buys)
  let search : OffersRequest := ⟨true, row.amountSat.toUInt64, row.amountSat.toUInt64⟩
  have suited : (suits search row).holds = true := by
    rw [suits, Ternary.holds_and, direction, Ternary.holds_eq, Ternary.holds_between]
    simp [search, boolToSqlInt]
  obtain ⟨offers, answered, published⟩ := published_accepting member suited
  have shown := carried.published _ _ search offers rfl answered row member
    (by rintro (⟨_, found, -⟩ | ⟨_, found, -⟩) <;> cases found) maker row.publicOffer published rfl
  rw [← shown]
  simp [ActiveMakerOffer.publicOffer, quote, Column.i64]

/-- The terms survive iff no wrong quote can be seen: the offer is a sell offer, which is never
    published, or the quote happens to be the bond amount. -/
theorem termsSurvive_iff (P : Platform) {order : OfferRequest}
    {requirements : BondRequirementResponse} (storable : (Hex.decode order.robohashHex).isSome) :
    TermsSurvive P order requirements ↔ (order.isBuyOrder = true →
      requirements.escrowLockingInputAmountWithoutTradeSum = requirements.lockingAmountSat) := by
  constructor
  · obtain ⟨robohash, decoded⟩ := Option.isSome_iff_exists.mp storable
    exact quote_of_termsSurvive decoded
  · intro quoted env w w' robohash stored decoded ι _ requests schedule others
    obtain ⟨maker, decoded', state⟩ := insertNewMakerRequest_ok stored
    cases decoded.symm.trans decoded'
    exact Moving.carried (moving_play env state others schedule) quoted

namespace Sample

/-- What the maker of the sample order is asked for. -/
def quote : BondRequirementResponse := ⟨makerAddress, 10000, 20200⟩

end Sample

/-- The sell offer of the sample trade keeps its terms. -/
theorem termsSurvive_iff_sample : TermsSurvive .sample (Sample.order false) Sample.quote :=
  (termsSurvive_iff .sample (by decide +kernel)).mpr nofun

/-- The escrow inputs of the sample order are quoted at 20200 sat to the maker, and at the bond
    amount to the taker. -/
theorem wrong_quote_published :
    (Call.exec Sample.environment (processOrder (Sample.order true)) (startup .sample)).1 =
        .ok Sample.quote ∧
      ¬ TermsSurvive .sample (Sample.order true) Sample.quote := by
  refine ⟨by decide +kernel, fun survive => ?_⟩
  have decoded : Hex.decode (Sample.order true).robohashHex = some Sample.makerRobohash := by
    decide +kernel
  exact absurd (quote_of_termsSurvive decoded survive rfl) (by decide)

end TapTrade
