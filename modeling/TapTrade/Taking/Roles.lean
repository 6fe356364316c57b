import TapTrade.Model.Frame
import TapTrade.Model.Lookup
import TapTrade.Resumption.Course
import TapTrade.Taking.Rivalry

/-! # The roles in a trade

A trade names the robohash with which its offer was made and the one with which it was taken, and
whoever comes with a robohash is the maker if it is the first of the two. Nothing keeps a maker
from taking its own offer: then the taker is taken for the maker.
-/

namespace TapTrade

open Relational Resumption

section Origins

variable {ι : Type} {P : Platform}

/-- An offer was made with the robohash. -/
def MadeWith (requests : ι → Request) (robohash : Bytes) : Prop :=
  ∃ i order, requests i = .createOffer order ∧ Hex.decode order.robohashHex = some robohash

/-- A take of the offer came with the robohash. -/
def TakenWith (requests : ι → Request) (offerId : String) (robohash : Bytes) : Prop :=
  ∃ i payload, requests i = .submitTakerBond payload ∧ payload.offer.offerIdHex = offerId ∧
    Hex.decode payload.tradeData.robohashHex = some robohash

/-- The robohashes of the trade are those of its maker and of its taker. -/
structure TakenOffer.Between (requests : ι → Request) (made taken : Bytes) (row : TakenOffer) :
    Prop where
  maker : row.robohashMaker = some made
  taker : row.robohashTaker = some taken
  madeWith : MadeWith requests made
  takenWith : TakenWith requests row.offerId taken

/-- Every robohash in the database is that of a request. -/
structure Attributed (requests : ι → Request) (db : Database) : Prop where
  makerRequests : ∀ robohash row, db.makerRequests.find? robohash = some row →
    MadeWith requests robohash
  activeMakerOffers : ∀ offerId row, db.activeMakerOffers.find? offerId = some row →
    ∃ robohash, row.robohash = some robohash ∧ MadeWith requests robohash
  takenOffers : ∀ offerId row, db.takenOffers.find? offerId = some row →
    ∃ made taken, row.Between requests made taken

theorem TakenOffer.Between.trade {requests : ι → Request} {made taken : Bytes}
    {row now : TakenOffer} (between : row.Between requests made taken)
    (same : now.trade = row.trade) : now.Between requests made taken := by
  have maker := congrArg TakenOffer.robohashMaker same
  have taker := congrArg TakenOffer.robohashTaker same
  have about := congrArg TakenOffer.offerId same
  simp only [TakenOffer.trade] at maker taker about
  obtain ⟨isMaker, isTaker, madeWith, takenWith⟩ := between
  exact ⟨maker.trans isMaker, taker.trans isTaker, madeWith, about ▸ takenWith⟩

namespace Attributed

variable {requests : ι → Request} {db after : Database}

theorem init : Attributed requests Database.init where
  makerRequests _ _ found := by cases found
  activeMakerOffers _ _ found := by cases found
  takenOffers _ _ found := by cases found

theorem trading (attributed : Attributed requests db) (trading : db.Trading after) :
    Attributed requests after where
  makerRequests robohash row found :=
    attributed.makerRequests robohash row (trading.makerRequests ▸ found)
  activeMakerOffers offerId row found :=
    attributed.activeMakerOffers offerId row (trading.activeMakerOffers ▸ found)
  takenOffers offerId row found := by
    obtain ⟨old, inTable, same⟩ := trading.takenOffers offerId row found
    obtain ⟨made, taken, between⟩ := attributed.takenOffers offerId old inTable
    exact ⟨made, taken, between.trade same⟩

theorem insertMakerRequest (attributed : Attributed requests db) {robohash : Bytes}
    (order : OfferRequest) (requirements : BondRequirementResponse)
    (made : MadeWith requests robohash) :
    Attributed requests (db.insertMakerRequest (makerRequestRow robohash order requirements)) where
  makerRequests key row found := by
    obtain ⟨same, -⟩ | before := Table.find?_of_insertOrReplace found
    · exact same ▸ made
    · exact attributed.makerRequests key row before
  activeMakerOffers := attributed.activeMakerOffers
  takenOffers := attributed.takenOffers

theorem deleteMakerRequest (attributed : Attributed requests db) (robohash : Bytes) :
    Attributed requests (db.deleteMakerRequest robohash) where
  makerRequests key row found := attributed.makerRequests key row (Table.find?_of_delete found)
  activeMakerOffers := attributed.activeMakerOffers
  takenOffers := attributed.takenOffers

theorem insertActive (attributed : Attributed requests db) {robohash : Bytes} {offerId : String}
    {offer : AwaitingBondOffer} {data : BondSubmissionRequest} {address : String}
    (made : MadeWith requests robohash) :
    Attributed requests (db.insertActive (activeRow offerId robohash offer data address)) where
  makerRequests := attributed.makerRequests
  activeMakerOffers key row found := by
    obtain ⟨-, rfl⟩ | before := Table.find?_of_insertOrReplace found
    · exact ⟨robohash, rfl, made⟩
    · exact attributed.activeMakerOffers key row before
  takenOffers := attributed.takenOffers

theorem deleteActive (attributed : Attributed requests db) (offerId : String) :
    Attributed requests (db.deleteActive offerId) where
  makerRequests := attributed.makerRequests
  activeMakerOffers key row found :=
    attributed.activeMakerOffers key row (Table.find?_of_delete found)
  takenOffers := attributed.takenOffers

theorem insertTaken (attributed : Attributed requests db) {row : TakenOffer} {made taken : Bytes}
    (between : row.Between requests made taken) : Attributed requests (db.insertTaken row) where
  makerRequests := attributed.makerRequests
  activeMakerOffers := attributed.activeMakerOffers
  takenOffers key row' found := by
    obtain ⟨-, rfl⟩ | before := Table.find?_of_insertOrReplace found
    · exact ⟨made, taken, between⟩
    · exact attributed.takenOffers key row' before

/-- The origin of the robohashes as an invariant of runs. -/
def invariant (P : Platform) (requests : ι → Request) : Invariant (coordinator P) :=
  Invariant.ofState (Attributed requests)

end Attributed

section Safe

open Call

variable {requests : ι → Request} {condition : List Database → Prop} {past : List Database}
  {log : Log (coordinator P)}

theorem attributed_receiveOrder {order : OfferRequest} {i : ι}
    (requested : requests i = .createOffer order) :
    (receiveOrder order : Act P Error _).Safe (Attributed.invariant P requests) condition
      (fun _ _ _ => True) past log := by
  refine Safe.bind (safe_ask fun _ _ now _ _ _ _ _ => ?_)
  split
  case isFalse => exact safe_pure fun _ _ => trivial
  case isTrue valid =>
    refine Safe.bind (Safe.bind (safe_checked fun _ _ => Safe.bind (safe_checked fun _ _ => ?_)))
    refine Safe.bind (safe_checked fun _ _ => Safe.bind (safe_checked fun _ _ => ?_))
    refine Safe.bind (safe_tryAsk fun _ _ _ bondAddress _ _ _ _ _ _ => ?_)
    refine Safe.bind (Safe.bind (safe_hexDecode fun robohash _ decoded _ => safe_execute ?_))
    intro db log' _ attributed _
    refine ⟨attributed.insertMakerRequest _ _ ⟨i, order, requested, decoded⟩, fun _ _ => ?_⟩
    exact safe_pure fun _ _ => safe_pure fun _ _ => trivial

theorem attributed_moveOfferToActive (data : BondSubmissionRequest)
    (offerId takerBondAddress : String) :
    (moveOfferToActive data offerId takerBondAddress : Act P Error _).Safe
      (Attributed.invariant P requests) condition (fun _ _ _ => True) past log := by
  refine Safe.bind (Safe.bind (safe_hexDecode fun robohash _ decoded _ => ?_))
  refine Safe.bind (safe_fetchOne fun db _ row _ attributed _ found => ?_)
  have made := attributed.makerRequests robohash row found
  refine Safe.bind (safe_ofOption fun offer read _ _ => Safe.bind (safe_execute ?_))
  intro db' _ _ attributed' _
  refine ⟨attributed'.deleteMakerRequest robohash, fun _ _ => safe_pure fun _ _ => ?_⟩
  refine Safe.bind (safe_hexDecode fun robohash' _ again _ => Safe.bind (safe_execute ?_))
  intro db'' _ _ attributed'' _
  cases decoded.symm.trans again
  exact ⟨attributed''.insertActive made, fun _ _ => safe_pure fun _ _ => trivial⟩

theorem attributed_handleMakerBond (payload : BondSubmissionRequest) :
    (handleMakerBond payload : Act P BondError _).Safe (Attributed.invariant P requests) condition
      (fun _ _ _ => True) past log := by
  refine Safe.bind (safe_of_reads ?_ fun requirements _ _ => ?_)
  · exact keeps_mapError (Keeps.bind (by simp) fun _ => Keeps.bind (by simp) fun _ => by simp)
  refine Safe.bind (safe_of_reads (by simp) fun _ _ _ => ?_)
  refine Safe.bind (safe_of_reads (keeps_asking _) fun offerId _ _ => ?_)
  refine Safe.bind (safe_of_reads (by simp) fun address _ _ => Safe.bind (Safe.mapError ?_))
  refine Program.Safe.mono (attributed_moveOfferToActive payload offerId address) ?_
  exact fun _ _ _ _ _ _ => safe_pure fun _ _ => trivial

theorem attributed_handleTakerBond {payload : OfferPsbtRequest} {i : ι}
    (requested : requests i = .submitTakerBond payload) :
    (handleTakerBond payload : Act P BondError _).Safe (Attributed.invariant P requests) condition
      (fun _ _ _ => True) past log := by
  refine Safe.bind (safe_of_reads (by simp) fun escrow _ _ => ?_)
  refine Safe.bind (Safe.mapError (Safe.bind (Safe.bind (safe_fetchOne ?_))))
  intro db _ row _ attributed _ found
  obtain ⟨robohashMaker, known, made⟩ := attributed.activeMakerOffers _ row found
  refine Safe.bind (safe_ofOption fun offer read _ _ => Safe.bind (safe_execute ?_))
  intro db' _ _ attributed' _
  refine ⟨attributed'.deleteActive _, fun _ _ => safe_pure fun _ _ => ?_⟩
  refine Safe.bind (safe_hexDecode fun robohash _ decoded _ => safe_execute ?_)
  intro db'' _ _ attributed'' _
  have maker := AwaitingTakerOffer.robohashMaker_of_ofRow read
  rw [known] at maker
  have about := (AwaitingTakerOffer.ofRow_eq_some read).1
  refine ⟨attributed''.insertTaken ⟨?_, rfl, made, i, payload, requested, ?_, decoded⟩, ?_⟩
  · exact congrArg some maker
  · exact about.symm
  · exact fun _ _ => safe_pure fun _ _ => trivial

theorem attributed_serve (requests : ι → Request) (i : ι) :
    ((requests i).serve P).Safe (Attributed.invariant P requests) condition
      (fun _ _ _ => True) past log := by
  cases requested : requests i with
  | createOffer order =>
      exact Program.Safe.bind (Program.Safe.mono (attributed_receiveOrder requested)
        fun _ _ _ _ _ _ => trivial)
  | submitMakerBond payload =>
      exact Program.Safe.bind (Program.Safe.mono (attributed_handleMakerBond payload)
        fun _ _ _ _ _ _ => trivial)
  | submitTakerBond payload =>
      exact Program.Safe.bind (Program.Safe.mono (attributed_handleTakerBond requested)
        fun _ _ _ _ _ _ => trivial)
  | monitorBonds =>
      apply (writes_serve P .monitorBonds).safe
      intro db after log served attributed
      rcases served with _ | permitted
      · exact attributed
      · cases permitted with
        | punish offerId => exact Attributed.deleteActive attributed offerId
  | _ =>
      exact (trading_serve P _ rfl).safe fun _ _ _ trading attributed =>
        Attributed.trading attributed trading

/-- Whoever is named in a reachable database has made or taken an offer. -/
theorem attributed_play [DecidableEq ι] (env : Environment (coordinator P))
    (requests : ι → Request) (schedule : List ι) :
    Attributed requests
      ((Pool.start (startup P) fun i => (requests i).serve P).play env schedule).world.state := by
  have start : Pool.Keeping (Attributed.invariant P requests) (fun _ _ => True)
      (fun _ _ _ _ => True) (Pool.start (startup P) fun i => (requests i).serve P) :=
    ⟨Attributed.init, fun i => attributed_serve requests i⟩
  exact (Pool.safe_play schedule (fun _ _ _ _ _ => trivial) start fun _ => trivial).holds

end Safe

end Origins

section Takes

variable {P : Platform} {payload : OfferPsbtRequest} {past : List Database}
  {p : Program (coordinator P) Reply} {env : Environment (coordinator P)}
  {w : World (coordinator P)}

/-- The row with which the take moves the offer that it has read in its eighth operation. -/
def MovesAs (payload : OfferPsbtRequest) (past : List Database) (row : TakenOffer) : Prop :=
  ∃ moved listed offer robohash escrow, past[7]? = some moved ∧
    moved.activeMakerOffers.find? payload.offer.offerIdHex = some listed ∧
      AwaitingTakerOffer.ofRow payload.offer.offerIdHex listed = some offer ∧
        Hex.decode payload.tradeData.robohashHex = some robohash ∧
          row = takenRow offer robohash payload escrow

theorem MovesAs.later {row : TakenOffer} (moves : MovesAs payload past row) (db : Database) :
    MovesAs payload (past ++ [db]) row := by
  obtain ⟨moved, listed, offer, robohash, escrow, eighth, moves⟩ := moves
  exact ⟨moved, listed, offer, robohash, escrow,
    mem_getElem?_of_grown (List.prefix_append past [db]) eighth, moves⟩

/-- The program that deletes the offer and goes on to insert the trade. -/
structure Deleting (payload : OfferPsbtRequest) (past : List Database)
    (next : Except Unit Unit → Program (coordinator P) Reply) : Prop where
  fails : ∀ fault, ∃ reply, next (.error fault) = .done reply
  deletes : (∃ reply, next (.ok ()) = .done reply) ∨
    ∃ row, MovesAs payload past row ∧ Inserting payload row (next (.ok ()))

/-- Where a take stands that has acted in the states. -/
inductive TakeStands (payload : OfferPsbtRequest) :
    List Database → Program (coordinator P) Reply → Prop
  | building {past : List Database} {k : Nat}
      {p : Program (coordinator P) (Outcome BondError EscrowPsbt)} (reads : p.Keeps Eq)
      (timed : p.Timed (fun n result => ∀ escrow, result = .ok escrow → n = 7) past.length)
      (bounded : p.Bounded k) (atMost : past.length + k = 7) :
      TakeStands payload past (p.bind (afterEscrow payload))
  | deleting {past : List Database} {next : Except Unit Unit → Program (coordinator P) Reply}
      (eighth : past.length = 8) (deleting : Deleting payload past next) :
      TakeStands payload past
        (.statement (fun db => ((), db.deleteActive payload.offer.offerIdHex)) next)
  | inserting {past : List Database} {p : Program (coordinator P) Reply} {row : TakenOffer}
      (ninth : past.length = 9) (moves : MovesAs payload past row)
      (inserting : Inserting payload row p) : TakeStands payload past p
  | ended {past : List Database} (reply : Reply) : TakeStands payload past (.done reply)

theorem takeStands_serve (payload : OfferPsbtRequest) :
    TakeStands payload [] ((Request.submitTakerBond payload).serve P) := by
  rw [serve_submitTakerBond]
  exact .building (keeps_escrowForTaker payload : (escrowForTaker payload).Keeps Eq)
    (timed_escrowForTaker payload) (bounded_escrowForTaker payload) rfl

/-- The operation that reads the offer in the move. -/
theorem takeStands_afterEscrow (escrow : EscrowPsbt) :
    ∃ next, afterEscrow (P := P) payload (.ok escrow) =
        .statement (fun db => (db.activeMakerOffers.find? payload.offer.offerIdHex, db)) next ∧
      (∀ fault, ∃ reply, next (.error fault) = .done reply) ∧
      ∀ past db, past.length = 7 → TakeStands payload (past ++ [db])
        (next (.ok (db.activeMakerOffers.find? payload.offer.offerIdHex))) := by
  refine ⟨_, rfl, fun fault => ⟨_, rfl⟩, fun past db seventh => ?_⟩
  have eighth : (past ++ [db])[7]? = some db := by simp [← seventh]
  cases listed : db.activeMakerOffers.find? payload.offer.offerIdHex with
  | none => exact .ended _
  | some row =>
      dsimp only [fetchOptional, Program.bind, Call.ofOption, ExceptT.bindCont, pure, ExceptT.pure,
        ExceptT.mk]
      cases read : AwaitingTakerOffer.ofRow payload.offer.offerIdHex row with
      | none => exact .ended _
      | some offer =>
          apply TakeStands.deleting (by simp [seventh])
          refine ⟨fun fault => ⟨_, rfl⟩, ?_⟩
          dsimp only [Program.bind, ExceptT.bindCont, hexDecode, Call.ofOption]
          cases decoded : Hex.decode payload.tradeData.robohashHex with
          | none => exact .inl ⟨_, rfl⟩
          | some robohash =>
              refine .inr ⟨takenRow offer robohash payload escrow,
                ⟨db, row, offer, robohash, escrow, eighth, listed, read, decoded, rfl⟩,
                ⟨offer, robohash, escrow, decoded, rfl⟩, ?_, _, rfl, fun fault => ⟨_, rfl⟩, ?_⟩
              · exact (AwaitingTakerOffer.ofRow_eq_some read).1
              · rw [offerTaken_takenRow]
                rfl

/-- A step that is not the insertion of a trade. -/
structure Proceeds (payload : OfferPsbtRequest) (past : List Database) (before : Database)
    (p : Program (coordinator P) Reply) (after : Database) : Prop where
  stands : TakeStands payload (past ++ [before]) p
  takenOffers : after.takenOffers = before.takenOffers

theorem Proceeds.ended {before : Database} (stopped : ∃ reply, p = .done reply) :
    Proceeds payload past before p before := by
  obtain ⟨reply, rfl⟩ := stopped
  exact ⟨.ended reply, rfl⟩

/-- A step of a take that is still building the escrow. -/
theorem proceeds_building {k : Nat} {p : Program (coordinator P) (Outcome BondError EscrowPsbt)}
    (reads : p.Keeps Eq)
    (timed : p.Timed (fun n result => ∀ escrow, result = .ok escrow → n = 7) past.length)
    (bounded : p.Bounded k) (atMost : past.length + k = 7) (going : p.ended = false) :
    Proceeds payload past w.state ((p.bind (afterEscrow payload)).step env w).1
      ((p.bind (afterEscrow payload)).step env w).2.state := by
  rw [Program.step_bind going]
  obtain ⟨fewer, rfl, rest⟩ := bounded.step going env w
  have once : (past ++ [w.state]).length = past.length + 1 := by simp
  refine ⟨.building (reads.step env w) ?_ rest (by omega), ?_⟩
  · rw [once]
    exact timed.step going env w
  · rw [← (reads.step_state env w : w.state = (p.step env w).2.state)]

theorem TakeStands.proceeds (stands : TakeStands payload past p) (going : p.ended = false)
    (quiet : ¬ (past.length = 9 ∧ env.fault w.clock = none)) :
    Proceeds payload past w.state (p.step env w).1 (p.step env w).2.state := by
  cases stands with
  | @building k p reads timed bounded atMost =>
      cases p with
      | statement effect next => exact proceeds_building reads timed bounded atMost rfl
      | ask query next => exact proceeds_building reads timed bounded atMost rfl
      | done result =>
          cases result with
          | error stop => cases going
          | ok escrow =>
              obtain ⟨next, view, fails, goesOn⟩ := takeStands_afterEscrow (P := P) escrow
              rw [Program.bind, view]
              apply Program.step_statement (motive := fun p after =>
                Proceeds payload past w.state p after)
              · exact fun fault => .ended (fails fault)
              · exact ⟨goesOn past w.state (timed escrow rfl), rfl⟩
  | @deleting next eighth deleting =>
      apply Program.step_statement (motive := fun p after =>
        Proceeds payload past w.state p after)
      · exact fun fault => .ended (deleting.fails fault)
      · refine ⟨?_, rfl⟩
        rcases deleting.deletes with ⟨reply, stopped⟩ | ⟨row, moves, inserting⟩
        · rw [stopped]
          exact .ended reply
        · exact .inserting (by simp [eighth]) (moves.later w.state) inserting
  | inserting ninth moves inserting =>
      obtain ⟨next, rfl, fails, -⟩ := inserting.next
      simp only [Program.step, World.exec]
      cases fault : env.fault w.clock with
      | none => exact absurd ⟨ninth, fault⟩ quiet
      | some failure =>
          obtain ⟨stop, stopped⟩ := fails failure
          exact .ended ⟨_, stopped⟩
  | ended reply => cases going

/-- The tenth operation of a take inserts the trade if it does not fail. -/
theorem TakeStands.inserts (stands : TakeStands payload past p) (going : p.ended = false)
    (tenth : past.length = 9) (unfailing : env.fault w.clock = none) :
    ∃ row, MovesAs payload past row ∧ (p.step env w).2.state = w.state.insertTaken row ∧
      TakeStands payload (past ++ [w.state]) (p.step env w).1 := by
  cases stands with
  | @building k p reads timed bounded atMost => omega
  | @deleting next eighth deleting => omega
  | inserting ninth moves inserting =>
      obtain ⟨next, rfl, -, tells⟩ := inserting.next
      simp only [Program.step, World.exec, unfailing, tells]
      exact ⟨_, moves, rfl, .ended _⟩
  | ended reply => cases going

end Takes

section Roles

open Call

variable {P : Platform} {ι : Type} {requests : ι → Request} {offerId robohashHex : String}
  {robohash : Bytes} {row : TakenOffer} {env : Environment (coordinator P)}
  {w : World (coordinator P)} {db : Database}

theorem exec_isMakerInTakenOffers {answer : Bool} (unfailing : env.fault w.clock = none)
    (found : w.state.takenOffers.find? offerId = some row)
    (decoded : Hex.decode robohashHex = some robohash) (role : row.role? robohash = some answer) :
    exec env (isMakerInTakenOffers offerId robohashHex) w = (.ok answer, World.tick w) := by
  rw [isMakerInTakenOffers_eq decoded,
    exec_bind_of_ok env w (exec_fetchOne_of_found unfailing found), role]
  rfl

/-- Asked about the robohash, `is_maker_in_taken_offers` gives the answer if it can look. -/
def AnswersIsMaker (P : Platform) (db : Database) (offerId : String) (robohash : Bytes)
    (answer : Bool) : Prop :=
  ∀ (env : Environment (coordinator P)) (w : World (coordinator P)) (robohashHex : String),
    w.state = db → env.fault w.clock = none → Hex.decode robohashHex = some robohash →
      (exec env (isMakerInTakenOffers offerId robohashHex) w).1 = .ok answer

theorem answersIsMaker_of_role? {answer : Bool} (found : db.takenOffers.find? offerId = some row)
    (role : row.role? robohash = some answer) : AnswersIsMaker P db offerId robohash answer := by
  rintro env w robohashHex rfl unfailing decoded
  rw [exec_isMakerInTakenOffers unfailing found decoded role]

/-- It does not give two answers. -/
theorem AnswersIsMaker.unique (env : Environment (coordinator P)) {answer answer' : Bool}
    (first : AnswersIsMaker P db offerId robohash answer)
    (second : AnswersIsMaker P db offerId robohash answer') : answer = answer' := by
  have decoded := Hex.decode_encode robohash
  have one := first { env with fault := fun _ => none } ⟨db, [], 0⟩ _ rfl rfl decoded
  have other := second { env with fault := fun _ => none } ⟨db, [], 0⟩ _ rfl rfl decoded
  exact Except.ok.inj (one.symm.trans other)

/-- The roles in the trades of the database are those of the robohashes with which the offers
    were made and taken. -/
def RolesClear (P : Platform) (requests : ι → Request) (db : Database) : Prop :=
  ∀ offerId row, db.takenOffers.find? offerId = some row → ∃ made taken,
    row.Between requests made taken ∧ AnswersIsMaker P db offerId made true ∧
      AnswersIsMaker P db offerId taken false

/-- Every taken offer names two different traders. -/
def TradersDiffer (db : Database) : Prop :=
  ∀ offerId row, db.takenOffers.find? offerId = some row → row.robohashMaker ≠ row.robohashTaker

theorem rolesClear_iff (env : Environment (coordinator P)) (attributed : Attributed requests db) :
    RolesClear P requests db ↔ TradersDiffer db := by
  constructor
  · intro clear offerId row found same
    obtain ⟨made, taken, between, isMaker, isTaker⟩ := clear offerId row found
    rw [between.maker, between.taker] at same
    cases same
    cases isMaker.unique env isTaker
  · intro distinct offerId row found
    obtain ⟨made, taken, between⟩ := attributed.takenOffers offerId row found
    have different := distinct offerId row found
    rw [between.maker, between.taker, Ne, Option.some.injEq] at different
    refine ⟨made, taken, between, answersIsMaker_of_role? found ?_,
      answersIsMaker_of_role? found ?_⟩
    · rw [TakenOffer.role?, between.maker]
      exact if_pos rfl
    · rw [TakenOffer.role?, between.maker, between.taker]
      exact (if_neg different).trans (if_pos rfl)

/-- All trades of the later database go on from those of the earlier one. -/
def TradesFrom (before after : Database) : Prop :=
  ∀ offerId row, after.takenOffers.find? offerId = some row →
    ∃ old, before.takenOffers.find? offerId = some old ∧ row.trade = old.trade

theorem tradesFrom_of_same {before after : Database}
    (same : after.takenOffers = before.takenOffers) : TradesFrom before after :=
  fun _ row found => ⟨row, same ▸ found, rfl⟩

instance : Std.Refl TradesFrom := ⟨fun _ => tradesFrom_of_same rfl⟩

theorem TradersDiffer.tradesFrom {before after : Database} (distinct : TradersDiffer before)
    (goOn : TradesFrom before after) : TradersDiffer after := by
  intro offerId row found
  obtain ⟨old, inTable, same⟩ := goOn offerId row found
  have maker := congrArg TakenOffer.robohashMaker same
  have taker := congrArg TakenOffer.robohashTaker same
  simp only [TakenOffer.trade] at maker taker
  rw [maker, taker]
  exact distinct offerId old inTable

theorem TradersDiffer.insertTaken (distinct : TradersDiffer db)
    (different : row.robohashMaker ≠ row.robohashTaker) : TradersDiffer (db.insertTaken row) := by
  intro offerId row' found
  obtain ⟨-, rfl⟩ | before := Table.find?_of_insertOrReplace found
  · exact different
  · exact distinct offerId row' before

/-- Where a call stands: a take is at one of its operations, and all other calls leave the trades
    that there are. -/
def Request.Stands (past : List Database) (p : Program (coordinator P) Reply) : Request → Prop
  | .submitTakerBond payload => TakeStands payload past p
  | _ => p.Keeps TradesFrom

theorem stands_serve (request : Request) : request.Stands [] (request.serve P) := by
  cases kind : request.kind with
  | taking =>
      obtain ⟨payload, rfl⟩ := Request.eq_submitTakerBond kind
      exact takeStands_serve payload
  | listing =>
      have keeps : (request.serve P).Keeps TradesFrom :=
        (listing_serve P request kind).mono fun _ _ listing => tradesFrom_of_same listing.takenOffers
      cases request <;> first | exact keeps | cases kind
  | trading =>
      have keeps : (request.serve P).Keeps TradesFrom :=
        (trading_serve P request kind).mono fun _ _ trading => trading.takenOffers
      cases request <;> first | exact keeps | cases kind

variable {pool : Pool (coordinator P) ι Reply} {i : ι}

/-- If the next operation inserts a trade, then the offer that the take has read in its move was
    not made with the robohash of the taker. -/
def TakesFromOther (requests : ι → Request) (env : Environment (coordinator P))
    (pool : Pool (coordinator P) ι Reply) (i : ι) : Prop :=
  ∀ payload, requests i = .submitTakerBond payload → pool.About i 9 →
    env.fault pool.world.clock = none → ∀ moved ∈ (pool.past i)[7]?,
      ∀ listed ∈ moved.activeMakerOffers.find? payload.offer.offerIdHex,
        Hex.decode payload.tradeData.robohashHex ≠ some (Column.blob listed.robohash)

/-- The robohash of the maker in the row that a take inserts. -/
theorem MovesAs.differ_iff {payload : OfferPsbtRequest} {past : List Database}
    (moves : MovesAs payload past row) :
    row.robohashMaker ≠ row.robohashTaker ↔ ∀ moved ∈ past[7]?,
      ∀ listed ∈ moved.activeMakerOffers.find? payload.offer.offerIdHex,
        Hex.decode payload.tradeData.robohashHex ≠ some (Column.blob listed.robohash) := by
  obtain ⟨moved, listed, offer, robohash, escrow, eighth, found, read, decoded, rfl⟩ := moves
  have maker := AwaitingTakerOffer.robohashMaker_of_ofRow read
  simp only [takenRow, eighth, Option.mem_some_iff, forall_eq', found, decoded, ← maker, ne_comm]

/-- What one operation of a call does to the trades. -/
inductive RolesStep (requests : ι → Request) (env : Environment (coordinator P))
    (pool : Pool (coordinator P) ι Reply) (i : ι) (after : Database) : Prop
  | goOn (quiet : ∀ payload, requests i = .submitTakerBond payload → pool.About i 9 →
      env.fault pool.world.clock ≠ none) (goOn : TradesFrom pool.world.state after)
  | inserts {payload : OfferPsbtRequest} {row : TakenOffer}
      (requested : requests i = .submitTakerBond payload) (about : pool.About i 9)
      (unfailing : env.fault pool.world.clock = none)
      (moves : MovesAs payload (pool.past i) row)
      (inserted : after = pool.world.state.insertTaken row)

variable [DecidableEq ι]

/-- All calls are calls of the requests. -/
def Serving (requests : ι → Request) (pool : Pool (coordinator P) ι Reply) : Prop :=
  ∀ i, (requests i).Stands (pool.past i) (pool.calls i)

theorem Serving.step_of (serving : Serving requests pool) (going : (pool.calls i).ended = false)
    (next : (requests i).Stands (pool.past i ++ [pool.world.state])
      ((pool.calls i).step env pool.world).1) : Serving requests (pool.step env i) := by
  intro j
  by_cases same : j = i
  · subst same
    have acted : (pool.step env j).past j = pool.past j ++ [pool.world.state] := by
      simp [Pool.step, going]
    rw [acted, Pool.step_calls_self]
    exact next
  · rw [Pool.step_calls_of_ne same, Pool.step_past_of_ne same]
    exact serving j

/-- A step of a call that is no take. -/
theorem Serving.step_of_keeps (serving : Serving requests pool)
    (going : (pool.calls i).ended = false) (keeps : (pool.calls i).Keeps TradesFrom)
    (noTake : ∀ payload, requests i ≠ .submitTakerBond payload)
    (stands : ∀ past (p : Program (coordinator P) Reply), p.Keeps TradesFrom →
      (requests i).Stands past p) :
    RolesStep requests env pool i (pool.step env i).world.state ∧
      Serving requests (pool.step env i) := by
  constructor
  · exact .goOn (fun payload requested => absurd requested (noTake payload))
      (keeps.step_state env pool.world)
  · exact serving.step_of going (stands _ _ (keeps.step env pool.world))

theorem Serving.step_cases (serving : Serving requests pool) (env : Environment (coordinator P))
    (i : ι) :
    RolesStep requests env pool i (pool.step env i).world.state ∧
      Serving requests (pool.step env i) := by
  have stands := serving i
  cases going : (pool.calls i).ended with
  | true =>
      rw [Pool.step_of_ended going]
      refine ⟨.goOn (fun payload _ about => ?_) (Std.Refl.refl _), serving⟩
      cases going.symm.trans about.1
  | false =>
      cases requested : requests i with
      | submitTakerBond payload =>
          rw [requested] at stands
          have stands : TakeStands payload (pool.past i) (pool.calls i) := stands
          by_cases tenth : (pool.past i).length = 9 ∧ env.fault pool.world.clock = none
          · obtain ⟨ninth, unfailing⟩ := tenth
            obtain ⟨row, moves, inserted, next⟩ := stands.inserts going ninth unfailing
            refine ⟨.inserts requested ⟨going, ninth⟩ unfailing moves inserted, ?_⟩
            apply serving.step_of going
            rw [requested]
            exact next
          · obtain ⟨next, same⟩ := stands.proceeds (w := pool.world) going tenth
            refine ⟨.goOn ?_ (tradesFrom_of_same same), ?_⟩
            · exact fun other _ about unfailing => tenth ⟨about.2, unfailing⟩
            · apply serving.step_of going
              rw [requested]
              exact next
      | _ =>
          rw [requested] at stands
          apply serving.step_of_keeps going stands
          · rw [requested]
            exact fun payload => nofun
          · rw [requested]
            exact fun past p keeps => keeps

theorem Serving.play (serving : Serving requests pool) (schedule : List ι) :
    Serving requests (pool.play env schedule) := by
  induction schedule generalizing pool with
  | nil => exact serving
  | cons i schedule ih => exact ih (serving.step_cases env i).2

/-- The traders of every trade stay different if the step inserts no trade of a trader with
    itself. -/
theorem Serving.differ_step (serving : Serving requests pool)
    (differ : TradersDiffer pool.world.state) (takes : TakesFromOther requests env pool i) :
    TradersDiffer (pool.step env i).world.state := by
  rcases (serving.step_cases env i).1 with
    ⟨-, goOn⟩ | ⟨requested, about, unfailing, moves, inserted⟩
  · exact differ.tradesFrom goOn
  · rw [inserted]
    exact differ.insertTaken (moves.differ_iff.mpr (takes _ requested about unfailing))

/-- The traders of every trade differ along the schedule. -/
theorem Serving.differ_play (serving : Serving requests pool)
    (differ : TradersDiffer pool.world.state) {schedule : List ι}
    (takes : Course.Throughout (Pool.step env) (TakesFromOther requests env) pool schedule) :
    TradersDiffer (pool.play env schedule).world.state := by
  induction schedule generalizing pool with
  | nil => exact differ
  | cons i schedule ih =>
      exact ih (serving.step_cases env i).2 (serving.differ_step differ takes.1) takes.2

theorem Serving.takesFromOther (serving : Serving requests pool)
    (differ : TradersDiffer (pool.step env i).world.state) : TakesFromOther requests env pool i := by
  intro payload requested about unfailing
  rcases (serving.step_cases env i).1 with
    ⟨quiet, -⟩ | @⟨payload', row, same, -, -, moves, inserted⟩
  · exact absurd unfailing (quiet payload requested about)
  · cases requested.symm.trans same
    apply moves.differ_iff.mp
    apply differ row.offerId row
    rw [inserted]
    exact Table.find?_insertOrReplace_self _ _

/-- In every interleaving of requests: the roles in every trade are always those of the robohashes
    with which its offer was made and taken iff no take gets hold of an offer that was made with
    its own robohash. -/
theorem rolesClear_throughout_iff (env : Environment (coordinator P)) (requests : ι → Request)
    (schedule : List ι) :
    (∀ earlier, earlier <+: schedule → RolesClear P requests
        ((Pool.start (startup P) fun i => (requests i).serve P).play env earlier).world.state) ↔
      Course.Throughout (Pool.step env) (TakesFromOther requests env)
        (Pool.start (startup P) fun i => (requests i).serve P) schedule := by
  have start : Serving requests (Pool.start (startup P) fun i => (requests i).serve P) :=
    fun i => stands_serve (requests i)
  have clear (earlier : List ι) :=
    rolesClear_iff env (attributed_play env requests earlier)
  constructor
  · intro clearly
    rw [Course.throughout_iff_earlier]
    intro earlier i part
    have differ := (clear (earlier ++ [i])).mp (clearly _ part)
    rw [Pool.play_append] at differ
    exact (start.play earlier).takesFromOther differ
  · intro takes earlier part
    rw [clear]
    apply start.differ_play _ (takes.of_prefix part)
    intro offerId row found
    cases found

namespace Sample

/-- What a maker does that takes its own offer. -/
inductive Owning where
  | ordering
  | bonding
  | taking
  deriving DecidableEq

def ownTrade : Owning → Request
  | .ordering => .createOffer (order true)
  | .bonding => .submitMakerBond makerBond
  | .taking =>
      .submitTakerBond ⟨publicOffer, { takerBond with robohashHex := makerBond.robohashHex }⟩

def ownTradePool : Pool (coordinator .sample) Owning Reply :=
  (Pool.start (startup .sample) fun i => (ownTrade i).serve .sample).play environment
    (List.replicate 3 .ordering ++ List.replicate 7 .bonding ++ List.replicate 10 .taking)

end Sample

/-- The taker of its own offer is taken for the maker. -/
theorem rolesUnclear_of_ownTrade :
    ¬ RolesClear .sample Sample.ownTrade Sample.ownTradePool.world.state := by
  have attributed : Attributed Sample.ownTrade Sample.ownTradePool.world.state :=
    attributed_play Sample.environment Sample.ownTrade _
  rw [rolesClear_iff Sample.environment attributed]
  intro differ
  have taken : (Sample.ownTradePool.world.state.takenOffers.find? Sample.offerId).isSome = true := by
    decide +kernel
  obtain ⟨row, found⟩ := Option.isSome_iff_exists.mp taken
  have same : (Sample.ownTradePool.world.state.takenOffers.find? Sample.offerId).all
      (fun row => row.robohashMaker = row.robohashTaker) = true := by
    decide +kernel
  rw [found, Option.all_some, decide_eq_true_iff] at same
  exact differ Sample.offerId row found same

end Roles

end TapTrade
