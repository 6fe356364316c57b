import Mathlib.Data.Finset.Card
import TapTrade.Model.Frame
import TapTrade.Model.Sample

/-! # One pending request, one offer

The bond of a maker turns a pending request into an offer: the row is read, deleted and inserted
into the order book, under an id that is new every time. A request is used up by the deletion, but
nobody looks whether there was anything to delete. As long as every deletion finds the row, it is
paid for by one request, and the bond calls list no more offers than there were requests.
-/

namespace TapTrade

open Relational Resumption

section Pending

variable {P : Platform} {ι : Type} {r : Bytes}

/-- The request is the bond of the maker with the robohash. -/
def Request.Bonds (r : Bytes) : Request → Prop
  | .submitMakerBond payload => Hex.decode payload.robohashHex = some r
  | _ => False

/-- The request is an order of the maker with the robohash. -/
def Request.Orders (r : Bytes) : Request → Prop
  | .createOffer offer => Hex.decode offer.robohashHex = some r
  | _ => False

instance (r : Bytes) : DecidablePred (Request.Bonds r)
  | .submitMakerBond _ => inferInstanceAs (Decidable (_ = _))
  | .createOffer _ | .fetchAvailableOffers _ | .submitTakerBond _ | .requestOfferStatus _
  | .submitEscrowPsbt _ | .pollEscrowConfirmation _ | .submitObligationConfirmation _
  | .requestEscrow _ | .pollFinalPayout _ | .submitPayoutSignature _ | .monitorBonds
  | .updateTransactionConfirmations | .escrowCliLoop => .isFalse id

instance (r : Bytes) : DecidablePred (Request.Orders r)
  | .createOffer _ => inferInstanceAs (Decidable (_ = _))
  | .submitMakerBond _ | .fetchAvailableOffers _ | .submitTakerBond _ | .requestOfferStatus _
  | .submitEscrowPsbt _ | .pollEscrowConfirmation _ | .submitObligationConfirmation _
  | .requestEscrow _ | .pollFinalPayout _ | .submitPayoutSignature _ | .monitorBonds
  | .updateTransactionConfirmations | .escrowCliLoop => .isFalse id

/-- The maker has a pending request. -/
def Database.Pends (r : Bytes) (db : Database) : Prop := db.makerRequests.find? r ≠ none

instance (r : Bytes) (db : Database) : Decidable (db.Pends r) :=
  inferInstanceAs (Decidable (_ ≠ _))

/-- What a call has to do with the pending request of the maker: nothing, it is an order, or it
    is a bond that has not deleted the request, has deleted it, or has listed the offer. -/
inductive PendingToken where
  | elsewhere
  | ordering
  | bonding
  | holding
  | finished
  deriving DecidableEq

namespace PendingToken

open Database

/-- What a token permits to write with the operation of a number. -/
inductive Writes (r : Bytes) : Nat → PendingToken → Database → Database → PendingToken → Prop
  | reads {n token db} : Writes r n token db db token
  | elsewhere {n before after} (pends : after.Pends r → before.Pends r) :
      Writes r n elsewhere before after elsewhere
  | orders {before after} : Writes r 2 ordering before after ordering
  | delists {before after} (book : after.activeMakerOffers = before.activeMakerOffers)
      (gone : ¬ after.Pends r) : Writes r 5 bonding before after holding
  | lists {n before after} (pends : after.Pends r → before.Pends r) :
      Writes r n holding before after finished

/-- The way of a pending request into the order book. -/
@[reducible] def typestate (P : Platform) (r : Bytes) : Typestate (coordinator P) where
  Token := PendingToken
  writes := Writes r
  asks token _ _ token' := token' = token

/-- The token that a request starts with. -/
def start (r : Bytes) (request : Request) : PendingToken :=
  if request.Bonds r then bonding else if request.Orders r then ordering else elsewhere

section Requests

open Call

variable {α ε : Type} {n : Nat} {token : PendingToken} {post : Nat → PendingToken → α → Prop}

theorem follows_read {read : Database → Option α}
    (ends : ∀ a, post (n + 1) token a) :
    (fetchOne read : Act P Error α).Follows (typestate P r) post n token :=
  follows_fetchOne (fun _ a _ => ⟨token, .reads, ends a⟩) fun _ _ => ⟨token, .reads⟩

theorem follows_question {query : Query P} {answer : query.Answer → Except Error α}
    (ends : ∀ a, post (n + 1) token a) :
    (tryAsk query answer).Follows (typestate P r) post n token :=
  follows_tryAsk fun _ => ⟨token, rfl, fun a _ => ends a⟩

theorem follows_handleMakerBond {payload : BondSubmissionRequest}
    (names : Hex.decode payload.robohashHex = some r) :
    (handleMakerBond payload : Act P BondError _).Follows (typestate P r) (fun _ _ _ => True) 0
      bonding := by
  apply Follows.bind
  apply Follows.mapError
  apply Follows.bind
  apply follows_hexDecode
  intro _ _
  apply Follows.bind
  apply follows_read
  intro _
  apply follows_pure
  apply Follows.bind
  apply Follows.mapError
  apply follows_question
  intro _
  apply Follows.bind
  apply follows_ask
  intro offerId
  refine ⟨bonding, rfl, ?_⟩
  apply Follows.bind
  apply Follows.mapError
  apply follows_question
  intro address
  apply Follows.bind
  apply Follows.mapError
  apply Follows.bind
  apply Follows.bind
  apply follows_hexDecode
  intro robohash decoded
  cases names.symm.trans decoded
  apply Follows.bind
  apply follows_read
  intro row
  apply Follows.bind
  apply follows_ofOption
  intro offer read
  apply Follows.bind
  apply follows_execute
  intro db
  refine ⟨holding, .delists rfl fun pends => pends (Table.find?_delete_self _ _), ?_⟩
  apply follows_pure
  apply Follows.bind
  apply follows_hexDecode
  intro _ _
  apply Follows.bind
  apply follows_execute
  intro db
  exact ⟨finished, .lists fun pends => pends, follows_pure (follows_pure trivial)⟩

theorem follows_receiveOrder {offer : OfferRequest}
    (permits : ∀ robohash before requirements, Hex.decode offer.robohashHex = some robohash →
      Writes r 2 token before
        (before.insertMakerRequest (makerRequestRow robohash offer requirements)) token) :
    (receiveOrder offer : Act P Error _).Follows (typestate P r) (fun _ _ _ => True) 0 token := by
  apply Follows.bind
  apply follows_ask
  intro now
  refine ⟨token, rfl, ?_⟩
  split
  · apply Follows.bind
    apply Follows.bind
    apply follows_checked
    apply Follows.bind
    apply follows_checked
    apply Follows.bind
    apply follows_checked
    apply Follows.bind
    apply follows_checked
    apply Follows.bind
    apply follows_question
    intro address
    apply Follows.bind
    apply Follows.bind
    apply follows_hexDecode
    intro robohash decoded
    apply follows_execute
    intro db
    exact ⟨token, permits robohash db _ decoded, follows_pure (follows_pure trivial)⟩
  · exact follows_pure trivial

/-- Every request keeps to the way of the pending request. -/
theorem follows_serve (P : Platform) (r : Bytes) (request : Request) :
    (request.serve P).Follows (typestate P r) (fun _ _ _ => True) 0 (start r request) := by
  by_cases bond : request.Bonds r
  · rw [start, if_pos bond]
    cases request with
    | submitMakerBond payload =>
        exact Program.Follows.bind ((follows_handleMakerBond bond).mono fun _ _ _ _ => trivial)
    | _ => exact bond.elim
  rw [start, if_neg bond]
  by_cases order : ∃ offer, request = .createOffer offer
  · obtain ⟨offer, rfl⟩ := order
    apply Program.Follows.bind
    refine (follows_receiveOrder ?_).mono fun _ _ _ _ => trivial
    intro robohash before requirements decoded
    split
    case isTrue => exact .orders
    case isFalse other =>
      refine .elsewhere fun pends missing => pends ?_
      simp only [insertMakerRequest, Table.find?_insertOrReplace]
      split
      case isTrue same => exact absurd (same ▸ decoded) other
      case isFalse => exact missing
  · have noOrder : ¬ request.Orders r := by
      intro orders
      cases request with
      | createOffer offer => exact order ⟨offer, rfl⟩
      | _ => exact orders
    rw [if_neg noOrder]
    refine (writes_serve P request).follows ?_ (fun _ _ => rfl) fun _ _ => trivial
    intro _ before after served
    apply Writes.elsewhere
    rcases served with _ | permitted
    · exact id
    · cases permitted with
      | createOffer => exact absurd ⟨_, rfl⟩ order
      | delistPending robohash =>
          intro pends missing
          apply pends
          exact (Table.find?_delete _ _ _).trans (by rw [missing, ite_self])
      | _ => exact id

end Requests

/-- The tokens that a call of the request may hold. -/
def Fits (r : Bytes) (request : Request) : PendingToken → Prop
  | elsewhere => ¬ request.Bonds r
  | ordering => request.Orders r
  | bonding | holding | finished => request.Bonds r

theorem fits_start (r : Bytes) (request : Request) : (start r request).Fits r request := by
  rw [start]
  split
  case isTrue bonds => exact bonds
  case isFalse other =>
    split
    case isTrue orders => exact orders
    case isFalse => exact other

theorem Fits.writes {request : Request} {n : Nat} {token token' : PendingToken}
    {before after : Database} (fits : token.Fits r request)
    (writes : Writes r n token before after token') : token'.Fits r request := by
  cases writes <;> exact fits

end PendingToken

section Runs

variable [DecidableEq ι] {env : Environment (coordinator P)} {requests : ι → Request}
  {pool : Pool (coordinator P) ι Reply} {i : ι}

/-- The step is one of a bond call of the maker, and adds a row to the order book. -/
def AddsOffer (env : Environment (coordinator P)) (requests : ι → Request) (r : Bytes)
    (pool : Pool (coordinator P) ι Reply) (i : ι) : Prop :=
  (requests i).Bonds r ∧ pool.world.state.activeMakerOffers.rows.length <
    (pool.step env i).world.state.activeMakerOffers.rows.length

/-- The step inserts a request of the maker: it is the third operation of its call and does not
    fail. -/
def AddsRequest (env : Environment (coordinator P)) (requests : ι → Request) (r : Bytes)
    (pool : Pool (coordinator P) ι Reply) (i : ι) : Prop :=
  (requests i).Orders r ∧ pool.About i 2 ∧ (env.fault pool.world.clock).isNone

/-- A bond call that is about to delete the request of the maker, its sixth operation, finds it
    pending. -/
def FindsPending (requests : ι → Request) (r : Bytes) (pool : Pool (coordinator P) ι Reply)
    (i : ι) : Prop :=
  (requests i).Bonds r → pool.About i 5 → pool.world.state.Pends r

instance (pool : Pool (coordinator P) ι Reply) (i : ι) :
    Decidable (AddsOffer env requests r pool i) := inferInstanceAs (Decidable (_ ∧ _))

instance (pool : Pool (coordinator P) ι Reply) (i : ι) :
    Decidable (AddsRequest env requests r pool i) := inferInstanceAs (Decidable (_ ∧ _ ∧ _))

instance (pool : Pool (coordinator P) ι Reply) (i : ι) :
    Decidable (FindsPending requests r pool i) := inferInstanceAs (Decidable (_ → _ → _))

/-- The calls that have used up a request and not listed its offer, and the pending request, are
    within the budget. -/
structure Covered (requests : ι → Request) (r : Bytes) (k : Nat) (tokens : ι → PendingToken)
    (w : World (coordinator P)) : Prop where
  fits : ∀ i, (tokens i).Fits r (requests i)
  within : ∃ holders : Finset ι, (∀ i, tokens i = .holding → i ∈ holders) ∧
    holders.card + (if w.state.Pends r then 1 else 0) ≤ k

variable {k : Nat} {tokens : ι → PendingToken} {token : PendingToken}

/-- A step that leaves the state and the tokens as they are costs nothing. -/
theorem Covered.same (covered : Covered requests r k tokens pool.world)
    (state : (pool.step env i).world.state = pool.world.state) :
    ∃ k', Covered requests r k' (Function.update tokens i (tokens i)) (pool.step env i).world ∧
      (if AddsOffer env requests r pool i then 1 else 0) + k' ≤
        (if AddsRequest env requests r pool i then 1 else 0) + k := by
  have noOffer : ¬ AddsOffer env requests r pool i := by
    rintro ⟨-, longer⟩
    rw [state] at longer
    exact Nat.lt_irrefl _ longer
  refine ⟨k, ?_, by rw [if_neg noOffer]; omega⟩
  rw [Function.update_eq_self]
  exact ⟨covered.fits, by rw [state]; exact covered.within⟩

/-- The holders after a step, if the call itself is among them in case it holds. -/
theorem holders_update (tokens : ι → PendingToken) {holders holders' : Finset ι}
    (before : ∀ j, tokens j = .holding → j ∈ holders)
    (others : ∀ j, j ≠ i → j ∈ holders → j ∈ holders') (self : token = .holding → i ∈ holders')
    (j : ι) (holds : Function.update tokens i token j = .holding) : j ∈ holders' := by
  by_cases same : j = i
  · subst same
    rw [Function.update_self] at holds
    exact self holds
  · rw [Function.update_of_ne same] at holds
    exact others j same (before j holds)

/-- One step of a permitted kind, with what it costs and what it earns. -/
theorem Covered.moved (covered : Covered requests r k tokens pool.world)
    (finds : FindsPending requests r pool i)
    (moves : pool.Moves (PendingToken.typestate P r) env i (tokens i) token) :
    ∃ k', Covered requests r k' (Function.update tokens i token) (pool.step env i).world ∧
      (if AddsOffer env requests r pool i then 1 else 0) + k' ≤
        (if AddsRequest env requests r pool i then 1 else 0) + k := by
  rcases moves with ⟨state, -⟩ | ⟨about, unfailing, permitted, -⟩ | ⟨-, same, state, -⟩
  · exact covered.same state
  · have fits : ∀ j, (Function.update tokens i token j).Fits r (requests j) := by
      intro j
      by_cases same : j = i
      · subst same
        rw [Function.update_self]
        exact (covered.fits j).writes permitted
      · rw [Function.update_of_ne same]
        exact covered.fits j
    obtain ⟨holders, before, within⟩ := covered.within
    have fit := covered.fits i
    generalize held : tokens i = t at permitted fit
    generalize stateBefore : pool.world.state = db at permitted within
    generalize stateAfter : (pool.step env i).world.state = db' at permitted
    have keeps (self : token = .holding → i ∈ holders) :=
      holders_update tokens before (fun j _ member => member) self
    cases permitted with
    | reads =>
        have same := covered.same (stateAfter.trans stateBefore.symm)
        rw [held] at same
        exact same
    | elsewhere pends =>
        have noOffer : ¬ AddsOffer env requests r pool i := fun adds => fit adds.1
        refine ⟨k, ⟨fits, holders, keeps nofun, ?_⟩, by rw [if_neg noOffer]; omega⟩
        rw [stateAfter]
        refine Nat.le_trans (Nat.add_le_add_left ?_ _) within
        split
        case isTrue now => rw [if_pos (pends now)]
        case isFalse => exact Nat.zero_le _
    | orders =>
        have noOffer : ¬ AddsOffer env requests r pool i := by
          rintro ⟨bonds, -⟩
          cases request : requests i <;> rw [request] at bonds fit
          all_goals first | exact bonds | exact fit
        have earns : AddsRequest env requests r pool i := ⟨fit, about, by rw [unfailing]; rfl⟩
        refine ⟨k + 1, ⟨fits, holders, keeps nofun, ?_⟩, ?_⟩
        · split <;> omega
        · rw [if_neg noOffer, if_pos earns]
          omega
    | delists book gone =>
        have pending : db.Pends r := stateBefore ▸ finds fit about
        have noOffer : ¬ AddsOffer env requests r pool i := by
          rintro ⟨-, longer⟩
          rw [stateAfter, stateBefore, book] at longer
          exact Nat.lt_irrefl _ longer
        refine ⟨k, ⟨fits, insert i holders, ?_, ?_⟩, by rw [if_neg noOffer]; omega⟩
        · exact holders_update tokens before
            (fun j _ member => Finset.mem_insert_of_mem member)
            fun _ => Finset.mem_insert_self i holders
        · rw [stateAfter, if_neg gone]
          rw [if_pos pending] at within
          exact Nat.le_trans (Finset.card_insert_le i holders) within
    | lists pends =>
        have inside : i ∈ holders := before i held
        have fewer := Finset.card_erase_add_one inside
        refine ⟨k - 1, ⟨fits, holders.erase i, ?_, ?_⟩, ?_⟩
        · exact holders_update tokens before
            (fun j other member => Finset.mem_erase_of_ne_of_mem other member) nofun
        · rw [stateAfter]
          have less : (if db'.Pends r then 1 else 0) ≤ if db.Pends r then 1 else 0 := by
            split
            case isTrue now => rw [if_pos (pends now)]
            case isFalse => exact Nat.zero_le _
          omega
        · split <;> omega
  · cases same
    exact covered.same state

/-- How many rows the bond calls of the maker add to the order book. -/
def offersListed (env : Environment (coordinator P)) (requests : ι → Request) (r : Bytes)
    (schedule : List ι) : Nat :=
  Course.tally (Pool.step env) (AddsOffer env requests r)
    (Pool.start (startup P) fun i => (requests i).serve P) schedule

/-- How many requests are inserted for the maker. -/
def requestsMade (env : Environment (coordinator P)) (requests : ι → Request) (r : Bytes)
    (schedule : List ι) : Nat :=
  Course.tally (Pool.step env) (AddsRequest env requests r)
    (Pool.start (startup P) fun i => (requests i).serve P) schedule

/-- Whatever the coordinator is asked, in whatever interleaving: if every bond call of the maker
    finds the request that it is about to delete, then these calls list no more offers than
    requests were made. -/
theorem offersListed_le_requestsMade (env : Environment (coordinator P)) (requests : ι → Request)
    (r : Bytes) {schedule : List ι}
    (finds : Course.Throughout (Pool.step env) (FindsPending requests r)
      (Pool.start (startup P) fun i => (requests i).serve P) schedule) :
    offersListed env requests r schedule ≤ requestsMade env requests r schedule := by
  have start : (Pool.start (startup P) fun i => (requests i).serve P).Governed
      (PendingToken.typestate P r) (Covered requests r 0) := by
    refine ⟨fun i => PendingToken.start r (requests i),
      fun i => PendingToken.follows_serve P r (requests i),
      fun i => PendingToken.fits_start r (requests i), ∅, fun i holds => ?_, Nat.le_refl 0⟩
    rw [PendingToken.start] at holds
    split at holds
    · cases holds
    · split at holds <;> cases holds
  apply Course.tally_le_of_budget
    (fun k pool => pool.Governed (PendingToken.typestate P r) (Covered requests r k)) ?_ start finds
  rintro k pool i ⟨tokens, following, covered⟩ meets
  obtain ⟨token, next, moves⟩ := following.step env i
  obtain ⟨k', covers, pays⟩ := covered.moved meets moves
  exact ⟨k', ⟨_, next, covers⟩, pays⟩

end Runs

end Pending

namespace Sample

/-- One order, and its bond submitted twice. -/
inductive Submitting where
  | ordering
  | first
  | second
  deriving DecidableEq

def submittingRequests : Submitting → Request
  | .ordering => .createOffer (order true)
  | .first | .second => .submitMakerBond makerBond

/-- Every id that is generated is a new one. -/
def numbering : Environment (coordinator .sample) where
  answer tick
    | .generateRandomOrderId _ => String.ofList (List.replicate tick '0')
    | query => answer query
  fault _ := none

/-- The second bond comes when the first one has been served. -/
def submittedApart : List Submitting :=
  List.replicate 3 .ordering ++ List.replicate 7 .first ++ List.replicate 7 .second

/-- Both bonds read the request before the first one deletes it. -/
def submittedTogether : List Submitting :=
  List.replicate 3 .ordering ++ List.replicate 5 .first ++ List.replicate 5 .second ++
    List.replicate 2 .first ++ List.replicate 2 .second

end Sample

theorem offersListed_le_requestsMade_sample :
    offersListed Sample.numbering Sample.submittingRequests Sample.makerRobohash
        Sample.submittedApart ≤
      requestsMade Sample.numbering Sample.submittingRequests Sample.makerRobohash
        Sample.submittedApart :=
  offersListed_le_requestsMade Sample.numbering Sample.submittingRequests Sample.makerRobohash
    (by decide +kernel)

/-- One request, two offers. -/
theorem request_listed_twice :
    ¬ offersListed Sample.numbering Sample.submittingRequests Sample.makerRobohash
        Sample.submittedTogether ≤
      requestsMade Sample.numbering Sample.submittingRequests Sample.makerRobohash
        Sample.submittedTogether := by
  decide +kernel

end TapTrade
