import TapTrade.Model.Sample
import TapTrade.Taking.Steps

/-! # Rival takes of one offer

A take deletes the offer and inserts it among the taken ones without looking whether there
was anything left to delete. Two takes that have both read the offer both succeed, and the
later one overwrites the trade of the other. If every deletion finds the offer listed, then
there is at most one of them, and everybody is told the same trade.
-/

namespace TapTrade

open Relational Resumption

section Rivalry

variable {P : Platform} {ι : Type} {offerId : String} {payload : OfferPsbtRequest}

/-- The row of the taker: with its robohash, its bond and its strings. -/
def TakenOffer.TakenBy (row : TakenOffer) (payload : OfferPsbtRequest) : Prop :=
  ∃ offer robohash escrow, Hex.decode payload.tradeData.robohashHex = some robohash ∧
    row = takenRow offer robohash payload escrow

/-- The reply tells the trader of a trade. -/
inductive Reply.Tells (response : OfferTakenResponse) : Reply → Prop
  | taker : Tells response (.submitTakerBond (.ok response))
  | maker : Tells response (.requestOfferStatus (.ok response))

/-- The requests that compete for the offer: takes of it and polls of its maker. -/
def Request.Competes (offerId : String) : Request → Prop
  | .submitTakerBond payload => payload.offer.offerIdHex = offerId
  | .requestOfferStatus payload => payload.offerIdHex = offerId
  | _ => False

/-- What follows the construction of the escrow. -/
def afterEscrow (payload : OfferPsbtRequest) :
    Outcome BondError EscrowPsbt → Program (coordinator P) Reply
  | .ok escrow => (do
      Call.mapError .coordinatorError (addTakerInfoAndMoveTable payload escrow)
      return escrow.offerTaken : Act P BondError OfferTakenResponse).run.map .submitTakerBond
  | .error stop => .done (.submitTakerBond (.error stop))

theorem serve_submitTakerBond (payload : OfferPsbtRequest) :
    (Request.submitTakerBond payload).serve P =
      (escrowForTaker payload).run.bind (afterEscrow payload) := by
  refine (Program.bind_assoc (escrowForTaker (P := P) payload).run _ _).trans ?_
  congr 1
  funext result
  cases result <;> rfl

/-- The last operation of a take. -/
structure Inserting (payload : OfferPsbtRequest) (row : TakenOffer)
    (p : Program (coordinator P) Reply) : Prop where
  takenBy : row.TakenBy payload
  offerId : row.offerId = payload.offer.offerIdHex
  next : ∃ next, p = .statement (fun db => ((), db.insertTaken row)) next ∧
    (∀ fault, ∃ stop, next (.error fault) = .done (.submitTakerBond (.error stop))) ∧
    next (.ok ()) = .done (.submitTakerBond (.ok row.escrowPsbt.offerTaken))

/-- A call that has not deleted the offer and has not told anybody of a trade; it has made
    `n` operations. -/
inductive Quiet (offerId : String) : Request → Nat → Program (coordinator P) Reply → Prop
  | building {payload : OfferPsbtRequest} {n : Nat}
      {p : Program (coordinator P) (Outcome BondError EscrowPsbt)}
      (same : payload.offer.offerIdHex = offerId) (reads : p.Keeps Eq)
      (timed : p.Timed (fun n result => ∀ escrow, result = .ok escrow → n = 7) n) :
      Quiet offerId (.submitTakerBond payload) n (p.bind (afterEscrow payload))
  | deleting {payload : OfferPsbtRequest} {next : Except Unit Unit → Program (coordinator P) Reply}
      (same : payload.offer.offerIdHex = offerId)
      (fails : ∀ fault, ∃ stop, next (.error fault) = .done (.submitTakerBond (.error stop)))
      (deletes : (∃ stop, next (.ok ()) = .done (.submitTakerBond (.error stop))) ∨
        ∃ row, Inserting payload row (next (.ok ()))) :
      Quiet offerId (.submitTakerBond payload) 8
        (.statement (fun db => ((), db.deleteActive offerId)) next)
  | polling {payload : OfferTakenRequest} (same : payload.offerIdHex = offerId) :
      Quiet offerId (.requestOfferStatus payload) 0
        ((Request.requestOfferStatus payload).serve P)
  | refused {request : Request} {n : Nat} {reply : Reply}
      (silent : ∀ response, ¬ Reply.Tells response reply) :
      Quiet offerId request n (.done reply)

/-- A take that was refused tells nobody of a trade. -/
theorem Quiet.failedTake {n : Nat} (stop : Resumption.Abort BondError) :
    Quiet (P := P) offerId (.submitTakerBond payload) n (.done (.submitTakerBond (.error stop))) :=
  .refused nofun

theorem Quiet.failedPoll {n : Nat} {payload : OfferTakenRequest}
    (stop : Resumption.Abort FetchOffersError) :
    Quiet (P := P) offerId (.requestOfferStatus payload) n
      (.done (.requestOfferStatus (.error stop))) :=
  .refused nofun

theorem quiet_serve {request : Request} (competes : request.Competes offerId) :
    Quiet offerId request 0 (request.serve P) := by
  cases request with
  | submitTakerBond payload =>
      rw [serve_submitTakerBond]
      refine .building competes ?_ (timed_escrowForTaker payload)
      exact (keeps_escrowForTaker payload : (escrowForTaker payload).Keeps Eq)
  | requestOfferStatus payload => exact .polling competes
  | _ => exact competes.elim

/-- The maker is told what the taker is told. -/
theorem offerTaken_takenRow (offer : AwaitingTakerOffer) (robohash : Bytes)
    (payload : OfferPsbtRequest) (escrow : EscrowPsbt) :
    (takenRow offer robohash payload escrow).escrowPsbt.offerTaken = escrow.offerTaken := by
  simp [TakenOffer.escrowPsbt, EscrowPsbt.offerTaken, takenRow, Column.text, Column.i64]

theorem quiet_afterEscrow (same : payload.offer.offerIdHex = offerId) (escrow : EscrowPsbt) :
    ∃ next, afterEscrow (P := P) payload (.ok escrow) =
        .statement (fun db => (db.activeMakerOffers.find? offerId, db)) next ∧
      ∀ result, Quiet offerId (.submitTakerBond payload) 8 (next result) := by
  subst same
  refine ⟨_, rfl, ?_⟩
  intro result
  rcases result with fault | (_ | row)
  · exact .failedTake _
  · exact .failedTake _
  · dsimp only [fetchOptional, Program.bind, Call.ofOption, ExceptT.bindCont, pure, ExceptT.pure,
      ExceptT.mk]
    cases read : AwaitingTakerOffer.ofRow payload.offer.offerIdHex row with
    | none => exact .failedTake _
    | some offer =>
        refine .deleting rfl ?_ ?_
        · exact fun fault => ⟨_, rfl⟩
        · dsimp only [Program.bind, ExceptT.bindCont, hexDecode, Call.ofOption]
          cases decoded : Hex.decode payload.tradeData.robohashHex with
          | none => exact .inl ⟨_, rfl⟩
          | some robohash =>
              refine .inr ⟨takenRow offer robohash payload escrow,
                ⟨offer, robohash, escrow, decoded, rfl⟩, ?_, _, rfl, fun fault => ⟨_, rfl⟩, ?_⟩
              · exact (AwaitingTakerOffer.ofRow_eq_some read).1
              · rw [offerTaken_takenRow]
                rfl

/-- What a quiet call can do next: go on quietly, tell the maker of the trade that is
    there, or delete the offer. -/
inductive Moved (offerId : String) (request : Request) (n : Nat) (ended : Bool)
    (before after : Database) (p : Program (coordinator P) Reply) : Prop
  | quiet (same : after = before) (quiet : Quiet offerId request (if ended then n else n + 1) p)
  | told {row : TakenOffer} (same : after = before)
      (found : before.takenOffers.find? offerId = some row)
      (tells : p = .done (.requestOfferStatus (.ok row.escrowPsbt.offerTaken)))
  | deleted (going : ended = false) (now : n = 8) (deletes : after = before.deleteActive offerId)
      (next : Quiet offerId request 9 p ∨ ∃ payload row, request = .submitTakerBond payload ∧
        payload.offer.offerIdHex = offerId ∧ Inserting payload row p)

theorem serve_requestOfferStatus (payload : OfferTakenRequest) :
    ∃ next, (Request.requestOfferStatus payload).serve P =
        .statement (fun db => (db.takenOffers.find? payload.offerIdHex, db)) next ∧
      (∀ fault, ∃ stop, next (.error fault) = .done (.requestOfferStatus (.error stop))) ∧
      (∃ stop, next (.ok none) = .done (.requestOfferStatus (.error stop))) ∧
      ∀ row, next (.ok (some row)) =
        .done (.requestOfferStatus (.ok row.escrowPsbt.offerTaken)) :=
  ⟨_, rfl, fun _ => ⟨_, rfl⟩, ⟨_, rfl⟩, fun _ => rfl⟩

/-- A step of a call that is still building the escrow. -/
theorem Quiet.step_building {n : Nat} {p : Program (coordinator P) (Outcome BondError EscrowPsbt)}
    (same : payload.offer.offerIdHex = offerId) (reads : p.Keeps Eq)
    (timed : p.Timed (fun n result => ∀ escrow, result = .ok escrow → n = 7) n)
    (going : p.ended = false) (env : Environment (coordinator P)) (w : World (coordinator P)) :
    Moved offerId (.submitTakerBond payload) n (p.bind (afterEscrow payload)).ended w.state
      ((p.bind (afterEscrow payload)).step env w).2.state
      ((p.bind (afterEscrow payload)).step env w).1 := by
  have still : (p.bind (afterEscrow payload)).ended = false := by
    cases p with
    | done => cases going
    | _ => rfl
  rw [Program.step_bind going, still]
  exact .quiet (reads.step_state env w).symm
    (.building same (reads.step env w) (timed.step going env w))

theorem Quiet.step {request : Request} {n : Nat} {p : Program (coordinator P) Reply}
    (quiet : Quiet offerId request n p) (env : Environment (coordinator P))
    (w : World (coordinator P)) :
    Moved offerId request n p.ended w.state (p.step env w).2.state (p.step env w).1 := by
  cases quiet with
  | @building payload n p same reads timed =>
      cases p with
      | done result =>
          cases result with
          | error stop => exact .quiet rfl (.failedTake _)
          | ok escrow =>
              cases timed escrow rfl
              obtain ⟨next, view, quiet⟩ := quiet_afterEscrow (P := P) same escrow
              have moves : (Program.done (Except.ok escrow)).bind (afterEscrow payload) =
                  .statement (fun db => (db.activeMakerOffers.find? offerId, db)) next := view
              rw [moves]
              exact .quiet (World.exec_reads (fun _ => rfl) env w) (quiet _)
      | statement effect next => exact Quiet.step_building same reads timed rfl env w
      | ask query next => exact Quiet.step_building same reads timed rfl env w
  | @deleting payload next same fails deletes =>
      cases fault : env.fault w.clock with
      | some failure =>
          obtain ⟨stop, refused⟩ := fails failure
          simp only [Program.step, World.exec, fault, refused]
          exact .quiet rfl (.failedTake _)
      | none =>
          simp only [Program.step, World.exec, fault]
          refine .deleted rfl rfl rfl ?_
          rcases deletes with ⟨stop, refused⟩ | ⟨row, inserting⟩
          · rw [refused]
            exact .inl (.failedTake _)
          · exact .inr ⟨payload, row, rfl, same, inserting⟩
  | @polling payload same =>
      obtain ⟨next, view, fails, missing, tells⟩ := serve_requestOfferStatus (P := P) payload
      rw [view]
      cases fault : env.fault w.clock with
      | some failure =>
          obtain ⟨stop, refused⟩ := fails failure
          simp only [Program.step, World.exec, fault, refused]
          exact .quiet rfl (.failedPoll stop)
      | none =>
          simp only [Program.step, World.exec, fault]
          cases found : w.state.takenOffers.find? payload.offerIdHex with
          | none =>
              obtain ⟨stop, refused⟩ := missing
              rw [refused]
              exact .quiet rfl (.failedPoll stop)
          | some row => exact .told rfl (same ▸ found) (tells row)
  | refused silent => exact .quiet rfl (.refused silent)

/-- The last operation of a take fails, or it inserts the row and tells the taker. -/
theorem Inserting.step {row : TakenOffer} {p : Program (coordinator P) Reply}
    (inserting : Inserting payload row p) (env : Environment (coordinator P))
    (w : World (coordinator P)) :
    ((p.step env w).2.state = w.state ∧
        ∃ stop, (p.step env w).1 = .done (.submitTakerBond (.error stop))) ∨
      (p.step env w).2.state = w.state.insertTaken row ∧
        (p.step env w).1 = .done (.submitTakerBond (.ok row.escrowPsbt.offerTaken)) := by
  obtain ⟨next, rfl, fails, tells⟩ := inserting.next
  cases fault : env.fault w.clock with
  | some failure =>
      simp only [Program.step, World.exec, fault]
      exact .inl ⟨trivial, fails failure⟩
  | none =>
      simp only [Program.step, World.exec, fault]
      exact .inr ⟨trivial, tells⟩

variable [DecidableEq ι] {requests : ι → Request} {pool : Pool (coordinator P) ι Reply}
  {env : Environment (coordinator P)}

/-- The call has been told of the trade of the row. -/
def Told (row : TakenOffer) (p : Program (coordinator P) Reply) : Prop :=
  ∃ reply response, p = .done reply ∧ Reply.Tells response reply ∧
    response = row.escrowPsbt.offerTaken

/-- The call is a take that succeeded. -/
def Succeeded (p : Program (coordinator P) Reply) : Prop :=
  ∃ response, p = .done (.submitTakerBond (.ok response))

/-- How far the takes of the offer have got: nobody has deleted it, or nobody can insert it
    any more; one of them is about to insert it; or one of them has. -/
inductive Status (offerId : String) (requests : ι → Request)
    (pool : Pool (coordinator P) ι Reply) : Prop
  | untaken (absent : pool.world.state.takenOffers.find? offerId = none)
      (quiet : ∀ j, Quiet offerId (requests j) (pool.past j).length (pool.calls j))
  | moving (i : ι) (payload : OfferPsbtRequest) (row : TakenOffer)
      (absent : pool.world.state.takenOffers.find? offerId = none)
      (delisted : pool.world.state.activeMakerOffers.find? offerId = none)
      (take : requests i = .submitTakerBond payload) (about : payload.offer.offerIdHex = offerId)
      (inserting : Inserting payload row (pool.calls i))
      (quiet : ∀ j, j ≠ i → Quiet offerId (requests j) (pool.past j).length (pool.calls j))
  | taken (owner : Option ι) (row : TakenOffer)
      (found : pool.world.state.takenOffers.find? offerId = some row)
      (delisted : pool.world.state.activeMakerOffers.find? offerId = none)
      (quiet : ∀ j, Quiet offerId (requests j) (pool.past j).length (pool.calls j) ∨
        Told row (pool.calls j))
      (owned : ∀ j, Succeeded (pool.calls j) → owner = some j ∧
        ∃ payload, requests j = .submitTakerBond payload ∧ row.TakenBy payload)

/-- A quiet call has told nobody of a trade. -/
theorem Quiet.silent {request : Request} {n : Nat} {reply : Reply}
    {p : Program (coordinator P) Reply} (quiet : Quiet offerId request n p)
    (ends : p = .done reply) (response : OfferTakenResponse) : ¬ Reply.Tells response reply := by
  cases quiet with
  | @building payload n p same reads timed =>
      cases p with
      | done result =>
          cases result with
          | error stop =>
              cases ends
              exact nofun
          | ok escrow => cases ends
      | statement effect next => cases ends
      | ask query next => cases ends
  | deleting => cases ends
  | polling => cases ends
  | refused silent =>
      cases ends
      exact silent response

theorem Quiet.not_succeeded {request : Request} {n : Nat} {p : Program (coordinator P) Reply}
    (quiet : Quiet offerId request n p) : ¬ Succeeded p :=
  fun ⟨response, ends⟩ => quiet.silent ends response .taker

section Steps

variable {i : ι}

/-- The first deletion. -/
theorem Status.deleted (absent : pool.world.state.takenOffers.find? offerId = none)
    (others : ∀ j, j ≠ i → Quiet offerId (requests j) (pool.past j).length (pool.calls j))
    (going : (pool.calls i).ended = false) (now : (pool.past i).length = 8)
    (deletes : (pool.step env i).world.state = pool.world.state.deleteActive offerId)
    (next : Quiet offerId (requests i) 9 ((pool.calls i).step env pool.world).1 ∨
      ∃ payload row, requests i = .submitTakerBond payload ∧
        payload.offer.offerIdHex = offerId ∧
        Inserting payload row ((pool.calls i).step env pool.world).1) :
    Status offerId requests (pool.step env i) := by
  have stillAbsent : (pool.step env i).world.state.takenOffers.find? offerId = none := by
    rw [deletes]
    exact absent
  rcases next with goesOn | ⟨payload, row, take, about, inserting⟩
  · refine .untaken stillAbsent (Pool.forall_step (fun j => Quiet offerId (requests j)) others ?_)
    rw [going, now]
    exact goesOn
  · refine .moving i payload row stillAbsent ?_ take about ?_ fun j other => ?_
    · rw [deletes]
      exact Table.find?_delete_self _ _
    · rw [Pool.step_calls_self]
      exact inserting
    · rw [Pool.step_calls_of_ne other, Pool.step_past_of_ne other]
      exact others j other

/-- The insertion. -/
theorem Status.inserted {row : TakenOffer}
    (absent : pool.world.state.takenOffers.find? offerId = none)
    (delisted : pool.world.state.activeMakerOffers.find? offerId = none)
    (take : requests i = .submitTakerBond payload) (about : payload.offer.offerIdHex = offerId)
    (inserting : Inserting payload row (pool.calls i))
    (others : ∀ j, j ≠ i → Quiet offerId (requests j) (pool.past j).length (pool.calls j)) :
    Status offerId requests (pool.step env i) := by
  rcases inserting.step env pool.world with ⟨same, stop, refused⟩ | ⟨inserts, tells⟩
  · refine .untaken ?_ (Pool.forall_step (fun j => Quiet offerId (requests j)) others
      (refused ▸ take ▸ .failedTake stop))
    exact (congrArg (·.takenOffers.find? offerId) same).trans absent
  · refine .taken (some i) row ?_ ?_ (Pool.forall_step
      (fun j n p => Quiet offerId (requests j) n p ∨ Told row p)
      (fun j other => .inl (others j other)) (.inr ⟨_, _, tells, .taker, rfl⟩)) ?_
    · have stored : (pool.step env i).world.state.takenOffers.find? row.offerId = some row := by
        rw [show (pool.step env i).world.state = pool.world.state.insertTaken row from inserts]
        exact Table.find?_insertOrReplace_self _ _
      rwa [inserting.offerId, about] at stored
    · exact (congrArg (·.activeMakerOffers.find? offerId) inserts).trans delisted
    · intro j succeeded
      by_cases same : j = i
      · subst same
        exact ⟨rfl, payload, take, inserting.takenBy⟩
      · rw [Pool.step_calls_of_ne same] at succeeded
        exact absurd succeeded (others j same).not_succeeded

/-- An operation after the insertion, which changes nothing. -/
theorem Status.told {owner : Option ι} {row : TakenOffer}
    (found : pool.world.state.takenOffers.find? offerId = some row)
    (delisted : pool.world.state.activeMakerOffers.find? offerId = none)
    (quiet : ∀ j, Quiet offerId (requests j) (pool.past j).length (pool.calls j) ∨
      Told row (pool.calls j))
    (owned : ∀ j, Succeeded (pool.calls j) → owner = some j ∧
      ∃ payload, requests j = .submitTakerBond payload ∧ row.TakenBy payload)
    (same : (pool.step env i).world.state = pool.world.state)
    (next : Quiet offerId (requests i)
        (if (pool.calls i).ended then (pool.past i).length else (pool.past i).length + 1)
        ((pool.calls i).step env pool.world).1 ∨ Told row ((pool.calls i).step env pool.world).1)
    (ownedNext : Succeeded ((pool.calls i).step env pool.world).1 → owner = some i ∧
      ∃ payload, requests i = .submitTakerBond payload ∧ row.TakenBy payload) :
    Status offerId requests (pool.step env i) := by
  refine .taken owner row ?_ ?_ (Pool.forall_step
    (fun j n p => Quiet offerId (requests j) n p ∨ Told row p) (fun j _ => quiet j) next) ?_
  · exact (congrArg (·.takenOffers.find? offerId) same).trans found
  · exact (congrArg (·.activeMakerOffers.find? offerId) same).trans delisted
  · intro j succeeded
    by_cases acts : j = i
    · subst acts
      rw [Pool.step_calls_self] at succeeded
      exact ownedNext succeeded
    · rw [Pool.step_calls_of_ne acts] at succeeded
      exact owned j succeeded

end Steps

/-- One operation of one of the calls, if a deletion finds the offer listed. -/
theorem Status.step (status : Status offerId requests pool) (i : ι)
    (finds : pool.About i 8 → pool.world.state.activeMakerOffers.find? offerId ≠ none) :
    Status offerId requests (pool.step env i) := by
  cases status with
  | untaken absent quiet =>
      cases (quiet i).step env pool.world with
      | quiet same goesOn =>
          refine .untaken ?_ (Pool.forall_step (fun j => Quiet offerId (requests j))
            (fun j _ => quiet j) goesOn)
          exact (congrArg (·.takenOffers.find? offerId) same).trans absent
      | told same found tells => cases absent.symm.trans found
      | deleted going now deletes next =>
          exact Status.deleted absent (fun j _ => quiet j) going now deletes next
  | moving i₀ payload row absent delisted take about inserting quiet =>
      by_cases acts : i = i₀
      · subst acts
        exact Status.inserted absent delisted take about inserting quiet
      cases (quiet i acts).step env pool.world with
      | quiet same goesOn =>
          refine .moving i₀ payload row ?_ ?_ take about ?_ (Pool.forall_step
            (fun j n p => j ≠ i₀ → Quiet offerId (requests j) n p) (fun j _ => quiet j)
            fun _ => goesOn)
          · exact (congrArg (·.takenOffers.find? offerId) same).trans absent
          · exact (congrArg (·.activeMakerOffers.find? offerId) same).trans delisted
          · rwa [Pool.step_calls_of_ne (Ne.symm acts)]
      | told same found tells => cases absent.symm.trans found
      | deleted going now deletes next => exact absurd delisted (finds ⟨going, now⟩)
  | taken owner row found delisted quiet owned =>
      rcases quiet i with goesOn | ⟨reply, response, ends, tells, told⟩
      · cases goesOn.step env pool.world with
        | quiet same next =>
            exact Status.told found delisted quiet owned same (.inl next) fun succeeded =>
              absurd succeeded next.not_succeeded
        | told same found' tells =>
            cases found.symm.trans found'
            refine Status.told found delisted quiet owned same (.inr ⟨_, _, tells, .maker, rfl⟩) ?_
            rintro ⟨response, ends⟩
            cases tells.symm.trans ends
        | deleted going now deletes next => exact absurd delisted (finds ⟨going, now⟩)
      · have stays : (pool.calls i).step env pool.world = (pool.calls i, pool.world) := by
          rw [ends]
          rfl
        refine Status.told found delisted quiet owned (congrArg (·.2.state) stays) ?_ ?_
        · rw [stays]
          exact .inr ⟨reply, response, ends, tells, told⟩
        · rw [stays]
          exact owned i

/-- At most one take succeeds, the taken offer is its taker's, and whoever is told of a trade
    is told the same. -/
structure OneTrade (offerId : String) (requests : ι → Request)
    (pool : Pool (coordinator P) ι Reply) : Prop where
  unique : ∀ i j, Succeeded (pool.calls i) → Succeeded (pool.calls j) → i = j
  takenBy : ∀ i payload, requests i = .submitTakerBond payload → Succeeded (pool.calls i) →
    ∃ row, pool.world.state.takenOffers.find? offerId = some row ∧ row.TakenBy payload
  sameTrade : ∀ i j reply reply' response response', pool.calls i = .done reply →
    pool.calls j = .done reply' → reply.Tells response → reply'.Tells response' →
      response = response'

omit [DecidableEq ι] in
theorem Status.oneTrade (status : Status offerId requests pool) :
    OneTrade offerId requests pool := by
  cases status with
  | untaken absent quiet =>
      constructor
      · exact fun i j succeeded => absurd succeeded (quiet i).not_succeeded
      · exact fun i payload take succeeded => absurd succeeded (quiet i).not_succeeded
      · exact fun i j reply reply' response response' ends _ tells =>
          absurd tells ((quiet i).silent ends response)
  | moving i₀ payload row absent delisted take about inserting quiet =>
      obtain ⟨next, going, -⟩ := inserting.next
      have silent (i : ι) {reply : Reply} (ends : pool.calls i = .done reply)
          (response : OfferTakenResponse) : ¬ Reply.Tells response reply := by
        by_cases acts : i = i₀
        · subst acts
          cases going.symm.trans ends
        · exact (quiet i acts).silent ends response
      constructor
      · exact fun i j ⟨response, ends⟩ => absurd .taker (silent i ends response)
      · exact fun i payload take ⟨response, ends⟩ => absurd .taker (silent i ends response)
      · exact fun i j reply reply' response response' ends _ tells =>
          absurd tells (silent i ends response)
  | taken owner row found delisted quiet owned =>
      have told (i : ι) {reply : Reply} {response : OfferTakenResponse}
          (ends : pool.calls i = .done reply) (tells : Reply.Tells response reply) :
          response = row.escrowPsbt.offerTaken := by
        rcases quiet i with silent | ⟨reply', response', ends', tells', same⟩
        · exact absurd tells (silent.silent ends response)
        · cases ends.symm.trans ends'
          cases tells <;> cases tells' <;> exact same
      constructor
      · intro i j first second
        exact Option.some.inj ((owned i first).1.symm.trans (owned j second).1)
      · intro i payload take succeeded
        obtain ⟨-, payload', take', takenBy⟩ := owned i succeeded
        cases take.symm.trans take'
        exact ⟨row, found, takenBy⟩
      · intro i j reply reply' response response' ends ends' tells tells'
        exact (told i ends tells).trans (told j ends' tells').symm

/-- Every interleaving of any number of takes of an offer and of polls of its maker: if
    every deletion, the ninth operation of a take, finds the offer listed, then there is one
    trade. -/
theorem oneTrade_play (env : Environment (coordinator P)) {w : World (coordinator P)}
    (competes : ∀ i, (requests i).Competes offerId)
    (start : w.state.takenOffers.find? offerId = none ∨
      w.state.activeMakerOffers.find? offerId = none) {schedule : List ι}
    (finds : Course.Throughout (Pool.step env)
      (fun pool i => pool.About i 8 → pool.world.state.activeMakerOffers.find? offerId ≠ none)
      (Pool.start w fun i => (requests i).serve P) schedule) :
    OneTrade offerId requests ((Pool.start w fun i => (requests i).serve P).play env schedule) := by
  have quiet (j : ι) : Quiet offerId (requests j) 0 ((requests j).serve P) :=
    quiet_serve (competes j)
  have first : Status offerId requests (Pool.start w fun i => (requests i).serve P) := by
    cases absent : w.state.takenOffers.find? offerId with
    | none => exact .untaken absent quiet
    | some row =>
        have delisted := start.resolve_left (by simp [absent])
        exact .taken none row absent delisted (fun j => .inl (quiet j)) fun j succeeded =>
          absurd succeeded (quiet j).not_succeeded
  exact (Course.invariant_foldl (Status offerId requests)
    (fun pool i status found => status.step i found) first finds).oneTrade

end Rivalry

instance {P : Platform} (p : Program (coordinator P) Reply) : Decidable (Succeeded p) :=
  match p with
  | .done (.submitTakerBond (.ok response)) => .isTrue ⟨response, rfl⟩
  | .done (.submitTakerBond (.error _)) => .isFalse nofun
  | .done (.createOffer _) | .done (.submitMakerBond _) | .done (.fetchAvailableOffers _)
  | .done (.requestOfferStatus _) | .done (.submitEscrowPsbt _) | .done (.pollEscrowConfirmation _)
  | .done (.submitObligationConfirmation _) | .done (.requestEscrow _)
  | .done (.pollFinalPayout _) | .done (.submitPayoutSignature _) | .done (.background _) =>
      .isFalse nofun
  | .statement _ _ | .ask _ _ => .isFalse nofun

namespace Sample

/-- Two takers and the maker. -/
def rivals : Fin 3 → Request
  | 0 => .submitTakerBond take
  | 1 => .submitTakerBond ⟨publicOffer, { takerBond with robohashHex := "c5d3d3d2e4f5f6f7" }⟩
  | 2 => .requestOfferStatus makerPoll

theorem rivals_compete : ∀ i, (rivals i).Competes offerId
  | 0 => rfl
  | 1 => rfl
  | 2 => rfl

def rivalry : Pool (coordinator .sample) (Fin 3) Reply :=
  Pool.start listed fun i => (rivals i).serve .sample

end Sample

/-- One take after the other, and then the maker. -/
theorem oneTrade_play_sample : OneTrade Sample.offerId Sample.rivals
    (Sample.rivalry.play Sample.environment
      (List.replicate 10 0 ++ List.replicate 10 1 ++ [2])) :=
  oneTrade_play Sample.environment Sample.rivals_compete (.inl (by decide +kernel))
    (by decide +kernel)

/-- Both takers read the offer before either of them deletes it, and both takes succeed. -/
theorem two_takes_succeed : ¬ OneTrade Sample.offerId Sample.rivals
    (Sample.rivalry.play Sample.environment
      (List.replicate 8 0 ++ List.replicate 8 1 ++ [0, 0, 1, 1])) := by
  intro oneTrade
  have both : Succeeded ((Sample.rivalry.play Sample.environment
      (List.replicate 8 0 ++ List.replicate 8 1 ++ [0, 0, 1, 1])).calls 0) ∧
      Succeeded ((Sample.rivalry.play Sample.environment
        (List.replicate 8 0 ++ List.replicate 8 1 ++ [0, 0, 1, 1])).calls 1) := by
    decide +kernel
  exact absurd (oneTrade.unique 0 1 both.1 both.2) (by decide)

end TapTrade
