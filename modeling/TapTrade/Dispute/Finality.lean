import TapTrade.Model.Frame
import TapTrade.Model.Sample
import TapTrade.Taking.Steps

/-! # Decisions are final until somebody complains

The operator works on a list of open disputes that was fetched before, while the traders go on.
Recording a winner closes the dispute, and each list names an offer once, so nothing in the loop
decides a dispute twice. What can open it again is a complaint, which sets the flag without a look
at the winner, and what can erase the decision is a take that stores the trade anew.
-/

namespace TapTrade

open Relational Resumption

section Finality

variable {P : Platform} {ι : Type}

/-- The state of the dispute: whether it is open, and who has won. -/
def TakenOffer.dispute (row : TakenOffer) : Int64 × Option String :=
  (row.escrowOngoing, row.escrowWinnerRobohash)

namespace Database

/-- What `get_open_escrows` returns. -/
def openEscrows (db : Database) : List EscrowCase :=
  (db.takenOffers.select fun row => row.escrowOngoing = 1).map TakenOffer.escrowCase

/-- No trade is new, and no dispute is opened or decided. -/
def KeepsDisputes (before after : Database) : Prop :=
  ∀ offerId row, after.takenOffers.find? offerId = some row →
    ∃ old, before.takenOffers.find? offerId = some old ∧ row.dispute = old.dispute

instance : Std.Refl KeepsDisputes where
  refl _ := fun _ row found => ⟨row, found, rfl⟩

variable {db : Database} {offerId : String}

theorem keepsDisputes_updateTaken {change : Change TakenOffer}
    (keeps : ∀ row, (change.apply row).dispute = row.dispute) :
    KeepsDisputes db (db.updateTaken offerId change) := by
  intro id row found
  simp only [updateTaken, Table.find?_update] at found
  split at found
  · obtain ⟨old, inTable, rfl⟩ := Option.map_eq_some_iff.mp found
    exact ⟨old, inTable, keeps old⟩
  · exact ⟨row, found, rfl⟩

theorem keepsDisputes_setHappy (isMaker : Bool) (happy : Option Int64) :
    KeepsDisputes db (db.updateTaken offerId (TakenOffer.setHappy isMaker happy)) := by
  apply keepsDisputes_updateTaken
  intro row
  cases isMaker <;> rfl

/-- The requests that are about something else than disputes. -/
theorem keepsDisputes_served {request : Request} {before after : Database}
    (noTake : ∀ payload, request ≠ .submitTakerBond payload)
    (noComplaint : ∀ payload, request ≠ .requestEscrow payload)
    (noDecision : request ≠ .escrowCliLoop) (served : Served request before after) :
    KeepsDisputes before after := by
  have same (db : Database) (kept : db.takenOffers = before.takenOffers) :
      KeepsDisputes before db := fun id row found => ⟨row, kept ▸ found, rfl⟩
  rcases served with _ | permitted
  · exact Std.Refl.refl before
  · cases permitted with
    | take | delist => exact absurd rfl (noTake _)
    | complain | openDispute => exact absurd rfl (noComplaint _)
    | decide => exact absurd rfl noDecision
    | confirmObligation isMaker => exact keepsDisputes_setHappy _ _
    | signEscrow isMaker | signPayout isMaker =>
        apply keepsDisputes_updateTaken
        intro row
        cases isMaker <;> rfl
    | toggleProcessing | storePayout => exact keepsDisputes_updateTaken fun _ => rfl
    | finish => exact fun id row found => ⟨row, Table.find?_of_delete found, rfl⟩
    | confirmEscrow txid =>
        intro id row found
        simp only [Table.find?_updateWhere] at found
        obtain ⟨old, inTable, rfl⟩ := Option.map_eq_some_iff.mp found
        refine ⟨old, inTable, ?_⟩
        split <;> rfl
    | createOffer | delistPending | activate | punish => exact same _ rfl

/-- An offer is listed as an open dispute iff its flag says so. -/
theorem mem_openEscrows : (∃ escrow ∈ db.openEscrows, escrow.offerId = offerId) ↔
    db.HasOffer offerId fun row => row.escrowOngoing = 1 := by
  constructor
  · rintro ⟨escrow, member, rfl⟩
    obtain ⟨row, selected, rfl⟩ := List.mem_map.mp member
    obtain ⟨inTable, ongoing⟩ := List.mem_filter.mp selected
    exact ⟨row, Table.mem_rows.mp inTable, of_decide_eq_true ongoing⟩
  · rintro ⟨row, found, ongoing⟩
    refine ⟨row.escrowCase, List.mem_map.mpr ⟨row, ?_, rfl⟩, Table.find?_key found⟩
    exact List.mem_filter.mpr ⟨Table.mem_of_find? found, decide_eq_true ongoing⟩

/-- No offer is listed twice. -/
theorem nodup_openEscrows (db : Database) : (db.openEscrows.map EscrowCase.offerId).Nodup := by
  rw [openEscrows, List.map_map]
  exact db.takenOffers.nodup.sublist (List.filter_sublist.map _)

end Database

/-- A call serves a request, or it is the loop of the operator, with disputes of which the last
    ones are left to decide. -/
inductive DisputeToken where
  | handling (request : Request)
  | deciding (escrows : List EscrowCase)

namespace DisputeToken

open Database

/-- What a token permits to write with the operation of a number. -/
inductive Writes : Nat → DisputeToken → Database → Database → DisputeToken → Prop
  | keeps {n request before after} (keeps : KeepsDisputes before after) :
      Writes n (handling request) before after (handling request)
  | opens {payload db} : Writes 4 (handling (.requestEscrow payload)) db
      (db.updateTaken payload.offerIdHex TakenOffer.setEscrowOngoing)
      (handling (.requestEscrow payload))
  | takes {payload db offer robohash escrow} (about : offer.offerId = payload.offer.offerIdHex) :
      Writes 9 (handling (.submitTakerBond payload)) db
        (db.insertTaken (takenRow offer robohash payload escrow))
        (handling (.submitTakerBond payload))
  | lists {n db escrows} : Writes n (deciding escrows) db db (deciding db.openEscrows)
  | decides {n db escrow rest escrows winner} (left : escrow :: rest <:+ escrows) :
      Writes n (deciding escrows) db
        (db.updateTaken escrow.offerId (TakenOffer.setEscrowWinner winner)) (deciding rest)

/-- The course of disputes. -/
@[reducible] def typestate (P : Platform) : Typestate (coordinator P) where
  Token := DisputeToken
  writes := Writes
  asks token _ _ token' := token' = token

section Requests

open Call

variable {α ε : Type} {n : Nat} {request : Request} {post : Nat → DisputeToken → α → Prop}

theorem follows_of_timed {c : Act P ε α} {ends : Nat → α → Prop} (keeps : c.Keeps KeepsDisputes)
    (timed : c.Timed ends n) (after : ∀ n a, ends n a → post n (handling request) a) :
    c.Follows (typestate P) post n (handling request) :=
  keeps.follows_timed timed (fun _ _ _ => .keeps) (fun _ _ => rfl) after

theorem timed_isMakerInTakenOffers {offerId robohash : String} :
    (isMakerInTakenOffers offerId robohash : Act P Error Bool).Timed (fun k _ => k = n + 1) n := by
  simp only [isMakerInTakenOffers, hexDecode, timed_bind, timed_ofOption]
  intro bytes decoded
  apply timed_fetchOne
  intro row
  split
  · exact timed_fail _
  · exact (timed_pure _).mpr rfl

theorem timed_checkOfferAndConfirmation {offerId robohash : String} :
    (checkOfferAndConfirmation offerId robohash : Act P RequestError Unit).Timed
      (fun k _ => k = 2) 0 := by
  simp only [checkOfferAndConfirmation, isValidRobohashInTable, fetchEscrowTxConfirmationStatus,
    hexDecode, timed_bind, timed_mapError, timed_ofOption]
  intro bytes decoded
  apply timed_fetchOptional
  intro named
  rw [timed_pure]
  split
  · simp only [timed_bind, timed_mapError]
    apply timed_fetchOne
    intro row
    rw [timed_pure]
    split
    · exact (timed_pure _).mpr rfl
    · exact timed_fail _
  · exact timed_fail _

/-- A complaint opens the dispute with its fifth operation. -/
theorem follows_initiateEscrow (payload : TradeObligationsUnsatisfied) :
    (initiateEscrow payload : Act P RequestError Unit).Follows (typestate P) (fun _ _ _ => True) 0
      (handling (.requestEscrow payload)) := by
  apply Follows.bind
  apply follows_of_timed (by simp) timed_checkOfferAndConfirmation
  rintro _ _ rfl
  apply Follows.mapError
  apply Follows.bind
  apply follows_of_timed (by simp) timed_isMakerInTakenOffers
  rintro _ isMaker rfl
  apply Follows.bind
  apply follows_execute
  intro db
  refine ⟨_, .keeps (keepsDisputes_setHappy isMaker _), ?_⟩
  rw [if_pos Bool.not_false]
  apply follows_execute
  intro db
  exact ⟨_, .opens, trivial⟩

/-- A take stores the trade with its tenth operation. -/
theorem follows_handleTakerBond (payload : OfferPsbtRequest) :
    (handleTakerBond payload : Act P BondError _).Follows (typestate P) (fun _ _ _ => True) 0
      (handling (.submitTakerBond payload)) := by
  have same (before after : Database) (kept : after.takenOffers = before.takenOffers) :
      KeepsDisputes before after := fun id row found => ⟨row, kept ▸ found, rfl⟩
  apply Follows.bind
  apply follows_of_timed (by simp) (timed_escrowForTaker payload)
  rintro _ escrow rfl
  apply Follows.bind
  apply Follows.mapError
  apply Follows.bind
  apply Follows.bind
  apply follows_fetchOne
  · intro db row found
    refine ⟨_, .keeps (same db db rfl), ?_⟩
    apply Follows.bind
    apply follows_ofOption
    intro offer read
    apply Follows.bind
    apply follows_execute
    intro db
    refine ⟨_, .keeps (same db _ rfl), ?_⟩
    apply follows_pure
    apply Follows.bind
    apply follows_hexDecode
    intro robohash decoded
    apply follows_execute
    intro db
    exact ⟨_, .takes (AwaitingTakerOffer.ofRow_eq_some read).1, follows_pure trivial⟩
  · exact fun db _ => ⟨_, .keeps (same db db rfl)⟩

theorem follows_resolveEscrows {escrows listed : List EscrowCase} (left : escrows <:+ listed)
    {post : Nat → DisputeToken → Unit → Prop} (ends : ∀ n listed, post n (deciding listed) ()) :
    (resolveEscrows escrows : Act P Error Unit).Follows (typestate P) post n
      (deciding listed) := by
  induction escrows generalizing n listed with
  | nil => exact follows_pure (ends n listed)
  | cons escrow escrows ih =>
      apply Follows.bind
      apply follows_ask
      rintro (e | winner)
      -- the dispute is passed over, and what is left is still among what was listed
      · exact ⟨_, rfl, ih ((List.suffix_cons escrow escrows).trans left)⟩
      · refine ⟨_, rfl, ?_⟩
        cases winner with
        | maker | taker =>
            apply Follows.bind
            apply follows_execute
            intro db
            exact ⟨deciding escrows, .decides left, ih (List.suffix_refl _)⟩

theorem follows_escrowCliRounds (rounds : Nat) (listed : List EscrowCase) :
    (escrowCliRounds rounds : Act P Error Unit).Follows (typestate P) (fun _ _ _ => True) n
      (deciding listed) := by
  induction rounds generalizing n listed with
  | zero => exact follows_pure trivial
  | succ rounds ih =>
      apply Follows.bind
      apply Follows.bind
      apply Follows.bind
      apply follows_statement
      intro db
      refine ⟨deciding db.openEscrows, .lists, follows_pure ?_⟩
      exact follows_resolveEscrows (List.suffix_refl _) fun n listed => ih listed

/-- Every request but the rounds of the operator keeps to the course of disputes. -/
theorem follows_serve (P : Platform) {request : Request} (noDecision : request ≠ .escrowCliLoop) :
    (request.serve P).Follows (typestate P) (fun _ _ _ => True) 0 (handling request) := by
  by_cases complaint : ∃ payload, request = .requestEscrow payload
  · obtain ⟨payload, rfl⟩ := complaint
    exact Program.Follows.bind ((follows_initiateEscrow payload).mono fun _ _ _ _ => trivial)
  by_cases take : ∃ payload, request = .submitTakerBond payload
  · obtain ⟨payload, rfl⟩ := take
    exact Program.Follows.bind ((follows_handleTakerBond payload).mono fun _ _ _ _ => trivial)
  apply (writes_serve P request).follows ?_ (fun _ _ => rfl) fun _ _ => trivial
  intro _ before after served
  exact .keeps (keepsDisputes_served (fun payload same => take ⟨payload, same⟩)
    (fun payload same => complaint ⟨payload, same⟩) noDecision served)

end Requests

theorem Writes.of_handling {n : Nat} {request : Request} {before after : Database}
    {token : DisputeToken} (writes : Writes n (handling request) before after token) :
    token = handling request := by
  cases writes <;> rfl

/-- The operator fetches the open disputes, or decides the next one. -/
theorem Writes.of_deciding {n : Nat} {escrows : List EscrowCase} {before after : Database}
    {token : DisputeToken} (writes : Writes n (deciding escrows) before after token) :
    after = before ∧ token = deciding before.openEscrows ∨
      ∃ escrow rest winner, escrow :: rest <:+ escrows ∧ token = deciding rest ∧
        after = before.updateTaken escrow.offerId (TakenOffer.setEscrowWinner winner) := by
  cases writes with
  | lists => exact .inl ⟨rfl, rfl⟩
  | decides left => exact .inr ⟨_, _, _, left, rfl, rfl⟩

end DisputeToken

section Runs

open Database DisputeToken

variable [DecidableEq ι] {env : Environment (coordinator P)} {requests : ι → Request}
  {pool : Pool (coordinator P) (Option ι) Reply} {i : Option ι}
  {tokens : Option ι → DisputeToken} {token : DisputeToken} {offerId winner : String}

/-- The loop of the operator and the calls that serve the requests, of which none has begun. -/
def operated (P : Platform) (rounds : Nat) (requests : ι → Request) :
    Pool (coordinator P) (Option ι) Reply :=
  Pool.start (startup P) fun
    | none => (escrowCliRounds (P := P) rounds).run.map .background
    | some i => (requests i).serve P

/-- The offer that the request complains about. -/
def Request.complained? : Request → Option String
  | .requestEscrow payload => some payload.offerIdHex
  | _ => none

/-- Neither is the step the fifth operation of a complaint, which opens the dispute of the offer
    again, nor the tenth of a take, which stores the offer anew; or it fails, or there is nothing
    to open. -/
def LeavesDecision (env : Environment (coordinator P)) (requests : ι → Request) (offerId : String)
    (pool : Pool (coordinator P) (Option ι) Reply) : Option ι → Prop
  | none => True
  | some i => env.fault pool.world.clock = none →
      ((requests i).complained? = some offerId → pool.About (some i) 4 →
        pool.world.state.takenOffers.find? offerId = none) ∧
      ((requests i).taken? = some offerId → ¬ pool.About (some i) 9)

instance (pool : Pool (coordinator P) (Option ι) Reply) (i : Option ι) :
    Decidable (LeavesDecision env requests offerId pool i) :=
  match i with
  | none => .isTrue trivial
  | some _ => inferInstanceAs (Decidable (_ → (_ → _ → _) ∧ (_ → _)))

/-- A step leaves the state and the token as they are, or it is a permitted write. -/
theorem writes_of_moves (moves : pool.Moves (typestate P) env i (tokens i) token) :
    token = tokens i ∧ (pool.step env i).world.state = pool.world.state ∨
      ∃ n, pool.About i n ∧ env.fault pool.world.clock = none ∧
        DisputeToken.Writes n (tokens i) pool.world.state (pool.step env i).world.state token := by
  generalize acting : tokens i = before at moves
  rcases moves with ⟨state, -⟩ | ⟨about, unfailing, permitted, -⟩ | ⟨-, same, state, -⟩
  · exact .inl ⟨rfl, state⟩
  · exact .inr ⟨_, about, unfailing, permitted⟩
  · exact .inl ⟨same, state⟩

/-- The requests are served, and the operator has no dispute twice. -/
structure Distinct (requests : ι → Request) (tokens : Option ι → DisputeToken) : Prop where
  serves : ∀ i, tokens (some i) = .handling (requests i)
  operator : ∃ escrows, tokens none = .deciding escrows ∧
    (escrows.map EscrowCase.offerId).Nodup

/-- The dispute is decided, and the operator is not about to decide it again. -/
structure Final (requests : ι → Request) (offerId winner : String)
    (tokens : Option ι → DisputeToken) (w : World (coordinator P)) : Prop where
  serves : ∀ i, tokens (some i) = .handling (requests i)
  operator : ∃ escrows, tokens none = .deciding escrows ∧
    ∀ escrow ∈ escrows, escrow.offerId ≠ offerId
  decided : w.state.AtOffer offerId fun row =>
    row.escrowOngoing ≠ 1 ∧ row.escrowWinnerRobohash = some winner

/-- A call goes on to serve its request. -/
theorem serves_update (serves : ∀ i, tokens (some i) = .handling (requests i)) {j : ι}
    (moves : pool.Moves (typestate P) env (some j) (tokens (some j)) token) (i : ι) :
    Function.update tokens (some j) token (some i) = .handling (requests i) := by
  by_cases same : i = j
  · subst same
    rw [Function.update_self]
    rcases writes_of_moves moves with ⟨rfl, -⟩ | ⟨n, -, -, writes⟩
    · exact serves i
    · rw [serves] at writes
      exact writes.of_handling
  · rw [Function.update_of_ne (Option.some_injective ι |>.ne same)]
    exact serves i

theorem Distinct.moved (distinct : Distinct requests tokens)
    (moves : pool.Moves (typestate P) env i (tokens i) token) :
    Distinct requests (Function.update tokens i token) := by
  cases i with
  | some j => exact ⟨serves_update distinct.serves moves, distinct.operator⟩
  | none =>
      obtain ⟨escrows, operator, nodup⟩ := distinct.operator
      refine ⟨distinct.serves, ?_⟩
      simp only [Function.update_self]
      rcases writes_of_moves moves with ⟨rfl, -⟩ | ⟨n, -, -, writes⟩
      · exact ⟨escrows, operator, nodup⟩
      · rw [operator] at writes
        rcases writes.of_deciding with ⟨-, rfl⟩ | ⟨escrow, rest, winner, left, rfl, -⟩
        · exact ⟨_, rfl, nodup_openEscrows _⟩
        · exact ⟨rest, rfl, (nodup.sublist (left.sublist.map _)).of_cons⟩

/-- A call that serves a request records no winner. -/
theorem winner_of_handling {n : Nat} {request : Request} {before after : Database}
    (writes : DisputeToken.Writes n (handling request) before after token)
    (won : after.HasOffer offerId fun row => row.escrowWinnerRobohash = some winner) :
    before.HasOffer offerId fun row => row.escrowWinnerRobohash = some winner := by
  obtain ⟨row, found, won⟩ := won
  cases writes with
  | keeps keeps =>
      obtain ⟨old, there, same⟩ := keeps offerId row found
      exact ⟨old, there, (congrArg Prod.snd same).symm.trans won⟩
  | opens =>
      simp only [updateTaken, Table.find?_update] at found
      split at found
      · obtain ⟨old, there, rfl⟩ := Option.map_eq_some_iff.mp found
        exact ⟨old, there, won⟩
      · exact ⟨row, found, won⟩
  | takes =>
      rcases Table.find?_of_insertOrReplace found with ⟨-, rfl⟩ | there
      · cases won
      · exact ⟨row, there, won⟩

/-- The step that records a winner is one of the operator, who has no other case of the offer. -/
theorem final_of_decides (distinct : Distinct requests tokens)
    (moves : pool.Moves (typestate P) env i (tokens i) token)
    (undecided : ¬ pool.world.state.HasOffer offerId fun row => row.escrowWinnerRobohash ≠ none)
    (decides : (pool.step env i).world.state.HasOffer offerId fun row =>
      row.escrowWinnerRobohash = some winner) :
    Final requests offerId winner (Function.update tokens i token) (pool.step env i).world := by
  have fresh : ¬ pool.world.state.HasOffer offerId fun row =>
      row.escrowWinnerRobohash = some winner := by
    rintro ⟨row, found, won⟩
    exact undecided ⟨row, found, ne_of_eq_of_ne won (Option.some_ne_none winner)⟩
  have serves := (distinct.moved moves).serves
  rcases writes_of_moves moves with ⟨-, same⟩ | ⟨n, -, -, writes⟩
  · rw [same] at decides
    exact absurd decides fresh
  cases i with
  | some j =>
      rw [distinct.serves] at writes
      exact absurd (winner_of_handling writes decides) fresh
  | none =>
      obtain ⟨escrows, operator, nodup⟩ := distinct.operator
      rw [operator] at writes
      rcases writes.of_deciding with ⟨same, -⟩ | ⟨escrow, rest, other, left, rfl, after⟩
      · rw [same] at decides
        exact absurd decides fresh
      rw [after] at decides
      obtain ⟨row, found, won⟩ := decides
      simp only [updateTaken, Table.find?_update] at found
      split at found
      case isFalse => exact absurd ⟨row, found, won⟩ fresh
      case isTrue about =>
        obtain ⟨old, there, rfl⟩ := Option.map_eq_some_iff.mp found
        refine ⟨serves, ⟨rest, Function.update_self .., fun next member same => ?_⟩, ?_⟩
        · apply (List.nodup_cons.mp (nodup.sublist (left.sublist.map _))).1
          rw [← about, ← same]
          exact List.mem_map_of_mem member
        · rw [after, about]
          intro now inTable
          simp only [updateTaken, Table.find?_update_self] at inTable
          obtain ⟨before, -, rfl⟩ := Option.map_eq_some_iff.mp inTable
          have closed : (0 : Int64) ≠ 1 := by decide
          exact ⟨closed, won⟩

omit [DecidableEq ι] in
/-- A call that leaves the decision alone does not change it. -/
theorem decided_of_handling {n : Nat} {j : ι} (decided : pool.world.state.AtOffer offerId fun row =>
      row.escrowOngoing ≠ 1 ∧ row.escrowWinnerRobohash = some winner)
    (leaves : ((requests j).complained? = some offerId → pool.About (some j) 4 →
        pool.world.state.takenOffers.find? offerId = none) ∧
      ((requests j).taken? = some offerId → ¬ pool.About (some j) 9))
    (about : pool.About (some j) n) {after : Database}
    (writes : DisputeToken.Writes n (handling (requests j)) pool.world.state after token) :
    after.AtOffer offerId fun row =>
      row.escrowOngoing ≠ 1 ∧ row.escrowWinnerRobohash = some winner := by
  generalize pool.world.state = before at decided leaves writes
  generalize requests j = request at leaves writes
  cases writes with
  | keeps keeps =>
      intro row found
      obtain ⟨old, there, same⟩ := keeps offerId row found
      obtain ⟨closed, won⟩ := decided old there
      have ongoing : row.escrowOngoing = old.escrowOngoing := congrArg Prod.fst same
      exact ⟨ongoing ▸ closed, (congrArg Prod.snd same).trans won⟩
  | @opens payload =>
      by_cases same : payload.offerIdHex = offerId
      · intro row found
        simp only [updateTaken, same, Table.find?_update_self] at found
        obtain ⟨old, there, rfl⟩ := Option.map_eq_some_iff.mp found
        cases (leaves.1 (congrArg some same) about).symm.trans there
      · exact decided.updateTaken fun about => absurd about same
  | @takes payload _ offer _ _ named =>
      apply decided.insertTaken
      intro same
      exact absurd about (leaves.2 (congrArg some (named.symm.trans same)))

/-- A step that leaves the decision alone does not touch it, nor does it list the dispute. -/
theorem Final.moved (final : Final requests offerId winner tokens pool.world)
    (leaves : LeavesDecision env requests offerId pool i)
    (moves : pool.Moves (typestate P) env i (tokens i) token) :
    Final requests offerId winner (Function.update tokens i token) (pool.step env i).world := by
  obtain ⟨escrows, operator, others⟩ := final.operator
  rcases writes_of_moves moves with ⟨rfl, same⟩ | ⟨n, about, unfailing, writes⟩
  · rw [Function.update_eq_self]
    exact ⟨final.serves, final.operator, same ▸ final.decided⟩
  cases i with
  | some j =>
      refine ⟨serves_update final.serves moves, final.operator, ?_⟩
      rw [final.serves] at writes
      exact decided_of_handling final.decided (leaves unfailing) about writes
  | none =>
      rw [operator] at writes
      refine ⟨final.serves, ?_, ?_⟩
      · simp only [Function.update_self]
        rcases writes.of_deciding with ⟨-, rfl⟩ | ⟨escrow, rest, other, left, rfl, -⟩
        · refine ⟨_, rfl, fun escrow member same => ?_⟩
          obtain ⟨row, found, ongoing⟩ := mem_openEscrows.mp ⟨escrow, member, same⟩
          exact (final.decided row found).1 ongoing
        · refine ⟨rest, rfl, fun next member => others next (left.mem ?_)⟩
          exact List.mem_cons_of_mem _ member
      · rcases writes.of_deciding with ⟨same, -⟩ | ⟨escrow, rest, other, left, -, after⟩
        · exact same ▸ final.decided
        · rw [after]
          apply final.decided.updateTaken
          intro about
          exact absurd about (others escrow (left.mem (List.mem_cons_self ..)))

omit [DecidableEq ι] in
theorem governed_operated (rounds : Nat) (noDecision : ∀ i, requests i ≠ .escrowCliLoop) :
    (operated P rounds requests).Governed (typestate P) fun tokens _ => Distinct requests tokens := by
  let tokens : Option ι → DisputeToken
    | none => deciding []
    | some i => handling (requests i)
  refine ⟨tokens, ?_, fun i => rfl, [], rfl, List.nodup_nil⟩
  intro i
  cases i with
  | none =>
      apply Program.Follows.bind
      exact (follows_escrowCliRounds rounds []).mono fun _ _ _ _ => trivial
  | some i => exact follows_serve P (noDecision i)

end Runs

/-- The loop of the operator and any number of requests, in any interleaving of their operations:
    when a winner is recorded for an offer, then for as long as no complaint about the offer opens
    its dispute again and no take stores it anew, the dispute is not listed as open and the winner
    stays. -/
theorem decision_final [DecidableEq ι] (env : Environment (coordinator P)) (rounds : Nat)
    (requests : ι → Request) (noDecision : ∀ i, requests i ≠ .escrowCliLoop)
    (earlier later : List (Option ι)) (i : Option ι) {offerId winner : String}
    (undecided : ¬ ((operated P rounds requests).play env earlier).world.state.HasOffer offerId
      fun row => row.escrowWinnerRobohash ≠ none)
    (decides : ((operated P rounds requests).play env (earlier ++ [i])).world.state.HasOffer offerId
      fun row => row.escrowWinnerRobohash = some winner)
    (leaves : Course.Throughout (Pool.step env) (LeavesDecision env requests offerId)
      ((operated P rounds requests).play env (earlier ++ [i])) later) :
    (¬ ∃ escrow ∈ ((operated P rounds requests).play env
        (earlier ++ [i] ++ later)).world.state.openEscrows, escrow.offerId = offerId) ∧
      ((operated P rounds requests).play env (earlier ++ [i] ++ later)).world.state.AtOffer offerId
        fun row => row.escrowWinnerRobohash = some winner := by
  have governed : ((operated P rounds requests).play env earlier).Governed
      (DisputeToken.typestate P) fun tokens _ => Distinct requests tokens :=
    Pool.governed_play (fun pool tokens j token distinct moves => Distinct.moved distinct moves)
      earlier (governed_operated rounds noDecision)
  obtain ⟨tokens, following, distinct⟩ := governed
  obtain ⟨token, next, moves⟩ := following.step env i
  rw [Pool.play_append] at decides
  have final : ((operated P rounds requests).play env (earlier ++ [i])).Governed
      (DisputeToken.typestate P) (Final requests offerId winner) := by
    rw [Pool.play_append]
    exact ⟨_, next, final_of_decides distinct moves undecided decides⟩
  obtain ⟨tokens', -, final⟩ := Pool.governed_foldl
    (fun pool tokens j token final leaves moves => Final.moved final leaves moves) final leaves
  rw [Pool.play_append]
  constructor
  · intro listed
    obtain ⟨row, found, ongoing⟩ := Database.mem_openEscrows.mp listed
    exact (final.decided row found).1 ongoing
  · exact fun row found => (final.decided row found).2

end Finality

namespace Sample

/-- The calls of a trade that comes to a dispute, with two complaints. -/
inductive Disputing where
  | ordering
  | bonding
  | taking
  | confirming
  | complaining
  | satisfied
  | complainingAgain
  deriving DecidableEq

def disputingRequests : Disputing → Request
  | .ordering => .createOffer (order true)
  | .bonding => .submitMakerBond makerBond
  | .taking => .submitTakerBond take
  | .confirming => .updateTransactionConfirmations
  | .complaining | .complainingAgain => .requestEscrow complaint
  | .satisfied => .submitObligationConfirmation takerPoll

/-- The operator is for the maker at first, and for the taker when asked again. -/
def changingMind : Environment (coordinator .sample) where
  answer tick
    | .getCoordinatorCliInput _ => .ok (if tick < 31 then .maker else .taker)
    | query => answer query
  fault _ := none

/-- The operator fetches the dispute and is asked about it. -/
def disputed : List (Option Disputing) :=
  List.replicate 3 (some .ordering) ++ List.replicate 7 (some .bonding) ++
    List.replicate 10 (some .taking) ++ List.replicate 3 (some .confirming) ++
    List.replicate 5 (some .complaining) ++ List.replicate 2 none

/-- The taker reports afterwards that everything is fine, and the operator looks again. -/
def settling : List (Option Disputing) := List.replicate 4 (some .satisfied) ++ [none]

/-- The maker complains again, and the operator decides again. -/
def reopening : List (Option Disputing) :=
  List.replicate 5 (some .complainingAgain) ++ List.replicate 3 none

def disputePool (schedule : List (Option Disputing)) :
    Pool (coordinator .sample) (Option Disputing) Reply :=
  (operated .sample 2 disputingRequests).play changingMind schedule

end Sample

theorem decision_final_sample :
    (¬ ∃ escrow ∈ (Sample.disputePool (Sample.disputed ++ [none] ++
        Sample.settling)).world.state.openEscrows, escrow.offerId = Sample.offerId) ∧
      (Sample.disputePool (Sample.disputed ++ [none] ++
        Sample.settling)).world.state.AtOffer Sample.offerId
          fun row => row.escrowWinnerRobohash = some "a3f1f1f0e2f3f4f5" := by
  apply decision_final Sample.changingMind 2 Sample.disputingRequests ?_ Sample.disputed
    Sample.settling none
  · decide +kernel
  · decide +kernel
  · decide +kernel
  · intro i
    cases i <;> exact Request.noConfusion

/-- A decided dispute is listed again when a trader complains once more, and then decided for the
    other trader. -/
theorem decision_reversed :
    (Sample.disputePool (Sample.disputed ++ [none])).world.state.HasOffer Sample.offerId
        (fun row => row.escrowWinnerRobohash = some "a3f1f1f0e2f3f4f5") ∧
      (∃ escrow ∈ (Sample.disputePool (Sample.disputed ++ [none] ++
        Sample.reopening.take 5)).world.state.openEscrows, escrow.offerId = Sample.offerId) ∧
      ¬ (Sample.disputePool (Sample.disputed ++ [none] ++
        Sample.reopening)).world.state.AtOffer Sample.offerId
          fun row => row.escrowWinnerRobohash = some "a3f1f1f0e2f3f4f5" := by
  decide +kernel

end TapTrade
