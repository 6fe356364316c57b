import TapTrade.Payout.Agreement
import TapTrade.Payout.Strangers

/-! # Whether a poll gives the flag back

A poll that has set the processing flag leaves by `?` when the transaction cannot be assembled or
stored, and the flag stays set. The next poll then clears it and is refused.
-/

namespace TapTrade

open Relational Resumption

section Release

variable {P : Platform} {env : Environment (coordinator P)} {w : World (coordinator P)}
  {offerId : String} {payload : OfferTakenRequest} {row : TakenOffer} {data : PayoutData P}

/-- Nobody has set the processing flag of the offer. -/
def Database.Clear (offerId : String) : Database → Prop :=
  AtOffer offerId fun row => row.processing = 0

/-- The poll gets to the statement that toggles the processing flag, and it does not fail. -/
def TogglesFlag (env : Environment (coordinator P)) (w : World (coordinator P))
    (row : TakenOffer) : Prop :=
  PaysOut env w row ∧ row.payoutTransactionPsbtHex = none

/-- The transaction is assembled at the tick, stored, and the flag is given back. -/
structure Completes (env : Environment (coordinator P)) (tick : Nat) (data : PayoutData P) :
    Prop where
  assembled : ∃ psbt, env.answer tick (.assembleKeyspendPayoutPsbt data) = .ok psbt
  stored : env.fault (tick + 1) = none
  returned : env.fault (tick + 2) = none

/-- The poll leaves the flag clear; and if it toggles it, it has the transaction assembled. -/
structure Released (env : Environment (coordinator P)) (w : World (coordinator P))
    (payload : OfferTakenRequest) : Prop where
  clear : (Call.exec env (handleFinalPayout payload) w).2.state.Clear payload.offerIdHex
  assembles : ∀ row, w.state.takenOffers.find? payload.offerIdHex = some row →
    TogglesFlag env w row → ∃ event data,
      (Call.exec env (handleFinalPayout payload) w).2.log = w.log ++ [event] ∧
        event.query = .assembleKeyspendPayoutPsbt data

/-- The flag is clear, and if the poll sets it then it gets to the end. -/
structure Releases (env : Environment (coordinator P)) (w : World (coordinator P))
    (payload : OfferTakenRequest) : Prop where
  clear : w.state.Clear payload.offerIdHex
  completes : ∀ row data, w.state.takenOffers.find? payload.offerIdHex = some row →
    TogglesFlag env w row → row.payoutData P = .ok data → Completes env (w.clock + 4) data

open Call

theorem clear_updateTaken (change : Change TakenOffer)
    (found : w.state.takenOffers.find? offerId = some row) :
    (w.state.updateTaken offerId change).Clear offerId ↔ (change.apply row).processing = 0 := by
  simp only [Database.Clear, Database.AtOffer, Database.updateTaken, Table.find?_update_self, found,
    Option.map_some, Option.some.injEq, forall_eq']

theorem clear_iff (found : w.state.takenOffers.find? offerId = some row) :
    w.state.Clear offerId ↔ row.processing = 0 := by
  simp only [Database.Clear, Database.AtOffer, found, Option.some.injEq, forall_eq']

theorem exec_assemblePayout (data : PayoutData P) : exec env (assemblePayout offerId data) w =
    match (env.answer w.clock (.assembleKeyspendPayoutPsbt data) : Except Error String) with
    | .error e => (.error (.failed (.coordinatorError e)),
        (w.ask env (.assembleKeyspendPayoutPsbt data)).2)
    | .ok psbt => exec env (storePayoutPsbt offerId data psbt)
        (w.ask env (.assembleKeyspendPayoutPsbt data)).2 := by
  rw [assemblePayout, exec_bind, exec_mapError, tryAsk, exec_ask_bind]
  cases (env.answer w.clock (.assembleKeyspendPayoutPsbt data) : Except Error String) <;> rfl

theorem exec_toggleProcessing_of_fault {fault : Unit} (fails : env.fault w.clock = some fault) :
    exec env (toggleProcessing offerId) w = (.error (.failed .database), World.tick w) := by
  rw [toggleProcessing, exec_bind, exec_statement, fails]
  rfl

theorem silent_storePayoutPsbt (psbt : String) : (storePayoutPsbt offerId data psbt).Silent := by
  apply Silent.bind (silent_mapError (silent_statement _ _))
  intro stored
  apply Silent.bind (silent_mapError (Silent.bind (silent_statement _ _) ?_)) fun _ => silent_pure _
  intro flag
  exact Silent.bind (silent_ofOption _ _) fun _ => silent_pure _

/-- A poll that has set the flag has the transaction assembled. -/
theorem log_assemblePayout (env : Environment (coordinator P)) (w : World (coordinator P))
    (offerId : String) (data : PayoutData P) : ∃ event,
    (exec env (assemblePayout offerId data) w).2.log = w.log ++ [event] ∧
      event.query = .assembleKeyspendPayoutPsbt data := by
  have asked : (exec env (assemblePayout offerId data) w).2.log =
      (w.ask env (.assembleKeyspendPayoutPsbt data)).2.log := by
    rw [exec_assemblePayout]
    split
    · rfl
    · exact silent_storePayoutPsbt _ env _
  exact ⟨_, asked, rfl⟩

/-- The flag is given back iff both statements succeed. -/
theorem clear_storePayoutPsbt (psbt : String)
    (found : w.state.takenOffers.find? offerId = some row) (set : row.processing = 1) :
    (exec env (storePayoutPsbt offerId data psbt) w).2.state.Clear offerId ↔
      env.fault w.clock = none ∧ env.fault (w.clock + 1) = none := by
  rw [storePayoutPsbt, insertKeyspendPayoutPsbt]
  cases fault : env.fault w.clock with
  | some failure =>
      rw [exec_bind, exec_mapError, exec_execute_of_fault fault]
      apply iff_of_false
      · change ¬ w.state.Clear offerId
        rw [clear_iff found, set]
        decide
      · rintro ⟨unfailing, -⟩
        cases unfailing
  | none =>
      have stored := exec_mapError_of_ok (f := RequestError.database) env w
        (exec_execute fault fun db => db.updateTaken offerId (TakenOffer.setPayoutPsbt psbt))
      rw [exec_bind_of_ok env w stored]
      have kept : (w.state.updateTaken offerId
          (TakenOffer.setPayoutPsbt psbt)).takenOffers.find? offerId =
            some ((TakenOffer.setPayoutPsbt psbt).apply row) := by
        rw [Database.updateTaken, Table.find?_update_self, found, Option.map_some]
      cases fault' : env.fault (w.clock + 1) with
      | some failure =>
          rw [exec_bind, exec_mapError, exec_toggleProcessing_of_fault fault']
          apply iff_of_false
          · change ¬ (w.state.updateTaken offerId (TakenOffer.setPayoutPsbt psbt)).Clear offerId
            rw [clear_updateTaken _ found]
            change row.processing ≠ 0
            rw [set]
            decide
          · rintro ⟨-, unfailing⟩
            cases unfailing
      | none =>
          let stored : World (coordinator P) := { World.tick w with
            state := w.state.updateTaken offerId (TakenOffer.setPayoutPsbt psbt) }
          have toggled := exec_toggleProcessing (w := stored) fault' kept
          rw [exec_bind_of_ok env stored (exec_mapError_of_ok env stored toggled)]
          refine iff_of_true ?_ ⟨rfl, rfl⟩
          change (stored.state.updateTaken offerId TakenOffer.toggleProcessing).Clear offerId
          rw [clear_updateTaken _ kept]
          change TakenOffer.toggle row.processing = 0
          rw [set]
          decide

/-- A poll that has set the flag clears it again iff it gets to the end. -/
theorem clear_assemblePayout (env : Environment (coordinator P)) (data : PayoutData P)
    (found : w.state.takenOffers.find? offerId = some row)
    (set : row.processing = 1) :
    (exec env (assemblePayout offerId data) w).2.state.Clear offerId ↔
      Completes env w.clock data := by
  rw [exec_assemblePayout]
  cases answered : (env.answer w.clock (.assembleKeyspendPayoutPsbt data) :
      Except Error String) with
  | error e =>
      refine iff_of_false ?_ ?_
      · change ¬ w.state.Clear offerId
        rw [clear_iff found, set]
        decide
      · rintro ⟨⟨psbt, assembled⟩, -, -⟩
        cases answered.symm.trans assembled
  | ok psbt =>
      apply (clear_storePayoutPsbt (w := (w.ask env (.assembleKeyspendPayoutPsbt data)).2) psbt
        found set).trans
      exact ⟨fun ⟨stored, returned⟩ => ⟨⟨psbt, answered⟩, stored, returned⟩,
        fun ⟨_, stored, returned⟩ => ⟨stored, returned⟩⟩

/-- A poll of an offer that is not there changes nothing. -/
theorem clear_of_missing (missing : w.state.takenOffers.find? payload.offerIdHex = none) :
    (exec env (handleFinalPayout payload) w).2.state.Clear payload.offerIdHex := by
  have gone : w.state.AtOffer payload.offerIdHex fun _ => False := by
    intro row found
    cases missing.symm.trans found
  have stays : (handleFinalPayout payload : Act P RequestError _).Keeps
      (Preserving (Database.AtOffer payload.offerIdHex fun _ => False)) := by
    apply (writes_handleFinalPayout payload).mono
    intro before after served gone
    cases served with
    | reads => exact gone
    | writes permitted =>
        cases permitted with
        | toggleProcessing | storePayout => exact gone.updateTaken fun _ _ never => never
  intro row found
  exact (stays.exec_holds gone row found).elim

/-- A poll that does not toggle the flag changes nothing. -/
theorem state_of_not_toggles (found : w.state.takenOffers.find? payload.offerIdHex = some row)
    (keeps : ¬ TogglesFlag env w row) :
    (exec env (handleFinalPayout payload) w).2.state = w.state := by
  by_cases pays : PaysOut env w row
  · obtain ⟨data, payable⟩ := pays.payable
    rw [exec_pollSatisfied pays.satisfied pays.unfailing payable found]
    cases prepared : row.payoutTransactionPsbtHex with
    | some psbt => rfl
    | none => exact absurd ⟨pays, prepared⟩ keeps
  · exact (withholds_handleFinalPayout found pays).1

/-- A poll that toggles the flag. -/
theorem exec_of_toggles (found : w.state.takenOffers.find? payload.offerIdHex = some row)
    (toggles : TogglesFlag env w row) (payable : row.payoutData P = .ok data) :
    exec env (handleFinalPayout payload) w =
      exec env (if TakenOffer.toggle row.processing = 1 then assemblePayout payload.offerIdHex data
        else return .notReady)
        { w.later 4 with
          state := w.state.updateTaken payload.offerIdHex TakenOffer.toggleProcessing } := by
  obtain ⟨pays, missing⟩ := toggles
  rw [exec_pollSatisfied pays.satisfied pays.unfailing payable found, missing]
  dsimp only
  have toggled := exec_toggleProcessing (w := w.later 3) (pays.begins missing) found
  rw [beginPayout, exec_bind_of_ok env _ (exec_mapError_of_ok env _ toggled)]
  simp only [decide_eq_true_eq]
  rfl

theorem released_iff_of_toggles
    (found : w.state.takenOffers.find? payload.offerIdHex = some row)
    (toggles : TogglesFlag env w row) : Released env w payload ↔ Releases env w payload := by
  obtain ⟨data, payable⟩ := toggles.1.payable
  have ends := exec_of_toggles found toggles payable
  let toggled : World (coordinator P) := { w.later 4 with
    state := w.state.updateTaken payload.offerIdHex TakenOffer.toggleProcessing }
  by_cases clear : row.processing = 0
  · -- the poll sets the flag
    have set : TakenOffer.toggle row.processing = 1 := if_pos clear
    have there : toggled.state.takenOffers.find? payload.offerIdHex =
        some (TakenOffer.toggleProcessing.apply row) := by
      change Table.find? (w.state.takenOffers.update _ _) _ = _
      rw [Table.find?_update_self, found, Option.map_some]
    have clears := clear_assemblePayout env data there set
    rw [if_pos set] at ends
    constructor
    · rintro ⟨clearAfter, -⟩
      rw [ends] at clearAfter
      refine ⟨(clear_iff found).mpr clear, fun row' data' found' _ payable' => ?_⟩
      cases found.symm.trans found'
      cases payable.symm.trans payable'
      exact clears.mp clearAfter
    · rintro ⟨-, completes⟩
      constructor
      · rw [ends]
        exact clears.mpr (completes row data found toggles payable)
      · intro _ _ _
        rw [ends]
        obtain ⟨event, asked, query⟩ :=
          log_assemblePayout env toggled payload.offerIdHex data
        exact ⟨event, data, asked, query⟩
  · -- the poll clears a flag that it does not hold, and is refused
    have refused : TakenOffer.toggle row.processing ≠ 1 := by
      rw [TakenOffer.toggle, if_neg clear]
      decide
    rw [if_neg refused] at ends
    constructor
    · rintro ⟨-, assembles⟩
      obtain ⟨event, _, asked, -⟩ := assembles row found toggles
      rw [ends] at asked
      have longer := congrArg List.length asked
      rw [List.length_append] at longer
      exact absurd longer (Nat.ne_of_lt (Nat.lt_succ_self _))
    · rintro ⟨clear', -⟩
      exact absurd ((clear_iff found).mp clear') clear

/-- A poll gives the flag back iff it was clear before and the poll gets to the end once it has set
    it. -/
theorem released_iff (env : Environment (coordinator P)) (w : World (coordinator P))
    (payload : OfferTakenRequest) : Released env w payload ↔ Releases env w payload := by
  cases found : w.state.takenOffers.find? payload.offerIdHex with
  | none =>
      refine iff_of_true ⟨clear_of_missing found, ?_⟩ ⟨?_, ?_⟩
      · intro row there
        cases found.symm.trans there
      · intro row there
        cases found.symm.trans there
      · intro row data there
        cases found.symm.trans there
  | some row =>
      by_cases toggles : TogglesFlag env w row
      · exact released_iff_of_toggles found toggles
      · have same := state_of_not_toggles found toggles
        constructor
        · rintro ⟨clear, -⟩
          rw [same] at clear
          refine ⟨clear, fun row' data there toggles' => ?_⟩
          cases found.symm.trans there
          exact absurd toggles' toggles
        · rintro ⟨clear, -⟩
          refine ⟨by rwa [same], fun row' there toggles' => ?_⟩
          cases found.symm.trans there
          exact absurd toggles' toggles

/-- The property of a request that is about the offer. -/
def Request.Polled (offerId : String) (holds : OfferTakenRequest → Prop) : Request → Prop
  | .pollFinalPayout payload => payload.offerIdHex = offerId → holds payload
  | _ => True

/-- Requests that are served one after the other, from any state: every poll of the offer gives the
    flag back and has the transaction assembled if it toggles the flag, iff every poll finds the
    flag clear and gets to the end if it sets it. -/
theorem released_throughout_iff (env : Environment (coordinator P)) (w : World (coordinator P))
    (offerId : String) (requests : List Request) :
    Course.Throughout (serveAlone env) (fun w => Request.Polled offerId (Released env w)) w
        requests ↔
      Course.Throughout (serveAlone env) (fun w => Request.Polled offerId (Releases env w)) w
        requests := by
  apply Course.throughout_congr
  intro w request
  cases request with
  | pollFinalPayout payload => exact imp_congr Iff.rfl (released_iff env w payload)
  | _ => exact Iff.rfl

/-- A poll that sets the flag gets to the end. -/
def GetsThrough (env : Environment (coordinator P)) (w : World (coordinator P))
    (payload : OfferTakenRequest) : Prop :=
  ∀ row data, w.state.takenOffers.find? payload.offerIdHex = some row →
    TogglesFlag env w row → row.payoutData P = .ok data → Completes env (w.clock + 4) data

/-- No other request sets the flag, and a poll that gets to the end leaves it clear. -/
theorem clear_serveAlone {request : Request} (clear : w.state.Clear offerId)
    (through : request.Polled offerId (GetsThrough env w)) :
    (serveAlone env w request).state.Clear offerId := by
  by_cases polls : ∃ payload, request = .pollFinalPayout payload ∧ payload.offerIdHex = offerId
  · obtain ⟨payload, rfl, rfl⟩ := polls
    have serves : ((Request.pollFinalPayout payload).serve P).run env w =
        (.pollFinalPayout (exec env (handleFinalPayout payload) w).1,
          (exec env (handleFinalPayout payload) w).2) :=
      Program.run_bind env (handleFinalPayout (P := P) payload).run _ w
    rw [serveAlone, World.serve, serves]
    exact ((released_iff env w payload).mpr ⟨clear, through rfl⟩).clear
  · apply holds_serveAlone env _ clear
    intro before after served clear
    cases served with
    | reads => exact clear
    | writes permitted =>
        cases permitted with
        | createOffer | delistPending | activate | delist | punish => exact clear
        | take => exact Database.AtOffer.insertTaken clear fun _ => rfl
        | signEscrow isMaker | confirmObligation isMaker | complain isMaker | signPayout isMaker =>
            refine Database.AtOffer.updateTaken clear fun _ row kept => ?_
            cases isMaker <;> exact kept
        | openDispute | decide | storePayout =>
            exact Database.AtOffer.updateTaken clear fun _ _ kept => kept
        | @toggleProcessing payload =>
            refine Database.AtOffer.updateTaken clear fun about => ?_
            exact absurd ⟨payload, rfl, about⟩ polls
        | finish => exact Database.AtOffer.deleteTaken clear
        | confirmEscrow => exact Database.AtOffer.confirm clear fun _ kept => kept

/-- If the flag is clear at the start, the polls that set it only have to get to the end. -/
theorem released_throughout_of_clear (clear : w.state.Clear offerId) {requests : List Request}
    (through : Course.Throughout (serveAlone env)
      (fun w => Request.Polled offerId (GetsThrough env w)) w requests) :
    Course.Throughout (serveAlone env) (fun w => Request.Polled offerId (Released env w)) w
      requests := by
  rw [released_throughout_iff]
  apply Course.throughout_of_invariant (fun w : World (coordinator P) => w.state.Clear offerId)
    (fun w request clear through => clear_serveAlone clear through) _ clear through
  intro w request clear through
  cases request with
  | pollFinalPayout payload =>
      rintro rfl
      exact ⟨clear, through rfl⟩
  | _ => exact through

end Release

namespace Sample

/-- The node cannot assemble a payout transaction. -/
def unassembled : Environment (coordinator .sample) where
  answer _
    | .assembleKeyspendPayoutPsbt _ => .error (.library "estimate_fee")
    | query => answer query
  fault _ := none

end Sample

/-- The poll of the maker fails and leaves the flag set, and the poll of the taker after it is
    refused. -/
theorem flag_not_released :
    ¬ Released Sample.unassembled Sample.satisfied Sample.makerPoll ∧
      (Call.exec Sample.unassembled (handleFinalPayout Sample.takerPoll)
        (serveAlone Sample.unassembled Sample.satisfied (.pollFinalPayout Sample.makerPoll))).1 =
          .ok .notReady := by
  refine ⟨fun released => ?_, by decide +kernel⟩
  have set : ¬ (Call.exec Sample.unassembled (handleFinalPayout Sample.makerPoll)
      Sample.satisfied).2.state.Clear Sample.offerId := by
    unfold Database.Clear
    decide +kernel
  exact set released.clear

end TapTrade
