import Mathlib.Data.Fintype.Basic
import TapTrade.Model.Sample
import TapTrade.Payout.Polls

/-! # One payout transaction

Between the read that finds no payout transaction and the toggle of the processing flag
another poll can store one and give the flag back; the late poll then sets the flag again,
assembles a second transaction and overwrites the first. As long as every poll that sets the
flag finds no transaction stored and nobody at work on one, all answers carry the same
transaction, and it is the one that the partial signatures are aggregated for.
-/

namespace TapTrade

open Relational Resumption

section Agreement

variable {P : Platform} {ι : Type} {offerId : String}

/-- The request is a poll for the payout of the offer. -/
def Request.Polls (offerId : String) : Request → Prop
  | .pollFinalPayout payload => payload.offerIdHex = offerId
  | _ => False

instance (offerId : String) : DecidablePred (Request.Polls offerId)
  | .pollFinalPayout payload => inferInstanceAs (Decidable (payload.offerIdHex = offerId))
  | .createOffer _ | .submitMakerBond _ | .fetchAvailableOffers _ | .submitTakerBond _
  | .requestOfferStatus _ | .submitEscrowPsbt _ | .pollEscrowConfirmation _
  | .submitObligationConfirmation _ | .requestEscrow _ | .submitPayoutSignature _
  | .monitorBonds | .updateTransactionConfirmations | .escrowCliLoop => .isFalse nofun

/-- How far the payout of the offer has got: nobody has begun, one poll has set the flag, or
    a transaction is stored. -/
inductive Stage (ι : Type) where
  | free
  | held (holder : ι)
  | settled (psbt : String)

def Stage.psbt : Stage ι → Option String
  | .settled psbt => some psbt
  | _ => none

/-- The payout transaction of the offer is the one of the stage. -/
def Database.Stores (offerId : String) (stage : Stage ι) : Database → Prop :=
  AtOffer offerId fun row => row.payoutTransactionPsbtHex = stage.psbt

/-- Where a poll of the offer stands that has made `n` operations. -/
inductive Phase (offerId : String) (stage : Stage ι) (i : ι) :
    Nat → Program (coordinator P) Reply → Prop
  | starting {payload : OfferTakenRequest} (same : payload.offerIdHex = offerId) :
      Phase offerId stage i 0 ((Request.pollFinalPayout payload).serve P)
  | deciding (payload : OfferTakenRequest) :
      Phase offerId stage i 1 (answering (disputeResult payload))
  | reading : Phase offerId stage i 1 (answering (keyspendPayout offerId))
  | looking {p : Program (coordinator P) Reply} (looking : Looking offerId p) :
      Phase offerId stage i 2 p
  | toggling (data : PayoutData P) : Phase offerId stage i 3 (answering (beginPayout offerId data))
  | assembling (data : PayoutData P) (holds : stage = .held i) :
      Phase offerId stage i 4 (answering (assemblePayout offerId data))
  | storing (data : PayoutData P) (psbt : String) (holds : stage = .held i) :
      Phase offerId stage i 5 (answering (storePayoutPsbt offerId data psbt))
  | returning {psbt : String} {p : Program (coordinator P) Reply} (settled : stage = .settled psbt)
      (returning : Returning offerId psbt p) : Phase offerId stage i 6 p
  | refused {n : Nat} {p : Program (coordinator P) Reply} (unready : Unready p) :
      Phase offerId stage i n p
  | answered {n : Nat} {psbt : String} {reply : Reply} (settled : stage = .settled psbt)
      (ready : reply.payoutPsbt = some psbt) : Phase offerId stage i n (.done reply)

/-- A step of a poll: the stage that it leads to. Only the holder of the flag leads to another
    one, or a poll that takes the flag while the others are idle. -/
structure Moves (offerId : String) (idle : Prop) (stage stage' : Stage ι) (i : ι) (n : Nat)
    (after : Database) (p : Program (coordinator P) Reply) : Prop where
  settled : ∀ psbt, stage = .settled psbt → stage' = .settled psbt
  stores : after.Stores offerId stage'
  phase : Phase offerId stage' i n p
  change : stage' = stage ∨ stage = .held i ∨ idle

/-- A step that leads to no other stage. -/
theorem Moves.same {idle : Prop} {stage : Stage ι} {i : ι} {n : Nat} {after : Database}
    {p : Program (coordinator P) Reply} (stores : after.Stores offerId stage)
    (phase : Phase offerId stage i n p) : Moves offerId idle stage stage i n after p :=
  ⟨fun _ settled => settled, stores, phase, .inl rfl⟩

theorem Database.Stores.toggle {stage : Stage ι} {db : Database}
    (stores : db.Stores offerId stage) :
    (toggling offerId db).2.Stores offerId stage :=
  AtOffer.updateTaken stores fun _ _ same => same

theorem Stage.settled_of_psbt {stage : Stage ι} {psbt : String} (same : stage.psbt = some psbt) :
    stage = .settled psbt := by
  cases stage with
  | settled stored =>
      cases same
      rfl
  | _ => cases same

variable {idle : Prop} {stage : Stage ι} {i : ι} {n : Nat} {env : Environment (coordinator P)}
  {w : World (coordinator P)}

/-- A step of the program leads to some stage. -/
abbrev Leads (offerId : String) (idle : Prop) (stage : Stage ι) (i : ι) (n : Nat)
    (env : Environment (coordinator P)) (w : World (coordinator P))
    (p : Program (coordinator P) Reply) : Prop :=
  ∃ stage', Moves offerId idle stage stage' i n (p.step env w).2.state (p.step env w).1

theorem Unready.leads {p : Program (coordinator P) Reply} (unready : Unready p)
    (stores : w.state.Stores offerId stage) : Leads offerId idle stage i n env w p := by
  obtain ⟨reply, rfl, silent⟩ := unready
  exact ⟨stage, .same stores (.refused ⟨reply, rfl, silent⟩)⟩

/-- The third operation: the answer is the stored transaction, or the poll goes on. -/
theorem Looking.leads {p : Program (coordinator P) Reply} (looking : Looking offerId p)
    (stores : w.state.Stores offerId stage) : Leads offerId idle stage i 3 env w p := by
  obtain ⟨next, rfl, fails, missing, finds⟩ := looking.next
  refine ⟨stage, ?_⟩
  apply Program.step_statement (motive := fun p after => Moves offerId idle stage stage i 3 after p)
  · exact fun fault => .same stores (.refused (fails fault))
  · refine .same stores ?_
    dsimp only
    cases found : w.state.takenOffers.find? offerId with
    | none => exact .refused missing
    | some row =>
        rcases finds row with ⟨psbt, reply, stored, ends, ready⟩ | ⟨data, -, goesOn⟩
        · rw [ends]
          exact .answered (Stage.settled_of_psbt ((stores row found).symm.trans stored)) ready
        · rw [goesOn]
          exact .toggling data

/-- The fourth operation: the poll that sets the flag holds it, if no transaction is stored. -/
theorem leads_beginPayout (data : PayoutData P) (stores : w.state.Stores offerId stage)
    (exclusive : ∀ row, w.state.takenOffers.find? offerId = some row → row.processing = 0 →
      row.payoutTransactionPsbtHex = none ∧ idle) :
    Leads offerId idle stage i 4 env w (answering (beginPayout offerId data)) := by
  obtain ⟨next, view, fails, missing, goesOn, refused⟩ :=
    answering_beginPayout (P := P) offerId data
  rw [Leads, view]
  apply Program.step_statement
    (motive := fun p after => ∃ stage', Moves offerId idle stage stage' i 4 after p)
  · exact fun fault => ⟨stage, .same stores (.refused (fails fault))⟩
  · cases found : w.state.takenOffers.find? offerId with
    | none =>
        refine ⟨stage, .same stores.toggle ?_⟩
        simp only [toggling, found, Option.map_none]
        exact .refused missing
    | some row =>
        simp only [toggling, found, Option.map_some]
        by_cases clear : row.processing = 0
        · obtain ⟨missing, idle⟩ := exclusive row found clear
          have noPsbt : stage.psbt = none := (stores row found).symm.trans missing
          refine ⟨.held i, ?_, ?_, ?_, .inr (.inr idle)⟩
          · rintro psbt rfl
            cases noPsbt
          · have toggled := stores.toggle
            rwa [Database.Stores, noPsbt] at toggled
          · rw [TakenOffer.toggle, if_pos clear, goesOn]
            exact .assembling data rfl
        · refine ⟨stage, .same stores.toggle (.refused (refused _ ?_))⟩
          rw [TakenOffer.toggle, if_neg clear]
          decide

/-- The fifth operation assembles a transaction. -/
theorem leads_assemblePayout (data : PayoutData P) (stores : w.state.Stores offerId stage)
    (holds : stage = .held i) :
    Leads offerId idle stage i 5 env w (answering (assemblePayout offerId data)) := by
  obtain ⟨next, view, answers⟩ := answering_assemblePayout (P := P) offerId data
  rw [Leads, view]
  refine ⟨stage, .same stores ?_⟩
  rcases answers (w.ask env _).1 with unready | ⟨psbt, goesOn⟩
  · exact .refused unready
  · rw [Program.step, goesOn]
    exact .storing data psbt holds

/-- The sixth operation stores it. -/
theorem leads_storePayoutPsbt (data : PayoutData P) (psbt : String)
    (stores : w.state.Stores offerId stage) (holds : stage = .held i) :
    Leads offerId idle stage i 6 env w (answering (storePayoutPsbt offerId data psbt)) := by
  obtain ⟨next, view, fails, goesOn⟩ := answering_storePayoutPsbt (P := P) offerId data psbt
  rw [Leads, view]
  apply Program.step_statement
    (motive := fun p after => ∃ stage', Moves offerId idle stage stage' i 6 after p)
  · exact fun fault => ⟨stage, .same stores (.refused (fails fault))⟩
  · refine ⟨.settled psbt, ?_, ?_, .returning rfl goesOn, .inr (.inl holds)⟩
    · rintro _ rfl
      cases holds
    · intro row found
      simp only [Database.updateTaken, Table.find?_update_self] at found
      obtain ⟨old, -, rfl⟩ := Option.map_eq_some_iff.mp found
      rfl

/-- The last operation gives the flag back. -/
theorem Returning.leads {psbt : String} {p : Program (coordinator P) Reply}
    (returning : Returning offerId psbt p) (stores : w.state.Stores offerId stage)
    (settled : stage = .settled psbt) : Leads offerId idle stage i n env w p := by
  obtain ⟨next, rfl, fails, missing, ends⟩ := returning.next
  refine ⟨stage, ?_⟩
  apply Program.step_statement (motive := fun p after => Moves offerId idle stage stage i n after p)
  · exact fun fault => .same stores (.refused (fails fault))
  · refine .same stores.toggle ?_
    cases found : (toggling offerId w.state).1 with
    | none => exact .refused missing
    | some flag =>
        obtain ⟨reply, done, ready⟩ := ends flag
        rw [done]
        exact .answered settled ready

/-- A statement that only reads leads to what may follow it. -/
theorem leads_read {β : Type} {read : Database → β}
    {next : Except Unit β → Program (coordinator P) Reply} (stores : w.state.Stores offerId stage)
    (phase : ∀ result, Phase offerId stage i n (next result)) :
    Leads offerId idle stage i n env w (.statement (fun db => (read db, db)) next) :=
  ⟨stage, Program.step_statement
    (motive := fun p after => Moves offerId idle stage stage i n after p)
    (fun _ => .same stores (phase _)) (.same stores (phase _))⟩

/-- One operation of a poll. -/
theorem Phase.step {p : Program (coordinator P) Reply} (phase : Phase offerId stage i n p)
    (env : Environment (coordinator P)) (stores : w.state.Stores offerId stage)
    (exclusive : p.ended = false → n = 3 → ∀ row, w.state.takenOffers.find? offerId = some row →
      row.processing = 0 → row.payoutTransactionPsbtHex = none ∧ idle) :
    Leads offerId idle stage i (if p.ended then n else n + 1) env w p := by
  cases phase with
  | @starting payload same =>
      obtain ⟨next, view, goesOn⟩ := serve_pollFinalPayout (P := P) payload
      rw [view]
      apply leads_read stores
      intro result
      rcases goesOn result with unready | deciding | reading
      · exact .refused unready
      · exact deciding ▸ .deciding payload
      · rw [reading, same]
        exact .reading
  | deciding payload =>
      obtain ⟨next, view, ends⟩ := answering_disputeResult (P := P) payload
      rw [view]
      exact leads_read stores fun result => .refused (ends result)
  | reading =>
      obtain ⟨next, view, goesOn⟩ := answering_keyspendPayout (P := P) offerId
      rw [view]
      apply leads_read stores
      intro result
      rcases goesOn result with unready | looking
      · exact .refused unready
      · exact .looking looking
  | looking looking =>
      obtain ⟨next, rfl, -⟩ := looking.next
      exact looking.leads stores
  | toggling data => exact leads_beginPayout data stores (exclusive rfl rfl)
  | assembling data holds => exact leads_assemblePayout data stores holds
  | storing data psbt holds => exact leads_storePayoutPsbt data psbt stores holds
  | returning settled returning => exact returning.leads stores settled
  | refused unready => exact unready.leads stores
  | answered settled ready => exact ⟨stage, .same stores (.answered settled ready)⟩

/-- A call that assembles or stores a transaction. -/
def Holds (requests : ι → Request) (offerId : String) (pool : Pool (coordinator P) ι Reply)
    (i : ι) : Prop :=
  (requests i).Polls offerId ∧ (pool.About i 4 ∨ pool.About i 5)

instance (requests : ι → Request) (offerId : String) (pool : Pool (coordinator P) ι Reply) :
    DecidablePred (Holds requests offerId pool) :=
  fun _ => inferInstanceAs (Decidable (_ ∧ _))

/-- Nothing is lost when another call leads to the next stage. -/
theorem Phase.later {stage' : Stage ι} {p : Program (coordinator P) Reply}
    (phase : Phase offerId stage i n p)
    (settled : ∀ psbt, stage = .settled psbt → stage' = .settled psbt)
    (idle : stage = .held i → p.ended = false → n ≠ 4 ∧ n ≠ 5) : Phase offerId stage' i n p := by
  cases phase with
  | starting same => exact .starting same
  | deciding payload => exact .deciding payload
  | reading => exact .reading
  | looking looking => exact .looking looking
  | toggling data => exact .toggling data
  | assembling data holds => exact absurd rfl (idle holds rfl).1
  | storing data psbt holds => exact absurd rfl (idle holds rfl).2
  | returning done returning => exact .returning (settled _ done) returning
  | refused unready => exact .refused unready
  | answered done ready => exact .answered (settled _ done) ready

/-- An answer with a transaction has come from the stored one. -/
theorem Phase.settled {p : Program (coordinator P) Reply} {psbt : String}
    (phase : Phase offerId stage i n p) (ready : p.result?.bind Reply.payoutPsbt = some psbt) :
    stage = .settled psbt := by
  cases phase with
  | starting | deciding | reading | toggling | assembling | storing => cases ready
  | looking looking =>
      obtain ⟨next, rfl, -⟩ := looking.next
      cases ready
  | returning done returning =>
      obtain ⟨next, rfl, -⟩ := returning.next
      cases ready
  | refused unready =>
      obtain ⟨reply, rfl, silent⟩ := unready
      cases silent.symm.trans ready
  | answered done ready' =>
      cases ready'.symm.trans ready
      exact done

/-- Other requests leave the payout transaction of the offer alone. -/
theorem Database.Stores.served {request : Request} {before after : Database}
    (stores : before.Stores offerId stage) (other : ¬ request.Polls offerId)
    (keeps : request.KeepsOffer offerId) (served : Served request before after) :
    after.Stores offerId stage := by
  cases served with
  | reads => exact stores
  | writes permitted =>
      cases permitted with
      | createOffer | delistPending | activate | delist | punish => exact stores
      | take offer robohash escrow same =>
          exact AtOffer.insertTaken stores fun about => absurd (same.symm.trans about) keeps
      | signEscrow isMaker | confirmObligation isMaker | complain isMaker | signPayout isMaker =>
          refine AtOffer.updateTaken stores fun _ row stored => ?_
          cases isMaker <;> exact stored
      | openDispute | toggleProcessing | decide =>
          exact AtOffer.updateTaken stores fun _ _ stored => stored
      | storePayout psbt => exact AtOffer.updateTaken stores fun about => absurd about other
      | finish => exact AtOffer.deleteTaken stores
      | confirmEscrow txid => exact AtOffer.confirm stores fun _ stored => stored

variable [DecidableEq ι] {requests : ι → Request} {pool : Pool (coordinator P) ι Reply}

/-- All polls agree on the stage of the payout, and so does what has been stored so far. -/
structure Agreeing (offerId : String) (requests : ι → Request) (stage : Stage ι)
    (pool : Pool (coordinator P) ι Reply) : Prop where
  stores : pool.world.state.Stores offerId stage
  seen : ∀ j, ∀ db ∈ pool.past j, db.AtOffer offerId fun row =>
    row.payoutTransactionPsbtHex = none ∨ row.payoutTransactionPsbtHex = stage.psbt
  polls : ∀ j, (requests j).Polls offerId →
    Phase offerId stage j (pool.past j).length (pool.calls j)
  keeps : ∀ j, (pool.calls j).Keeps (Database.Served (requests j))

/-- A poll that is about to set the flag finds no transaction stored and no other poll at
    work on one. -/
def Exclusive (offerId : String) (requests : ι → Request) (pool : Pool (coordinator P) ι Reply)
    (i : ι) : Prop :=
  (requests i).Polls offerId → pool.About i 3 →
    ∀ row ∈ pool.world.state.takenOffers.find? offerId, row.processing = 0 →
      row.payoutTransactionPsbtHex = none ∧ ∀ j, ¬ Holds requests offerId pool j

omit [DecidableEq ι] in
/-- What was seen at an earlier stage is none but what is stored at a later one. -/
theorem Stage.psbt_later {stage' : Stage ι} {stored : Option String}
    (settled : ∀ psbt, stage = .settled psbt → stage' = .settled psbt)
    (earlier : stored = none ∨ stored = stage.psbt) : stored = none ∨ stored = stage'.psbt := by
  rcases earlier with missing | same
  · exact .inl missing
  · cases stage with
    | settled psbt =>
        rw [settled psbt rfl]
        exact .inr same
    | _ => exact .inl same

/-- A step of a request that is no poll of the offer. -/
theorem Agreeing.step_other (agreeing : Agreeing offerId requests stage pool)
    (keeps : (requests i).KeepsOffer offerId) (other : ¬ (requests i).Polls offerId) :
    Agreeing offerId requests stage (pool.step env i) := by
  have served : Database.Served (requests i) pool.world.state (pool.step env i).world.state :=
    (agreeing.keeps i).step_state env pool.world
  refine ⟨agreeing.stores.served other keeps served, ?_, ?_, Pool.keeps_step agreeing.keeps env i⟩
  · exact Pool.forall_past_step agreeing.seen fun row found => .inr (agreeing.stores row found)
  · apply Pool.forall_step fun j n p => (requests j).Polls offerId → Phase offerId stage j n p
    · exact fun j _ => agreeing.polls j
    · exact fun polls => absurd polls other

/-- A step of a poll of the offer. -/
theorem Agreeing.step_poll (agreeing : Agreeing offerId requests stage pool)
    (polls : (requests i).Polls offerId) (exclusive : Exclusive offerId requests pool i) :
    ∃ stage', Agreeing offerId requests stage' (pool.step env i) := by
  obtain ⟨stage', moves⟩ := (agreeing.polls i polls).step env agreeing.stores
    fun going now row found clear => exclusive polls ⟨going, now⟩ row found clear
  refine ⟨stage', moves.stores, ?_, ?_, Pool.keeps_step agreeing.keeps env i⟩
  · apply Pool.forall_past_step
    · exact fun j db member row found =>
        Stage.psbt_later moves.settled (agreeing.seen j db member row found)
    · exact fun row found => Stage.psbt_later moves.settled (.inr (agreeing.stores row found))
  · apply Pool.forall_step fun j n p => (requests j).Polls offerId → Phase offerId stage' j n p
    · intro j other polls'
      have phase := agreeing.polls j polls'
      rcases moves.change with rfl | held | idle
      · exact phase
      · apply phase.later moves.settled
        intro holder
        cases held.symm.trans holder
        exact absurd rfl other
      · apply phase.later moves.settled
        intro _ going
        exact ⟨fun now => idle j ⟨polls', .inl ⟨going, now⟩⟩,
          fun now => idle j ⟨polls', .inr ⟨going, now⟩⟩⟩
    · exact fun _ => moves.phase

theorem Agreeing.step (agreeing : Agreeing offerId requests stage pool)
    (keeps : (requests i).KeepsOffer offerId) (exclusive : Exclusive offerId requests pool i) :
    ∃ stage', Agreeing offerId requests stage' (pool.step env i) := by
  by_cases polls : (requests i).Polls offerId
  · exact agreeing.step_poll polls exclusive
  · exact ⟨stage, agreeing.step_other keeps polls⟩

omit [DecidableEq ι] in
/-- Before any call has acted, what is stored is agreed on. -/
theorem Agreeing.start (w : World (coordinator P)) :
    ∃ stage, Agreeing offerId requests stage (Pool.start w fun i => (requests i).serve P) := by
  have phase (stage : Stage ι) (j : ι) (polls : (requests j).Polls offerId) :
      Phase offerId stage j 0 ((requests j).serve P) := by
    cases request : requests j with
    | pollFinalPayout payload =>
        rw [request] at polls
        exact .starting polls
    | _ =>
        rw [request] at polls
        exact polls.elim
  have starts (stage : Stage ι) (stores : w.state.Stores offerId stage) :
      Agreeing offerId requests stage (Pool.start w fun i => (requests i).serve P) :=
    ⟨stores, nofun, phase stage, fun j => writes_serve P (requests j)⟩
  cases found : w.state.takenOffers.find? offerId with
  | none =>
      refine ⟨.free, starts _ fun row found' => ?_⟩
      cases found.symm.trans found'
  | some row =>
      cases stored : row.payoutTransactionPsbtHex with
      | none =>
          refine ⟨.free, starts _ fun row' found' => ?_⟩
          cases found.symm.trans found'
          exact stored
      | some psbt =>
          refine ⟨.settled psbt, starts _ fun row' found' => ?_⟩
          cases found.symm.trans found'
          exact stored

/-- The poll of the offer has been answered with this payout transaction. -/
def Answered (offerId : String) (requests : ι → Request) (pool : Pool (coordinator P) ι Reply)
    (i : ι) (psbt : String) : Prop :=
  (requests i).Polls offerId ∧ (pool.calls i).result?.bind Reply.payoutPsbt = some psbt

omit [DecidableEq ι] in
instance (pool : Pool (coordinator P) ι Reply) (i : ι) (psbt : String) :
    Decidable (Answered offerId requests pool i psbt) := inferInstanceAs (Decidable (_ ∧ _))

/-- All answers carry the same payout transaction, and whenever a call has found the partial
    signatures to aggregate, that transaction was stored. -/
structure SamePayout (offerId : String) (requests : ι → Request)
    (pool : Pool (coordinator P) ι Reply) : Prop where
  answers : ∀ i j psbt psbt', Answered offerId requests pool i psbt →
    Answered offerId requests pool j psbt' → psbt = psbt'
  aggregated : ∀ i psbt, Answered offerId requests pool i psbt → ∀ j, ∀ db ∈ pool.past j,
    ∀ row context, db.takenOffers.find? offerId = some row →
      row.keyspendContext P = .ok (some context) → row.payoutTransactionPsbtHex = some psbt

omit [DecidableEq ι] in
theorem Agreeing.samePayout (noPsbt : P.psbtDeserialize [] = none)
    (agreeing : Agreeing offerId requests stage pool) : SamePayout offerId requests pool := by
  have settled (i : ι) (psbt : String) (answered : Answered offerId requests pool i psbt) :
      stage = .settled psbt := by
    obtain ⟨polls, ready⟩ := answered
    exact (agreeing.polls i polls).settled ready
  constructor
  · intro i j psbt psbt' first second
    cases (settled i psbt first).symm.trans (settled j psbt' second)
    rfl
  · intro i psbt answered j db member row context found read
    rcases agreeing.seen j db member row found with missing | stored
    · exact absurd missing (prepared_of_keyspendContext noPsbt read)
    · rw [stored, settled i psbt answered]
      rfl

/-- Every interleaving of any number of polls of an offer and of other requests that do not
    take it anew: if every poll that sets the processing flag finds no transaction stored and
    no other poll at work on one, then there is one payout transaction. -/
theorem samePayout_play (env : Environment (coordinator P)) (noPsbt : P.psbtDeserialize [] = none)
    (w : World (coordinator P)) (keeps : ∀ i, (requests i).KeepsOffer offerId) {schedule : List ι}
    (exclusive : Course.Throughout (Pool.step env) (Exclusive offerId requests)
      (Pool.start w fun i => (requests i).serve P) schedule) :
    SamePayout offerId requests
      ((Pool.start w fun i => (requests i).serve P).play env schedule) := by
  have kept := Course.invariant_foldl (fun pool => ∃ stage, Agreeing offerId requests stage pool)
    (fun pool i ⟨stage, agreeing⟩ met => agreeing.step (keeps i) met) (Agreeing.start w) exclusive
  obtain ⟨stage, agreeing⟩ := kept
  exact agreeing.samePayout noPsbt

instance [Fintype ι] (pool : Pool (coordinator P) ι Reply) :
    DecidablePred (Exclusive offerId requests pool) :=
  fun _ => inferInstanceAs (Decidable (_ → _ → _))

end Agreement

namespace Sample

/-- Polls and signatures of both traders. -/
def closing : Fin 5 → Request
  | 0 => .pollFinalPayout makerPoll
  | 1 => .pollFinalPayout takerPoll
  | 2 => .pollFinalPayout takerPoll
  | 3 => .submitPayoutSignature makerSignature
  | 4 => .submitPayoutSignature takerSignature

theorem closing_keepsOffer : ∀ i, (closing i).KeepsOffer offerId
  | 0 | 1 | 2 | 3 | 4 => trivial

/-- A transaction that is assembled later is another one. -/
def volatile : Environment (coordinator .sample) where
  answer tick
    | .assembleKeyspendPayoutPsbt _ => .ok (if tick < 40 then "70736274ff01" else "70736274ff02")
    | query => answer query
  fault _ := none

/-- Both traders are satisfied and nobody has polled yet. -/
def satisfied : World (coordinator .sample) :=
  runAlone environment (escrowed ++
    [.submitObligationConfirmation makerPoll, .submitObligationConfirmation takerPoll])

def closingPool : Pool (coordinator .sample) (Fin 5) Reply :=
  Pool.start satisfied fun i => (closing i).serve .sample

end Sample

/-- The taker polls while the poll of the maker assembles the transaction, and again after it
    was stored; then both traders sign. -/
theorem samePayout_play_sample : SamePayout Sample.offerId Sample.closing
    (Sample.closingPool.play Sample.volatile
      ([0, 0, 0, 0, 0, 1, 1, 1, 1, 0, 0, 2, 2, 2] ++ List.replicate 6 3 ++ List.replicate 8 4)) :=
  samePayout_play Sample.volatile rfl _ Sample.closing_keepsOffer (by decide +kernel)

/-- The poll of the taker reads that nothing is stored before the poll of the maker sets the
    flag, and sets it after the maker's poll has given it back. -/
theorem two_payouts_assembled : ¬ SamePayout Sample.offerId Sample.closing
    (Sample.closingPool.play Sample.volatile [0, 0, 0, 1, 1, 1, 0, 0, 0, 0, 1, 1, 1, 1]) := by
  intro same
  have maker : Answered Sample.offerId Sample.closing (Sample.closingPool.play Sample.volatile
      [0, 0, 0, 1, 1, 1, 0, 0, 0, 0, 1, 1, 1, 1]) 0 "70736274ff01" := by
    decide +kernel
  have taker : Answered Sample.offerId Sample.closing (Sample.closingPool.play Sample.volatile
      [0, 0, 0, 1, 1, 1, 0, 0, 0, 0, 1, 1, 1, 1]) 1 "70736274ff02" := by
    decide +kernel
  exact absurd (same.answers 0 1 _ _ maker taker) (by decide)

end TapTrade
