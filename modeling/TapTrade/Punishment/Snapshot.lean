import TapTrade.Punishment.Round
import TapTrade.Resumption.Questions
import TapTrade.Resumption.Staging
import TapTrade.Taking.Rivalry

/-! # Punishment by an old snapshot

A round of the bond monitoring validates the bonds that it found in the order book when it
began, and publishes those that are flagged one after the other, without another look at the
order book. An offer that is taken meanwhile is deleted from there, and the inputs of its bond
are spent by its own escrow transaction. As long as no take deletes an offer that the current
round still holds, a bond is only published while its offer is listed.
-/

namespace TapTrade

open Relational Resumption

section Stages

variable {P : Platform}

/-- How far the monitoring loop has got, with the number of rounds after the present one. -/
inductive MonitorStage where
  | fetching (rounds : Nat)
  | validating (rounds : Nat) (bonds : List MonitoringBond)
  | visiting (rounds : Nat) (bond : MonitoringBond) (error : Error)
      (validationResults : List (MonitoringBond × Error))
  | publishing (rounds : Nat) (bond : MonitoringBond)
      (validationResults : List (MonitoringBond × Error))
  | removing (rounds : Nat) (bond : MonitoringBond) (orderbook : bond.table = .orderbook)
      (validationResults : List (MonitoringBond × Error))
  | ended

namespace MonitorStage

/-- The stage at which so many rounds begin. -/
def beginning : Nat → MonitorStage
  | 0 => ended
  | rounds + 1 => fetching rounds

/-- The stage at which the loop turns to the bonds that are left. -/
def visit (rounds : Nat) : List (MonitoringBond × Error) → MonitorStage
  | [] => beginning rounds
  | (bond, error) :: validationResults => visiting rounds bond error validationResults

/-- The bonds that the present round may still publish. -/
def held : MonitorStage → List MonitoringBond
  | validating _ bonds => bonds
  | visiting _ bond _ validationResults | publishing _ bond validationResults =>
      bond :: validationResults.map Prod.fst
  | removing _ _ _ validationResults => validationResults.map Prod.fst
  | fetching _ | ended => []

/-- The bonds of the round whose offers it has not deleted. -/
def pending : MonitorStage → List MonitoringBond
  | removing _ bond _ validationResults => bond :: validationResults.map Prod.fst
  | stage => stage.held

/-- The bonds that were flagged and that the round has not published. -/
def flagged : MonitorStage → List MonitoringBond
  | validating _ _ => []
  | stage => stage.held

/-- A round that has that much left to do, and the rounds after it. -/
def continuing (rounds : Nat) (rest : Act P Error Unit) : Program (coordinator P) Reply :=
  rest.run.bind fun _ => monitorLoop rounds

/-- What is left to do at a stage. -/
def program : MonitorStage → Program (coordinator P) Reply
  | fetching rounds => continuing rounds monitorBonds
  | validating rounds bonds => continuing rounds do
      punishViolations (← tryAsk (.validateBonds bonds) id)
  | visiting rounds bond error validationResults =>
      continuing rounds (punishViolations ((bond, error) :: validationResults))
  | publishing rounds bond validationResults => continuing rounds do
      bond.punish
      punishViolations validationResults
  | removing rounds bond _ validationResults => continuing rounds do
      Call.mapError (.context "Error removing violating bond from db") (removeViolatingBond bond)
      punishViolations validationResults
  | ended => .done (.background (.ok ()))

variable (env : Environment (coordinator P)) (w : World (coordinator P))

/-- The stage after the next operation. -/
def advance : MonitorStage → MonitorStage
  | fetching rounds =>
      match env.fault w.clock with
      | some _ => beginning rounds
      | none =>
          let bonds := w.state.activeMakerOffers.rows.map ActiveMakerOffer.monitoringBond
          if bonds.isEmpty then beginning rounds else validating rounds bonds
  | validating rounds bonds =>
      match env.answer w.clock (.validateBonds bonds) with
      | .error _ => beginning rounds
      | .ok validationResults => visit rounds validationResults
  | visiting rounds bond _ validationResults =>
      match (env.answer w.clock .punishmentEnabled).getD "0" with
      | "1" => publishing rounds bond validationResults
      | "0" => visit rounds validationResults
      | _ => beginning rounds
  | publishing rounds bond validationResults =>
      match env.answer w.clock (.publishBondTxHex bond.bondTxHex) with
      | .error _ => beginning rounds
      | .ok _ =>
          if orderbook : bond.table = .orderbook then
            removing rounds bond orderbook validationResults
          else beginning rounds
  | removing rounds _ _ validationResults =>
      match env.fault w.clock with
      | some _ => beginning rounds
      | none => visit rounds validationResults
  | ended => ended

/-- The world after the next operation. -/
def after : MonitorStage → World (coordinator P)
  | fetching _ => World.tick w
  | validating _ bonds => (w.ask env (.validateBonds bonds)).2
  | visiting .. => (w.ask env .punishmentEnabled).2
  | publishing _ bond _ => (w.ask env (.publishBondTxHex bond.bondTxHex)).2
  | removing _ bond _ _ => (w.exec env fun db => ((), db.deleteActive bond.tradeIdHex)).2
  | ended => w

theorem program_beginning (rounds : Nat) :
    (beginning rounds).program = monitorLoop (P := P) rounds := by
  cases rounds <;> rfl

theorem program_visit (rounds : Nat) (validationResults : List (MonitoringBond × Error)) :
    (visit rounds validationResults).program =
      continuing (P := P) rounds (punishViolations validationResults) := by
  cases validationResults with
  | nil => exact program_beginning rounds
  | cons violation validationResults => rfl

theorem program_fetching (rounds : Nat) : program (P := P) (.fetching rounds) =
    .statement (fun db => (db.activeMakerOffers.rows, db)) fun result =>
      program (match result with
        | .error _ => beginning rounds
        | .ok rows =>
            let bonds := rows.map ActiveMakerOffer.monitoringBond
            if bonds.isEmpty then beginning rounds else validating rounds bonds) := by
  apply Program.statement_congr
  intro result
  cases result with
  | error fault => exact (program_beginning rounds).symm
  | ok rows =>
      change continuing rounds (if (rows.map ActiveMakerOffer.monitoringBond).isEmpty
        then pure () else tryAsk (.validateBonds _) id >>= punishViolations) = _
      dsimp only
      split
      · exact (program_beginning rounds).symm
      · rfl

theorem program_validating (rounds : Nat) (bonds : List MonitoringBond) :
    program (P := P) (.validating rounds bonds) = .ask (.validateBonds bonds) fun answer =>
      program (match answer with
        | .error _ => beginning rounds
        | .ok validationResults => visit rounds validationResults) := by
  apply Program.ask_congr
  intro answer
  cases answer with
  | error e => exact (program_beginning rounds).symm
  | ok validationResults => exact (program_visit rounds validationResults).symm

theorem program_visiting (rounds : Nat) (bond : MonitoringBond) (error : Error)
    (validationResults : List (MonitoringBond × Error)) :
    program (P := P) (.visiting rounds bond error validationResults) =
      .ask .punishmentEnabled fun enabled =>
        program (match enabled.getD "0" with
          | "1" => publishing rounds bond validationResults
          | "0" => visit rounds validationResults
          | _ => beginning rounds) := by
  apply Program.ask_congr
  intro enabled
  change continuing rounds (match enabled.getD "0" with
    | "1" => do
        bond.punish
        punishViolations validationResults
    | "0" => punishViolations validationResults
    | _ => Call.fail (.message "Invalid PUNISHMENT_ENABLED env var")) = _
  split
  · rfl
  · exact (program_visit rounds validationResults).symm
  · exact (program_beginning rounds).symm

theorem program_publishing (rounds : Nat) (bond : MonitoringBond)
    (validationResults : List (MonitoringBond × Error)) :
    program (P := P) (.publishing rounds bond validationResults) =
      .ask (.publishBondTxHex bond.bondTxHex) fun answer =>
        program (match answer with
          | .error _ => beginning rounds
          | .ok _ =>
              if orderbook : bond.table = .orderbook then
                removing rounds bond orderbook validationResults
              else beginning rounds) := by
  apply Program.ask_congr
  intro answer
  cases answer with
  | error e => exact (program_beginning rounds).symm
  | ok u =>
      change continuing rounds (Call.mapError (.context "Error removing violating bond from db")
        (removeViolatingBond bond) >>= fun _ => punishViolations validationResults) = _
      dsimp only
      split
      case isTrue orderbook => rfl
      case isFalse other =>
        rw [removeViolatingBond, if_neg other]
        exact (program_beginning rounds).symm

theorem program_removing (rounds : Nat) (bond : MonitoringBond)
    (orderbook : bond.table = .orderbook) (validationResults : List (MonitoringBond × Error)) :
    program (P := P) (.removing rounds bond orderbook validationResults) =
      .statement (fun db => ((), db.deleteActive bond.tradeIdHex)) fun result =>
        program (match result with
          | .error _ => beginning rounds
          | .ok _ => visit rounds validationResults) := by
  rw [program, removeViolatingBond, if_pos orderbook]
  apply Program.statement_congr
  intro result
  cases result with
  | error fault => exact (program_beginning rounds).symm
  | ok u => exact (program_visit rounds validationResults).symm

/-- One operation of the loop. -/
theorem step (stage : MonitorStage) :
    stage.program.step env w = ((stage.advance env w).program, stage.after env w) := by
  cases stage with
  | fetching rounds =>
      rw [program_fetching, Program.step, advance, after, World.exec]
      cases env.fault w.clock <;> rfl
  | validating rounds bonds =>
      rw [program_validating]
      rfl
  | visiting rounds bond error validationResults =>
      rw [program_visiting]
      rfl
  | publishing rounds bond validationResults =>
      rw [program_publishing]
      rfl
  | removing rounds bond orderbook validationResults =>
      rw [program_removing, Program.step, advance, after, World.exec]
      cases env.fault w.clock <;> rfl
  | ended => rfl

end MonitorStage

end Stages

section Takes

variable {P : Platform} {payload : OfferPsbtRequest} {n : Nat} {p : Program (coordinator P) Reply}

/-- A take that has made `n` operations and deletes its offer with the ninth, if at all. -/
def Taking (payload : OfferPsbtRequest) (n : Nat) (p : Program (coordinator P) Reply) : Prop :=
  Quiet payload.offer.offerIdHex (.submitTakerBond payload) n p ∨
    (∃ row, Inserting payload row p) ∨ p.ended = true

theorem Taking.step (taking : Taking payload n p) (env : Environment (coordinator P))
    (w : World (coordinator P)) :
    Taking payload (if p.ended then n else n + 1) (p.step env w).1 ∧
      ((p.step env w).2.state.activeMakerOffers = w.state.activeMakerOffers ∨
        p.ended = false ∧ n = 8 ∧
          (p.step env w).2.state = w.state.deleteActive payload.offer.offerIdHex) := by
  rcases taking with quiet | ⟨row, inserting⟩ | ended
  · cases quiet.step env w with
    | quiet same quiet => exact ⟨.inl quiet, .inl (congrArg _ same)⟩
    | told same _ tells => exact ⟨.inr (.inr (by rw [tells]; rfl)), .inl (congrArg _ same)⟩
    | deleted going now deletes next =>
        refine ⟨?_, .inr ⟨going, now, deletes⟩⟩
        rw [going, now]
        rcases next with quiet | ⟨payload', row, same, -, inserting⟩
        · exact .inl quiet
        · cases same
          exact .inr (.inl ⟨row, inserting⟩)
  · rcases inserting.step env w with ⟨same, stop, ends⟩ | ⟨inserts, ends⟩
    · exact ⟨.inr (.inr (by rw [ends]; rfl)), .inl (congrArg _ same)⟩
    · exact ⟨.inr (.inr (by rw [ends]; rfl)), .inl (by rw [inserts]; rfl)⟩
  · rw [Program.step_of_ended ended]
    exact ⟨.inr (.inr ended), .inl rfl⟩

/-- A question that is neither a validation of listed bonds nor a publication. -/
def Query.Unrelated : Query P → Prop
  | .validateBonds _ | .publishBondTxHex _ => False
  | _ => True

open Call

theorem asks_tryAsk {α : Type} {query : Query P} (unrelated : query.Unrelated)
    (answer : query.Answer → Except Error α) : (tryAsk query answer).Asks Query.Unrelated :=
  Asks.bind (asks_ask unrelated) fun _ => asks_ofExcept _

@[simp] theorem asks_fetchOne {α : Type} (read : Database → Option α) :
    (fetchOne read : Act P Error α).Asks Query.Unrelated :=
  Asks.bind (asks_statement _ _) fun _ => asks_ofOption _ _

@[simp] theorem asks_hexDecode (text : String) :
    (hexDecode text : Act P Error Bytes).Asks Query.Unrelated := asks_ofOption _ _

@[simp] theorem asks_execute (write : Database → Database) :
    (execute write : Act P Error Unit).Asks Query.Unrelated := asks_statement _ _

@[simp] theorem asks_checked (overflows : Bool) (wrapped : UInt64) :
    (U64.checked overflows wrapped : Act P Error UInt64).Asks Query.Unrelated :=
  asks_ite (by simp) (by simp)

theorem asks_sum (total : UInt64) (values : List UInt64) :
    (U64.sum total values : Act P Error UInt64).Asks Query.Unrelated := by
  induction values generalizing total with
  | nil => exact asks_pure _
  | cons value values ih => exact Asks.bind (asks_checked _ _) fun _ => ih _

@[simp] theorem asks_inputSum (data : EscrowPsbtConstructionData P) :
    data.inputSum.Asks Query.Unrelated :=
  Asks.bind (asks_sum _ _) fun _ => asks_ite (by simp) (by simp)

@[simp] theorem asks_changeAmount (inputSum escrowAmount escrowFee : UInt64) :
    (changeAmount inputSum escrowAmount escrowFee : Act P Error UInt64).Asks Query.Unrelated := by
  apply Asks.bind (asks_checked _ _)
  intro locked
  exact Asks.bind (asks_checked _ _) fun _ => asks_checked _ _

theorem asks_createEscrowPsbt (payload : OfferPsbtRequest) :
    (createEscrowPsbt payload : Act P Error EscrowPsbt).Asks Query.Unrelated := by
  refine Asks.bind ?_ fun makerData => Asks.bind ?_ fun takerData => ?_
  · exact Asks.bind (by simp) fun _ => Asks.bind (by simp) fun _ => Asks.bind (by simp) fun _ =>
      by simp
  · exact Asks.bind (by simp) fun _ => Asks.bind (by simp) fun _ => by simp
  refine Asks.bind (asks_tryAsk (by trivial) _) fun coordinatorPk => ?_
  refine Asks.bind (by simp) fun descriptor => ?_
  refine Asks.bind (asks_tryAsk (by trivial) _) fun feeText => ?_
  refine Asks.bind (by simp) fun feeAddress => Asks.bind ?_ fun amounts => ?_
  · exact Asks.bind (by simp) fun _ => Asks.bind (by simp) fun _ => Asks.bind (by simp) fun _ =>
      by simp
  refine Asks.bind (by simp) fun script => Asks.bind (by simp) fun makerSum => ?_
  refine Asks.bind (by simp) fun makerChange => Asks.bind (by simp) fun takerSum => ?_
  refine Asks.bind (by simp) fun takerChange => Asks.bind (by simp [U64.add]) fun total => ?_
  refine Asks.bind (by simp [U64.mul]) fun fee => ?_
  exact Asks.bind (asks_tryAsk (by trivial) _) fun tx => by simp

theorem asks_handleTakerBond (payload : OfferPsbtRequest) :
    (handleTakerBond payload : Act P BondError OfferTakenResponse).Asks Query.Unrelated := by
  refine Asks.bind (Asks.bind ?_ fun _ => Asks.bind ?_ fun _ => ?_) fun escrow => ?_
  · exact asks_mapError (Asks.bind (by simp) fun _ => by simp)
  · exact asks_mapError (asks_tryAsk (by trivial) _)
  · exact asks_mapError (asks_createEscrowPsbt payload)
  · apply Asks.bind (asks_mapError (Asks.bind ?_ fun _ => Asks.bind (by simp) fun _ => by simp))
    · exact fun _ => by simp
    · exact Asks.bind (by simp) fun _ => Asks.bind (by simp) fun _ => Asks.bind (by simp) fun _ =>
        by simp

theorem asks_handleSignedEscrowPsbt (payload : PsbtSubmissionRequest) :
    (handleSignedEscrowPsbt payload : Act P RequestError Unit).Asks Query.Unrelated := by
  have valid : (isValidRobohashInTable payload.robohashHex payload.offerIdHex :
      Act P Error Bool).Asks Query.Unrelated :=
    Asks.bind (by simp) fun _ => Asks.bind (asks_statement _ _) fun _ => by simp
  have role : (isMakerInTakenOffers payload.offerIdHex payload.robohashHex :
      Act P Error Bool).Asks Query.Unrelated :=
    Asks.bind (by simp) fun _ => Asks.bind (by simp) fun _ => by simp
  have stores : (insertSignedEscrowPsbt payload : Act P Error Bool).Asks Query.Unrelated := by
    refine Asks.bind role fun isMaker => Asks.bind (by simp) fun status => asks_ite (by simp) ?_
    exact Asks.bind (by simp) fun _ => by simp
  have both : (fetchBothSignedEscrowPsbts payload.offerIdHex :
      Act P Error (Option (String × String))).Asks Query.Unrelated := by
    apply Asks.bind (by simp)
    intro row
    split <;> simp
  refine Asks.bind (asks_mapError valid) fun _ => asks_ite ?_ (by simp)
  refine Asks.bind (asks_mapError stores) fun _ => asks_ite ?_ (by simp)
  apply Asks.bind (asks_mapError both)
  intro psbts
  cases psbts with
  | none => simp
  | some psbts => exact asks_mapError (asks_tryAsk (by trivial) _)

/-- The request takes an offer or submits a signed escrow PSBT. -/
def Request.Settles : Request → Prop
  | .submitTakerBond _ | .submitEscrowPsbt _ => True
  | _ => False

theorem asks_serve {request : Request} (settles : request.Settles) :
    (request.serve P).Asks Query.Unrelated := by
  cases request with
  | submitTakerBond payload =>
      exact Program.Asks.bind (asks_handleTakerBond payload) fun _ => trivial
  | submitEscrowPsbt payload =>
      exact Program.Asks.bind (asks_handleSignedEscrowPsbt payload) fun _ => trivial
  | _ => exact settles.elim

end Takes

/-- A run of the monitoring loop among other calls, with the stage that the loop has reached. -/
structure Watch (P : Platform) (ι : Type) where
  pool : Pool (coordinator P) (Option ι) Reply
  stage : MonitorStage

section Runs

variable {P : Platform} {ι : Type}

/-- The loop and the calls that serve the requests, of which none has begun. -/
def monitored (P : Platform) (db : Database) (tick rounds : Nat) (requests : ι → Request) :
    Pool (coordinator P) (Option ι) Reply :=
  Pool.start ⟨db, [], tick⟩ fun
    | none => monitorLoop rounds
    | some i => (requests i).serve P

/-- The validation flagged the bond. -/
def Flagged (log : Log (coordinator P)) (bond : MonitoringBond) : Prop :=
  ∃ bonds flagged state, ⟨.validateBonds bonds, .ok flagged, state⟩ ∈ log ∧
    bond ∈ flagged.map Prod.fst

/-- The bond is flagged only when its offer is no longer in the order book: nothing but the
    escrow transaction of the taken offer spends its inputs. -/
def SpentByEscrow (log : Log (coordinator P)) (bondTxHex : String) : Prop :=
  ∀ bonds flagged state, ⟨.validateBonds bonds, .ok flagged, state⟩ ∈ log →
    ∀ bond ∈ flagged.map Prod.fst, bond.bondTxHex = bondTxHex → ¬ state.Lists bond.tradeIdHex

/-- A bond is only published while the offer that it was flagged for is in the order book, and
    not at all if only the escrow transaction of the offer spends its inputs. -/
structure PunishesListed (log : Log (coordinator P)) : Prop where
  listed : ∀ event ∈ log, ∀ bondTxHex, event.query = .publishBondTxHex bondTxHex →
    ∃ row ∈ event.state.activeMakerOffers.rows,
      row.bondTxHex = bondTxHex ∧ Flagged log row.monitoringBond
  honest : ∀ bondTxHex, SpentByEscrow log bondTxHex →
    ∀ event ∈ log, event.query ≠ .publishBondTxHex bondTxHex

namespace Watch

/-- One operation of the loop or of another call. -/
def step [DecidableEq ι] (env : Environment (coordinator P)) (watch : Watch P ι) (i : Option ι) :
    Watch P ι where
  pool := watch.pool.step env i
  stage := if i = none then watch.stage.advance env watch.pool.world else watch.stage

def start (P : Platform) (db : Database) (tick rounds : Nat) (requests : ι → Request) :
    Watch P ι := ⟨monitored P db tick rounds requests, .beginning rounds⟩

theorem foldl_pool [DecidableEq ι] (env : Environment (coordinator P)) (watch : Watch P ι)
    (schedule : List (Option ι)) :
    (schedule.foldl (step env) watch).pool = watch.pool.play env schedule := by
  induction schedule generalizing watch with
  | nil => rfl
  | cons i schedule ih => exact ih _

/-- A take that is about to delete its offer, which is its ninth operation, deletes none that
    the round holds. -/
def SparesHeld (requests : ι → Request) (watch : Watch P ι) : Option ι → Prop
  | none => True
  | some i => ∀ offerId ∈ (requests i).taken?, watch.pool.About (some i) 8 →
      offerId ∉ watch.stage.held.map MonitoringBond.tradeIdHex

instance (requests : ι → Request) (watch : Watch P ι) : DecidablePred (watch.SparesHeld requests)
  | none => .isTrue trivial
  | some _ => inferInstanceAs (Decidable (∀ _ ∈ _, _ → _))

end Watch

theorem Flagged.mono {log log' : Log (coordinator P)} {bond : MonitoringBond}
    (grown : log <+: log') (flagged : Flagged log bond) : Flagged log' bond := by
  obtain ⟨bonds, results, state, member, among⟩ := flagged
  exact ⟨bonds, results, state, grown.subset member, among⟩

/-- A log in which bonds are flagged and published only while their offers are listed. -/
structure Justified (log : Log (coordinator P)) : Prop where
  published : ∀ event ∈ log, ∀ bondTxHex, event.query = .publishBondTxHex bondTxHex →
    ∃ row ∈ event.state.activeMakerOffers.rows,
      row.bondTxHex = bondTxHex ∧ Flagged log row.monitoringBond
  validated : ∀ bonds flagged state, ⟨.validateBonds bonds, .ok flagged, state⟩ ∈ log →
    ∀ bond ∈ flagged.map Prod.fst, state.Lists bond.tradeIdHex

namespace Justified

variable {log log' : Log (coordinator P)}

theorem punishesListed (justified : Justified log) : PunishesListed log where
  listed := justified.published
  honest bondTxHex spent event member published := by
    obtain ⟨row, -, same, bonds, flagged, state, validation, among⟩ :=
      justified.published event member bondTxHex published
    exact spent bonds flagged state validation row.monitoringBond among same
      (justified.validated bonds flagged state validation row.monitoringBond among)

/-- What has been published stays justified as the log grows. -/
theorem published_earlier (justified : Justified log) (grown : log <+: log')
    {event : Event (coordinator P)} (earlier : event ∈ log) {bondTxHex : String}
    (publishes : event.query = .publishBondTxHex bondTxHex) :
    ∃ row ∈ event.state.activeMakerOffers.rows,
      row.bondTxHex = bondTxHex ∧ Flagged log' row.monitoringBond := by
  obtain ⟨row, listed, same, flagged⟩ := justified.published event earlier bondTxHex publishes
  exact ⟨row, listed, same, flagged.mono grown⟩

/-- Unrelated questions change nothing. -/
theorem grow (justified : Justified log) (grown : log <+: log')
    (unrelated : ∀ event ∈ log', event ∈ log ∨ event.query.Unrelated) : Justified log' where
  published event member bondTxHex publishes := by
    rcases unrelated event member with earlier | other
    · exact justified.published_earlier grown earlier publishes
    · rw [publishes] at other
      exact other.elim
  validated bonds flagged state member := by
    rcases unrelated _ member with earlier | other
    · exact justified.validated bonds flagged state earlier
    · exact other.elim

theorem publish (justified : Justified log) {row : ActiveMakerOffer} {state : Database}
    (listed : row ∈ state.activeMakerOffers.rows) (flagged : Flagged log row.monitoringBond)
    (answer : Except Error Unit) :
    Justified (log ++ [⟨.publishBondTxHex row.bondTxHex, answer, state⟩]) where
  published event member bondTxHex publishes := by
    rcases List.mem_append.mp member with earlier | new
    · exact justified.published_earlier (List.prefix_append _ _) earlier publishes
    · obtain rfl := List.mem_singleton.mp new
      cases publishes
      exact ⟨row, listed, rfl, flagged.mono (List.prefix_append _ _)⟩
  validated bonds results state' member := by
    rcases List.mem_append.mp member with earlier | new
    · exact justified.validated bonds results state' earlier
    · cases List.mem_singleton.mp new

theorem validate (justified : Justified log) {bonds : List MonitoringBond} {state : Database}
    {answer : Except Error (List (MonitoringBond × Error))}
    (listed : ∀ flagged, answer = .ok flagged →
      ∀ bond ∈ flagged.map Prod.fst, state.Lists bond.tradeIdHex) :
    Justified (log ++ [⟨.validateBonds bonds, answer, state⟩]) where
  published event member bondTxHex publishes := by
    rcases List.mem_append.mp member with earlier | new
    · exact justified.published_earlier (List.prefix_append _ _) earlier publishes
    · obtain rfl := List.mem_singleton.mp new
      cases publishes
  validated bonds' results state' member := by
    rcases List.mem_append.mp member with earlier | new
    · exact justified.validated bonds' results state' earlier
    · cases List.mem_singleton.mp new
      exact listed results rfl

end Justified

namespace MonitorStage

/-- What the loop holds is listed under different ids, and what it is going to publish was
    flagged. -/
structure Sound (stage : MonitorStage) (w : World (coordinator P)) : Prop where
  listed : ∀ bond ∈ stage.held,
    ∃ row ∈ w.state.activeMakerOffers.rows, row.monitoringBond = bond
  distinct : (stage.pending.map MonitoringBond.tradeIdHex).Nodup
  flagged : ∀ bond ∈ stage.flagged, Flagged w.log bond
  justified : Justified w.log

variable {w : World (coordinator P)}

theorem sound_beginning (rounds : Nat) (justified : Justified w.log) :
    (beginning rounds).Sound w := by
  cases rounds <;> exact ⟨nofun, List.nodup_nil, nofun, justified⟩

theorem sound_visit (rounds : Nat) {validationResults : List (MonitoringBond × Error)}
    (listed : ∀ bond ∈ validationResults.map Prod.fst,
      ∃ row ∈ w.state.activeMakerOffers.rows, row.monitoringBond = bond)
    (distinct : ((validationResults.map Prod.fst).map MonitoringBond.tradeIdHex).Nodup)
    (flagged : ∀ bond ∈ validationResults.map Prod.fst, Flagged w.log bond)
    (justified : Justified w.log) : (visit rounds validationResults).Sound w := by
  cases validationResults with
  | nil => exact sound_beginning rounds justified
  | cons violation validationResults => exact ⟨listed, distinct, flagged, justified⟩

/-- The first bond has been dealt with or is passed over. -/
theorem sound_rest {stage : MonitorStage} {bond : MonitoringBond} (rounds : Nat)
    {validationResults : List (MonitoringBond × Error)} (sound : stage.Sound w)
    (held : stage.held = bond :: validationResults.map Prod.fst)
    (pending : stage.pending = stage.held) (flagged : stage.flagged = stage.held) :
    (visit rounds validationResults).Sound w := by
  obtain ⟨listed, distinct, flags, justified⟩ := sound
  rw [pending, held, List.map_cons, List.nodup_cons] at distinct
  rw [held] at listed
  rw [flagged, held] at flags
  exact sound_visit rounds (fun bond member => listed bond (List.mem_cons_of_mem _ member))
    distinct.2 (fun bond member => flags bond (List.mem_cons_of_mem _ member)) justified

/-- Rows of distinct ids whose bonds are listed stay when another offer is deleted. -/
theorem listed_deleteActive {db : Database} {bond : MonitoringBond} {offerId : String}
    (listed : ∃ row ∈ db.activeMakerOffers.rows, row.monitoringBond = bond)
    (other : bond.tradeIdHex ≠ offerId) :
    ∃ row ∈ (db.deleteActive offerId).activeMakerOffers.rows, row.monitoringBond = bond := by
  obtain ⟨row, member, rfl⟩ := listed
  exact ⟨row, List.mem_filter.mpr ⟨member, decide_eq_true other⟩, rfl⟩

theorem sound_snapshot (rounds : Nat) (justified : Justified w.log) :
    (validating rounds
      (w.state.activeMakerOffers.rows.map ActiveMakerOffer.monitoringBond)).Sound w := by
  refine ⟨fun bond member => List.mem_map.mp member, ?_, nofun, justified⟩
  have ids : (w.state.activeMakerOffers.rows.map ActiveMakerOffer.monitoringBond).map
      MonitoringBond.tradeIdHex = w.state.activeMakerOffers.rows.map Keyed.key := List.map_map
  exact ids ▸ w.state.activeMakerOffers.nodup

/-- What was flagged among listed bonds. -/
theorem sound_validated {env : Environment (coordinator P)} {chain : Chain} {rounds : Nat}
    {bonds : List MonitoringBond} (sound : (validating rounds bonds).Sound w) :
    ((validating rounds bonds).advance (withChain env chain) w).Sound
      (w.ask (withChain env chain) (.validateBonds bonds)).2 := by
  obtain ⟨listed, distinct, -, justified⟩ := sound
  have among {flagged : List (MonitoringBond × Error)}
      (answered : (withChain env chain).answer w.clock (.validateBonds bonds) = .ok flagged) :
      ∀ bond ∈ flagged.map Prod.fst, bond ∈ bonds := (flagged_of_answer answered).1
  have validated : Justified (w.ask (withChain env chain) (.validateBonds bonds)).2.log := by
    refine justified.validate fun flagged answered bond member => ?_
    obtain ⟨row, there, rfl⟩ := listed bond (among answered bond member)
    exact Database.lists_of_mem there
  rw [MonitorStage.advance]
  cases answer : (withChain env chain).answer w.clock (.validateBonds bonds) with
  | error e => exact sound_beginning rounds validated
  | ok flagged =>
      have ids : ((flagged.map Prod.fst).map MonitoringBond.tradeIdHex).Nodup :=
        (flagged_of_answer answer).2.map_on fun bond member other member' same =>
          List.inj_on_of_nodup_map distinct (among answer bond member)
            (among answer other member') same
      refine sound_visit rounds (fun bond member => listed bond (among answer bond member)) ids
        (fun bond member => ⟨bonds, flagged, w.state, ?_, member⟩) validated
      exact List.mem_append_right _ (List.mem_singleton.mpr (by rw [answer]))

theorem sound_published {env : Environment (coordinator P)} {rounds : Nat} {bond : MonitoringBond}
    {validationResults : List (MonitoringBond × Error)}
    (sound : (publishing rounds bond validationResults).Sound w) :
    ((publishing rounds bond validationResults).advance env w).Sound
      (w.ask env (.publishBondTxHex bond.bondTxHex)).2 := by
  obtain ⟨listed, distinct, flagged, justified⟩ := sound
  obtain ⟨row, there, rfl⟩ := listed bond (List.mem_cons_self ..)
  have published : Justified (w.ask env (.publishBondTxHex row.bondTxHex)).2.log :=
    justified.publish there (flagged _ (List.mem_cons_self ..)) _
  rw [MonitorStage.advance]
  split
  · exact sound_beginning rounds published
  · split
    · refine ⟨fun bond member => listed bond (List.mem_cons_of_mem _ member), distinct,
        fun bond member => ?_, published⟩
      exact (flagged bond (List.mem_cons_of_mem _ member)).mono (List.prefix_append _ _)
    · exact sound_beginning rounds published

theorem sound_removed {env : Environment (coordinator P)} {rounds : Nat} {bond : MonitoringBond}
    {orderbook : bond.table = .orderbook} {validationResults : List (MonitoringBond × Error)}
    (sound : (removing rounds bond orderbook validationResults).Sound w) :
    ((removing rounds bond orderbook validationResults).advance env w).Sound
      (w.exec env fun db => ((), db.deleteActive bond.tradeIdHex)).2 := by
  obtain ⟨listed, distinct, flagged, justified⟩ := sound
  obtain ⟨differs, distinct⟩ := List.nodup_cons.mp distinct
  rw [MonitorStage.advance, World.exec]
  cases env.fault w.clock with
  | some failure => exact sound_beginning rounds justified
  | none =>
      refine sound_visit rounds (fun other member => ?_) distinct flagged justified
      exact listed_deleteActive (listed other member) fun same =>
        differs (same ▸ List.mem_map_of_mem member)

/-- One operation of the loop. -/
theorem Sound.advance {stage : MonitorStage} (sound : stage.Sound w)
    (env : Environment (coordinator P)) (chain : Chain) :
    (stage.advance (withChain env chain) w).Sound (stage.after (withChain env chain) w) := by
  cases stage with
  | fetching rounds =>
      rw [MonitorStage.advance]
      split
      · exact sound_beginning rounds sound.justified
      · dsimp only
        split
        · exact sound_beginning rounds sound.justified
        · exact sound_snapshot (w := World.tick w) rounds sound.justified
  | validating rounds bonds => exact sound_validated sound
  | visiting rounds bond error validationResults =>
      have grown : w.log <+: (w.ask (withChain env chain) .punishmentEnabled).2.log :=
        List.prefix_append _ _
      have justified := sound.justified.grow grown fun event member => by
        rcases List.mem_append.mp member with earlier | new
        · exact .inl earlier
        · exact .inr (List.mem_singleton.mp new ▸ trivial)
      have later : (visiting rounds bond error validationResults).Sound
          (w.ask (withChain env chain) .punishmentEnabled).2 :=
        ⟨sound.listed, sound.distinct, fun bond member => (sound.flagged bond member).mono grown,
          justified⟩
      rw [MonitorStage.advance]
      split
      · exact ⟨later.listed, later.distinct, later.flagged, justified⟩
      · exact sound_rest rounds later rfl rfl rfl
      · exact sound_beginning rounds justified
  | publishing rounds bond validationResults => exact sound_published sound
  | removing rounds bond orderbook validationResults => exact sound_removed sound
  | ended => exact sound

/-- An operation of another call that leaves the held offers. -/
theorem Sound.other {stage : MonitorStage} {w' : World (coordinator P)} (sound : stage.Sound w)
    (left : ∀ bond ∈ stage.held, (∃ row ∈ w.state.activeMakerOffers.rows, row.monitoringBond = bond) →
      ∃ row ∈ w'.state.activeMakerOffers.rows, row.monitoringBond = bond)
    (grown : w.log <+: w'.log)
    (unrelated : ∀ event ∈ w'.log, event ∈ w.log ∨ event.query.Unrelated) : stage.Sound w' where
  listed bond member := left bond member (sound.listed bond member)
  distinct := sound.distinct
  flagged bond member := (sound.flagged bond member).mono grown
  justified := sound.justified.grow grown unrelated

end MonitorStage

/-- The call that settles a trade has made `n` operations. -/
structure Settling (request : Request) (n : Nat) (p : Program (coordinator P) Reply) : Prop where
  keeps : p.Keeps (Database.Served request)
  asks : p.Asks Query.Unrelated
  takes : ∀ payload, request = .submitTakerBond payload → Taking payload n p

namespace Settling

variable {request : Request} {n : Nat} {p : Program (coordinator P) Reply}

theorem serve (settles : request.Settles) : Settling request 0 (request.serve P) where
  keeps := writes_serve P request
  asks := asks_serve settles
  takes payload takes := by
    have competes : request.Competes payload.offer.offerIdHex := takes ▸ rfl
    exact .inl (takes ▸ quiet_serve (P := P) competes)

theorem step (settling : Settling request n p) (env : Environment (coordinator P))
    (w : World (coordinator P)) :
    Settling request (if p.ended then n else n + 1) (p.step env w).1 where
  keeps := settling.keeps.step env w
  asks := settling.asks.step env w
  takes payload takes := ((settling.takes payload takes).step env w).1

/-- An operation leaves the order book, or it is the ninth of a take. -/
theorem order_book (settles : request.Settles) (settling : Settling request n p)
    (env : Environment (coordinator P)) (w : World (coordinator P)) :
    (p.step env w).2.state.activeMakerOffers = w.state.activeMakerOffers ∨
      ∃ offerId ∈ request.taken?, p.ended = false ∧ n = 8 ∧
        (p.step env w).2.state = w.state.deleteActive offerId := by
  cases request with
  | submitTakerBond payload =>
      rcases ((settling.takes payload rfl).step env w).2 with same | deletes
      · exact .inl same
      · exact .inr ⟨payload.offer.offerIdHex, rfl, deletes⟩
  | submitEscrowPsbt payload =>
      have served := settling.keeps.step_state env w
      generalize (p.step env w).2.state = after at served ⊢
      cases served with
      | reads => exact .inl rfl
      | writes permitted =>
          cases permitted
          exact .inl rfl
  | _ => exact settles.elim

end Settling

namespace Watch

variable {requests : ι → Request} {watch : Watch P ι}

/-- The loop is at its stage, and the other calls settle trades. -/
structure Kept (requests : ι → Request) (watch : Watch P ι) : Prop where
  loop : watch.pool.calls none = watch.stage.program
  sound : watch.stage.Sound watch.pool.world
  settling : ∀ i, Settling (requests i) (watch.pool.past (some i)).length
    (watch.pool.calls (some i))

theorem kept_start (db : Database) (tick rounds : Nat)
    (settle : ∀ i, (requests i).Settles) : (start P db tick rounds requests).Kept requests where
  loop := (MonitorStage.program_beginning rounds).symm
  sound := MonitorStage.sound_beginning rounds ⟨nofun, nofun⟩
  settling i := .serve (settle i)

variable [DecidableEq ι] {env : Environment (coordinator P)}

/-- An operation of the loop. -/
theorem Kept.step_loop {chain : Chain} (kept : watch.Kept requests) :
    (watch.step (withChain env chain) none).Kept requests := by
  have steps := watch.stage.step (withChain env chain) watch.pool.world
  rw [← kept.loop] at steps
  refine ⟨?_, ?_, fun i => ?_⟩
  · change (watch.pool.step (withChain env chain) none).calls none = _
    rw [Pool.step_calls_self, steps]
    rfl
  · change (watch.stage.advance _ _).Sound ((watch.pool.calls none).step _ _).2
    rw [steps]
    exact kept.sound.advance env chain
  · change Settling _ ((watch.pool.step (withChain env chain) none).past (some i)).length
      ((watch.pool.step (withChain env chain) none).calls (some i))
    rw [Pool.step_calls_of_ne (Option.some_ne_none i), Pool.step_past_of_ne (Option.some_ne_none i)]
    exact kept.settling i

/-- An operation of another call. -/
theorem Kept.step_other (kept : watch.Kept requests) (settle : ∀ i, (requests i).Settles) {i : ι}
    (spares : watch.SparesHeld requests (some i)) : (watch.step env (some i)).Kept requests := by
  refine ⟨?_, ?_, ?_⟩
  · change (watch.pool.step env (some i)).calls none = _
    rw [Pool.step_calls_of_ne (Option.some_ne_none i).symm]
    exact kept.loop
  · refine kept.sound.other (fun bond member listed => ?_)
      ((watch.pool.calls (some i)).log_step env watch.pool.world) fun event member => ?_
    · change ∃ row ∈ ((watch.pool.calls (some i)).step env
        watch.pool.world).2.state.activeMakerOffers.rows, _
      rcases (kept.settling i).order_book (settle i) env watch.pool.world with
        same | ⟨offerId, taken, going, now, deletes⟩
      · rw [same]
        exact listed
      · rw [deletes]
        refine MonitorStage.listed_deleteActive listed fun same => ?_
        exact spares offerId taken ⟨going, now⟩ (same ▸ List.mem_map_of_mem member)
    · exact ((kept.settling i).asks.mem_log member).imp_right And.left
  · let holds : Option ι → Nat → Program (coordinator P) Reply → Prop
      | none, _, _ => True
      | some j, n, p => Settling (requests j) n p
    have all (j : Option ι) : holds j (watch.pool.past j).length (watch.pool.calls j) := by
      cases j with
      | none => trivial
      | some j => exact kept.settling j
    have stepped : ∀ j, holds j ((watch.pool.step env (some i)).past j).length
        ((watch.pool.step env (some i)).calls j) := by
      apply Pool.forall_step holds
      · exact fun j _ => all j
      · exact (kept.settling i).step env watch.pool.world
    exact fun j => stepped (some j)

end Watch

/-- In whatever interleaving of the monitoring loop with takes and submissions of signed escrow
    PSBTs: if no take deletes an offer that the current round holds, then a bond is only
    published while its offer is listed. -/
theorem punishesListed_play [DecidableEq ι] (env : Environment (coordinator P)) (chain : Chain)
    (db : Database) (tick rounds : Nat) (requests : ι → Request)
    (settle : ∀ i, (requests i).Settles) {schedule : List (Option ι)}
    (spares : Course.Throughout (Watch.step (withChain env chain)) (Watch.SparesHeld requests)
      (Watch.start P db tick rounds requests) schedule) :
    PunishesListed ((monitored P db tick rounds requests).play (withChain env chain)
      schedule).world.log := by
  have kept := Course.invariant_foldl (Watch.Kept requests) (fun watch i kept met => by
    cases i with
    | none => exact kept.step_loop
    | some i => exact kept.step_other settle met) (Watch.kept_start db tick rounds settle) spares
  have pool := Watch.foldl_pool (withChain env chain) (Watch.start P db tick rounds requests)
    schedule
  exact pool ▸ kept.sound.justified.punishesListed

end Runs

namespace Sample

/-- The take of the sample offer, and the signed escrow PSBTs of maker and taker. -/
inductive Settler where
  | taking
  | maker
  | taker
  deriving DecidableEq

def settlingRequests : Settler → Request
  | .taking => .submitTakerBond take
  | .maker => .submitEscrowPsbt ⟨"70736274ff0a", offerId, makerBond.robohashHex⟩
  | .taker => .submitEscrowPsbt ⟨"70736274ff0b", offerId, takerBond.robohashHex⟩

theorem settlingRequests_settle : ∀ i, (settlingRequests i).Settles
  | .taking | .maker | .taker => trivial

/-- A run over the listed offer, whose bond inputs are spent from some tick on. -/
def watched (spentFrom : Nat) (schedule : List (Option Settler)) :
    Pool (coordinator .sample) (Option Settler) Reply :=
  (monitored .sample listed.state 0 1 settlingRequests).play
    (withChain (punishing environment) (chain spentFrom true)) schedule

/-- A round, and a take after it. -/
def takenLater : List (Option Settler) := List.replicate 5 none ++ List.replicate 10 (some .taking)

/-- The offer is taken and its escrow broadcast between the snapshot and the validation. -/
def takenMeanwhile : List (Option Settler) :=
  [none] ++ List.replicate 10 (some .taking) ++ List.replicate 5 (some .maker) ++
    List.replicate 6 (some .taker) ++ List.replicate 4 none

/-- The bond of the maker is published, with no offer listed. -/
def publishesUnlisted (event : Event (coordinator .sample)) : Bool :=
  match event.query with
  | .publishBondTxHex bond => bond = "b0" && event.state.activeMakerOffers.rows.isEmpty
  | _ => false

end Sample

theorem punishesListed_play_sample :
    PunishesListed (Sample.watched 0 Sample.takenLater).world.log :=
  punishesListed_play (punishing Sample.environment) (Sample.chain 0 true) Sample.listed.state 0 1
    Sample.settlingRequests Sample.settlingRequests_settle (by decide +kernel)

/-- The maker spends its inputs for nothing but the escrow, and its bond is published. -/
theorem honest_maker_punished :
    ¬ PunishesListed (Sample.watched 22 Sample.takenMeanwhile).world.log := by
  intro punishes
  have published : (Sample.watched 22 Sample.takenMeanwhile).world.log.any
      Sample.publishesUnlisted = true := by decide +kernel
  obtain ⟨event, member, unlisted⟩ := List.any_eq_true.mp published
  unfold Sample.publishesUnlisted at unlisted
  split at unlisted
  case h_1 bond publishes =>
    obtain ⟨row, listed, -⟩ := punishes.listed event member bond publishes
    simp only [Bool.and_eq_true, List.isEmpty_iff] at unlisted
    rw [unlisted.2] at listed
    cases listed
  case h_2 => cases unlisted

end TapTrade
