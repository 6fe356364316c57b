import TapTrade.Model.Lookup

/-! # The operations of a payout signature

A call that submits a partial signature makes eight operations: it looks four times, stores
the signature, looks at both signatures, and if both are there it broadcasts the payout
transaction and deletes the offer. `SignatureStage` is how far such a call has got, and
`SignatureStage.step` says exactly how one operation advances it.
-/

namespace TapTrade

open Relational Resumption

section Signatures

variable {P : Platform}

/-- How far a call that submits a partial signature has got. -/
inductive SignatureStage (P : Platform) where
  | validating
  | confirming
  | identifying
  | looking (isMaker : Bool)
  | storing (isMaker : Bool)
  | aggregating
  | broadcasting (context : KeyspendContext P)
  | finishing
  | ended (outcome : Outcome RequestError Bool)

/-- The partial signature of the maker or of the taker. -/
def TakenOffer.partialSig (isMaker : Bool) (row : TakenOffer) : Option String :=
  if isMaker then row.musigPartialSigHexMaker else row.musigPartialSigHexTaker

/-- The offer takes a partial signature from the trader with the robohash. -/
structure TakenOffer.AcceptsSignature (robohash : Bytes) (isMaker : Bool) (row : TakenOffer) :
    Prop where
  names : (row.names robohash).holds = true
  confirmed : Column.i64 row.escrowPsbtIsConfirmed = 1
  role : row.role? robohash = some isMaker
  unsigned : row.partialSig isMaker = none

namespace SignatureStage

variable (payload : PayoutSignatureRequest)

/-- The second half of `check_offer_and_confirmation`. -/
def requireConfirmation (offerIdHex : String) : Act P RequestError Unit := do
  if ← Call.mapError .database (fetchEscrowTxConfirmationStatus offerIdHex) then
    return ()
  else
    Call.fail .notConfirmed

/-- What is left to do once the signature is stored. -/
def aggregate : Act P RequestError Bool := do
  match ← Call.mapError .database (fetchKeyspendPayoutInformation payload.offerIdHex) with
  | some context => finishPayout payload.offerIdHex context
  | none => return false

/-- What is left to do once the offer was found to be confirmed. -/
def insert : Act P RequestError Bool := do
  Call.mapError .database
    (insertPartialSig payload.partialSigHex payload.offerIdHex payload.robohashHex)
  aggregate payload

/-- What is left to do at a stage. -/
def remaining : SignatureStage P → Act P RequestError Bool
  | validating => handlePayoutSignature payload
  | confirming => do
      requireConfirmation payload.offerIdHex
      insert payload
  | identifying => insert payload
  | looking isMaker => do
      Call.mapError .database do
        let status ← fetchOne fun db => db.takenOffers.find? payload.offerIdHex
        if (status.partialSig isMaker).isSome then
          Call.fail (.message "Partial sig already submitted")
        else
          execute fun db => db.updateTaken payload.offerIdHex
            (TakenOffer.setPartialSig isMaker payload.partialSigHex)
      aggregate payload
  | storing isMaker => do
      Call.mapError .database (execute fun db => db.updateTaken payload.offerIdHex
        (TakenOffer.setPartialSig isMaker payload.partialSigHex))
      aggregate payload
  | aggregating => aggregate payload
  | broadcasting context => finishPayout payload.offerIdHex context
  | finishing => do
      Call.mapError (fun e =>
          .database (.context "Failed to delete complete offer from taken_offers" e))
        (deleteCompleteOffer payload.offerIdHex)
      return true
  | ended outcome => ExceptT.mk (.done outcome)

/-- The rest of the call as a program. -/
abbrev program (stage : SignatureStage P) : Program (coordinator P) Reply :=
  replying .submitPayoutSignature (stage.remaining payload)

/-- A call that ends with an error. -/
abbrev refused (e : RequestError) : SignatureStage P := .ended (.error (.failed e))

variable (robohash : Bytes) (env : Environment (coordinator P)) (w : World (coordinator P))

/-- The stage after the next operation of a call of the trader with the robohash. -/
def advance : SignatureStage P → SignatureStage P
  | validating => check refused payload.offerIdHex robohash env w confirming
  | confirming => look refused payload.offerIdHex env w fun row =>
      if Column.i64 row.escrowPsbtIsConfirmed = 1 then identifying else refused .notConfirmed
  | identifying => look refused payload.offerIdHex env w fun row =>
      match row.role? robohash with
      | some isMaker => looking isMaker
      | none => refused (.database noTrader)
  | looking isMaker => look refused payload.offerIdHex env w fun row =>
      if (row.partialSig isMaker).isSome then
        refused (.database (.message "Partial sig already submitted"))
      else storing isMaker
  | storing _ =>
      match env.fault w.clock with
      | some _ => refused (.database .database)
      | none => aggregating
  | aggregating => look refused payload.offerIdHex env w fun row =>
      match row.keyspendContext P with
      | .error e => refused (.database e)
      | .ok none => ended (.ok false)
      | .ok (some context) => broadcasting context
  | broadcasting context =>
      match env.answer w.clock (.broadcastKeyspendTx context) with
      | .error e => refused (.coordinatorError e)
      | .ok _ => finishing
  | finishing =>
      match env.fault w.clock with
      | some _ => refused (.database
          (.context "Failed to delete complete offer from taken_offers" .database))
      | none => ended (.ok true)
  | ended outcome => ended outcome

/-- The world after the next operation. -/
def after : SignatureStage P → World (coordinator P)
  | storing isMaker => (w.exec env fun db => ((), db.updateTaken payload.offerIdHex
      (TakenOffer.setPartialSig isMaker payload.partialSigHex))).2
  | finishing => (w.exec env fun db => ((), db.deleteTaken payload.offerIdHex)).2
  | broadcasting context => (w.ask env (.broadcastKeyspendTx context)).2
  | ended _ => w
  | validating | confirming | identifying | looking _ | aggregating => World.tick w

/-- A call that submits a partial signature, as the stage at which it starts. -/
theorem serve_submitPayoutSignature :
    (Request.submitPayoutSignature payload).serve P = program payload .validating := rfl

theorem program_refused (e : RequestError) :
    program (P := P) payload (refused e) = refusing .submitPayoutSignature e := rfl

theorem program_validating (decoded : Hex.decode payload.robohashHex = some robohash) :
    program (P := P) payload .validating =
      checkingTrader .submitPayoutSignature payload.offerIdHex robohash
        (program payload .confirming) := by
  simp only [program, remaining, handlePayoutSignature, checkOfferAndConfirmation,
    isValidRobohashInTable, hexDecode_eq decoded]
  apply Program.statement_congr
  intro result
  rcases result with fault | (_ | row) <;> rfl

theorem program_confirming : program (P := P) payload .confirming =
    lookingUp .submitPayoutSignature payload.offerIdHex fun row =>
      program payload (if Column.i64 row.escrowPsbtIsConfirmed = 1 then .identifying
        else refused .notConfirmed) := by
  rw [program, remaining, requireConfirmation, bind_assoc]
  apply (replying_fetchOne _ _ _ _).trans
  apply lookingUp_congr
  intro row
  by_cases confirmed : Column.i64 row.escrowPsbtIsConfirmed = 1
  · rw [if_pos confirmed, decide_eq_true confirmed]
    rfl
  · rw [if_neg confirmed, decide_eq_false confirmed]
    rfl

theorem program_identifying (decoded : Hex.decode payload.robohashHex = some robohash) :
    program (P := P) payload .identifying =
      lookingUp .submitPayoutSignature payload.offerIdHex fun row =>
        program payload (match row.role? robohash with
          | some isMaker => .looking isMaker
          | none => refused (.database noTrader)) := by
  apply (replying_isMakerInTakenOffers _ decoded _ _).trans
  apply lookingUp_congr
  intro row
  cases row.role? robohash with
  | none => rfl
  | some isMaker => cases isMaker <;> rfl

theorem program_looking (isMaker : Bool) : program (P := P) payload (.looking isMaker) =
    lookingUp .submitPayoutSignature payload.offerIdHex fun row =>
      program payload (if (row.partialSig isMaker).isSome then
        refused (.database (.message "Partial sig already submitted"))
      else .storing isMaker) := by
  apply (replying_fetchOne _ _ _ _).trans
  apply lookingUp_congr
  intro row
  split <;> rfl

theorem program_storing (isMaker : Bool) : program (P := P) payload (.storing isMaker) =
    writing .submitPayoutSignature (fun db => db.updateTaken payload.offerIdHex
      (TakenOffer.setPartialSig isMaker payload.partialSigHex)) (program payload .aggregating) :=
  replying_execute _ _ _

theorem program_aggregating : program (P := P) payload .aggregating =
    lookingUp .submitPayoutSignature payload.offerIdHex fun row =>
      program payload (match row.keyspendContext P with
        | .error e => refused (.database e)
        | .ok none => ended (.ok false)
        | .ok (some context) => broadcasting context) := by
  apply (replying_fetchOne _ _ _ _).trans
  apply lookingUp_congr
  intro row
  rcases row.keyspendContext P with e | (_ | context) <;> rfl

theorem program_broadcasting (context : KeyspendContext P) :
    program payload (.broadcasting context) = .ask (.broadcastKeyspendTx context) fun answer =>
      program payload (match answer with
        | .error e => refused (.coordinatorError e)
        | .ok _ => finishing) := by
  apply Program.ask_congr
  intro answer
  cases answer <;> rfl

theorem program_finishing : program (P := P) payload .finishing =
    .statement (fun db => ((), db.deleteTaken payload.offerIdHex)) fun result =>
      program payload (match result with
        | .error _ => refused (.database
            (.context "Failed to delete complete offer from taken_offers" .database))
        | .ok _ => ended (.ok true)) := by
  apply Program.statement_congr
  intro result
  cases result <;> rfl

/-- One operation advances the call to the next stage. -/
theorem step (decoded : Hex.decode payload.robohashHex = some robohash) (stage : SignatureStage P) :
    (program payload stage).step env w =
      (program payload (stage.advance payload robohash env w), stage.after payload env w) := by
  cases stage with
  | validating =>
      exact step_check (program_refused payload) (program_validating payload robohash decoded)
  | confirming => exact step_look (program_refused payload) (program_confirming payload)
  | identifying =>
      exact step_look (program_refused payload) (program_identifying payload robohash decoded)
  | looking isMaker => exact step_look (program_refused payload) (program_looking payload isMaker)
  | storing isMaker =>
      rw [program_storing, step_writing, advance, after, World.exec]
      cases env.fault w.clock <;> rfl
  | aggregating => exact step_look (program_refused payload) (program_aggregating payload)
  | broadcasting context =>
      rw [program_broadcasting]
      rfl
  | finishing =>
      rw [program_finishing, Program.step, advance, after, World.exec]
      cases env.fault w.clock <;> rfl
  | ended outcome => rfl

/-- The number of operations made before the stage. -/
def operations : SignatureStage P → Nat
  | validating => 0
  | confirming => 1
  | identifying => 2
  | looking _ => 3
  | storing _ => 4
  | aggregating => 5
  | broadcasting _ => 6
  | finishing => 7
  | ended _ => 8

def isEnded : SignatureStage P → Bool
  | ended _ => true
  | _ => false

/-- A stage is followed by the next one or by the end. -/
theorem operations_advance {stage : SignatureStage P} (going : stage.isEnded = false) :
    (stage.advance payload robohash env w).isEnded = true ∨
      (stage.advance payload robohash env w).operations = stage.operations + 1 := by
  cases stage with
  | ended outcome => cases going
  | broadcasting context =>
      rw [advance]
      split
      · exact .inl rfl
      · exact .inr rfl
  | _ =>
      simp only [advance, check, look]
      repeat' split
      all_goals first
        | exact .inl rfl
        | exact .inr rfl

theorem ended_program (decoded : Hex.decode payload.robohashHex = some robohash)
    (stage : SignatureStage P) : (program payload stage).ended = stage.isEnded := by
  cases stage with
  | validating => rw [program_validating payload robohash decoded]; rfl
  | identifying => rw [program_identifying payload robohash decoded]; rfl
  | _ => rfl

/-- A call that has answered is at its end. -/
theorem result?_program (decoded : Hex.decode payload.robohashHex = some robohash)
    {stage : SignatureStage P} {outcome : Outcome RequestError Bool}
    (answered : (program payload stage).result? = some (.submitPayoutSignature outcome)) :
    stage = .ended outcome := by
  cases stage with
  | ended given =>
      cases answered
      rfl
  | validating =>
      rw [program_validating payload robohash decoded] at answered
      cases answered
  | identifying =>
      rw [program_identifying payload robohash decoded] at answered
      cases answered
  | _ => cases answered

/-- A call of a trader whose robohash can be decoded, in stages. -/
@[reducible] def staging (decoded : Hex.decode payload.robohashHex = some robohash) :
    Staging (coordinator P) Reply where
  Stage := SignatureStage P
  program := program payload
  advance := advance payload robohash
  after := after payload
  isEnded := isEnded
  operations := operations
  step env w := step payload robohash env w decoded
  ended := ended_program payload robohash decoded
  counts env w _ := operations_advance payload robohash env w

/-- A call of anybody else ends at once. -/
theorem serve_of_undecodable (undecodable : Hex.decode payload.robohashHex = none) :
    (Request.submitPayoutSignature payload).serve P =
      program payload (refused (.database .fromHex)) := by
  rw [serve_submitPayoutSignature]
  simp only [program, remaining, handlePayoutSignature, checkOfferAndConfirmation,
    isValidRobohashInTable, hexDecode_eq_fail undecodable]
  rfl

/-- A call that has made `n` operations. -/
def Submits (n : Nat) (p : Program (coordinator P) Reply) : Prop :=
  p.ended = true ∨
    ∃ robohash, ∃ decoded : Hex.decode payload.robohashHex = some robohash, ∃ stage,
      (staging payload robohash decoded).At stage n p

theorem submits_serve : Submits payload 0 ((Request.submitPayoutSignature payload).serve P) := by
  cases decoded : Hex.decode payload.robohashHex with
  | some robohash => exact .inr ⟨robohash, decoded, .validating, rfl, fun _ => rfl⟩
  | none =>
      rw [serve_of_undecodable payload decoded]
      exact .inl rfl

theorem Submits.step {payload} {n : Nat} {p : Program (coordinator P) Reply}
    (submits : Submits payload n p) (env : Environment (coordinator P)) (w : World (coordinator P)) :
    Submits payload (if p.ended then n else n + 1) (p.step env w).1 := by
  rcases submits with ended | ⟨robohash, decoded, stage, at_stage⟩
  · rw [Program.step_of_ended ended]
    exact .inl ended
  · exact .inr ⟨robohash, decoded, _, (at_stage.step env w).1⟩

/-- The call has not written anything yet, and nothing has kept it from doing so. -/
inductive Early (isMaker : Bool) : SignatureStage P → Prop
  | validating : Early isMaker .validating
  | confirming : Early isMaker .confirming
  | identifying : Early isMaker .identifying
  | looking : Early isMaker (.looking isMaker)
  | storing : Early isMaker (.storing isMaker)

theorem Early.going {isMaker : Bool} {stage : SignatureStage P} (early : Early isMaker stage) :
    stage.isEnded = false := by
  cases early <;> rfl

/-- A look at an offer that takes the signature gets the call nearer to its write. -/
theorem Early.advance {payload robohash env w} {isMaker : Bool} {stage : SignatureStage P}
    {row : TakenOffer} (early : Early isMaker stage) (other : stage ≠ .storing isMaker)
    (unfailing : env.fault w.clock = none)
    (found : w.state.takenOffers.find? payload.offerIdHex = some row)
    (accepts : row.AcceptsSignature robohash isMaker) :
    Early isMaker (stage.advance payload robohash env w) ∧
      stage.after payload env w = World.tick w := by
  cases early with
  | validating =>
      rw [SignatureStage.advance, check_of_found unfailing found accepts.names]
      exact ⟨.confirming, rfl⟩
  | confirming =>
      rw [SignatureStage.advance, look_of_found unfailing found, if_pos accepts.confirmed]
      exact ⟨.identifying, rfl⟩
  | identifying =>
      rw [SignatureStage.advance, look_of_found unfailing found, accepts.role]
      exact ⟨.looking, rfl⟩
  | looking =>
      rw [SignatureStage.advance, look_of_found unfailing found, accepts.unsigned]
      exact ⟨.storing, rfl⟩
  | storing => exact absurd rfl other

end SignatureStage

end Signatures

end TapTrade
