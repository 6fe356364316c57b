import TapTrade.Model.Lookup

/-! # The operations of an escrow submission

A call that submits a signed escrow PSBT makes six operations: it looks three times, stores
the PSBT, looks at both PSBTs, and if both are there it has the wallet combine and broadcast
them. `SubmissionStage.step` says exactly how one operation advances it.
-/

namespace TapTrade

open Relational Resumption

section Submissions

variable {P : Platform}

/-- How far a call that submits an escrow PSBT has got. -/
inductive SubmissionStage where
  | validating
  | identifying
  | looking (isMaker : Bool)
  | storing (isMaker : Bool)
  | fetching
  | combining (makerPsbt takerPsbt : String)
  | ended (outcome : Outcome RequestError Unit)

namespace TakenOffer

/-- The signed escrow PSBT of the maker or of the taker. -/
def signedPsbt (isMaker : Bool) (row : TakenOffer) : Option String :=
  if isMaker then row.signedEscrowPsbtHexMaker else row.signedEscrowPsbtHexTaker

/-- The signed escrow PSBTs of maker and taker, once both are there. -/
def bothPsbts (row : TakenOffer) : Option (String × String) :=
  match row.signedEscrowPsbtHexMaker, row.signedEscrowPsbtHexTaker with
  | some maker, some taker => some (maker, taker)
  | _, _ => none

/-- The offer takes an escrow PSBT from the trader with the robohash. -/
structure AcceptsSubmission (robohash : Bytes) (isMaker : Bool) (row : TakenOffer) : Prop where
  names : (row.names robohash).holds = true
  role : row.role? robohash = some isMaker
  unsubmitted : row.signedPsbt isMaker = none

end TakenOffer

namespace SubmissionStage

variable (payload : PsbtSubmissionRequest)

/-- What is left to do once the PSBT is stored. -/
def combine : Act P RequestError Unit := do
  match ← Call.mapError .database (fetchBothSignedEscrowPsbts payload.offerIdHex) with
  | some (makerPsbt, takerPsbt) =>
      Call.mapError .psbtInvalid (tryAsk (.combineAndBroadcastEscrowPsbt makerPsbt takerPsbt) id)
  | none => return ()

/-- What is left to do after the attempt to store the PSBT. -/
def resume (inserted : Bool) : Act P RequestError Unit :=
  if inserted then combine payload else Call.fail .psbtAlreadySubmitted

/-- What is left to do at a stage. -/
def remaining : SubmissionStage → Act P RequestError Unit
  | validating => handleSignedEscrowPsbt payload
  | identifying => do
      resume payload (← Call.mapError .database (insertSignedEscrowPsbt payload))
  | looking isMaker => do
      let inserted ← Call.mapError .database do
        let status ← fetchOne fun db => db.takenOffers.find? payload.offerIdHex
        if (status.signedPsbt isMaker).isSome then
          return false
        else
          execute fun db => db.updateTaken payload.offerIdHex
            (TakenOffer.setSignedEscrowPsbt isMaker payload.signedPsbtHex)
          return true
      resume payload inserted
  | storing isMaker => do
      resume payload (← Call.mapError .database do
        execute fun db => db.updateTaken payload.offerIdHex
          (TakenOffer.setSignedEscrowPsbt isMaker payload.signedPsbtHex)
        return true)
  | fetching => combine payload
  | combining makerPsbt takerPsbt =>
      Call.mapError .psbtInvalid (tryAsk (.combineAndBroadcastEscrowPsbt makerPsbt takerPsbt) id)
  | ended outcome => ExceptT.mk (.done outcome)

/-- The rest of the call as a program. -/
abbrev program (stage : SubmissionStage) : Program (coordinator P) Reply :=
  replying .submitEscrowPsbt (stage.remaining payload)

/-- A call that ends with an error. -/
abbrev refused (e : RequestError) : SubmissionStage := .ended (.error (.failed e))

variable (robohash : Bytes) (env : Environment (coordinator P)) (w : World (coordinator P))

/-- The stage after the next operation of a call of the trader with the robohash. -/
def advance : SubmissionStage → SubmissionStage
  | validating => check refused payload.offerIdHex robohash env w identifying
  | identifying => look refused payload.offerIdHex env w fun row =>
      match row.role? robohash with
      | some isMaker => looking isMaker
      | none => refused (.database noTrader)
  | looking isMaker => look refused payload.offerIdHex env w fun row =>
      if (row.signedPsbt isMaker).isSome then refused .psbtAlreadySubmitted else storing isMaker
  | storing _ =>
      match env.fault w.clock with
      | some _ => refused (.database .database)
      | none => fetching
  | fetching => look refused payload.offerIdHex env w fun row =>
      match row.bothPsbts with
      | some (makerPsbt, takerPsbt) => combining makerPsbt takerPsbt
      | none => ended (.ok ())
  | combining makerPsbt takerPsbt =>
      match env.answer w.clock (.combineAndBroadcastEscrowPsbt makerPsbt takerPsbt) with
      | .error e => refused (.psbtInvalid e)
      | .ok _ => ended (.ok ())
  | ended outcome => ended outcome

/-- The world after the next operation. -/
def after : SubmissionStage → World (coordinator P)
  | storing isMaker => (w.exec env fun db => ((), db.updateTaken payload.offerIdHex
      (TakenOffer.setSignedEscrowPsbt isMaker payload.signedPsbtHex))).2
  | combining makerPsbt takerPsbt =>
      (w.ask env (.combineAndBroadcastEscrowPsbt makerPsbt takerPsbt)).2
  | ended _ => w
  | validating | identifying | looking _ | fetching => World.tick w

/-- A call that submits an escrow PSBT, as the stage at which it starts. -/
theorem serve_submitEscrowPsbt :
    (Request.submitEscrowPsbt payload).serve P = program payload .validating := rfl

theorem program_refused (e : RequestError) :
    program (P := P) payload (refused e) = refusing .submitEscrowPsbt e := rfl

theorem program_validating (decoded : Hex.decode payload.robohashHex = some robohash) :
    program (P := P) payload .validating =
      checkingTrader .submitEscrowPsbt payload.offerIdHex robohash
        (program payload .identifying) := by
  simp only [program, remaining, handleSignedEscrowPsbt, isValidRobohashInTable,
    hexDecode_eq decoded]
  apply Program.statement_congr
  intro result
  rcases result with fault | (_ | row) <;> rfl

theorem program_identifying (decoded : Hex.decode payload.robohashHex = some robohash) :
    program (P := P) payload .identifying =
      lookingUp .submitEscrowPsbt payload.offerIdHex fun row =>
        program payload (match row.role? robohash with
          | some isMaker => .looking isMaker
          | none => refused (.database noTrader)) := by
  apply (replying_isMakerInTakenOffers _ decoded _ _).trans
  apply lookingUp_congr
  intro row
  cases row.role? robohash with
  | none => rfl
  | some isMaker => cases isMaker <;> rfl

theorem program_looking (isMaker : Bool) : program (P := P) payload (.looking isMaker) =
    lookingUp .submitEscrowPsbt payload.offerIdHex fun row =>
      program payload (if (row.signedPsbt isMaker).isSome then refused .psbtAlreadySubmitted
        else .storing isMaker) := by
  apply (replying_fetchOne _ _ _ _).trans
  apply lookingUp_congr
  intro row
  split <;> rfl

theorem program_storing (isMaker : Bool) : program (P := P) payload (.storing isMaker) =
    writing .submitEscrowPsbt (fun db => db.updateTaken payload.offerIdHex
      (TakenOffer.setSignedEscrowPsbt isMaker payload.signedPsbtHex)) (program payload .fetching) := by
  apply Program.statement_congr
  intro result
  rcases result with fault | written <;> rfl

theorem program_fetching : program (P := P) payload .fetching =
    lookingUp .submitEscrowPsbt payload.offerIdHex fun row =>
      program payload (match row.bothPsbts with
        | some (makerPsbt, takerPsbt) => combining makerPsbt takerPsbt
        | none => ended (.ok ())) := by
  apply (replying_fetchOne _ _ _ _).trans
  apply lookingUp_congr
  intro row
  rw [TakenOffer.bothPsbts]
  rcases row.signedEscrowPsbtHexMaker with _ | maker <;>
    rcases row.signedEscrowPsbtHexTaker with _ | taker <;> rfl

theorem program_combining (makerPsbt takerPsbt : String) :
    program (P := P) payload (.combining makerPsbt takerPsbt) =
      .ask (.combineAndBroadcastEscrowPsbt makerPsbt takerPsbt) fun answer =>
        program payload (match answer with
          | .error e => refused (.psbtInvalid e)
          | .ok _ => ended (.ok ())) := by
  apply Program.ask_congr
  intro answer
  cases answer <;> rfl

/-- One operation advances the call to the next stage. -/
theorem step (decoded : Hex.decode payload.robohashHex = some robohash) (stage : SubmissionStage) :
    (program payload stage).step env w =
      (program payload (stage.advance payload robohash env w), stage.after payload env w) := by
  cases stage with
  | validating =>
      exact step_check (program_refused payload) (program_validating payload robohash decoded)
  | identifying =>
      exact step_look (program_refused payload) (program_identifying payload robohash decoded)
  | looking isMaker => exact step_look (program_refused payload) (program_looking payload isMaker)
  | storing isMaker =>
      rw [program_storing, step_writing, advance, after, World.exec]
      cases env.fault w.clock <;> rfl
  | fetching => exact step_look (program_refused payload) (program_fetching payload)
  | combining makerPsbt takerPsbt =>
      rw [program_combining]
      rfl
  | ended outcome => rfl

/-- The number of operations made before the stage. -/
def operations : SubmissionStage → Nat
  | validating => 0
  | identifying => 1
  | looking _ => 2
  | storing _ => 3
  | fetching => 4
  | combining _ _ => 5
  | ended _ => 6

def isEnded : SubmissionStage → Bool
  | ended _ => true
  | _ => false

theorem operations_advance {stage : SubmissionStage} (going : stage.isEnded = false) :
    (stage.advance payload robohash env w).isEnded = true ∨
      (stage.advance payload robohash env w).operations = stage.operations + 1 := by
  cases stage with
  | ended outcome => cases going
  | _ =>
      simp only [advance, check, look]
      repeat' split
      all_goals first
        | exact .inl rfl
        | exact .inr rfl

theorem ended_program (decoded : Hex.decode payload.robohashHex = some robohash)
    (stage : SubmissionStage) :
    (program (P := P) payload stage).ended = stage.isEnded := by
  cases stage with
  | validating => rw [program_validating payload robohash decoded]; rfl
  | identifying => rw [program_identifying payload robohash decoded]; rfl
  | _ => rfl

/-- A call of a trader whose robohash can be decoded, in stages. -/
@[reducible] def staging (decoded : Hex.decode payload.robohashHex = some robohash) :
    Staging (coordinator P) Reply where
  Stage := SubmissionStage
  program := program payload
  advance := advance payload robohash
  after := after payload
  isEnded := isEnded
  operations := operations
  step env w := step payload robohash env w decoded
  ended := ended_program payload robohash decoded
  counts env w _ := operations_advance payload robohash env w

/-- A call of anybody else ends at once. -/
theorem serve_of_undecodable (undecodable : Hex.decode payload.robohashHex = none) :
    (Request.submitEscrowPsbt payload).serve P =
      program payload (refused (.database .fromHex)) := by
  rw [serve_submitEscrowPsbt]
  simp only [program, remaining, handleSignedEscrowPsbt, isValidRobohashInTable,
    hexDecode_eq_fail undecodable]
  rfl

end SubmissionStage

end Submissions

end TapTrade
