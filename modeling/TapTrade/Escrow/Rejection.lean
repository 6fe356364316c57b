import TapTrade.Escrow.Submissions
import TapTrade.Model.Sample

/-! # Rejected escrow PSBTs

A signed escrow PSBT is stored before it is decoded: the validation that comes first accepts
everything. The wallet sees it only together with the PSBT of the other trader, and when it
refuses the two, both stay in the row and neither trader can submit another one.
-/

namespace TapTrade

open Relational Resumption

section Rejection

variable {P : Platform} {env : Environment (coordinator P)} {w : World (coordinator P)}
  {payload : PsbtSubmissionRequest} {robohash : Bytes}

/-- A PSBT that is answered with `PsbtInvalid` leaves the row as it was. -/
def EscrowUnblocked (env : Environment (coordinator P)) (w : World (coordinator P))
    (payload : PsbtSubmissionRequest) : Prop :=
  ∀ e, (Call.exec env (handleSignedEscrowPsbt payload) w).1 = .error (.failed (.psbtInvalid e)) →
    (Call.exec env (handleSignedEscrowPsbt payload) w).2.state.takenOffers.find?
      payload.offerIdHex = w.state.takenOffers.find? payload.offerIdHex

/-- The PSBT gets stored in the row: it is the first one of its trader, and none of the four
    statements up to the write fails. -/
structure StoresPsbt (env : Environment (coordinator P)) (w : World (coordinator P))
    (payload : PsbtSubmissionRequest) (isMaker : Bool) (row : TakenOffer) : Prop where
  unfailing : ∀ k < 4, env.fault (w.clock + k) = none
  found : w.state.takenOffers.find? payload.offerIdHex = some row
  accepts : ∃ robohash, Hex.decode payload.robohashHex = some robohash ∧
    row.AcceptsSubmission robohash isMaker

/-- The PSBT gets stored next to the one of the other trader, and the wallet refuses to combine
    and broadcast the two. -/
def RefusedByWallet (env : Environment (coordinator P)) (w : World (coordinator P))
    (payload : PsbtSubmissionRequest) : Prop :=
  ∃ isMaker row makerPsbt takerPsbt e, StoresPsbt env w payload isMaker row ∧
    env.fault (w.clock + 4) = none ∧
    ((TakenOffer.setSignedEscrowPsbt isMaker payload.signedPsbtHex).apply row).bothPsbts =
      some (makerPsbt, takerPsbt) ∧
    env.answer (w.clock + 5) (.combineAndBroadcastEscrowPsbt makerPsbt takerPsbt) = .error e

namespace SubmissionStage

/-- The world after four operations, of which the last one has stored the PSBT. -/
abbrev stored (w : World (coordinator P)) (payload : PsbtSubmissionRequest) (isMaker : Bool) :
    World (coordinator P) :=
  ⟨w.state.updateTaken payload.offerIdHex
      (TakenOffer.setSignedEscrowPsbt isMaker payload.signedPsbtHex), w.log, w.clock + 4⟩

/-- A call is refused and leaves the database as it is, or its PSBT gets stored. -/
theorem refuses_or_stores (decoded : Hex.decode payload.robohashHex = some robohash) :
    Refuses (staging payload robohash decoded) refused env w .validating ∨
      ∃ isMaker row, StoresPsbt env w payload isMaker row := by
  have started : (staging payload robohash decoded).Reaches env w .validating 0 .validating :=
    .start
  obtain refuses | ⟨row, found, names, validated⟩ := reaches_check started rfl rfl
  · exact .inl refuses
  obtain refuses | ⟨row₁, found₁, identified⟩ := reaches_look validated rfl rfl
  · exact .inl refuses
  cases found.symm.trans found₁
  split at identified
  case h_2 => exact .inl ⟨_, _, identified.run⟩
  case h_1 isMaker role =>
  obtain refuses | ⟨row₂, found₂, looked⟩ := reaches_look identified rfl rfl
  · exact .inl refuses
  cases found.symm.trans found₂
  split at looked
  case isTrue => exact .inl ⟨_, _, looked.run⟩
  case isFalse unsubmitted =>
  cases fault : env.fault (w.later 3).clock with
  | some failure =>
      have run := looked.run_next
      simp only [SubmissionStage.advance, SubmissionStage.after, World.exec, fault] at run
      exact .inl ⟨_, 4, run⟩
  | none =>
      have accepts : row.AcceptsSubmission robohash isMaker :=
        ⟨names, role, Option.not_isSome_iff_eq_none.mp unsubmitted⟩
      exact .inr ⟨isMaker, row, Staging.unfailing_succ looked.unfailing fault, found, robohash,
        decoded, accepts⟩

/-- The rest of the call runs from the next stage. -/
theorem run_program (decoded : Hex.decode payload.robohashHex = some robohash)
    (stage : SubmissionStage) :
    (program payload stage).run env w =
      (program payload (stage.advance payload robohash env w)).run env
        (stage.after payload env w) :=
  (staging payload robohash decoded).run_advance stage

/-- The four operations of a call whose PSBT gets stored. -/
theorem run_of_stores {isMaker : Bool} {row : TakenOffer}
    (stores : StoresPsbt env w payload isMaker row) :
    (program payload .validating).run env w =
      (program payload .fetching).run env (stored w payload isMaker) := by
  obtain ⟨unfailing, found, robohash, decoded, accepts⟩ := stores
  have looks {k : Nat} (below : k < 4) (goesOn : TakenOffer → SubmissionStage) :
      look refused payload.offerIdHex env (w.later k) goesOn = goesOn row :=
    look_of_found (w := w.later k) (unfailing k below) found goesOn
  calc (program payload .validating).run env w
      = (program payload .identifying).run env (w.later 1) := by
        rw [run_program decoded, SubmissionStage.advance,
          check_of_found (unfailing 0 (by decide)) found accepts.names]
        rfl
    _ = (program payload (.looking isMaker)).run env (w.later 2) := by
        rw [run_program decoded, SubmissionStage.advance, looks (by decide), accepts.role]
        rfl
    _ = (program payload (.storing isMaker)).run env (w.later 3) := by
        rw [run_program decoded, SubmissionStage.advance, looks (by decide), accepts.unsubmitted]
        rfl
    _ = (program payload .fetching).run env (stored w payload isMaker) := by
        rw [run_program decoded, SubmissionStage.advance, SubmissionStage.after, World.exec,
          World.later, unfailing 3 (by decide)]

/-- What becomes of a call that has stored its PSBT. -/
theorem run_fetching {w : World (coordinator P)} {row : TakenOffer}
    (decoded : Hex.decode payload.robohashHex = some robohash)
    (found : w.state.takenOffers.find? payload.offerIdHex = some row) :
    ((program payload .fetching).run env w).2.state = w.state ∧
      ((∃ e, ((program payload .fetching).run env w).1 =
          .submitEscrowPsbt (.error (.failed (.psbtInvalid e)))) ↔
        env.fault w.clock = none ∧ ∃ makerPsbt takerPsbt e,
          row.bothPsbts = some (makerPsbt, takerPsbt) ∧
          env.answer (w.clock + 1) (.combineAndBroadcastEscrowPsbt makerPsbt takerPsbt) =
            .error e) := by
  rw [run_program decoded, SubmissionStage.advance, SubmissionStage.after, look]
  cases fault : env.fault w.clock with
  | some failure =>
      refine ⟨rfl, iff_of_false ?_ ?_⟩
      · rintro ⟨e, same⟩
        cases same
      · rintro ⟨unfailing, -⟩
        cases unfailing
  | none =>
      rw [found]
      dsimp only
      cases both : row.bothPsbts with
      | none =>
          refine ⟨rfl, iff_of_false ?_ ?_⟩
          · rintro ⟨e, same⟩
            cases same
          · rintro ⟨-, makerPsbt, takerPsbt, e, there, -⟩
            cases there
      | some psbts =>
          dsimp only
          rw [run_program decoded, SubmissionStage.advance, SubmissionStage.after]
          cases answer : env.answer (World.tick w).clock
              (.combineAndBroadcastEscrowPsbt psbts.1 psbts.2) with
          | error e =>
              refine ⟨rfl, iff_of_true ⟨e, rfl⟩ ⟨rfl, psbts.1, psbts.2, e, rfl, answer⟩⟩
          | ok u =>
              refine ⟨rfl, iff_of_false ?_ ?_⟩
              · rintro ⟨e, same⟩
                cases same
              · rintro ⟨-, makerPsbt, takerPsbt, e, there, refuses⟩
                cases there
                cases answer.symm.trans refuses

end SubmissionStage

theorem run_serve_submitEscrowPsbt (env : Environment (coordinator P))
    (w : World (coordinator P)) (payload : PsbtSubmissionRequest) :
    ((Request.submitEscrowPsbt payload).serve P).run env w =
      (.submitEscrowPsbt (Call.exec env (handleSignedEscrowPsbt payload) w).1,
        (Call.exec env (handleSignedEscrowPsbt payload) w).2) :=
  Program.run_bind env (handleSignedEscrowPsbt (P := P) payload).run _ w

open SubmissionStage in
/-- The row is as before after every `PsbtInvalid` iff the call does not store a PSBT which the
    wallet then refuses to combine with the other one. -/
theorem escrowUnblocked_iff (env : Environment (coordinator P)) (w : World (coordinator P))
    (payload : PsbtSubmissionRequest) :
    EscrowUnblocked env w payload ↔ ¬ RefusedByWallet env w payload := by
  have run := run_serve_submitEscrowPsbt env w payload
  by_cases stores : ∃ isMaker row, StoresPsbt env w payload isMaker row
  · obtain ⟨isMaker, row, stores⟩ := stores
    obtain ⟨-, found, robohash, decoded, accepts⟩ := id stores
    have submitted : (stored w payload isMaker).state.takenOffers.find? payload.offerIdHex =
        some ((TakenOffer.setSignedEscrowPsbt isMaker payload.signedPsbtHex).apply row) := by
      simp only [Database.updateTaken, Table.find?_update_self, found, Option.map_some]
    rw [serve_submitEscrowPsbt, run_of_stores stores] at run
    obtain ⟨same, invalid⟩ := run_fetching decoded submitted
    rw [run] at same invalid
    constructor
    · rintro unblocked ⟨isMaker', row', makerPsbt, takerPsbt, e, stores', fault, both, refuses⟩
      cases found.symm.trans stores'.found
      obtain ⟨robohash', decoded', accepts'⟩ := stores'.accepts
      cases decoded.symm.trans decoded'
      cases accepts.role.symm.trans accepts'.role
      obtain ⟨e', answered⟩ := invalid.mpr ⟨fault, makerPsbt, takerPsbt, e, both, refuses⟩
      have restored := unblocked e' (Reply.submitEscrowPsbt.inj answered)
      rw [same, submitted, found, Option.some.injEq] at restored
      have unsubmitted := accepts.unsubmitted
      rw [← restored] at unsubmitted
      cases isMaker <;> cases unsubmitted
    · intro accepted e refused
      obtain ⟨fault, makerPsbt, takerPsbt, e', both, refuses⟩ :=
        invalid.mp ⟨e, congrArg Reply.submitEscrowPsbt refused⟩
      exact absurd ⟨isMaker, row, makerPsbt, takerPsbt, e', stores, fault, both, refuses⟩ accepted
  · have accepted : ¬ RefusedByWallet env w payload := by
      rintro ⟨isMaker, row, -, -, -, stored, -⟩
      exact stores ⟨isMaker, row, stored⟩
    refine iff_of_true ?_ accepted
    intro e _
    cases decoded : Hex.decode payload.robohashHex with
    | none =>
        rw [serve_of_undecodable payload decoded] at run
        rw [← congrArg Prod.snd run]
        rfl
    | some robohash =>
        obtain ⟨e', n, refused⟩ := (refuses_or_stores decoded).resolve_right stores
        rw [serve_submitEscrowPsbt] at run
        rw [← congrArg Prod.snd run]
        exact congrArg (fun ends => ends.2.state.takenOffers.find? payload.offerIdHex) refused

end Rejection

namespace Sample

/-- A wallet that combines only PSBTs that it can decode. -/
def decoding : Environment (coordinator .sample) where
  answer _
    | .combineAndBroadcastEscrowPsbt maker taker =>
        if (Hex.decode maker).isSome && (Hex.decode taker).isSome then .ok ()
        else .error .fromHex
    | query => answer query
  fault _ := none

def makerSubmission : PsbtSubmissionRequest := ⟨"70736274ff0a", offerId, makerBond.robohashHex⟩

/-- A PSBT that is no hexadecimal text. -/
def malformedSubmission : PsbtSubmissionRequest := ⟨"psbt", offerId, takerBond.robohashHex⟩

/-- The world in which the offer is taken and the maker has submitted its PSBT. -/
def submittedByMaker : World (coordinator .sample) :=
  runAlone decoding [.createOffer (order true), .submitMakerBond makerBond, .submitTakerBond take,
    .submitEscrowPsbt makerSubmission]

end Sample

/-- The taker submits a text that is no PSBT: it is refused, and it is stored. -/
theorem malformed_psbt_blocks :
    ¬ EscrowUnblocked Sample.decoding Sample.submittedByMaker Sample.malformedSubmission := by
  intro unblocked
  have refused : (Call.exec Sample.decoding (handleSignedEscrowPsbt Sample.malformedSubmission)
      Sample.submittedByMaker).1 = .error (.failed (.psbtInvalid .fromHex)) := by
    decide +kernel
  have stored : (Call.exec Sample.decoding (handleSignedEscrowPsbt Sample.malformedSubmission)
      Sample.submittedByMaker).2.state.takenOffers.find? Sample.offerId ≠
        Sample.submittedByMaker.state.takenOffers.find? Sample.offerId := by
    decide +kernel
  exact stored (unblocked _ refused)

end TapTrade
