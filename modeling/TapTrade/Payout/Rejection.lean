import TapTrade.Model.Sample
import TapTrade.Payout.Signatures

/-! # Rejected payout signatures

A partial signature is stored, for good, before it is parsed. Whatever fails after that,
the aggregation, the broadcast or a statement, leaves the signature in the row, where it
keeps the trader from submitting another one.
-/

namespace TapTrade

open Relational Resumption

section Rejection

variable {P : Platform} {env : Environment (coordinator P)} {w w₁ : World (coordinator P)}
  {payload : PayoutSignatureRequest} {robohash : Bytes}

/-- A signature that is answered with an error leaves the row as it was. -/
def PayoutUnblocked (env : Environment (coordinator P)) (w : World (coordinator P))
    (payload : PayoutSignatureRequest) : Prop :=
  ∀ e, (Call.exec env (handlePayoutSignature payload) w).1 = .error (.failed e) →
    (Call.exec env (handlePayoutSignature payload) w).2.state.takenOffers.find?
      payload.offerIdHex = w.state.takenOffers.find? payload.offerIdHex

/-- The signature gets stored in the row: it is the first one of its trader, the escrow is
    confirmed, and none of the five statements up to the write fails. -/
structure StoresSignature (env : Environment (coordinator P)) (w : World (coordinator P))
    (payload : PayoutSignatureRequest) (isMaker : Bool) (row : TakenOffer) : Prop where
  unfailing : ∀ k < 5, env.fault (w.clock + k) = none
  found : w.state.takenOffers.find? payload.offerIdHex = some row
  accepts : ∃ robohash, Hex.decode payload.robohashHex = some robohash ∧
    row.AcceptsSignature robohash isMaker

/-- The payout transaction is refused by the node, or the offer cannot be deleted after it. -/
def FailsToBroadcast (env : Environment (coordinator P)) (tick : Nat)
    (context : KeyspendContext P) : Prop :=
  (∃ e, env.answer tick (.broadcastKeyspendTx context) = .error e) ∨ env.fault (tick + 1) ≠ none

/-- The payout cannot be finished from the row: a statement fails, the signatures do not
    aggregate, or the node does not take the transaction. -/
def FailsToFinish (env : Environment (coordinator P)) (tick : Nat) (row : TakenOffer) : Prop :=
  env.fault tick ≠ none ∨ (∃ e, row.keyspendContext P = .error e) ∨
    ∃ context, row.keyspendContext P = .ok (some context) ∧ FailsToBroadcast env (tick + 1) context

/-- The call stores the signature and then fails. -/
def Blocks (env : Environment (coordinator P)) (w : World (coordinator P))
    (payload : PayoutSignatureRequest) : Prop :=
  ∃ isMaker row, StoresSignature env w payload isMaker row ∧
    FailsToFinish env (w.clock + 5)
      ((TakenOffer.setPartialSig isMaker payload.partialSigHex).apply row)

namespace SignatureStage

/-- The world after five operations, of which the last one has stored the signature. -/
abbrev stored (w : World (coordinator P)) (payload : PayoutSignatureRequest) (isMaker : Bool) :
    World (coordinator P) :=
  ⟨w.state.updateTaken payload.offerIdHex (TakenOffer.setPartialSig isMaker payload.partialSigHex),
    w.log, w.clock + 5⟩

/-- A call is refused and leaves the database as it is, or its signature gets stored. -/
theorem refuses_or_stores (decoded : Hex.decode payload.robohashHex = some robohash) :
    Refuses (staging payload robohash decoded) refused env w .validating ∨
      ∃ isMaker row, StoresSignature env w payload isMaker row := by
  have started : (staging payload robohash decoded).Reaches env w .validating 0 .validating :=
    .start
  obtain refuses | ⟨row, found, names, validated⟩ := reaches_check started rfl rfl
  · exact .inl refuses
  obtain refuses | ⟨row₁, found₁, confirmed⟩ := reaches_look validated rfl rfl
  · exact .inl refuses
  cases found.symm.trans found₁
  split at confirmed
  case isFalse => exact .inl ⟨_, _, confirmed.run⟩
  case isTrue isConfirmed =>
  obtain refuses | ⟨row₂, found₂, identified⟩ := reaches_look confirmed rfl rfl
  · exact .inl refuses
  cases found.symm.trans found₂
  split at identified
  case h_2 => exact .inl ⟨_, _, identified.run⟩
  case h_1 isMaker role =>
  obtain refuses | ⟨row₃, found₃, looked⟩ := reaches_look identified rfl rfl
  · exact .inl refuses
  cases found.symm.trans found₃
  split at looked
  case isTrue => exact .inl ⟨_, _, looked.run⟩
  case isFalse unsigned =>
  cases fault : env.fault (w.later 4).clock with
  | some failure =>
      have run := looked.run_next
      simp only [SignatureStage.advance, SignatureStage.after, World.exec, fault] at run
      exact .inl ⟨_, 5, run⟩
  | none =>
      have accepts : row.AcceptsSignature robohash isMaker :=
        ⟨names, isConfirmed, role, Option.not_isSome_iff_eq_none.mp unsigned⟩
      exact .inr ⟨isMaker, row, Staging.unfailing_succ looked.unfailing fault, found, robohash,
        decoded, accepts⟩

/-- The rest of the call runs from the next stage. -/
theorem run_program (decoded : Hex.decode payload.robohashHex = some robohash)
    (stage : SignatureStage P) :
    (program payload stage).run env w =
      (program payload (stage.advance payload robohash env w)).run env
        (stage.after payload env w) :=
  (staging payload robohash decoded).run_advance stage

/-- The five operations of a call whose signature gets stored. -/
theorem run_of_stores {isMaker : Bool} {row : TakenOffer}
    (stores : StoresSignature env w payload isMaker row) :
    (program payload .validating).run env w =
      (program payload .aggregating).run env (stored w payload isMaker) := by
  obtain ⟨unfailing, found, robohash, decoded, accepts⟩ := stores
  have looks {k : Nat} (below : k < 5) (goesOn : TakenOffer → SignatureStage P) :
      look refused payload.offerIdHex env (w.later k) goesOn = goesOn row :=
    look_of_found (w := w.later k) (unfailing k below) found goesOn
  calc (program payload .validating).run env w
      = (program payload .confirming).run env (w.later 1) := by
        rw [run_program decoded, SignatureStage.advance,
          check_of_found (unfailing 0 (by decide)) found accepts.names]
        rfl
    _ = (program payload .identifying).run env (w.later 2) := by
        rw [run_program decoded, SignatureStage.advance, looks (by decide), if_pos accepts.confirmed]
        rfl
    _ = (program payload (.looking isMaker)).run env (w.later 3) := by
        rw [run_program decoded, SignatureStage.advance, looks (by decide), accepts.role]
        rfl
    _ = (program payload (.storing isMaker)).run env (w.later 4) := by
        rw [run_program decoded, SignatureStage.advance, looks (by decide), accepts.unsigned]
        rfl
    _ = (program payload .aggregating).run env (stored w payload isMaker) := by
        rw [run_program decoded, SignatureStage.advance, SignatureStage.after, World.exec,
          World.later, unfailing 4 (by decide)]

/-- What becomes of a call that broadcasts the payout. -/
theorem run_broadcasting (w₁ : World (coordinator P))
    (decoded : Hex.decode payload.robohashHex = some robohash) (context : KeyspendContext P) :
    (FailsToBroadcast env w₁.clock context ∧
      (∃ e, ((program payload (.broadcasting context)).run env w₁).1 =
        .submitPayoutSignature (.error (.failed e))) ∧
      ((program payload (.broadcasting context)).run env w₁).2.state = w₁.state) ∨
    (¬ FailsToBroadcast env w₁.clock context ∧
      ((program payload (.broadcasting context)).run env w₁).1 =
        .submitPayoutSignature (.ok true)) := by
  rw [run_program decoded, SignatureStage.advance, SignatureStage.after]
  cases answer : env.answer w₁.clock (.broadcastKeyspendTx context) with
  | error e => exact .inl ⟨.inl ⟨e, answer⟩, ⟨_, rfl⟩, rfl⟩
  | ok u =>
      dsimp only
      rw [run_program decoded, SignatureStage.advance, SignatureStage.after, World.exec]
      cases fault : env.fault (w₁.ask env (.broadcastKeyspendTx context)).2.clock with
      | some failure =>
          refine .inl ⟨.inr ?_, ⟨_, rfl⟩, rfl⟩
          exact ne_of_eq_of_ne fault (Option.some_ne_none failure)
      | none =>
          refine .inr ⟨?_, rfl⟩
          rintro (⟨e, fails⟩ | faulty)
          · cases answer.symm.trans fails
          · exact faulty fault

/-- What becomes of a call that has stored its signature. -/
theorem run_aggregating {row : TakenOffer}
    (decoded : Hex.decode payload.robohashHex = some robohash)
    (found : w₁.state.takenOffers.find? payload.offerIdHex = some row) :
    (FailsToFinish env w₁.clock row ∧
      (∃ e, ((program payload .aggregating).run env w₁).1 =
        .submitPayoutSignature (.error (.failed e))) ∧
      ((program payload .aggregating).run env w₁).2.state = w₁.state) ∨
    (¬ FailsToFinish env w₁.clock row ∧
      ∃ finished, ((program payload .aggregating).run env w₁).1 =
        .submitPayoutSignature (.ok finished)) := by
  rw [run_program decoded, SignatureStage.advance, SignatureStage.after, look]
  cases fault : env.fault w₁.clock with
  | some failure =>
      refine .inl ⟨.inl ?_, ⟨_, rfl⟩, rfl⟩
      exact ne_of_eq_of_ne fault (Option.some_ne_none failure)
  | none =>
      rw [found]
      dsimp only
      cases read : row.keyspendContext P with
      | error e => exact .inl ⟨.inr (.inl ⟨e, read⟩), ⟨_, rfl⟩, rfl⟩
      | ok context =>
          cases context with
          | none =>
              refine .inr ⟨?_, false, rfl⟩
              rintro (faulty | ⟨e, fails⟩ | ⟨context, ready, -⟩)
              · exact faulty fault
              · cases read.symm.trans fails
              · cases read.symm.trans ready
          | some context =>
              rcases run_broadcasting (World.tick w₁) decoded context with
                ⟨fails, refused, same⟩ | ⟨finishes, answered⟩
              · exact .inl ⟨.inr (.inr ⟨context, read, fails⟩), refused, same⟩
              · refine .inr ⟨?_, true, answered⟩
                rintro (faulty | ⟨e, fails⟩ | ⟨context', ready, fails⟩)
                · exact faulty fault
                · cases read.symm.trans fails
                · cases read.symm.trans ready
                  exact finishes fails

end SignatureStage

theorem run_serve_submitPayoutSignature (env : Environment (coordinator P))
    (w : World (coordinator P)) (payload : PayoutSignatureRequest) :
    ((Request.submitPayoutSignature payload).serve P).run env w =
      (.submitPayoutSignature (Call.exec env (handlePayoutSignature payload) w).1,
        (Call.exec env (handlePayoutSignature payload) w).2) :=
  Program.run_bind env (handlePayoutSignature (P := P) payload).run _ w

open SignatureStage in
/-- The row is as before after every error iff the call does not fail once it has stored its
    signature. -/
theorem payoutUnblocked_iff (env : Environment (coordinator P)) (w : World (coordinator P))
    (payload : PayoutSignatureRequest) :
    PayoutUnblocked env w payload ↔ ¬ Blocks env w payload := by
  have run := run_serve_submitPayoutSignature env w payload
  by_cases stores : ∃ isMaker row, StoresSignature env w payload isMaker row
  · obtain ⟨isMaker, row, stores⟩ := stores
    obtain ⟨-, found, robohash, decoded, accepts⟩ := id stores
    have signed : (stored w payload isMaker).state.takenOffers.find? payload.offerIdHex =
        some ((TakenOffer.setPartialSig isMaker payload.partialSigHex).apply row) := by
      simp only [Database.updateTaken, Table.find?_update_self, found, Option.map_some]
    rw [serve_submitPayoutSignature, run_of_stores stores] at run
    rcases run_aggregating decoded signed with
      ⟨fails, ⟨e, refused⟩, same⟩ | ⟨finishes, finished, answered⟩
    · refine iff_of_false ?_ fun unblocked => unblocked ⟨isMaker, row, stores, fails⟩
      intro unblocked
      rw [run] at refused same
      have restored := unblocked e (Reply.submitPayoutSignature.inj refused)
      rw [same, signed, found, Option.some.injEq] at restored
      have unsigned := accepts.unsigned
      rw [← restored] at unsigned
      cases isMaker <;> cases unsigned
    · refine iff_of_true ?_ ?_
      · intro e refused
        rw [run, refused] at answered
        cases answered
      · rintro ⟨isMaker', row', ⟨-, found', robohash', decoded', accepts'⟩, fails⟩
        cases found.symm.trans found'
        cases decoded.symm.trans decoded'
        cases accepts.role.symm.trans accepts'.role
        exact finishes fails
  · have unblocked : ¬ Blocks env w payload := by
      rintro ⟨isMaker, row, stored, -⟩
      exact stores ⟨isMaker, row, stored⟩
    refine iff_of_true ?_ unblocked
    intro e _
    cases decoded : Hex.decode payload.robohashHex with
    | none =>
        rw [serve_of_undecodable payload decoded] at run
        rw [← congrArg Prod.snd run]
        rfl
    | some robohash =>
        obtain ⟨e', n, refused⟩ := (refuses_or_stores decoded).resolve_right stores
        rw [serve_submitPayoutSignature] at run
        rw [← congrArg Prod.snd run]
        exact congrArg (fun ends => ends.2.state.takenOffers.find? payload.offerIdHex) refused

end Rejection

namespace Sample

/-- The world in which the maker has signed the payout. -/
def signedByMaker : World (coordinator .sample) :=
  runAlone environment (prepared ++ [.submitPayoutSignature makerSignature])

/-- A signature that cannot be parsed. -/
def malformedSignature : PayoutSignatureRequest := { takerSignature with partialSigHex := "zz" }

end Sample

/-- The taker submits a signature that cannot be parsed: it is refused, and it is stored. -/
theorem malformed_signature_blocks :
    ¬ PayoutUnblocked Sample.environment Sample.signedByMaker Sample.malformedSignature := by
  intro unblocked
  have refused : (Call.exec Sample.environment (handlePayoutSignature Sample.malformedSignature)
      Sample.signedByMaker).1 =
        .error (.failed (.database (.library "PartialSignature::from_hex"))) := by
    decide +kernel
  have stored : (Call.exec Sample.environment (handlePayoutSignature Sample.malformedSignature)
      Sample.signedByMaker).2.state.takenOffers.find? Sample.offerId ≠
        Sample.signedByMaker.state.takenOffers.find? Sample.offerId := by
    decide +kernel
  exact stored (unblocked _ refused)

end TapTrade
