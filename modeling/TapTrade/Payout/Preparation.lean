import TapTrade.Model.Sample
import TapTrade.Payout.Signatures

/-! # Signatures before the payout

That a payout is signed only once it has been assembled is stored nowhere as a state. The
handler of a partial signature looks at the confirmation of the escrow and not at the payout
transaction, so a trader can sign before there is one. If every signature is stored in a row
that has a payout transaction, no other handler breaks that order.
-/

namespace TapTrade

open Relational Resumption

section Preparation

variable {P : Platform} {ι : Type} {offerId : String}

/-- A payout is signed only if it has been assembled. -/
def TakenOffer.SignedInOrder (row : TakenOffer) : Prop :=
  row.musigPartialSigHexMaker ≠ none ∨ row.musigPartialSigHexTaker ≠ none →
    row.payoutTransactionPsbtHex ≠ none

/-- The request submits a partial signature for the payout of the offer. -/
def Request.SignsPayout (offerId : String) : Request → Prop
  | .submitPayoutSignature payload => payload.offerIdHex = offerId
  | _ => False

instance (offerId : String) : DecidablePred (Request.SignsPayout offerId)
  | .submitPayoutSignature _ => inferInstanceAs (Decidable (_ = _))
  | .createOffer _ | .submitMakerBond _ | .fetchAvailableOffers _ | .submitTakerBond _
  | .requestOfferStatus _ | .submitEscrowPsbt _ | .pollEscrowConfirmation _
  | .submitObligationConfirmation _ | .requestEscrow _ | .pollFinalPayout _
  | .monitorBonds | .updateTransactionConfirmations | .escrowCliLoop => .isFalse id

open Database

theorem signedInOrder_takenRow (offer : AwaitingTakerOffer) (robohash : Bytes)
    (payload : OfferPsbtRequest) (escrow : EscrowPsbt) :
    (takenRow offer robohash payload escrow).SignedInOrder :=
  fun signed => absurd rfl (signed.elim id id)

/-- No other request breaks the order. -/
theorem signedInOrder_served {request : Request} {before after : Database}
    (other : ¬ request.SignsPayout offerId) (served : Served request before after)
    (ordered : before.AtOffer offerId TakenOffer.SignedInOrder) :
    after.AtOffer offerId TakenOffer.SignedInOrder := by
  cases served with
  | reads => exact ordered
  | writes permitted =>
      cases permitted with
      | createOffer | delistPending | activate | delist | punish => exact ordered
      | take => exact ordered.insertTaken fun _ => signedInOrder_takenRow _ _ _ _
      | signEscrow isMaker | confirmObligation isMaker | complain isMaker =>
          refine ordered.updateTaken fun _ row kept => ?_
          cases isMaker <;> exact kept
      | openDispute | toggleProcessing | decide => exact ordered.updateTaken fun _ _ kept => kept
      | storePayout psbt => exact ordered.updateTaken fun _ _ _ _ => nofun
      | signPayout isMaker => exact ordered.updateTaken fun about => absurd about other
      | finish => exact ordered.deleteTaken
      | confirmEscrow txid => exact ordered.confirm fun _ kept => kept

/-- A step of a call that submits a signature of the payout. -/
theorem signedInOrder_after {payload : PayoutSignatureRequest} {stage : SignatureStage P}
    {env : Environment (coordinator P)} {w : World (coordinator P)}
    (ordered : w.state.AtOffer offerId TakenOffer.SignedInOrder)
    (prepared : ∀ isMaker, stage = .storing isMaker →
      w.state.AtOffer offerId fun row => row.payoutTransactionPsbtHex ≠ none) :
    (stage.after payload env w).state.AtOffer offerId TakenOffer.SignedInOrder := by
  cases stage with
  | storing isMaker =>
      rcases World.exec_state env (fun db : Database => ((), db.updateTaken payload.offerIdHex
        (TakenOffer.setPartialSig isMaker payload.partialSigHex))) w with same | ⟨-, wrote⟩
      · rw [SignatureStage.after, same]
        exact ordered
      · rw [SignatureStage.after, wrote]
        have stored : (w.state.updateTaken payload.offerIdHex
            (TakenOffer.setPartialSig isMaker payload.partialSigHex)).AtOffer offerId
              fun row => row.payoutTransactionPsbtHex ≠ none := by
          refine (prepared isMaker rfl).updateTaken fun _ row stored => ?_
          cases isMaker <;> exact stored
        exact fun row found _ => stored row found
  | finishing =>
      rcases World.exec_state env (fun db : Database => ((), db.deleteTaken payload.offerIdHex))
        w with same | ⟨-, deleted⟩
      · rw [SignatureStage.after, same]
        exact ordered
      · rw [SignatureStage.after, deleted]
        exact ordered.deleteTaken
  | _ => exact ordered

variable [DecidableEq ι] {requests : ι → Request} {pool : Pool (coordinator P) ι Reply}
  {env : Environment (coordinator P)} {i : ι}

/-- A call that is about to store a partial signature, its fifth operation, finds the payout
    transaction stored. -/
def SignsPrepared (offerId : String) (requests : ι → Request) (pool : Pool (coordinator P) ι Reply)
    (i : ι) : Prop :=
  (requests i).SignsPayout offerId → pool.About i 4 →
    pool.world.state.AtOffer offerId fun row => row.payoutTransactionPsbtHex ≠ none

/-- The signatures of the offer come after its payout, and every call that submits one is at
    a stage. -/
structure Ordered (offerId : String) (requests : ι → Request)
    (pool : Pool (coordinator P) ι Reply) : Prop where
  ordered : pool.world.state.AtOffer offerId TakenOffer.SignedInOrder
  signing : ∀ j payload, requests j = .submitPayoutSignature payload →
    SignatureStage.Submits payload (pool.past j).length (pool.calls j)
  keeps : ∀ j, (pool.calls j).Keeps (Served (requests j))

theorem Ordered.step (ordered : Ordered offerId requests pool)
    (prepared : SignsPrepared offerId requests pool i) :
    Ordered offerId requests (pool.step env i) := by
  refine ⟨?_, fun j => ?_, Pool.keeps_step ordered.keeps env i⟩
  · have served := (ordered.keeps i).step_state env pool.world
    by_cases signs : (requests i).SignsPayout offerId
    · cases request : requests i with
      | submitPayoutSignature payload =>
          rw [request] at signs
          change ((pool.calls i).step env pool.world).2.state.AtOffer offerId _
          rcases ordered.signing i payload request with ended | ⟨robohash, decoded, stage, at_stage⟩
          · rw [Program.step_of_ended ended]
            exact ordered.ordered
          · rw [(at_stage.step env pool.world).2]
            refine signedInOrder_after ordered.ordered ?_
            rintro isMaker rfl
            exact prepared (request ▸ signs) ((at_stage.about_iff 4).mpr ⟨rfl, rfl⟩)
      | _ =>
          rw [request] at signs
          exact signs.elim
    · exact signedInOrder_served signs served ordered.ordered
  · apply Pool.forall_step fun j n p => ∀ payload, requests j = .submitPayoutSignature payload →
      SignatureStage.Submits payload n p
    · exact fun j _ => ordered.signing j
    · exact fun payload signs => (ordered.signing i payload signs).step env pool.world

/-- Whatever the coordinator is asked, in whatever interleaving: if every call that stores a
    partial signature for the offer finds its payout transaction stored, then a payout that is
    signed has been assembled. -/
theorem signedInOrder_play (env : Environment (coordinator P)) (offerId : String)
    (requests : ι → Request) {schedule : List ι}
    (prepared : Course.Throughout (Pool.step env) (SignsPrepared offerId requests)
      (Pool.start (startup P) fun i => (requests i).serve P) schedule) :
    ((Pool.start (startup P) fun i => (requests i).serve P).play env
      schedule).world.state.AtOffer offerId TakenOffer.SignedInOrder := by
  have start : Ordered offerId requests (Pool.start (startup P) fun i => (requests i).serve P) := by
    refine ⟨AtOffer.startup, fun j payload signs => ?_, fun i => writes_serve P (requests i)⟩
    have serves : (Pool.start (startup P) fun i => (requests i).serve P).calls j =
        (Request.submitPayoutSignature payload).serve P := congrArg (Request.serve P) signs
    rw [serves]
    exact SignatureStage.submits_serve payload
  exact (Course.invariant_foldl (Ordered offerId requests) (fun pool i kept met => kept.step met)
    start prepared).ordered

instance (pool : Pool (coordinator P) ι Reply) : DecidablePred (SignsPrepared offerId requests pool) :=
  fun _ => inferInstanceAs (Decidable (_ → _ → _))

end Preparation

namespace Sample

/-- A trade up to the payout, and the signature of the maker. -/
def closingInOrder : Fin 8 → Request
  | 0 => .createOffer (order true)
  | 1 => .submitMakerBond makerBond
  | 2 => .submitTakerBond take
  | 3 => .updateTransactionConfirmations
  | 4 => .submitObligationConfirmation makerPoll
  | 5 => .submitObligationConfirmation takerPoll
  | 6 => .pollFinalPayout makerPoll
  | 7 => .submitPayoutSignature makerSignature

/-- Each of the calls runs to its end before the next one starts. -/
def serially (calls : List (Fin 8)) : List (Fin 8) := calls.flatMap (List.replicate 12)

/-- The pool after the calls were served one after the other. -/
def closedInOrder (calls : List (Fin 8)) : Pool (coordinator .sample) (Fin 8) Reply :=
  (Pool.start (startup .sample) fun i => (closingInOrder i).serve .sample).play environment
    (serially calls)

end Sample

theorem signedInOrder_play_sample :
    (Sample.closedInOrder [0, 1, 2, 3, 4, 5, 6, 7]).world.state.AtOffer Sample.offerId
      TakenOffer.SignedInOrder :=
  signedInOrder_play Sample.environment Sample.offerId Sample.closingInOrder (by decide +kernel)

/-- The maker signs as soon as the escrow is confirmed, and no payout is there yet. -/
theorem signed_before_payout :
    ¬ (Sample.closedInOrder [0, 1, 2, 3, 7]).world.state.AtOffer Sample.offerId
      TakenOffer.SignedInOrder := by
  intro ordered
  have signed : ((Sample.closedInOrder [0, 1, 2, 3, 7]).world.state.takenOffers.find?
      Sample.offerId).map (fun row => (row.musigPartialSigHexMaker,
        row.payoutTransactionPsbtHex)) = some (some Sample.makerPartialSig, none) := by
    decide +kernel
  obtain ⟨row, found, columns⟩ := Option.map_eq_some_iff.mp signed
  obtain ⟨signature, missing⟩ := Prod.mk.inj columns
  exact ordered row found (.inl (signature ▸ nofun)) missing

end TapTrade
