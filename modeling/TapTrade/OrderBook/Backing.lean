import TapTrade.Model.Sample
import TapTrade.OrderBook.Origin

/-! # The bonds behind the order book

A maker's bond is validated against the terms that are pending when it comes in; the
offer that is listed has the terms that are pending when it is moved. Any number of
orders and bonds may be in progress, for the same or for different robohashes. As long
as no move finds other terms than its own bond was validated against, every offer in the
order book is backed.
-/

namespace TapTrade

open Relational Resumption

variable {ι : Type} {P : Platform}

/-- A call by which an offer gets nearer to the order book. -/
inductive Submission where
  | processOrder (offer : OfferRequest)
  | handleMakerBond (payload : BondSubmissionRequest)
  deriving DecidableEq, Repr

def Submission.program (P : Platform) : Submission → Program (coordinator P) Unit
  | processOrder offer => (TapTrade.processOrder offer).run.map fun _ => ()
  | handleMakerBond payload => (TapTrade.handleMakerBond payload).run.map fun _ => ()

/-- The bond and the requirements of a successful validation. -/
def validated? : Event (coordinator P) → Option (String × BondRequirements)
  | ⟨.validateBondTxHex bond requirements, .ok (), _⟩ => some (bond, requirements)
  | _ => none

/-- The bond was validated against the requirements. -/
def Validated (log : Log (coordinator P)) (bond : String) (requirements : BondRequirements) :
    Prop :=
  (bond, requirements) ∈ log.filterMap validated?

instance (log : Log (coordinator P)) (bond : String) (requirements : BondRequirements) :
    Decidable (Validated log bond requirements) := by
  unfold Validated
  infer_instance

theorem Validated.later {log log' : Log (coordinator P)} {bond : String}
    {requirements : BondRequirements} (validated : Validated log bond requirements)
    (grown : log <+: log') : Validated log' bond requirements :=
  (grown.filterMap validated?).subset validated

/-- The bond of every listed offer was validated against the terms of the offer. -/
def Backed (db : Database) (log : Log (coordinator P)) : Prop :=
  ∀ row ∈ db.activeMakerOffers.rows, Validated log row.bondTxHex row.monitoringBond.requirements

instance (db : Database) (log : Log (coordinator P)) : Decidable (Backed db log) := by
  unfold Backed
  infer_instance

/-- Backing as an invariant of runs. -/
def backing (P : Platform) : Invariant (coordinator P) where
  holds := Backed
  grows grown backed row member := (backed row member).later grown

/-- The terms that the move of a bond submission finds, if it finds any, are those that
    its first statement read: the bond was validated against them. -/
def SameTerms (payload : BondSubmissionRequest) (past : List Database) : Prop :=
  ∀ read ∈ past[0]?, ∀ moved ∈ past[4]?, ∀ robohash ∈ Hex.decode payload.robohashHex,
    ∀ row ∈ moved.makerRequests.find? robohash,
      (read.makerRequests.find? robohash).map MakerRequest.bondRequirements =
        some row.bondRequirements

instance (payload : BondSubmissionRequest) (past : List Database) :
    Decidable (SameTerms payload past) := by
  unfold SameTerms
  infer_instance

/-- The condition on what a call has seen. -/
def Submission.Undisturbed : Submission → List Database → Prop
  | processOrder _, _ => True
  | handleMakerBond payload, past => SameTerms payload past

instance (submission : Submission) (past : List Database) :
    Decidable (submission.Undisturbed past) := by
  cases submission <;> unfold Submission.Undisturbed <;> infer_instance

theorem Submission.Undisturbed.earlier {submission : Submission} {past past' : List Database}
    (earlier : past <+: past') (undisturbed : submission.Undisturbed past') :
    submission.Undisturbed past := by
  cases submission with
  | processOrder offer => trivial
  | handleMakerBond payload =>
      intro read first moved fifth
      exact undisturbed read (mem_getElem?_of_grown earlier first) moved
        (mem_getElem?_of_grown earlier fifth)

section Safe

open Call

theorem backing_processOrder (order : OfferRequest) :
    (processOrder order : Act P Error _).Safe (backing P) condition (fun _ _ _ => True) past
      log := by
  apply Keeps.safe (pending_processOrder order) (fun _ _ _ pending backed => ?_) fun _ _ _ =>
    trivial
  intro row member
  exact backed row (pending.activeMakerOffers ▸ member)

/-- The requirements of a listed offer are those of the pending row it was read from. -/
theorem monitoringBond_activeRow {row : MakerRequest} {offer : AwaitingBondOffer}
    (read : AwaitingBondOffer.ofRow row = some offer) (offerId : String) (robohash : Bytes)
    (data : BondSubmissionRequest) (takerBondAddress : String) :
    (activeRow offerId robohash offer data takerBondAddress).monitoringBond.requirements =
      row.bondRequirements := by
  obtain ⟨-, amount, address, bondAmount⟩ := AwaitingBondOffer.ofRow_eq_some read
  simp [activeRow, ActiveMakerOffer.monitoringBond, MakerRequest.bondRequirements, amount, address,
    bondAmount]

theorem Backed.insertActive {db : Database} {row : ActiveMakerOffer} (backed : Backed db log)
    (validated : Validated log row.bondTxHex row.monitoringBond.requirements) :
    Backed (db.insertActive row) log := by
  intro row' member
  rcases List.mem_append.mp member with old | new
  · exact backed row' (List.mem_of_mem_filter old)
  · rwa [List.mem_singleton.mp new]

theorem backing_handleMakerBond (payload : BondSubmissionRequest) :
    (handleMakerBond payload : Act P BondError _).Safe (backing P) (SameTerms payload)
      (fun _ _ _ => True) [] log := by
  refine Safe.bind (Safe.mapError (Safe.bind (safe_hexDecode fun robohash _ decoded _ => ?_)))
  refine Safe.bind (safe_fetchOne fun read _ pending _ _ _ found => safe_pure fun _ _ => ?_)
  refine Safe.bind (Safe.mapError (safe_tryAsk fun _ log₁ given _ _ _ _ accepted log₂ asked => ?_))
  have validated : Validated log₂ payload.signedBondHex pending.bondRequirements := by
    cases given with
    | error e => cases accepted
    | ok u =>
        refine Validated.later ?_ asked
        simp [Validated, validated?]
  refine Safe.since (Safe.bind (safe_ask fun _ _ offerId _ _ _ _ _ => ?_))
  refine Safe.bind (Safe.mapError (safe_tryAsk fun _ _ _ address _ _ _ _ _ _ => ?_))
  -- the move starts with a second look at the pending row
  refine Safe.bind (Safe.mapError (Safe.bind (Safe.bind ?_)))
  refine safe_hexDecode fun robohash' _ decoded' _ => ?_
  refine Safe.bind (safe_fetchOne fun moved _ row _ _ same found' => ?_)
  have terms : pending.bondRequirements = row.bondRequirements := by
    have := same read rfl moved rfl robohash' decoded' row found'
    cases decoded.symm.trans decoded'
    simpa [found] using this
  refine Safe.bind (safe_ofOption fun offer readOffer _ _ => Safe.bind (safe_execute ?_))
  intro _ _ _ backed _
  refine ⟨backed, fun _ _ => safe_pure fun _ _ => ?_⟩
  refine Safe.bind (safe_hexDecode fun _ _ _ _ => Safe.bind (safe_execute ?_))
  intro _ _ _ backed' _
  refine ⟨⟨backed'.1.insertActive ?_, backed'.2⟩, fun _ _ => safe_pure fun _ _ => safe_pure ?_⟩
  · rw [monitoringBond_activeRow readOffer, ← terms]
    exact validated.later backed'.2
  · exact fun _ _ => trivial

end Safe

/-- The two handlers in any interleaving, for any robohashes: as long as no move finds
    other terms than those its bond was validated against, every offer in the order book
    is backed by a bond that was validated against the terms of the offer. -/
theorem backed_play [DecidableEq ι] (env : Environment (coordinator P))
    (submissions : ι → Submission) (schedule : List ι)
    (undisturbed : ∀ i, (submissions i).Undisturbed
      (((Pool.start (startup P) fun i => (submissions i).program P).play env schedule).past i)) :
    Backed ((Pool.start (startup P) fun i => (submissions i).program P).play env
        schedule).world.state
      ((Pool.start (startup P) fun i => (submissions i).program P).play env
        schedule).world.log := by
  have safe (i : ι) : ((submissions i).program P).Safe (backing P) (submissions i).Undisturbed
      (fun _ _ _ => True) [] [] := by
    cases submissions i with
    | processOrder offer =>
        exact Program.Safe.bind (Program.Safe.mono (backing_processOrder offer)
          fun _ _ _ _ _ _ => trivial)
    | handleMakerBond payload =>
        exact Program.Safe.bind (Program.Safe.mono (backing_handleMakerBond payload)
          fun _ _ _ _ _ _ => trivial)
  have start : Pool.Keeping (backing P) (fun i => (submissions i).Undisturbed)
      (fun _ _ _ _ => True) (Pool.start (startup P) fun i => (submissions i).program P) :=
    ⟨fun row member => (List.not_mem_nil member).elim, safe⟩
  exact (Pool.safe_play schedule (fun _ _ _ => Submission.Undisturbed.earlier) start
    undisturbed).holds

namespace Sample

/-- An order, the bond for it, and another order by the same maker for twice the amount. -/
def submissions : Fin 3 → Submission
  | 0 => .processOrder (order true)
  | 1 => .handleMakerBond makerBond
  | 2 => .processOrder { order true with amountSatoshi := 200000 }

def submissionPool (schedule : List (Fin 3)) : Pool (coordinator .sample) (Fin 3) Unit :=
  (Pool.start (startup .sample) fun i => (submissions i).program .sample).play environment schedule

end Sample

/-- The second order comes when the offer is already listed. -/
theorem backed_play_sample :
    Backed (Sample.submissionPool [0, 0, 1, 1, 1, 1, 1, 1, 1, 2, 2]).world.state
      (Sample.submissionPool [0, 0, 1, 1, 1, 1, 1, 1, 1, 2, 2]).world.log :=
  backed_play Sample.environment Sample.submissions [0, 0, 1, 1, 1, 1, 1, 1, 1, 2, 2]
    (by decide +kernel)

/-- The second order comes between the validation of the bond and the move: the offer is
    listed for twice the amount. -/
theorem not_backed_after_swap :
    ¬ Backed (Sample.submissionPool [0, 0, 1, 1, 1, 1, 2, 2, 1, 1, 1]).world.state
      (Sample.submissionPool [0, 0, 1, 1, 1, 1, 2, 2, 1, 1, 1]).world.log := by
  decide +kernel

end TapTrade
