import TapTrade.Escrow.Submissions
import TapTrade.Model.Sample

/-! # The broadcast of the escrow

Each trader stores the signed escrow PSBT in one statement and looks at both in a later one.
Whichever of the two columns is filled last, the call that fills it looks afterwards, and no
other call empties a column: so long as nothing fails, it finds both PSBTs, and has them
combined and broadcast.
-/

namespace TapTrade

open Relational Resumption

section Broadcast

variable {P : Platform} {ι : Type} {offerId : String} {row : TakenOffer} {requests : ι → Request}

/-- The PSBT was submitted for the offer by its maker or by its taker. -/
def SubmittedBy (offerId : String) (row : TakenOffer) (requests : ι → Request) (isMaker : Bool)
    (psbt : String) : Prop :=
  ∃ j payload robohash, requests j = .submitEscrowPsbt payload ∧ payload.offerIdHex = offerId ∧
    Hex.decode payload.robohashHex = some robohash ∧ row.role? robohash = some isMaker ∧
      payload.signedPsbtHex = psbt

/-- A call had a PSBT of the maker and one of the taker combined and broadcast. -/
def Combines (offerId : String) (row : TakenOffer) (requests : ι → Request)
    (event : Event (coordinator P)) : Prop :=
  ∃ makerPsbt takerPsbt, event.query = .combineAndBroadcastEscrowPsbt makerPsbt takerPsbt ∧
    SubmittedBy offerId row requests true makerPsbt ∧
      SubmittedBy offerId row requests false takerPsbt

namespace TakenOffer

/-- The same trade with the same signed PSBTs. -/
structure SameSubmissions (now later : TakenOffer) : Prop where
  trade : later.trade = now.trade
  signedPsbt : ∀ isMaker, later.signedPsbt isMaker = now.signedPsbt isMaker

theorem role?_of_trade {now : TakenOffer} (same : now.trade = row.trade) (robohash : Bytes) :
    now.role? robohash = row.role? robohash := by
  have maker := congrArg TakenOffer.robohashMaker same
  have taker := congrArg TakenOffer.robohashTaker same
  simp only [trade] at maker taker
  rw [role?, role?, maker, taker]

theorem signedPsbt_setSignedEscrowPsbt (now : TakenOffer) (isMaker : Bool) (psbt : String)
    (other : Bool) : ((setSignedEscrowPsbt isMaker psbt).apply now).signedPsbt other =
      if other = isMaker then some psbt else now.signedPsbt other := by
  cases isMaker <;> cases other <;> rfl

theorem bothPsbts_eq_some {now : TakenOffer} {makerPsbt takerPsbt : String} :
    now.bothPsbts = some (makerPsbt, takerPsbt) ↔
      now.signedPsbt true = some makerPsbt ∧ now.signedPsbt false = some takerPsbt := by
  rcases maker : now.signedEscrowPsbtHexMaker with _ | m <;>
    rcases taker : now.signedEscrowPsbtHexTaker with _ | t <;>
      simp [bothPsbts, signedPsbt, maker, taker]

theorem bothPsbts_eq_none {now : TakenOffer} :
    now.bothPsbts = none ↔ ∃ isMaker, now.signedPsbt isMaker = none := by
  rcases maker : now.signedEscrowPsbtHexMaker with _ | m <;>
    rcases taker : now.signedEscrowPsbtHexTaker with _ | t <;>
      simp [bothPsbts, signedPsbt, maker, taker]

end TakenOffer

open Database

/-- The request submits a signed escrow PSBT of the offer. -/
def Request.SubmitsEscrow (offerId : String) : Request → Prop
  | .submitEscrowPsbt payload => payload.offerIdHex = offerId
  | _ => False

/-- Other requests leave the offer and its signed PSBTs as they are. -/
theorem sameSubmissions_served {request : Request} {before after : Database} {now : TakenOffer}
    (leaves : request.LeavesOffer offerId) (other : ¬ request.SubmitsEscrow offerId)
    (served : Served request before after) (holds : before.HasOffer offerId now.SameSubmissions) :
    after.HasOffer offerId now.SameSubmissions := by
  cases served with
  | reads => exact holds
  | writes permitted =>
      cases permitted with
      | createOffer | delistPending | activate | delist | punish => exact holds
      | take offer robohash escrow same =>
          exact holds.insertTaken fun about => leaves (same.symm.trans about)
      | signEscrow isMaker => exact holds.updateTaken fun about => absurd about other
      | confirmObligation isMaker | complain isMaker | signPayout isMaker =>
          refine holds.updateTaken fun _ row kept => ?_
          cases isMaker <;> exact ⟨kept.trade, kept.signedPsbt⟩
      | openDispute | toggleProcessing | decide | storePayout =>
          exact holds.updateTaken fun _ row kept => ⟨kept.trade, kept.signedPsbt⟩
      | finish => exact holds.deleteTaken leaves
      | confirmEscrow txid => exact holds.confirm fun row kept => ⟨kept.trade, kept.signedPsbt⟩

namespace SubmissionStage

variable {payload : PsbtSubmissionRequest} {robohash : Bytes} {stage : SubmissionStage}
  {env : Environment (coordinator P)} {w : World (coordinator P)} {now : TakenOffer}

/-- What a call knows: its role once it has looked, and two submitted PSBTs to combine. -/
def Consistent (offerId : String) (row : TakenOffer) (requests : ι → Request) (robohash : Bytes) :
    SubmissionStage → Prop
  | .looking isMaker | .storing isMaker => row.role? robohash = some isMaker
  | .combining makerPsbt takerPsbt => SubmittedBy offerId row requests true makerPsbt ∧
      SubmittedBy offerId row requests false takerPsbt
  | _ => True

/-- The call is going to look at both PSBTs, or has found them. -/
inductive Finishing : SubmissionStage → Prop
  | fetching : Finishing .fetching
  | combining (makerPsbt takerPsbt) : Finishing (.combining makerPsbt takerPsbt)

/-- The stage at which a request starts that submits a PSBT. -/
def first : Request → SubmissionStage
  | .submitEscrowPsbt payload =>
      if (Hex.decode payload.robohashHex).isSome then validating
      else refused (.database .fromHex)
  | _ => validating

theorem serve_first (payload : PsbtSubmissionRequest) :
    (Request.submitEscrowPsbt payload).serve P =
        (first (.submitEscrowPsbt payload)).program payload ∧
      ((first (.submitEscrowPsbt payload)).isEnded = true ∨
        ∃ robohash, Hex.decode payload.robohashHex = some robohash ∧
          (first (.submitEscrowPsbt payload)).Consistent offerId row requests robohash) := by
  rw [first]
  cases decoded : Hex.decode payload.robohashHex with
  | none => exact ⟨serve_of_undecodable payload decoded, .inl rfl⟩
  | some robohash => exact ⟨rfl, .inr ⟨robohash, rfl, trivial⟩⟩

theorem ended_of_isEnded (ended : stage.isEnded = true) :
    (program (P := P) payload stage).ended = true := by
  cases stage with
  | ended outcome => rfl
  | _ => cases ended

/-- A call that finishes has not ended. -/
theorem Finishing.going (finishing : stage.Finishing) :
    (program (P := P) payload stage).ended = false := by
  cases finishing <;> rfl

theorem Consistent.advance (consistent : stage.Consistent offerId row requests robohash)
    (faultless : env.Faultless) (found : w.state.takenOffers.find? payload.offerIdHex = some now)
    (trade : now.trade = row.trade)
    (submitted : ∀ isMaker psbt, now.signedPsbt isMaker = some psbt →
      SubmittedBy offerId row requests isMaker psbt) :
    (stage.advance payload robohash env w).Consistent offerId row requests robohash := by
  cases stage with
  | validating =>
      rw [SubmissionStage.advance, check]
      split <;> trivial
  | identifying =>
      rw [SubmissionStage.advance, look_of_found (faultless _) found,
        TakenOffer.role?_of_trade trade]
      cases role : row.role? robohash with
      | none => trivial
      | some isMaker => exact role
  | looking isMaker =>
      rw [SubmissionStage.advance, look_of_found (faultless _) found]
      split
      · trivial
      · exact consistent
  | storing isMaker =>
      rw [SubmissionStage.advance, faultless]
      trivial
  | fetching =>
      rw [SubmissionStage.advance, look_of_found (faultless _) found]
      cases both : now.bothPsbts with
      | none => trivial
      | some psbts =>
          obtain ⟨maker, taker⟩ := TakenOffer.bothPsbts_eq_some.mp both
          exact ⟨submitted true _ maker, submitted false _ taker⟩
  | combining makerPsbt takerPsbt =>
      rw [SubmissionStage.advance]
      split <;> trivial
  | ended outcome => trivial

end SubmissionStage

/-- Once both PSBTs are stored, they have been combined, or a call is going to do so. -/
def Due (offerId : String) (row : TakenOffer) (requests : ι → Request)
    (stages : ι → SubmissionStage) (now : TakenOffer) (events : List (Event (coordinator P))) :
    Prop :=
  (∀ isMaker, now.signedPsbt isMaker ≠ none) →
    (∃ event ∈ events, Combines offerId row requests event) ∨
      ∃ j, (requests j).SubmitsEscrow offerId ∧ (stages j).Finishing

/-- The offer is there with PSBTs that were submitted, and the calls that submit one are at
    their stages. -/
structure Submitting (w : World (coordinator P)) (offerId : String) (row : TakenOffer)
    (requests : ι → Request) (stages : ι → SubmissionStage) (now : TakenOffer)
    (pool : Pool (coordinator P) ι Reply) : Prop where
  found : pool.world.state.takenOffers.find? offerId = some now
  trade : now.trade = row.trade
  submitted : ∀ isMaker psbt, now.signedPsbt isMaker = some psbt →
    SubmittedBy offerId row requests isMaker psbt
  due : ∃ events, pool.world.log = w.log ++ events ∧ Due offerId row requests stages now events
  keeps : ∀ j, (pool.calls j).Keeps (Served (requests j))
  calls : ∀ j payload, requests j = .submitEscrowPsbt payload → payload.offerIdHex = offerId →
    pool.calls j = (stages j).program payload ∧ ((stages j).isEnded = true ∨
      ∃ robohash, Hex.decode payload.robohashHex = some robohash ∧
        (stages j).Consistent offerId row requests robohash)

/-- What an operation of a call that submits a PSBT leaves: the PSBTs that are stored were
    submitted, and if both are, they are combined now, or the call goes on to do so, or it is
    not its turn. -/
structure Advances (offerId : String) (row : TakenOffer) (requests : ι → Request)
    (now : TakenOffer) (w : World (coordinator P)) (before after : SubmissionStage)
    (later : TakenOffer) (w' : World (coordinator P)) : Prop where
  found : w'.state.takenOffers.find? offerId = some later
  trade : later.trade = row.trade
  submitted : ∀ isMaker psbt, later.signedPsbt isMaker = some psbt →
    SubmittedBy offerId row requests isMaker psbt
  log : ∃ new, w'.log = w.log ++ new ∧ ((∀ isMaker, later.signedPsbt isMaker ≠ none) →
    (∃ event ∈ new, Combines offerId row requests event) ∨ after.Finishing ∨
      ¬ before.Finishing ∧ ∀ isMaker, now.signedPsbt isMaker ≠ none)

section Steps

variable {w : World (coordinator P)} {now : TakenOffer} {env : Environment (coordinator P)}
  {payload : PsbtSubmissionRequest} {robohash : Bytes} {stage : SubmissionStage}

/-- An operation that only reads, of a call that is not finishing. -/
theorem advances_tick {after : SubmissionStage}
    (found : w.state.takenOffers.find? offerId = some now) (trade : now.trade = row.trade)
    (submitted : ∀ isMaker psbt, now.signedPsbt isMaker = some psbt →
      SubmittedBy offerId row requests isMaker psbt) (other : ¬ stage.Finishing) :
    Advances offerId row requests now w stage after now (World.tick w) :=
  ⟨found, trade, submitted, [], (List.append_nil _).symm, fun both => .inr (.inr ⟨other, both⟩)⟩

theorem advances_storing {isMaker : Bool} (faultless : env.Faultless)
    (found : w.state.takenOffers.find? payload.offerIdHex = some now)
    (trade : now.trade = row.trade)
    (submitted : ∀ isMaker psbt, now.signedPsbt isMaker = some psbt →
      SubmittedBy payload.offerIdHex row requests isMaker psbt)
    (submits : SubmittedBy payload.offerIdHex row requests isMaker payload.signedPsbtHex) :
    Advances payload.offerIdHex row requests now w (.storing isMaker) .fetching
      ((TakenOffer.setSignedEscrowPsbt isMaker payload.signedPsbtHex).apply now)
      (SubmissionStage.after payload env w (.storing isMaker)) := by
  refine ⟨?_, ?_, fun other psbt stored => ?_, [], ?_, fun _ => .inr (.inl .fetching)⟩
  · rw [SubmissionStage.after, World.exec, faultless]
    change (w.state.takenOffers.update payload.offerIdHex _).find? payload.offerIdHex = _
    rw [Table.find?_update_self, found]
    rfl
  · exact (TakenOffer.keepsTrade_setSignedEscrowPsbt _ _ now).trans trade
  · rw [TakenOffer.signedPsbt_setSignedEscrowPsbt] at stored
    split at stored
    · rename_i same
      cases stored
      exact same ▸ submits
    · exact submitted other psbt stored
  · rw [List.append_nil]
    exact World.exec_log env _ w

theorem advances_fetching (faultless : env.Faultless)
    (found : w.state.takenOffers.find? payload.offerIdHex = some now)
    (trade : now.trade = row.trade)
    (submitted : ∀ isMaker psbt, now.signedPsbt isMaker = some psbt →
      SubmittedBy payload.offerIdHex row requests isMaker psbt) :
    Advances payload.offerIdHex row requests now w .fetching
      (SubmissionStage.advance payload robohash env w .fetching) now (World.tick w) := by
  refine ⟨found, trade, submitted, [], (List.append_nil _).symm, fun both => .inr (.inl ?_)⟩
  rw [SubmissionStage.advance, look_of_found (faultless _) found]
  cases stored : now.bothPsbts with
  | none =>
      obtain ⟨isMaker, missing⟩ := TakenOffer.bothPsbts_eq_none.mp stored
      exact absurd missing (both isMaker)
  | some psbts => exact .combining psbts.1 psbts.2

theorem advances_combining {makerPsbt takerPsbt : String} {after : SubmissionStage}
    (found : w.state.takenOffers.find? offerId = some now) (trade : now.trade = row.trade)
    (submitted : ∀ isMaker psbt, now.signedPsbt isMaker = some psbt →
      SubmittedBy offerId row requests isMaker psbt)
    (maker : SubmittedBy offerId row requests true makerPsbt)
    (taker : SubmittedBy offerId row requests false takerPsbt) :
    Advances offerId row requests now w (.combining makerPsbt takerPsbt) after now
      (w.ask env (.combineAndBroadcastEscrowPsbt makerPsbt takerPsbt)).2 := by
  refine ⟨found, trade, submitted, _, rfl, fun _ => .inl ⟨_, List.mem_singleton_self _, ?_⟩⟩
  exact ⟨makerPsbt, takerPsbt, rfl, maker, taker⟩

/-- An operation of a call that submits a PSBT. -/
theorem advances_submission {i : ι} (request : requests i = .submitEscrowPsbt payload)
    (decoded : Hex.decode payload.robohashHex = some robohash) (faultless : env.Faultless)
    (found : w.state.takenOffers.find? payload.offerIdHex = some now)
    (trade : now.trade = row.trade)
    (submitted : ∀ isMaker psbt, now.signedPsbt isMaker = some psbt →
      SubmittedBy payload.offerIdHex row requests isMaker psbt)
    (consistent : stage.Consistent payload.offerIdHex row requests robohash) :
    ∃ later, Advances payload.offerIdHex row requests now w stage
      (stage.advance payload robohash env w) later (stage.after payload env w) := by
  cases stage with
  | validating | identifying | looking isMaker =>
      refine ⟨now, advances_tick found trade submitted ?_⟩
      intro finishing
      cases finishing
  | storing isMaker =>
      have advanced : SubmissionStage.advance payload robohash env w (.storing isMaker) =
          .fetching := by rw [SubmissionStage.advance, faultless]
      rw [advanced]
      exact ⟨_, advances_storing faultless found trade submitted
        ⟨i, payload, robohash, request, rfl, decoded, consistent, rfl⟩⟩
  | fetching => exact ⟨now, advances_fetching faultless found trade submitted⟩
  | combining makerPsbt takerPsbt =>
      exact ⟨now, advances_combining found trade submitted consistent.1 consistent.2⟩
  | ended outcome =>
      refine ⟨now, found, trade, submitted, [], (List.append_nil _).symm, fun both => ?_⟩
      refine .inr (.inr ⟨?_, both⟩)
      intro finishing
      cases finishing

end Steps

theorem submitting_start {w : World (coordinator P)}
    (found : w.state.takenOffers.find? offerId = some row)
    (unsubmitted : ∀ isMaker, row.signedPsbt isMaker = none) :
    Submitting w offerId row requests (fun j => SubmissionStage.first (requests j)) row
      (Pool.start w fun i => (requests i).serve P) := by
  refine ⟨found, rfl, fun isMaker psbt stored => ?_, ⟨[], (List.append_nil _).symm, fun both => ?_⟩,
    fun j => writes_serve P (requests j), fun j payload submits _ => ?_⟩
  · cases (unsubmitted isMaker).symm.trans stored
  · exact absurd (unsubmitted true) (both true)
  · change (requests j).serve P = _ ∧ _
    rw [submits]
    exact SubmissionStage.serve_first payload

variable [DecidableEq ι] {env : Environment (coordinator P)} {w : World (coordinator P)}
  {pool : Pool (coordinator P) ι Reply} {stages : ι → SubmissionStage} {now : TakenOffer} {i : ι}

/-- A step of a request that submits no PSBT of the offer. -/
theorem Submitting.step_other (submitting : Submitting w offerId row requests stages now pool)
    (leaves : (requests i).LeavesOffer offerId) (other : ¬ (requests i).SubmitsEscrow offerId) :
    ∃ later, Submitting w offerId row requests stages later (pool.step env i) := by
  have served := (submitting.keeps i).step_state env pool.world
  obtain ⟨later, found, same⟩ := sameSubmissions_served leaves other served
    ⟨now, submitting.found, rfl, fun _ => rfl⟩
  refine ⟨later, found, same.trade.trans submitting.trade, fun isMaker psbt stored => ?_, ?_,
    Pool.keeps_step submitting.keeps env i, fun j payload submits about => ?_⟩
  · exact submitting.submitted isMaker psbt (same.signedPsbt isMaker ▸ stored)
  · obtain ⟨events, log, due⟩ := submitting.due
    obtain ⟨new, grown⟩ := (pool.calls i).log_step env pool.world
    refine ⟨events ++ new, ?_, fun both => ?_⟩
    · exact grown.symm.trans (by rw [log, List.append_assoc])
    · rcases due fun isMaker => same.signedPsbt isMaker ▸ both isMaker with
        ⟨event, member, combines⟩ | finishing
      · exact .inl ⟨event, List.mem_append_left new member, combines⟩
      · exact .inr finishing
  · have moved : j ≠ i := by
      rintro rfl
      rw [submits] at other
      exact other about
    rw [Pool.step_calls_of_ne moved]
    exact submitting.calls j payload submits about

/-- What was due is due after the call has advanced, or was done. -/
theorem Due.advance {events new : List (Event (coordinator P))} {later : TakenOffer}
    {next : SubmissionStage} (due : Due offerId row requests stages now events)
    (submits : (requests i).SubmitsEscrow offerId)
    (now : (∀ isMaker, later.signedPsbt isMaker ≠ none) →
      (∃ event ∈ new, Combines offerId row requests event) ∨ next.Finishing ∨
        ¬ (stages i).Finishing ∧ ∀ isMaker, now.signedPsbt isMaker ≠ none) :
    Due offerId row requests (Function.update stages i next) later (events ++ new) := by
  intro both
  rcases now both with ⟨event, member, combines⟩ | finishing | ⟨idle, before⟩
  · exact .inl ⟨event, List.mem_append_right events member, combines⟩
  · exact .inr ⟨i, submits, by rwa [Function.update_self]⟩
  · rcases due before with ⟨event, member, combines⟩ | ⟨j, submits, finishing⟩
    · exact .inl ⟨event, List.mem_append_left new member, combines⟩
    · have other : j ≠ i := by
        rintro rfl
        exact idle finishing
      exact .inr ⟨j, submits, by rwa [Function.update_of_ne other]⟩

/-- A step of a request that submits a PSBT of the offer. -/
theorem Submitting.step_submission (faultless : env.Faultless)
    (submitting : Submitting w offerId row requests stages now pool)
    (submits : (requests i).SubmitsEscrow offerId) :
    ∃ stages' later, Submitting w offerId row requests stages' later (pool.step env i) := by
  cases request : requests i with
  | submitEscrowPsbt payload =>
      rw [request] at submits
      obtain rfl : payload.offerIdHex = offerId := submits
      obtain ⟨call, ended | ⟨robohash, decoded, consistent⟩⟩ :=
        submitting.calls i payload request rfl
      · have stopped : (pool.calls i).ended = true := by
          rw [call]
          exact SubmissionStage.ended_of_isEnded ended
        rw [Pool.step_of_ended stopped]
        exact ⟨stages, now, submitting⟩
      · have acts : (pool.calls i).step env pool.world =
            (((stages i).advance payload robohash env pool.world).program payload,
              (stages i).after payload env pool.world) := by
          rw [call, SubmissionStage.step payload robohash env pool.world decoded]
        have world : (pool.step env i).world = (stages i).after payload env pool.world :=
          congrArg Prod.snd acts
        obtain ⟨later, advances⟩ := advances_submission request decoded faultless submitting.found
          submitting.trade submitting.submitted consistent
        refine ⟨Function.update stages i ((stages i).advance payload robohash env pool.world),
          later, world ▸ advances.found, advances.trade, advances.submitted, ?_,
          Pool.keeps_step submitting.keeps env i, fun j other submits about => ?_⟩
        · obtain ⟨events, log, due⟩ := submitting.due
          obtain ⟨new, grown, now⟩ := advances.log
          refine ⟨events ++ new, ?_, due.advance (request ▸ rfl) now⟩
          rw [world, grown, log, List.append_assoc]
        · by_cases same : j = i
          · subst same
            cases request.symm.trans submits
            rw [Pool.step_calls_self, acts, Function.update_self]
            exact ⟨rfl, .inr ⟨robohash, decoded, consistent.advance faultless submitting.found
              submitting.trade submitting.submitted⟩⟩
          · rw [Pool.step_calls_of_ne same, Function.update_of_ne same]
            exact submitting.calls j other submits about
  | _ =>
      rw [request] at submits
      exact submits.elim

theorem Submitting.step (faultless : env.Faultless)
    (leaves : ∀ j, (requests j).LeavesOffer offerId)
    (submitting : Submitting w offerId row requests stages now pool) (i : ι) :
    ∃ stages' later, Submitting w offerId row requests stages' later (pool.step env i) := by
  by_cases submits : (requests i).SubmitsEscrow offerId
  · exact submitting.step_submission faultless submits
  · exact ⟨stages, submitting.step_other (leaves i) submits⟩

theorem submitting_play (faultless : env.Faultless)
    (leaves : ∀ j, (requests j).LeavesOffer offerId) (schedule : List ι)
    (submitting : Submitting w offerId row requests stages now pool) :
    ∃ stages' later, Submitting w offerId row requests stages' later (pool.play env schedule) := by
  induction schedule generalizing pool stages now with
  | nil => exact ⟨stages, now, submitting⟩
  | cons i schedule ih =>
      obtain ⟨stages', later, still⟩ := submitting.step faultless leaves i
      exact ih still

/-- Any number of calls submit signed escrow PSBTs of an offer, in whatever interleaving with
    each other and with requests that leave the offer there. If no statement fails, all of
    them have ended and both PSBTs are stored, then one of them had a PSBT of the maker and one
    of the taker, as submitted, combined and broadcast. -/
theorem escrowBroadcast_play (env : Environment (coordinator P)) (faultless : env.Faultless)
    {requests : ι → Request} (leaves : ∀ j, (requests j).LeavesOffer offerId)
    {w : World (coordinator P)} {row : TakenOffer}
    (found : w.state.takenOffers.find? offerId = some row)
    (unsubmitted : ∀ isMaker, row.signedPsbt isMaker = none) (schedule : List ι)
    {pool : Pool (coordinator P) ι Reply}
    (played : (Pool.start w fun i => (requests i).serve P).play env schedule = pool)
    (ended : ∀ j, (requests j).SubmitsEscrow offerId → (pool.calls j).ended = true)
    (both : pool.world.state.HasOffer offerId fun later =>
      ∀ isMaker, later.signedPsbt isMaker ≠ none) :
    ∃ event ∈ pool.world.log.drop w.log.length, Combines offerId row requests event := by
  subst played
  obtain ⟨stages, now, submitting⟩ := submitting_play faultless leaves schedule
    (submitting_start found unsubmitted)
  obtain ⟨later, there, submitted⟩ := both
  cases submitting.found.symm.trans there
  obtain ⟨events, log, due⟩ := submitting.due
  rcases due submitted with ⟨event, member, combines⟩ | ⟨j, submits, finishing⟩
  · refine ⟨event, ?_, combines⟩
    rw [log, List.drop_left]
    exact member
  · exfalso
    cases request : requests j with
    | submitEscrowPsbt payload =>
        have stopped := ended j submits
        rw [request] at submits
        rw [(submitting.calls j payload request submits).1, finishing.going] at stopped
        cases stopped
    | _ =>
        rw [request] at submits
        exact submits

end Broadcast

namespace Sample

/-- Maker and taker submit their PSBTs, and the maker does so twice. -/
inductive Submitter where
  | maker
  | taker
  | makerAgain
  deriving DecidableEq

def escrowSubmissions : Submitter → Request
  | .maker => .submitEscrowPsbt ⟨"70736274ff0a", offerId, makerBond.robohashHex⟩
  | .taker => .submitEscrowPsbt ⟨"70736274ff0b", offerId, takerBond.robohashHex⟩
  | .makerAgain => .submitEscrowPsbt ⟨"70736274ff0c", offerId, makerBond.robohashHex⟩

/-- The calls take turns, so that each trader stores its PSBT before the other one looks. -/
def submitted : Pool (coordinator .sample) Submitter Reply :=
  (Pool.start (trading freshTrade) fun i => (escrowSubmissions i).serve .sample).play environment
    (List.replicate 6 [.maker, .taker, .makerAgain]).flatten

end Sample

theorem escrowBroadcast_play_sample :
    ∃ event ∈ Sample.submitted.world.log.drop 0,
      Combines Sample.offerId Sample.freshTrade Sample.escrowSubmissions event := by
  have ended : ∀ j, (Sample.submitted.calls j).ended = true := by
    intro j
    cases j <;> decide +kernel
  have leaves : ∀ j, (Sample.escrowSubmissions j).LeavesOffer Sample.offerId := by
    intro j
    cases j <;> trivial
  apply escrowBroadcast_play Sample.environment (fun _ => rfl) leaves ?_ (by decide) _ rfl
    (fun j _ => ended j) (by decide +kernel)
  decide +kernel

end TapTrade
