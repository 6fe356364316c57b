import TapTrade.Model.Confirmations
import TapTrade.Model.Guards

/-! # Nothing before the confirmation

Reports, disputes, verdicts, payouts and partial signatures are recorded only for an offer
whose escrow is confirmed, and the escrow is recorded as confirmed only after the node has
seen it more than three blocks deep. Three of the handlers check the confirmation; the poll
for the payout and the verdict of the operator rest on what has been recorded before.
-/

namespace TapTrade

open Relational Resumption

section Confirmation

variable {P : Platform} {env : Environment (coordinator P)} {offerId : String}

namespace TakenOffer

/-- Something has been recorded that comes after the confirmation. -/
inductive Started (row : TakenOffer) : Prop
  | makerHappy (reported : row.makerHappy ≠ none)
  | takerHappy (reported : row.takerHappy ≠ none)
  | escrowOngoing (disputed : row.escrowOngoing ≠ 0)
  | escrowWinner (decided : row.escrowWinnerRobohash ≠ none)
  | payoutPsbt (prepared : row.payoutTransactionPsbtHex ≠ none)
  | partialSigMaker (signed : row.musigPartialSigHexMaker ≠ none)
  | partialSigTaker (signed : row.musigPartialSigHexTaker ≠ none)

/-- If something has been recorded that comes after the confirmation, then so has it. -/
def ConfirmedFirst (row : TakenOffer) : Prop := row.Started → row.Confirmed

/-- What keeps all these columns and the confirmation keeps their order. -/
theorem Started.of_same {row row' : TakenOffer} (started : row'.Started)
    (makerHappy : row'.makerHappy = row.makerHappy) (takerHappy : row'.takerHappy = row.takerHappy)
    (escrowOngoing : row'.escrowOngoing = row.escrowOngoing)
    (escrowWinner : row'.escrowWinnerRobohash = row.escrowWinnerRobohash)
    (payoutPsbt : row'.payoutTransactionPsbtHex = row.payoutTransactionPsbtHex)
    (maker : row'.musigPartialSigHexMaker = row.musigPartialSigHexMaker)
    (taker : row'.musigPartialSigHexTaker = row.musigPartialSigHexTaker) : row.Started := by
  cases started with
  | makerHappy reported => exact .makerHappy (makerHappy ▸ reported)
  | takerHappy reported => exact .takerHappy (takerHappy ▸ reported)
  | escrowOngoing disputed => exact .escrowOngoing (escrowOngoing ▸ disputed)
  | escrowWinner decided => exact .escrowWinner (escrowWinner ▸ decided)
  | payoutPsbt prepared => exact .payoutPsbt (payoutPsbt ▸ prepared)
  | partialSigMaker signed => exact .partialSigMaker (maker ▸ signed)
  | partialSigTaker signed => exact .partialSigTaker (taker ▸ signed)

theorem not_started_takenRow (offer : AwaitingTakerOffer) (robohash : Bytes)
    (payload : OfferPsbtRequest) (escrow : EscrowPsbt) :
    ¬ (takenRow offer robohash payload escrow).Started := by
  rintro (reported | reported | disputed | decided | prepared | signed | signed) <;>
    exact absurd rfl ‹_›

/-- An offer that both traders are satisfied with has been started. -/
theorem started_of_bothHappy {row : TakenOffer} (happy : row.happiness.bothHappy = true) :
    row.Started := by
  refine .makerHappy fun missing => ?_
  rw [TraderHappiness.bothHappy, happiness, missing] at happy
  cases happy

end TakenOffer

open Call Database

/-- The escrow stays confirmed. -/
theorem confirmed_served {request : Request} (keepsOffer : request.KeepsOffer offerId)
    {before after : Database} (served : Served request before after)
    (confirmed : before.AtOffer offerId TakenOffer.Confirmed) :
    after.AtOffer offerId TakenOffer.Confirmed := by
  cases served with
  | reads => exact confirmed
  | writes permitted =>
      cases permitted with
      | take offer robohash escrow same =>
          exact confirmed.insertTaken fun taken => absurd (same.symm.trans taken) keepsOffer
      | signEscrow isMaker | confirmObligation isMaker | complain isMaker | signPayout isMaker =>
          refine confirmed.updateTaken fun _ row kept => ?_
          cases isMaker <;> exact kept
      | openDispute | toggleProcessing | storePayout | decide =>
          exact confirmed.updateTaken fun _ _ kept => kept
      | finish => exact confirmed.deleteTaken
      | confirmEscrow => exact confirmed.confirm fun _ _ => rfl
      | _ => exact confirmed

/-- The request records nothing that comes after the confirmation of this offer. -/
def Request.StartsNothing (offerId : String) : Request → Prop
  | .submitObligationConfirmation payload => payload.offerIdHex ≠ offerId
  | .requestEscrow payload => payload.offerIdHex ≠ offerId
  | .pollFinalPayout payload => payload.offerIdHex ≠ offerId
  | .submitPayoutSignature payload => payload.offerIdHex ≠ offerId
  | .escrowCliLoop => False
  | _ => True

theorem confirmedFirst_served {request : Request} (nothing : request.StartsNothing offerId)
    {before after : Database} (served : Served request before after)
    (ordered : before.AtOffer offerId TakenOffer.ConfirmedFirst) :
    after.AtOffer offerId TakenOffer.ConfirmedFirst := by
  cases served with
  | reads => exact ordered
  | writes permitted =>
      cases permitted with
      | take =>
          exact ordered.insertTaken fun _ started =>
            absurd started (TakenOffer.not_started_takenRow _ _ _ _)
      | signEscrow isMaker =>
          refine ordered.updateTaken fun _ row kept started => ?_
          cases isMaker <;> exact kept (started.of_same rfl rfl rfl rfl rfl rfl rfl)
      | confirmObligation | complain | openDispute | toggleProcessing | storePayout | signPayout =>
          exact ordered.updateTaken fun about => absurd about nothing
      | finish => exact ordered.deleteTaken
      | confirmEscrow => exact ordered.confirm fun _ _ _ => rfl
      | decide => exact nothing.elim
      | _ => exact ordered

section Serving

variable {w : World (coordinator P)}

/-- A guarded request for an offer whose escrow is not confirmed. -/
theorem confirmedFirst_of_checked {α : Type} {robohash : String}
    {rest : Unit → Act P RequestError α}
    (ordered : w.state.AtOffer offerId TakenOffer.ConfirmedFirst)
    (unconfirmed : ¬ w.state.AtOffer offerId TakenOffer.Confirmed) :
    (exec env (checkOfferAndConfirmation offerId robohash >>= rest) w).2.state.AtOffer offerId
      TakenOffer.ConfirmedFirst :=
  holds_of_checked ordered fun _ _ _ confirmed => absurd confirmed unconfirmed

/-- A poll for the payout of such an offer finds no reports. -/
theorem confirmedFirst_handleFinalPayout {payload : OfferTakenRequest}
    (ordered : w.state.AtOffer payload.offerIdHex TakenOffer.ConfirmedFirst)
    (unconfirmed : ¬ w.state.AtOffer payload.offerIdHex TakenOffer.Confirmed) :
    (exec env (handleFinalPayout payload) w).2.state.AtOffer payload.offerIdHex
      TakenOffer.ConfirmedFirst := by
  rw [handleFinalPayout_state fun row found => ?_]
  · exact ordered
  · cases reported : row.happiness.bothHappy with
    | false => exact reported
    | true =>
        refine absurd (fun other there => ?_) unconfirmed
        cases found.symm.trans there
        exact ordered row found (TakenOffer.started_of_bothHappy reported)

/-- The operator is not asked about such an offer. -/
theorem confirmedFirst_escrowCliLoop
    (ordered : w.state.AtOffer offerId TakenOffer.ConfirmedFirst)
    (unconfirmed : ¬ w.state.AtOffer offerId TakenOffer.Confirmed) :
    (exec env escrowCliLoop w).2.state.AtOffer offerId TakenOffer.ConfirmedFirst := by
  apply holds_escrowCliLoop ordered
  intro id row found ongoing db winner holds
  refine holds.updateTaken fun same => absurd (fun other there => ?_) unconfirmed
  subst same
  cases found.symm.trans there
  exact ordered row found (.escrowOngoing (ongoing ▸ by decide))

/-- Whatever the request, it records nothing that comes after the confirmation before the
    confirmation. -/
theorem confirmedFirst_serve {request : Request}
    (ordered : w.state.AtOffer offerId TakenOffer.ConfirmedFirst) :
    (serveAlone env w request).state.AtOffer offerId TakenOffer.ConfirmedFirst := by
  by_cases nothing : request.StartsNothing offerId
  · exact holds_serveAlone env (fun _ _ served => confirmedFirst_served nothing served) ordered
  by_cases confirmed : w.state.AtOffer offerId TakenOffer.Confirmed
  · have keepsOffer : request.KeepsOffer offerId := by
      cases request with
      | submitTakerBond payload => exact absurd trivial nothing
      | _ => trivial
    have still := holds_serveAlone env (fun _ _ served => confirmed_served keepsOffer served)
      confirmed
    exact fun row found _ => still row found
  cases request with
  | submitObligationConfirmation payload =>
      obtain rfl : payload.offerIdHex = offerId := not_ne_iff.mp nothing
      rw [serveAlone, World.serve, Request.serve, Program.map, Program.run_bind]
      exact confirmedFirst_of_checked ordered confirmed
  | requestEscrow payload =>
      obtain rfl : payload.offerIdHex = offerId := not_ne_iff.mp nothing
      rw [serveAlone, World.serve, Request.serve, Program.map, Program.run_bind]
      exact confirmedFirst_of_checked ordered confirmed
  | submitPayoutSignature payload =>
      obtain rfl : payload.offerIdHex = offerId := not_ne_iff.mp nothing
      rw [serveAlone, World.serve, Request.serve, Program.map, Program.run_bind]
      exact confirmedFirst_of_checked ordered confirmed
  | pollFinalPayout payload =>
      obtain rfl : payload.offerIdHex = offerId := not_ne_iff.mp nothing
      rw [serveAlone, World.serve, Request.serve, Program.map, Program.run_bind]
      exact confirmedFirst_handleFinalPayout ordered confirmed
  | escrowCliLoop =>
      rw [serveAlone, World.serve, Request.serve, Program.map, Program.run_bind]
      exact confirmedFirst_escrowCliLoop ordered confirmed
  | _ => exact absurd trivial nothing

/-- The node answered a question of an earlier round, which was about the transaction, with
    more than three confirmations. -/
def ConfirmedBy (node : Node) (w : World (coordinator P)) (txid : String) : Prop :=
  ∃ tick < w.clock, ∃ txids confirmed db k,
    (⟨.getConfirmations txids, .ok confirmed, db⟩ : Event (coordinator P)) ∈ w.log ∧
      node.getConfirmations tick txids = .ok confirmed ∧ txids[k]? = some txid ∧
        node.Confirms tick k txid

variable {node : Node} {w' : World (coordinator P)}

theorem ConfirmedBy.later {txid : String} (confirmed : ConfirmedBy node w txid)
    (log : w.log <+: w'.log) (clock : w.clock ≤ w'.clock) : ConfirmedBy node w' txid := by
  obtain ⟨tick, before, txids, answer, db, k, member, rest⟩ := confirmed
  exact ⟨tick, before.trans_le clock, txids, answer, db, k, log.subset member, rest⟩

/-- If the escrow is confirmed, then by this evidence. -/
def TakenOffer.ConfirmedOn (evidence : String → Prop) (row : TakenOffer) : Prop :=
  row.Confirmed → evidence row.escrowPsbtTxid

/-- Other requests than the round of confirmations confirm nothing. -/
theorem confirmedOn_served {request : Request} {evidence : String → Prop}
    (other : request ≠ .updateTransactionConfirmations) {before after : Database}
    (served : Served request before after)
    (backed : before.AtOffer offerId (TakenOffer.ConfirmedOn evidence)) :
    after.AtOffer offerId (TakenOffer.ConfirmedOn evidence) := by
  cases served with
  | reads => exact backed
  | writes permitted =>
      cases permitted with
      | take => exact backed.insertTaken fun _ => nofun
      | signEscrow isMaker | confirmObligation isMaker | complain isMaker | signPayout isMaker =>
          refine backed.updateTaken fun _ row kept => ?_
          cases isMaker <;> exact kept
      | openDispute | toggleProcessing | storePayout | decide =>
          exact backed.updateTaken fun _ _ kept => kept
      | finish => exact backed.deleteTaken
      | confirmEscrow => exact absurd rfl other
      | _ => exact backed

/-- The confirmations that a round writes are those that the node has answered. -/
theorem confirmedOn_confirmBondTxids {tick : Nat} {txids newlyConfirmed : List String}
    {db : Database} (answered : node.getConfirmations tick txids = .ok newlyConfirmed)
    (earlier : tick < w.clock)
    (logged : (⟨.getConfirmations txids, .ok newlyConfirmed, db⟩ : Event (coordinator P)) ∈ w.log)
    (backed : w.state.AtOffer offerId (TakenOffer.ConfirmedOn (ConfirmedBy node w))) :
    (exec env (confirmBondTxids newlyConfirmed) w).2.state.AtOffer offerId
      (TakenOffer.ConfirmedOn (ConfirmedBy node w)) := by
  refine Keeps.exec_holds (keeps_confirmBondTxids fun txid member db' holds => ?_) backed
  obtain ⟨k, there, confirms⟩ := Node.confirms_of_mem answered member
  rw [Nat.zero_add] at confirms
  have evidence : ConfirmedBy node w txid :=
    ⟨tick, earlier, txids, newlyConfirmed, db, k, logged, answered, there, confirms⟩
  intro row found
  simp only [Table.find?_updateWhere] at found
  obtain ⟨old, inTable, rfl⟩ := Option.map_eq_some_iff.mp found
  split
  case isTrue same =>
    intro _
    exact of_decide_eq_true same ▸ evidence
  case isFalse => exact holds old inTable

/-- The offer is confirmed by what the node had answered in some world up to this one. -/
def BackedBy (offerId : String) (node : Node) (w : World (coordinator P)) : Prop :=
  ∃ seen : World (coordinator P), seen.log <+: w.log ∧ seen.clock ≤ w.clock ∧
    w.state.AtOffer offerId (TakenOffer.ConfirmedOn (ConfirmedBy node seen))

/-- Asking the node, and writing its answer down. -/
theorem backedBy_getConfirmations {txids : List String}
    (backed : w.state.AtOffer offerId (TakenOffer.ConfirmedOn (ConfirmedBy node w))) :
    BackedBy offerId node (exec (withNode env node) (ask (.getConfirmations txids) >>= fun answer =>
      confirmBondTxids (match answer with
        | .ok txids => txids
        | .error _ => []) : Act P Error Unit) w).2 := by
  let asked := (w.ask (withNode env node) (.getConfirmations txids)).2
  have log : w.log <+: asked.log := List.prefix_append _ _
  have later : asked.state.AtOffer offerId (TakenOffer.ConfirmedOn (ConfirmedBy node asked)) :=
    fun row found confirmed => (backed row found confirmed).later log (Nat.le_succ _)
  rw [exec_ask_bind, show (withNode env node).answer w.clock (.getConfirmations txids) =
    node.getConfirmations w.clock txids from rfl]
  cases answered : node.getConfirmations w.clock txids with
  | error e => exact ⟨asked, List.prefix_rfl, Nat.le_refl _, later⟩
  | ok newlyConfirmed =>
      have logged : (⟨.getConfirmations txids, .ok newlyConfirmed, w.state⟩ :
          Event (coordinator P)) ∈ asked.log :=
        answered ▸ List.mem_append_right w.log (List.mem_singleton_self _)
      exact ⟨asked, Program.log_run .., Program.clock_run ..,
        confirmedOn_confirmBondTxids answered (Nat.lt_succ_self _) logged later⟩

/-- A round of confirmations. -/
theorem backedBy_updateTransactionConfirmations
    (backed : w.state.AtOffer offerId (TakenOffer.ConfirmedOn (ConfirmedBy node w))) :
    BackedBy offerId node (exec (withNode env node) updateTransactionConfirmations w).2 := by
  have reads : (exec (withNode env node) (fetchUnconfirmedEscrowTxids (P := P)) w).2.state =
      w.state := Keeps.exec_state (Keeps.bind (by simp) fun _ => by simp)
  have log : w.log <+: (exec (withNode env node) (fetchUnconfirmedEscrowTxids (P := P)) w).2.log :=
    Program.log_run ..
  have clock : w.clock ≤
      (exec (withNode env node) (fetchUnconfirmedEscrowTxids (P := P)) w).2.clock :=
    Program.clock_run ..
  apply exec_bind_cases (motive := fun ends => BackedBy offerId node ends.2) _ w
  · intro e w₁ failed
    rw [failed] at reads log clock
    exact ⟨w, log, clock, reads ▸ backed⟩
  · intro txids w₁ fetched
    rw [fetched] at reads log clock
    have later : w₁.state.AtOffer offerId (TakenOffer.ConfirmedOn (ConfirmedBy node w₁)) :=
      fun row found confirmed => (backed row (reads ▸ found) confirmed).later log clock
    split
    case isTrue => exact ⟨w₁, List.prefix_rfl, Nat.le_refl _, later⟩
    case isFalse => exact backedBy_getConfirmations later

/-- Whatever the request, an escrow that is confirmed afterwards has been confirmed by the
    node. -/
theorem confirmedBy_serve {request : Request}
    (backed : w.state.AtOffer offerId (TakenOffer.ConfirmedOn (ConfirmedBy node w))) :
    (serveAlone (withNode env node) w request).state.AtOffer offerId
      (TakenOffer.ConfirmedOn
        (ConfirmedBy node (serveAlone (withNode env node) w request))) := by
  have evidence : BackedBy offerId node (serveAlone (withNode env node) w request) := by
    by_cases round : request = .updateTransactionConfirmations
    · subst round
      rw [serveAlone, World.serve, Request.serve, Program.map, Program.run_bind]
      exact backedBy_updateTransactionConfirmations backed
    · exact ⟨w, Program.log_run .., Program.clock_run ..,
        holds_serveAlone _ (fun _ _ served => confirmedOn_served round served) backed⟩
  obtain ⟨seen, log, clock, confirmedOn⟩ := evidence
  exact fun row found confirmed => (confirmedOn row found confirmed).later log clock

end Serving

/-- Whatever the coordinator is asked, and whatever the node and everything else answers: what
    comes after the confirmation of an escrow is recorded only once that is, and an escrow is
    recorded as confirmed only once the node has answered that it has more than three
    confirmations. -/
theorem confirmedFirst_runAlone (env : Environment (coordinator P)) (node : Node)
    (requests : List Request) (offerId : String) :
    (runAlone (withNode env node) requests).state.AtOffer offerId fun row =>
      (row.Started → row.escrowPsbtIsConfirmed = some 1) ∧
        (row.escrowPsbtIsConfirmed = some 1 →
          ConfirmedBy node (runAlone (withNode env node) requests) row.escrowPsbtTxid) := by
  have met : Course.Throughout (serveAlone (withNode env node)) (fun _ _ => True) (startup P)
      requests := Course.throughout_of_mem fun _ _ _ => trivial
  have invariant := Course.invariant_foldl (fun w : World (coordinator P) =>
    w.state.AtOffer offerId TakenOffer.ConfirmedFirst ∧
      w.state.AtOffer offerId (TakenOffer.ConfirmedOn (ConfirmedBy node w)))
    (fun _ _ holds _ => ⟨confirmedFirst_serve holds.1, confirmedBy_serve holds.2⟩)
    ⟨AtOffer.startup, AtOffer.startup⟩ met
  exact fun row found => ⟨invariant.1 row found, invariant.2 row found⟩

end Confirmation

end TapTrade
