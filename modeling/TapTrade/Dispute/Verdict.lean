import TapTrade.Model.Frame
import TapTrade.Model.Sample

/-! # Decided disputes

The operator records a winner and closes the dispute. A report that a trader is not
satisfied is stored as `NULL`, like no report at all, so once the dispute is closed the
coordinator takes the offer for one whose traders have not reported yet. A poll reports
the verdict iff the dispute has been opened again since.
-/

namespace TapTrade

open Relational Resumption

section Verdict

variable {P : Platform} {env : Environment (coordinator P)} {offerId : String}

namespace TakenOffer

/-- A winner has been recorded, which only `resolve_escrow` does. -/
def Decided (row : TakenOffer) : Prop := row.escrowWinnerRobohash ≠ none

/-- The reports of the traders are missing or positive. -/
structure ReportsKnown (row : TakenOffer) : Prop where
  maker : row.makerHappy = none ∨ row.makerHappy = some 1
  taker : row.takerHappy = none ∨ row.takerHappy = some 1

/-- The trader of the robohash is not the recorded winner. -/
def LostBy (row : TakenOffer) (robohashHex : String) : Prop :=
  ∃ winner, row.escrowWinnerRobohash = some winner ∧ Hex.decode robohashHex ≠ Hex.decode winner

/-- The dispute is open, and not both reports are positive. -/
structure VerdictStands (row : TakenOffer) : Prop where
  ongoing : row.escrowOngoing ≠ 0
  notBothHappy : row.happiness.bothHappy = false

theorem ReportsKnown.setHappy {row : TakenOffer} (known : row.ReportsKnown)
    (isMaker isHappy : Bool) :
    ((TakenOffer.setHappy isMaker (boolToSqlInt isHappy)).apply row).ReportsKnown := by
  have written : boolToSqlInt isHappy = none ∨ boolToSqlInt isHappy = some 1 := by
    cases isHappy
    · exact .inl rfl
    · exact .inr rfl
  cases isMaker with
  | true => exact ⟨written, known.taker⟩
  | false => exact ⟨known.maker, written⟩

/-- Without an open dispute, a report that is not positive counts as missing. -/
theorem ReportsKnown.undecided {row : TakenOffer} (known : row.ReportsKnown)
    (closed : row.escrowOngoing = 0) (notBothHappy : row.happiness.bothHappy = false) :
    row.happiness.undecided = true := by
  obtain ⟨maker | maker, taker | taker⟩ := known <;>
    simp_all [happiness, TraderHappiness.bothHappy, TraderHappiness.undecided]

end TakenOffer

open Database

theorem reportsKnown_served {request : Request} {before after : Database}
    (served : Served request before after)
    (known : before.AtOffer offerId TakenOffer.ReportsKnown) :
    after.AtOffer offerId TakenOffer.ReportsKnown := by
  cases served with
  | reads => exact known
  | writes permitted =>
      cases permitted with
      | take => exact known.insertTaken fun _ => ⟨.inl rfl, .inl rfl⟩
      | signEscrow isMaker =>
          refine known.updateTaken fun _ row kept => ?_
          cases isMaker <;> exact ⟨kept.maker, kept.taker⟩
      | confirmObligation isMaker => exact known.updateTaken fun _ row kept => kept.setHappy _ _
      | complain isMaker => exact known.updateTaken fun _ row kept => kept.setHappy _ _
      | signPayout isMaker =>
          refine known.updateTaken fun _ row kept => ?_
          cases isMaker <;> exact ⟨kept.maker, kept.taker⟩
      | openDispute | toggleProcessing | storePayout | decide =>
          exact known.updateTaken fun _ row kept => ⟨kept.maker, kept.taker⟩
      | finish => exact known.deleteTaken
      | confirmEscrow => exact known.confirm fun row kept => ⟨kept.maker, kept.taker⟩
      | _ => exact known

theorem decided_served {request : Request} (keepsOffer : request.KeepsOffer offerId)
    {before after : Database} (served : Served request before after)
    (decided : before.AtOffer offerId TakenOffer.Decided) :
    after.AtOffer offerId TakenOffer.Decided := by
  cases served with
  | reads => exact decided
  | writes permitted =>
      cases permitted with
      | take offer robohash escrow same =>
          exact decided.insertTaken fun taken => absurd (same.symm.trans taken) keepsOffer
      | signEscrow isMaker | confirmObligation isMaker | complain isMaker | signPayout isMaker =>
          refine decided.updateTaken fun _ row kept => ?_
          cases isMaker <;> exact kept
      | openDispute | toggleProcessing | storePayout =>
          exact decided.updateTaken fun _ _ kept => kept
      | decide => exact decided.updateTaken fun _ _ _ => Option.some_ne_none _
      | finish => exact decided.deleteTaken
      | confirmEscrow => exact decided.confirm fun _ kept => kept
      | _ => exact decided

section Polling

open Call

variable {w : World (coordinator P)} {row : TakenOffer} {poll : OfferTakenRequest}

/-- What `keyspend_payout` answers, it is not a lost escrow. -/
theorem keyspendPayout_ne_lostEscrow {result : PayoutProcessingResult} {w' : World (coordinator P)}
    (ends : exec env (keyspendPayout offerId) w = (.ok result, w')) : result ≠ .lostEscrow := by
  obtain ⟨data, w₁, -, h₁⟩ := exec_bind_ok env w ends
  obtain ⟨stored, w₂, -, h₂⟩ := exec_bind_ok env w₁ h₁
  cases stored with
  | some psbt =>
      cases h₂
      exact nofun
  | none =>
      obtain ⟨acquired, w₃, -, h₃⟩ := exec_bind_ok env w₂ h₂
      cases acquired with
      | false =>
          cases h₃
          exact nofun
      | true =>
          obtain ⟨psbt, w₄, -, h₄⟩ := exec_bind_ok env w₃ h₃
          obtain ⟨inserted, w₅, -, h₅⟩ := exec_bind_ok env w₄ h₄
          obtain ⟨toggled, w₆, -, h₆⟩ := exec_bind_ok env w₅ h₅
          cases h₆
          exact nofun

theorem exec_handleFinalPayout (unfailing : env.fault w.clock = none)
    (found : w.state.takenOffers.find? poll.offerIdHex = some row) :
    exec env (handleFinalPayout poll) w =
      if row.happiness.bothHappy then exec env (keyspendPayout poll.offerIdHex) (World.tick w)
      else if row.happiness.undecided then (.ok .notReady, World.tick w)
      else exec env (disputeResult poll) (World.tick w) := by
  rw [handleFinalPayout, exec_bind, exec_mapError, fetchTraderHappiness, exec_bind,
    exec_fetchOne unfailing, found]
  simp only [exec_pure, Outcome.mapError_ok]
  split
  · rfl
  · split <;> rfl

theorem exec_disputeResult {winner : String} (unfailing : env.fault w.clock = none)
    (found : w.state.takenOffers.find? poll.offerIdHex = some row)
    (decided : row.escrowWinnerRobohash = some winner) :
    (exec env (disputeResult poll) w).1 =
      if winner = poll.robohashHex then .error .panicked else .ok .lostEscrow := by
  rw [disputeResult, exec_bind, exec_mapError, fetchEscrowResult, exec_bind,
    exec_fetchOne unfailing, found]
  simp only [exec_pure, Outcome.mapError_ok, decided]
  split <;> rfl

/-- The poll reports the verdict: to the losing trader in so many words, and to neither
    trader as if nothing had been decided. -/
structure Reports (env : Environment (coordinator P)) (w : World (coordinator P))
    (row : TakenOffer) (poll : OfferTakenRequest) : Prop where
  lost : row.LostBy poll.robohashHex → (exec env (handleFinalPayout poll) w).1 = .ok .lostEscrow
  notNotReady : (exec env (handleFinalPayout poll) w).1 ≠ .ok .notReady
  notDeciding : (exec env (handleFinalPayout poll) w).1 ≠ .ok .decidingEscrow

theorem reports_of_verdictStands (unfailing : env.fault w.clock = none)
    (unfailing' : env.fault (w.clock + 1) = none)
    (found : w.state.takenOffers.find? poll.offerIdHex = some row) (decided : row.Decided)
    (stands : row.VerdictStands) : Reports env w row poll := by
  obtain ⟨winner, recorded⟩ := Option.ne_none_iff_exists'.mp decided
  have open' : row.happiness.undecided = false := by
    simp [TraderHappiness.undecided, TakenOffer.happiness, stands.ongoing]
  have answer : (exec env (handleFinalPayout poll) w).1 =
      if winner = poll.robohashHex then .error .panicked else .ok .lostEscrow := by
    rw [exec_handleFinalPayout unfailing found, stands.notBothHappy, open']
    exact exec_disputeResult (w := World.tick w) unfailing' found recorded
  constructor
  · rintro ⟨winner', recorded', other⟩
    cases recorded.symm.trans recorded'
    rw [answer, if_neg]
    rintro rfl
    exact other rfl
  · rw [answer]
    split <;> simp
  · rw [answer]
    split <;> simp

/-- The losing trader learns of the verdict only while the dispute is open. -/
theorem verdictStands_of_lostEscrow (unfailing : env.fault w.clock = none)
    (found : w.state.takenOffers.find? poll.offerIdHex = some row) (known : row.ReportsKnown)
    (lost : (exec env (handleFinalPayout poll) w).1 = .ok .lostEscrow) : row.VerdictStands := by
  rw [exec_handleFinalPayout unfailing found] at lost
  cases happy : row.happiness.bothHappy with
  | true =>
      rw [happy, if_pos rfl] at lost
      exact absurd rfl (keyspendPayout_ne_lostEscrow (Prod.ext lost rfl))
  | false =>
      refine ⟨fun closed => ?_, happy⟩
      rw [happy, known.undecided closed happy] at lost
      cases lost

/-- In every run in which a winner has been recorded, a later poll by the losing trader
    reports the verdict iff the dispute is open again and not both reports are positive;
    then a poll by the winner does, too. -/
theorem verdict_reported_iff (env : Environment (coordinator P)) (history since : List Request)
    {decidedRow row : TakenOffer} {poll : OfferTakenRequest}
    (decided : (runAlone env history).state.takenOffers.find? poll.offerIdHex = some decidedRow ∧
      decidedRow.Decided)
    (sameTrade : ∀ request ∈ since, request.KeepsOffer poll.offerIdHex)
    (found : (runAlone env (history ++ since)).state.takenOffers.find? poll.offerIdHex = some row)
    (unfailing : ∀ n ≤ 1, env.fault ((runAlone env (history ++ since)).clock + n) = none) :
    (row.LostBy poll.robohashHex →
      (Reports env (runAlone env (history ++ since)) row poll ↔ row.VerdictStands)) ∧
      (row.VerdictStands → Reports env (runAlone env (history ++ since)) row poll) := by
  have known : (runAlone env (history ++ since)).state.AtOffer poll.offerIdHex
      TakenOffer.ReportsKnown :=
    holds_foldl env (fun request _ _ _ => reportsKnown_served) AtOffer.startup
  have stillDecided : (runAlone env (history ++ since)).state.AtOffer poll.offerIdHex
      TakenOffer.Decided := by
    rw [runAlone, List.foldl_append]
    refine holds_foldl env (fun request member _ _ => decided_served (sameTrade request member)) ?_
    intro other same
    cases decided.1.symm.trans same
    exact decided.2
  have reports : row.VerdictStands → Reports env (runAlone env (history ++ since)) row poll :=
    reports_of_verdictStands (unfailing 0 (by omega)) (unfailing 1 (by omega)) found
      (stillDecided row found)
  refine ⟨fun lost => ⟨fun reported => ?_, reports⟩, reports⟩
  exact verdictStands_of_lostEscrow (unfailing 0 (by omega)) found (known row found)
    (reported.lost lost)

end Polling

end Verdict

namespace Sample

/-- A trade whose maker complains and is declared the winner. -/
def decided : List Request :=
  escrowed ++ [Request.requestEscrow complaint, Request.escrowCliLoop]

/-- The maker complains again. -/
def reopened : List Request := [Request.requestEscrow complaint]

/-- The row of the taken offer, first decided and then in dispute again. -/
def decidedRow : TakenOffer :=
  ((runAlone environment decided).state.takenOffers.find? offerId).get (by decide +kernel)

def reopenedRow : TakenOffer :=
  ((runAlone environment (decided ++ reopened)).state.takenOffers.find? offerId).get
    (by decide +kernel)

theorem decidedRow_decided : decidedRow.Decided := by
  unfold TakenOffer.Decided
  decide +kernel

end Sample

theorem verdict_reported_iff_sample :
    (Sample.reopenedRow.LostBy Sample.takerPoll.robohashHex →
      (Reports Sample.environment (runAlone Sample.environment (Sample.decided ++ Sample.reopened))
        Sample.reopenedRow Sample.takerPoll ↔ Sample.reopenedRow.VerdictStands)) ∧
      (Sample.reopenedRow.VerdictStands →
        Reports Sample.environment (runAlone Sample.environment (Sample.decided ++ Sample.reopened))
          Sample.reopenedRow Sample.takerPoll) :=
  verdict_reported_iff Sample.environment Sample.decided Sample.reopened
    ⟨(Option.some_get _).symm, Sample.decidedRow_decided⟩
    (by simp [Sample.reopened, Request.KeepsOffer]) (Option.some_get _).symm fun _ _ => rfl

/-- The taker has lost the dispute and is told that the payout is not ready yet. -/
theorem verdict_not_reported :
    Sample.decidedRow.LostBy Sample.takerPoll.robohashHex ∧
      ¬ Reports Sample.environment (runAlone Sample.environment Sample.decided) Sample.decidedRow
        Sample.takerPoll := by
  constructor
  · exact ⟨Sample.complaint.robohashHex, by decide +kernel, by decide +kernel⟩
  · intro reports
    exact reports.notNotReady (by decide +kernel)

end TapTrade
