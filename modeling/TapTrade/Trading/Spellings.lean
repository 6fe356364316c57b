import TapTrade.Dispute.Verdict
import TapTrade.Model.Lookup

/-! # Spellings of a robohash

A robohash comes as hexadecimal text, and texts in different case decode to the same bytes. The
handlers of a taken offer compare what they decoded, so that requests that differ in the spelling
only are served by the same program. But the winner of a dispute is recorded as text again, and the
poll for the final payout compares it with the text of the request.
-/

namespace TapTrade

open Relational Resumption

/-- The request with its robohash spelled differently. Requests that are not about a taken offer
    stay as they are. -/
def Request.respell (spelling : String) : Request → Request
  | .requestOfferStatus payload => .requestOfferStatus { payload with robohashHex := spelling }
  | .submitEscrowPsbt payload => .submitEscrowPsbt { payload with robohashHex := spelling }
  | .pollEscrowConfirmation payload =>
      .pollEscrowConfirmation { payload with robohashHex := spelling }
  | .submitObligationConfirmation payload =>
      .submitObligationConfirmation { payload with robohashHex := spelling }
  | .requestEscrow payload => .requestEscrow { payload with robohashHex := spelling }
  | .pollFinalPayout payload => .pollFinalPayout { payload with robohashHex := spelling }
  | .submitPayoutSignature payload =>
      .submitPayoutSignature { payload with robohashHex := spelling }
  | request => request

section Programs

variable {P : Platform} {spelling spelling' : String}

theorem hexDecode_congr (same : Hex.decode spelling = Hex.decode spelling') :
    (hexDecode spelling : Act P Error Bytes) = hexDecode spelling' := by
  rw [hexDecode, hexDecode, same]

theorem isValidRobohashInTable_congr (same : Hex.decode spelling = Hex.decode spelling')
    (offerId : String) : (isValidRobohashInTable spelling offerId : Act P Error Bool) =
      isValidRobohashInTable spelling' offerId := by
  rw [isValidRobohashInTable, isValidRobohashInTable, hexDecode_congr same]

theorem isMakerInTakenOffers_congr (same : Hex.decode spelling = Hex.decode spelling')
    (offerId : String) : (isMakerInTakenOffers offerId spelling : Act P Error Bool) =
      isMakerInTakenOffers offerId spelling' := by
  rw [isMakerInTakenOffers, isMakerInTakenOffers, hexDecode_congr same]

theorem checkOfferAndConfirmation_congr (same : Hex.decode spelling = Hex.decode spelling')
    (offerId : String) : (checkOfferAndConfirmation offerId spelling : Act P RequestError Unit) =
      checkOfferAndConfirmation offerId spelling' := by
  rw [checkOfferAndConfirmation, checkOfferAndConfirmation, isValidRobohashInTable_congr same]

theorem setTraderHappyField_congr (same : Hex.decode spelling = Hex.decode spelling')
    (offerId : String) (isHappy : Bool) :
    (setTraderHappyField offerId spelling isHappy : Act P Error Unit) =
      setTraderHappyField offerId spelling' isHappy := by
  rw [setTraderHappyField, setTraderHappyField, isMakerInTakenOffers_congr same]

/-- But for the poll for the final payout, the same program serves both spellings. -/
theorem serve_respell {request : Request} (noPoll : ∀ poll, request ≠ .pollFinalPayout poll)
    (same : Hex.decode spelling = Hex.decode spelling') :
    (request.respell spelling).serve P = (request.respell spelling').serve P := by
  have valid := isValidRobohashInTable_congr (P := P) same
  have role := isMakerInTakenOffers_congr (P := P) same
  have checked := checkOfferAndConfirmation_congr (P := P) same
  have happy := setTraderHappyField_congr (P := P) same
  cases request with
  | submitEscrowPsbt payload =>
      simp only [Request.respell, Request.serve, handleSignedEscrowPsbt, insertSignedEscrowPsbt,
        valid, role]
  | pollEscrowConfirmation payload =>
      simp only [Request.respell, Request.serve, fetchEscrowConfirmationStatus, valid]
  | submitObligationConfirmation payload =>
      simp only [Request.respell, Request.serve, handleObligationConfirmation, checked, happy]
  | requestEscrow payload =>
      simp only [Request.respell, Request.serve, initiateEscrow, checked, happy]
  | submitPayoutSignature payload =>
      simp only [Request.respell, Request.serve, handlePayoutSignature, insertPartialSig, checked,
        role]
  | pollFinalPayout poll => exact absurd rfl (noPoll poll)
  | _ => rfl

end Programs

section Polls

open Call

variable {P : Platform} {env : Environment (coordinator P)} {w : World (coordinator P)}
  {poll : OfferTakenRequest} {row : TakenOffer} {winner spelling spelling' : String}

/-- A poll of the offer gets to the comparison with the recorded winner. -/
structure ComparesWinner (env : Environment (coordinator P)) (w : World (coordinator P))
    (offerId : String) (row : TakenOffer) (winner : String) : Prop where
  found : w.state.takenOffers.find? offerId = some row
  recorded : row.escrowWinnerRobohash = some winner
  notBothHappy : row.happiness.bothHappy = false
  notUndecided : row.happiness.undecided = false
  unfailing : env.fault w.clock = none
  unfailing' : env.fault (w.clock + 1) = none

theorem exec_poll_of_compares (compares : ComparesWinner env w poll.offerIdHex row winner) :
    exec env (handleFinalPayout poll) w =
      (if winner = poll.robohashHex then .error .panicked else .ok .lostEscrow,
        World.tick (World.tick w)) := by
  obtain ⟨found, recorded, notBothHappy, notUndecided, unfailing, unfailing'⟩ := compares
  rw [exec_handleFinalPayout unfailing found, notBothHappy, notUndecided]
  have first : env.fault (World.tick w).clock = none := unfailing'
  have there : (World.tick w).state.takenOffers.find? poll.offerIdHex = some row := found
  simp only [Bool.false_eq_true, if_false]
  rw [disputeResult, exec_bind, exec_mapError, fetchEscrowResult, exec_bind,
    exec_fetchOne first, there]
  simp only [exec_pure, Outcome.mapError_ok, recorded]
  split <;> rfl

/-- The look-up of the winner when there is none to compare with. -/
theorem exec_disputeResult_of_not_compares
    (quiet : env.fault w.clock = none → ∀ row winner,
      w.state.takenOffers.find? poll.offerIdHex = some row →
        row.escrowWinnerRobohash ≠ some winner) :
    ∃ result, result ≠ .ok .lostEscrow ∧ ∀ spelling,
      exec env (disputeResult { poll with robohashHex := spelling }) w =
        (result, World.tick w) := by
  simp only [disputeResult, exec_bind, exec_mapError, fetchEscrowResult]
  cases fault : env.fault w.clock with
  | some failure =>
      rw [exec_fetchOne_of_fault fault]
      exact ⟨.error (.failed (.database .database)), by simp, fun _ => rfl⟩
  | none =>
      rw [exec_fetchOne fault]
      cases found : w.state.takenOffers.find? poll.offerIdHex with
      | none => exact ⟨.error (.failed (.database .rowNotFound)), by simp, fun _ => rfl⟩
      | some row =>
          cases recorded : row.escrowWinnerRobohash with
          | some winner => exact absurd recorded (quiet fault row winner found)
          | none =>
              simp only [exec_pure, Outcome.mapError_ok, recorded]
              exact ⟨.ok .decidingEscrow, by simp, fun _ => rfl⟩

/-- A poll that does not get to the comparison does not look at its robohash. -/
theorem exec_poll_of_not_compares
    (quiet : ∀ row winner, ¬ ComparesWinner env w poll.offerIdHex row winner) :
    ∃ ends : Outcome RequestError PayoutProcessingResult × World (coordinator P),
      ends.1 ≠ .ok .lostEscrow ∧
        ∀ spelling,
          exec env (handleFinalPayout { poll with robohashHex := spelling }) w = ends := by
  cases fault : env.fault w.clock with
  | some failure =>
      simp only [handleFinalPayout, exec_bind, exec_mapError, fetchTraderHappiness]
      rw [exec_fetchOne_of_fault fault]
      exact ⟨(.error (.failed (.database .database)), World.tick w), by simp, fun _ => rfl⟩
  | none =>
      cases found : w.state.takenOffers.find? poll.offerIdHex with
      | none =>
          simp only [handleFinalPayout, exec_bind, exec_mapError, fetchTraderHappiness]
          rw [exec_fetchOne fault, found]
          exact ⟨(.error (.failed (.database .rowNotFound)), World.tick w), by simp, fun _ => rfl⟩
      | some row =>
          have looks (spelling : String) :
              exec env (handleFinalPayout { poll with robohashHex := spelling }) w = _ :=
            exec_handleFinalPayout fault found
          simp only [looks]
          cases happy : row.happiness.bothHappy with
          | true =>
              refine ⟨_, fun lost => ?_, fun _ => rfl⟩
              exact keyspendPayout_ne_lostEscrow (Prod.ext lost rfl) rfl
          | false =>
              cases undecided : row.happiness.undecided with
              | true => exact ⟨(.ok .notReady, World.tick w), by simp, fun _ => rfl⟩
              | false =>
                  have unrecorded : env.fault (World.tick w).clock = none → ∀ other winner,
                      (World.tick w).state.takenOffers.find? poll.offerIdHex = some other →
                        other.escrowWinnerRobohash ≠ some winner := by
                    intro fault' other winner same recorded
                    cases found.symm.trans same
                    exact quiet row winner ⟨found, recorded, happy, undecided, fault, fault'⟩
                  obtain ⟨result, notLost, ends⟩ := exec_disputeResult_of_not_compares unrecorded
                  exact ⟨_, notLost, ends⟩

theorem run_serve_poll (env : Environment (coordinator P)) (w : World (coordinator P))
    (poll : OfferTakenRequest) : ((Request.pollFinalPayout poll).serve P).run env w =
      (.pollFinalPayout (exec env (handleFinalPayout poll) w).1,
        (exec env (handleFinalPayout poll) w).2) := by
  rw [Request.serve, Program.map, Program.run_bind]
  rfl

end Polls

section Recorded

open Database

variable {P : Platform} {offerId : String}

/-- A recorded winner is an encoded robohash. -/
def TakenOffer.WinnerEncoded (row : TakenOffer) : Prop :=
  ∀ winner, row.escrowWinnerRobohash = some winner → ∃ robohash, winner = Hex.encode robohash

theorem winnerEncoded_served {request : Request} (noOperator : request ≠ .escrowCliLoop)
    {before after : Database} (served : Served request before after)
    (encoded : before.AtOffer offerId TakenOffer.WinnerEncoded) :
    after.AtOffer offerId TakenOffer.WinnerEncoded := by
  cases served with
  | reads => exact encoded
  | writes permitted =>
      cases permitted with
      | take =>
          refine encoded.insertTaken fun _ winner recorded => ?_
          cases recorded
      | signEscrow isMaker | confirmObligation isMaker | complain isMaker | signPayout isMaker =>
          refine encoded.updateTaken fun _ row kept => ?_
          cases isMaker <;> exact kept
      | openDispute | toggleProcessing | storePayout =>
          exact encoded.updateTaken fun _ _ kept => kept
      | decide => exact absurd rfl noOperator
      | finish => exact encoded.deleteTaken
      | confirmEscrow => exact encoded.confirm fun _ kept => kept
      | _ => exact encoded

/-- The operator chooses among the encoded robohashes of the two traders. -/
theorem winnerEncoded_escrowCliLoop :
    (escrowCliLoop : Act P Error Unit).Keeps
      (Preserving (AtOffer offerId TakenOffer.WinnerEncoded)) := by
  rw [escrowCliLoop, getOpenEscrows, bind_assoc]
  apply Call.Keeps.bind (keeps_fetchAll _)
  intro rows
  rw [pure_bind]
  apply keeps_resolveEscrows
  intro escrow member db winner chosen encoded
  obtain ⟨row, -, rfl⟩ := List.mem_map.mp member
  refine encoded.updateTaken fun _ _ _ other recorded => ?_
  cases recorded
  rcases chosen with rfl | rfl
  · exact ⟨_, rfl⟩
  · exact ⟨_, rfl⟩

theorem winnerEncoded_serve (request : Request) :
    (request.serve P).Keeps (Preserving (AtOffer offerId TakenOffer.WinnerEncoded)) := by
  by_cases operator : request = .escrowCliLoop
  · rw [operator]
    exact Program.Keeps.bind winnerEncoded_escrowCliLoop fun _ => trivial
  · exact (writes_serve P request).mono fun _ _ => winnerEncoded_served operator

end Recorded

section Reachable

variable {P : Platform} {ι : Type} [DecidableEq ι]

/-- The answer to the trader who has lost the dispute. -/
abbrev lostEscrow : Reply := .pollFinalPayout (.ok .lostEscrow)

/-- The request polls for the trader that is recorded as the winner. -/
def Request.ByWinner (request : Request) (robohash : Bytes) (db : Database) : Prop :=
  ∃ poll row winner, request = .pollFinalPayout poll ∧
    db.takenOffers.find? poll.offerIdHex = some row ∧ row.escrowWinnerRobohash = some winner ∧
      Hex.decode winner = some robohash

/-- The two spellings of the robohash are as good as one. -/
structure SpelledAlike (env : Environment (coordinator P)) (w : World (coordinator P))
    (request : Request) (robohash : Bytes) (spelling spelling' : String) : Prop where
  same : ((request.respell spelling).serve P).run env w =
    ((request.respell spelling').serve P).run env w
  recognized : request.ByWinner robohash w.state →
    (((request.respell spelling).serve P).run env w).1 ≠ lostEscrow ∧
      (((request.respell spelling').serve P).run env w).1 ≠ lostEscrow

/-- A poll for the recorded winner that gets to the comparison comes in lower case. -/
def PollsInLowerCase (env : Environment (coordinator P)) (w : World (coordinator P))
    (request : Request) (robohash : Bytes) (spelling spelling' : String) : Prop :=
  ∀ poll row winner, request = .pollFinalPayout poll →
    ComparesWinner env w poll.offerIdHex row winner → Hex.decode winner = some robohash →
      spelling = Hex.encode robohash ∧ spelling' = Hex.encode robohash

section Comparing

variable {env : Environment (coordinator P)} {w : World (coordinator P)} {robohash : Bytes}
  {spelling spelling' : String} {poll : OfferTakenRequest} {row : TakenOffer} {winner : String}

/-- A request that does not get to the comparison. -/
theorem spelledAlike_of_not_compares {request : Request}
    (same : Hex.decode spelling = Hex.decode spelling')
    (quiet : ∀ poll, request = .pollFinalPayout poll →
      ∀ row winner, ¬ ComparesWinner env w poll.offerIdHex row winner) :
    SpelledAlike env w request robohash spelling spelling' := by
  by_cases polls : ∃ poll, request = .pollFinalPayout poll
  · obtain ⟨poll, rfl⟩ := polls
    obtain ⟨ends, notLost, runs⟩ := exec_poll_of_not_compares (quiet poll rfl)
    have told (spelling : String) : (((Request.pollFinalPayout poll).respell spelling).serve P).run
        env w = (.pollFinalPayout ends.1, ends.2) := by
      rw [Request.respell, run_serve_poll, runs]
    have notTold : Reply.pollFinalPayout ends.1 ≠ lostEscrow :=
      fun lost => notLost (Reply.pollFinalPayout.inj lost)
    refine ⟨?_, fun _ => ?_⟩
    · rw [told, told]
    · rw [told, told]
      exact ⟨notTold, notTold⟩
  · refine ⟨?_, fun byWinner => ?_⟩
    · rw [serve_respell (fun poll isPoll => polls ⟨poll, isPoll⟩) same]
    · obtain ⟨poll, -, -, isPoll, -⟩ := byWinner
      exact absurd ⟨poll, isPoll⟩ polls

/-- The answer to a poll that gets to the comparison. -/
theorem run_poll_of_compares (compares : ComparesWinner env w poll.offerIdHex row winner)
    (spelling : String) :
    (((Request.pollFinalPayout poll).respell spelling).serve P).run env w =
      (.pollFinalPayout (if winner = spelling then .error .panicked else .ok .lostEscrow),
        World.tick (World.tick w)) := by
  have asked : ComparesWinner env w { poll with robohashHex := spelling }.offerIdHex row winner :=
    compares
  rw [Request.respell, run_serve_poll, exec_poll_of_compares asked]

theorem told_iff (compares : ComparesWinner env w poll.offerIdHex row winner) (spelling : String) :
    ((((Request.pollFinalPayout poll).respell spelling).serve P).run env w).1 ≠ lostEscrow ↔
      winner = spelling := by
  rw [run_poll_of_compares compares]
  split
  case isTrue same => exact iff_of_true nofun same
  case isFalse other => exact iff_of_false (fun notLost => notLost rfl) other

/-- A poll that gets to the comparison with the robohash that is recorded. -/
theorem pollsInLowerCase_of_spelledAlike {recordedAs : Bytes}
    (compares : ComparesWinner env w poll.offerIdHex row (Hex.encode recordedAs))
    (alike : SpelledAlike env w (.pollFinalPayout poll) robohash spelling spelling') :
    PollsInLowerCase env w (.pollFinalPayout poll) robohash spelling spelling' := by
  intro poll' row' winner' polls compares' ours
  cases polls
  cases compares.found.symm.trans compares'.found
  cases compares.recorded.symm.trans compares'.recorded
  obtain ⟨notLost, notLost'⟩ := alike.recognized
    ⟨poll, row, _, rfl, compares.found, compares.recorded, ours⟩
  rw [Hex.decode_encode] at ours
  cases ours
  exact ⟨((told_iff compares _).mp notLost).symm, ((told_iff compares _).mp notLost').symm⟩

/-- Everybody but the winner is told to have lost, under every spelling. -/
theorem spelledAlike_of_loser {recordedAs : Bytes}
    (compares : ComparesWinner env w poll.offerIdHex row (Hex.encode recordedAs))
    (loser : recordedAs ≠ robohash) (decoded : Hex.decode spelling = some robohash)
    (decoded' : Hex.decode spelling' = some robohash) :
    SpelledAlike env w (.pollFinalPayout poll) robohash spelling spelling' := by
  have other : ∀ spelling, Hex.decode spelling = some robohash →
      Hex.encode recordedAs ≠ spelling := by
    rintro spelling decoded rfl
    rw [Hex.decode_encode] at decoded
    exact loser (Option.some.inj decoded)
  constructor
  · rw [run_poll_of_compares compares, run_poll_of_compares compares,
      if_neg (other _ decoded), if_neg (other _ decoded')]
  · rintro ⟨poll', row', winner', polls, found, recorded, named⟩
    cases polls
    cases compares.found.symm.trans found
    cases compares.recorded.symm.trans recorded
    rw [Hex.decode_encode] at named
    exact absurd (Option.some.inj named) loser

/-- The winner is recognized in lower case. -/
theorem spelledAlike_of_pollsInLowerCase {recordedAs : Bytes}
    (compares : ComparesWinner env w poll.offerIdHex row (Hex.encode recordedAs))
    (decoded : Hex.decode spelling = some robohash)
    (decoded' : Hex.decode spelling' = some robohash)
    (lower : PollsInLowerCase env w (.pollFinalPayout poll) robohash spelling spelling') :
    SpelledAlike env w (.pollFinalPayout poll) robohash spelling spelling' := by
  by_cases ours : recordedAs = robohash
  · subst ours
    obtain ⟨rfl, rfl⟩ := lower poll row _ rfl compares (Hex.decode_encode _)
    have told := (told_iff compares (Hex.encode recordedAs)).mpr rfl
    exact ⟨rfl, fun _ => ⟨told, told⟩⟩
  · exact spelledAlike_of_loser compares ours decoded decoded'

end Comparing

theorem spelledAlike_iff_of_encoded {env : Environment (coordinator P)}
    {w : World (coordinator P)} {request : Request} {robohash : Bytes}
    {spelling spelling' : String} (decoded : Hex.decode spelling = some robohash)
    (decoded' : Hex.decode spelling' = some robohash)
    (encoded : ∀ offerId, w.state.AtOffer offerId TakenOffer.WinnerEncoded) :
    SpelledAlike env w request robohash spelling spelling' ↔
      PollsInLowerCase env w request robohash spelling spelling' := by
  by_cases compares : ∃ poll row winner, request = .pollFinalPayout poll ∧
      ComparesWinner env w poll.offerIdHex row winner
  case neg =>
    have quiet : ∀ poll, request = .pollFinalPayout poll →
        ∀ row winner, ¬ ComparesWinner env w poll.offerIdHex row winner :=
      fun poll polls row winner compared => compares ⟨poll, row, winner, polls, compared⟩
    refine iff_of_true (spelledAlike_of_not_compares (decoded.trans decoded'.symm) quiet) ?_
    exact fun poll row winner polls compared => absurd compared (quiet poll polls row winner)
  case pos =>
    obtain ⟨poll, row, winner, rfl, compares⟩ := compares
    obtain ⟨recordedAs, rfl⟩ := encoded poll.offerIdHex row compares.found winner compares.recorded
    exact ⟨pollsInLowerCase_of_spelledAlike compares,
      spelledAlike_of_pollsInLowerCase compares decoded decoded'⟩

/-- In every state that any interleaving of requests leads to: whether the robohash of a request is
    spelled one way or the other makes no difference, and the recorded winner is not told to have
    lost, iff a poll for the recorded winner spells the robohash in lower case. -/
theorem spelledAlike_iff (env env' : Environment (coordinator P)) (requests : ι → Request)
    (schedule : List ι) (request : Request) {robohash : Bytes} {spelling spelling' : String}
    (decoded : Hex.decode spelling = some robohash)
    (decoded' : Hex.decode spelling' = some robohash) :
    SpelledAlike env'
        ((Pool.start (startup P) fun i => (requests i).serve P).play env schedule).world request
        robohash spelling spelling' ↔
      PollsInLowerCase env'
        ((Pool.start (startup P) fun i => (requests i).serve P).play env schedule).world request
        robohash spelling spelling' := by
  apply spelledAlike_iff_of_encoded decoded decoded'
  intro offerId
  exact Pool.holds_play (fun i => winnerEncoded_serve (requests i)) Database.AtOffer.startup env
    schedule

end Reachable

namespace Sample

/-- The requests of a trade whose maker is declared the winner and complains again. -/
def verdictRequest (n : Nat) : Request := (decided ++ reopened).getD n .escrowCliLoop

/-- The trade once the requests were served one after the other. -/
def verdictPool : Pool (coordinator .sample) Nat Reply :=
  (Pool.start (startup .sample) fun n => (verdictRequest n).serve .sample).play environment
    ((List.range (decided ++ reopened).length).flatMap (List.replicate 12))

/-- The robohash of the maker in capital letters. -/
def makerRobohashCapital : String := "A3F1F1F0E2F3F4F5"

end Sample

theorem spelledAlike_iff_sample :
    SpelledAlike Sample.environment Sample.verdictPool.world
        (.pollFinalPayout Sample.makerPoll) Sample.makerRobohash Sample.makerBond.robohashHex
        Sample.makerRobohashCapital ↔
      PollsInLowerCase Sample.environment Sample.verdictPool.world
        (.pollFinalPayout Sample.makerPoll) Sample.makerRobohash Sample.makerBond.robohashHex
        Sample.makerRobohashCapital :=
  spelledAlike_iff Sample.environment Sample.environment Sample.verdictRequest
    ((List.range (Sample.decided ++ Sample.reopened).length).flatMap (List.replicate 12))
    (.pollFinalPayout Sample.makerPoll) (by decide +kernel) (by decide +kernel)

/-- The maker has won the dispute, and is told to have lost it when it polls in capital letters. -/
theorem winner_told_lost :
    ¬ SpelledAlike Sample.environment Sample.verdictPool.world
      (.pollFinalPayout Sample.makerPoll) Sample.makerRobohash Sample.makerBond.robohashHex
      Sample.makerRobohashCapital := by
  intro alike
  have won : ((Sample.verdictPool.world.state.takenOffers.find? Sample.offerId).bind
      TakenOffer.escrowWinnerRobohash) = some Sample.makerBond.robohashHex := by
    decide +kernel
  obtain ⟨row, found, recorded⟩ := Option.bind_eq_some_iff.mp won
  have byWinner : (Request.pollFinalPayout Sample.makerPoll).ByWinner Sample.makerRobohash
      Sample.verdictPool.world.state :=
    ⟨Sample.makerPoll, row, _, rfl, found, recorded, by decide +kernel⟩
  have lost : (Call.exec Sample.environment
      (handleFinalPayout ⟨Sample.makerRobohashCapital, Sample.offerId⟩)
      Sample.verdictPool.world).1 = .ok .lostEscrow := by
    decide +kernel
  apply (alike.recognized byWinner).2
  rw [Request.respell, run_serve_poll]
  exact congrArg Reply.pollFinalPayout lost

end TapTrade
