import TapTrade.Model.SampleTrader
import TapTrade.Session.History

/-! # The order of a session

Whatever the coordinator answers, and whoever it is: a session asks its trader about the fiat
payment only when its escrow was reported as confirmed, it speaks for its trader only after the
trader has spoken, and it submits a bond, a decision and a signature at most once each.
-/

namespace TapTrade

open Wire Resumption

variable {P : Platform} {D : Device P} {config : TraderConfig D} {heard : Hearing D}

/-- What a session that makes the request has heard. -/
def Request.Justified (heard : Hearing D) (config : TraderConfig D) : Request → Prop
  | .createOffer offer => offer.robohashHex = config.robosatsRobohashHex
  | .submitMakerBond payload => payload.robohashHex = config.robosatsRobohashHex
  | .fetchAvailableOffers _ => True
  | .submitTakerBond payload => payload.tradeData.robohashHex = config.robosatsRobohashHex
  | .requestOfferStatus payload | .pollEscrowConfirmation payload =>
      payload.robohashHex = config.robosatsRobohashHex ∧ heard.Bonded config payload.offerIdHex
  | .submitEscrowPsbt payload =>
      payload.robohashHex = config.robosatsRobohashHex ∧ heard.Bonded config payload.offerIdHex
  | .submitObligationConfirmation payload =>
      payload.robohashHex = config.robosatsRobohashHex ∧ heard.Bonded config payload.offerIdHex ∧
        heard.Confirmed config payload.offerIdHex ∧ heard.Said config payload.offerIdHex true
  | .requestEscrow payload =>
      payload.robohashHex = config.robosatsRobohashHex ∧ heard.Bonded config payload.offerIdHex ∧
        heard.Confirmed config payload.offerIdHex ∧ heard.Said config payload.offerIdHex false
  | .pollFinalPayout payload =>
      payload.robohashHex = config.robosatsRobohashHex ∧
        (heard.Recorded config payload.offerIdHex ∨ heard.Complained config payload.offerIdHex)
  | .submitPayoutSignature payload =>
      payload.robohashHex = config.robosatsRobohashHex ∧
        heard.Said config payload.offerIdHex true ∧ heard.Recorded config payload.offerIdHex ∧
        heard.PaidOut config payload.offerIdHex
  | .monitorBonds | .updateTransactionConfirmations | .escrowCliLoop => False

/-- What a session that asks the question has heard. -/
def TraderQuery.Justified (heard : Hearing D) (config : TraderConfig D) : TraderQuery D → Prop
  | .post endpoint path body => endpoint = config.coordinatorEndpoint ∧
      ∃ request, route path body = .ok request ∧ request.Justified heard config
  | .readLine (.fiatConfirmation robohashHex offerIdHex _) =>
      robohashHex = config.robosatsRobohashHex ∧ heard.Bonded config offerIdHex ∧
        heard.Confirmed config offerIdHex
  | _ => True

/-- What is justified stays justified. -/
theorem Request.Justified.mono {heard' : Hearing D} {request : Request}
    (justified : request.Justified heard config)
    (grows : ∀ query answer, heard query answer → heard' query answer) :
    request.Justified heard' config := by
  cases request with
  | requestOfferStatus payload | pollEscrowConfirmation payload | submitEscrowPsbt payload =>
      exact ⟨justified.1, justified.2.mono grows⟩
  | submitObligationConfirmation payload | requestEscrow payload =>
      obtain ⟨own, bonded, confirmed, said⟩ := justified
      exact ⟨own, bonded.mono grows, confirmed.mono grows, said.mono grows⟩
  | pollFinalPayout payload =>
      exact ⟨justified.1, justified.2.imp (·.mono grows) (·.mono grows)⟩
  | submitPayoutSignature payload =>
      obtain ⟨own, said, recorded, paidOut⟩ := justified
      exact ⟨own, said.mono grows, recorded.mono grows, paidOut.mono grows⟩
  | _ => exact justified

/-- What a session does at most once. -/
inductive Milestone where
  | bond
  | decision
  | signature
  deriving DecidableEq, Repr

def Request.milestone? : Request → Option Milestone
  | .submitMakerBond _ | .submitTakerBond _ => some .bond
  | .submitObligationConfirmation _ | .requestEscrow _ => some .decision
  | .submitPayoutSignature _ => some .signature
  | _ => none

def TraderQuery.milestone? : TraderQuery D → Option Milestone
  | .post _ path body => (route path body).toOption.bind Request.milestone?
  | _ => none

namespace TradePhase

/-- How far a phase is from the first one. -/
def rank : TradePhase → Nat
  | entering => 0
  | trading _ => 1
  | exchanging _ => 2
  | satisfied _ | unsatisfied _ => 3
  | reported _ => 4
  | payable _ => 5
  | finished _ | complained _ | dropped => 6
  | reconciled _ => 7

end TradePhase

/-- The rank of the phases in which it is done. -/
def Milestone.rank : Milestone → Nat
  | bond => 0
  | decision => 3
  | signature => 5

namespace TradePhase

variable {phase after : TradePhase}

theorem Requests.rank {robohashHex : String} {answer : Except Error Response} {request : Request}
    (requests : Requests robohashHex answer phase request after) :
    phase.rank ≤ after.rank ∧
      ∀ milestone, request.milestone? = some milestone →
        phase.rank = milestone.rank ∧ milestone.rank < after.rank := by
  cases requests <;> refine ⟨by simp [TradePhase.rank], fun milestone same => ?_⟩ <;> cases same <;>
    simp [TradePhase.rank, Milestone.rank]

variable {query : TraderQuery D} {answer : query.Answer}

/-- A session never goes back, and what it does at most once leads it on. -/
theorem Asks.rank (asks : Asks config phase query answer after) :
    phase.rank ≤ after.rank ∧
      ∀ milestone, query.milestone? = some milestone →
        phase.rank = milestone.rank ∧ milestone.rank < after.rank := by
  cases asks with
  | request routed requests =>
      refine ⟨requests.rank.1, fun milestone same => requests.rank.2 milestone ?_⟩
      simpa [TraderQuery.milestone?, routed, Except.toOption] using same
  | @fiat id isBuyOrder answer =>
      refine ⟨?_, nofun⟩
      cases answer with
      | error e => exact Nat.le_refl _
      | ok line =>
          simp only [TradePhase.line]
          cases satisfaction? line with
          | none => exact Nat.le_refl _
          | some happy => cases happy <;> exact Nat.le_succ 2
  | quiet quiet =>
      refine ⟨Nat.le_refl _, fun milestone same => ?_⟩
      cases query with
      | post => exact quiet.elim
      | _ => cases same

/-- In each phase, a question is permitted only if enough has been heard. -/
theorem Heard.justified (known : phase.Heard heard config)
    (asks : Asks config phase query answer after) : query.Justified heard config := by
  cases asks with
  | quiet quiet =>
      cases query with
      | post => exact quiet.elim
      | readLine prompt =>
          cases prompt with
          | fiatConfirmation => exact quiet.elim
          | _ => trivial
      | _ => trivial
  | fiat => exact ⟨rfl, known⟩
  | @request phase after path body request answer routed requests =>
      refine ⟨rfl, request, routed, ?_⟩
      cases requests with
      | offer own | makerBond own | noMakerBond own | takerBond own | noTakerBond own => exact own
      | search => trivial
      | status | unconfirmed | confirmed => exact ⟨rfl, known⟩
      | escrow own same => exact ⟨own, same ▸ known⟩
      | recorded | unrecorded => exact ⟨rfl, known⟩
      | complained | unheeded => exact ⟨rfl, known⟩
      | unpaid | paidOut =>
          obtain ⟨bonded, confirmed, said, recorded⟩ := known
          exact ⟨rfl, .inl recorded⟩
      | disputed | reconciled =>
          obtain ⟨bonded, confirmed, said, complained⟩ := known
          exact ⟨rfl, .inr complained⟩
      | signed own same | unsigned own same =>
          subst same
          obtain ⟨bonded, confirmed, said, recorded, paidOut⟩ := known
          exact ⟨own, said, recorded, paidOut⟩

end TradePhase

/-- What is in a log. -/
def Hearing.ofLog (log : List (Event (trader D))) : Hearing D :=
  fun query answer => ⟨query, answer, ()⟩ ∈ log

/-- Every question of the log is justified by what was heard before, and nothing is done twice
    that is to be done once. -/
structure Orderly (config : TraderConfig D) (log : List (Event (trader D))) : Prop where
  justified : ∀ earlier event later, log = earlier ++ event :: later →
    event.query.Justified (.ofLog earlier) config
  once : log.Pairwise fun event event' => ∀ milestone, event.query.milestone? = some milestone →
    event'.query.milestone? ≠ some milestone

section Traces

variable {phase after : TradePhase} {log : List (Event (trader D))}

theorem heard_of_traces (traces : (protocol config).Traces .entering log after) :
    after.Heard (.ofLog log) config := by
  refine traces.invariant (fun past (phase : TradePhase) => phase.Heard (.ofLog past) config) ?_
    trivial
  intro past phase event after known asks
  have grown : phase.Heard (.ofLog (past ++ [event])) config :=
    known.mono fun query answer earlier => List.mem_append_left _ earlier
  have new : Hearing.ofLog (past ++ [event]) event.query event.answer :=
    List.mem_append_right past (List.mem_singleton_self event)
  exact grown.next new (TradePhase.asks_of_next asks)

/-- A log of the protocol is in order. -/
theorem orderly_of_traces (traces : (protocol config).Traces .entering log after) :
    Orderly config log := by
  refine ⟨?_, traces.once TradePhase.rank Milestone.rank TraderQuery.milestone?
    fun _ _ _ _ asks => (TradePhase.asks_of_next asks).rank⟩
  rintro earlier event later rfl
  obtain ⟨before, between, path, asks, -⟩ := traces.split
  exact (heard_of_traces path).justified (TradePhase.asks_of_next asks)

end Traces

/-- The settings with which a program is started. -/
def CliSettings.trader? : CliSettings D → Option (TraderConfig D)
  | .maker settings | .taker settings => some settings
  | .coordinator => none

theorem follows_startTradePipeline (W : TradingWallet P) (rounds n : Nat) {cli : CliSettings D}
    (settings : cli.trader? = some config) :
    (startTradePipeline W rounds cli).Follows (protocol config)
      (fun _ phase _ => ∃ offerId, phase = .finished offerId ∨ phase = .reconciled offerId)
      n .entering := by
  cases cli with
  | coordinator => cases settings
  | maker => cases settings; exact follows_runMaker rounds
  | taker =>
      cases settings
      apply Program.Follows.mono (follows_runTaker rounds)
      intro n phase result ends done same
      obtain ⟨offerId, finished⟩ := ends done same
      exact ⟨offerId, .inl finished⟩

/-- Whatever everybody answers: a session is orderly, and if it ends without an error, then there
    was a payout, and it has signed it or had complained before. -/
theorem session_orderly (W : TradingWallet P) (rounds : Nat) {cli : CliSettings D}
    (settings : cli.trader? = some config) (env : Environment (trader D)) (w : World (trader D)) :
    ∃ events, (Call.exec env (startTradePipeline W rounds cli) w).2.log = w.log ++ events ∧
      Orderly config events ∧
      ((Call.exec env (startTradePipeline W rounds cli) w).1 = .ok () → ∃ offerId,
        (Hearing.ofLog events).PaidOut config offerId ∧
          ((Hearing.ofLog events).Signed config offerId ∨
            (Hearing.ofLog events).Complained config offerId)) := by
  obtain ⟨events, phase, log, traces, ends⟩ :=
    (follows_startTradePipeline W rounds 0 settings).traces (fun _ _ _ _ _ => False.elim) env w
  refine ⟨events, log, orderly_of_traces traces, fun returned => ?_⟩
  have known := heard_of_traces traces
  obtain ⟨offerId, rfl | rfl⟩ := ends () returned
  · obtain ⟨bonded, confirmed, said, recorded, paidOut, signed⟩ := known
    exact ⟨offerId, paidOut, .inl signed⟩
  · obtain ⟨bonded, confirmed, said, complained, paidOut⟩ := known
    exact ⟨offerId, paidOut, .inr complained⟩

/-- A maker whose trade goes through. -/
theorem session_orderly_sample :
    (Call.exec (Sample.tradingEnvironment true) (startTradePipeline (Sample.wallet true) 3
        (.maker (Sample.settings true))) ⟨(), [], 0⟩).1 = .ok () ∧
      ∃ events, (Call.exec (Sample.tradingEnvironment true)
          (startTradePipeline (Sample.wallet true) 3 (.maker (Sample.settings true)))
          ⟨(), [], 0⟩).2.log = [] ++ events ∧
        Orderly (Sample.settings true) events ∧
        ∃ offerId, (Hearing.ofLog events).PaidOut (Sample.settings true) offerId ∧
          ((Hearing.ofLog events).Signed (Sample.settings true) offerId ∨
            (Hearing.ofLog events).Complained (Sample.settings true) offerId) := by
  have settings : (CliSettings.maker (Sample.settings true)).trader? = some (Sample.settings true) :=
    rfl
  obtain ⟨events, log, orderly, ended⟩ :=
    session_orderly (Sample.wallet true) 3 settings (Sample.tradingEnvironment true) ⟨(), [], 0⟩
  have through : (Call.exec (Sample.tradingEnvironment true) (startTradePipeline
      (Sample.wallet true) 3 (.maker (Sample.settings true))) ⟨(), [], 0⟩).1 = .ok () := by
    decide +kernel
  exact ⟨through, events, log, orderly, ended through⟩

end TapTrade
