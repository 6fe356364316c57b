import TapTrade.Resumption.Trace
import TapTrade.Session.Conduct

/-! # What a session has heard

A phase of a session is more than a name: a trader is asked about its fiat payment only when the
escrow was reported as confirmed, and a signature is sent only after its word. `TradePhase.Heard`
says what a session in a phase must have heard, from the coordinator and from its trader.
-/

namespace TapTrade

open Wire Resumption

variable {P : Platform} {D : Device P}

/-- Which questions were asked, with which answers. -/
abbrev Hearing (D : Device P) := ∀ query : TraderQuery D, query.Answer → Prop

namespace Hearing

variable (heard : Hearing D) (config : TraderConfig D) (offerId : String)

/-- The coordinator gave the answer to the request. -/
def Answered (request : Request) (answer : Except Error Response) : Prop :=
  ∃ path body, heard (.post config.coordinatorEndpoint path body) answer ∧
    route path body = .ok request

/-- A bond of the trader was accepted for the offer. -/
inductive Bonded : Prop
  | maker {payload : BondSubmissionRequest} {answer : Except Error Response}
      {response : OfferActivatedResponse}
      (answered : heard.Answered config (.submitMakerBond payload) answer)
      (own : payload.robohashHex = config.robosatsRobohashHex)
      (activated : message? OfferActivatedResponse answer = some response)
      (same : response.offerIdHex = offerId)
  | taker {payload : OfferPsbtRequest} {answer : Except Error Response}
      {response : OfferTakenResponse}
      (answered : heard.Answered config (.submitTakerBond payload) answer)
      (own : payload.tradeData.robohashHex = config.robosatsRobohashHex)
      (accepted : hasStatus 200 answer) (taken : message? OfferTakenResponse answer = some response)
      (same : payload.offer.offerIdHex = offerId)

/-- The escrow was reported as confirmed. -/
def Confirmed : Prop :=
  ∃ answer, heard.Answered config (.pollEscrowConfirmation (config.about offerId)) answer ∧
    hasStatus 200 answer

/-- The trader has said that it is satisfied, or that it is not. -/
def Said (happy : Bool) : Prop :=
  ∃ isBuyOrder line, heard (.readLine (.fiatConfirmation config.robosatsRobohashHex offerId
    isBuyOrder)) (.ok line) ∧ satisfaction? line = some happy

/-- The satisfaction of the trader was recorded. -/
def Recorded : Prop :=
  ∃ answer, heard.Answered config (.submitObligationConfirmation (config.about offerId)) answer ∧
    hasStatus 200 answer

/-- There was a payout. -/
def PaidOut : Prop :=
  ∃ answer payout, heard.Answered config (.pollFinalPayout (config.about offerId)) answer ∧
    hasStatus 200 answer ∧ message? PayoutResponse answer = some payout

/-- The signature of the trader was accepted. -/
def Signed : Prop :=
  ∃ payload answer, heard.Answered config (.submitPayoutSignature payload) answer ∧
    payload.robohashHex = config.robosatsRobohashHex ∧ payload.offerIdHex = offerId ∧
    (hasStatus 200 answer ∨ hasStatus 202 answer)

/-- The complaint of the trader was accepted. -/
def Complained : Prop :=
  ∃ answer, heard.Answered config (.requestEscrow ⟨config.robosatsRobohashHex, offerId⟩) answer ∧
    hasStatus 200 answer

variable {heard heard' : Hearing D} {config : TraderConfig D} {offerId : String}
  (grows : ∀ query answer, heard query answer → heard' query answer)
include grows

theorem Answered.mono {request : Request} {answer : Except Error Response}
    (answered : heard.Answered config request answer) : heard'.Answered config request answer := by
  obtain ⟨path, body, asked, routed⟩ := answered
  exact ⟨path, body, grows _ _ asked, routed⟩

theorem Bonded.mono (bonded : heard.Bonded config offerId) : heard'.Bonded config offerId := by
  cases bonded with
  | maker answered own activated same => exact .maker (answered.mono grows) own activated same
  | taker answered own accepted taken same =>
      exact .taker (answered.mono grows) own accepted taken same

theorem Confirmed.mono (confirmed : heard.Confirmed config offerId) :
    heard'.Confirmed config offerId := by
  obtain ⟨answer, answered, reported⟩ := confirmed
  exact ⟨answer, answered.mono grows, reported⟩

theorem Said.mono {happy : Bool} (said : heard.Said config offerId happy) :
    heard'.Said config offerId happy := by
  obtain ⟨isBuyOrder, line, read, means⟩ := said
  exact ⟨isBuyOrder, line, grows _ _ read, means⟩

theorem Recorded.mono (recorded : heard.Recorded config offerId) :
    heard'.Recorded config offerId := by
  obtain ⟨answer, answered, accepted⟩ := recorded
  exact ⟨answer, answered.mono grows, accepted⟩

theorem PaidOut.mono (paidOut : heard.PaidOut config offerId) : heard'.PaidOut config offerId := by
  obtain ⟨answer, payout, answered, rest⟩ := paidOut
  exact ⟨answer, payout, answered.mono grows, rest⟩

theorem Signed.mono (signed : heard.Signed config offerId) : heard'.Signed config offerId := by
  obtain ⟨payload, answer, answered, own⟩ := signed
  exact ⟨payload, answer, answered.mono grows, own⟩

theorem Complained.mono (complained : heard.Complained config offerId) :
    heard'.Complained config offerId := by
  obtain ⟨answer, answered, accepted⟩ := complained
  exact ⟨answer, answered.mono grows, accepted⟩

end Hearing

namespace TradePhase

/-- What a session in the phase has heard. -/
def Heard (heard : Hearing D) (config : TraderConfig D) : TradePhase → Prop
  | entering | dropped => True
  | trading id => heard.Bonded config id
  | exchanging id => heard.Bonded config id ∧ heard.Confirmed config id
  | satisfied id => heard.Bonded config id ∧ heard.Confirmed config id ∧ heard.Said config id true
  | reported id => heard.Bonded config id ∧ heard.Confirmed config id ∧
      heard.Said config id true ∧ heard.Recorded config id
  | payable id => heard.Bonded config id ∧ heard.Confirmed config id ∧
      heard.Said config id true ∧ heard.Recorded config id ∧ heard.PaidOut config id
  | finished id => heard.Bonded config id ∧ heard.Confirmed config id ∧
      heard.Said config id true ∧ heard.Recorded config id ∧ heard.PaidOut config id ∧
      heard.Signed config id
  | unsatisfied id => heard.Bonded config id ∧ heard.Confirmed config id ∧
      heard.Said config id false
  | complained id => heard.Bonded config id ∧ heard.Confirmed config id ∧
      heard.Said config id false ∧ heard.Complained config id
  | reconciled id => heard.Bonded config id ∧ heard.Confirmed config id ∧
      heard.Said config id false ∧ heard.Complained config id ∧ heard.PaidOut config id

/-- The requests that may be made, and the phases they leave. -/
inductive Requests (robohashHex : String) (answer : Except Error Response) :
    TradePhase → Request → TradePhase → Prop
  | offer {offer : OfferRequest} (own : offer.robohashHex = robohashHex) :
      Requests robohashHex answer entering (.createOffer offer) entering
  | search {request : OffersRequest} :
      Requests robohashHex answer entering (.fetchAvailableOffers request) entering
  | makerBond {payload : BondSubmissionRequest} {response : OfferActivatedResponse}
      (own : payload.robohashHex = robohashHex)
      (activated : message? OfferActivatedResponse answer = some response) :
      Requests robohashHex answer entering (.submitMakerBond payload) (trading response.offerIdHex)
  | noMakerBond {payload : BondSubmissionRequest} (own : payload.robohashHex = robohashHex) :
      Requests robohashHex answer entering (.submitMakerBond payload) dropped
  | takerBond {payload : OfferPsbtRequest} {response : OfferTakenResponse}
      (own : payload.tradeData.robohashHex = robohashHex) (accepted : hasStatus 200 answer)
      (taken : message? OfferTakenResponse answer = some response) :
      Requests robohashHex answer entering (.submitTakerBond payload)
        (trading payload.offer.offerIdHex)
  | noTakerBond {payload : OfferPsbtRequest} (own : payload.tradeData.robohashHex = robohashHex) :
      Requests robohashHex answer entering (.submitTakerBond payload) dropped
  | status {id : String} :
      Requests robohashHex answer (trading id) (.requestOfferStatus ⟨robohashHex, id⟩) (trading id)
  | escrow {id : String} {payload : PsbtSubmissionRequest} (own : payload.robohashHex = robohashHex)
      (same : payload.offerIdHex = id) :
      Requests robohashHex answer (trading id) (.submitEscrowPsbt payload) (trading id)
  | unconfirmed {id : String} :
      Requests robohashHex answer (trading id) (.pollEscrowConfirmation ⟨robohashHex, id⟩)
        (trading id)
  | confirmed {id : String} (reported : hasStatus 200 answer) :
      Requests robohashHex answer (trading id) (.pollEscrowConfirmation ⟨robohashHex, id⟩)
        (exchanging id)
  | recorded {id : String} (accepted : hasStatus 200 answer) :
      Requests robohashHex answer (satisfied id) (.submitObligationConfirmation ⟨robohashHex, id⟩)
        (reported id)
  | unrecorded {id : String} :
      Requests robohashHex answer (satisfied id) (.submitObligationConfirmation ⟨robohashHex, id⟩)
        dropped
  | unpaid {id : String} :
      Requests robohashHex answer (reported id) (.pollFinalPayout ⟨robohashHex, id⟩) (reported id)
  | paidOut {id : String} {payout : PayoutResponse} (ready : hasStatus 200 answer)
      (read : message? PayoutResponse answer = some payout) :
      Requests robohashHex answer (reported id) (.pollFinalPayout ⟨robohashHex, id⟩) (payable id)
  | signed {id : String} {payload : PayoutSignatureRequest}
      (own : payload.robohashHex = robohashHex) (same : payload.offerIdHex = id)
      (accepted : hasStatus 200 answer ∨ hasStatus 202 answer) :
      Requests robohashHex answer (payable id) (.submitPayoutSignature payload) (finished id)
  | unsigned {id : String} {payload : PayoutSignatureRequest}
      (own : payload.robohashHex = robohashHex) (same : payload.offerIdHex = id) :
      Requests robohashHex answer (payable id) (.submitPayoutSignature payload) dropped
  | complained {id : String} (accepted : hasStatus 200 answer) :
      Requests robohashHex answer (unsatisfied id) (.requestEscrow ⟨robohashHex, id⟩)
        (complained id)
  | unheeded {id : String} :
      Requests robohashHex answer (unsatisfied id) (.requestEscrow ⟨robohashHex, id⟩) dropped
  | disputed {id : String} :
      Requests robohashHex answer (complained id) (.pollFinalPayout ⟨robohashHex, id⟩)
        (complained id)
  | reconciled {id : String} {payout : PayoutResponse} (ready : hasStatus 200 answer)
      (read : message? PayoutResponse answer = some payout) :
      Requests robohashHex answer (complained id) (.pollFinalPayout ⟨robohashHex, id⟩)
        (reconciled id)

theorem requests_of_request {robohashHex : String} {answer : Except Error Response}
    {phase after : TradePhase} {request : Request}
    (asks : phase.request robohashHex request answer = some after) :
    Requests robohashHex answer phase request after := by
  cases phase <;> cases request <;> simp only [TradePhase.request, reduceCtorEq] at asks
  case entering.createOffer offer =>
    obtain ⟨own, same⟩ := Option.ite_none_right_eq_some.mp asks
    cases same
    exact .offer own
  case entering.fetchAvailableOffers request =>
    cases asks
    exact .search
  case entering.submitMakerBond payload =>
    obtain ⟨own, same⟩ := Option.ite_none_right_eq_some.mp asks
    cases activated : message? OfferActivatedResponse answer with
    | none =>
        rw [activated] at same
        cases same
        exact .noMakerBond own
    | some response =>
        rw [activated] at same
        cases same
        exact .makerBond own activated
  case entering.submitTakerBond payload =>
    obtain ⟨own, same⟩ := Option.ite_none_right_eq_some.mp asks
    cases same
    split
    case isTrue accepted =>
      obtain ⟨response, taken⟩ := Option.isSome_iff_exists.mp accepted.2
      exact .takerBond own accepted.1 taken
    case isFalse => exact .noTakerBond own
  case trading.requestOfferStatus id payload =>
    obtain ⟨rfl, same⟩ := Option.ite_none_right_eq_some.mp asks
    cases same
    exact .status
  case trading.submitEscrowPsbt id payload =>
    obtain ⟨⟨own, same⟩, ends⟩ := Option.ite_none_right_eq_some.mp asks
    cases ends
    exact .escrow own same
  case trading.pollEscrowConfirmation id payload =>
    obtain ⟨rfl, same⟩ := Option.ite_none_right_eq_some.mp asks
    cases same
    split
    case isTrue reported => exact .confirmed reported
    case isFalse => exact .unconfirmed
  case satisfied.submitObligationConfirmation id payload =>
    obtain ⟨rfl, same⟩ := Option.ite_none_right_eq_some.mp asks
    cases same
    split
    case isTrue accepted => exact .recorded accepted
    case isFalse => exact .unrecorded
  case reported.pollFinalPayout id payload =>
    obtain ⟨rfl, same⟩ := Option.ite_none_right_eq_some.mp asks
    cases same
    split
    case isTrue ready =>
      obtain ⟨payout, read⟩ := Option.isSome_iff_exists.mp ready.2
      exact .paidOut ready.1 read
    case isFalse => exact .unpaid
  case payable.submitPayoutSignature id payload =>
    obtain ⟨⟨own, same⟩, ends⟩ := Option.ite_none_right_eq_some.mp asks
    cases ends
    split
    case isTrue accepted => exact .signed own same accepted
    case isFalse => exact .unsigned own same
  case unsatisfied.requestEscrow id payload =>
    obtain ⟨rfl, same⟩ := Option.ite_none_right_eq_some.mp asks
    cases same
    split
    case isTrue accepted => exact .complained accepted
    case isFalse => exact .unheeded
  case complained.pollFinalPayout id payload =>
    obtain ⟨rfl, same⟩ := Option.ite_none_right_eq_some.mp asks
    cases same
    split
    case isTrue ready =>
      obtain ⟨payout, read⟩ := Option.isSome_iff_exists.mp ready.2
      exact .reconciled ready.1 read
    case isFalse => exact .disputed

end TradePhase

/-- A question that any phase permits: neither a request nor for the fiat payment. -/
def TraderQuery.Quiet : TraderQuery D → Prop
  | .post _ _ _ | .readLine (.fiatConfirmation _ _ _) => False
  | _ => True

namespace TradePhase

variable {config : TraderConfig D}

/-- The questions that may be asked, and the phases they leave. -/
inductive Asks (config : TraderConfig D) :
    TradePhase → (query : TraderQuery D) → query.Answer → TradePhase → Prop
  | request {phase after : TradePhase} {path : String} {body : Json} {request : Request}
      {answer : Except Error Response} (routed : route path body = .ok request)
      (requests : Requests config.robosatsRobohashHex answer phase request after) :
      Asks config phase (.post config.coordinatorEndpoint path body) answer after
  | fiat {id : String} {isBuyOrder : Bool} {answer : Except Error String} :
      Asks config (exchanging id)
        (.readLine (.fiatConfirmation config.robosatsRobohashHex id isBuyOrder)) answer
        (line id answer)
  | quiet {phase : TradePhase} {query : TraderQuery D} {answer : query.Answer}
      (quiet : query.Quiet) : Asks config phase query answer phase

theorem asks_of_next {phase after : TradePhase} {query : TraderQuery D} {answer : query.Answer}
    (asks : phase.next config query answer = some after) : Asks config phase query answer after := by
  cases query with
  | post endpoint path body =>
      simp only [next] at asks
      obtain ⟨rfl, asks⟩ := Option.ite_none_right_eq_some.mp asks
      cases routed : route path body with
      | error response =>
          rw [routed] at asks
          cases asks
      | ok request =>
          rw [routed] at asks
          exact .request routed (requests_of_request asks)
  | readLine prompt =>
      cases prompt with
      | fiatConfirmation robohashHex offerIdHex isBuyOrder =>
          cases phase <;> simp only [next, reduceCtorEq] at asks
          obtain ⟨⟨rfl, rfl⟩, same⟩ := Option.ite_none_right_eq_some.mp asks
          cases same
          exact .fiat
      | _ =>
          cases asks
          exact .quiet trivial
  | _ =>
      cases asks
      exact .quiet trivial

variable {heard heard' : Hearing D}

/-- What has been heard stays heard. -/
theorem Heard.mono {phase : TradePhase} (known : phase.Heard heard config)
    (grows : ∀ query answer, heard query answer → heard' query answer) :
    phase.Heard heard' config := by
  cases phase with
  | entering | dropped => trivial
  | trading id => exact Hearing.Bonded.mono grows known
  | exchanging id => exact known.imp (·.mono grows) (·.mono grows)
  | satisfied id | unsatisfied id =>
      obtain ⟨bonded, confirmed, said⟩ := known
      exact ⟨bonded.mono grows, confirmed.mono grows, said.mono grows⟩
  | reported id =>
      obtain ⟨bonded, confirmed, said, recorded⟩ := known
      exact ⟨bonded.mono grows, confirmed.mono grows, said.mono grows, recorded.mono grows⟩
  | complained id =>
      obtain ⟨bonded, confirmed, said, complained⟩ := known
      exact ⟨bonded.mono grows, confirmed.mono grows, said.mono grows, complained.mono grows⟩
  | payable id | reconciled id =>
      obtain ⟨bonded, confirmed, said, recorded, paidOut⟩ := known
      exact ⟨bonded.mono grows, confirmed.mono grows, said.mono grows, recorded.mono grows,
        paidOut.mono grows⟩
  | finished id =>
      obtain ⟨bonded, confirmed, said, recorded, paidOut, signed⟩ := known
      exact ⟨bonded.mono grows, confirmed.mono grows, said.mono grows, recorded.mono grows,
        paidOut.mono grows, signed.mono grows⟩

/-- A permitted question leads to a phase for which enough has been heard. -/
theorem Heard.next {phase after : TradePhase} {query : TraderQuery D} {answer : query.Answer}
    (known : phase.Heard heard config) (new : heard query answer)
    (asks : Asks config phase query answer after) : after.Heard heard config := by
  cases asks with
  | quiet => exact known
  | @fiat id isBuyOrder answer =>
      cases answer with
      | error e => exact known
      | ok line =>
          simp only [TradePhase.line]
          cases said : satisfaction? line with
          | none => exact known
          | some happy =>
              have said : heard.Said config _ happy := ⟨_, line, new, said⟩
              cases happy with
              | true => exact ⟨known.1, known.2, said⟩
              | false => exact ⟨known.1, known.2, said⟩
  | @request phase after path body request answer routed requests =>
      have answered : heard.Answered config request answer := ⟨path, body, new, routed⟩
      cases requests with
      | offer | search | noMakerBond | noTakerBond | unrecorded | unsigned | unheeded => trivial
      | makerBond own activated => exact .maker answered own activated rfl
      | takerBond own accepted taken => exact .taker answered own accepted taken rfl
      | status | escrow | unconfirmed | unpaid | disputed => exact known
      | confirmed reported => exact ⟨known, answer, answered, reported⟩
      | recorded accepted =>
          obtain ⟨bonded, confirmed, said⟩ := known
          exact ⟨bonded, confirmed, said, answer, answered, accepted⟩
      | paidOut ready read | reconciled ready read =>
          obtain ⟨bonded, confirmed, said, recorded⟩ := known
          exact ⟨bonded, confirmed, said, recorded, answer, _, answered, ready, read⟩
      | signed own same accepted =>
          obtain ⟨bonded, confirmed, said, recorded, paidOut⟩ := known
          exact ⟨bonded, confirmed, said, recorded, paidOut, _, answer, answered, own, same,
            accepted⟩
      | complained accepted =>
          obtain ⟨bonded, confirmed, said⟩ := known
          exact ⟨bonded, confirmed, said, answer, answered, accepted⟩

end TradePhase

end TapTrade
