import TapTrade.Model.Session

/-! # The protocol of a session

What a trader's client may do at each point of its trade, as an automaton over its questions: to
the coordinator, whose answers are arbitrary, and to the trader. Both programs keep to it.
-/

namespace TapTrade

open Wire Resumption

variable {P : Platform} {D : Device P}

/-- The path and the body with which a request is posted. Background tasks are not requested. -/
def Request.posted : Request → Option (String × Json)
  | .createOffer offer => some ("/create-offer", Message.write offer)
  | .submitMakerBond payload => some ("/submit-maker-bond", Message.write payload)
  | .fetchAvailableOffers request => some ("/fetch-available-offers", Message.write request)
  | .submitTakerBond payload => some ("/submit-taker-bond", Message.write payload)
  | .requestOfferStatus payload => some ("/request-offer-status", Message.write payload)
  | .submitEscrowPsbt payload => some ("/submit-escrow-psbt", Message.write payload)
  | .pollEscrowConfirmation payload => some ("/poll-escrow-confirmation", Message.write payload)
  | .submitObligationConfirmation payload =>
      some ("/submit-obligation-confirmation", Message.write payload)
  | .requestEscrow payload => some ("/request-escrow", Message.write payload)
  | .pollFinalPayout payload => some ("/poll-final-payout", Message.write payload)
  | .submitPayoutSignature payload => some ("/submit-payout-signature", Message.write payload)
  | .monitorBonds | .updateTransactionConfirmations | .escrowCliLoop => none

/-- What was posted as a request arrives as that request. -/
theorem route_posted {request : Request} {path : String} {body : Json}
    (posted : request.posted = some (path, body)) : route path body = .ok request := by
  cases request <;> cases posted <;> simp [route]

/-- How far a session has come with its trade. -/
inductive TradePhase where
  /-- No bond has been submitted. -/
  | entering
  /-- The bond was accepted. -/
  | trading (offerId : String)
  /-- The escrow was reported as confirmed. -/
  | exchanging (offerId : String)
  /-- The trader has confirmed. -/
  | satisfied (offerId : String)
  /-- The confirmation was accepted. -/
  | reported (offerId : String)
  /-- There is a payout to sign. -/
  | payable (offerId : String)
  /-- The signature was accepted. -/
  | finished (offerId : String)
  /-- The trader has complained. -/
  | unsatisfied (offerId : String)
  /-- The complaint was accepted. -/
  | complained (offerId : String)
  /-- There is a payout although the trader has complained. -/
  | reconciled (offerId : String)
  /-- A request that is made once was not accepted. -/
  | dropped
  deriving DecidableEq, Repr

/-- The answer has the status. -/
def hasStatus (status : Nat) : Except Error Response → Bool
  | .ok response => response.status = status
  | .error _ => false

/-- The message in the answer, if there is one. -/
def message? (α : Type) [Message α] : Except Error Response → Option α
  | .ok response => response.json?
  | .error _ => none

namespace TradePhase

/-- The phase after a request of the robot, if it may be made. -/
def request (robohashHex : String) : TradePhase → Request → Except Error Response → Option TradePhase
  | entering, .createOffer offer, _ =>
      if offer.robohashHex = robohashHex then some entering else none
  | entering, .fetchAvailableOffers _, _ => some entering
  | entering, .submitMakerBond payload, answer =>
      if payload.robohashHex = robohashHex then
        some (match message? OfferActivatedResponse answer with
          | some response => trading response.offerIdHex
          | none => dropped)
      else none
  | entering, .submitTakerBond payload, answer =>
      if payload.tradeData.robohashHex = robohashHex then
        some (if hasStatus 200 answer ∧ (message? OfferTakenResponse answer).isSome then
            trading payload.offer.offerIdHex
          else dropped)
      else none
  | trading id, .requestOfferStatus payload, _ =>
      if payload = ⟨robohashHex, id⟩ then some (trading id) else none
  | trading id, .submitEscrowPsbt payload, _ =>
      if payload.robohashHex = robohashHex ∧ payload.offerIdHex = id then some (trading id) else none
  | trading id, .pollEscrowConfirmation payload, answer =>
      if payload = ⟨robohashHex, id⟩ then
        some (if hasStatus 200 answer then exchanging id else trading id)
      else none
  | satisfied id, .submitObligationConfirmation payload, answer =>
      if payload = ⟨robohashHex, id⟩ then
        some (if hasStatus 200 answer then reported id else dropped)
      else none
  | reported id, .pollFinalPayout payload, answer =>
      if payload = ⟨robohashHex, id⟩ then
        some (if hasStatus 200 answer ∧ (message? PayoutResponse answer).isSome then payable id
          else reported id)
      else none
  | payable id, .submitPayoutSignature payload, answer =>
      if payload.robohashHex = robohashHex ∧ payload.offerIdHex = id then
        some (if hasStatus 200 answer ∨ hasStatus 202 answer then finished id else dropped)
      else none
  | unsatisfied id, .requestEscrow payload, answer =>
      if payload = ⟨robohashHex, id⟩ then
        some (if hasStatus 200 answer then complained id else dropped)
      else none
  | complained id, .pollFinalPayout payload, answer =>
      if payload = ⟨robohashHex, id⟩ then
        some (if hasStatus 200 answer ∧ (message? PayoutResponse answer).isSome then reconciled id
          else complained id)
      else none
  | _, _, _ => none

/-- The phase after a line of the trader. -/
def line (id : String) : Except Error String → TradePhase
  | .error _ => exchanging id
  | .ok line => match satisfaction? line with
    | some true => satisfied id
    | some false => unsatisfied id
    | none => exchanging id

/-- The phase after a question, if it may be asked. -/
def next (config : TraderConfig D) (phase : TradePhase) : (query : TraderQuery D) →
    query.Answer → Option TradePhase
  | .post endpoint path body, answer =>
      if endpoint = config.coordinatorEndpoint then
        match route path body with
        | .ok request => phase.request config.robosatsRobohashHex request answer
        | .error _ => none
      else none
  | .readLine (.fiatConfirmation robohashHex offerIdHex _), answer =>
      match phase with
      | exchanging id => if robohashHex = config.robosatsRobohashHex ∧ offerIdHex = id then
          some (line id answer) else none
      | _ => none
  | _, _ => some phase

end TradePhase

/-- The protocol as a typestate. A client writes nothing. -/
@[reducible] def protocol (config : TraderConfig D) : Typestate (trader D) where
  Token := TradePhase
  writes _ _ _ _ _ := False
  asks phase query answer after := phase.next config query answer = some after

namespace Session

open Call

variable {config : TraderConfig D} {n : Nat} {phase : TradePhase} {α β : Type}

section Rules

variable {S : Typestate (trader D)} {token : S.Token} {post : Nat → S.Token → α → Prop}

theorem follows_attempt {x : Except Error α} (ends : ∀ a, x = .ok a → post n token a) :
    (Session.attempt x : Session D α).Follows S post n token :=
  Follows.mapError (follows_ofExcept ends)

theorem follows_outcome {x : Outcome Error α} (ends : ∀ a, x = .ok a → post n token a) :
    (Session.outcome x : Session D α).Follows S post n token := by
  rcases x with (e | _) | a
  · exact follows_fail _
  · exact follows_panic
  · exact follows_pure (ends a rfl)

theorem follows_tryAsk {query : TraderQuery D} {answer : query.Answer → Except Error α}
    (goes : ∀ reply, ∃ after, S.asks token query reply after ∧
      ∀ a, answer reply = .ok a → post (n + 1) after a) :
    (Session.tryAsk query answer).Follows S post n token := by
  apply Follows.bind
  apply follows_ask
  intro reply
  obtain ⟨after, asks, ends⟩ := goes reply
  exact ⟨after, asks, follows_attempt ends⟩

theorem follows_unwrap {x : Option α} (ends : ∀ a, x = some a → post n token a) :
    (Call.unwrap x : Session D α).Follows S post n token := by
  cases x with
  | some a => exact follows_pure (ends a rfl)
  | none => exact follows_panic

theorem follows_decode [Message α] {response : Response}
    (ends : ∀ a, response.json? = some a → post n token a) :
    (Session.decode response : Session D α).Follows S post n token :=
  follows_attempt fun a read => ends a (parse_eq_ok.mp read)

theorem follows_refuse {text : String} {response : Response} :
    (Session.refuse text response : Session D α).Follows S post n token :=
  follows_fail _

end Rules

/-- What may be asked in every phase. -/
theorem follows_quiet {query : TraderQuery D} {answer : query.Answer → Except Error α}
    {post : Nat → TradePhase → α → Prop} (quiet : ∀ reply, phase.next config query reply = some phase)
    (ends : ∀ a, post (n + 1) phase a) :
    (Session.tryAsk query answer).Follows (protocol config) post n phase :=
  follows_tryAsk fun reply => ⟨phase, quiet reply, fun a _ => ends a⟩

theorem next_post {path : String} {body : Json} {request : Request}
    (posted : request.posted = some (path, body)) (reply : Except Error Response) :
    phase.next config (.post config.coordinatorEndpoint path body) reply =
      phase.request config.robosatsRobohashHex request reply := by
  simp only [TradePhase.next, if_true, route_posted posted]

theorem follows_post [Message α] {path : String} {payload : α} (request : Request)
    {ends : Nat → TradePhase → Response → Prop}
    (posted : request.posted = some (path, Message.write payload))
    (goes : ∀ reply, ∃ after,
      phase.request config.robosatsRobohashHex request reply = some after ∧
        ∀ response, reply = .ok response → ends (n + 1) after response) :
    (post config path payload).Follows (protocol config) ends n phase := by
  apply follows_tryAsk
  intro reply
  obtain ⟨after, asks, held⟩ := goes reply
  exact ⟨after, (next_post posted reply).trans asks, held⟩

theorem follows_postOr [Message α] {text path : String} {payload : α} (request : Request)
    {ends : Nat → TradePhase → Response → Prop}
    (posted : request.posted = some (path, Message.write payload))
    (goes : ∀ reply, ∃ after,
      phase.request config.robosatsRobohashHex request reply = some after ∧
        ∀ response, reply = .ok response → ends (n + 1) after response) :
    (postOr config text path payload).Follows (protocol config) ends n phase := by
  apply Follows.bind
  apply follows_ask
  intro reply
  obtain ⟨after, asks, held⟩ := goes reply
  refine ⟨after, (next_post posted reply).trans asks, follows_attempt ?_⟩
  intro response same
  cases reply with
  | error e => cases same
  | ok answered =>
      cases same
      exact held _ rfl

/-- A call that returns in a known phase, and what is called then. -/
theorem follows_bind {after : α → TradePhase} {c : Session D α} {g : α → Session D β}
    {post : Nat → TradePhase → β → Prop}
    (first : c.Follows (protocol config) (fun _ phase' a => phase' = after a) n phase)
    (next : ∀ n a, (g a).Follows (protocol config) post n (after a)) :
    (c >>= g).Follows (protocol config) post n phase := by
  apply Follows.bind
  apply Program.Follows.mono first
  rintro n phase' result same a rfl
  obtain rfl := same a rfl
  exact next n a

end Session

end TapTrade
