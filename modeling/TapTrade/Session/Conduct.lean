import TapTrade.Session.Protocol

/-! # Both programs keep to the protocol

Function by function: in which phase it is called, and in which phase it returns. The answers of
the coordinator, the wallet and the trader are arbitrary.
-/

namespace TapTrade

open Wire Resumption Call Session

variable {P : Platform} {D : Device P} {config : TraderConfig D} {n : Nat}

/-- A call that returns in the phase in which it is called. -/
abbrev KeepsPhase {α : Type} (config : TraderConfig D) (phase : TradePhase) (n : Nat)
    (c : Session D α) : Prop :=
  c.Follows (protocol config) (fun _ after _ => after = phase) n phase

section Assembly

variable {phase : TradePhase}

theorem follows_assemble (requirements : BondRequirementResponse) :
    KeepsPhase config phase n (Bond.assemble requirements config) := by
  apply Follows.bind
  apply follows_attempt
  intro address parsed
  split
  case isFalse => exact follows_fail _
  case isTrue =>
    apply Follows.bind
    apply follows_quiet (fun _ => rfl)
    intro psbt
    apply Follows.bind
    apply follows_quiet (fun _ => rfl)
    rintro ⟨signed, _ | _⟩
    · exact follows_fail _
    · exact follows_pure rfl

theorem follows_createMusig (xprv : D.ExtendedPrivKey) :
    KeepsPhase config phase n (MuSigData.create xprv) := by
  apply Follows.bind
  apply Follows.bind
  apply follows_quiet (fun _ => rfl)
  intro secretNonce
  apply follows_pure
  apply Follows.bind
  apply follows_attempt
  intro secretKey parsed
  exact follows_pure rfl

theorem follows_tradeOnchainAssembly (requirements : BondRequirementResponse) :
    KeepsPhase config phase n (tradeOnchainAssembly requirements config) := by
  apply follows_bind (follows_assemble requirements)
  intro n bond
  apply Follows.bind
  apply follows_quiet (fun _ => rfl)
  intro payoutAddress
  apply follows_bind (follows_createMusig _)
  intro n musigData
  exact follows_pure rfl

theorem follows_signedEscrow (response : OfferTakenResponse) :
    KeepsPhase config phase n (ActiveOffer.signedEscrow response) := by
  apply Follows.bind
  apply follows_attempt
  intro psbt parsed
  apply Follows.bind
  apply follows_quiet (fun _ => rfl)
  intro signed
  exact follows_pure rfl

end Assembly

section Entering

theorem follows_fetch : KeepsPhase config .entering n (BondRequirementResponse.fetch config) := by
  apply Follows.bind
  apply follows_postOr (.createOffer config.formatOrderRequest) rfl
  intro reply
  refine ⟨.entering, if_pos rfl, fun response _ => ?_⟩
  cases response.json? (α := BondRequirementResponse) with
  | some requirements => exact follows_pure rfl
  | none => exact follows_refuse

theorem follows_sendMaker {request : BondSubmissionRequest}
    (own : request.robohashHex = config.robosatsRobohashHex) :
    (BondSubmissionRequest.sendMaker config request).Follows (protocol config)
      (fun _ phase response => phase = .trading response.offerIdHex) n .entering := by
  apply Follows.bind
  apply follows_postOr (.submitMakerBond request) rfl
  intro reply
  refine ⟨_, if_pos own, ?_⟩
  rintro response rfl
  simp only [message?]
  cases response.json? (α := OfferActivatedResponse) with
  | some activated => exact follows_pure rfl
  | none => exact follows_refuse

theorem follows_takerRequest {offer : PublicOffer} {tradeData : BondSubmissionRequest}
    (own : tradeData.robohashHex = config.robosatsRobohashHex) :
    (OfferPsbtRequest.takerRequest config offer tradeData).Follows (protocol config)
      (fun _ phase _ => phase = .trading offer.offerIdHex) n .entering := by
  apply Follows.bind
  apply follows_post (.submitTakerBond ⟨offer, tradeData⟩) rfl
  intro reply
  refine ⟨_, if_pos own, ?_⟩
  rintro response rfl
  by_cases accepted : response.status = 200
  · simp only [if_pos accepted]
    apply follows_decode
    intro taken read
    simp [hasStatus, message?, accepted, read]
  · simp only [if_neg accepted]
    exact follows_fail _

theorem follows_fetchOffers : KeepsPhase config .entering n (PublicOffers.fetch config) := by
  apply Follows.bind
  apply follows_postOr (.fetchAvailableOffers (config.offersRequest P.roundF64)) rfl
  intro reply
  refine ⟨.entering, rfl, fun response _ => ?_⟩
  split
  case isTrue => exact follows_pure rfl
  case isFalse =>
    cases response.json? (α := PublicOffers) with
    | some offers => exact follows_pure rfl
    | none => exact follows_fail _

theorem follows_fetchAvailable (rounds : Nat) :
    KeepsPhase config .entering n (PublicOffers.fetchAvailable config rounds) := by
  apply follows_retry
  intro n
  apply follows_bind follows_fetchOffers
  intro n offers
  apply follows_pure
  cases offers.available <;> rfl

theorem follows_askUserToSelect (offers : PublicOffers) :
    KeepsPhase config .entering n (offers.askUserToSelect : Session D PublicOffer) := by
  apply Follows.bind
  apply follows_unwrap
  intro listed same
  apply Follows.bind
  apply follows_quiet (fun _ => rfl)
  intro input
  apply Follows.bind
  apply follows_attempt
  intro index parsed
  exact follows_unwrap fun _ _ => rfl

variable {W : TradingWallet P}

theorem follows_create : (ActiveOffer.create config W).Follows (protocol config)
    (fun _ phase offer => phase = .trading offer.offerIdHex) n .entering := by
  apply follows_bind follows_fetch
  intro n offerConditions
  apply follows_bind (follows_tradeOnchainAssembly offerConditions)
  rintro n ⟨bond, musigData, payoutAddress⟩
  apply Follows.bind
  apply follows_unwrap
  intro inputAmount same
  apply Follows.bind
  apply follows_outcome
  rintro ⟨inputs, changeAddress⟩ funded
  apply Follows.bind
  apply follows_attempt
  intro pubNonce shared
  refine follows_bind (follows_sendMaker ?_) ?_
  · rfl
  · intro n activated
    exact follows_pure rfl

end Entering

section Trading

variable {offerId : String}

/-- An answer to a robot about its offer. -/
theorem follows_check (offer : ActiveOffer D) :
    KeepsPhase config (.trading offer.offerIdHex) n (OfferTakenResponse.check config offer) := by
  apply Follows.bind
  apply follows_post (.requestOfferStatus (config.about offer.offerIdHex)) rfl
  intro reply
  refine ⟨_, if_pos rfl, fun response _ => ?_⟩
  split
  · apply Follows.bind
    apply follows_decode
    intro taken read
    exact follows_pure rfl
  · split
    · exact follows_pure rfl
    · exact follows_refuse

theorem follows_waitUntilTaken (rounds : Nat) (offer : ActiveOffer D) :
    KeepsPhase config (.trading offer.offerIdHex) n
      (ActiveOffer.waitUntilTaken config rounds offer) := by
  apply follows_retry
  intro n
  apply Program.Follows.mono (follows_check offer)
  rintro n after result same taken rfl
  cases taken <;> exact same _ rfl

theorem follows_submitEscrowPsbt (psbt : P.PartiallySignedTransaction) :
    KeepsPhase config (.trading offerId) n
      (PsbtSubmissionRequest.submitEscrowPsbt config psbt offerId) := by
  apply Follows.bind
  apply follows_post (.submitEscrowPsbt ⟨_, offerId, config.robosatsRobohashHex⟩) rfl
  intro reply
  refine ⟨_, if_pos ⟨rfl, rfl⟩, fun response _ => ?_⟩
  split
  · exact follows_refuse
  · exact follows_pure rfl

/-- The poll returns when the escrow is reported as confirmed. -/
theorem follows_poll (rounds : Nat) (offer : ActiveOffer D) :
    (IsOfferReadyRequest.poll config rounds offer).Follows (protocol config)
      (fun _ phase _ => phase = .exchanging offer.offerIdHex) n (.trading offer.offerIdHex) := by
  apply follows_retry
  intro n
  apply Follows.bind
  apply follows_post (.pollEscrowConfirmation (config.about offer.offerIdHex)) rfl
  intro reply
  refine ⟨_, if_pos rfl, ?_⟩
  rintro response rfl
  by_cases confirmed : response.status = 200
  · simp only [if_pos confirmed]
    exact follows_pure (if_pos (decide_eq_true confirmed))
  · simp only [if_neg confirmed]
    have unreported : ¬ hasStatus 200 (.ok response) := by simpa [hasStatus] using confirmed
    by_cases waits : response.status = 202
    · simp only [waits, ne_eq, not_true, if_false]
      exact follows_pure (if_neg unreported)
    · simp only [waits, ne_eq, not_false_eq_true, if_true]
      exact follows_refuse

end Trading

section Deciding

theorem follows_fiatConfirmation (rounds : Nat) (offer : ActiveOffer D) :
    (ActiveOffer.fiatConfirmationCliInput config rounds offer).Follows (protocol config)
      (fun _ phase happy => phase = if happy then .satisfied offer.offerIdHex
        else .unsatisfied offer.offerIdHex) n (.exchanging offer.offerIdHex) := by
  apply follows_retry
  intro n
  apply Follows.bind
  apply Session.follows_tryAsk
  intro reply
  refine ⟨_, if_pos ⟨rfl, rfl⟩, ?_⟩
  rintro line rfl
  apply follows_pure
  simp only [TradePhase.line]
  cases satisfaction? line with
  | none => rfl
  | some happy => cases happy <;> rfl

/-- A request that is dropped unless it is answered with 200. -/
theorem follows_accepted {α : Type} [Message α] {text path : String} {payload : α}
    {phase after : TradePhase} (request : Request)
    (posted : request.posted = some (path, Message.write payload))
    (asks : ∀ reply, phase.request config.robosatsRobohashHex request reply =
      some (if hasStatus 200 reply then after else .dropped)) :
    (post config path payload >>= fun res =>
      if res.status ≠ 200 then Session.refuse text res else return () : Session D Unit).Follows
        (protocol config) (fun _ phase _ => phase = after) n phase := by
  apply Follows.bind
  apply follows_post request posted
  intro reply
  refine ⟨_, asks reply, ?_⟩
  rintro response rfl
  by_cases accepted : response.status = 200
  · rw [if_neg (not_not_intro accepted)]
    exact follows_pure (if_pos (decide_eq_true accepted))
  · rw [if_pos accepted]
    exact follows_refuse

theorem follows_submitSatisfied (offerId : String) :
    (TradeObligationsSatisfied.submit config offerId).Follows (protocol config)
      (fun _ phase _ => phase = .reported offerId) n (.satisfied offerId) :=
  follows_accepted (.submitObligationConfirmation (config.about offerId)) rfl fun _ => if_pos rfl

/-- The poll for the payout, in a phase that stays as it is until there is a payout. -/
theorem follows_pollPayout (before : TradePhase) (after : Response → TradePhase) (rounds : Nat)
    (offer : ActiveOffer D)
    (asks : ∀ reply, before.request config.robosatsRobohashHex
      (.pollFinalPayout (config.about offer.offerIdHex)) reply = some (match reply with
        | .ok response => if response.status = 200 then after response else before
        | .error _ => before)) :
    (IsOfferReadyRequest.pollPayout config rounds offer).Follows (protocol config)
      (fun _ phase _ => ∃ response payout, response.json? (α := PayoutResponse) = some payout ∧
        phase = after response) n before := by
  have polls (n : Nat) : (Call.retry .waiting (IsOfferReadyRequest.pollPayoutOnce config offer)
      rounds).Follows (protocol config) (fun _ phase response => phase = after response)
      n before := by
    apply follows_retry
    intro n
    apply Follows.bind
    apply follows_post (.pollFinalPayout (config.about offer.offerIdHex)) rfl
    intro reply
    refine ⟨_, asks reply, ?_⟩
    rintro response rfl
    by_cases ready : response.status = 200
    · simp only [if_pos ready]
      exact follows_pure rfl
    · simp only [if_neg ready]
      split
      · exact follows_pure rfl
      · split
        · exact follows_pure rfl
        · split <;> exact follows_refuse
  apply follows_bind (polls n)
  intro n response
  apply Follows.bind
  apply follows_decode
  intro payout read
  apply follows_attempt
  intro parts parsed
  exact ⟨response, payout, read, rfl⟩

theorem follows_send (signature offerId : String) :
    (PayoutSignatureRequest.send config signature offerId).Follows (protocol config)
      (fun _ phase _ => phase = .finished offerId) n (.payable offerId) := by
  apply Follows.bind
  apply follows_post (.submitPayoutSignature ⟨signature, offerId, config.robosatsRobohashHex⟩) rfl
  intro reply
  refine ⟨_, if_pos ⟨rfl, rfl⟩, ?_⟩
  rintro response rfl
  by_cases refused : response.status ≠ 200 ∧ response.status ≠ 202
  · rw [if_pos refused]
    exact follows_refuse
  · rw [if_neg refused]
    apply follows_pure
    apply if_pos
    simpa [hasStatus, imp_iff_not_or] using refused

theorem follows_signPayout (rounds : Nat) (offer : ActiveOffer D) :
    (ActiveOffer.signPayout config rounds offer).Follows (protocol config)
      (fun _ phase _ => phase = .finished offer.offerIdHex) n (.satisfied offer.offerIdHex) := by
  apply follows_bind (follows_submitSatisfied offer.offerIdHex)
  intro n submitted
  apply Follows.bind
  apply Program.Follows.mono (follows_pollPayout (.reported offer.offerIdHex)
    (fun response => if (response.json? (α := PayoutResponse)).isSome then
      .payable offer.offerIdHex else .reported offer.offerIdHex) rounds offer ?_)
  · rintro n phase result ends ⟨psbt, nonce, key⟩ rfl
    obtain ⟨response, payout, read, rfl⟩ := ends _ rfl
    rw [read, Option.isSome_some, if_pos rfl]
    apply Follows.bind
    apply follows_attempt
    intro signature signed
    exact follows_send signature _
  · rintro (e | response)
    · exact if_pos rfl
    · refine (if_pos rfl).trans ?_
      by_cases ready : response.status = 200 <;> simp [hasStatus, message?, ready]

theorem follows_requestEscrow (offerId : String) :
    (TradeObligationsUnsatisfied.requestEscrow config offerId).Follows (protocol config)
      (fun _ phase _ => phase = .complained offerId) n (.unsatisfied offerId) :=
  follows_accepted (.requestEscrow ⟨config.robosatsRobohashHex, offerId⟩) rfl fun _ => if_pos rfl

end Deciding

section Programs

variable {W : TradingWallet P}

/-- The session of a maker keeps to the protocol, and it ends with a signature, or with a payout
    after a complaint. -/
theorem follows_runMaker (rounds : Nat) :
    (runMaker W rounds config).Follows (protocol config)
      (fun _ phase _ => ∃ offerId, phase = .finished offerId ∨ phase = .reconciled offerId)
      n .entering := by
  apply Follows.bind
  apply follows_quiet (fun _ => rfl)
  intro loaded
  apply follows_bind follows_create
  intro n offer
  apply follows_bind (follows_waitUntilTaken rounds offer)
  intro n taken
  apply follows_bind (follows_signedEscrow taken)
  intro n escrowPsbt
  apply follows_bind (follows_submitEscrowPsbt escrowPsbt)
  intro n submitted
  apply follows_bind (follows_poll rounds offer)
  intro n confirmed
  apply follows_bind (follows_fiatConfirmation rounds offer)
  rintro n (_ | _)
  · apply follows_bind (follows_requestEscrow offer.offerIdHex)
    intro n requested
    apply Follows.bind
    apply Program.Follows.mono (follows_pollPayout (.complained offer.offerIdHex)
      (fun response => if (response.json? (α := PayoutResponse)).isSome then
        .reconciled offer.offerIdHex else .complained offer.offerIdHex) rounds offer ?_)
    · rintro n phase result ends parts rfl
      obtain ⟨response, payout, read, rfl⟩ := ends _ rfl
      rw [read, Option.isSome_some, if_pos rfl]
      exact follows_pure ⟨_, .inr rfl⟩
    · rintro (e | response)
      · exact if_pos rfl
      · refine (if_pos rfl).trans ?_
        by_cases ready : response.status = 200 <;> simp [hasStatus, message?, ready]
  · apply Program.Follows.mono (follows_signPayout rounds offer)
    intro n phase result ends done same
    exact ⟨_, .inl (ends done same)⟩

theorem follows_take (selected : PublicOffer) : (ActiveOffer.take config W selected).Follows
    (protocol config) (fun _ phase offer => phase = .trading offer.offerIdHex) n .entering := by
  apply follows_bind (follows_tradeOnchainAssembly selected.bondRequirements)
  rintro n ⟨bond, musigData, payoutAddress⟩
  apply Follows.bind
  apply follows_unwrap
  intro inputAmount same
  apply Follows.bind
  apply follows_outcome
  rintro ⟨inputs, changeAddress⟩ funded
  apply Follows.bind
  apply follows_attempt
  intro pubNonce shared
  refine follows_bind (follows_takerRequest ?_) ?_
  · rfl
  intro n taken
  apply follows_bind (follows_signedEscrow taken)
  intro n escrowPsbt
  apply follows_bind (follows_submitEscrowPsbt escrowPsbt)
  intro n submitted
  exact follows_pure rfl

/-- The session of a taker keeps to the protocol, and it ends with a signature. -/
theorem follows_runTaker (rounds : Nat) :
    (runTaker W rounds config).Follows (protocol config)
      (fun _ phase _ => ∃ offerId, phase = .finished offerId) n .entering := by
  apply Follows.bind
  apply follows_quiet (fun _ => rfl)
  intro loaded
  apply follows_bind (follows_fetchAvailable rounds)
  intro n offers
  apply follows_bind (follows_askUserToSelect offers)
  intro n selected
  apply follows_bind (follows_take selected)
  intro n offer
  apply follows_bind (follows_poll rounds offer)
  intro n confirmed
  apply follows_bind (follows_fiatConfirmation rounds offer)
  rintro n (_ | _)
  · exact follows_panic
  · apply Program.Follows.mono (follows_signPayout rounds offer)
    intro n phase result ends done same
    exact ⟨_, ends done same⟩

end Programs

end TapTrade
