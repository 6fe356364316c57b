import TapTrade.Resumption.Trace
import TapTrade.Session.Protocol

/-! # What a session does with its secrets

What becomes of the secret nonce of a session, as a second automaton over its questions, to which
both programs keep: it is drawn, the public nonce is sent with the bond, and it signs the payout.
-/

namespace TapTrade

open Wire Resumption Call Session

variable {P : Platform} {D : Device P}

/-- What has become of the secret nonce of a session. -/
inductive KeyState (D : Device P) where
  /-- It has not been drawn. -/
  | fresh
  | drawn (nonce : D.SecNonce)
  /-- The public nonce was sent. -/
  | announced (nonce : D.SecNonce)
  /-- There is a payout to sign. -/
  | payable (nonce : D.SecNonce)
      (payout : P.PartiallySignedTransaction × P.MusigAggNonce × P.KeyAggContext)
  /-- It has signed, or it could not be drawn. -/
  | spent

/-- What is done with the secrets, once each. -/
inductive SecretStep where
  | draw
  | announce
  | sign
  deriving DecidableEq, Repr

/-- The texts of the public nonce and the public key in a bond submission. -/
def Request.keys? : Request → Option (String × String)
  | .submitMakerBond payload => some (payload.musigPubNonceHex, payload.musigPubkeyHex)
  | .submitTakerBond payload =>
      some (payload.tradeData.musigPubNonceHex, payload.tradeData.musigPubkeyHex)
  | _ => none

def Request.secretStep? : Request → Option SecretStep
  | .submitMakerBond _ | .submitTakerBond _ => some .announce
  | .submitPayoutSignature _ => some .sign
  | _ => none

def TraderQuery.secretStep? : TraderQuery D → Option SecretStep
  | .generateNonce => some .draw
  | .post _ path body => (route path body).toOption.bind Request.secretStep?
  | _ => none

/-- The text is the partial signature of the payout with the secrets. -/
def PartialSignature (config : TraderConfig D) (nonce : D.SecNonce)
    (payout : P.PartiallySignedTransaction × P.MusigAggNonce × P.KeyAggContext) (text : String) :
    Prop :=
  ∃ sighash secretKey scalar, P.keyspendSighash payout.1 = some sighash ∧
    D.secretKey config.walletXprv = some secretKey ∧
    D.signPartial payout.2.2 secretKey nonce payout.2.1 sighash = some (.valid scalar) ∧
    text = D.scalarEncodeHex scalar

/-- The texts are those of the public nonce and the public key. A taker has its own way to write
    the nonce. -/
def Announces (config : TraderConfig D) (nonce : D.SecNonce) (keys : String × String) : Prop :=
  (keys.1 = Hex.encode (D.pubNonceSerialize (D.publicNonce nonce)) ∨
      keys.1 = D.pubNonceToString (D.publicNonce nonce)) ∧
    keys.2 = Hex.encode (D.publicKeySerialize (D.publicKey config.walletXprv))

namespace KeyState

/-- The requests, and what they make of the nonce. -/
inductive Requests (config : TraderConfig D) (answer : Except Error Response) :
    KeyState D → Request → KeyState D → Prop
  | announces {nonce : D.SecNonce} {request : Request} {keys : String × String}
      (same : request.keys? = some keys) (announces : Announces config nonce keys) :
      Requests config answer (drawn nonce) request (announced nonce)
  | paidOut {nonce : D.SecNonce} {id : String} {payout : PayoutResponse}
      {parts : P.PartiallySignedTransaction × P.MusigAggNonce × P.KeyAggContext}
      (ready : hasStatus 200 answer) (read : message? PayoutResponse answer = some payout)
      (parsed : payout.parts (D := D) = .ok parts) :
      Requests config answer (announced nonce) (.pollFinalPayout (config.about id))
        (payable nonce parts)
  | signed {nonce : D.SecNonce} {payload : PayoutSignatureRequest}
      {parts : P.PartiallySignedTransaction × P.MusigAggNonce × P.KeyAggContext}
      (signature : PartialSignature config nonce parts payload.partialSigHex) :
      Requests config answer (payable nonce parts) (.submitPayoutSignature payload) spent
  | keyless {state : KeyState D} {request : Request} (keyless : request.secretStep? = none) :
      Requests config answer state request state

/-- The questions, and what they make of it. -/
inductive Asks (config : TraderConfig D) :
    KeyState D → (query : TraderQuery D) → query.Answer → KeyState D → Prop
  | drawn {nonce : D.SecNonce} : Asks config fresh .generateNonce (.ok nonce) (drawn nonce)
  | undrawn {e : Error} : Asks config fresh .generateNonce (.error e) spent
  | request {state after : KeyState D} {path : String} {body : Json} {request : Request}
      {answer : Except Error Response} (routed : route path body = .ok request)
      (requests : Requests config answer state request after) :
      Asks config state (.post config.coordinatorEndpoint path body) answer after
  | keyless {state : KeyState D} {query : TraderQuery D} {answer : query.Answer}
      (keyless : query.secretStep? = none) : Asks config state query answer state

end KeyState

/-- The nonce as a typestate. -/
@[reducible] def secrets (config : TraderConfig D) : Typestate (trader D) where
  Token := KeyState D
  writes _ state _ _ after := after = state
  asks := KeyState.Asks config

section Questions

variable {α : Type} {config : TraderConfig D} {allowed : TraderQuery D → Prop}

/-- The request may be made, however it is posted. -/
def Request.AllowedBy (request : Request) (config : TraderConfig D)
    (allowed : TraderQuery D → Prop) : Prop :=
  ∀ path body, route path body = .ok request → allowed (.post config.coordinatorEndpoint path body)

theorem asks_attempt (x : Except Error α) : (Session.attempt x : Session D α).Asks allowed :=
  asks_mapError (asks_ofExcept x)

theorem asks_post [Message α] {path : String} {payload : α} (request : Request)
    (posted : request.posted = some (path, Message.write payload))
    (may : request.AllowedBy config allowed) : (post config path payload).Asks allowed :=
  Asks.bind (asks_ask (may path _ (route_posted posted))) fun _ => asks_attempt _

theorem asks_postOr [Message α] {text path : String} {payload : α} (request : Request)
    (posted : request.posted = some (path, Message.write payload))
    (may : request.AllowedBy config allowed) : (postOr config text path payload).Asks allowed :=
  Asks.bind (asks_ask (may path _ (route_posted posted))) fun _ => asks_attempt _

theorem asks_poll (rounds : Nat) (offer : ActiveOffer D)
    (may : (Request.pollEscrowConfirmation (config.about offer.offerIdHex)).AllowedBy config
      allowed) : (IsOfferReadyRequest.poll config rounds offer).Asks allowed := by
  apply asks_retry
  apply Asks.bind (asks_post _ rfl may)
  intro response
  exact asks_ite (asks_pure _) (asks_ite (asks_fail _) (asks_pure _))

theorem asks_fiatConfirmation (rounds : Nat) (offer : ActiveOffer D)
    (may : ∀ isBuyOrder, allowed (.readLine (.fiatConfirmation config.robosatsRobohashHex
      offer.offerIdHex isBuyOrder))) :
    (ActiveOffer.fiatConfirmationCliInput config rounds offer).Asks allowed :=
  asks_retry (Asks.bind (Asks.bind (asks_ask (may _)) fun _ => asks_attempt _)
    fun _ => asks_pure _) rounds

theorem asks_submitSatisfied (offerId : String)
    (may : (Request.submitObligationConfirmation (config.about offerId)).AllowedBy config allowed) :
    (TradeObligationsSatisfied.submit config offerId).Asks allowed :=
  Asks.bind (asks_post _ rfl may) fun _ => asks_ite (asks_fail _) (asks_pure _)

theorem asks_requestEscrow (offerId : String)
    (may : (Request.requestEscrow ⟨config.robosatsRobohashHex, offerId⟩).AllowedBy config allowed) :
    (TradeObligationsUnsatisfied.requestEscrow config offerId).Asks allowed :=
  Asks.bind (asks_post _ rfl may) fun _ => asks_ite (asks_fail _) (asks_pure _)

theorem asks_pollPayout (rounds : Nat) (offer : ActiveOffer D)
    (may : (Request.pollFinalPayout (config.about offer.offerIdHex)).AllowedBy config allowed) :
    (IsOfferReadyRequest.pollPayout config rounds offer).Asks allowed := by
  apply Asks.bind
  · apply asks_retry
    apply Asks.bind (asks_post _ rfl may)
    intro response
    exact asks_ite (asks_pure _) (asks_ite (asks_pure _) (asks_ite (asks_pure _)
      (asks_ite (asks_fail _) (asks_fail _))))
  · intro response
    exact Asks.bind (asks_attempt _) fun _ => asks_attempt _

end Questions

/-- A question that has nothing to do with the nonce. -/
abbrev TraderQuery.Keyless (query : TraderQuery D) : Prop := query.secretStep? = none

section Keyless

variable {α : Type} {config : TraderConfig D}

theorem keyless_tryAsk {query : TraderQuery D} {answer : query.Answer → Except Error α}
    (keyless : query.secretStep? = none) :
    (Session.tryAsk query answer).Asks TraderQuery.Keyless :=
  Asks.bind (asks_ask keyless) fun reply => asks_attempt (answer reply)

/-- A request that has nothing to do with the nonce. -/
theorem keyless_request {request : Request} (keyless : request.secretStep? = none) :
    request.AllowedBy config TraderQuery.Keyless := by
  intro path body routed
  simpa [TraderQuery.Keyless, TraderQuery.secretStep?, routed, Except.toOption] using keyless

theorem keyless_fetch : (BondRequirementResponse.fetch config).Asks TraderQuery.Keyless := by
  apply Asks.bind (asks_postOr (.createOffer config.formatOrderRequest) rfl (keyless_request rfl))
  intro response
  cases response.json? (α := BondRequirementResponse) with
  | some requirements => exact asks_pure _
  | none => exact asks_fail _

theorem keyless_fetchAvailable (rounds : Nat) :
    (PublicOffers.fetchAvailable config rounds).Asks TraderQuery.Keyless := by
  apply asks_retry
  apply Asks.bind
  · apply Asks.bind (asks_postOr (.fetchAvailableOffers (config.offersRequest P.roundF64)) rfl
      (keyless_request rfl))
    intro response
    apply asks_ite (asks_pure _)
    cases response.json? (α := PublicOffers) with
    | some offers => exact asks_pure _
    | none => exact asks_fail _
  · exact fun _ => asks_pure _

theorem keyless_askUserToSelect (offers : PublicOffers) :
    (offers.askUserToSelect : Session D PublicOffer).Asks TraderQuery.Keyless := by
  apply Asks.bind
  · exact asks_unwrap _
  · intro listed
    apply Asks.bind
    · exact keyless_tryAsk rfl
    · intro input
      apply Asks.bind
      · exact asks_attempt _
      · exact fun index => asks_unwrap _

theorem keyless_assemble (requirements : BondRequirementResponse) :
    (Bond.assemble requirements config).Asks TraderQuery.Keyless := by
  apply Asks.bind (asks_attempt _)
  intro address
  apply asks_ite _ (asks_fail _)
  apply Asks.bind (keyless_tryAsk rfl)
  intro psbt
  apply Asks.bind (keyless_tryAsk rfl)
  rintro ⟨signed, finalized⟩
  exact asks_ite (asks_pure _) (asks_fail _)

theorem keyless_waitUntilTaken (rounds : Nat) (offer : ActiveOffer D) :
    (ActiveOffer.waitUntilTaken config rounds offer).Asks TraderQuery.Keyless := by
  apply asks_retry
  apply Asks.bind (asks_post (.requestOfferStatus (config.about offer.offerIdHex)) rfl
    (keyless_request rfl))
  intro response
  apply asks_ite
  · exact Asks.bind (asks_attempt _) fun _ => asks_pure _
  · exact asks_ite (asks_pure _) (asks_fail _)

theorem keyless_signedEscrow (response : OfferTakenResponse) :
    (ActiveOffer.signedEscrow response :
      Session D P.PartiallySignedTransaction).Asks TraderQuery.Keyless :=
  Asks.bind (asks_attempt _) fun _ => Asks.bind (keyless_tryAsk rfl) fun _ => asks_pure _

theorem keyless_submitEscrowPsbt (psbt : P.PartiallySignedTransaction) (offerId : String) :
    (PsbtSubmissionRequest.submitEscrowPsbt config psbt offerId).Asks TraderQuery.Keyless :=
  Asks.bind (asks_post (.submitEscrowPsbt ⟨_, offerId, config.robosatsRobohashHex⟩) rfl
    (keyless_request rfl)) fun _ => asks_ite (asks_fail _) (asks_pure _)

end Keyless

section Secrets

variable {α : Type} {config : TraderConfig D} {n : Nat} {nonce : D.SecNonce}

/-- A call that has nothing to do with the nonce. -/
theorem follows_keyless {state : KeyState D} {c : Session D α}
    {post : Nat → KeyState D → α → Prop} (keyless : c.Asks TraderQuery.Keyless)
    (ends : ∀ n a, post n state a) : c.Follows (secrets config) post n state :=
  Program.Asks.follows keyless (fun _ _ _ => rfl) (fun _ _ keyless => KeyState.Asks.keyless keyless)
    fun n _ a _ => ends n a

/-- The data belong to the nonce and to the wallet of the session. -/
structure MuSigData.Holds (config : TraderConfig D) (nonce : D.SecNonce) (data : MuSigData D) :
    Prop where
  secretNonce : data.nonce.secretNonce = nonce
  publicKey : data.publicKey = D.publicKey config.walletXprv
  secretKey : D.secretKey config.walletXprv = some data.secretKey

theorem follows_musigData : (MuSigData.create config.walletXprv).Follows (secrets config)
    (fun _ state data => ∃ nonce, state = .drawn nonce ∧ data.Holds config nonce) n .fresh := by
  apply Follows.bind
  apply Follows.bind
  apply Session.follows_tryAsk
  rintro (e | nonce)
  · exact ⟨.spent, .undrawn, nofun⟩
  refine ⟨.drawn nonce, .drawn, ?_⟩
  rintro _ ⟨⟩
  apply follows_pure
  apply Follows.bind
  apply follows_attempt
  intro secretKey parsed
  exact follows_pure ⟨nonce, rfl, rfl, rfl, parse_eq_ok.mp parsed⟩

theorem follows_assembly (requirements : BondRequirementResponse) :
    (tradeOnchainAssembly requirements config).Follows (secrets config)
      (fun _ state assembled => ∃ nonce, state = .drawn nonce ∧ assembled.2.1.Holds config nonce)
      n .fresh := by
  apply Follows.bind
  apply follows_keyless (keyless_assemble requirements)
  intro n bond
  apply Follows.bind
  apply follows_keyless (keyless_tryAsk rfl)
  intro n payoutAddress
  apply Follows.bind
  apply Program.Follows.mono follows_musigData
  intro n state result drawn data same
  exact follows_pure (drawn data same)

theorem MusigNonce.getPubForSharing_ok {musigNonce : MusigNonce D} {pubNonce : P.MusigPubNonce}
    (shared : musigNonce.getPubForSharing.1 = .ok pubNonce) :
    pubNonce = D.publicNonce musigNonce.secretNonce := by
  unfold getPubForSharing at shared
  split at shared
  · cases shared
  · cases shared
    rfl

theorem MusigNonce.secretNonce_getPubForSharing (musigNonce : MusigNonce D) :
    musigNonce.getPubForSharing.2.secretNonce = musigNonce.secretNonce := by
  unfold getPubForSharing
  split <;> rfl

/-- What is signed is signed with the secrets of the session. -/
theorem partialSignature_of_create {data : MuSigData D} (holds : data.Holds config nonce)
    {psbt : P.PartiallySignedTransaction} {context : P.KeyAggContext}
    {aggNonce : P.MusigAggNonce} {text : String}
    (signs : createKeyspendPayoutSignature psbt context aggNonce data = .ok text) :
    PartialSignature config nonce (psbt, aggNonce, context) text := by
  obtain ⟨sighash, hashed, signs⟩ := bind_eq_ok.mp signs
  obtain ⟨secretNonce, unused, signs⟩ := bind_eq_ok.mp signs
  obtain ⟨scalar, signed, returned⟩ := bind_eq_ok.mp signs
  rw [parse_eq_ok] at hashed signed
  unfold MusigNonce.getSecForSigning at unused
  split at unused
  · cases unused
  cases unused
  cases scalar with
  | zero => cases returned
  | valid scalar =>
      cases returned
      exact ⟨sighash, data.secretKey, scalar, hashed, holds.secretKey, holds.secretNonce ▸ signed,
        rfl⟩

variable {W : TradingWallet P}

theorem follows_announceMaker (nonce : D.SecNonce) {request : BondSubmissionRequest}
    (announces : Announces config nonce (request.musigPubNonceHex, request.musigPubkeyHex)) :
    (BondSubmissionRequest.sendMaker config request).Follows (secrets config)
      (fun _ state _ => state = .announced nonce) n (.drawn nonce) := by
  have routed := route_posted (show (Request.submitMakerBond request).posted = _ from rfl)
  apply Follows.bind
  apply Follows.bind
  apply follows_ask
  intro reply
  refine ⟨_, .request routed (.announces rfl announces), follows_attempt fun response sent => ?_⟩
  cases response.json? (α := OfferActivatedResponse) with
  | some activated => exact follows_pure rfl
  | none => exact follows_refuse

theorem follows_announceTaker (nonce : D.SecNonce) {offer : PublicOffer}
    {tradeData : BondSubmissionRequest}
    (announces : Announces config nonce (tradeData.musigPubNonceHex, tradeData.musigPubkeyHex)) :
    (OfferPsbtRequest.takerRequest config offer tradeData).Follows (secrets config)
      (fun _ state _ => state = .announced nonce) n (.drawn nonce) := by
  have routed := route_posted (show (Request.submitTakerBond ⟨offer, tradeData⟩).posted = _ from rfl)
  apply Follows.bind
  apply Session.follows_tryAsk
  intro reply
  refine ⟨_, .request routed (.announces rfl announces), fun response sent => ?_⟩
  split
  · exact follows_decode fun taken read => rfl
  · exact follows_fail _

/-- What is shared is the public nonce; the data stay those of the session. -/
theorem MuSigData.Holds.shared {data : MuSigData D} (holds : data.Holds config nonce)
    {pubNonce : P.MusigPubNonce} (shared : data.nonce.getPubForSharing.1 = .ok pubNonce) :
    pubNonce = D.publicNonce nonce ∧
      ({ data with nonce := data.nonce.getPubForSharing.2 } : MuSigData D).Holds config nonce := by
  refine ⟨?_, ?_, holds.publicKey, holds.secretKey⟩
  · rw [MusigNonce.getPubForSharing_ok shared, holds.secretNonce]
  · rw [MusigNonce.secretNonce_getPubForSharing, holds.secretNonce]

theorem follows_createSecrets : (ActiveOffer.create config W).Follows (secrets config)
    (fun _ state offer => ∃ nonce, state = .announced nonce ∧
      offer.usedMusigConfig.Holds config nonce) n .fresh := by
  apply Follows.bind
  apply follows_keyless keyless_fetch
  intro n offerConditions
  apply Follows.bind
  apply Program.Follows.mono (follows_assembly offerConditions)
  rintro n state result drawn ⟨bond, musigData, payoutAddress⟩ same
  obtain ⟨nonce, rfl, holds⟩ := drawn _ same
  apply Follows.bind
  apply follows_unwrap
  intro inputAmount computed
  apply Follows.bind
  apply follows_outcome
  rintro ⟨inputs, changeAddress⟩ funded
  apply Follows.bind
  apply follows_attempt
  intro pubNonce shared
  obtain ⟨rfl, kept⟩ := holds.shared shared
  apply Follows.bind
  apply Program.Follows.mono (follows_announceMaker nonce ⟨.inl rfl, ?_⟩)
  · rintro n state result ends activated same
    obtain rfl := ends _ same
    exact follows_pure ⟨nonce, rfl, kept⟩
  · exact congrArg (fun key => Hex.encode (D.publicKeySerialize key)) holds.publicKey

theorem follows_takeSecrets (selected : PublicOffer) :
    (ActiveOffer.take config W selected).Follows (secrets config)
      (fun _ state offer => ∃ nonce, state = .announced nonce ∧
        offer.usedMusigConfig.Holds config nonce) n .fresh := by
  apply Follows.bind
  apply Program.Follows.mono (follows_assembly selected.bondRequirements)
  rintro n state result drawn ⟨bond, musigData, payoutAddress⟩ same
  obtain ⟨nonce, rfl, holds⟩ := drawn _ same
  apply Follows.bind
  apply follows_unwrap
  intro inputAmount computed
  apply Follows.bind
  apply follows_outcome
  rintro ⟨inputs, changeAddress⟩ funded
  apply Follows.bind
  apply follows_attempt
  intro pubNonce shared
  obtain ⟨rfl, kept⟩ := holds.shared shared
  apply Follows.bind
  apply Program.Follows.mono (follows_announceTaker nonce ⟨.inr rfl, ?_⟩)
  · rintro n state result ends taken same
    obtain rfl := ends _ same
    apply Follows.bind
    apply follows_keyless (keyless_signedEscrow taken)
    intro n escrowPsbt
    apply Follows.bind
    apply follows_keyless (keyless_submitEscrowPsbt escrowPsbt selected.offerIdHex)
    intro n submitted
    exact follows_pure ⟨nonce, rfl, kept⟩
  · exact congrArg (fun key => Hex.encode (D.publicKeySerialize key)) holds.publicKey

/-- The state after an answer to the poll for the payout. -/
def KeyState.paid (nonce : D.SecNonce) (response : Response) : KeyState D :=
  match response.json? (α := PayoutResponse) with
  | some payout =>
      match payout.parts (D := D) with
      | .ok parts => payable nonce parts
      | .error _ => announced nonce
  | none => announced nonce

theorem follows_pollSecrets (rounds : Nat) (offer : ActiveOffer D) :
    (IsOfferReadyRequest.pollPayout config rounds offer).Follows (secrets config)
      (fun _ state parts => state = .payable nonce parts) n (.announced nonce) := by
  have routed := route_posted (show (Request.pollFinalPayout
    (config.about offer.offerIdHex)).posted = _ from rfl)
  have polls (n : Nat) : (Call.retry .waiting (IsOfferReadyRequest.pollPayoutOnce config offer)
      rounds).Follows (secrets config) (fun _ state response => state = KeyState.paid nonce response)
      n (.announced nonce) := by
    apply follows_retry
    intro n
    apply Follows.bind
    apply Session.follows_tryAsk
    rintro (e | response)
    · exact ⟨.announced nonce, .request routed (.keyless rfl), nofun⟩
    by_cases ready : response.status = 200
    · refine ⟨.paid nonce response, .request routed ?_, ?_⟩
      · unfold KeyState.paid
        split
        case h_1 payout read =>
          split
          case h_1 parts parsed => exact .paidOut (decide_eq_true ready) read parsed
          case h_2 => exact .keyless rfl
        case h_2 => exact .keyless rfl
      · rintro _ ⟨⟩
        rw [if_pos ready]
        exact follows_pure rfl
    · refine ⟨.announced nonce, .request routed (.keyless rfl), ?_⟩
      rintro _ ⟨⟩
      rw [if_neg ready]
      split
      · exact follows_pure rfl
      · split
        · exact follows_pure rfl
        · split <;> exact follows_refuse
  apply Follows.bind
  apply Program.Follows.mono (polls n)
  rintro n state result ends response same
  obtain rfl := ends _ same
  apply Follows.bind
  apply follows_decode
  intro payout read
  apply follows_attempt
  intro parts parsed
  simp [KeyState.paid, read, parsed]

theorem follows_signSecrets (rounds : Nat) {offer : ActiveOffer D}
    (holds : offer.usedMusigConfig.Holds config nonce) :
    (ActiveOffer.signPayout config rounds offer).Follows (secrets config)
      (fun _ _ _ => True) n (.announced nonce) := by
  apply Follows.bind
  apply follows_keyless (asks_submitSatisfied offer.offerIdHex (keyless_request rfl))
  intro n submitted
  apply Follows.bind
  apply Program.Follows.mono (follows_pollSecrets rounds offer)
  rintro n state result ends ⟨psbt, aggNonce, context⟩ same
  obtain rfl := ends _ same
  apply Follows.bind
  apply follows_attempt
  intro signature signs
  apply Follows.bind
  apply Session.follows_tryAsk
  intro reply
  refine ⟨.spent, .request (route_posted (show (Request.submitPayoutSignature _).posted = _ from rfl))
    (.signed (partialSignature_of_create holds signs)), fun response sent => ?_⟩
  split
  · exact follows_refuse
  · exact follows_pure trivial

theorem follows_makerSecrets (rounds : Nat) : (runMaker W rounds config).Follows (secrets config)
    (fun _ _ _ => True) n .fresh := by
  apply Follows.bind
  apply follows_keyless (keyless_tryAsk rfl)
  intro n loaded
  apply Follows.bind
  apply Program.Follows.mono follows_createSecrets
  rintro n state result announced offer same
  obtain ⟨nonce, rfl, holds⟩ := announced _ same
  apply Follows.bind
  apply follows_keyless (keyless_waitUntilTaken rounds offer)
  intro n taken
  apply Follows.bind
  apply follows_keyless (keyless_signedEscrow taken)
  intro n escrowPsbt
  apply Follows.bind
  apply follows_keyless (keyless_submitEscrowPsbt escrowPsbt offer.offerIdHex)
  intro n submitted
  apply Follows.bind
  apply follows_keyless (asks_poll rounds offer (keyless_request rfl))
  intro n confirmed
  apply Follows.bind
  apply follows_keyless (asks_fiatConfirmation rounds offer fun _ => rfl)
  rintro n (_ | _)
  · apply Follows.bind
    apply follows_keyless (asks_requestEscrow offer.offerIdHex (keyless_request rfl))
    intro n requested
    apply Follows.bind
    apply follows_keyless (asks_pollPayout rounds offer (keyless_request rfl))
    intro n parts
    exact follows_pure trivial
  · exact follows_signSecrets rounds holds

theorem follows_takerSecrets (rounds : Nat) : (runTaker W rounds config).Follows (secrets config)
    (fun _ _ _ => True) n .fresh := by
  apply Follows.bind
  apply follows_keyless (keyless_tryAsk rfl)
  intro n loaded
  apply Follows.bind
  apply follows_keyless (keyless_fetchAvailable rounds)
  intro n offers
  apply Follows.bind
  apply follows_keyless (keyless_askUserToSelect offers)
  intro n selected
  apply Follows.bind
  apply Program.Follows.mono (follows_takeSecrets selected)
  rintro n state result announced offer same
  obtain ⟨nonce, rfl, holds⟩ := announced _ same
  apply Follows.bind
  apply follows_keyless (asks_poll rounds offer (keyless_request rfl))
  intro n confirmed
  apply Follows.bind
  apply follows_keyless (asks_fiatConfirmation rounds offer fun _ => rfl)
  rintro n (_ | _)
  · exact follows_panic
  · exact follows_signSecrets rounds holds

end Secrets

end TapTrade
