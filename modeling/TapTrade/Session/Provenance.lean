import TapTrade.Session.Order
import TapTrade.Session.Secrets

/-! # Where the data of a session come from

What a session tells the coordinator, and what it has its wallet build and sign: the bond is the
one that was quoted, for the offer that was quoted or that its trader chose; the coins and the
addresses are those of its wallet; and besides its bond the wallet signs only the escrow that the
coordinator has sent. Nothing checks what that escrow is, so that is all there is to say about it.
-/

namespace TapTrade

open Wire Resumption Call

variable {P : Platform} {D : Device P}

namespace Hearing

variable (heard : Hearing D) (config : TraderConfig D)

/-- The coordinator has quoted the requirements for the offer of the trader. -/
def Quoted (requirements : BondRequirementResponse) : Prop :=
  ∃ answer, heard.Answered config (.createOffer config.formatOrderRequest) answer ∧
    message? BondRequirementResponse answer = some requirements

/-- The coordinator has listed the offers, for the trade value of the trader. -/
def Listed (offers : List PublicOffer) : Prop :=
  ∃ answer publicOffers,
    heard.Answered config (.fetchAvailableOffers (config.offersRequest P.roundF64)) answer ∧
    message? PublicOffers answer = some publicOffers ∧ publicOffers.offers = some offers

/-- The trader has chosen the offer from a list. -/
def Chosen (offer : PublicOffer) : Prop :=
  ∃ offers line index, heard.Listed config offers ∧
    heard (.readLine (.offerIndex offers)) (.ok line) ∧
    parseUsize (trim line) = some index ∧ offers[index]? = some offer

/-- A bond has to be for these requirements. -/
def Required (requirements : BondRequirementResponse) : Prop :=
  heard.Quoted config requirements ∨
    ∃ offer, heard.Chosen config offer ∧ offer.bondRequirements = requirements

/-- The wallet has built and signed the bond: it pays the amount to the address that are
    required. -/
def Bond (requirements : BondRequirementResponse) (bond : P.PartiallySignedTransaction) : Prop :=
  ∃ address psbt, P.addressFromStr requirements.bondAddress = some address ∧
    heard (.finishBondTx ⟨[(P.scriptPubkey address, requirements.lockingAmountSat)], 201,
      config.tradeType.value⟩) (.ok psbt) ∧
    heard (.sign psbt) (.ok (bond, true))

/-- The coordinator has sent the escrow transaction of the offer. -/
def EscrowSent (offerId : String) (psbt : P.PartiallySignedTransaction) : Prop :=
  ∃ request answer response, heard.Answered config request answer ∧
    (request = .requestOfferStatus (config.about offerId) ∨
      ∃ payload, request = .submitTakerBond payload ∧ payload.offer.offerIdHex = offerId) ∧
    hasStatus 200 answer ∧ message? OfferTakenResponse answer = some response ∧
    D.psbtFromStr response.escrowPsbtHex = some psbt

/-- The submission of a bond for the requirements. -/
structure Submission (W : TradingWallet P) (requirements : BondRequirementResponse)
    (payload : BondSubmissionRequest) : Prop where
  own : payload.robohashHex = config.robosatsRobohashHex
  bond : ∃ bond, heard.Bond config requirements bond ∧ payload.signedBondHex = D.extractTxHex bond
  payoutAddress : heard .getAddress (.ok payload.payoutAddress)
  /-- What `get_escrow_psbt_inputs` has returned for the amount that follows from the quote. -/
  inputs : ∃ amount, config.inputAmount D.overflowChecks requirements = some amount ∧
    W.getEscrowPsbtInputs D.overflowChecks amount =
      .ok (payload.bdkPsbtInputsHexCsv, payload.clientChangeAddress)
  taprootPubkey : payload.taprootPubkeyHex =
      Hex.encode (P.xonlySerialize (D.taprootPubkey config.walletXprv)) ∨
    payload.taprootPubkeyHex = D.xonlyToString (D.taprootPubkey config.walletXprv)

end Hearing

/-- The data of the request come from what was heard. -/
def Request.Genuine (heard : Hearing D) (config : TraderConfig D) (W : TradingWallet P) :
    Request → Prop
  | .createOffer offer => offer = config.formatOrderRequest
  | .fetchAvailableOffers request => request = config.offersRequest P.roundF64
  | .submitMakerBond payload => ∃ requirements, heard.Quoted config requirements ∧
      heard.Submission config W requirements payload
  | .submitTakerBond payload => heard.Chosen config payload.offer ∧
      heard.Submission config W payload.offer.bondRequirements payload.tradeData
  | .submitEscrowPsbt payload => ∃ psbt signed finalized,
      heard.EscrowSent config payload.offerIdHex psbt ∧
      heard (.sign psbt) (.ok (signed, finalized)) ∧
      payload.signedPsbtHex = D.psbtSerializeHex signed
  | _ => True

/-- The data of the question come from what was heard. -/
def TraderQuery.Genuine (heard : Hearing D) (config : TraderConfig D) (W : TradingWallet P) :
    TraderQuery D → Prop
  | .post endpoint path body => endpoint = config.coordinatorEndpoint ∧
      ∃ request, route path body = .ok request ∧ request.Genuine heard config W
  | .readLine (.offerIndex offers) => heard.Listed config offers
  | .loadWallet endpoint xprv => endpoint = config.electrumEndpoint ∧ xprv = config.walletXprv
  | .finishBondTx tx => ∃ requirements address, heard.Required config requirements ∧
      P.addressFromStr requirements.bondAddress = some address ∧
      P.isValidForRegtest address = true ∧
      tx = ⟨[(P.scriptPubkey address, requirements.lockingAmountSat)], 201, config.tradeType.value⟩
  | .sign psbt => (∃ tx, heard (.finishBondTx tx) (.ok psbt)) ∨
      ∃ offerId, heard.EscrowSent config offerId psbt
  | _ => True

section Growth

variable {heard heard' : Hearing D} {config : TraderConfig D} {W : TradingWallet P}
  {requirements : BondRequirementResponse} {offer : PublicOffer} {offers : List PublicOffer}
  {offerId : String} {psbt : P.PartiallySignedTransaction}
  (grows : ∀ query answer, heard query answer → heard' query answer)
include grows

namespace Hearing

theorem Quoted.mono (quoted : heard.Quoted config requirements) :
    heard'.Quoted config requirements := by
  obtain ⟨answer, answered, read⟩ := quoted
  exact ⟨answer, answered.mono grows, read⟩

theorem Listed.mono (listed : heard.Listed config offers) : heard'.Listed config offers := by
  obtain ⟨answer, publicOffers, answered, rest⟩ := listed
  exact ⟨answer, publicOffers, answered.mono grows, rest⟩

theorem Chosen.mono (chosen : heard.Chosen config offer) : heard'.Chosen config offer := by
  obtain ⟨offers, line, index, listed, read, rest⟩ := chosen
  exact ⟨offers, line, index, listed.mono grows, grows _ _ read, rest⟩

theorem Required.mono (required : heard.Required config requirements) :
    heard'.Required config requirements := by
  obtain quoted | ⟨offer, chosen, same⟩ := required
  · exact .inl (quoted.mono grows)
  · exact .inr ⟨offer, chosen.mono grows, same⟩

theorem Bond.mono (bond : heard.Bond config requirements psbt) :
    heard'.Bond config requirements psbt := by
  obtain ⟨address, unsigned, parsed, built, signed⟩ := bond
  exact ⟨address, unsigned, parsed, grows _ _ built, grows _ _ signed⟩

theorem EscrowSent.mono (sent : heard.EscrowSent config offerId psbt) :
    heard'.EscrowSent config offerId psbt := by
  obtain ⟨request, answer, response, answered, rest⟩ := sent
  exact ⟨request, answer, response, answered.mono grows, rest⟩

theorem Submission.mono {payload : BondSubmissionRequest}
    (submission : heard.Submission config W requirements payload) :
    heard'.Submission config W requirements payload where
  own := submission.own
  bond := submission.bond.imp fun _ bond => ⟨bond.1.mono grows, bond.2⟩
  payoutAddress := grows _ _ submission.payoutAddress
  inputs := submission.inputs
  taprootPubkey := submission.taprootPubkey

end Hearing

theorem Request.Genuine.mono {request : Request} (genuine : request.Genuine heard config W) :
    request.Genuine heard' config W := by
  cases request with
  | submitMakerBond payload =>
      obtain ⟨requirements, quoted, submission⟩ := genuine
      exact ⟨requirements, quoted.mono grows, submission.mono grows⟩
  | submitTakerBond payload => exact ⟨genuine.1.mono grows, genuine.2.mono grows⟩
  | submitEscrowPsbt payload =>
      obtain ⟨psbt, signed, finalized, sent, signs, same⟩ := genuine
      exact ⟨psbt, signed, finalized, sent.mono grows, grows _ _ signs, same⟩
  | _ => exact genuine

theorem TraderQuery.Genuine.mono {query : TraderQuery D} (genuine : query.Genuine heard config W) :
    query.Genuine heard' config W := by
  cases query with
  | post endpoint path body =>
      obtain ⟨same, request, routed, genuine⟩ := genuine
      exact ⟨same, request, routed, genuine.mono grows⟩
  | readLine prompt =>
      cases prompt with
      | offerIndex offers => exact Hearing.Listed.mono grows genuine
      | _ => trivial
  | finishBondTx tx =>
      obtain ⟨requirements, address, required, rest⟩ := genuine
      exact ⟨requirements, address, required.mono grows, rest⟩
  | sign psbt =>
      obtain ⟨tx, built⟩ | ⟨offerId, sent⟩ := genuine
      · exact .inl ⟨tx, grows _ _ built⟩
      · exact .inr ⟨offerId, sent.mono grows⟩
  | _ => exact genuine

end Growth

/-- What a session has heard, as far as it is known. -/
def Hearing.ofKnowledge (k : Knowledge (trader D)) : Hearing D :=
  fun query answer => ⟨query, answer⟩ ∈ k.heard

/-- The call asks only questions whose data come from what it has heard. -/
abbrev GenuineCall {α : Type} (config : TraderConfig D) (W : TradingWallet P)
    (post : Knowledge (trader D) → α → Prop) (k : Knowledge (trader D)) (c : Session D α) : Prop :=
  c.Learns (fun _ _ _ => True)
    (fun k (query : TraderQuery D) => query.Genuine (.ofKnowledge k) config W) post k

section Rules

variable {config : TraderConfig D} {W : TradingWallet P} {k k' : Knowledge (trader D)} {α : Type}
  {post : Knowledge (trader D) → α → Prop}

theorem hearing_le (more : k ≤ k') (query : TraderQuery D) (answer : query.Answer)
    (heard : Hearing.ofKnowledge k query answer) : Hearing.ofKnowledge k' query answer :=
  more.2 heard

theorem genuine_attempt {x : Except Error α} (ends : ∀ a, x = .ok a → post k a) :
    GenuineCall config W post k (Session.attempt x) := fun _ => Session.follows_attempt ends

theorem genuine_outcome {x : Outcome Error α} (ends : ∀ a, x = .ok a → post k a) :
    GenuineCall config W post k (Session.outcome x) := fun _ => Session.follows_outcome ends

theorem genuine_unwrap {x : Option α} (ends : ∀ a, x = some a → post k a) :
    GenuineCall config W post k (Call.unwrap x) := fun _ => Session.follows_unwrap ends

theorem genuine_decode [Message α] {response : Response}
    (ends : ∀ a, response.json? = some a → post k a) :
    GenuineCall config W post k (Session.decode response) := fun _ => Session.follows_decode ends

theorem genuine_tryAsk {query : TraderQuery D} {answer : query.Answer → Except Error α}
    (genuine : query.Genuine (.ofKnowledge k) config W)
    (ends : ∀ k' reply a, k ≤ k' → Hearing.ofKnowledge k' query reply → answer reply = .ok a →
      post k' a) : GenuineCall config W post k (Session.tryAsk query answer) :=
  Learns.bind (learns_ask genuine fun reply =>
    genuine_attempt fun a same => ends _ reply a Knowledge.le_hear Knowledge.mem_hear same)

/-- A request, and its answer. -/
theorem genuine_post [Message α] {path : String} {payload : α}
    {post' : Knowledge (trader D) → Response → Prop} (request : Request)
    (posted : request.posted = some (path, Message.write payload))
    (genuine : request.Genuine (.ofKnowledge k) config W)
    (ends : ∀ k' response, k ≤ k' →
      (Hearing.ofKnowledge k').Answered config request (.ok response) → post' k' response) :
    GenuineCall config W post' k (TapTrade.post config path payload) := by
  apply genuine_tryAsk
  · exact ⟨rfl, request, route_posted posted, genuine⟩
  · rintro k' reply response more heard rfl
    exact ends k' response more ⟨_, _, heard, route_posted posted⟩

theorem genuine_postOr [Message α] {text path : String} {payload : α}
    {post' : Knowledge (trader D) → Response → Prop} (request : Request)
    (posted : request.posted = some (path, Message.write payload))
    (genuine : request.Genuine (.ofKnowledge k) config W)
    (ends : ∀ k' response, k ≤ k' →
      (Hearing.ofKnowledge k').Answered config request (.ok response) → post' k' response) :
    GenuineCall config W post' k (postOr config text path payload) := by
  refine Learns.bind (learns_ask ⟨rfl, request, route_posted posted, genuine⟩ fun reply => ?_)
  apply genuine_attempt
  intro response same
  cases reply with
  | error e => cases same
  | ok answered =>
      cases same
      exact ends _ response Knowledge.le_hear ⟨_, _, Knowledge.mem_hear, route_posted posted⟩

end Rules

section Assembly

variable {config : TraderConfig D} {W : TradingWallet P} {k : Knowledge (trader D)}

theorem genuine_assemble {requirements : BondRequirementResponse}
    {post : Knowledge (trader D) → P.PartiallySignedTransaction → Prop}
    (required : (Hearing.ofKnowledge k).Required config requirements)
    (ends : ∀ k' bond, k ≤ k' → (Hearing.ofKnowledge k').Bond config requirements bond →
      post k' bond) : GenuineCall config W post k (Bond.assemble requirements config) := by
  apply Learns.bind
  apply genuine_attempt
  intro address parsed
  have same := parse_eq_ok.mp parsed
  apply learns_ite _ fun _ => learns_fail _
  intro valid
  apply Learns.bind
  apply genuine_tryAsk
  · exact ⟨requirements, address, required, same, valid, rfl⟩
  rintro k' reply psbt more built rfl
  apply Learns.bind
  apply genuine_tryAsk
  · exact .inl ⟨_, built⟩
  rintro k'' reply ⟨signed, finalized⟩ further signs rfl
  apply learns_ite _ fun _ => learns_fail _
  rintro rfl
  exact learns_pure (ends k'' signed (Knowledge.le_trans more further)
    ⟨address, psbt, same, hearing_le further _ _ built, signs⟩)

theorem genuine_createMusig (xprv : D.ExtendedPrivKey)
    {post : Knowledge (trader D) → MuSigData D → Prop}
    (ends : ∀ k' musigData, k ≤ k' → post k' musigData) :
    GenuineCall config W post k (MuSigData.create xprv) := by
  apply Learns.bind
  apply Learns.bind
  apply genuine_tryAsk
  · trivial
  intro k' reply secretNonce more drawn same
  apply learns_pure
  apply Learns.bind
  apply genuine_attempt
  intro secretKey parsed
  exact learns_pure (ends k' _ more)

theorem genuine_tradeOnchainAssembly {requirements : BondRequirementResponse}
    {post : Knowledge (trader D) → P.PartiallySignedTransaction × MuSigData D × String → Prop}
    (required : (Hearing.ofKnowledge k).Required config requirements)
    (ends : ∀ k' bond musigData payoutAddress, k ≤ k' →
      (Hearing.ofKnowledge k').Bond config requirements bond →
      Hearing.ofKnowledge k' .getAddress (.ok payoutAddress) →
      post k' (bond, musigData, payoutAddress)) :
    GenuineCall config W post k (tradeOnchainAssembly requirements config) := by
  apply Learns.bind
  apply genuine_assemble required
  intro k₁ bond more₁ bonded
  apply Learns.bind
  apply genuine_tryAsk
  · trivial
  rintro k₂ reply payoutAddress more₂ given rfl
  apply Learns.bind
  apply genuine_createMusig
  intro k₃ musigData more₃
  have later := Knowledge.le_trans more₂ more₃
  exact learns_pure (ends k₃ bond musigData payoutAddress (Knowledge.le_trans more₁ later)
    (bonded.mono (hearing_le later)) (hearing_le more₃ _ _ given))

theorem genuine_signedEscrow {response : OfferTakenResponse} {offerId : String}
    {post : Knowledge (trader D) → P.PartiallySignedTransaction → Prop}
    (sent : ∀ psbt, D.psbtFromStr response.escrowPsbtHex = some psbt →
      (Hearing.ofKnowledge k).EscrowSent config offerId psbt)
    (ends : ∀ k' psbt signed finalized, k ≤ k' →
      (Hearing.ofKnowledge k').EscrowSent config offerId psbt →
      Hearing.ofKnowledge k' (.sign psbt) (.ok (signed, finalized)) → post k' signed) :
    GenuineCall config W post k (ActiveOffer.signedEscrow response) := by
  apply Learns.bind
  apply genuine_attempt
  intro psbt parsed
  have known := sent psbt (parse_eq_ok.mp parsed)
  apply Learns.bind
  apply genuine_tryAsk
  · exact .inr ⟨offerId, known⟩
  rintro k' reply ⟨signed, finalized⟩ more signs rfl
  exact learns_pure (ends k' psbt signed finalized more (known.mono (hearing_le more)) signs)

end Assembly

section Requests

variable {config : TraderConfig D} {W : TradingWallet P} {k : Knowledge (trader D)}

theorem genuine_fetch {post : Knowledge (trader D) → BondRequirementResponse → Prop}
    (ends : ∀ k' requirements, k ≤ k' → (Hearing.ofKnowledge k').Quoted config requirements →
      post k' requirements) :
    GenuineCall config W post k (BondRequirementResponse.fetch config) := by
  apply Learns.bind
  apply genuine_postOr (.createOffer config.formatOrderRequest) rfl rfl
  intro k' response more answered
  cases read : response.json? (α := BondRequirementResponse) with
  | some requirements =>
      exact learns_pure (ends k' requirements more ⟨.ok response, answered, read⟩)
  | none => exact learns_fail _

theorem genuine_sendMaker {payload : BondSubmissionRequest}
    {post : Knowledge (trader D) → OfferActivatedResponse → Prop}
    (genuine : (Request.submitMakerBond payload).Genuine (.ofKnowledge k) config W)
    (ends : ∀ k' response, k ≤ k' → post k' response) :
    GenuineCall config W post k (BondSubmissionRequest.sendMaker config payload) := by
  apply Learns.bind
  apply genuine_postOr (.submitMakerBond payload) rfl genuine
  intro k' response more answered
  cases response.json? (α := OfferActivatedResponse) with
  | some activated => exact learns_pure (ends k' activated more)
  | none => exact learns_fail _

theorem genuine_takerRequest {offer : PublicOffer} {tradeData : BondSubmissionRequest}
    {post : Knowledge (trader D) → OfferTakenResponse → Prop}
    (genuine : (Request.submitTakerBond ⟨offer, tradeData⟩).Genuine (.ofKnowledge k) config W)
    (ends : ∀ k' response, k ≤ k' → (∀ psbt, D.psbtFromStr response.escrowPsbtHex = some psbt →
      (Hearing.ofKnowledge k').EscrowSent config offer.offerIdHex psbt) → post k' response) :
    GenuineCall config W post k (OfferPsbtRequest.takerRequest config offer tradeData) := by
  apply Learns.bind
  apply genuine_post (.submitTakerBond ⟨offer, tradeData⟩) rfl genuine
  intro k' response more answered
  apply learns_ite _ fun _ => learns_fail _
  intro accepted
  apply genuine_decode
  intro taken read
  refine ends k' taken more fun psbt parsed => ?_
  exact ⟨_, _, taken, answered, .inr ⟨_, rfl, rfl⟩, decide_eq_true accepted, read, parsed⟩

theorem genuine_fetchAvailable (rounds : Nat)
    {post : Knowledge (trader D) → PublicOffers → Prop}
    (ends : ∀ k' publicOffers, k ≤ k' → (∀ offers, publicOffers.offers = some offers →
      (Hearing.ofKnowledge k').Listed config offers) → post k' publicOffers) :
    GenuineCall config W post k (PublicOffers.fetchAvailable config rounds) := by
  apply learns_retry
  intro k₁ more₁
  apply Learns.bind
  apply Learns.bind
  apply genuine_postOr (.fetchAvailableOffers (config.offersRequest P.roundF64)) rfl rfl
  intro k₂ response more₂ answered
  apply learns_ite
  · exact fun _ => learns_pure (learns_pure more₂)
  · intro listed
    cases read : response.json? (α := PublicOffers) with
    | none => exact learns_fail _
    | some publicOffers =>
        apply learns_pure
        apply learns_pure
        unfold PublicOffers.available
        cases publicOffers.offers.isNone with
        | true => exact more₂
        | false =>
            refine ends k₂ publicOffers (Knowledge.le_trans more₁ more₂) fun offers same => ?_
            exact ⟨_, publicOffers, answered, read, same⟩

theorem genuine_askUserToSelect {publicOffers : PublicOffers}
    {post : Knowledge (trader D) → PublicOffer → Prop}
    (listed : ∀ offers, publicOffers.offers = some offers →
      (Hearing.ofKnowledge k).Listed config offers)
    (ends : ∀ k' offer, k ≤ k' → (Hearing.ofKnowledge k').Chosen config offer → post k' offer) :
    GenuineCall config W post k (publicOffers.askUserToSelect : Session D PublicOffer) := by
  apply Learns.bind
  apply genuine_unwrap
  intro offers same
  have known := listed offers same
  apply Learns.bind
  apply genuine_tryAsk
  · exact known
  rintro k' reply line more heard rfl
  apply Learns.bind
  apply genuine_attempt
  intro index parsed
  apply genuine_unwrap
  intro offer there
  refine ends k' offer more ⟨offers, line, index, known.mono (hearing_le more), heard, ?_, there⟩
  exact parse_eq_ok.mp (withContext_eq_ok.mp parsed)

theorem genuine_waitUntilTaken (rounds : Nat) (offer : ActiveOffer D)
    {post : Knowledge (trader D) → OfferTakenResponse → Prop}
    (ends : ∀ k' response, k ≤ k' → (∀ psbt, D.psbtFromStr response.escrowPsbtHex = some psbt →
      (Hearing.ofKnowledge k').EscrowSent config offer.offerIdHex psbt) → post k' response) :
    GenuineCall config W post k (ActiveOffer.waitUntilTaken config rounds offer) := by
  apply learns_retry
  intro k₁ more₁
  apply Learns.bind
  apply genuine_post (.requestOfferStatus (config.about offer.offerIdHex)) rfl trivial
  intro k₂ response more₂ answered
  apply learns_ite
  · intro taken
    apply Learns.bind
    apply genuine_decode
    intro offerTaken read
    apply learns_pure
    refine ends k₂ offerTaken (Knowledge.le_trans more₁ more₂) fun psbt parsed => ?_
    exact ⟨_, _, offerTaken, answered, .inl rfl, decide_eq_true taken, read, parsed⟩
  · exact fun _ => learns_ite (fun _ => learns_pure more₂) fun _ => learns_fail _

/-- A request that is followed by nothing but a look at the status. -/
theorem genuine_submitEscrowPsbt {psbt signed : P.PartiallySignedTransaction} {finalized : Bool}
    {offerId : String} {post : Knowledge (trader D) → Unit → Prop}
    (sent : (Hearing.ofKnowledge k).EscrowSent config offerId psbt)
    (signs : Hearing.ofKnowledge k (.sign psbt) (.ok (signed, finalized)))
    (ends : ∀ k', k ≤ k' → post k' ()) :
    GenuineCall config W post k
      (PsbtSubmissionRequest.submitEscrowPsbt config signed offerId) := by
  apply Learns.bind
  apply genuine_post (.submitEscrowPsbt ⟨_, offerId, config.robosatsRobohashHex⟩) rfl
  · exact ⟨psbt, signed, finalized, sent, signs, rfl⟩
  · intro k' response more answered
    exact learns_ite (fun _ => learns_fail _) fun _ => learns_pure (ends k' more)

end Requests

section Programs

variable {config : TraderConfig D} {W : TradingWallet P} {k : Knowledge (trader D)}

/-- A call that asks nothing whose data matter. -/
theorem genuine_free {α : Type} {c : Session D α} {post : Knowledge (trader D) → α → Prop}
    (free : c.Asks fun query => ∀ heard, TraderQuery.Genuine heard config W query)
    (ends : ∀ k' a, k ≤ k' → post k' a) : GenuineCall config W post k c :=
  (free.learns (fun _ _ _ => trivial) fun k _ free => free (.ofKnowledge k)).mono ends

theorem free_request {request : Request} (free : ∀ heard, request.Genuine heard config W) :
    request.AllowedBy config fun query => ∀ heard, TraderQuery.Genuine heard config W query :=
  fun _ _ routed heard => ⟨rfl, request, routed, free heard⟩

theorem genuine_create {post : Knowledge (trader D) → ActiveOffer D → Prop}
    (ends : ∀ k' offer, k ≤ k' → post k' offer) :
    GenuineCall config W post k (ActiveOffer.create config W) := by
  apply Learns.bind
  apply genuine_fetch
  intro k₁ offerConditions more₁ quoted
  apply Learns.bind
  apply genuine_tradeOnchainAssembly (.inl quoted)
  intro k₂ bond musigData payoutAddress more₂ bonded given
  apply Learns.bind
  apply genuine_unwrap
  intro inputAmount computed
  apply Learns.bind
  apply genuine_outcome
  rintro ⟨inputs, changeAddress⟩ funded
  apply Learns.bind
  apply genuine_attempt
  intro pubNonce shared
  apply Learns.bind
  apply genuine_sendMaker
  · exact ⟨offerConditions, quoted.mono (hearing_le more₂), rfl, ⟨bond, bonded, rfl⟩, given,
      ⟨inputAmount, computed, funded⟩, .inl rfl⟩
  · intro k₃ activated more₃
    exact learns_pure (ends k₃ _ (Knowledge.le_trans more₁ (Knowledge.le_trans more₂ more₃)))

theorem genuine_take {selected : PublicOffer} {post : Knowledge (trader D) → ActiveOffer D → Prop}
    (chosen : (Hearing.ofKnowledge k).Chosen config selected)
    (ends : ∀ k' offer, k ≤ k' → post k' offer) :
    GenuineCall config W post k (ActiveOffer.take config W selected) := by
  apply Learns.bind
  apply genuine_tradeOnchainAssembly (.inr ⟨selected, chosen, rfl⟩)
  intro k₁ bond musigData payoutAddress more₁ bonded given
  apply Learns.bind
  apply genuine_unwrap
  intro inputAmount computed
  apply Learns.bind
  apply genuine_outcome
  rintro ⟨inputs, changeAddress⟩ funded
  apply Learns.bind
  apply genuine_attempt
  intro pubNonce shared
  apply Learns.bind
  apply genuine_takerRequest
  · exact ⟨chosen.mono (hearing_le more₁), rfl, ⟨bond, bonded, rfl⟩, given,
      ⟨inputAmount, computed, funded⟩, .inr rfl⟩
  intro k₂ taken more₂ sent
  apply Learns.bind
  apply genuine_signedEscrow sent
  intro k₃ psbt signed finalized more₃ escrow signs
  apply Learns.bind
  apply genuine_submitEscrowPsbt escrow signs
  intro k₄ more₄
  exact learns_pure (ends k₄ _ (Knowledge.le_trans (Knowledge.le_trans more₁ more₂)
    (Knowledge.le_trans more₃ more₄)))

theorem genuine_signPayout (rounds : Nat) (offer : ActiveOffer D) :
    GenuineCall config W (fun _ _ => True) k (ActiveOffer.signPayout config rounds offer) := by
  apply Learns.bind
  apply genuine_free (asks_submitSatisfied _ (free_request fun _ => trivial))
  intro k₁ reported more₁
  apply Learns.bind
  apply genuine_free (asks_pollPayout rounds offer (free_request fun _ => trivial))
  rintro k₂ ⟨payoutPsbt, aggPubNonce, aggPubkCtx⟩ more₂
  apply Learns.bind
  apply genuine_attempt
  intro signature signs
  apply Learns.bind
  apply genuine_post (.submitPayoutSignature ⟨signature, offer.offerIdHex,
    config.robosatsRobohashHex⟩) rfl trivial
  intro k₃ response more₃ answered
  exact learns_ite (fun _ => learns_fail _) fun _ => learns_pure trivial

theorem genuine_runMaker (rounds : Nat) :
    GenuineCall config W (fun _ _ => True) k (runMaker W rounds config) := by
  apply Learns.bind
  apply genuine_tryAsk
  · exact ⟨rfl, rfl⟩
  intro k₁ reply loaded more₁ heard same
  apply Learns.bind
  apply genuine_create
  intro k₂ offer more₂
  apply Learns.bind
  apply genuine_waitUntilTaken rounds offer
  intro k₃ response more₃ sent
  apply Learns.bind
  apply genuine_signedEscrow sent
  intro k₄ psbt signed finalized more₄ escrow signs
  apply Learns.bind
  apply genuine_submitEscrowPsbt escrow signs
  intro k₅ more₅
  apply Learns.bind
  apply genuine_free (asks_poll rounds offer (free_request fun _ => trivial))
  intro k₆ confirmed more₆
  apply Learns.bind
  apply genuine_free (asks_fiatConfirmation rounds offer fun _ _ => trivial)
  intro k₇ happy more₇
  apply learns_ite
  · exact fun _ => genuine_signPayout rounds offer
  · intro unhappy
    apply Learns.bind
    apply genuine_free (asks_requestEscrow _ (free_request fun _ => trivial))
    intro k₈ complained more₈
    apply Learns.bind
    apply genuine_free (asks_pollPayout rounds offer (free_request fun _ => trivial))
    exact fun _ _ _ => learns_pure trivial

theorem genuine_runTaker (rounds : Nat) :
    GenuineCall config W (fun _ _ => True) k (runTaker W rounds config) := by
  apply Learns.bind
  apply genuine_tryAsk
  · exact ⟨rfl, rfl⟩
  intro k₁ reply loaded more₁ heard same
  apply Learns.bind
  apply genuine_fetchAvailable rounds
  intro k₂ publicOffers more₂ listed
  apply Learns.bind
  apply genuine_askUserToSelect listed
  intro k₃ selected more₃ chosen
  apply Learns.bind
  apply genuine_take chosen
  intro k₄ offer more₄
  apply Learns.bind
  apply genuine_free (asks_poll rounds offer (free_request fun _ => trivial))
  intro k₅ confirmed more₅
  apply Learns.bind
  apply genuine_free (asks_fiatConfirmation rounds offer fun _ _ => trivial)
  intro k₆ happy more₆
  exact learns_ite (fun _ => genuine_signPayout rounds offer) fun _ => learns_panic

end Programs

end TapTrade
