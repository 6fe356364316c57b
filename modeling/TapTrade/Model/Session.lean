import TapTrade.Model.Client

/-! # The session of a trader

The requests of `communication/mod.rs` and `taker_requests.rs`, and the two programs of
`trading/mod.rs`. A loop of the source goes on until the coordinator or the trader has decided;
here it gives up after so many rounds and says that it is still waiting.
-/

namespace TapTrade

open Wire Resumption

variable {P : Platform} {D : Device P}

/-- `ActiveOffer`. -/
structure ActiveOffer (D : Device P) where
  offerIdHex : String
  usedMusigConfig : MuSigData D
  usedBond : P.PartiallySignedTransaction
  expectedPayoutAddress : String
  escrowPsbt : Option P.PartiallySignedTransaction
  escrowChangeAddress : String
  psbtInputsHexCsv : String

section Requests

variable (config : TraderConfig D)

/-- `client.post(..).json(payload).send()?`. -/
def post {α : Type} [Message α] (path : String) (payload : α) : Session D Response :=
  Session.tryAsk (.post config.coordinatorEndpoint path (Message.write payload)) id

/-- The same, where the error of the connection is told with a text. -/
def postOr {α : Type} [Message α] (text path : String) (payload : α) : Session D Response := do
  let sent ← Session.ask (.post config.coordinatorEndpoint path (Message.write payload))
  Session.attempt (sent.mapError (.context text))

/-- The request of a robot about an offer. -/
def TraderConfig.about (offerIdHex : String) : OfferTakenRequest :=
  ⟨config.robosatsRobohashHex, offerIdHex⟩

def BondRequirementResponse.fetch : Session D BondRequirementResponse := do
  let res ← postOr config "Error calling /create-offer" "/create-offer" config.formatOrderRequest
  match res.json? (α := BondRequirementResponse) with
  | some response => return response
  | none => Session.refuse "Error fetching bond requirements" res

def BondSubmissionRequest.sendMaker (request : BondSubmissionRequest) :
    Session D OfferActivatedResponse := do
  let res ← postOr config "Error submitting maker bond" "/submit-maker-bond" request
  match res.json? (α := OfferActivatedResponse) with
  | some response => return response
  | none => Session.refuse "Error submitting maker bond" res

/-- `None` as long as the offer has not been taken. -/
def OfferTakenResponse.check (offer : ActiveOffer D) : Session D (Option OfferTakenResponse) := do
  let res ← post config "/request-offer-status" (config.about offer.offerIdHex)
  if res.status = 200 then return some (← Session.decode res)
  else if res.status = 204 then return none
  else Session.refuse "Offer status polling returned" res

def PsbtSubmissionRequest.submitEscrowPsbt (psbt : P.PartiallySignedTransaction)
    (offerIdHex : String) : Session D Unit := do
  let res ← post config "/submit-escrow-psbt" ({
    signedPsbtHex := D.psbtSerializeHex psbt
    offerIdHex
    robohashHex := config.robosatsRobohashHex } : PsbtSubmissionRequest)
  if res.status ≠ 200 then Session.refuse "Submitting escrow psbt failed. Status" res
  else return ()

def TradeObligationsSatisfied.submit (offerIdHex : String) : Session D Unit := do
  let res ← post config "/submit-obligation-confirmation" (config.about offerIdHex)
  if res.status ≠ 200 then
    Session.refuse "Submitting trade obligations confirmation failed. Status" res
  else return ()

/-- One question for the confirmation of the escrow; `None` is to ask again. -/
def IsOfferReadyRequest.pollOnce (offer : ActiveOffer D) : Session D (Option Unit) := do
  let res ← post config "/poll-escrow-confirmation" (config.about offer.offerIdHex)
  if res.status = 200 then return some ()
  else if res.status ≠ 202 then
    Session.refuse "Requesting offer status when waiting on other party failed" res
  else return none

def IsOfferReadyRequest.poll (rounds : Nat) (offer : ActiveOffer D) : Session D Unit :=
  Call.retry .waiting (pollOnce config offer) rounds

/-- One question for the payout. The text of the lost escrow belongs to every status but the
    one of a lost escrow. -/
def IsOfferReadyRequest.pollPayoutOnce (offer : ActiveOffer D) : Session D (Option Response) := do
  let res ← post config "/poll-final-payout" (config.about offer.offerIdHex)
  if res.status = 200 then return some res
  else if res.status = 202 then return none
  else if res.status = 201 then return none
  else if res.status ≠ 410 then
    Session.refuse "We lost the escrow, your bond is gone" res
  else
    Session.refuse "Requesting final payout when waiting on other party failed" res

/-- What `poll_payout` makes of the payout: the transaction, the nonce and the key. -/
def PayoutResponse.parts (payoutResponse : PayoutResponse) :
    Except Error (P.PartiallySignedTransaction × P.MusigAggNonce × P.KeyAggContext) := do
  let finalPsbt ← parse "PartiallySignedTransaction::deserialize" P.psbtDeserialize
    (← decodeHex payoutResponse.payoutPsbtHex)
  let aggNonce ← withContext "Error parsing agg nonce"
    (parse "AggNonce::from_str" D.aggNonceFromStr payoutResponse.aggMusigNonceHex)
  let aggPubkCtx ← withContext "Error parsing agg pubkey ctx"
    (parse "KeyAggContext::from_hex" D.keyAggFromHex payoutResponse.aggMusigPubkeyCtxHex)
  return (finalPsbt, aggNonce, aggPubkCtx)

def IsOfferReadyRequest.pollPayout (rounds : Nat) (offer : ActiveOffer D) :
    Session D (P.PartiallySignedTransaction × P.MusigAggNonce × P.KeyAggContext) := do
  let res ← Call.retry .waiting (pollPayoutOnce config offer) rounds
  let payoutResponse ← Session.decode (α := PayoutResponse) res
  Session.attempt (payoutResponse.parts (D := D))

def TradeObligationsUnsatisfied.requestEscrow (offerIdHex : String) : Session D Unit := do
  let res ← post config "/request-escrow"
    (⟨config.robosatsRobohashHex, offerIdHex⟩ : TradeObligationsUnsatisfied)
  if res.status ≠ 200 then
    Session.refuse "Submitting trade obligations unsatisfied failed. Status" res
  else return ()

def PayoutSignatureRequest.send (signature offerIdHex : String) : Session D Unit := do
  let res ← post config "/submit-payout-signature" ({
    robohashHex := config.robosatsRobohashHex
    offerIdHex
    partialSigHex := signature } : PayoutSignatureRequest)
  if res.status ≠ 200 ∧ res.status ≠ 202 then
    Session.refuse "Submitting trade obligations unsatisfied failed. Status" res
  else return ()

def PublicOffers.fetch : Session D PublicOffers := do
  let res ← postOr config "Error fetching offers" "/fetch-available-offers"
    (config.offersRequest P.roundF64)
  if res.status = 204 then return { offers := none }
  else
    match res.json? (α := PublicOffers) with
    | some offers => return offers
    | none => Call.fail (.failed (.message "Error unpacking fetching offers response"))

/-- The offers of a response, if there are any. -/
def PublicOffers.available (publicOffers : PublicOffers) : Option PublicOffers :=
  if publicOffers.offers.isNone then none else some publicOffers

/-- The loop of `run_taker` that fetches until there are offers. -/
def PublicOffers.fetchAvailable (rounds : Nat) : Session D PublicOffers :=
  Call.retry .waiting (do return (← fetch config).available) rounds

/-- An index that is not in the list is a panic, as is a response without offers. -/
def PublicOffers.askUserToSelect (publicOffers : PublicOffers) : Session D PublicOffer := do
  let offers ← Call.unwrap publicOffers.offers
  let input ← Session.tryAsk (.readLine (.offerIndex offers)) id
  let index ← Session.attempt
    (withContext "Wrong index entered" (parse "usize::from_str" parseUsize (trim input)))
  Call.unwrap offers[index]?

/-- `taker_request`. -/
def OfferPsbtRequest.takerRequest (offer : PublicOffer) (tradeData : BondSubmissionRequest) :
    Session D OfferTakenResponse := do
  let res ← post config "/submit-taker-bond" (⟨offer, tradeData⟩ : OfferPsbtRequest)
  if res.status = 200 then Session.decode res
  else Call.fail (.failed (.message "Taker bond rejected"))

end Requests

/-- The line confirms: `input.trim().to_lowercase() == "y"`. -/
def confirms (line : String) : Bool := trim line = "y" || trim line = "Y"

/-- The line complains: `input.trim() == "M"`. -/
def complains (line : String) : Bool := trim line = "M"

/-- What the trader says with a line, if it is one of the two answers. -/
def satisfaction? (line : String) : Option Bool :=
  if confirms line then some true else if complains line then some false else none

namespace ActiveOffer

variable (config : TraderConfig D) (W : TradingWallet P)

/-- `ActiveOffer::create`. -/
def create : Session D (ActiveOffer D) := do
  let offerConditions ← BondRequirementResponse.fetch config
  let (bond, musigData, payoutAddress) ← tradeOnchainAssembly offerConditions config
  let inputAmount ← Call.unwrap (config.createInputAmount D.overflowChecks offerConditions)
  let (psbtInputsHexCsv, escrowChangeAddress) ←
    Session.outcome (W.getEscrowPsbtInputs D.overflowChecks inputAmount)
  let (shared, nonce) := musigData.nonce.getPubForSharing
  let pubNonce ← Session.attempt shared
  let submissionResult ← BondSubmissionRequest.sendMaker config {
    robohashHex := config.robosatsRobohashHex
    signedBondHex := D.extractTxHex bond
    payoutAddress
    musigPubNonceHex := Hex.encode (D.pubNonceSerialize pubNonce)
    musigPubkeyHex := Hex.encode (D.publicKeySerialize musigData.publicKey)
    taprootPubkeyHex := Hex.encode (P.xonlySerialize (D.taprootPubkey config.walletXprv))
    bdkPsbtInputsHexCsv := psbtInputsHexCsv
    clientChangeAddress := escrowChangeAddress }
  return {
    offerIdHex := submissionResult.offerIdHex
    usedMusigConfig := { musigData with nonce }
    usedBond := bond
    expectedPayoutAddress := payoutAddress
    escrowPsbt := none
    psbtInputsHexCsv
    escrowChangeAddress }

/-- `wait_until_taken`. -/
def waitUntilTaken (rounds : Nat) (offer : ActiveOffer D) : Session D OfferTakenResponse :=
  Call.retry .waiting (OfferTakenResponse.check config offer) rounds

/-- The escrow transaction of the response, signed. `validate_escrow_psbt` is a placeholder that
    accepts everything. -/
def signedEscrow (response : OfferTakenResponse) : Session D P.PartiallySignedTransaction := do
  let escrowPsbt ← Session.attempt
    (parse "PartiallySignedTransaction::from_str" D.psbtFromStr response.escrowPsbtHex)
  let (signedPsbt, _) ← Session.tryAsk (.sign escrowPsbt) id
  return signedPsbt

/-- `ActiveOffer::take`. -/
def take (offer : PublicOffer) : Session D (ActiveOffer D) := do
  let (bond, musigData, payoutAddress) ← tradeOnchainAssembly offer.bondRequirements config
  let inputAmount ← Call.unwrap (config.takeInputAmount D.overflowChecks offer)
  let (bdkPsbtInputsHexCsv, clientChangeAddress) ←
    Session.outcome (W.getEscrowPsbtInputs D.overflowChecks inputAmount)
  let (shared, nonce) := musigData.nonce.getPubForSharing
  let pubNonce ← Session.attempt shared
  let escrowContractRequirements ← OfferPsbtRequest.takerRequest config offer {
    robohashHex := config.robosatsRobohashHex
    signedBondHex := D.extractTxHex bond
    payoutAddress
    taprootPubkeyHex := D.xonlyToString (D.taprootPubkey config.walletXprv)
    musigPubNonceHex := D.pubNonceToString pubNonce
    musigPubkeyHex := Hex.encode (D.publicKeySerialize musigData.publicKey)
    bdkPsbtInputsHexCsv
    clientChangeAddress }
  let escrowPsbt ← signedEscrow escrowContractRequirements
  PsbtSubmissionRequest.submitEscrowPsbt config escrowPsbt offer.offerIdHex
  return {
    offerIdHex := offer.offerIdHex
    usedMusigConfig := { musigData with nonce }
    usedBond := bond
    expectedPayoutAddress := payoutAddress
    escrowPsbt := some escrowPsbt
    psbtInputsHexCsv := bdkPsbtInputsHexCsv
    escrowChangeAddress := clientChangeAddress }

/-- One line at the prompt of `fiat_confirmation_cli_input`. -/
def readFiatConfirmation (offer : ActiveOffer D) : Session D (Option Bool) := do
  let prompt := .fiatConfirmation config.robosatsRobohashHex offer.offerIdHex
    config.tradeType.isBuyOrder
  return satisfaction? (← Session.tryAsk (.readLine prompt) id)

/-- `fiat_confirmation_cli_input`: true for satisfied. -/
def fiatConfirmationCliInput (rounds : Nat) (offer : ActiveOffer D) : Session D Bool :=
  Call.retry .waiting (readFiatConfirmation config offer) rounds

/-- Both programs from the confirmation of the trader on: wait for the payout, sign it and send
    the signature. `validate_payout_psbt` is a placeholder that accepts everything. -/
def signPayout (rounds : Nat) (offer : ActiveOffer D) : Session D Unit := do
  TradeObligationsSatisfied.submit config offer.offerIdHex
  let (payoutKeyspendPsbt, aggPubNonce, aggPubkCtx) ←
    IsOfferReadyRequest.pollPayout config rounds offer
  let signature ← Session.attempt
    (createKeyspendPayoutSignature payoutKeyspendPsbt aggPubkCtx aggPubNonce offer.usedMusigConfig)
  PayoutSignatureRequest.send config signature offer.offerIdHex

end ActiveOffer

section Programs

variable (W : TradingWallet P) (rounds : Nat)

/-- `run_maker`. -/
def runMaker (makerConfig : TraderConfig D) : Session D Unit := do
  Session.tryAsk (.loadWallet makerConfig.electrumEndpoint makerConfig.walletXprv) id
  let offer ← ActiveOffer.create makerConfig W
  let escrowPsbtRequirements ← ActiveOffer.waitUntilTaken makerConfig rounds offer
  let escrowPsbt ← ActiveOffer.signedEscrow escrowPsbtRequirements
  PsbtSubmissionRequest.submitEscrowPsbt makerConfig escrowPsbt offer.offerIdHex
  IsOfferReadyRequest.poll makerConfig rounds offer
  if ← ActiveOffer.fiatConfirmationCliInput makerConfig rounds offer then
    ActiveOffer.signPayout makerConfig rounds offer
  else
    TradeObligationsUnsatisfied.requestEscrow makerConfig offer.offerIdHex
    let _ ← IsOfferReadyRequest.pollPayout makerConfig rounds offer

/-- `run_taker`. The escrow of a taker is not implemented: the source panics. -/
def runTaker (takerConfig : TraderConfig D) : Session D Unit := do
  Session.tryAsk (.loadWallet takerConfig.electrumEndpoint takerConfig.walletXprv) id
  let availableOffers ← PublicOffers.fetchAvailable takerConfig rounds
  let selectedOffer ← PublicOffers.askUserToSelect availableOffers
  let acceptedOffer ← ActiveOffer.take takerConfig W selectedOffer
  IsOfferReadyRequest.poll takerConfig rounds acceptedOffer
  if ← ActiveOffer.fiatConfirmationCliInput takerConfig rounds acceptedOffer then
    ActiveOffer.signPayout takerConfig rounds acceptedOffer
  else
    Call.panic

end Programs

end TapTrade
