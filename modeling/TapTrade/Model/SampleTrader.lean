import TapTrade.Model.Cli
import TapTrade.Model.Sample

/-! # A client to compute on

Two traders of one trade on the small platform: their devices, wallets and settings, and
surroundings in which nothing fails and the trader is satisfied.
-/

namespace TapTrade

open Resumption

namespace Sample

/-- The bytes of a text in hex, or none. -/
def unhex (text : String) : Bytes := (Hex.decode text).getD []

end Sample

open Sample in
/-- The device of both traders: the maker has the wallet of the key `true`. -/
def Device.sample : Device .sample where
  ExtendedPrivKey := Bool
  PublicKey := String
  SecretKey := Bool
  SecNonce := Bool
  Scalar := String
  xprvFromStr text := if text = "maker" then some true else if text = "taker" then some false
    else none
  taprootPubkey isMaker := unhex (if isMaker then makerPk else takerPk)
  xonlyToString key := Hex.encode key
  publicKey isMaker := if isMaker then makerMusigPk else takerMusigPk
  publicKeySerialize key := unhex key
  secretKey isMaker := some isMaker
  publicNonce isMaker := if isMaker then makerNonce else takerNonce
  pubNonceSerialize nonce := unhex nonce
  pubNonceToString nonce := nonce
  aggNonceFromStr text := if text = makerNonce ++ takerNonce then some (makerNonce, takerNonce)
    else none
  keyAggFromHex text := if text = "0279" then some (makerMusigPk, takerMusigPk) else none
  signPartial _ isMaker _ _ _ := some (.valid (if isMaker then makerPartialSig else takerPartialSig))
  scalarEncodeHex scalar := scalar
  psbtFromStr text := (Hex.decode text).bind Platform.sample.psbtDeserialize
  psbtSerializeHex psbt := Hex.encode psbt
  extractTxHex psbt := Hex.encode psbt
  sha256 text := (text.toList.map fun c => c.toNat.toUInt8).take 32
  overflowChecks := true

namespace Sample

/-- A wallet with one coin. -/
def wallet (isMaker : Bool) : TradingWallet .sample where
  sync := .ok ()
  listUnspent := .ok [⟨⟨if isMaker then "0a" else "0b", 0⟩, ⟨30000000, [0x51, 0x20]⟩⟩]
  getPsbtInput utxo := .ok (some utxo.txout)
  bincodeSerialize _ := .ok (if isMaker then [0x0a] else [0x0b])
  getNewAddress := .ok (if isMaker then makerAddress else takerAddress)

def settings (isMaker : Bool) : TraderConfig .sample where
  robosatsRobohashHex := if isMaker then makerBond.robohashHex else takerBond.robohashHex
  tradeType := if isMaker then .buy 100000 else .sell 100000
  bondRatio := 10
  durationUnixTs := 1700086400
  electrumEndpoint := ""
  coordinatorEndpoint := ""
  payoutAddress := ""
  walletXprv := isMaker

def activeOffer (isMaker : Bool) : ActiveOffer .sample where
  offerIdHex := "abcd"
  usedMusigConfig := ⟨⟨isMaker, false, true⟩, if isMaker then makerMusigPk else takerMusigPk, isMaker⟩
  usedBond := []
  expectedPayoutAddress := ""
  escrowPsbt := none
  escrowChangeAddress := ""
  psbtInputsHexCsv := ""

/-- What a coordinator answers at each path in a trade that goes through. -/
def replies (path : String) : Response :=
  if path = "/create-offer" then .json publicOffer.bondRequirements
  else if path = "/submit-maker-bond" then
    .json ({ offerIdHex := offerId, bondLockedUntilTimestamp := 1700086400 } :
      OfferActivatedResponse)
  else if path = "/fetch-available-offers" then .json (PublicOffers.mk (some [publicOffer]))
  else if path = "/request-offer-status" ∨ path = "/submit-taker-bond" then
    .json ({
      escrowPsbtHex := "70736274ff"
      escrowOutputDescriptor := "tr()"
      escrowAmountMakerSat := 10000
      escrowAmountTakerSat := 110000
      escrowFeeSatPerParticipant := 200 } : OfferTakenResponse)
  else if path = "/poll-final-payout" then
    .json ({
      payoutPsbtHex := "70736274ff01"
      aggMusigNonceHex := makerNonce ++ takerNonce
      aggMusigPubkeyCtxHex := "0279" } : PayoutResponse)
  else .statusCode 200

/-- The surroundings of a trader, with what the coordinator answers at each tick and path. -/
def surroundings (isMaker : Bool) (answer : Nat → String → Except Error Response) :
    Environment (trader .sample) where
  answer tick
    | .post _ path _ => answer tick path
    | .readLine (.offerIndex _) => .ok "0"
    | .readLine _ => .ok "y"
    | .envVar _ => .ok ""
    | .dotenv _ | .loadWallet _ _ => .ok ()
    | .now => .ok 1700000000
    | .newMaster | .generateNonce => .ok isMaker
    | .getAddress => .ok (if isMaker then makerAddress else takerAddress)
    | .finishBondTx _ => .ok []
    | .sign psbt => .ok (psbt, true)
  fault _ := none

/-- The surroundings in which the trade goes through. -/
def tradingEnvironment (isMaker : Bool) : Environment (trader .sample) :=
  surroundings isMaker fun _ path => .ok (replies path)

end Sample

end TapTrade
