import TapTrade.Model.Background

/-! # A platform to compute on

A small platform whose parsers accept what the real ones accept among the strings of one
trade on regtest, with an environment in which nothing fails. Runs on it can be
evaluated; no general result mentions it.
-/

namespace TapTrade

open Resumption Spending

namespace Sample

def makerPk : String := "79be667ef9dcbbac55a06295ce870b07029bfcdb2dce28d959f2815b16f81798"
def takerPk : String := "c6047f9441ed7d6d3045406e95c07cd85c778e4b8cef3ca7abac09b95c709ee5"
def coordinatorPk : String := "f9308a019258c31049344f85f89d5229b531c845836f99b08601f113bce036f9"
def makerAddress : String := "bcrt1pmcgt8wjuxlkp2pqykatt4n6w0jw45vzgsa8em3rx9gacqwzyttjqmg0ufp"
def takerAddress : String := "bcrt1p28lv60c0t64taw5pp6k5fwwd4z66t99lny9d8mmpsysm5xanzd3smyz320"
/-- An address of another network. -/
def testnetAddress : String := "tb1p5yh969z6fgatg0mvcyvggd08fujnat8890vcdud277q06rr9xgmqwfdkcx"

def makerMusigPk : String := "0279be667ef9dcbbac55a06295ce870b07029bfcdb2dce28d959f2815b16f81798"
def takerMusigPk : String := "02c6047f9441ed7d6d3045406e95c07cd85c778e4b8cef3ca7abac09b95c709ee5"
def makerNonce : String :=
  "0279be667ef9dcbbac55a06295ce870b07029bfcdb2dce28d959f2815b16f81798" ++
  "02c6047f9441ed7d6d3045406e95c07cd85c778e4b8cef3ca7abac09b95c709ee5"
def takerNonce : String :=
  "02c6047f9441ed7d6d3045406e95c07cd85c778e4b8cef3ca7abac09b95c709ee5" ++
  "0279be667ef9dcbbac55a06295ce870b07029bfcdb2dce28d959f2815b16f81798"

def makerPartialSig : String := "0000000000000000000000000000000000000000000000000000000000000011"
def takerPartialSig : String := "0000000000000000000000000000000000000000000000000000000000000022"

/-- The key of `coordinatorPk`. -/
def coordinatorKey : Bytes :=
  [0xf9, 0x30, 0x8a, 0x01, 0x92, 0x58, 0xc3, 0x10, 0x49, 0x34, 0x4f, 0x85, 0xf8, 0x9d, 0x52, 0x29,
    0xb5, 0x31, 0xc8, 0x45, 0x83, 0x6f, 0x99, 0xb0, 0x86, 0x01, 0xf1, 0x13, 0xbc, 0xe0, 0x36, 0xf9]

abbrev EscrowDescriptor := Descriptor Bytes (Policy String) Empty

/-- The only descriptor that is ever built from the keys above. -/
def descriptor : EscrowDescriptor :=
  .tr coordinatorKey (some (.tree
    (.tree (.leaf (policyA makerPk coordinatorPk)) (.leaf (policyB takerPk coordinatorPk)))
    (.tree (.leaf (policyD makerPk takerPk)) (.leaf (policyC makerPk)))))

def policies : List (Policy String) :=
  [policyA makerPk coordinatorPk, policyB takerPk coordinatorPk, policyC makerPk,
    policyD makerPk takerPk]

/-- A parser that accepts the given texts. -/
def known (texts : List String) (text : String) : Option String :=
  if text ∈ texts then some text else none

end Sample

open Sample in
/-- The platform of one trade. Its amounts are such that the rounding of `f64` makes no difference. -/
def Platform.sample : Platform where
  Address := String
  XOnlyPublicKey := Bytes
  Concrete := Policy String
  Miniscript := Policy String
  OtherDescriptor := Empty
  PartiallySignedTransaction := Bytes
  Input := Option TxOut
  MusigPubKey := String
  MusigPubNonce := String
  MusigAggNonce := String × String
  MusigScalar := Bytes
  KeyAggContext := String × String
  PartialSignature := String
  LiftedSignature := List String
  Sighash := Bytes
  addressFromStr := known [makerAddress, takerAddress, testnetAddress]
  isValidForRegtest address := address.toList.take 5 = ['b', 'c', 'r', 't', '1']
  scriptPubkey address := address.toList.map fun c => c.toNat.toUInt8
  xonlySerialize key := key
  concreteFromStr text := policies.find? fun policy => policyText policy = text
  compileTap policy := some policy
  descriptorIsSane other := other = descriptor
  descriptorToString _ := "tr()"
  descriptorFromStr text := if text = "tr()" then some descriptor else none
  descriptorAddress _ := some [0x51, 0x20]
  tapTweak _ _ := List.replicate 32 7
  musigScalarFromBeBytes bytes := if bytes.length = 32 then some bytes else none
  musigPubKeyFromStr := known [makerMusigPk, takerMusigPk]
  keyAggNew maker taker := some (maker, taker)
  keyAggWithXonlyTweak keys _ := some keys
  aggregatedXonly _ := some coordinatorKey
  keyAggToBytes _ := [0x02, 0x79]
  musigPubNonceFromHex := known [makerNonce, takerNonce]
  aggNonceSum maker taker := (maker, taker)
  aggNonceToString nonces := nonces.1 ++ nonces.2
  psbtDeserialize bytes :=
    if bytes.take 5 = [0x70, 0x73, 0x62, 0x74, 0xff] then some bytes else none
  partialSignatureFromHex := known [makerPartialSig, takerPartialSig]
  keyspendSighash psbt := some psbt
  aggregatePartialSignatures _ _ signatures _ := some signatures
  witnessUtxo input := input
  psbtInputDeserialize bytes :=
    if bytes.isEmpty then none
    else some ⟨some ⟨30000000, [0x51, 0x20]⟩, ⟨Hex.encode bytes, 0⟩⟩
  coordinatorFeerate := 1 / 5
  roundF64 q := q
  overflowChecks := true

instance : DecidableEq Platform.sample.Concrete := inferInstanceAs (DecidableEq (Policy String))

instance : DecidableEq Platform.sample.Input := inferInstanceAs (DecidableEq (Option TxOut))

instance : DecidableEq Platform.sample.EscrowDescriptor :=
  inferInstanceAs (DecidableEq Sample.EscrowDescriptor)

namespace Sample

def offerId : String := "000102030405060708090a0b0c0d0e0f"

/-- The answers of surroundings in which nothing fails. -/
def answer : (query : Query .sample) → query.Answer
  | .now => 1700000000
  | .punishmentEnabled => some "0"
  | .generateRandomOrderId _ => offerId
  | .getNewAddress => .ok makerAddress
  | .getCoordinatorTaprootPk => .ok coordinatorKey
  | .validateBondTxHex _ _ => .ok ()
  | .validateBonds _ => .ok []
  | .publishBondTxHex _ => .ok ()
  | .finishEscrowTx _ => .ok ("70736274ff", "e5c1")
  | .combineAndBroadcastEscrowPsbt _ _ => .ok ()
  | .assembleKeyspendPayoutPsbt _ => .ok "70736274ff01"
  | .broadcastKeyspendTx _ => .ok ()
  | .getConfirmations txids => .ok txids
  | .getCoordinatorCliInput _ => .ok .maker

def environment : Environment (coordinator .sample) where
  answer _ := answer
  fault _ := none

def order (isBuyOrder : Bool) : OfferRequest where
  robohashHex := "a3f1f1f0e2f3f4f5"
  amountSatoshi := 100000
  isBuyOrder
  bondRatio := 10
  offerDurationTs := 1700086400

def makerBond : BondSubmissionRequest where
  robohashHex := "a3f1f1f0e2f3f4f5"
  signedBondHex := "b0"
  payoutAddress := makerAddress
  taprootPubkeyHex := makerPk
  musigPubNonceHex := makerNonce
  musigPubkeyHex := makerMusigPk
  bdkPsbtInputsHexCsv := "0a"
  clientChangeAddress := makerAddress

def takerBond : BondSubmissionRequest where
  robohashHex := "b4e2e2e1d3e4e5e6"
  signedBondHex := "b1"
  payoutAddress := takerAddress
  taprootPubkeyHex := takerPk
  musigPubNonceHex := takerNonce
  musigPubkeyHex := takerMusigPk
  bdkPsbtInputsHexCsv := "0b"
  clientChangeAddress := takerAddress

def publicOffer : PublicOffer where
  amountSat := 100000
  offerIdHex := offerId
  bondRequirements := ⟨makerAddress, 10000, 10000⟩

def take : OfferPsbtRequest := ⟨publicOffer, takerBond⟩

def makerPoll : OfferTakenRequest := ⟨makerBond.robohashHex, offerId⟩
def takerPoll : OfferTakenRequest := ⟨takerBond.robohashHex, offerId⟩
def complaint : TradeObligationsUnsatisfied := ⟨makerBond.robohashHex, offerId⟩
def makerSignature : PayoutSignatureRequest := ⟨makerPartialSig, offerId, makerBond.robohashHex⟩
def takerSignature : PayoutSignatureRequest := ⟨takerPartialSig, offerId, takerBond.robohashHex⟩

/-- The world in which the offer of the maker is listed. -/
def listed : World (coordinator .sample) :=
  runAlone environment [.createOffer (order true), .submitMakerBond makerBond]

/-- A trade up to the confirmation of the escrow. -/
def escrowed : List Request :=
  [.createOffer (order true), .submitMakerBond makerBond, .submitTakerBond take,
    .updateTransactionConfirmations]

/-- A trade up to the moment at which the payout is prepared. -/
def prepared : List Request :=
  escrowed ++ [.submitObligationConfirmation makerPoll, .submitObligationConfirmation takerPoll,
    .pollFinalPayout makerPoll]

def makerRobohash : Bytes := [0xa3, 0xf1, 0xf1, 0xf0, 0xe2, 0xf3, 0xf4, 0xf5]
def takerRobohash : Bytes := [0xb4, 0xe2, 0xe2, 0xe1, 0xd3, 0xe4, 0xe5, 0xe6]

/-- The row of the offer right after it was taken. -/
def freshTrade : TakenOffer :=
  takenRow
    { offerId
      robohashMaker := makerRobohash
      isBuyOrder := true
      amountSat := 100000
      bondRatio := 10
      offerDurationTs := 1700086400
      bondAddressMaker := makerAddress
      bondAmountSat := 10000
      bondTxHexMaker := makerBond.signedBondHex
      payoutAddressMaker := makerBond.payoutAddress
      taprootPubkeyHexMaker := makerBond.taprootPubkeyHex
      musigPubNonceHexMaker := makerBond.musigPubNonceHex
      musigPubkeyHexMaker := makerBond.musigPubkeyHex }
    takerRobohash take
    ⟨"70736274ff", "e5c1", "tr()", coordinatorPk, 10000, 110000, 200⟩

/-- The row once the payout is prepared. -/
def preparedOffer : TakenOffer := { freshTrade with
  escrowPsbtIsConfirmed := some 1
  makerHappy := some 1
  takerHappy := some 1
  payoutTransactionPsbtHex := some "70736274ff01" }

example : (runAlone environment (escrowed.take 3)).state.takenOffers.find? offerId =
    some freshTrade := by decide +kernel

example : (runAlone environment prepared).state.takenOffers.find? offerId =
    some preparedOffer := by decide +kernel

/-- A world with a single trade. -/
def trading (row : TakenOffer) : World (coordinator .sample) :=
  ⟨Database.init.insertTaken row, [], 0⟩

end Sample

end TapTrade
