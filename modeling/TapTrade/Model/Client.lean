import TapTrade.Model.ClientWallet
import TapTrade.Model.Http
import TapTrade.Model.Text
import TapTrade.Model.Trader
import TapTrade.Resumption.Retry

/-! # What a client of a trader may do

The client keeps nothing: all that it does is to ask. Its wallet, the random number generator,
the trader at the terminal and the coordinator at the other end of the connection answer as they
like. The libraries are fields of a `Device`, as those of the coordinator are of its `Platform`.
-/

namespace TapTrade

open Wire Resumption

/-- `musig2::secp::MaybeScalar`. -/
inductive MaybeScalar (Scalar : Type) where
  | zero
  | valid (scalar : Scalar)

structure Device (P : Platform) where
  ExtendedPrivKey : Type
  /-- `bitcoin::secp256k1::PublicKey`. -/
  PublicKey : Type
  /-- `musig2::secp256k1::SecretKey`. -/
  SecretKey : Type
  SecNonce : Type
  Scalar : Type
  /-- `ExtendedPrivKey::from_str`. -/
  xprvFromStr : String → Option ExtendedPrivKey
  /-- The x-only key of `to_keypair`. -/
  taprootPubkey : ExtendedPrivKey → P.XOnlyPublicKey
  /-- `XOnlyPublicKey::to_string`. -/
  xonlyToString : P.XOnlyPublicKey → String
  /-- The public key of `to_keypair`. -/
  publicKey : ExtendedPrivKey → PublicKey
  publicKeySerialize : PublicKey → Bytes
  /-- `SecretKey::from_slice` of the secret bytes of `to_keypair`. -/
  secretKey : ExtendedPrivKey → Option SecretKey
  publicNonce : SecNonce → P.MusigPubNonce
  pubNonceSerialize : P.MusigPubNonce → Bytes
  /-- `PubNonce::to_string`. -/
  pubNonceToString : P.MusigPubNonce → String
  /-- `AggNonce::from_str`. -/
  aggNonceFromStr : String → Option P.MusigAggNonce
  /-- `KeyAggContext::from_hex`. -/
  keyAggFromHex : String → Option P.KeyAggContext
  /-- `musig2::sign_partial`. -/
  signPartial : P.KeyAggContext → SecretKey → SecNonce → P.MusigAggNonce → P.Sighash →
    Option (MaybeScalar Scalar)
  /-- `encode_hex` of a scalar. -/
  scalarEncodeHex : Scalar → String
  /-- `PartiallySignedTransaction::from_str`. -/
  psbtFromStr : String → Option P.PartiallySignedTransaction
  psbtSerializeHex : P.PartiallySignedTransaction → String
  /-- `serialize_hex` of `extract_tx`. -/
  extractTxHex : P.PartiallySignedTransaction → String
  sha256 : String → Bytes
  /-- Whether integer overflow panics in the build of the client. -/
  overflowChecks : Bool

/-- What the transaction builder is given for a bond. -/
structure BondTx where
  recipients : List (Bytes × UInt64)
  /-- In sat/vB. -/
  feeRate : ℚ
  /-- The argument of `BranchAndBoundCoinSelection::new`. -/
  sizeOfChange : UInt64
  deriving DecidableEq, Repr

/-- What the trader is asked for when a line is read. -/
inductive Prompt where
  | setting (text : String)
  | offerIndex (offers : List PublicOffer)
  /-- Whether the fiat payment was sent, or received: for the robot, its offer and the side. -/
  | fiatConfirmation (robohashHex offerIdHex : String) (isBuyOrder : Bool)
  deriving DecidableEq, Repr

variable {P : Platform}

inductive TraderQuery (D : Device P) where
  /-- A `POST` with a JSON body. -/
  | post (endpoint path : String) (body : Json)
  | readLine (prompt : Prompt)
  | envVar (name : String)
  | dotenv (filename : String)
  /-- The seconds since 1970, if it is not before. -/
  | now
  /-- `ExtendedPrivKey::new_master` of a random seed. -/
  | newMaster
  /-- The connection to the electrum server, the wallet of the key and its first sync. -/
  | loadWallet (electrumEndpoint : String) (walletXprv : D.ExtendedPrivKey)
  | getAddress
  | finishBondTx (tx : BondTx)
  | sign (psbt : P.PartiallySignedTransaction)
  /-- A secret nonce from a random seed, salted with the time. -/
  | generateNonce

@[reducible] def TraderQuery.Answer {D : Device P} : TraderQuery D → Type
  | post _ _ _ => Except Error Response
  | readLine _ => Except Error String
  | envVar _ => Except Error String
  | dotenv _ => Except Error Unit
  | now => Except Error UInt64
  | newMaster => Except Error D.ExtendedPrivKey
  | loadWallet _ _ => Except Error Unit
  | getAddress => Except Error String
  | finishBondTx _ => Except Error P.PartiallySignedTransaction
  -- the signed transaction, and whether it could be finalized
  | sign _ => Except Error (P.PartiallySignedTransaction × Bool)
  | generateNonce => Except Error D.SecNonce

/-- The interface of a client. It shares no state with anybody. -/
@[reducible] def trader (D : Device P) : Interface where
  State := Unit
  Query := TraderQuery D
  Answer := TraderQuery.Answer
  Fault := Empty

/-- Why the program of a client does not go on. -/
inductive Stop where
  | failed (error : Error)
  /-- An error with a text that ends with the status of a response. -/
  | status (text : String) (status : Nat)
  /-- A loop that has not ended yet. -/
  | waiting
  deriving DecidableEq, Repr

/-- A call of the client. -/
abbrev Session (D : Device P) (α : Type) := Call (trader D) Stop α

namespace Session

variable {D : Device P} {α : Type}

def ask (query : TraderQuery D) : Session D query.Answer := Call.ask (I := trader D) query

/-- `x?`. -/
def attempt (x : Except Error α) : Session D α := Call.mapError .failed (Call.ofExcept x)

/-- `x?`, where the computation of `x` can panic. -/
def outcome : Outcome Error α → Session D α
  | .ok a => pure a
  | .error (.failed e) => Call.fail (.failed e)
  | .error .panicked => Call.panic

/-- A question whose answer can be an error, which `?` passes on. -/
def tryAsk (query : TraderQuery D) (answer : query.Answer → Except Error α) : Session D α := do
  attempt (answer (← ask query))

/-- `return Err(anyhow!("{text}: {status}"))`. -/
def refuse (text : String) (response : Response) : Session D α :=
  Call.fail (.status text response.status)

/-- `res.json()?`. -/
def decode [Message α] (response : Response) : Session D α :=
  attempt (parse "Response::json" (Response.json? (α := α)) response)

end Session

/-- `cli::TraderSettings`. -/
structure TraderConfig (D : Device P) extends TraderSettings where
  electrumEndpoint : String
  coordinatorEndpoint : String
  payoutAddress : String
  walletXprv : D.ExtendedPrivKey

section Nonce

variable {D : Device P}

/-- A nonce must not be used more than once. -/
structure MusigNonce (D : Device P) where
  secretNonce : D.SecNonce
  accessedForSigning : Bool
  accessedForSharing : Bool

namespace MusigNonce

def generate : Session D (MusigNonce D) := do
  let secretNonce ← Session.tryAsk .generateNonce id
  return { secretNonce, accessedForSigning := false, accessedForSharing := false }

/-- The secret nonce; the value that holds it is used up. -/
def getSecForSigning (nonce : MusigNonce D) : Except Error D.SecNonce :=
  if nonce.accessedForSigning then
    .error (.message "MuSig nonce has already been used for signing!")
  else .ok nonce.secretNonce

/-- The public nonce, and the value as the call leaves it. -/
def getPubForSharing (nonce : MusigNonce D) : Except Error P.MusigPubNonce × MusigNonce D :=
  if nonce.accessedForSharing || nonce.accessedForSigning then
    (.error (.message "MuSig nonce reused!"), nonce)
  else (.ok (D.publicNonce nonce.secretNonce), { nonce with accessedForSharing := true })

end MusigNonce

structure MuSigData (D : Device P) where
  nonce : MusigNonce D
  publicKey : D.PublicKey
  secretKey : D.SecretKey

def MuSigData.create (xprv : D.ExtendedPrivKey) : Session D (MuSigData D) := do
  let nonce ← MusigNonce.generate
  let secretKey ← Session.attempt (parse "SecretKey::from_slice" D.secretKey xprv)
  return { nonce, publicKey := D.publicKey xprv, secretKey }

/-- `create_keyspend_payout_signature`. -/
def createKeyspendPayoutSignature (validatedPayoutPsbt : P.PartiallySignedTransaction)
    (keyAggContext : P.KeyAggContext) (aggPubNonce : P.MusigAggNonce)
    (localMusigState : MuSigData D) : Except Error String := do
  let rawSigHash ← parse "taproot_key_spend_signature_hash" P.keyspendSighash validatedPayoutPsbt
  let secretNonce ← localMusigState.nonce.getSecForSigning
  match ← parse "sign_partial"
      (D.signPartial keyAggContext localMusigState.secretKey secretNonce aggPubNonce) rawSigHash with
  | .valid s => return D.scalarEncodeHex s
  | .zero => .error (.message "keyspend sig maybe scalar is Zero")

end Nonce

section Assembly

variable {D : Device P}

/-- `Bond::assemble`. -/
def Bond.assemble (bondTarget : BondRequirementResponse) (traderInput : TraderConfig D) :
    Session D P.PartiallySignedTransaction := do
  let address ← Session.attempt (parse "Address::from_str" P.addressFromStr bondTarget.bondAddress)
  if P.isValidForRegtest address then
    let psbt ← Session.tryAsk (.finishBondTx {
      recipients := [(P.scriptPubkey address, bondTarget.lockingAmountSat)]
      feeRate := 201
      sizeOfChange := traderInput.tradeType.value }) id
    let (psbt, finalized) ← Session.tryAsk (.sign psbt) id
    if finalized then return psbt
    else Call.fail (.failed (.message "Transaction could not be finalized"))
  else Call.fail (.failed (.library "require_network"))

/-- `trade_onchain_assembly`: the bond, the musig data and a payout address. -/
def tradeOnchainAssembly (offerConditions : BondRequirementResponse)
    (traderConfig : TraderConfig D) :
    Session D (P.PartiallySignedTransaction × MuSigData D × String) := do
  let bond ← Bond.assemble offerConditions traderConfig
  let payoutAddress ← Session.tryAsk .getAddress id
  let musigData ← MuSigData.create traderConfig.walletXprv
  return (bond, musigData, payoutAddress)

end Assembly

end TapTrade
