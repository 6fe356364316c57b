import Mathlib.Data.Rat.Floor
import TapTrade.Model.Api
import TapTrade.Spending.Policy

/-! # What the coordinator runs on

The parsers and constructors of the bitcoin, miniscript and musig2 libraries are
fields of a `Platform`: total on their arguments, partial in their result, and the
same on the same argument. Nothing is assumed of them here; a theorem that relies on
documented behaviour of one of them says so in a hypothesis.
-/

namespace TapTrade

open Spending

/-- `bitcoin::TxOut`. -/
structure TxOut where
  value : UInt64
  scriptPubkey : Bytes
  deriving DecidableEq, Repr

structure OutPoint where
  txid : String
  vout : UInt32
  deriving DecidableEq, Repr

/-- `PsbtInput`. The coordinator and the client declare it each for themselves, with the same fields
    in the same order. -/
structure PsbtInput (Input : Type) where
  psbtInput : Input
  utxo : OutPoint
  deriving DecidableEq, Repr

/-- A descriptor over x-only keys; only taproot descriptors are looked into. -/
inductive Descriptor (Key Leaf Other : Type) where
  | tr (internalKey : Key) (tree : Option (TapTree Leaf))
  | other (descriptor : Other)
  deriving DecidableEq, Repr

structure Platform where
  /-- `Address<NetworkUnchecked>` and `Address`. -/
  Address : Type
  XOnlyPublicKey : Type
  /-- `Concrete<XOnlyPublicKey>`. -/
  Concrete : Type
  /-- `Miniscript<XOnlyPublicKey, Tap>`. -/
  Miniscript : Type
  OtherDescriptor : Type
  PartiallySignedTransaction : Type
  /-- `bitcoin::psbt::Input`. -/
  Input : Type
  MusigPubKey : Type
  MusigPubNonce : Type
  MusigAggNonce : Type
  MusigScalar : Type
  KeyAggContext : Type
  PartialSignature : Type
  LiftedSignature : Type
  Sighash : Type
  /-- `Address::from_str`. -/
  addressFromStr : String → Option Address
  /-- Whether `require_network(Network::Regtest)` accepts the address. -/
  isValidForRegtest : Address → Bool
  scriptPubkey : Address → Bytes
  /-- `XOnlyPublicKey::serialize`. -/
  xonlySerialize : XOnlyPublicKey → Bytes
  /-- `Concrete::from_str`. -/
  concreteFromStr : String → Option Concrete
  /-- `compile::<Tap>`. -/
  compileTap : Concrete → Option Miniscript
  /-- `sanity_check`. -/
  descriptorIsSane : Descriptor XOnlyPublicKey Miniscript OtherDescriptor → Bool
  descriptorToString : Descriptor XOnlyPublicKey Miniscript OtherDescriptor → String
  descriptorFromStr : String → Option (Descriptor XOnlyPublicKey Miniscript OtherDescriptor)
  /-- The script of `address(Network::Regtest)`. -/
  descriptorAddress : Descriptor XOnlyPublicKey Miniscript OtherDescriptor → Option Bytes
  /-- `spend_info().tap_tweak()`, as big-endian bytes. -/
  tapTweak : XOnlyPublicKey → Option (TapTree Miniscript) → Bytes
  /-- `musig2::secp256k1::Scalar::from_be_bytes`. -/
  musigScalarFromBeBytes : Bytes → Option MusigScalar
  musigPubKeyFromStr : String → Option MusigPubKey
  /-- `KeyAggContext::new` of two keys. -/
  keyAggNew : MusigPubKey → MusigPubKey → Option KeyAggContext
  /-- `with_tweak(tweak, true)`. -/
  keyAggWithXonlyTweak : KeyAggContext → MusigScalar → Option KeyAggContext
  /-- The aggregated key as an x-only key. -/
  aggregatedXonly : KeyAggContext → Option XOnlyPublicKey
  keyAggToBytes : KeyAggContext → Bytes
  musigPubNonceFromHex : String → Option MusigPubNonce
  /-- `AggNonce::sum` of two nonces. -/
  aggNonceSum : MusigPubNonce → MusigPubNonce → MusigAggNonce
  aggNonceToString : MusigAggNonce → String
  psbtDeserialize : Bytes → Option PartiallySignedTransaction
  partialSignatureFromHex : String → Option PartialSignature
  /-- The taproot key spend signature hash of a payout PSBT. -/
  keyspendSighash : PartiallySignedTransaction → Option Sighash
  aggregatePartialSignatures : KeyAggContext → MusigAggNonce → List PartialSignature → Sighash →
    Option LiftedSignature
  witnessUtxo : Input → Option TxOut
  /-- `bincode::deserialize`. -/
  psbtInputDeserialize : Bytes → Option (PsbtInput Input)
  /-- `COORDINATOR_FEERATE`, in percent. -/
  coordinatorFeerate : ℚ
  /-- The `f64` for the exact result of an operation. -/
  roundF64 : ℚ → ℚ
  /-- Whether integer overflow panics (debug builds) or wraps (release builds). -/
  overflowChecks : Bool

namespace Platform

variable (P : Platform)

abbrev EscrowDescriptor := Descriptor P.XOnlyPublicKey P.Miniscript P.OtherDescriptor

end Platform

/-- `EscrowPsbtConstructionData`. -/
structure EscrowPsbtConstructionData (P : Platform) where
  taprootXonlyPubkeyHex : String
  escrowInputUtxos : List (PsbtInput P.Input)
  changeAddress : P.Address
  musigPubkeyCompressedHex : String

/-- What the transaction builder is given for the escrow locking transaction. -/
structure EscrowTx (Input : Type) where
  recipients : List (Bytes × UInt64)
  feeAbsolute : UInt64
  foreignUtxos : List (PsbtInput Input)
  deriving DecidableEq, Repr

/-- `coordinator_utils::PayoutData`. -/
structure PayoutData (P : Platform) where
  escrowOutputDescriptor : P.EscrowDescriptor
  payoutAddressMaker : P.Address
  payoutAddressTaker : P.Address
  payoutAmountMaker : UInt64
  payoutAmountTaker : UInt64
  aggMusigNonce : P.MusigAggNonce
  aggregatedMusigPubkeyCtxHex : String

/-- `coordinator_utils::KeyspendContext`. -/
structure KeyspendContext (P : Platform) where
  aggSig : P.LiftedSignature
  aggNonce : P.MusigAggNonce
  aggKeyspendPk : P.KeyAggContext
  keyspendPsbt : P.PartiallySignedTransaction

/-- `rational as u64`: the floor, saturating at both ends. -/
def floorU64 (q : ℚ) : UInt64 := UInt64.ofNat (min ⌊q⌋.toNat (2 ^ 64 - 1))

end TapTrade
