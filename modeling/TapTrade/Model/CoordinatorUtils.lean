import Mathlib.Data.List.Forall2
import TapTrade.Model.Platform

/-! # Parsing what the traders submitted

The pure functions of `coordinator_utils.rs` and `wallet_utils.rs` that turn stored
strings into keys, nonces, addresses and PSBT inputs. Each is a chain of library calls
in the order of the source, ending with the first error.
-/

namespace TapTrade

variable {P : Platform}

/-- `parser(text)?`, where the error of the parser is a library error. -/
def parse {α β : Type} (operation : String) (parser : α → Option β) (input : α) : Except Error β :=
  match parser input with
  | some value => .ok value
  | none => .error (.library operation)

/-- `.context(text)`. -/
def withContext {α : Type} (text : String) : Except Error α → Except Error α :=
  Except.mapError (.context text)

@[simp] theorem parse_eq_ok {α β : Type} {operation : String} {parser : α → Option β} {input : α}
    {value : β} : parse operation parser input = .ok value ↔ parser input = some value := by
  unfold parse
  cases parser input <;> simp

@[simp] theorem withContext_eq_ok {α : Type} {text : String} {x : Except Error α} {a : α} :
    withContext text x = .ok a ↔ x = .ok a := by
  cases x <;> simp [withContext, Except.mapError]

/-- A chain of fallible steps succeeds iff each of them does. -/
theorem bind_eq_ok {ε α β : Type} {x : Except ε α} {f : α → Except ε β} {b : β} :
    x >>= f = .ok b ↔ ∃ a, x = .ok a ∧ f a = .ok b := by
  cases x with
  | error e => simp [bind, Except.bind]
  | ok a => simp [bind, Except.bind]

/-- A loop of fallible steps succeeds iff each of them does. -/
theorem mapM_eq_ok {ε α β : Type} {f : α → Except ε β} {xs : List α} {ys : List β} :
    xs.mapM f = .ok ys ↔ List.Forall₂ (fun x y => f x = .ok y) xs ys := by
  induction xs generalizing ys with
  | nil =>
      rw [List.mapM_nil, List.forall₂_nil_left_iff]
      exact ⟨fun same => (Except.ok.inj same).symm, fun same => congrArg Except.ok same.symm⟩
  | cons x xs ih =>
      rw [List.mapM_cons, bind_eq_ok, List.forall₂_cons_left_iff]
      constructor
      · rintro ⟨y, first, rest⟩
        obtain ⟨ys', others, same⟩ := bind_eq_ok.mp rest
        exact ⟨y, ys', first, ih.mp others, (Except.ok.inj same).symm⟩
      · rintro ⟨y, ys', first, others, rfl⟩
        exact ⟨y, first, bind_eq_ok.mpr ⟨ys', ih.mpr others, rfl⟩⟩

theorem exists_mapM_eq_ok {ε α β : Type} {f : α → Except ε β} {xs : List α} :
    (∃ ys, xs.mapM f = .ok ys) ↔ ∀ x ∈ xs, ∃ y, f x = .ok y := by
  induction xs with
  | nil => exact iff_of_true ⟨[], rfl⟩ nofun
  | cons x xs ih =>
      rw [List.forall_mem_cons, ← ih, List.mapM_cons]
      constructor
      · rintro ⟨ys, mapped⟩
        obtain ⟨y, first, mapped⟩ := bind_eq_ok.mp mapped
        obtain ⟨zs, others, -⟩ := bind_eq_ok.mp mapped
        exact ⟨⟨y, first⟩, zs, others⟩
      · rintro ⟨⟨y, first⟩, zs, others⟩
        exact ⟨y :: zs, bind_eq_ok.mpr ⟨y, first, bind_eq_ok.mpr ⟨zs, others, rfl⟩⟩⟩

/-- `hex::decode(text)?`. -/
def decodeHex (text : String) : Except Error Bytes :=
  match Hex.decode text with
  | some bytes => .ok bytes
  | none => .error .fromHex

def aggHexMusigNonces (makerNonce takerNonce : String) : Except Error P.MusigAggNonce := do
  let musigPubNonceMaker ← withContext "Error decoding maker musig pub nonce"
    (parse "MusigPubNonce::from_hex" P.musigPubNonceFromHex makerNonce)
  let musigPubNonceTaker ← withContext "Error decoding taker musig pub nonce"
    (parse "MusigPubNonce::from_hex" P.musigPubNonceFromHex takerNonce)
  return P.aggNonceSum musigPubNonceMaker musigPubNonceTaker

/-- The scalar that tweaks the key path of a taproot descriptor. -/
def getKeyspendTweakScalar (descriptor : String) : Except Error Bytes := do
  match ← parse "Descriptor::from_str" P.descriptorFromStr descriptor with
  | .tr internalKey tree => return P.tapTweak internalKey tree
  | .other _ => .error (.message "Descriptor is not a taproot descriptor")

/-- The untweaked aggregate of the traders' musig keys. -/
def aggregateMusigPubkeys (makerMusigPubkey takerMusigPubkey : String) :
    Except Error P.KeyAggContext := do
  let maker ← withContext "Error parsing musig pk 1"
    (parse "PublicKey::from_str" P.musigPubKeyFromStr makerMusigPubkey)
  let taker ← withContext "Error parsing musig pk 2"
    (parse "PublicKey::from_str" P.musigPubKeyFromStr takerMusigPubkey)
  withContext "Error aggregating musig pubkeys"
    (parse "KeyAggContext::new" (fun keys => P.keyAggNew keys.1 keys.2) (maker, taker))

def aggregateMusigPubkeysWithTweak (makerMusigPubkey takerMusigPubkey : String)
    (tweakScalar : Bytes) : Except Error P.KeyAggContext := do
  let musigScalar ← parse "Scalar::from_be_bytes" P.musigScalarFromBeBytes tweakScalar
  let keyAggCtx ← aggregateMusigPubkeys makerMusigPubkey takerMusigPubkey
  parse "with_tweak" (P.keyAggWithXonlyTweak keyAggCtx) musigScalar

/-- `Address::from_str(address)?.require_network(Network::Regtest).context(text)?`. -/
def regtestAddress (text : String) (address : String) : Except Error P.Address := do
  let unchecked ← parse "Address::from_str" P.addressFromStr address
  if P.isValidForRegtest unchecked then return unchecked
  else .error (.context text (.library "require_network"))

/-- `PayoutData::new_from_strings`. -/
def PayoutData.newFromStrings
    (escrowOutputDescriptor payoutAddressMaker payoutAddressTaker : String)
    (payoutAmountMaker payoutAmountTaker : UInt64)
    (musigPubNonceHexMaker musigPubNonceHexTaker musigPkHexMaker musigPkHexTaker : String) :
    Except Error (PayoutData P) := do
  let tweak ← getKeyspendTweakScalar (P := P) escrowOutputDescriptor
  let aggregated ← aggregateMusigPubkeysWithTweak (P := P) musigPkHexMaker musigPkHexTaker tweak
  let aggMusigNonce ← aggHexMusigNonces (P := P) musigPubNonceHexMaker musigPubNonceHexTaker
  let descriptor ← parse "Descriptor::from_str" P.descriptorFromStr escrowOutputDescriptor
  let addressMaker ← regtestAddress (P := P) "Maker payout address wrong network" payoutAddressMaker
  let addressTaker ← regtestAddress (P := P) "Taker payout address wrong Network" payoutAddressTaker
  return {
    escrowOutputDescriptor := descriptor
    payoutAddressMaker := addressMaker
    payoutAddressTaker := addressTaker
    payoutAmountMaker
    payoutAmountTaker
    aggMusigNonce
    aggregatedMusigPubkeyCtxHex := Hex.encode (P.keyAggToBytes aggregated) }

/-- `KeyspendContext::from_hex_str`. -/
def KeyspendContext.fromHexStr (makerSig takerSig makerNonce takerNonce makerPk takerPk
    keyspendPsbt descriptor : String) : Except Error (KeyspendContext P) := do
  let tweak ← getKeyspendTweakScalar (P := P) descriptor
  let aggKeyspendPk ← aggregateMusigPubkeysWithTweak (P := P) makerPk takerPk tweak
  let aggNonce ← aggHexMusigNonces (P := P) makerNonce takerNonce
  let keyspendPsbt ← parse "PartiallySignedTransaction::deserialize" P.psbtDeserialize
    (← decodeHex keyspendPsbt)
  let partialMakerSig ← parse "PartialSignature::from_hex" P.partialSignatureFromHex makerSig
  let partialTakerSig ← parse "PartialSignature::from_hex" P.partialSignatureFromHex takerSig
  let msg ← parse "taproot_key_spend_signature_hash" P.keyspendSighash keyspendPsbt
  let aggSig ← withContext "Aggregating partial signatures failed"
    (parse "aggregate_partial_signatures"
      (P.aggregatePartialSignatures aggKeyspendPk aggNonce [partialMakerSig, partialTakerSig]) msg)
  return { aggSig, aggNonce, aggKeyspendPk, keyspendPsbt }

/-- `csv_hex_to_bdk_input`. -/
def csvHexToBdkInput (P : Platform) (inputsCsvHex : String) :
    Except Error (List (PsbtInput P.Input)) := do
  let inputs ← (inputsCsvHex.toList.splitOn ',').mapM fun inputHex => do
    let binary ← decodeHex (String.ofList inputHex)
    parse "bincode::deserialize" P.psbtInputDeserialize binary
  if inputs.isEmpty then .error (.message "No inputs found in csv input value")
  else return inputs

end TapTrade
