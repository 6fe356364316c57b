import TapTrade.Escrow.Descriptor
import TapTrade.Spending.XOnly

/-! # The key of the payout is the key of the escrow

The escrow is locked to the x coordinate of the aggregate of the traders' keys, tweaked by the
script leaves. The payout is signed under the aggregate itself, put together again from the stored
texts and tweaked by what the stored descriptor says. Whatever the parity of the aggregate, the
x-only key of the one is the output key of the other.
-/

namespace TapTrade

open Spending

section Aggregate

variable {P : Platform} {G R : Type} [AddCommGroup G] [CommRing R] [Module R G] [DecidableEq G]

/-- What is documented of keys and descriptors, over a group of points: how aggregated keys are
    tweaked, which output a taproot descriptor describes, and that a sane descriptor is printed so
    that it parses back. -/
structure KeyLaws (P : Platform) (keys : XOnlyKeys G P.XOnlyPublicKey) (generator : G)
    (scalar? : Bytes → Option R) (scalar : P.MusigScalar → R)
    (aggregate : P.KeyAggContext → KeyAggregate G R) : Prop where
  musigScalarFromBeBytes : ∀ bytes, (P.musigScalarFromBeBytes bytes).map scalar = scalar? bytes
  keyAggWithXonlyTweak : ∀ keyAggCtx musigScalar,
    (P.keyAggWithXonlyTweak keyAggCtx musigScalar).map aggregate =
      keys.applyTweak generator (aggregate keyAggCtx) (scalar musigScalar) true
  aggregatedXonly : ∀ keyAggCtx, P.aggregatedXonly keyAggCtx = keys.x (aggregate keyAggCtx).point
  descriptorAddress : ∀ internalKey tree, P.descriptorAddress (.tr internalKey tree) =
    ((scalar? (P.tapTweak internalKey tree)).bind (keys.outputKey generator internalKey)).map
      fun key => 0x51 :: 0x20 :: P.xonlySerialize key
  roundTrip : ∀ descriptor, P.descriptorIsSane descriptor = true →
    P.descriptorFromStr (P.descriptorToString descriptor) = some descriptor

/-- The taproot output key of a descriptor. -/
def taprootOutputKey (keys : XOnlyKeys G P.XOnlyPublicKey) (generator : G)
    (scalar? : Bytes → Option R) : P.EscrowDescriptor → Option P.XOnlyPublicKey
  | .tr internalKey tree =>
      (scalar? (P.tapTweak internalKey tree)).bind (keys.outputKey generator internalKey)
  | .other _ => none

/-- The key under which a payout is signed, from the stored texts. -/
def payoutKey (P : Platform) (descriptor makerMusigPk takerMusigPk : String) :
    Except Error P.KeyAggContext := do
  let tweak ← getKeyspendTweakScalar (P := P) descriptor
  aggregateMusigPubkeysWithTweak makerMusigPk takerMusigPk tweak

/-- The key of the payout has the x-only key, and it is the key that the traders are sent and that
    their partial signatures are aggregated with. -/
structure PayoutKey (P : Platform) (descriptor makerMusigPk takerMusigPk : String)
    (xonly : Option P.XOnlyPublicKey) : Prop where
  xonly_eq : (payoutKey P descriptor makerMusigPk takerMusigPk).toOption.bind P.aggregatedXonly =
    xonly
  /-- What the traders are sent. -/
  sent : ∀ payoutAddressMaker payoutAddressTaker payoutAmountMaker payoutAmountTaker
    musigPubNonceMaker musigPubNonceTaker (payoutData : PayoutData P),
    PayoutData.newFromStrings descriptor payoutAddressMaker payoutAddressTaker payoutAmountMaker
      payoutAmountTaker musigPubNonceMaker musigPubNonceTaker makerMusigPk takerMusigPk =
        .ok payoutData →
    ∃ keyAggCtx, payoutKey P descriptor makerMusigPk takerMusigPk = .ok keyAggCtx ∧
      payoutData.aggregatedMusigPubkeyCtxHex = Hex.encode (P.keyAggToBytes keyAggCtx)
  /-- What the partial signatures are aggregated with. -/
  aggregated : ∀ makerSig takerSig makerNonce takerNonce keyspendPsbt
    (keyspendContext : KeyspendContext P),
    KeyspendContext.fromHexStr makerSig takerSig makerNonce takerNonce makerMusigPk takerMusigPk
      keyspendPsbt descriptor = .ok keyspendContext →
    payoutKey P descriptor makerMusigPk takerMusigPk = .ok keyspendContext.aggKeyspendPk

theorem payoutKey_of_newFromStrings {descriptor makerMusigPk takerMusigPk payoutAddressMaker
    payoutAddressTaker musigPubNonceMaker musigPubNonceTaker : String}
    {payoutAmountMaker payoutAmountTaker : UInt64} {payoutData : PayoutData P}
    (assembled : PayoutData.newFromStrings descriptor payoutAddressMaker payoutAddressTaker
      payoutAmountMaker payoutAmountTaker musigPubNonceMaker musigPubNonceTaker makerMusigPk
      takerMusigPk = .ok payoutData) :
    ∃ keyAggCtx, payoutKey P descriptor makerMusigPk takerMusigPk = .ok keyAggCtx ∧
      payoutData.aggregatedMusigPubkeyCtxHex = Hex.encode (P.keyAggToBytes keyAggCtx) := by
  obtain ⟨tweak, tweaks, assembled⟩ := bind_eq_ok.mp assembled
  obtain ⟨keyAggCtx, aggregates, assembled⟩ := bind_eq_ok.mp assembled
  refine ⟨keyAggCtx, bind_eq_ok.mpr ⟨tweak, tweaks, aggregates⟩, ?_⟩
  obtain ⟨aggMusigNonce, -, assembled⟩ := bind_eq_ok.mp assembled
  obtain ⟨escrowOutputDescriptor, -, assembled⟩ := bind_eq_ok.mp assembled
  obtain ⟨addressMaker, -, assembled⟩ := bind_eq_ok.mp assembled
  obtain ⟨addressTaker, -, assembled⟩ := bind_eq_ok.mp assembled
  cases assembled
  rfl

theorem payoutKey_of_fromHexStr {descriptor makerMusigPk takerMusigPk makerSig takerSig makerNonce
    takerNonce keyspendPsbt : String} {keyspendContext : KeyspendContext P}
    (aggregated : KeyspendContext.fromHexStr makerSig takerSig makerNonce takerNonce makerMusigPk
      takerMusigPk keyspendPsbt descriptor = .ok keyspendContext) :
    payoutKey P descriptor makerMusigPk takerMusigPk = .ok keyspendContext.aggKeyspendPk := by
  obtain ⟨tweak, tweaks, aggregated⟩ := bind_eq_ok.mp aggregated
  obtain ⟨keyAggCtx, aggregates, aggregated⟩ := bind_eq_ok.mp aggregated
  have key : keyspendContext.aggKeyspendPk = keyAggCtx := by
    obtain ⟨aggNonce, -, aggregated⟩ := bind_eq_ok.mp aggregated
    obtain ⟨bytes, -, aggregated⟩ := bind_eq_ok.mp aggregated
    obtain ⟨psbt, -, aggregated⟩ := bind_eq_ok.mp aggregated
    obtain ⟨partialMakerSig, -, aggregated⟩ := bind_eq_ok.mp aggregated
    obtain ⟨partialTakerSig, -, aggregated⟩ := bind_eq_ok.mp aggregated
    obtain ⟨msg, -, aggregated⟩ := bind_eq_ok.mp aggregated
    obtain ⟨aggSig, -, aggregated⟩ := bind_eq_ok.mp aggregated
    cases aggregated
    rfl
  rw [key]
  exact bind_eq_ok.mpr ⟨tweak, tweaks, aggregates⟩

variable {keys : XOnlyKeys G P.XOnlyPublicKey} {generator : G} {scalar? : Bytes → Option R}
  {scalar : P.MusigScalar → R} {aggregate : P.KeyAggContext → KeyAggregate G R}

/-- Tweaking the aggregate gives the output key of its x-only key, or nothing if there is none. -/
theorem KeyLaws.tweaked (laws : KeyLaws P keys generator scalar? scalar aggregate)
    {keyAggCtx : P.KeyAggContext} {internalKey : P.XOnlyPublicKey} (tweak : Bytes)
    (internal : P.aggregatedXonly keyAggCtx = some internalKey) :
    ((P.musigScalarFromBeBytes tweak).bind (P.keyAggWithXonlyTweak keyAggCtx)).bind
        P.aggregatedXonly =
      (scalar? tweak).bind (keys.outputKey generator internalKey) := by
  rw [← laws.musigScalarFromBeBytes]
  cases P.musigScalarFromBeBytes tweak with
  | none => rfl
  | some musigScalar =>
      rw [laws.aggregatedXonly] at internal
      rw [Option.map_some, Option.bind_some, Option.bind_some, ← XOnlyKeys.x_applyTweak internal,
        ← laws.keyAggWithXonlyTweak]
      cases P.keyAggWithXonlyTweak keyAggCtx musigScalar with
      | none => rfl
      | some tweaked => exact laws.aggregatedXonly tweaked

theorem toOption_aggregateMusigPubkeysWithTweak {makerMusigPk takerMusigPk : String}
    {keyAggCtx : P.KeyAggContext}
    (aggregated : aggregateMusigPubkeys makerMusigPk takerMusigPk = .ok keyAggCtx) (tweak : Bytes) :
    (aggregateMusigPubkeysWithTweak (P := P) makerMusigPk takerMusigPk tweak).toOption =
      (P.musigScalarFromBeBytes tweak).bind (P.keyAggWithXonlyTweak keyAggCtx) := by
  rw [aggregateMusigPubkeysWithTweak, aggregated]
  unfold parse
  cases P.musigScalarFromBeBytes tweak with
  | none => rfl
  | some musigScalar =>
      dsimp only [bind, Except.bind]
      rw [Option.bind_some]
      cases P.keyAggWithXonlyTweak keyAggCtx musigScalar with
      | none => rfl
      | some tweaked => rfl

/-- The stored descriptor of an escrow leads back to its output key. -/
theorem BuiltDescriptor.xonly_payoutKey
    (laws : KeyLaws P keys generator scalar? scalar aggregate)
    {maker taker : EscrowPsbtConstructionData P} {coordinatorPk : P.XOnlyPublicKey}
    {descriptor : P.EscrowDescriptor}
    (built : BuiltDescriptor P maker taker coordinatorPk descriptor) :
    (payoutKey P (P.descriptorToString descriptor) maker.musigPubkeyCompressedHex
      taker.musigPubkeyCompressedHex).toOption.bind P.aggregatedXonly =
      taprootOutputKey keys generator scalar? descriptor := by
  have parsesBack := laws.roundTrip descriptor built.sane
  let tree := some (escrowTree built.a built.b built.c built.d)
  have is_tr : descriptor = .tr built.internalKey tree := built.eq
  have tweaks : getKeyspendTweakScalar (P := P) (P.descriptorToString descriptor) =
      .ok (P.tapTweak built.internalKey tree) := getKeyspendTweakScalar_tr (is_tr ▸ parsesBack)
  have key : payoutKey P (P.descriptorToString descriptor) maker.musigPubkeyCompressedHex
      taker.musigPubkeyCompressedHex = aggregateMusigPubkeysWithTweak maker.musigPubkeyCompressedHex
        taker.musigPubkeyCompressedHex (P.tapTweak built.internalKey tree) := by
    rw [payoutKey, tweaks]
    rfl
  have output : taprootOutputKey keys generator scalar? descriptor =
      (scalar? (P.tapTweak built.internalKey tree)).bind
        (keys.outputKey generator built.internalKey) :=
    congrArg (taprootOutputKey keys generator scalar?) is_tr
  rw [key, toOption_aggregateMusigPubkeysWithTweak built.aggregated, laws.tweaked _ built.internal,
    output]

/-- An aggregate that could be tweaked has an x-only key. -/
theorem exists_xonly_of_payoutKey (laws : KeyLaws P keys generator scalar? scalar aggregate)
    {descriptor makerMusigPk takerMusigPk : String} {keyAggCtx : P.KeyAggContext}
    (aggregated : payoutKey P descriptor makerMusigPk takerMusigPk = .ok keyAggCtx) :
    ∃ xonly, P.aggregatedXonly keyAggCtx = some xonly := by
  obtain ⟨tweak, -, aggregated⟩ := bind_eq_ok.mp aggregated
  obtain ⟨musigScalar, -, aggregated⟩ := bind_eq_ok.mp aggregated
  obtain ⟨untweaked, -, tweaked⟩ := bind_eq_ok.mp aggregated
  have applied := laws.keyAggWithXonlyTweak untweaked musigScalar
  rw [parse_eq_ok.mp tweaked] at applied
  rw [laws.aggregatedXonly]
  exact XOnlyKeys.exists_x_of_applyTweak applied.symm

/-- Whenever the descriptor of an escrow could be built, the key of the payout from the stored texts
    is the same for the traders and for the aggregation, and its x-only key is the output key of the
    descriptor, to which the escrow is locked. -/
theorem payoutKey_of_escrow (P : Platform) (keys : XOnlyKeys G P.XOnlyPublicKey) (generator : G)
    (scalar? : Bytes → Option R) (scalar : P.MusigScalar → R)
    (aggregate : P.KeyAggContext → KeyAggregate G R)
    (laws : KeyLaws P keys generator scalar? scalar aggregate)
    (maker taker : EscrowPsbtConstructionData P) (coordinatorPk : P.XOnlyPublicKey)
    (descriptor : P.EscrowDescriptor)
    (builds : buildEscrowTransactionOutputDescriptor maker taker coordinatorPk = .ok descriptor) :
    PayoutKey P (P.descriptorToString descriptor) maker.musigPubkeyCompressedHex
        taker.musigPubkeyCompressedHex (taprootOutputKey keys generator scalar? descriptor) ∧
      ∀ keyAggCtx, payoutKey P (P.descriptorToString descriptor) maker.musigPubkeyCompressedHex
          taker.musigPubkeyCompressedHex = .ok keyAggCtx →
        ∃ xonly, P.aggregatedXonly keyAggCtx = some xonly ∧
          P.descriptorAddress descriptor = some (0x51 :: 0x20 :: P.xonlySerialize xonly) := by
  obtain ⟨built⟩ := buildEscrowTransactionOutputDescriptor_ok builds
  have xonly_eq := built.xonly_payoutKey laws
  refine ⟨⟨xonly_eq, ?_, ?_⟩, ?_⟩
  · intro _ _ _ _ _ _ payoutData assembled
    exact payoutKey_of_newFromStrings assembled
  · intro _ _ _ _ _ keyspendContext aggregated
    exact payoutKey_of_fromHexStr aggregated
  · intro keyAggCtx aggregated
    obtain ⟨xonly, known⟩ := exists_xonly_of_payoutKey laws aggregated
    refine ⟨xonly, known, ?_⟩
    rw [aggregated] at xonly_eq
    have output : taprootOutputKey keys generator scalar? descriptor = some xonly :=
      xonly_eq.symm.trans known
    have address : P.descriptorAddress descriptor =
        (taprootOutputKey keys generator scalar? descriptor).map fun key =>
          0x51 :: 0x20 :: P.xonlySerialize key := by
      rw [built.eq]
      exact laws.descriptorAddress _ _
    rw [address, output]
    rfl

end Aggregate

namespace Sample

/-- The integers as points: a point and its negative share their absolute value, in unary. -/
def integerKeys : XOnlyKeys ℤ Bytes where
  x p := if p = 0 then none else some (List.replicate p.natAbs 1)
  hasEvenY p := decide (0 < p)
  lift key := if key ≠ [] ∧ key = List.replicate key.length 1 then some key.length else none
  x_eq_none p := by simp
  x_neg p := by simp
  hasEvenY_neg p finite := by
    rw [← decide_not, decide_eq_decide]
    omega
  lift_eq_some key p := by
    constructor
    · intro lifted
      obtain ⟨⟨nonempty, unary⟩, same⟩ := Option.ite_none_right_eq_some.mp lifted
      cases same
      have positive := List.length_pos_iff.mpr nonempty
      rw [if_neg (by omega), Int.natAbs_natCast, ← unary]
      exact ⟨rfl, decide_eq_true (by omega)⟩
    · rintro ⟨known, even⟩
      obtain ⟨finite, same⟩ := Option.ite_none_left_eq_some.mp known
      cases same
      have positive := of_decide_eq_true even
      have nonempty : List.replicate p.natAbs (1 : UInt8) ≠ [] := by
        rw [← List.length_pos_iff, List.length_replicate]
        omega
      rw [List.length_replicate, if_pos ⟨nonempty, rfl⟩, Int.natAbs_of_nonneg (by omega)]

/-- The descriptor of keys whose aggregate is the point -5. -/
def integerDescriptor : EscrowDescriptor :=
  .tr (List.replicate 5 1) (some (escrowTree (policyA makerPk coordinatorPk)
    (policyB takerPk coordinatorPk) (policyC makerPk) (policyD makerPk takerPk)))

def integerScalar? (bytes : Bytes) : Option ℤ :=
  if bytes.length = 32 then some (bytes.headD 0).toNat else none

end Sample

open Sample in
/-- The platform of one trade, over the integers. -/
def Platform.integers : Platform :=
  { Platform.sample with
    MusigPubKey := ℤ
    MusigScalar := ℤ
    KeyAggContext := KeyAggregate ℤ ℤ
    musigPubKeyFromStr := fun text =>
      if text = makerMusigPk then some 3 else if text = takerMusigPk then some (-8) else none
    keyAggNew := fun maker taker =>
      if maker + taker = 0 then none else some ⟨maker + taker, 1, 0⟩
    musigScalarFromBeBytes := integerScalar?
    keyAggWithXonlyTweak := fun keyAggCtx musigScalar =>
      integerKeys.applyTweak 1 keyAggCtx musigScalar true
    aggregatedXonly := fun keyAggCtx => integerKeys.x keyAggCtx.point
    keyAggToBytes := fun keyAggCtx => List.replicate keyAggCtx.point.natAbs 2
    aggregatePartialSignatures := fun _ _ signatures _ => some signatures
    descriptorIsSane := fun (other : Sample.EscrowDescriptor) => decide (other = integerDescriptor)
    descriptorToString := fun _ => "tr()"
    descriptorFromStr := fun text => if text = "tr()" then some integerDescriptor else none
    descriptorAddress := fun
      | .tr internalKey _ => (integerKeys.outputKey 1 internalKey (7 : ℤ)).map fun key =>
          0x51 :: 0x20 :: key
      | .other _ => none }

instance : DecidableEq Platform.integers.EscrowDescriptor :=
  inferInstanceAs (DecidableEq Sample.EscrowDescriptor)

namespace Sample

theorem eq_of_sane {descriptor : EscrowDescriptor}
    (sane : Platform.integers.descriptorIsSane descriptor = true) :
    descriptor = integerDescriptor := of_decide_eq_true sane

theorem keyLaws_integers :
    KeyLaws Platform.integers integerKeys (1 : ℤ) integerScalar? (fun musigScalar => musigScalar)
      (fun keyAggCtx => keyAggCtx) where
  musigScalarFromBeBytes _ := Option.map_id'
  keyAggWithXonlyTweak _ _ := Option.map_id'
  aggregatedXonly _ := rfl
  descriptorAddress _ _ := rfl
  roundTrip descriptor sane := by
    cases eq_of_sane sane
    rfl

def integerEscrowData (taprootXonlyPubkeyHex musigPubkeyCompressedHex : String) :
    EscrowPsbtConstructionData Platform.integers where
  taprootXonlyPubkeyHex
  escrowInputUtxos := []
  changeAddress := makerAddress
  musigPubkeyCompressedHex

end Sample

theorem payoutKey_of_escrow_sample :
    PayoutKey Platform.integers "tr()" Sample.makerMusigPk Sample.takerMusigPk
        (taprootOutputKey (P := Platform.integers) Sample.integerKeys (1 : ℤ) Sample.integerScalar?
          Sample.integerDescriptor) ∧
      ∀ keyAggCtx, payoutKey Platform.integers "tr()" Sample.makerMusigPk Sample.takerMusigPk =
          .ok keyAggCtx →
        ∃ xonly, Platform.integers.aggregatedXonly keyAggCtx = some xonly ∧
          Platform.integers.descriptorAddress Sample.integerDescriptor =
            some (0x51 :: 0x20 :: Platform.integers.xonlySerialize xonly) := by
  apply payoutKey_of_escrow Platform.integers Sample.integerKeys 1 Sample.integerScalar? _ _
    Sample.keyLaws_integers (Sample.integerEscrowData Sample.makerPk Sample.makerMusigPk)
    (Sample.integerEscrowData Sample.takerPk Sample.takerMusigPk) Sample.coordinatorKey
  decide +kernel

end TapTrade
