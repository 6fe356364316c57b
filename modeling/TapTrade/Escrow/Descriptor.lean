import Mathlib.Data.Finset.Card
import TapTrade.Model.Sample

/-! # Who can spend the escrow

The escrow output can be spent by its internal key, the aggregate of the keys of maker
and taker, or by one of the four leaves compiled from the policies. The lock times of the
policies are absolute heights, so they protect the escrow only near the start of the
chain: from some height of confirmation on the leaf of the maker alone is open from the
beginning.
-/

namespace TapTrade

open Spending

variable {P : Platform}

/-- The leaf was compiled from the text of the policy. -/
def CompiledFrom (P : Platform) (policy : Policy String) (leaf : P.Miniscript) : Prop :=
  ∃ concrete, P.concreteFromStr (policyText policy) = some concrete ∧
    P.compileTap concrete = some leaf

/-- The four policies of an escrow, in the order of its leaves. -/
def escrowPolicies (makerPk takerPk coordinatorPk : String) : List (Policy String) :=
  [policyA makerPk coordinatorPk, policyB takerPk coordinatorPk, policyD makerPk takerPk,
    policyC makerPk]

/-- The tree of the four leaves. -/
def escrowTree {Leaf : Type} (a b c d : Leaf) : TapTree Leaf :=
  .tree (.tree (.leaf a) (.leaf b)) (.tree (.leaf d) (.leaf c))

/-- What a descriptor is when it could be built. -/
structure BuiltDescriptor (P : Platform) (maker taker : EscrowPsbtConstructionData P)
    (coordinatorPk : P.XOnlyPublicKey) (descriptor : P.EscrowDescriptor) where
  keyAggCtx : P.KeyAggContext
  internalKey : P.XOnlyPublicKey
  a : P.Miniscript
  b : P.Miniscript
  c : P.Miniscript
  d : P.Miniscript
  aggregated : aggregateMusigPubkeys maker.musigPubkeyCompressedHex taker.musigPubkeyCompressedHex =
    .ok keyAggCtx
  internal : P.aggregatedXonly keyAggCtx = some internalKey
  compiledA : CompiledFrom P (policyA maker.taprootXonlyPubkeyHex
    (Hex.encode (P.xonlySerialize coordinatorPk))) a
  compiledB : CompiledFrom P (policyB taker.taprootXonlyPubkeyHex
    (Hex.encode (P.xonlySerialize coordinatorPk))) b
  compiledC : CompiledFrom P (policyC maker.taprootXonlyPubkeyHex) c
  compiledD : CompiledFrom P (policyD maker.taprootXonlyPubkeyHex taker.taprootXonlyPubkeyHex) d
  eq : descriptor = .tr internalKey (some (escrowTree a b c d))
  sane : P.descriptorIsSane descriptor = true

theorem parsePolicy_eq_ok {which : String} {policy : Policy String} {concrete : P.Concrete} :
    parsePolicy P which policy = .ok concrete ↔
      P.concreteFromStr (policyText policy) = some concrete := by
  simp [parsePolicy]

theorem compilePolicy_eq_ok {which : String} {concrete : P.Concrete} {leaf : P.Miniscript} :
    compilePolicy P which concrete = .ok leaf ↔ P.compileTap concrete = some leaf := by
  simp [compilePolicy]

/-- The construction of the descriptor, read backwards. -/
theorem buildEscrowTransactionOutputDescriptor_ok {maker taker : EscrowPsbtConstructionData P}
    {coordinatorPk : P.XOnlyPublicKey} {descriptor : P.EscrowDescriptor}
    (built : buildEscrowTransactionOutputDescriptor maker taker coordinatorPk = .ok descriptor) :
    Nonempty (BuiltDescriptor P maker taker coordinatorPk descriptor) := by
  unfold buildEscrowTransactionOutputDescriptor at built
  simp only [bind_eq_ok, parsePolicy_eq_ok, compilePolicy_eq_ok, withContext_eq_ok,
    parse_eq_ok] at built
  obtain ⟨pa, parsedA, pb, parsedB, pc, parsedC, pd, parsedD, a, compiledA, b, compiledB, c,
    compiledC, d, compiledD, ctx, aggregated, key, internal, rest⟩ := built
  split at rest
  case isFalse => cases rest
  case isTrue sane =>
    cases rest
    exact ⟨⟨ctx, key, a, b, c, d, aggregated, internal, ⟨pa, parsedA, compiledA⟩,
      ⟨pb, parsedB, compiledB⟩, ⟨pc, parsedC, compiledC⟩, ⟨pd, parsedD, compiledD⟩, rfl, sane⟩⟩

theorem getKeyspendTweakScalar_tr {text : String} {internalKey : P.XOnlyPublicKey}
    {tree : Option (TapTree P.Miniscript)}
    (parsed : P.descriptorFromStr text = some (.tr internalKey tree)) :
    getKeyspendTweakScalar (P := P) text = .ok (P.tapTweak internalKey tree) := by
  simp only [getKeyspendTweakScalar, bind_eq_ok, parse_eq_ok]
  exact ⟨_, parsed, rfl⟩

/-- The parties of a trade. -/
inductive Party where
  | maker
  | taker
  | coordinator
  deriving DecidableEq, Repr

/-- The keys of the parties in the policies. -/
def partyKey (maker taker : EscrowPsbtConstructionData P) (coordinatorPk : P.XOnlyPublicKey) :
    Party → String
  | .maker => maker.taprootXonlyPubkeyHex
  | .taker => taker.taprootXonlyPubkeyHex
  | .coordinator => Hex.encode (P.xonlySerialize coordinatorPk)

/-- A spend of the output at a height, by the signatures of the signers. The internal key
    needs both traders. -/
def Spends (satisfied : P.Miniscript → (String → Prop) → Nat → Prop) (keyOf : Party → String)
    (descriptor : P.EscrowDescriptor) (signers : Finset Party) (height : Nat) : Prop :=
  ∃ internalKey tree, descriptor = .tr internalKey (some tree) ∧
    tree.Spendable (.maker ∈ signers ∧ .taker ∈ signers) fun leaf =>
      satisfied leaf (fun key => ∃ party ∈ signers, keyOf party = key) height

/-- No single party can spend an output confirmed at the given height in the first 2048
    blocks. -/
def Protected (satisfied : P.Miniscript → (String → Prop) → Nat → Prop) (keyOf : Party → String)
    (descriptor : P.EscrowDescriptor) (confirmed : Nat) : Prop :=
  ∀ height, confirmed ≤ height → height < confirmed + 2048 → ∀ signers : Finset Party,
    Spends satisfied keyOf descriptor signers height → 2 ≤ signers.card

section Protection

variable {maker taker : EscrowPsbtConstructionData P} {coordinatorPk : P.XOnlyPublicKey}
  {descriptor : P.EscrowDescriptor} {satisfied : P.Miniscript → (String → Prop) → Nat → Prop}

/-- Two different keys of a policy belong to two signers. -/
theorem two_le_card_of_keys {policy : Policy String} {key key' : String} {height : Nat}
    {signers : Finset Party} {keyOf : Party → String} (keys : policy.keys = [key, key'])
    (different : key ≠ key')
    (spent : policy.Satisfied (fun key => ∃ party ∈ signers, keyOf party = key) height) :
    2 ≤ signers.card := by
  have enough := spent.card_le
  rw [keys, List.toFinset_card_of_nodup (by simp [different])] at enough
  exact enough

/-- The escrow is protected from its traders for 2048 blocks iff these end before the
    lock time of the maker does. The leaves are assumed to mean what their policies say. -/
theorem escrow_protected_iff
    (built : buildEscrowTransactionOutputDescriptor maker taker coordinatorPk = .ok descriptor)
    (preserves : ∀ policy ∈ escrowPolicies maker.taprootXonlyPubkeyHex taker.taprootXonlyPubkeyHex
      (Hex.encode (P.xonlySerialize coordinatorPk)), ∀ leaf, CompiledFrom P policy leaf →
        ∀ signed height, satisfied leaf signed height ↔ policy.Satisfied signed height)
    (distinct : [maker.taprootXonlyPubkeyHex, taker.taprootXonlyPubkeyHex,
      Hex.encode (P.xonlySerialize coordinatorPk)].Nodup) (confirmed : Nat) :
    Protected satisfied (partyKey maker taker coordinatorPk) descriptor confirmed ↔
      confirmed + 2047 ≤ 12228 := by
  obtain ⟨out⟩ := buildEscrowTransactionOutputDescriptor_ok built
  simp only [escrowPolicies, List.forall_mem_cons] at preserves
  obtain ⟨leafA, leafB, leafD, leafC, -⟩ := preserves
  simp only [List.nodup_cons, List.mem_cons, List.not_mem_nil, or_false, not_or] at distinct
  obtain ⟨⟨makerTaker, makerCoordinator⟩, takerCoordinator, -⟩ := distinct
  constructor
  · intro isProtected
    by_contra late
    have alone : Spends satisfied (partyKey maker taker coordinatorPk) descriptor {.maker}
        (confirmed + 2047) := by
      refine ⟨out.internalKey, _, out.eq, .inr ⟨out.c, by simp [escrowTree, TapTree.leaves], ?_⟩⟩
      refine (leafC _ out.compiledC _ _).mpr ⟨⟨.maker, by simp, rfl⟩, ?_⟩
      change 12228 < confirmed + 2047
      omega
    have enough := isProtected (confirmed + 2047) (by omega) (by omega) {.maker} alone
    simp at enough
  · intro early height _ soon signers spent
    obtain ⟨internalKey, tree, same, path⟩ := spent
    cases out.eq.symm.trans same
    rcases path with ⟨byMaker, byTaker⟩ | ⟨leaf, member, spent⟩
    · exact Finset.one_lt_card.mpr ⟨.maker, byMaker, .taker, byTaker, by decide⟩
    simp only [escrowTree, TapTree.leaves, List.mem_append, List.mem_singleton] at member
    rcases member with (rfl | rfl) | rfl | rfl
    · exact two_le_card_of_keys rfl makerCoordinator ((leafA _ out.compiledA _ _).mp spent)
    · exact two_le_card_of_keys rfl takerCoordinator ((leafB _ out.compiledB _ _).mp spent)
    · exact two_le_card_of_keys rfl makerTaker ((leafD _ out.compiledD _ _).mp spent)
    · have passed : 12228 < height :=
        ((leafC _ out.compiledC _ _).mp spent).lock_lt (by simp [policyC, Policy.locks])
      omega

end Protection

namespace Sample

def makerEscrowData : EscrowPsbtConstructionData .sample where
  taprootXonlyPubkeyHex := makerPk
  escrowInputUtxos := []
  changeAddress := makerAddress
  musigPubkeyCompressedHex := makerMusigPk

def takerEscrowData : EscrowPsbtConstructionData .sample where
  taprootXonlyPubkeyHex := takerPk
  escrowInputUtxos := []
  changeAddress := takerAddress
  musigPubkeyCompressedHex := takerMusigPk

/-- The leaves of the sample are policies, which mean what they say. -/
def leafSatisfied (leaf : Policy String) (signed : String → Prop) (height : Nat) : Prop :=
  leaf.Satisfied signed height

theorem descriptor_built : buildEscrowTransactionOutputDescriptor makerEscrowData takerEscrowData
    coordinatorKey = .ok descriptor := by
  decide +kernel

theorem leafSatisfied_iff : ∀ policy ∈ escrowPolicies makerPk takerPk
    (Hex.encode coordinatorKey), ∀ leaf, CompiledFrom .sample policy leaf →
      ∀ signed height, leafSatisfied leaf signed height ↔ policy.Satisfied signed height := by
  have found : ∀ policy ∈ escrowPolicies makerPk takerPk (Hex.encode coordinatorKey),
      (policies.find? fun other => policyText other = policyText policy) = some policy := by
    decide +kernel
  rintro policy member leaf ⟨concrete, parsed, compiled⟩ signed height
  cases (found policy member).symm.trans parsed
  cases compiled
  rfl

end Sample

/-- An escrow confirmed at height 10000 is protected. -/
theorem escrow_protected_iff_sample :
    Protected (P := .sample) Sample.leafSatisfied
      (partyKey Sample.makerEscrowData Sample.takerEscrowData Sample.coordinatorKey)
      Sample.descriptor 10000 ↔ 10000 + 2047 ≤ 12228 :=
  escrow_protected_iff Sample.descriptor_built Sample.leafSatisfied_iff (by decide +kernel) 10000

/-- An escrow confirmed at height 840000 is open to the maker at once. -/
theorem escrow_open_to_maker :
    ¬ Protected (P := .sample) Sample.leafSatisfied
      (partyKey Sample.makerEscrowData Sample.takerEscrowData Sample.coordinatorKey)
      Sample.descriptor 840000 := by
  intro isProtected
  have alone : Spends (P := .sample) Sample.leafSatisfied
      (partyKey Sample.makerEscrowData Sample.takerEscrowData Sample.coordinatorKey)
      Sample.descriptor {.maker} 840000 := by
    refine ⟨_, _, rfl, .inr ⟨policyC Sample.makerPk, ?_, ⟨.maker, by simp, rfl⟩, ?_⟩⟩
    · exact List.mem_append_right _ (List.mem_append_right _ (List.mem_singleton.mpr rfl))
    · change 12228 < 840000
      omega
  have enough := isProtected 840000 (by omega) (by omega) {.maker} alone
  simp at enough

end TapTrade
