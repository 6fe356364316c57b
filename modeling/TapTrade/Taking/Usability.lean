import TapTrade.Escrow.Descriptor
import TapTrade.Model.Frame

/-! # What the payout needs of a taken offer

The payout parses nine strings that two handlers have collected. The construction of the
escrow has forced the musig keys and the descriptor to parse; nobody has looked at the
payout addresses and the nonces. So a taken offer can be paid out iff these four parse.
-/

namespace TapTrade

open Relational Resumption

variable {ι : Type} {P : Platform}

/-- What is documented of descriptors: a sane one is printed so that it parses back, and
    the key of one that has an address can be tweaked. -/
structure DescriptorLaws (P : Platform) : Prop where
  roundTrip : ∀ descriptor, P.descriptorIsSane descriptor = true →
    P.descriptorFromStr (P.descriptorToString descriptor) = some descriptor
  tweakable : ∀ keyAggCtx internalKey tree, P.aggregatedXonly keyAggCtx = some internalKey →
    P.descriptorAddress (.tr internalKey tree) ≠ none →
      ∃ scalar tweaked, P.musigScalarFromBeBytes (P.tapTweak internalKey tree) = some scalar ∧
        P.keyAggWithXonlyTweak keyAggCtx scalar = some tweaked

/-- The descriptor and the musig keys parse as the payout parses them. -/
def Forced (P : Platform) (descriptorText musigMaker musigTaker : String) : Prop :=
  ∃ tweak aggregated descriptor, getKeyspendTweakScalar (P := P) descriptorText = .ok tweak ∧
    aggregateMusigPubkeysWithTweak (P := P) musigMaker musigTaker tweak = .ok aggregated ∧
    P.descriptorFromStr descriptorText = some descriptor

/-- What the payout needs of a row, and the construction of its escrow has established. -/
def TakenOffer.Forced (P : Platform) (row : TakenOffer) : Prop :=
  TapTrade.Forced P (Column.text row.escrowOutputDescriptor) row.musigPubkeyCompressedHexMaker
    row.musigPubkeyCompressedHexTaker

/-- The strings that nobody parses before the payout do parse, the addresses for regtest. -/
structure PayoutParses (P : Platform) (row : TakenOffer) : Prop where
  musigPubNonceMaker : ∃ nonce, P.musigPubNonceFromHex row.musigPubNonceHexMaker = some nonce
  musigPubNonceTaker : ∃ nonce, P.musigPubNonceFromHex row.musigPubNonceHexTaker = some nonce
  payoutAddressMaker : ∃ address, P.addressFromStr row.payoutAddressMaker = some address ∧
    P.isValidForRegtest address = true
  payoutAddressTaker : ∃ address, P.addressFromStr row.payoutAddressTaker = some address ∧
    P.isValidForRegtest address = true

theorem regtestAddress_eq_ok {text input : String} {address : P.Address} :
    regtestAddress text input = .ok address ↔
      P.addressFromStr input = some address ∧ P.isValidForRegtest address = true := by
  simp only [regtestAddress, bind_eq_ok, parse_eq_ok]
  constructor
  · rintro ⟨unchecked, parsed, rest⟩
    split at rest
    case isTrue valid =>
      cases rest
      exact ⟨parsed, valid⟩
    case isFalse => cases rest
  · rintro ⟨parsed, valid⟩
    exact ⟨address, parsed, by rw [if_pos valid]; rfl⟩

/-- Of a row whose escrow was built, the payout data can be read iff the other strings parse. -/
theorem payoutData_ok_iff {row : TakenOffer} (forced : row.Forced P) :
    (∃ data, row.payoutData P = .ok data) ↔ PayoutParses P row := by
  obtain ⟨tweak, aggregated, descriptor, tweakOk, aggregatedOk, descriptorOk⟩ := forced
  simp only [TakenOffer.payoutData, PayoutData.newFromStrings, aggHexMusigNonces, bind_eq_ok,
    withContext_eq_ok, parse_eq_ok, regtestAddress_eq_ok]
  constructor
  · rintro ⟨data, _, -, _, -, _, ⟨maker, makerOk, taker, takerOk, -⟩, _, -, makerAddress,
      makerAddressOk, takerAddress, takerAddressOk, -⟩
    exact ⟨⟨maker, makerOk⟩, ⟨taker, takerOk⟩, ⟨makerAddress, makerAddressOk⟩,
      ⟨takerAddress, takerAddressOk⟩⟩
  · rintro ⟨⟨maker, makerOk⟩, ⟨taker, takerOk⟩, ⟨makerAddress, makerAddressOk⟩,
      ⟨takerAddress, takerAddressOk⟩⟩
    exact ⟨_, tweak, tweakOk, aggregated, aggregatedOk, _, ⟨maker, makerOk, taker, takerOk, rfl⟩,
      descriptor, descriptorOk, makerAddress, makerAddressOk, takerAddress, takerAddressOk, rfl⟩

/-- A descriptor that was built and has an address is forced to parse, with its keys. -/
theorem BuiltDescriptor.forced {maker taker : EscrowPsbtConstructionData P}
    {coordinatorPk : P.XOnlyPublicKey} {descriptor : P.EscrowDescriptor} {script : Bytes}
    (laws : DescriptorLaws P) (built : BuiltDescriptor P maker taker coordinatorPk descriptor)
    (address : P.descriptorAddress descriptor = some script) :
    Forced P (P.descriptorToString descriptor) maker.musigPubkeyCompressedHex
      taker.musigPubkeyCompressedHex := by
  have parsesBack := laws.roundTrip descriptor built.sane
  obtain ⟨scalar, tweaked, scalarOk, tweakedOk⟩ := laws.tweakable built.keyAggCtx built.internalKey
    (some (escrowTree built.a built.b built.c built.d)) built.internal
    (by rw [← built.eq, address]; simp)
  refine ⟨P.tapTweak built.internalKey (some (escrowTree built.a built.b built.c built.d)), tweaked,
    descriptor, ?_, ?_, parsesBack⟩
  · exact getKeyspendTweakScalar_tr (built.eq ▸ parsesBack)
  · simp only [aggregateMusigPubkeysWithTweak, bind_eq_ok, parse_eq_ok]
    exact ⟨scalar, scalarOk, built.keyAggCtx, built.aggregated, tweakedOk⟩

section Safe

open Call

variable {inv : Invariant (coordinator P)} {condition : List Database → Prop}
  {past : List Database} {log : Log (coordinator P)}

/-- The construction of an escrow acts five times. The first time it reads the offer, and
    the musig keys of offer and request go into a descriptor that parses. -/
theorem safe_createEscrowPsbt (laws : DescriptorLaws P) {payload : OfferPsbtRequest}
    {post : Post (coordinator P) EscrowPsbt}
    (ends : ∀ escrow read row db₁ db₂ db₃ db₄ log', log <+: log' →
      read.activeMakerOffers.find? payload.offer.offerIdHex = some row →
      Forced P escrow.escrowOutputDescriptor row.musigPubkeyHex payload.tradeData.musigPubkeyHex →
      post escrow (past ++ [read, db₁, db₂, db₃, db₄]) log') :
    (createEscrowPsbt payload).Safe inv condition post past log := by
  refine Safe.since (Safe.bind (Safe.bind (safe_fetchOne fun read _ row _ _ _ found => ?_)))
  refine Safe.bind (safe_ofExcept fun makerInputs _ _ _ => ?_)
  refine Safe.bind (safe_ofExcept fun makerChange _ _ _ => safe_pure fun _ _ => ?_)
  refine Safe.bind (Safe.bind (safe_ofExcept fun takerInputs _ _ _ => ?_))
  refine Safe.bind (safe_ofExcept fun takerChange _ _ _ => safe_pure fun _ _ => ?_)
  refine Safe.bind (safe_tryAsk fun db₁ _ _ coordinatorPk _ _ _ _ _ _ => ?_)
  refine Safe.bind (safe_ofExcept fun descriptor built _ _ => ?_)
  refine Safe.bind (safe_tryAsk fun db₂ _ _ feeText _ _ _ _ _ _ => ?_)
  refine Safe.bind (safe_ofExcept fun feeAddress _ _ _ => ?_)
  refine Safe.bind (Safe.bind (safe_fetchOne fun db₃ _ amountRow _ _ _ _ => ?_))
  refine Safe.bind (safe_unwrap fun amount _ _ _ => Safe.bind (safe_unwrap fun bond _ _ _ => ?_))
  refine safe_pure fun _ _ => Safe.bind (safe_ofExcept fun script address _ _ => ?_)
  refine Safe.bind (safe_inputSum fun _ _ _ => Safe.bind (safe_changeAmount fun _ _ _ => ?_))
  refine Safe.bind (safe_inputSum fun _ _ _ => Safe.bind (safe_changeAmount fun _ _ _ => ?_))
  refine Safe.bind (safe_checked fun _ _ => Safe.bind (safe_checked fun _ _ => ?_))
  refine Safe.bind (safe_tryAsk fun db₄ _ _ tx _ reached _ _ _ asked => ?_)
  refine safe_pure fun log₂ more => ?_
  obtain ⟨builtDescriptor⟩ := buildEscrowTransactionOutputDescriptor_ok built
  have forced := builtDescriptor.forced laws (parse_eq_ok.mp address)
  have grown : log <+: log₂ :=
    reached.2.trans ((List.prefix_append _ _).trans (asked.trans more))
  simpa using ends _ read row db₁ db₂ db₃ db₄ log₂ grown found forced

end Safe

/-- Every taken offer has an escrow whose descriptor and musig keys parse. -/
def Usable (P : Platform) (db : Database) : Prop :=
  ∀ offerId row, db.takenOffers.find? offerId = some row → row.Forced P

namespace Usable

variable {db after : Database}

theorem trading (usable : Usable P db) (trading : db.Trading after) : Usable P after := by
  intro offerId row found
  obtain ⟨old, inTable, same⟩ := trading.takenOffers offerId row found
  have forced : old.trade.Forced P := usable offerId old inTable
  rw [← same] at forced
  exact forced

theorem insertTaken {row : TakenOffer} (usable : Usable P db) (forced : row.Forced P) :
    Usable P (db.insertTaken row) := by
  intro offerId row' found
  obtain ⟨-, rfl⟩ | before := Table.find?_of_insertOrReplace found
  · exact forced
  · exact usable offerId row' before

end Usable

/-- Usability as an invariant of runs. -/
def usability (P : Platform) : Invariant (coordinator P) := Invariant.ofState (Usable P)

/-- The offer that is moved is the one the escrow was built for. It can only be another
    one if an offer with the same random id was listed in between. -/
def SameOffer (payload : OfferPsbtRequest) (past : List Database) : Prop :=
  ∀ built ∈ past[2]?, ∀ moved ∈ past[7]?,
    ∀ row ∈ moved.activeMakerOffers.find? payload.offer.offerIdHex,
      built.activeMakerOffers.find? payload.offer.offerIdHex = some row

instance (payload : OfferPsbtRequest) (past : List Database) :
    Decidable (SameOffer payload past) := by
  unfold SameOffer
  infer_instance

/-- The condition on what a request has seen. -/
def Request.Unreplaced : Request → List Database → Prop
  | submitTakerBond payload, past => SameOffer payload past
  | _, _ => True

instance (request : Request) (past : List Database) : Decidable (request.Unreplaced past) := by
  cases request <;> unfold Request.Unreplaced <;> infer_instance

theorem Request.Unreplaced.earlier {request : Request} {past past' : List Database}
    (earlier : past <+: past') (unreplaced : request.Unreplaced past') :
    request.Unreplaced past := by
  cases request with
  | submitTakerBond payload =>
      intro built third moved eighth
      exact unreplaced built (mem_getElem?_of_grown earlier third) moved
        (mem_getElem?_of_grown earlier eighth)
  | _ => trivial

section Run

open Call

variable {condition : List Database → Prop} {past : List Database} {log : Log (coordinator P)}

theorem usable_handleTakerBond (laws : DescriptorLaws P) (payload : OfferPsbtRequest) :
    (handleTakerBond payload : Act P BondError _).Safe (usability P) (SameOffer payload)
      (fun _ _ _ => True) [] log := by
  refine Safe.bind (Safe.bind (Safe.mapError (Safe.bind (safe_fetchOne fun db₀ _ _ _ _ _ _ => ?_))))
  refine safe_pure fun _ _ => Safe.bind (Safe.mapError ?_)
  refine safe_tryAsk fun db₁ _ _ _ _ _ _ _ _ _ => ?_
  refine Safe.mapError (safe_createEscrowPsbt laws ?_)
  intro escrow read row db₃ db₄ db₅ db₆ _ _ found forced
  -- the escrow is built; the move starts with another look at the offer
  refine Safe.bind (Safe.mapError (Safe.bind (Safe.bind (safe_fetchOne ?_))))
  intro moved _ row' _ _ same found'
  have unchanged := same read rfl moved rfl row' found'
  cases found.symm.trans unchanged
  refine Safe.bind (safe_ofOption fun offer readOffer _ _ => Safe.bind (safe_execute ?_))
  intro _ _ _ usable _
  refine ⟨usable, fun _ _ => safe_pure fun _ _ => ?_⟩
  refine Safe.bind (safe_hexDecode fun robohash _ _ _ => safe_execute ?_)
  intro _ _ _ usable' _
  refine ⟨Usable.insertTaken usable' ?_, fun _ _ => safe_pure fun _ _ => trivial⟩
  have maker := (AwaitingTakerOffer.ofRow_eq_some readOffer).2.1
  simpa only [TakenOffer.Forced, takenRow, Column.text, Option.getD_some, maker] using forced

theorem usable_serve (laws : DescriptorLaws P) (request : Request) :
    (request.serve P).Safe (usability P) request.Unreplaced (fun _ _ _ => True) [] log := by
  cases kind : request.kind with
  | taking =>
      obtain ⟨payload, rfl⟩ := Request.eq_submitTakerBond kind
      exact Program.Safe.bind (Program.Safe.mono (usable_handleTakerBond laws payload)
        fun _ _ _ _ _ _ => trivial)
  | listing =>
      refine (listing_serve P request kind).safe fun db after _ listing usable => ?_
      intro offerId row found
      exact usable offerId row (listing.takenOffers ▸ found)
  | trading =>
      exact (trading_serve P request kind).safe fun _ _ _ trading usable =>
        Usable.trading usable trading

end Run

/-- Every interleaving of requests: an offer that was taken can be paid out iff the payout
    addresses and the nonces parse, as long as no take moves another offer than the one
    its escrow was built for. -/
theorem payoutData_ok_iff_play [DecidableEq ι] (laws : DescriptorLaws P)
    (env : Environment (coordinator P)) (requests : ι → Request) (schedule : List ι)
    (unreplaced : ∀ i, (requests i).Unreplaced
      (((Pool.start (startup P) fun i => (requests i).serve P).play env schedule).past i)) :
    ∀ row ∈ ((Pool.start (startup P) fun i => (requests i).serve P).play env
        schedule).world.state.takenOffers.rows,
      (∃ data, row.payoutData P = .ok data) ↔ PayoutParses P row := by
  have start : Pool.Keeping (usability P) (fun i => (requests i).Unreplaced)
      (fun _ _ _ _ => True) (Pool.start (startup P) fun i => (requests i).serve P) :=
    ⟨fun _ _ found => (by cases found), fun i => usable_serve laws (requests i)⟩
  have usable := (Pool.safe_play schedule (fun _ _ _ => Request.Unreplaced.earlier) start
    unreplaced).holds
  exact fun row member => payoutData_ok_iff (usable row.offerId row (Table.mem_rows.mp member))

namespace Sample

theorem isSane_iff (other : EscrowDescriptor) :
    Platform.sample.descriptorIsSane other = true ↔ other = descriptor := decide_eq_true_iff

theorem descriptorLaws : DescriptorLaws .sample where
  roundTrip other sane := by
    have same := (isSane_iff other).mp sane
    subst same
    rfl
  tweakable keyAggCtx internalKey tree _ _ := ⟨List.replicate 32 7, keyAggCtx, rfl, rfl⟩

/-- An order, the bond of the maker and a take. -/
def trade (bond : BondSubmissionRequest) : Fin 3 → Request
  | 0 => .createOffer (order true)
  | 1 => .submitMakerBond bond
  | 2 => .submitTakerBond take

/-- The trade once the three requests were served one after the other. -/
def tradePool (bond : BondSubmissionRequest) : Pool (coordinator .sample) (Fin 3) Reply :=
  (Pool.start (startup .sample) fun i => (trade bond i).serve .sample).play environment
    (List.replicate 3 0 ++ List.replicate 7 1 ++ List.replicate 10 2)

/-- The row of the offer that was taken. -/
def tradedRow : TakenOffer :=
  ((tradePool makerBond).world.state.takenOffers.find? offerId).get (by decide +kernel)

end Sample

theorem payoutData_ok_iff_play_sample :
    (∃ data, Sample.tradedRow.payoutData .sample = .ok data) ↔
      PayoutParses .sample Sample.tradedRow :=
  payoutData_ok_iff_play Sample.descriptorLaws Sample.environment (Sample.trade Sample.makerBond)
    (List.replicate 3 0 ++ List.replicate 7 1 ++ List.replicate 10 2) (by decide +kernel)
    Sample.tradedRow (Table.mem_of_find? (Option.some_get _).symm)

/-- A maker with a payout address of another network gets its offer taken, and the payout
    data cannot be read. -/
theorem payoutData_fails_after_take :
    ¬ ∀ row ∈ (Sample.tradePool { Sample.makerBond with
        payoutAddress := Sample.testnetAddress }).world.state.takenOffers.rows,
      ∃ data, row.payoutData .sample = .ok data := by
  intro usable
  have taken : ∃ row ∈ (Sample.tradePool { Sample.makerBond with
      payoutAddress := Sample.testnetAddress }).world.state.takenOffers.rows,
      (row.payoutData .sample).toBool = false := by
    decide +kernel
  obtain ⟨row, member, fails⟩ := taken
  obtain ⟨data, succeeds⟩ := usable row member
  rw [succeeds] at fails
  cases fails

end TapTrade
