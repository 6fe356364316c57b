import TapTrade.Model.Trader
import TapTrade.OrderBook.Terms
import TapTrade.Payout.Amounts

/-! # Whether the quoted inputs are enough

What a trader has to bring into the escrow is computed twice: when the order comes in, as a
quote, and when the offer is taken, as what is deducted from the inputs. In between the
client adds its own trade value, if it is a seller. A maker adds the amount of its own offer.
A taker adds its own trade value to the amount of somebody else's offer, and was quoted only
the bond.
-/

namespace TapTrade

open Relational Resumption

variable {P : Platform} {robohash : Bytes} {order : OfferRequest}
  {requirements : BondRequirementResponse}

section Numbers

theorem toNat_floorU64 (q : ℚ) : (floorU64 q).toNat = min ⌊q⌋.toNat (2 ^ 64 - 1) := by
  rw [floorU64, UInt64.toNat_ofNat']
  omega

/-- Halves are rounded up. -/
theorem toNat_roundU64 (n d : ℕ) (positive : 0 < d) :
    (roundU64 (n / d)).toNat = min ((2 * n + d) / (2 * d)) (2 ^ 64 - 1) := by
  have denominator : (d : ℚ) ≠ 0 := Nat.cast_ne_zero.mpr positive.ne'
  have half : (n / d + 1 / 2 : ℚ) = ((2 * n + d : ℕ) : ℚ) / ((2 * d : ℕ) : ℚ) := by
    push_cast
    field_simp
  rw [roundU64, toNat_floorU64, half, Rat.floor_natCast_div_natCast]
  rfl

/-- Without rounding, both fees are the same. -/
theorem coordinatorFee_of_exact (exact : ∀ q, P.roundF64 q = q) (amountSat : UInt64) :
    coordinatorFee P amountSat = escrowFeePerParticipant P amountSat P.coordinatorFeerate := by
  simp only [coordinatorFee, escrowFeePerParticipant, exact]
  congr 1
  ring

end Numbers

namespace OfferRequest

/-- The bond that is demanded for the order. -/
def bondAmount (order : OfferRequest) : ℕ :=
  order.bondRatio.toNat * order.amountSatoshi.toNat / 100

/-- The fee that is quoted. -/
def quotedFee (P : Platform) (order : OfferRequest) : ℕ :=
  (coordinatorFee P order.amountSatoshi).toNat

/-- The fee that each trader pays. -/
def escrowFee (P : Platform) (order : OfferRequest) : ℕ :=
  (escrowFeePerParticipant P order.amountSatoshi P.coordinatorFeerate).toNat

/-- The quote for the escrow inputs, if it fits into 64 bits. -/
def quote (P : Platform) (order : OfferRequest) : ℕ := order.bondAmount + order.quotedFee P + 10000

/-- What the maker adds to the quote. -/
def makerTradeSum (order : OfferRequest) : ℕ :=
  if order.isBuyOrder then 0 else order.amountSatoshi.toNat

theorem ratio_of_validate {now : UInt64} (valid : order.validate now) :
    order.bondRatio.toNat ≤ 50 := by
  simp only [validate, Bool.and_eq_true, decide_eq_true_eq, UInt8.le_iff_toNat_le] at valid
  exact valid.1.2

theorem bondAmount_of_validate {now : UInt64} (valid : order.validate now) :
    order.bondRatio.toNat * order.amountSatoshi.toNat ≤ 1000000000 ∧
      order.bondAmount ≤ 10000000 := by
  have product : order.bondRatio.toNat * order.amountSatoshi.toNat ≤ 50 * 20000000 :=
    Nat.mul_le_mul (ratio_of_validate valid) (amount_of_validate valid).2
  exact ⟨product, (Nat.div_le_div_right product).trans (by norm_num)⟩

theorem toNat_bond {now : UInt64} (valid : order.validate now) :
    (order.bondRatio.toUInt64 * order.amountSatoshi / 100).toNat = order.bondAmount := by
  have product := (bondAmount_of_validate valid).1
  rw [UInt64.toNat_div, UInt64.toNat_mul, UInt8.toNat_toUInt64, Nat.mod_eq_of_lt (by omega)]
  rfl

theorem quotedFee_of_exact (exact : ∀ q, P.roundF64 q = q) (order : OfferRequest) :
    order.quotedFee P = order.escrowFee P := by
  rw [quotedFee, escrowFee, coordinatorFee_of_exact exact]

end OfferRequest

section Charging

/-- What `create_escrow_psbt` deducts from the inputs of a trader. -/
def deducted (escrowAmount escrowFee : UInt64) : ℕ :=
  escrowAmount.toNat + escrowFee.toNat + (txFeeAbs / 2).toNat

/-- Inputs that reach the target reach the deduction. -/
def Covers (target : UInt64) (deduction : ℕ) : Prop :=
  ∀ inputs : List UInt64, target.toNat ≤ (inputs.map UInt64.toNat).sum →
    deduction ≤ (inputs.map UInt64.toNat).sum

theorem covers_iff {target : UInt64} {deduction : ℕ} :
    Covers target deduction ↔ deduction ≤ target.toNat := by
  constructor
  · intro covers
    simpa using covers [target] (by simp)
  · exact fun enough inputs reached => enough.trans reached

open Call in
/-- Some attempt to take the offer in this state of the database computes these deductions. -/
def Charged (P : Platform) (db : Database) (offerId : String) (maker taker : ℕ) : Prop :=
  ∃ (env : Environment (coordinator P)) (w : World (coordinator P))
    (amountMaker amountTaker fee : UInt64), w.state = db ∧
    (exec env (getEscrowTxAmounts offerId P.coordinatorFeerate) w).1 =
      .ok (amountMaker, amountTaker, fee) ∧
    maker = deducted amountMaker fee ∧ taker = deducted amountTaker fee

open Call in
/-- Some search in this state of the database shows the offer. -/
def Offered (P : Platform) (db : Database) (search : OffersRequest) (offer : PublicOffer) : Prop :=
  ∃ (env : Environment (coordinator P)) (w : World (coordinator P)) (offers : List PublicOffer),
    w.state = db ∧ (exec env (fetchSuitableOffers search) w).1 = .ok (some offers) ∧
      offer ∈ offers

end Charging

/-- A row that the maker has got into the order book since the earlier state. -/
structure NewOffer (robohash : Bytes) (earlier db : Database) (row : ActiveMakerOffer) : Prop where
  member : row ∈ db.activeMakerOffers.rows
  new : ¬ OffersOf robohash earlier row.offerId
  maker : Column.blob row.robohash = robohash

/-- Whatever the coordinator answers to the order of the maker, in whatever interleaving of
    requests afterwards, among which the maker makes no other order: the inputs that the two
    clients choose suffice when the offer is taken. -/
def InputsSuffice (P : Platform) (maker taker : TraderSettings) : Prop :=
  ∀ (env : Environment (coordinator P)) (w w' : World (coordinator P)) (robohash : Bytes)
    (requirements : BondRequirementResponse),
    Call.exec env (processOrder maker.formatOrderRequest) w = (.ok requirements, w') →
    Hex.decode maker.robosatsRobohashHex = some robohash →
    ∀ {ι : Type} [DecidableEq ι] (requests : ι → Request) (search take : List ι),
      (∀ i offer, requests i = .createOffer offer → Hex.decode offer.robohashHex ≠ some robohash) →
      let pool := Pool.start w' fun i => (requests i).serve P
      let searched := (pool.play env search).world.state
      let charged := (pool.play env (search ++ take)).world.state
      ∀ row makerDeduction takerDeduction, NewOffer robohash w.state charged row →
        Charged P charged row.offerId makerDeduction takerDeduction →
        (∀ overflowChecks target, maker.createInputAmount overflowChecks requirements = some target →
          Covers target makerDeduction) ∧
        ∀ found offer, NewOffer robohash w.state searched found → found.offerId = row.offerId →
          Offered P searched (taker.offersRequest P.roundF64) offer →
          offer.offerIdHex = row.offerId →
          ∀ overflowChecks target, taker.takeInputAmount overflowChecks offer = some target →
            Covers target takerDeduction

/-- The taker sells, and the offer lies in the range around its trade value. -/
def TraderSettings.Finds (P : Platform) (taker : TraderSettings) (order : OfferRequest) : Prop :=
  taker.tradeType.isBuyOrder = false ∧
    (taker.offersRequest P.roundF64).amountMinSat ≤ order.amountSatoshi ∧
    order.amountSatoshi ≤ (taker.offersRequest P.roundF64).amountMaxSat

instance (P : Platform) (taker : TraderSettings) (order : OfferRequest) :
    Decidable (taker.Finds P order) :=
  inferInstanceAs (Decidable (_ ∧ _))

/-- When the inputs suffice: no quote is made, because it does not fit into 64 bits, or it
    fits, also with the amount that the maker adds, and a taker who can find the offer trades
    more than the offer by the fee and half the transaction fee. -/
def QuoteCovers (P : Platform) (maker taker : TraderSettings) : Prop :=
  let order := maker.formatOrderRequest
  P.overflowChecks = true ∧ 2 ^ 64 ≤ order.quote P ∨
    order.quote P + order.makerTradeSum < 2 ^ 64 ∧
      (order.isBuyOrder = true → taker.Finds P order →
        order.amountSatoshi.toNat + order.escrowFee P + 5000 ≤ taker.tradeType.value.toNat)

instance (P : Platform) (maker taker : TraderSettings) : Decidable (QuoteCovers P maker taker) :=
  inferInstanceAs (Decidable (_ ∨ _))

section Ordering

open Call

variable {env : Environment (coordinator P)} {w w' : World (coordinator P)}

theorem exec_checked_ok {overflows : Bool} {wrapped a : UInt64}
    (h : exec env (U64.checked overflows wrapped) w = (.ok a, w')) :
    a = wrapped ∧ w' = w ∧ (P.overflowChecks = true → overflows = false) := by
  unfold U64.checked at h
  split at h
  · cases h
  · rename_i allowed
    cases h
    simp only [Bool.and_eq_true, not_and, Bool.not_eq_true] at allowed
    exact ⟨rfl, rfl, allowed⟩

/-- An addition that returns, modulo 64 bits and without an overflow if there are checks. -/
theorem exec_add_ok {a b c : UInt64} (h : exec env (U64.add a b) w = (.ok c, w')) :
    c.toNat = (a.toNat + b.toNat) % 2 ^ 64 ∧ w' = w ∧
      (P.overflowChecks = true → a.toNat + b.toNat < 2 ^ 64) := by
  obtain ⟨rfl, same, checked⟩ := exec_checked_ok h
  refine ⟨UInt64.toNat_add a b, same, fun checks => ?_⟩
  simpa using checked checks

theorem exec_checked_of_fits {overflows : Bool} {wrapped : UInt64}
    (fits : P.overflowChecks = true → overflows = false) :
    exec env (U64.checked overflows wrapped) w = (.ok wrapped, w) := by
  have allowed : (P.overflowChecks && overflows) = false := by
    cases checks : P.overflowChecks with
    | true => exact fits checks
    | false => rfl
  rw [U64.checked, allowed]
  rfl

theorem exec_add_of_fits {a b : UInt64}
    (fits : P.overflowChecks = true → a.toNat + b.toNat < 2 ^ 64) :
    exec env (U64.add a b) w = (.ok (a + b), w) :=
  exec_checked_of_fits fun checks => decide_eq_false (by have := fits checks; omega)

/-- What a quote says, and what is stored of the order. -/
theorem processOrder_ok {now : UInt64} (valid : order.validate now)
    (quoted : exec env (processOrder order) w = (.ok requirements, w')) :
    ∃ robohash, Hex.decode order.robohashHex = some robohash ∧
      w'.state = w.state.insertMakerRequest (makerRequestRow robohash order requirements) ∧
      requirements.lockingAmountSat.toNat = order.bondAmount ∧
      requirements.escrowLockingInputAmountWithoutTradeSum.toNat = order.quote P % 2 ^ 64 ∧
      (P.overflowChecks = true → order.quote P < 2 ^ 64) := by
  obtain ⟨product, w₁, multiplied, h₁⟩ := exec_bind_ok env w quoted
  obtain ⟨rfl, rfl, -⟩ := exec_checked_ok multiplied
  obtain ⟨withFee, w₂, added, h₂⟩ := exec_bind_ok env w₁ h₁
  obtain ⟨feeSum, rfl, feeChecked⟩ := exec_add_ok added
  obtain ⟨withTxFee, w₃, added', h₃⟩ := exec_bind_ok env w₂ h₂
  obtain ⟨txSum, rfl, txChecked⟩ := exec_add_ok added'
  obtain ⟨total, w₄, added'', h₄⟩ := exec_bind_ok env w₃ h₃
  obtain ⟨totalSum, rfl, totalChecked⟩ := exec_add_ok added''
  obtain ⟨address, w₅, addressed, h₅⟩ := exec_bind_ok env w₄ h₄
  obtain ⟨_, w₆, inserted, h₆⟩ := exec_bind_ok env w₅ h₅
  cases h₆
  obtain ⟨robohash, decoded, stored⟩ := insertNewMakerRequest_ok inserted
  rw [tryAsk, exec_ask_bind] at addressed
  obtain ⟨-, asked⟩ := exec_ofExcept_ok env _ addressed
  have bond := OfferRequest.toNat_bond valid
  have fee : (coordinatorFee P order.amountSatoshi).toNat = order.quotedFee P := rfl
  have buffer : (5000 : UInt64).toNat = 5000 := rfl
  rw [bond, fee] at feeSum feeChecked
  rw [buffer] at txSum txChecked totalSum totalChecked
  refine ⟨robohash, decoded, ?_, bond, ?_, fun checks => ?_⟩
  · rw [stored, asked]
    rfl
  · rw [totalSum, txSum, feeSum, OfferRequest.quote]
    omega
  · have first := feeChecked checks
    have second := txChecked checks
    have third := totalChecked checks
    rw [OfferRequest.quote]
    omega

/-- What is deducted from the inputs for an offer with these columns. -/
theorem deductions_of_charged {db : Database} {row : ActiveMakerOffer} {maker taker : ℕ}
    (member : row ∈ db.activeMakerOffers.rows) (terms : row.terms = order.terms requirements)
    (charged : Charged P db row.offerId maker taker) :
    let shared := requirements.lockingAmountSat.toNat + order.escrowFee P + 5000
    maker = order.makerTradeSum + shared ∧
      taker = (if order.isBuyOrder then order.amountSatoshi.toNat else 0) + shared := by
  obtain ⟨env, w, amountMaker, amountTaker, fee, rfl, answered, rfl, rfl⟩ := charged
  obtain ⟨listed, amountSat, bondAmountSat, found, amountOk, bondOk, amounts, rfl⟩ :=
    getEscrowTxAmounts_ok (Prod.ext answered rfl)
  cases (Table.mem_rows.mp member).symm.trans found
  rw [show row.amountSat = order.amountSatoshi.toInt64 from congrArg Terms.amountSat terms]
    at amountOk
  rw [show row.bondAmountSat = requirements.lockingAmountSat.toInt64 from
    congrArg Terms.bondAmountSat terms] at bondOk
  obtain ⟨rfl, smallAmount⟩ := Column.u64?_toInt64 amountOk
  obtain ⟨rfl, smallBond⟩ := Column.u64?_toInt64 bondOk
  have direction : decide (1 = Column.i64 row.isBuyOrder) = order.isBuyOrder := by
    rw [show row.isBuyOrder = boolToSqlInt order.isBuyOrder from congrArg Terms.isBuyOrder terms]
    cases order.isBuyOrder <;> decide
  rw [direction] at amounts
  have sum := toNat_add_of_small smallAmount smallBond
  have halfTxFee : (txFeeAbs / 2).toNat = 5000 := rfl
  cases buys : order.isBuyOrder with
  | true =>
      simp only [buys, escrowAmounts, Bool.not_true, Bool.false_eq_true, if_false,
        Prod.mk.injEq] at amounts
      simp only [deducted, amounts, sum, halfTxFee, OfferRequest.makerTradeSum, buys, if_true,
        OfferRequest.escrowFee]
      omega
  | false =>
      simp only [buys, escrowAmounts, Bool.not_false, if_true, Prod.mk.injEq] at amounts
      simp only [deducted, amounts, sum, halfTxFee, OfferRequest.makerTradeSum, buys,
        Bool.false_eq_true, if_false, OfferRequest.escrowFee]
      omega

end Ordering

namespace TraderSettings

variable {settings maker taker : TraderSettings} {overflowChecks : Bool} {target : UInt64}

theorem inputAmount_eq
    (chosen : settings.inputAmount overflowChecks requirements = some target) :
    target.toNat = (requirements.escrowLockingInputAmountWithoutTradeSum.toNat +
      settings.formatOrderRequest.makerTradeSum) % 2 ^ 64 := by
  have below := requirements.escrowLockingInputAmountWithoutTradeSum.toNat_lt
  rw [OfferRequest.makerTradeSum]
  change _ = (_ + if settings.tradeType.isBuyOrder then 0 else settings.tradeType.value.toNat) % _
  unfold inputAmount at chosen
  cases buys : settings.tradeType.isBuyOrder with
  | true =>
      rw [buys, if_pos rfl] at chosen
      cases chosen
      rw [if_pos rfl]
      omega
  | false =>
      rw [buys, if_neg Bool.false_ne_true] at chosen
      split at chosen
      · cases chosen
      · cases chosen
        rw [if_neg Bool.false_ne_true, UInt64.toNat_add]

/-- A build that wraps always has a target. -/
theorem inputAmount_wrapping (settings : TraderSettings)
    (requirements : BondRequirementResponse) :
    ∃ target, settings.inputAmount false requirements = some target := by
  cases buys : settings.tradeType.isBuyOrder with
  | true => exact ⟨_, by rw [inputAmount, if_pos buys]⟩
  | false => exact ⟨_, by rw [inputAmount, buys, if_neg Bool.false_ne_true]; rfl⟩

theorem toNat_amountMinSat (exact : ∀ q, P.roundF64 q = q) (taker : TraderSettings) :
    (taker.offersRequest P.roundF64).amountMinSat.toNat =
      (9 * taker.tradeType.value.toNat + 5) / 10 := by
  have below := taker.tradeType.value.toNat_lt
  have scaled : (taker.tradeType.value.toNat * (9 / 10) : ℚ) =
      ((9 * taker.tradeType.value.toNat : ℕ) : ℚ) / ((10 : ℕ) : ℚ) := by
    push_cast
    ring
  simp only [offersRequest, exact, scaled, toNat_roundU64 _ _ (show 0 < 10 by decide)]
  omega

theorem toNat_amountMaxSat (exact : ∀ q, P.roundF64 q = q) (taker : TraderSettings) :
    (taker.offersRequest P.roundF64).amountMaxSat.toNat =
      min ((11 * taker.tradeType.value.toNat + 5) / 10) (2 ^ 64 - 1) := by
  have scaled : (taker.tradeType.value.toNat * (11 / 10) : ℚ) =
      ((11 * taker.tradeType.value.toNat : ℕ) : ℚ) / ((10 : ℕ) : ℚ) := by
    push_cast
    ring
  simp only [offersRequest, exact, scaled, toNat_roundU64 _ _ (show 0 < 10 by decide)]
  omega

/-- Which offers are listed for the trade value of a taker. -/
theorem suits_offersRequest (exact : ∀ q, P.roundF64 q = q) {row : ActiveMakerOffer}
    (amount : order.amountSatoshi.toNat ≤ 20000000) (terms : row.terms = order.terms requirements) :
    (suits (taker.offersRequest P.roundF64) row).holds ↔
      order.isBuyOrder = true ∧ taker.Finds P order := by
  have low := taker.toNat_amountMinSat exact
  have high := taker.toNat_amountMaxSat exact
  have below := taker.tradeType.value.toNat_lt
  rw [suits_of_stored (by omega) (congrArg Terms.isBuyOrder terms) (congrArg Terms.amountSat terms),
    Finds]
  simp only [UInt64.le_iff_toNat_le]
  refine and_congr_right fun _ => and_congr ?_ ?_
  · simp [offersRequest]
  · omega

/-- What the maker brings in reaches its deduction iff the target fits into 64 bits. -/
theorem maker_covered_iff {deduction : ℕ}
    (quoted : requirements.escrowLockingInputAmountWithoutTradeSum.toNat =
      maker.formatOrderRequest.quote P % 2 ^ 64)
    (deducted : deduction + 5000 =
      maker.formatOrderRequest.quote P + maker.formatOrderRequest.makerTradeSum) :
    (∀ overflowChecks target, maker.createInputAmount overflowChecks requirements = some target →
        Covers target deduction) ↔
      maker.formatOrderRequest.quote P + maker.formatOrderRequest.makerTradeSum < 2 ^ 64 := by
  constructor
  · intro covers
    obtain ⟨target, chosen⟩ := inputAmount_wrapping maker requirements
    have enough := covers_iff.mp (covers false target chosen)
    rw [inputAmount_eq chosen, quoted] at enough
    omega
  · intro fits overflowChecks target chosen
    rw [covers_iff, inputAmount_eq chosen, quoted]
    omega

/-- What a taker brings in who found the offer reaches its deduction iff it trades enough. -/
theorem taker_covered_iff (exact : ∀ q, P.roundF64 q = q) {row : ActiveMakerOffer} {deduction : ℕ}
    (bond : requirements.lockingAmountSat.toNat ≤ 10000000)
    (quote : row.escrowLockingInputAmountWithoutTradeSum =
      some requirements.lockingAmountSat.toInt64)
    (amount : order.amountSatoshi.toNat ≤ 20000000) (finds : taker.Finds P order)
    (deducted : deduction = order.amountSatoshi.toNat +
      (requirements.lockingAmountSat.toNat + order.escrowFee P + 5000)) :
    (∀ overflowChecks target, taker.takeInputAmount overflowChecks row.publicOffer = some target →
        Covers target deduction) ↔
      order.amountSatoshi.toNat + order.escrowFee P + 5000 ≤ taker.tradeType.value.toNat := by
  obtain ⟨sells, low, -⟩ := finds
  rw [UInt64.le_iff_toNat_le, toNat_amountMinSat exact] at low
  have target_eq {overflowChecks : Bool} {target : UInt64}
      (chosen : taker.takeInputAmount overflowChecks row.publicOffer = some target) :
      target.toNat = requirements.lockingAmountSat.toNat + taker.tradeType.value.toNat := by
    have wrapped := inputAmount_eq chosen
    have tradeSum : taker.formatOrderRequest.makerTradeSum = taker.tradeType.value.toNat := by
      rw [OfferRequest.makerTradeSum]
      exact if_neg (by rw [formatOrderRequest, sells]; exact Bool.false_ne_true)
    simp only [ActiveMakerOffer.publicOffer, quote, Column.i64, Option.getD_some,
      UInt64.toUInt64_toInt64, tradeSum] at wrapped
    omega
  constructor
  · intro covers
    obtain ⟨target, chosen⟩ := inputAmount_wrapping taker row.publicOffer.bondRequirements
    have enough := covers_iff.mp (covers false target chosen)
    rw [target_eq chosen] at enough
    omega
  · intro enough overflowChecks target chosen
    rw [covers_iff, target_eq chosen]
    omega

end TraderSettings

/-- If the quote covers both traders, it does so in every interleaving. -/
theorem inputsSuffice_of_covers (exact : ∀ q, P.roundF64 q = q) {maker taker : TraderSettings}
    {now : UInt64} (valid : maker.formatOrderRequest.validate now)
    (covers : QuoteCovers P maker taker) : InputsSuffice P maker taker := by
  intro env w w' robohash requirements quoted decoded ι _ requests search take others pool searched
    charged row makerDeduction takerDeduction listed charging
  obtain ⟨robohash', decoded', stored, bond, quote, fits⟩ := processOrder_ok valid quoted
  cases decoded.symm.trans decoded'
  have amount := (OfferRequest.amount_of_validate valid).2
  have bondBound := (OfferRequest.bondAmount_of_validate valid).2
  obtain ⟨terms, -⟩ := (moving_play env stored others (search ++ take)).active row.offerId row
    (Table.mem_rows.mp listed.member) listed.new listed.maker
  obtain ⟨rfl, rfl⟩ := deductions_of_charged listed.member terms charging
  rcases covers with ⟨checks, large⟩ | ⟨targetFits, enough⟩
  · exact absurd (fits checks) (Nat.not_lt.mpr large)
  refine ⟨(TraderSettings.maker_covered_iff quote ?_).mpr targetFits, ?_⟩
  · rw [OfferRequest.quote, OfferRequest.quotedFee_of_exact exact]
    omega
  · rintro found offer shown same ⟨env', w'', offers, state, answered, published⟩ same'
    obtain ⟨terms', quote'⟩ := (moving_play env stored others search).active found.offerId found
      (Table.mem_rows.mp shown.member) shown.new shown.maker
    have member : found ∈ w''.state.activeMakerOffers.rows := state ▸ shown.member
    obtain ⟨rfl, suits⟩ :=
      publicOffer_of_answered answered published member (same'.trans same.symm)
    obtain ⟨buys, finds⟩ := (TraderSettings.suits_offersRequest exact amount terms').mp suits
    refine (TraderSettings.taker_covered_iff exact (by omega) quote' amount finds ?_).mpr
      (enough buys finds)
    rw [if_pos buys]

section Converse

open Call

/-- A quote is made, unless it is refused. -/
theorem exec_processOrder_accepting {now : UInt64} (valid : order.validate now)
    (made : P.overflowChecks = true → order.quote P < 2 ^ 64)
    (decoded : Hex.decode order.robohashHex = some robohash) :
    ∃ requirements w',
      exec (accepting P) (processOrder order) (startup P) = (.ok requirements, w') := by
  have bond := OfferRequest.toNat_bond valid
  have product := (OfferRequest.bondAmount_of_validate valid).1
  have fee : (coordinatorFee P order.amountSatoshi).toNat = order.quotedFee P := rfl
  have buffer : (5000 : UInt64).toNat = 5000 := rfl
  have multiplied : exec (accepting P) (U64.mul order.bondRatio.toUInt64 order.amountSatoshi)
      (startup P) = (.ok (order.bondRatio.toUInt64 * order.amountSatoshi), startup P) := by
    apply exec_checked_of_fits
    intro _
    rw [UInt8.toNat_toUInt64]
    exact decide_eq_false (by omega)
  rw [processOrder, exec_bind_of_ok _ _ multiplied]
  rw [OfferRequest.quote] at made
  rw [exec_bind_of_ok _ _ (exec_add_of_fits fun checks => by have := made checks; omega)]
  rw [exec_bind_of_ok _ _ (exec_add_of_fits fun checks => by
    have := made checks
    rw [UInt64.toNat_add]
    omega)]
  rw [exec_bind_of_ok _ _ (exec_add_of_fits fun checks => by
    have := made checks
    rw [UInt64.toNat_add, UInt64.toNat_add]
    omega)]
  have addressed (v : World (coordinator P)) : exec (accepting P) (tryAsk .getNewAddress id) v =
      (.ok "", (v.ask (accepting P) .getNewAddress).2) := exec_tryAsk_of_ok rfl
  have inserted (v : World (coordinator P)) (requirements : BondRequirementResponse) :
      ∃ w', exec (accepting P) (insertNewMakerRequest order requirements) v = (.ok (), w') := by
    rw [insertNewMakerRequest, hexDecode_eq decoded]
    exact ⟨_, rfl⟩
  rw [exec_bind_of_ok _ _ (addressed _)]
  obtain ⟨w', done⟩ := inserted _ _
  exact ⟨_, w', exec_bind_of_ok _ _ done⟩

theorem charged_of_listed {db : Database} {row : ActiveMakerOffer}
    (member : row ∈ db.activeMakerOffers.rows) (terms : row.terms = order.terms requirements)
    (smallAmount : order.amountSatoshi.toNat < 2 ^ 63)
    (smallBond : requirements.lockingAmountSat.toNat < 2 ^ 63) :
    ∃ maker taker, Charged P db row.offerId maker taker := by
  have amount : Column.u64? row.amountSat = some order.amountSatoshi := by
    rw [show row.amountSat = order.amountSatoshi.toInt64 from congrArg Terms.amountSat terms]
    exact Column.u64?_of_small smallAmount
  have bond : Column.u64? row.bondAmountSat = some requirements.lockingAmountSat := by
    rw [show row.bondAmountSat = requirements.lockingAmountSat.toInt64 from
      congrArg Terms.bondAmountSat terms]
    exact Column.u64?_of_small smallBond
  let w : World (coordinator P) := ⟨db, [], 0⟩
  have fetched : exec (accepting P) (fetchOne fun db => db.activeMakerOffers.find? row.offerId) w =
      (.ok row, World.tick w) := exec_fetchOne_of_found rfl (Table.mem_rows.mp member)
  let amounts := escrowAmounts (1 = Column.i64 row.isBuyOrder) order.amountSatoshi
    requirements.lockingAmountSat
  have answered : (exec (accepting P) (getEscrowTxAmounts row.offerId P.coordinatorFeerate) w).1 =
      .ok (amounts.1, amounts.2,
        escrowFeePerParticipant P order.amountSatoshi P.coordinatorFeerate) := by
    rw [getEscrowTxAmounts, exec_bind_of_ok _ _ fetched, amount, bond]
    rfl
  exact ⟨_, _, accepting P, w, _, _, _, rfl, answered, rfl, rfl⟩

theorem quoteCovers_of_suffices (exact : ∀ q, P.roundF64 q = q) {maker taker : TraderSettings}
    {now : UInt64} (valid : maker.formatOrderRequest.validate now)
    (decoded : Hex.decode maker.robosatsRobohashHex = some robohash)
    (suffice : InputsSuffice P maker taker) : QuoteCovers P maker taker := by
  by_cases refused : P.overflowChecks = true ∧ 2 ^ 64 ≤ maker.formatOrderRequest.quote P
  · exact .inl refused
  right
  have made (checks : P.overflowChecks = true) : maker.formatOrderRequest.quote P < 2 ^ 64 :=
    Nat.not_le.mp fun large => refused ⟨checks, large⟩
  obtain ⟨requirements, w', quoted⟩ := exec_processOrder_accepting valid made decoded
  obtain ⟨robohash', decoded', stored, bond, quote, -⟩ := processOrder_ok valid quoted
  cases decoded.symm.trans decoded'
  have amount := (OfferRequest.amount_of_validate valid).2
  have bondBound := (OfferRequest.bondAmount_of_validate valid).2
  have pending : w'.state.makerRequests.find? robohash =
      some (makerRequestRow robohash maker.formatOrderRequest requirements) := by
    rw [stored]
    exact Table.find?_insertOrReplace_self _ _
  obtain ⟨payload, schedule, row, member, -, owner, terms, published⟩ :=
    listed_accepting pending decoded
  have listed : NewOffer robohash (startup P).state _ row :=
    ⟨member, (by rintro (⟨_, found, -⟩ | ⟨_, found, -⟩) <;> cases found), owner⟩
  obtain ⟨makerDeduction, takerDeduction, charging⟩ :=
    charged_of_listed (P := P) member terms (by omega) (by omega)
  obtain ⟨makerEq, takerEq⟩ := deductions_of_charged member terms charging
  have reached := suffice (accepting P) (startup P) w' robohash requirements quoted decoded
    (fun _ : Unit => Request.submitMakerBond payload) schedule [] nofun row makerDeduction
    takerDeduction
  rw [List.append_nil] at reached
  obtain ⟨makerCovered, takerCovered⟩ := reached listed charging
  refine ⟨(TraderSettings.maker_covered_iff quote ?_).mp makerCovered, fun buys finds => ?_⟩
  · rw [OfferRequest.quote, OfferRequest.quotedFee_of_exact exact]
    omega
  · have suits := (TraderSettings.suits_offersRequest exact amount terms).mpr ⟨buys, finds⟩
    obtain ⟨offers, answered, shown⟩ := published_accepting member suits
    refine (TraderSettings.taker_covered_iff exact (by omega) published amount finds ?_).mp
      (takerCovered row row.publicOffer listed rfl ⟨_, _, offers, rfl, answered, shown⟩ rfl)
    rw [takerEq, if_pos buys]

end Converse

/-- In exact arithmetic, the inputs suffice iff the quote covers both traders. -/
theorem inputsSuffice_iff (P : Platform) (exact : ∀ q, P.roundF64 q = q)
    {maker taker : TraderSettings} {now : UInt64}
    (valid : maker.formatOrderRequest.validate now)
    (storable : (Hex.decode maker.robosatsRobohashHex).isSome) :
    InputsSuffice P maker taker ↔ QuoteCovers P maker taker := by
  obtain ⟨robohash, decoded⟩ := Option.isSome_iff_exists.mp storable
  constructor
  · exact quoteCovers_of_suffices exact valid decoded
  · exact inputsSuffice_of_covers exact valid

namespace Sample

/-- The settings behind the sample order. -/
def makerSettings : TraderSettings := ⟨"a3f1f1f0e2f3f4f5", .buy 100000, 10, 1700086400⟩

/-- Somebody who sells. -/
def takerSettings (value : UInt64) : TraderSettings := ⟨"b4e2e2e1d3e4e5e6", .sell value, 10, 0⟩

end Sample

/-- A taker who trades 6 % more than the sample order brings enough. -/
theorem inputsSuffice_iff_sample :
    InputsSuffice .sample Sample.makerSettings (Sample.takerSettings 106000) := by
  have valid : Sample.makerSettings.formatOrderRequest.validate 1700000000 := by decide +kernel
  exact (inputsSuffice_iff .sample (fun _ => rfl) valid (by decide +kernel)).mpr (by decide +kernel)

/-- A taker who trades the amount of the sample order brings 110000 sat, of which 115200 are
    deducted. -/
theorem quote_falls_short :
    (Call.exec Sample.environment (getEscrowTxAmounts Sample.offerId (1 / 5)) Sample.listed).1 =
        .ok (10000, 110000, 200) ∧
      (Sample.takerSettings 100000).takeInputAmount true Sample.publicOffer = some 110000 ∧
      ¬ InputsSuffice .sample Sample.makerSettings (Sample.takerSettings 100000) := by
  refine ⟨by decide +kernel, by decide +kernel, fun suffice => ?_⟩
  have valid : Sample.makerSettings.formatOrderRequest.validate 1700000000 := by decide +kernel
  have decoded : Hex.decode Sample.makerSettings.robosatsRobohashHex =
      some Sample.makerRobohash := by decide +kernel
  exact absurd (quoteCovers_of_suffices (fun _ => rfl) valid decoded suffice) (by decide +kernel)

end TapTrade
