import TapTrade.Escrow.Assembly

/-! # Inputs that do not cover the escrow

What the inputs of a trader are worth is what the trader says, and nothing is checked before the
amounts are computed from it. The assembly is safe for the figures that stay within 64 bits, and
only for those.
-/

namespace TapTrade

open Relational Resumption Numeric

variable {P : Platform} {values : List UInt64} {amount fee : UInt64} {figures : EscrowFigures}
  {request : OfferPsbtRequest} {env : Environment (coordinator P)} {w : World (coordinator P)}

namespace EscrowFigures

/-- Both traders bring their share. -/
def Covered (figures : EscrowFigures) : Prop :=
  deducted figures.escrowAmountMakerSat figures.escrowFeeSatPerParticipant ≤
      exactSum figures.makerValues ∧
    deducted figures.escrowAmountTakerSat figures.escrowFeeSatPerParticipant ≤
      exactSum figures.takerValues

/-- The inputs fit, and those that are worth something cover what is owed. Inputs that are worth
    nothing are refused, and then the rest is not computed. -/
def Fits (figures : EscrowFigures) : Prop :=
  exactSum figures.makerValues < 2 ^ 64 ∧ (exactSum figures.makerValues ≠ 0 →
    deducted figures.escrowAmountMakerSat figures.escrowFeeSatPerParticipant ≤
        exactSum figures.makerValues ∧
      exactSum figures.takerValues < 2 ^ 64 ∧ (exactSum figures.takerValues ≠ 0 →
        deducted figures.escrowAmountTakerSat figures.escrowFeeSatPerParticipant ≤
            exactSum figures.takerValues ∧
          figures.escrowAmountMakerSat.toNat + figures.escrowAmountTakerSat.toNat < 2 ^ 64 ∧
          figures.escrowFeeSatPerParticipant.toNat * 2 < 2 ^ 64))

end EscrowFigures

/-! When the build that checks for overflow does not panic. -/

namespace Word

theorem op_ne_panicked {checked : Option UInt64} {wrapped : UInt64} :
    op true checked wrapped ≠ (.error .panicked : Outcome Error UInt64) ↔
      ∃ c, checked = some c ∧ op true checked wrapped = (.ok c : Outcome Error UInt64) := by
  cases checked <;> simp [op, Outcome.unwrap]

theorem add_ne_panicked {a b : UInt64} :
    add true a b ≠ (.error .panicked : Outcome Error UInt64) ↔ a.toNat + b.toNat < 2 ^ 64 := by
  constructor
  · intro calm
    obtain ⟨c, fits, -⟩ := op_ne_panicked.mp calm
    rw [← checkedAdd_eq_some.mp fits]
    exact c.toNat_lt
  · intro fits
    rw [add_of_fits fits]
    exact nofun

theorem mul_ne_panicked {a b : UInt64} :
    mul true a b ≠ (.error .panicked : Outcome Error UInt64) ↔ a.toNat * b.toNat < 2 ^ 64 := by
  constructor
  · intro calm
    obtain ⟨c, fits, -⟩ := op_ne_panicked.mp calm
    rw [← checkedMul_eq_some.mp fits]
    exact c.toNat_lt
  · intro fits
    rw [mul_of_fits fits]
    exact nofun

theorem inputSum_ne_panicked :
    inputSum true values ≠ .error .panicked ↔ exactSum values < 2 ^ 64 := by
  constructor
  · intro calm
    obtain ⟨sum, found, -⟩ := op_ne_panicked.mp (Outcome.bind_ne_panicked.mp calm).1
    have exact := checkedSum_eq_some.mp found
    have below := sum.toNat_lt
    rw [UInt64.toNat_zero] at exact
    omega
  · intro fits
    by_cases nothing : exactSum values = 0
    · obtain ⟨e, refused⟩ := inputSum_of_zero true nothing
      rw [refused]
      exact nofun
    · obtain ⟨sum, found, -⟩ := inputSum_of_fits true fits nothing
      rw [found]
      exact nofun

theorem changeAmount_ne_panicked {inputSum : UInt64} :
    changeAmount true inputSum amount fee ≠ .error .panicked ↔
      deducted amount fee ≤ inputSum.toNat := by
  constructor
  · intro calm
    obtain ⟨calmLocked, calm⟩ := Outcome.bind_ne_panicked.mp calm
    obtain ⟨locked, sum, isLocked⟩ := op_ne_panicked.mp calmLocked
    obtain ⟨calmOwed, calm⟩ := Outcome.bind_ne_panicked.mp (calm locked isLocked)
    obtain ⟨owed, sum', isOwed⟩ := op_ne_panicked.mp calmOwed
    obtain ⟨rest, difference, -⟩ := op_ne_panicked.mp (calm owed isOwed)
    have half : (txFeeAbs / 2).toNat = 5000 := rfl
    rw [checkedAdd_eq_some] at sum sum'
    rw [checkedSub_eq_some] at difference
    unfold deducted
    omega
  · intro covered
    obtain ⟨c, computed, -⟩ := changeAmount_of_covered true covered
    rw [computed]
    exact nofun

theorem change_ne_panicked : change true values amount fee ≠ .error .panicked ↔
    exactSum values < 2 ^ 64 ∧ (exactSum values ≠ 0 → deducted amount fee ≤ exactSum values) := by
  constructor
  · intro calm
    obtain ⟨calmSum, calm⟩ := Outcome.bind_ne_panicked.mp calm
    have fits := inputSum_ne_panicked.mp calmSum
    refine ⟨fits, fun some => ?_⟩
    obtain ⟨sum, found, exact⟩ := inputSum_of_fits true fits some
    rw [← exact]
    exact changeAmount_ne_panicked.mp (calm sum found)
  · rintro ⟨fits, covered⟩
    by_cases nothing : exactSum values = 0
    · obtain ⟨e, refused⟩ := inputSum_of_zero true nothing
      rw [change, refused]
      exact nofun
    · obtain ⟨sum, found, exact⟩ := inputSum_of_fits true fits nothing
      rw [change, found]
      apply changeAmount_ne_panicked.mpr
      rw [exact]
      exact covered nothing

/-! In either build. -/

variable {checks : Bool}

theorem change_of_zero (checks : Bool) (nothing : exactSum values = 0) :
    ∃ e, change checks values amount fee = .error (.failed e) := by
  obtain ⟨e, refused⟩ := inputSum_of_zero checks nothing
  refine ⟨e, ?_⟩
  rw [change, refused]
  rfl

theorem change_of_covered (checks : Bool) (fits : exactSum values < 2 ^ 64)
    (covered : deducted amount fee ≤ exactSum values) :
    ∃ c, change checks values amount fee = .ok c := by
  have half : (txFeeAbs / 2).toNat = 5000 := rfl
  have some : exactSum values ≠ 0 := by
    unfold deducted at covered
    omega
  obtain ⟨sum, found, exact⟩ := inputSum_of_fits checks fits some
  rw [← exact] at covered
  obtain ⟨c, computed, -⟩ := changeAmount_of_covered checks covered
  refine ⟨c, ?_⟩
  rw [change, found]
  exact computed

end Word

namespace EscrowFigures

theorem outputs_ne_panicked : figures.outputs true ≠ .error .panicked ↔ figures.Fits := by
  constructor
  · intro calm
    obtain ⟨calmMaker, calm⟩ := Outcome.bind_ne_panicked.mp calm
    obtain ⟨fitsMaker, coveredMaker⟩ := Word.change_ne_panicked.mp calmMaker
    refine ⟨fitsMaker, fun someMaker => ?_⟩
    obtain ⟨changeMaker, computed⟩ :=
      Word.change_of_covered true fitsMaker (coveredMaker someMaker)
    obtain ⟨calmTaker, calm⟩ := Outcome.bind_ne_panicked.mp (calm changeMaker computed)
    obtain ⟨fitsTaker, coveredTaker⟩ := Word.change_ne_panicked.mp calmTaker
    refine ⟨coveredMaker someMaker, fitsTaker, fun someTaker => ?_⟩
    obtain ⟨changeTaker, computed'⟩ :=
      Word.change_of_covered true fitsTaker (coveredTaker someTaker)
    obtain ⟨calmEscrow, calm⟩ := Outcome.bind_ne_panicked.mp (calm changeTaker computed')
    have fitsEscrow := Word.add_ne_panicked.mp calmEscrow
    obtain ⟨calmFee, -⟩ := Outcome.bind_ne_panicked.mp (calm _ (Word.add_of_fits fitsEscrow))
    exact ⟨coveredTaker someTaker, fitsEscrow, Word.mul_ne_panicked.mp calmFee⟩
  · rintro ⟨fitsMaker, rest⟩
    apply Outcome.bind_ne_panicked.mpr
    refine ⟨Word.change_ne_panicked.mpr ⟨fitsMaker, fun some => (rest some).1⟩, ?_⟩
    intro changeMaker computed
    by_cases nothing : exactSum figures.makerValues = 0
    · obtain ⟨e, refused⟩ := Word.change_of_zero true nothing
      cases refused.symm.trans computed
    obtain ⟨-, fitsTaker, rest⟩ := rest nothing
    apply Outcome.bind_ne_panicked.mpr
    refine ⟨Word.change_ne_panicked.mpr ⟨fitsTaker, fun some => (rest some).1⟩, ?_⟩
    intro changeTaker computed'
    by_cases nothing' : exactSum figures.takerValues = 0
    · obtain ⟨e, refused⟩ := Word.change_of_zero true nothing'
      cases refused.symm.trans computed'
    obtain ⟨-, fitsEscrow, fitsFee⟩ := rest nothing'
    rw [Word.add_of_fits fitsEscrow]
    change (Word.mul true figures.escrowFeeSatPerParticipant 2 >>= _) ≠ _
    rw [Word.mul_of_fits fitsFee]
    exact nofun

/-- Figures that stay within 64 bits and are not covered are refused. -/
theorem outputs_of_not_covered (checks : Bool) (fits : figures.Fits)
    (uncovered : ¬ figures.Covered) :
    ∃ e, figures.outputs checks = .error (.failed e) := by
  by_cases nothing : exactSum figures.makerValues = 0
  · obtain ⟨e, refused⟩ := Word.change_of_zero checks nothing
    exact ⟨e, by rw [outputs, refused]; rfl⟩
  obtain ⟨coveredMaker, fitsTaker, rest⟩ := fits.2 nothing
  by_cases nothing' : exactSum figures.takerValues = 0
  · obtain ⟨changeMaker, computed⟩ :=
      Word.change_of_covered checks fits.1 coveredMaker
    obtain ⟨e, refused⟩ := Word.change_of_zero checks nothing'
    refine ⟨e, ?_⟩
    rw [outputs, computed]
    change (Word.change checks figures.takerValues _ _ >>= _) = _
    rw [refused]
    rfl
  · exact absurd ⟨coveredMaker, (rest nothing').1⟩ uncovered

end EscrowFigures

/-- The assembly gets to its first sum. -/
def ReachesSums (env : Environment (coordinator P)) (w : World (coordinator P))
    (request : OfferPsbtRequest) : Prop :=
  ∃ p w', Call.exec env (prepareEscrow request) w = (.ok p, w')

/-- For a listed offer and what a taker sends for it: without enough inputs there is an error, and
    where the amounts are computed no operation leaves 64 bits. -/
def AssemblesSafely (env : Environment (coordinator P)) (w : World (coordinator P))
    (request : OfferPsbtRequest) : Prop :=
  ∀ row figures, w.state.activeMakerOffers.find? request.offer.offerIdHex = some row →
    row.figures? P request = some figures →
    (¬ figures.Covered →
      ∃ e, (Call.exec env (createEscrowPsbt request) w).1 = .error (.failed e)) ∧
    (ReachesSums env w request → figures.outputs true ≠ .error .panicked)

/-- The assembly is safe iff the figures that it computes with stay within 64 bits. -/
theorem assemblesSafely_iff (env : Environment (coordinator P)) (w : World (coordinator P))
    (request : OfferPsbtRequest) :
    AssemblesSafely env w request ↔
      ∀ row figures, w.state.activeMakerOffers.find? request.offer.offerIdHex = some row →
        row.figures? P request = some figures → ReachesSums env w request → figures.Fits := by
  constructor
  · intro safe row figures found readable reaches
    exact EscrowFigures.outputs_ne_panicked.mp ((safe row figures found readable).2 reaches)
  · intro fits row figures found readable
    refine ⟨fun uncovered => ?_, fun reaches =>
      EscrowFigures.outputs_ne_panicked.mpr (fits row figures found readable reaches)⟩
    cases ends : Call.exec env (prepareEscrow request) w with
    | mk result w' =>
        cases result with
        | ok p =>
            obtain ⟨row', found', readable'⟩ := prepareEscrow_ok ends
            cases found.symm.trans found'
            cases readable.symm.trans readable'
            obtain ⟨e, refused⟩ := EscrowFigures.outputs_of_not_covered P.overflowChecks
              (fits row _ found readable ⟨p, w', ends⟩) uncovered
            exact ⟨e, by rw [createEscrowPsbt_of_error ends refused]⟩
        | error abort =>
            -- an error before the sums, unless the amounts could not be read
            have calm := prepareEscrow_calm env found readable
            rw [ends] at calm
            cases abort with
            | panicked => exact absurd rfl calm
            | failed e =>
                refine ⟨e, ?_⟩
                rw [createEscrowPsbt_eq, Call.exec_bind, ends]

namespace Sample

def largeOrder : OfferRequest := { order false with amountSatoshi := 20000000, bondRatio := 50 }

/-- The world in which the large order is listed. -/
def largeListed : World (coordinator .sample) :=
  runAlone environment [.createOffer largeOrder, .submitMakerBond makerBond]

/-- The maker locks 30000000 sat and brings as much, without the fees. -/
def largeFigures : EscrowFigures := ⟨[30000000], [30000000], 30000000, 10000000, 40000⟩

end Sample

/-- The maker is 45000 sat short. The difference panics, or it wraps and the maker is to get nearly
    2 ^ 64 sat of change. -/
theorem uncovered_share_panics :
    ¬ AssemblesSafely Sample.environment Sample.largeListed Sample.take ∧
      (Call.exec Sample.environment (createEscrowPsbt Sample.take) Sample.largeListed).1 =
        .error .panicked ∧
      Sample.largeFigures.outputs false =
        .ok ⟨18446744073709506616, 19955000, 40000000, 80000⟩ := by
  have panics : (Call.exec Sample.environment (createEscrowPsbt Sample.take)
      Sample.largeListed).1 = .error .panicked := by decide +kernel
  have listed : (Sample.largeListed.state.activeMakerOffers.find? Sample.offerId).bind
      (ActiveMakerOffer.figures? .sample · Sample.take) = some Sample.largeFigures := by
    decide +kernel
  refine ⟨fun safe => ?_, panics, by decide +kernel⟩
  obtain ⟨row, found, readable⟩ := Option.bind_eq_some_iff.mp listed
  have uncovered : ¬ Sample.largeFigures.Covered := by
    unfold EscrowFigures.Covered
    decide
  obtain ⟨e, refused⟩ := (safe row Sample.largeFigures found readable).1 uncovered
  rw [panics] at refused
  cases refused

end TapTrade
