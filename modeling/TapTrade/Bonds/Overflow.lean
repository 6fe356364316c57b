import TapTrade.Bonds.Acceptance
import TapTrade.Numeric.Checked

/-! # Overflow in the validation of bonds

The sums over inputs and outputs and their difference are taken in machine words, and nothing
before the fee rate compares what a bond transaction spends with what it pays. `checkedDefect?` is
the first check in a build that panics on overflow; as long as it does not, it finds what the build
that wraps finds.
-/

namespace TapTrade

open Relational Resumption Numeric

/-- `all_output_sum` in a build that checks for overflow. -/
def Transaction.checkedOutputSum (tx : Transaction) : Outcome Error UInt64 :=
  Outcome.unwrap (checkedSum 0 (tx.output.map TxOut.value))

/-- `input_sum - tx.all_output_sum()` in such a build. -/
def Transaction.checkedFee (tx : Transaction) (inputSum : UInt64) : Outcome Error UInt64 := do
  Outcome.unwrap (checkedSub inputSum (← tx.checkedOutputSum))

namespace Chain

section Checked

variable (P : Platform) (chain : Chain) (tick : Nat)

/-- `input_sum`, from the total of the inputs before. -/
def checkedAddInputs (k : Nat) (total : UInt64) : List OutPoint → Outcome Error UInt64
  | [] => return total
  | input :: inputs => do
      let prevTx ← Outcome.ofExcept (chain.prevTx tick k input.txid)
      match prevTx.output[input.vout.toNat]? with
      | some spentOutput =>
          checkedAddInputs k (← Outcome.unwrap (checkedAdd total spentOutput.value)) inputs
      | none => .error (.failed (.library "VerifyError::InvalidInput"))

def checkedInputSum (k : Nat) (tx : Transaction) : Outcome Error UInt64 := do
  let inputSum ← chain.checkedAddInputs tick k 0 tx.input
  if inputSum = 0 then .error (.failed (.message "Empty input sum in transaction"))
  else return inputSum

/-- The check of the k-th bond in a build that checks for overflow. -/
def checkedDefect? (k : Nat) (bond : MonitoringBond) : Outcome Error (Option Error) := do
  let tx ← Outcome.ofExcept (chain.transaction bond.bondTxHex)
  match chain.verifyTx tick k tx with
  | .error e => return some e
  | .ok () =>
      let inputSum ← chain.checkedInputSum tick k tx
      if inputSum < bond.requirements.minInputSumSat then
        return some (.message ("Bond input sum too small: " ++ toString inputSum))
      else
        let outputSum ← Outcome.ofExcept (tx.bondOutputSum P bond.requirements.bondAddress)
        if outputSum < bond.requirements.lockingAmountSat then
          return some (.message ("Bond output sum too small: " ++ toString outputSum))
        else
          let fee ← tx.checkedFee inputSum
          let feeRate := fee / tx.vsize
          return if feeRate < 200 then
            some (.message ("Bond fee rate too low: " ++ toString feeRate))
          else none

/-- The loop over the bonds, from the k-th one on, in such a build. -/
def checkedTransactions (k : Nat) :
    List MonitoringBond → InvalidBonds → Outcome Error InvalidBonds
  | [], invalidBonds => return invalidBonds
  | bond :: bonds, invalidBonds => do
      match ← chain.checkedDefect? P tick k bond with
      | some error =>
          let flagged ← Outcome.ofExcept (chain.insert bond error invalidBonds)
          checkedTransactions (k + 1) bonds flagged
      | none => checkedTransactions (k + 1) bonds invalidBonds

/-- What the inputs spend, up to the first one that cannot be looked up. An output that is spent
    twice counts twice. -/
def spentOutputs (k : Nat) : List OutPoint → List TxOut
  | [] => []
  | input :: inputs =>
      match chain.lookUp tick k input with
      | .ok output => output :: spentOutputs k inputs
      | .error _ => []

/-- The transaction gets as far as the check of its fee rate. -/
structure ReachesFeeRate (k : Nat) (tx : Transaction) (requirements : BondRequirements) :
    Prop where
  looked : ∀ input ∈ tx.input, ∃ output, chain.lookUp tick k input = .ok output
  nonempty : 0 < totalValue (chain.spentOutputs tick k tx.input)
  enoughIn : requirements.minInputSumSat.toNat ≤ totalValue (chain.spentOutputs tick k tx.input)
  enoughOut : ∃ first ∈ (tx.paying P requirements.bondAddress).head?,
    requirements.lockingAmountSat ≤ first.value

/-- What the inputs spend fits a machine word, and covers the outputs where the two are
    compared. -/
structure Covered (k : Nat) (tx : Transaction) (requirements : BondRequirements) : Prop where
  fits : totalValue (chain.spentOutputs tick k tx.input) < 2 ^ 64
  covers : chain.ReachesFeeRate P tick k tx requirements →
    totalValue tx.output ≤ totalValue (chain.spentOutputs tick k tx.input)

end Checked

variable {P : Platform} {chain : Chain} {tick k : Nat} {tx : Transaction} {total sum : UInt64}
  {inputs : List OutPoint} {requirements : BondRequirements}

theorem exactSum_values (outputs : List TxOut) :
    exactSum (outputs.map TxOut.value) = totalValue outputs := by
  simp [exactSum, totalValue, Function.comp_def]

theorem checkedAddInputs_cons (input : OutPoint) (inputs : List OutPoint) :
    chain.checkedAddInputs tick k total (input :: inputs) =
      Outcome.ofExcept (chain.lookUp tick k input) >>= fun output =>
        Outcome.unwrap (checkedAdd total output.value) >>= fun next =>
          chain.checkedAddInputs tick k next inputs := by
  rw [checkedAddInputs, lookUp]
  cases chain.prevTx tick k input.txid with
  | error e => rfl
  | ok prevTx =>
      dsimp only [bind, Except.bind, Outcome.ofExcept]
      cases prevTx.output[input.vout.toNat]? <;> rfl

/-- The loop over the inputs panics iff what they spend does not fit. -/
theorem checkedAddInputs_eq : chain.checkedAddInputs tick k total inputs =
    if total.toNat + totalValue (chain.spentOutputs tick k inputs) < 2 ^ 64 then
      Outcome.ofExcept (chain.addInputs tick k total inputs)
    else .error .panicked := by
  induction inputs generalizing total with
  | nil =>
      have below := total.toNat_lt
      rw [if_pos (by simpa [spentOutputs, totalValue] using below)]
      rfl
  | cons input inputs ih =>
      rw [checkedAddInputs_cons, addInputs_cons, spentOutputs]
      cases chain.lookUp tick k input with
      | error e =>
          have below := total.toNat_lt
          rw [if_pos (by simpa [totalValue] using below)]
          rfl
      | ok output =>
          change (Outcome.unwrap (checkedAdd total output.value) >>= _) = if _ then
            Outcome.ofExcept (chain.addInputs tick k (total + output.value) inputs) else _
          rw [totalValue_cons]
          cases step : checkedAdd total output.value with
          | none =>
              rw [checkedAdd_eq_none] at step
              rw [if_neg (by omega)]
              rfl
          | some next =>
              have same := add_of_checkedAdd step
              rw [checkedAdd_eq_some] at step
              change chain.checkedAddInputs tick k next inputs = _
              rw [ih, same, step, Nat.add_assoc]

/-- As long as it fits, the sum of the code is what the inputs spend. -/
theorem addInputs_eq_ok_iff
    (fits : total.toNat + totalValue (chain.spentOutputs tick k inputs) < 2 ^ 64) :
    chain.addInputs tick k total inputs = .ok sum ↔
      (∀ input ∈ inputs, ∃ output, chain.lookUp tick k input = .ok output) ∧
        sum.toNat = total.toNat + totalValue (chain.spentOutputs tick k inputs) := by
  induction inputs generalizing total with
  | nil =>
      simp only [addInputs, spentOutputs, totalValue, List.not_mem_nil, false_implies, implies_true,
        true_and, List.map_nil, List.sum_nil, Nat.add_zero, UInt64.toNat_inj]
      exact ⟨fun same => (Except.ok.inj same).symm, fun same => congrArg Except.ok same.symm⟩
  | cons input inputs ih =>
      rw [addInputs_cons, List.forall_mem_cons]
      rw [spentOutputs] at fits ⊢
      cases found : chain.lookUp tick k input with
      | error e =>
          apply iff_of_false
          · intro ok
            cases ok
          · rintro ⟨⟨⟨output, same⟩, -⟩, -⟩
            cases same
      | ok output =>
          rw [found] at fits
          dsimp only at fits
          rw [totalValue_cons] at fits
          have step : (total + output.value).toNat = total.toNat + output.value.toNat := by
            rw [UInt64.toNat_add]
            omega
          dsimp only [bind, Except.bind]
          rw [ih (by omega), totalValue_cons, step, Nat.add_assoc]
          simp

theorem checkedInputSum_eq : chain.checkedInputSum tick k tx =
    if totalValue (chain.spentOutputs tick k tx.input) < 2 ^ 64 then
      Outcome.ofExcept (chain.inputSum tick k tx)
    else .error .panicked := by
  rw [checkedInputSum, checkedAddInputs_eq, UInt64.toNat_zero, Nat.zero_add, inputSum]
  by_cases fits : totalValue (chain.spentOutputs tick k tx.input) < 2 ^ 64
  · rw [if_pos fits, if_pos fits]
    cases chain.addInputs tick k 0 tx.input with
    | error e => rfl
    | ok sum =>
        dsimp only [Outcome.ofExcept, bind, Except.bind]
        split <;> rfl
  · rw [if_neg fits, if_neg fits]
    rfl

theorem inputSum_eq_ok_iff (fits : totalValue (chain.spentOutputs tick k tx.input) < 2 ^ 64) :
    chain.inputSum tick k tx = .ok sum ↔
      (∀ input ∈ tx.input, ∃ output, chain.lookUp tick k input = .ok output) ∧
        sum.toNat = totalValue (chain.spentOutputs tick k tx.input) ∧ sum ≠ 0 := by
  have added (sum : UInt64) : chain.addInputs tick k 0 tx.input = .ok sum ↔ _ :=
    addInputs_eq_ok_iff (by rwa [UInt64.toNat_zero, Nat.zero_add])
  simp only [UInt64.toNat_zero, Nat.zero_add] at added
  constructor
  · intro summed
    obtain ⟨total, looped, summed⟩ := bind_eq_ok.mp summed
    obtain ⟨looked, exact⟩ := (added total).mp looped
    split at summed
    · cases summed
    case isFalse nonzero =>
      cases summed
      exact ⟨looked, exact, nonzero⟩
  · rintro ⟨looked, exact, nonzero⟩
    apply bind_eq_ok.mpr
    refine ⟨sum, (added sum).mpr ⟨looked, exact⟩, ?_⟩
    rw [if_neg nonzero]
    rfl

theorem checkedOutputSum_eq : tx.checkedOutputSum =
    if totalValue tx.output < 2 ^ 64 then .ok tx.allOutputSum else .error .panicked := by
  rw [Transaction.checkedOutputSum]
  cases found : checkedSum 0 (tx.output.map TxOut.value) with
  | none =>
      rw [checkedSum_eq_none, exactSum_values, UInt64.toNat_zero, Nat.zero_add] at found
      rw [if_neg (Nat.not_lt.mpr found)]
      rfl
  | some sum =>
      have same := foldl_of_checkedSum found
      rw [checkedSum_eq_some, exactSum_values, UInt64.toNat_zero, Nat.zero_add] at found
      rw [if_pos (found ▸ sum.toNat_lt), Transaction.allOutputSum, ← same, List.foldl_map]
      rfl

/-- The fee is computed iff the inputs cover the outputs. -/
theorem checkedFee_eq (inputSum : UInt64) : tx.checkedFee inputSum =
    if totalValue tx.output ≤ inputSum.toNat then .ok (inputSum - tx.allOutputSum)
    else .error .panicked := by
  have below := inputSum.toNat_lt
  rw [Transaction.checkedFee, checkedOutputSum_eq]
  by_cases fits : totalValue tx.output < 2 ^ 64
  · rw [if_pos fits]
    have exact : tx.allOutputSum.toNat = totalValue tx.output := by
      have summed := @toNat_foldl_value 0 tx.output (by rwa [UInt64.toNat_zero, Nat.zero_add])
      rwa [UInt64.toNat_zero, Nat.zero_add] at summed
    change Outcome.unwrap (checkedSub inputSum tx.allOutputSum) = _
    simp only [checkedSub, UInt64.le_iff_toNat_le, exact]
    by_cases covers : totalValue tx.output ≤ inputSum.toNat
    · rw [if_pos covers, if_pos covers]
      rfl
    · rw [if_neg covers, if_neg covers]
      rfl
  · rw [if_neg fits, if_neg (by omega)]
    rfl

/-- The check reaches the fee rate iff the checks before let the transaction pass. -/
theorem reachesFeeRate_iff (P : Platform) (requirements : BondRequirements)
    (fits : totalValue (chain.spentOutputs tick k tx.input) < 2 ^ 64) :
    chain.ReachesFeeRate P tick k tx requirements ↔
      ∃ inputSum outputSum, chain.inputSum tick k tx = .ok inputSum ∧
        requirements.minInputSumSat ≤ inputSum ∧
        tx.bondOutputSum P requirements.bondAddress = .ok outputSum ∧
        requirements.lockingAmountSat ≤ outputSum := by
  constructor
  · rintro ⟨looked, nonempty, enoughIn, first, isFirst, enoughOut⟩
    have exact : (UInt64.ofNat (totalValue (chain.spentOutputs tick k tx.input))).toNat =
        totalValue (chain.spentOutputs tick k tx.input) := UInt64.toNat_ofNat_of_lt' fits
    have nonzero : UInt64.ofNat (totalValue (chain.spentOutputs tick k tx.input)) ≠ 0 := by
      rw [Ne, ← UInt64.toNat_inj, exact, UInt64.toNat_zero]
      omega
    exact ⟨_, first.value, (inputSum_eq_ok_iff fits).mpr ⟨looked, exact, nonzero⟩,
      UInt64.le_iff_toNat_le.mpr (by rwa [exact]),
      bondOutputSum_eq_ok.mpr ⟨first, isFirst, rfl⟩, enoughOut⟩
  · rintro ⟨inputSum, outputSum, summed, enoughIn, paid, enoughOut⟩
    obtain ⟨looked, exact, nonzero⟩ := (inputSum_eq_ok_iff fits).mp summed
    obtain ⟨first, isFirst, rfl⟩ := bondOutputSum_eq_ok.mp paid
    rw [Ne, ← UInt64.toNat_inj, UInt64.toNat_zero] at nonzero
    rw [UInt64.le_iff_toNat_le] at enoughIn
    constructor
    · exact looked
    · omega
    · omega
    · exact ⟨first, isFirst, enoughOut⟩

/-- What the code does after it has verified the transaction: it panics, or it finds what the
    build that wraps finds. -/
theorem checkedDefect?_eq {bond : MonitoringBond}
    (decoded : chain.transaction bond.bondTxHex = .ok tx)
    (verified : chain.verifyTx tick k tx = .ok ()) :
    chain.checkedDefect? P tick k bond = .error .panicked ∧
        ¬ chain.Covered P tick k tx bond.requirements ∨
      chain.checkedDefect? P tick k bond = Outcome.ofExcept (chain.defect? P tick k bond) ∧
        chain.Covered P tick k tx bond.requirements := by
  rw [checkedDefect?, defect?, decoded]
  dsimp only [Outcome.ofExcept, bind, Except.bind]
  rw [verified]
  dsimp only
  rw [checkedInputSum_eq]
  by_cases fits : totalValue (chain.spentOutputs tick k tx.input) < 2 ^ 64
  · rw [if_pos fits]
    have reaches := reachesFeeRate_iff P bond.requirements fits
    cases summed : chain.inputSum tick k tx with
    | error e =>
        refine .inr ⟨rfl, fits, fun reached => ?_⟩
        obtain ⟨_, _, found, -⟩ := reaches.mp reached
        cases summed.symm.trans found
    | ok inputSum =>
        obtain ⟨-, exact, -⟩ := (inputSum_eq_ok_iff fits).mp summed
        dsimp only [Outcome.ofExcept]
        by_cases enoughIn : inputSum < bond.requirements.minInputSumSat
        · rw [if_pos enoughIn, if_pos enoughIn]
          refine .inr ⟨rfl, fits, fun reached => ?_⟩
          obtain ⟨_, _, found, enough, -⟩ := reaches.mp reached
          cases summed.symm.trans found
          exact absurd enoughIn (UInt64.not_lt.mpr enough)
        · rw [if_neg enoughIn, if_neg enoughIn]
          cases paid : tx.bondOutputSum P bond.requirements.bondAddress with
          | error e =>
              refine .inr ⟨rfl, fits, fun reached => ?_⟩
              obtain ⟨_, _, -, -, found, -⟩ := reaches.mp reached
              cases paid.symm.trans found
          | ok outputSum =>
              dsimp only
              by_cases enoughOut : outputSum < bond.requirements.lockingAmountSat
              · rw [if_pos enoughOut, if_pos enoughOut]
                refine .inr ⟨rfl, fits, fun reached => ?_⟩
                obtain ⟨_, _, -, -, found, enough⟩ := reaches.mp reached
                cases paid.symm.trans found
                exact absurd enoughOut (UInt64.not_lt.mpr enough)
              · rw [if_neg enoughOut, if_neg enoughOut, checkedFee_eq, exact]
                have reached : chain.ReachesFeeRate P tick k tx bond.requirements :=
                  reaches.mpr ⟨inputSum, outputSum, summed, UInt64.not_lt.mp enoughIn, paid,
                    UInt64.not_lt.mp enoughOut⟩
                by_cases covers : totalValue tx.output ≤
                    totalValue (chain.spentOutputs tick k tx.input)
                · rw [if_pos covers]
                  exact .inr ⟨rfl, fits, fun _ => covers⟩
                · rw [if_neg covers]
                  exact .inl ⟨rfl, fun covered => covers (covered.covers reached)⟩
  · rw [if_neg fits]
    exact .inl ⟨rfl, fun covered => fits covered.fits⟩

/-- A transaction that is not verified is not summed up. -/
theorem checkedDefect?_of_covered {bond : MonitoringBond}
    (covered : ∀ tx, chain.transaction bond.bondTxHex = .ok tx →
      chain.verifyTx tick k tx = .ok () → chain.Covered P tick k tx bond.requirements) :
    chain.checkedDefect? P tick k bond = Outcome.ofExcept (chain.defect? P tick k bond) := by
  cases decoded : chain.transaction bond.bondTxHex with
  | error e =>
      rw [checkedDefect?, defect?, decoded]
      rfl
  | ok tx =>
      cases verified : chain.verifyTx tick k tx with
      | error e =>
          rw [checkedDefect?, defect?, decoded]
          dsimp only [Outcome.ofExcept, bind, Except.bind]
          rw [verified]
          rfl
      | ok u =>
          rcases checkedDefect?_eq (P := P) decoded verified with ⟨-, uncovered⟩ | ⟨same, -⟩
          · exact absurd (covered tx decoded verified) uncovered
          · exact same

/-- If every verified bond is covered then the builds do not differ. -/
theorem checkedTransactions_eq {bonds : List MonitoringBond} {invalidBonds : InvalidBonds}
    (covered : ∀ bond i, (bond, i) ∈ bonds.zipIdx k →
      ∀ tx, chain.transaction bond.bondTxHex = .ok tx → chain.verifyTx tick i tx = .ok () →
        chain.Covered P tick i tx bond.requirements) :
    chain.checkedTransactions P tick k bonds invalidBonds =
      Outcome.ofExcept (chain.checkTransactions P tick k bonds invalidBonds) := by
  induction bonds generalizing k invalidBonds with
  | nil => rfl
  | cons bond bonds ih =>
      rw [List.zipIdx_cons] at covered
      have rest (flagged : InvalidBonds) := @ih (k + 1) flagged fun other i member =>
        covered other i (List.mem_cons_of_mem _ member)
      rw [checkedTransactions, checkTransactions,
        checkedDefect?_of_covered (covered bond k (List.mem_cons_self ..))]
      rcases chain.defect? P tick k bond with e | (_ | error)
      · rfl
      · exact rest invalidBonds
      · change Outcome.ofExcept (chain.insert bond error invalidBonds) >>= _ =
          Outcome.ofExcept (chain.insert bond error invalidBonds >>= _)
        cases chain.insert bond error invalidBonds with
        | error e => rfl
        | ok flagged => exact rest flagged

end Chain

/-- No operation on the amounts of a verified bond transaction overflows iff its inputs fit a
    machine word together and, if the transaction gets as far as the check of its fee rate, cover
    its outputs. -/
theorem bondArithmetic_iff (P : Platform) (chain : Chain) (tick k : Nat) {bond : MonitoringBond}
    {tx : Transaction} (decoded : chain.transaction bond.bondTxHex = .ok tx)
    (verified : chain.verifyTx tick k tx = .ok ()) :
    chain.checkedDefect? P tick k bond ≠ .error .panicked ↔
      chain.Covered P tick k tx bond.requirements := by
  obtain ⟨panics, uncovered⟩ | ⟨same, covered⟩ :=
    Chain.checkedDefect?_eq (P := P) decoded verified
  · exact iff_of_false (fun safe => safe panics) uncovered
  · exact iff_of_true (same ▸ Outcome.ofExcept_ne_panicked _) covered

namespace Sample

/-- A bond transaction that pays more than it spends. -/
def overdrawnBondTx : Transaction where
  txid := "t3"
  input := [⟨"f3", 0⟩]
  output := [⟨10000, Platform.sample.scriptPubkey makerAddress⟩, ⟨40000000, [0x51, 0x20]⟩]
  vsize := 150

/-- A chain on which `b3` is that transaction. -/
def overdrawn : Chain :=
  { ledger [] with
    deserialize := fun bytes => if bytes = [0xb3] then some overdrawnBondTx else none }

end Sample

theorem bondArithmetic_iff_sample :
    (Sample.ledger []).checkedDefect? .sample 0 0 (Sample.backing Sample.offerId "b0") ≠
        .error .panicked ↔
      (Sample.ledger []).Covered .sample 0 0 (Sample.bondTx "t0" "f0")
        (Sample.backing Sample.offerId "b0").requirements :=
  bondArithmetic_iff .sample (Sample.ledger []) 0 0 (by decide) rfl

/-- A bond of 40010000 sat that spends 30000000 sat is verified. The difference panics, or it wraps
    and the fee rate is found to be high enough. -/
theorem overdrawn_bond_overflows :
    Sample.overdrawn.transaction "b3" = .ok Sample.overdrawnBondTx ∧
      Sample.overdrawn.verifyTx 0 0 Sample.overdrawnBondTx = .ok () ∧
      Sample.overdrawn.checkedDefect? .sample 0 0 (Sample.backing Sample.offerId "b3") =
        .error .panicked ∧
      Sample.overdrawn.defect? .sample 0 0 (Sample.backing Sample.offerId "b3") = .ok none := by
  decide +kernel

end TapTrade
