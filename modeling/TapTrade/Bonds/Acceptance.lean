import Mathlib.Algebra.Order.BigOperators.Group.List
import TapTrade.Bonds.Passes

/-! # The rule for bonds

A bond is accepted by a list of conditions on its transaction. The sums of the rule are sums of
natural numbers over all inputs and outputs. The code sums machine words, which is the same for
transactions that the network allows, and takes the first output to the bond address for the sum
over the outputs to it, which is not.
-/

namespace TapTrade

open Relational

/-- What the outputs are worth together. -/
def totalValue (outputs : List TxOut) : Nat := (outputs.map fun output => output.value.toNat).sum

/-- The outputs that pay the address. -/
def Transaction.paying (P : Platform) (tx : Transaction) (bondAddress : String) : List TxOut :=
  match P.addressFromStr bondAddress with
  | some address =>
      if P.isValidForRegtest address then
        tx.output.filter fun output => output.scriptPubkey = P.scriptPubkey address
      else []
  | none => []

namespace Chain

section Rule

variable (P : Platform) (chain : Chain) (tick : Nat)

/-- `testmempoolaccept` answers, and has nothing against the transaction. -/
def Allows (bondTxHex : String) : Prop :=
  ∃ results, chain.testMempoolAccept tick 0 [bondTxHex] = .ok results ∧
    ∀ res ∈ results, res.allowed

/-- The bond meets the rule, with its transaction and the outputs that this spends. -/
structure Meets (bondTxHex : String) (requirements : BondRequirements) (tx : Transaction)
    (spent : List TxOut) : Prop where
  decoded : chain.transaction bondTxHex = .ok tx
  verified : chain.verifyTx tick 0 tx = .ok ()
  looked : tx.input.mapM (chain.lookUp tick 0) = .ok spent
  inputSum : requirements.minInputSumSat.toNat ≤ totalValue spent
  outputSum : requirements.lockingAmountSat.toNat ≤
    totalValue (tx.paying P requirements.bondAddress)
  feeRate : (200 : ℚ) ≤ (totalValue spent - totalValue tx.output) / tx.vsize.toNat
  allowed : chain.Allows tick bondTxHex
  untouched : ∀ input ∈ tx.input, chain.inUtxoSet tick input = false

/-- The rule for bonds. -/
def Acceptable (bondTxHex : String) (requirements : BondRequirements) : Prop :=
  ∃ tx spent, chain.Meets P tick bondTxHex requirements tx spent

/-- The first output to the bond address is worth the locking amount by itself. -/
def FirstOutputLocks (bondTxHex : String) (requirements : BondRequirements) : Prop :=
  ∃ tx, chain.transaction bondTxHex = .ok tx ∧
    ∃ output ∈ (tx.paying P requirements.bondAddress).head?,
      requirements.lockingAmountSat ≤ output.value

/-- What the network allows spends no more than there is: the values that the inputs spend fit a
    machine word together, and those of the outputs do not exceed them. -/
def Consensus : Prop :=
  ∀ bondTxHex tx spent, chain.transaction bondTxHex = .ok tx → chain.Allows tick bondTxHex →
    tx.input.mapM (chain.lookUp tick 0) = .ok spent →
    totalValue spent < 2 ^ 64 ∧ totalValue tx.output ≤ totalValue spent

end Rule

variable {P : Platform} {chain : Chain} {tick : Nat} {bondTxHex : String}
  {requirements : BondRequirements} {tx : Transaction} {spent : List TxOut} {total sum : UInt64}

theorem totalValue_cons (output : TxOut) (outputs : List TxOut) :
    totalValue (output :: outputs) = output.value.toNat + totalValue outputs := by
  rw [totalValue, List.map_cons, List.sum_cons, totalValue]

/-- Machine words add up to the sum as long as there is room. -/
theorem toNat_foldl_value {outputs : List TxOut}
    (fits : total.toNat + totalValue outputs < 2 ^ 64) :
    (outputs.foldl (fun total output => total + output.value) total).toNat =
      total.toNat + totalValue outputs := by
  induction outputs generalizing total with
  | nil => rfl
  | cons output outputs ih =>
      rw [totalValue_cons] at fits ⊢
      have step : (total + output.value).toNat = total.toNat + output.value.toNat := by
        rw [UInt64.toNat_add]
        omega
      rw [List.foldl_cons, ih (by omega), step]
      omega

/-- The loop over the inputs looks up what they spend, and sums it up. -/
theorem addInputs_eq_ok {inputs : List OutPoint} : chain.addInputs tick 0 total inputs = .ok sum ↔
    ∃ spent, inputs.mapM (chain.lookUp tick 0) = .ok spent ∧
      spent.foldl (fun total output => total + output.value) total = sum := by
  induction inputs generalizing total with
  | nil =>
      constructor
      · intro summed
        exact ⟨[], rfl, Except.ok.inj summed⟩
      · rintro ⟨spent, looked, rfl⟩
        cases looked
        rfl
  | cons input inputs ih =>
      rw [addInputs_cons, List.mapM_cons]
      constructor
      · intro summed
        obtain ⟨output, here, summed⟩ := bind_eq_ok.mp summed
        obtain ⟨spent, looked, summed⟩ := ih.mp summed
        exact ⟨output :: spent, bind_eq_ok.mpr ⟨output, here,
          bind_eq_ok.mpr ⟨spent, looked, rfl⟩⟩, summed⟩
      · rintro ⟨spent, looked, summed⟩
        obtain ⟨output, here, looked⟩ := bind_eq_ok.mp looked
        obtain ⟨others, lookedOthers, same⟩ := bind_eq_ok.mp looked
        cases same
        exact bind_eq_ok.mpr ⟨output, here, ih.mpr ⟨others, lookedOthers, summed⟩⟩

theorem bondOutputSum_eq_ok {bondAddress : String} :
    tx.bondOutputSum P bondAddress = .ok sum ↔
      ∃ output ∈ (tx.paying P bondAddress).head?, output.value = sum := by
  unfold Transaction.bondOutputSum Transaction.paying parse
  cases P.addressFromStr bondAddress with
  | none => exact iff_of_false nofun nofun
  | some address =>
      dsimp only [bind, Except.bind]
      split
      · rw [List.head?_filter]
        cases tx.output.find? fun output => output.scriptPubkey = P.scriptPubkey address with
        | none => exact iff_of_false nofun nofun
        | some output =>
            constructor
            · exact fun found => ⟨output, rfl, Except.ok.inj found⟩
            · rintro ⟨first, found, worth⟩
              cases found
              cases worth
              rfl
      · exact iff_of_false nofun nofun

theorem inputSum_eq_ok : chain.inputSum tick 0 tx = .ok sum ↔
    ∃ spent, tx.input.mapM (chain.lookUp tick 0) = .ok spent ∧
      spent.foldl (fun total output => total + output.value) 0 = sum ∧ sum ≠ 0 := by
  constructor
  · intro summed
    obtain ⟨total, added, summed⟩ := bind_eq_ok.mp summed
    obtain ⟨spent, looked, total⟩ := addInputs_eq_ok.mp added
    split at summed
    · cases summed
    case isFalse nonzero =>
      cases summed
      exact ⟨spent, looked, total, nonzero⟩
  · rintro ⟨spent, looked, total, nonzero⟩
    refine bind_eq_ok.mpr ⟨sum, addInputs_eq_ok.mpr ⟨spent, looked, total⟩, ?_⟩
    rw [if_neg nonzero]
    rfl

/-- The first check finds nothing wrong iff the sums are large enough, as the code takes them. -/
theorem defect_eq_none (bond : MonitoringBond) :
    chain.defect? P tick 0 bond = .ok none ↔
      ∃ tx inputSum outputSum, chain.transaction bond.bondTxHex = .ok tx ∧
        chain.verifyTx tick 0 tx = .ok () ∧ chain.inputSum tick 0 tx = .ok inputSum ∧
        bond.requirements.minInputSumSat ≤ inputSum ∧
        tx.bondOutputSum P bond.requirements.bondAddress = .ok outputSum ∧
        bond.requirements.lockingAmountSat ≤ outputSum ∧
        200 ≤ (inputSum - tx.allOutputSum) / tx.vsize := by
  constructor
  · intro checked
    obtain ⟨tx, decoded, checked⟩ := bind_eq_ok.mp checked
    split at checked
    · cases checked
    case h_2 verified =>
      obtain ⟨inputSum, summed, checked⟩ := bind_eq_ok.mp checked
      split at checked
      · cases checked
      case isFalse enoughIn =>
        obtain ⟨outputSum, paid, checked⟩ := bind_eq_ok.mp checked
        split at checked
        · cases checked
        case isFalse enoughOut =>
          dsimp only at checked
          split at checked
          · cases checked
          case isFalse enoughFee =>
            exact ⟨tx, inputSum, outputSum, decoded, verified, summed,
              UInt64.not_lt.mp enoughIn, paid, UInt64.not_lt.mp enoughOut,
              UInt64.not_lt.mp enoughFee⟩
  · rintro ⟨tx, inputSum, outputSum, decoded, verified, summed, enoughIn, paid, enoughOut,
      enoughFee⟩
    refine bind_eq_ok.mpr ⟨tx, decoded, ?_⟩
    rw [verified]
    refine bind_eq_ok.mpr ⟨inputSum, summed, ?_⟩
    rw [if_neg (UInt64.not_lt.mpr enoughIn)]
    refine bind_eq_ok.mpr ⟨outputSum, paid, ?_⟩
    rw [if_neg (UInt64.not_lt.mpr enoughOut)]
    dsimp only
    rw [if_neg (UInt64.not_lt.mpr enoughFee)]
    rfl

/-- The rounded fee rate of the code reaches the bound iff the exact one does. -/
theorem feeRate_iff (inputs outputs : Nat) (vsize fee : UInt64) (covered : outputs ≤ inputs)
    (difference : fee.toNat = inputs - outputs) :
    200 ≤ fee / vsize ↔ (200 : ℚ) ≤ (inputs - outputs) / vsize.toNat := by
  have exact : ((inputs : ℚ) - outputs) = ((inputs - outputs : Nat) : ℚ) :=
    (Nat.cast_sub covered).symm
  rw [UInt64.le_iff_toNat_le, UInt64.toNat_div, difference, exact]
  change 200 ≤ (inputs - outputs) / vsize.toNat ↔ _
  rcases Nat.eq_zero_or_pos vsize.toNat with zero | positive
  · rw [zero, Nat.div_zero, Nat.cast_zero, div_zero]
    exact iff_of_false (by omega) (by norm_num)
  · rw [Nat.le_div_iff_mul_le positive, le_div_iff₀ (Nat.cast_pos.mpr positive)]
    exact_mod_cast Iff.rfl

/-- The bond that stands for a submitted transaction. -/
def dummyMonitoringBond (bondTxHex : String) (requirements : BondRequirements) : MonitoringBond :=
  { bondTxHex, tradeIdHex := "0", robot := [0], requirements, table := .memory }

/-- A single transaction is one chunk. -/
theorem testChunks_singleton {bond : MonitoringBond} {results : List TestMempoolAcceptResult} :
    chain.testChunks tick 0 (([bond].map MonitoringBond.bondTxHex).toChunks 25) = .ok results ↔
      chain.testMempoolAccept tick 0 [bond.bondTxHex] = .ok results := by
  change (chain.testMempoolAccept tick 0 [bond.bondTxHex] >>= fun rawBonds =>
    (.ok (rawBonds ++ []) : Except Error _)) = .ok results ↔ _
  cases chain.testMempoolAccept tick 0 [bond.bondTxHex] with
  | error e => rfl
  | ok answers => simp [bind, Except.bind]

/-- A submitted bond is accepted iff the validation of it alone records nothing. -/
theorem validateBondTxHex_iff_rows :
    chain.validateBondTxHex P tick bondTxHex requirements = .ok () ↔ ∃ invalidBonds,
      chain.validateBonds P tick [dummyMonitoringBond bondTxHex requirements] = .ok invalidBonds ∧
        invalidBonds.rows = [] := by
  constructor
  · intro accepted
    obtain ⟨invalidBonds, validated, visited⟩ := bind_eq_ok.mp accepted
    refine ⟨invalidBonds, validated, ?_⟩
    split at visited
    case h_1 empty =>
      exact List.perm_nil.mp ((chain.visit_perm tick invalidBonds).symm.trans (.of_eq empty))
    case h_2 => cases visited
  · rintro ⟨invalidBonds, validated, none⟩
    refine bind_eq_ok.mpr ⟨_, validated, ?_⟩
    have empty := chain.visit_perm tick invalidBonds
    rw [none] at empty
    rw [empty.eq_nil]
    rfl

/-- A submitted bond is accepted iff none of the three checks records it. -/
theorem validateBondTxHex_iff : chain.validateBondTxHex P tick bondTxHex requirements = .ok () ↔
    chain.defect? P tick 0 (dummyMonitoringBond bondTxHex requirements) = .ok none ∧
      chain.Allows tick bondTxHex ∧
      ¬ chain.Spent tick (dummyMonitoringBond bondTxHex requirements) := by
  let bond := dummyMonitoringBond bondTxHex requirements
  rw [validateBondTxHex_iff_rows]
  constructor
  · rintro ⟨invalidBonds, validated, none⟩
    obtain ⟨checkable, results, answered, belong⟩ := exists_validateBonds.mp ⟨_, validated⟩
    obtain ⟨results', invalid, rejected, spent, answered', rfl, recordsInvalid, recordsRejected,
      recordsSpent⟩ := records_validateBonds validated
    cases answered.symm.trans answered'
    have records := (recordsInvalid.extend recordsRejected).extend recordsSpent
    have uncaused := records.rows_eq_nil_iff.mp none
    refine ⟨?_, ⟨results, testChunks_singleton.mp answered, ?_⟩, ?_⟩
    · obtain ⟨defect, found⟩ := checkable bond 0 (List.mem_singleton_self _)
      cases defect with
      | none => exact found
      | some error =>
          exact absurd (.inl (.inl ⟨0, List.mem_singleton_self _, error, found⟩)) (uncaused bond)
    · intro res member
      by_contra refused
      have refused := Bool.eq_false_iff.mpr refused
      obtain ⟨first, found⟩ := belong res member refused
      exact uncaused first (.inl (.inr ⟨res, member, refused, found⟩))
    · exact fun hit => uncaused bond (.inr ⟨List.mem_singleton_self bond, hit⟩)
  · rintro ⟨sound, ⟨results, answered, allowed⟩, untouched⟩
    obtain ⟨invalidBonds, validated⟩ : ∃ invalidBonds, chain.validateBonds P tick [bond] =
        .ok invalidBonds := by
      refine exists_validateBonds.mpr ⟨?_, results, testChunks_singleton.mpr answered, ?_⟩
      · intro other i place
        cases List.mem_singleton.mp place
        exact ⟨none, sound⟩
      · intro res member refused
        cases (allowed res member).symm.trans refused
    obtain ⟨results', invalid, rejected, spent, answered', rfl, recordsInvalid, recordsRejected,
      recordsSpent⟩ := records_validateBonds validated
    cases answered.symm.trans (testChunks_singleton.mp answered')
    refine ⟨_, validated, ?_⟩
    apply ((recordsInvalid.extend recordsRejected).extend recordsSpent).rows_eq_nil_iff.mpr
    rintro other ((⟨i, place, error, found⟩ | ⟨res, member, refused, -⟩) | ⟨listed, hit⟩)
    · cases List.mem_singleton.mp place
      cases found.symm.trans sound
    · cases (allowed res member).symm.trans refused
    · cases List.mem_singleton.mp listed
      exact untouched hit

/-- The sums of the code are those of the rule for what the network allows. -/
structure Summed (tx : Transaction) (spent : List TxOut) (inputSum : UInt64) : Prop where
  inputs : inputSum.toNat = totalValue spent
  fee : (inputSum - tx.allOutputSum).toNat = totalValue spent - totalValue tx.output
  covered : totalValue tx.output ≤ totalValue spent

theorem summed_of_consensus (consensus : chain.Consensus tick)
    (decoded : chain.transaction bondTxHex = .ok tx) (allowed : chain.Allows tick bondTxHex)
    (looked : tx.input.mapM (chain.lookUp tick 0) = .ok spent) :
    Summed tx spent (spent.foldl (fun total output => total + output.value) 0) := by
  obtain ⟨fits, covered⟩ := consensus bondTxHex tx spent decoded allowed looked
  have inputs := @toNat_foldl_value 0 spent (by rw [UInt64.toNat_zero]; omega)
  have outputs := @toNat_foldl_value 0 tx.output (by rw [UInt64.toNat_zero]; omega)
  rw [UInt64.toNat_zero, Nat.zero_add] at inputs outputs
  refine ⟨inputs, ?_, covered⟩
  rw [UInt64.toNat_sub_of_le]
  · rw [inputs, Transaction.allOutputSum, outputs]
  · rw [UInt64.le_iff_toNat_le, inputs, Transaction.allOutputSum, outputs]
    exact covered

theorem value_le_totalValue {output : TxOut} {outputs : List TxOut} (member : output ∈ outputs) :
    output.value.toNat ≤ totalValue outputs :=
  List.le_sum_of_mem (List.mem_map_of_mem member)

/-- What the code accepts: the rule, with the first output to the bond address in the place of all
    of them. -/
theorem accepted_iff (consensus : chain.Consensus tick) :
    chain.validateBondTxHex P tick bondTxHex requirements = .ok () ↔
      chain.Acceptable P tick bondTxHex requirements ∧
        chain.FirstOutputLocks P bondTxHex requirements := by
  rw [validateBondTxHex_iff, defect_eq_none]
  constructor
  · rintro ⟨⟨tx, inputSum, outputSum, decoded, verified, summed, enoughIn, paid, enoughOut,
      enoughFee⟩, allowed, untouched⟩
    obtain ⟨spent, looked, rfl, nonzero⟩ := inputSum_eq_ok.mp summed
    obtain ⟨first, isFirst, rfl⟩ := bondOutputSum_eq_ok.mp paid
    have sums := summed_of_consensus consensus decoded allowed looked
    refine ⟨⟨tx, spent, ?_⟩, tx, decoded, first, isFirst, enoughOut⟩
    constructor
    · exact decoded
    · exact verified
    · exact looked
    · rw [← sums.inputs]
      exact UInt64.le_iff_toNat_le.mp enoughIn
    · exact (UInt64.le_iff_toNat_le.mp enoughOut).trans
        (value_le_totalValue (List.mem_of_mem_head? isFirst))
    · exact (feeRate_iff _ _ tx.vsize _ sums.covered sums.fee).mp enoughFee
    · exact allowed
    · intro input member
      by_contra hit
      exact untouched ⟨tx, decoded, input, member, Bool.eq_true_of_not_eq_false hit⟩
  · rintro ⟨⟨tx, spent, meets⟩, tx', decoded', first, isFirst, locks⟩
    cases meets.decoded.symm.trans decoded'
    have sums := summed_of_consensus consensus meets.decoded meets.allowed meets.looked
    have enoughFee := (feeRate_iff _ _ tx.vsize _ sums.covered sums.fee).mpr meets.feeRate
    refine ⟨⟨tx, _, first.value, meets.decoded, meets.verified,
      inputSum_eq_ok.mpr ⟨spent, meets.looked, rfl, ?_⟩, ?_,
      bondOutputSum_eq_ok.mpr ⟨first, isFirst, rfl⟩, locks, enoughFee⟩, meets.allowed, ?_⟩
    · intro zero
      have nothing : totalValue spent = 0 := by rw [← sums.inputs, zero, UInt64.toNat_zero]
      have unspent : totalValue tx.output = 0 := by
        have := sums.covered
        omega
      have feeRate := meets.feeRate
      rw [nothing, unspent, sub_self, zero_div] at feeRate
      norm_num at feeRate
    · rw [UInt64.le_iff_toNat_le, sums.inputs]
      exact meets.inputSum
    · rintro ⟨tx', decoded', input, member, hit⟩
      cases meets.decoded.symm.trans decoded'
      cases (meets.untouched input member).symm.trans hit

end Chain

/-- The validation of a submitted bond is the rule iff the first output to the bond address of no
    bond that meets the rule is worth less than the locking amount. -/
theorem acceptable_iff (P : Platform) (chain : Chain) (tick : Nat)
    (consensus : chain.Consensus tick) (bondTxHex : String) (requirements : BondRequirements) :
    (chain.validateBondTxHex P tick bondTxHex requirements = .ok () ↔
        chain.Acceptable P tick bondTxHex requirements) ↔
      (chain.Acceptable P tick bondTxHex requirements →
        chain.FirstOutputLocks P bondTxHex requirements) := by
  rw [Chain.accepted_iff consensus]
  exact and_iff_left_iff_imp

namespace Sample

theorem bondTx?_eq_some {bytes : Bytes} {tx : Transaction} (parsed : bondTx? bytes = some tx) :
    (∃ funding, tx.input = [⟨funding, 0⟩]) ∧ totalValue tx.output = 10000 := by
  unfold bondTx? at parsed
  split at parsed
  · cases parsed
    exact ⟨⟨"f0", rfl⟩, rfl⟩
  · split at parsed
    · cases parsed
      exact ⟨⟨"f1", rfl⟩, rfl⟩
    · split at parsed
      · cases parsed
        exact ⟨⟨"f2", rfl⟩, rfl⟩
      · cases parsed

theorem consensus_ledger (spent : List OutPoint) : (ledger spent).Consensus 0 := by
  intro bondTxHex tx outputs decoded allowed looked
  obtain ⟨bytes, -, parsed⟩ := bind_eq_ok.mp decoded
  have known : bondTx? bytes = some tx := by
    unfold parse at parsed
    split at parsed
    case h_1 found =>
      cases parsed
      exact found
    case h_2 => cases parsed
  obtain ⟨⟨funding, inputs⟩, worth⟩ := bondTx?_eq_some known
  rw [inputs] at looked
  have same : outputs = [⟨30000000, [0x51, 0x20]⟩] := (Except.ok.inj looked).symm
  rw [same, worth]
  decide

theorem splitBondTx_acceptable :
    (ledger []).Acceptable .sample 0 "b2" ⟨makerAddress, 10000, 100000⟩ := by
  refine ⟨splitBondTx, [⟨30000000, [0x51, 0x20]⟩], ?_⟩
  constructor
  · decide
  · rfl
  · rfl
  · decide
  · decide
  · have inputs : totalValue [⟨30000000, [0x51, 0x20]⟩] = 30000000 := rfl
    have outputs : totalValue splitBondTx.output = 10000 := rfl
    have vsize : splitBondTx.vsize.toNat = 150 := rfl
    rw [inputs, outputs, vsize]
    norm_num
  · exact ⟨[⟨"t2", true, none⟩], by decide, by decide⟩
  · intro input member
    rfl

end Sample

theorem acceptable_iff_sample :
    ((Sample.ledger []).validateBondTxHex .sample 0 "b0" ⟨Sample.makerAddress, 10000, 100000⟩ =
          .ok () ↔
        (Sample.ledger []).Acceptable .sample 0 "b0" ⟨Sample.makerAddress, 10000, 100000⟩) ↔
      ((Sample.ledger []).Acceptable .sample 0 "b0" ⟨Sample.makerAddress, 10000, 100000⟩ →
        (Sample.ledger []).FirstOutputLocks .sample "b0" ⟨Sample.makerAddress, 10000, 100000⟩) :=
  acceptable_iff .sample (Sample.ledger []) 0 (Sample.consensus_ledger []) "b0" _

/-- A bond that is split over two outputs meets the rule and is refused. -/
theorem split_bond_refused :
    (Sample.ledger []).Consensus 0 ∧
      ¬ ((Sample.ledger []).validateBondTxHex .sample 0 "b2"
            ⟨Sample.makerAddress, 10000, 100000⟩ = .ok () ↔
          (Sample.ledger []).Acceptable .sample 0 "b2" ⟨Sample.makerAddress, 10000, 100000⟩) := by
  refine ⟨Sample.consensus_ledger [], fun same => ?_⟩
  have accepted := same.mpr Sample.splitBondTx_acceptable
  revert accepted
  decide +kernel

end TapTrade
