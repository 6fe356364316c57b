import TapTrade.Model.BondValidation
import TapTrade.Model.Sample

/-! # When the validation of bonds gets through

The first error ends the whole validation, whichever bond it comes from. The passes get through iff
nothing goes wrong with any bond: the transactions decode, the amounts can be summed up, the node
answers, and every rejected transaction belongs to a bond.
-/

namespace TapTrade

open Relational

theorem exists_mem_zipIdx {α : Type} {x : α} {xs : List α} :
    (∃ i, (x, i) ∈ xs.zipIdx) ↔ x ∈ xs := by
  rw [List.mem_iff_getElem?]
  apply exists_congr
  intro i
  exact List.mk_mem_zipIdx_iff_getElem?

namespace Chain

variable {P : Platform} {chain : Chain} {tick k : Nat} {bonds rest : List MonitoringBond}
  {invalidBonds : InvalidBonds} {bond : MonitoringBond} {tx : Transaction}

/-- The bond transaction can be read. -/
def Decodable (chain : Chain) (bond : MonitoringBond) : Prop :=
  ∃ tx, chain.transaction bond.bondTxHex = .ok tx

theorem exists_id (decodable : chain.Decodable bond) : ∃ id, bond.id chain = .ok id := by
  obtain ⟨tx, decoded⟩ := decodable
  obtain ⟨bytes, hex, -⟩ := bind_eq_ok.mp decoded
  exact ⟨chain.sha256 bytes, bind_eq_ok.mpr ⟨bytes, hex, rfl⟩⟩

theorem exists_insert (decodable : chain.Decodable bond) (error : Error)
    (invalidBonds : InvalidBonds) :
    ∃ result, chain.insert bond error invalidBonds = .ok result := by
  obtain ⟨id, named⟩ := exists_id decodable
  exact ⟨_, bind_eq_ok.mpr ⟨id, named, rfl⟩⟩

theorem decodable_of_defect {defect : Option Error}
    (checked : chain.defect? P tick k bond = .ok defect) : chain.Decodable bond := by
  obtain ⟨tx, decoded, -⟩ := bind_eq_ok.mp checked
  exact ⟨tx, decoded⟩

theorem decodable_of_search {txid : String}
    (found : chain.searchMonitoringBondByTxid txid bonds = .ok bond) : chain.Decodable bond := by
  induction bonds with
  | nil => cases found
  | cons first bonds ih =>
      obtain ⟨tx, decoded, found⟩ := bind_eq_ok.mp found
      split at found
      · cases found
        exact ⟨tx, decoded⟩
      · exact ih found

/-- Nothing is recorded iff nothing has a cause. -/
theorem Records.rows_eq_nil_iff {cause : MonitoringBond → Prop}
    (records : chain.Records cause invalidBonds) :
    invalidBonds.rows = [] ↔ ∀ bond, ¬ cause bond := by
  constructor
  · intro none bond caused
    obtain ⟨id, -, contained⟩ := records.complete bond caused
    obtain ⟨invalidBond, member, -⟩ := Table.contains_iff_mem.mp contained
    rw [none] at member
    cases member
  · intro uncaused
    apply List.eq_nil_iff_forall_not_mem.mpr
    intro invalidBond member
    exact uncaused _ (records.sound invalidBond member).1

theorem exists_checkTransactions :
    (∃ result, chain.checkTransactions P tick k rest invalidBonds = .ok result) ↔
      ∀ bond i, (bond, i) ∈ rest.zipIdx k → ∃ defect, chain.defect? P tick i bond = .ok defect := by
  induction rest generalizing k invalidBonds with
  | nil => exact iff_of_true ⟨_, rfl⟩ nofun
  | cons first rest ih =>
      simp only [List.zipIdx_cons, List.mem_cons, Prod.mk.injEq]
      constructor
      · rintro ⟨result, checked⟩ bond i (⟨rfl, rfl⟩ | later)
        · obtain ⟨defect, found, -⟩ := bind_eq_ok.mp checked
          exact ⟨defect, found⟩
        · obtain ⟨defect, -, checked⟩ := bind_eq_ok.mp checked
          cases defect with
          | none => exact ih.mp ⟨result, checked⟩ bond i later
          | some error =>
              obtain ⟨flagged, -, checked⟩ := bind_eq_ok.mp checked
              exact ih.mp ⟨result, checked⟩ bond i later
      · intro checkable
        obtain ⟨defect, found⟩ := checkable first k (.inl ⟨rfl, rfl⟩)
        have others (flagged : InvalidBonds) :
            ∃ result, chain.checkTransactions P tick (k + 1) rest flagged = .ok result :=
          ih.mpr fun bond i later => checkable bond i (.inr later)
        cases defect with
        | none =>
            obtain ⟨result, checked⟩ := others invalidBonds
            exact ⟨result, bind_eq_ok.mpr ⟨none, found, checked⟩⟩
        | some error =>
            obtain ⟨flagged, inserted⟩ :=
              exists_insert (decodable_of_defect found) error invalidBonds
            obtain ⟨result, checked⟩ := others flagged
            exact ⟨result, bind_eq_ok.mpr
              ⟨some error, found, bind_eq_ok.mpr ⟨flagged, inserted, checked⟩⟩⟩

theorem exists_rejectBonds {results : List TestMempoolAcceptResult} :
    (∃ result, chain.rejectBonds bonds results invalidBonds = .ok result) ↔
      ∀ res ∈ results, res.allowed = false →
        ∃ bond, chain.searchMonitoringBondByTxid res.txid bonds = .ok bond := by
  induction results generalizing invalidBonds with
  | nil => exact iff_of_true ⟨_, rfl⟩ nofun
  | cons res results ih =>
      rw [List.forall_mem_cons, rejectBonds]
      split
      case isTrue allowed =>
        rw [ih]
        exact (and_iff_right fun refused => by cases allowed.symm.trans refused).symm
      case isFalse refused =>
        constructor
        · rintro ⟨result, rejected⟩
          obtain ⟨first, found, rejected⟩ := bind_eq_ok.mp rejected
          obtain ⟨flagged, -, rejected⟩ := bind_eq_ok.mp rejected
          exact ⟨fun _ => ⟨first, found⟩, ih.mp ⟨result, rejected⟩⟩
        · rintro ⟨belongs, others⟩
          obtain ⟨first, found⟩ := belongs (Bool.eq_false_iff.mpr refused)
          obtain ⟨flagged, inserted⟩ := exists_insert (decodable_of_search found)
            (.message ("Bond not accepted by testmempoolaccept: " ++
              debugText (res.rejectReason.getD "rejected by testmempoolaccept"))) invalidBonds
          obtain ⟨result, rejected⟩ := ih.mpr others
          exact ⟨result, bind_eq_ok.mpr
            ⟨first, found, bind_eq_ok.mpr ⟨flagged, inserted, rejected⟩⟩⟩

theorem exists_lookupMempoolInputs :
    (∃ result, chain.lookupMempoolInputs tick rest invalidBonds = .ok result) ↔
      ∀ bond ∈ rest, chain.Decodable bond := by
  induction rest generalizing invalidBonds with
  | nil => exact iff_of_true ⟨_, rfl⟩ nofun
  | cons first rest ih =>
      rw [List.forall_mem_cons]
      constructor
      · rintro ⟨result, looked⟩
        obtain ⟨tx, decoded, looked⟩ := bind_eq_ok.mp looked
        split at looked
        · obtain ⟨flagged, -, looked⟩ := bind_eq_ok.mp looked
          exact ⟨⟨tx, decoded⟩, ih.mp ⟨result, looked⟩⟩
        · exact ⟨⟨tx, decoded⟩, ih.mp ⟨result, looked⟩⟩
      · rintro ⟨decodable, others⟩
        obtain ⟨tx, decoded⟩ := decodable
        by_cases spent : tx.input.any (chain.inUtxoSet tick)
        · obtain ⟨flagged, inserted⟩ :=
            exists_insert ⟨tx, decoded⟩ (.message "Input in mempool") invalidBonds
          obtain ⟨result, looked⟩ := ih.mpr others
          refine ⟨result, bind_eq_ok.mpr ⟨tx, decoded, ?_⟩⟩
          rw [if_pos spent]
          exact bind_eq_ok.mpr ⟨flagged, inserted, looked⟩
        · obtain ⟨result, looked⟩ := ih.mpr others
          refine ⟨result, bind_eq_ok.mpr ⟨tx, decoded, ?_⟩⟩
          rw [if_neg spent]
          exact looked

/-- The validation gets through iff each of its parts does. -/
theorem exists_validateBonds : (∃ result, chain.validateBonds P tick bonds = .ok result) ↔
    (∀ bond i, (bond, i) ∈ bonds.zipIdx → ∃ defect, chain.defect? P tick i bond = .ok defect) ∧
      ∃ results, chain.testChunks tick 0 ((bonds.map MonitoringBond.bondTxHex).toChunks 25) =
        .ok results ∧ ∀ res ∈ results, res.allowed = false →
          ∃ bond, chain.searchMonitoringBondByTxid res.txid bonds = .ok bond := by
  constructor
  · rintro ⟨result, validated⟩
    obtain ⟨invalid, checked, validated⟩ := bind_eq_ok.mp validated
    obtain ⟨rejected, tested, -⟩ := bind_eq_ok.mp validated
    obtain ⟨results, answered, rejects⟩ := bind_eq_ok.mp tested
    exact ⟨exists_checkTransactions.mp ⟨invalid, checked⟩, results, answered,
      exists_rejectBonds.mp ⟨rejected, rejects⟩⟩
  · rintro ⟨checkable, results, answered, belong⟩
    obtain ⟨invalid, checked⟩ : ∃ invalid, chain.checkTransactions P tick 0 bonds Table.empty =
        .ok invalid := exists_checkTransactions.mpr checkable
    obtain ⟨rejected, rejects⟩ : ∃ rejected, chain.rejectBonds bonds results Table.empty =
        .ok rejected := exists_rejectBonds.mpr belong
    have decodable (bond : MonitoringBond) (member : bond ∈ bonds) : chain.Decodable bond := by
      obtain ⟨i, place⟩ := exists_mem_zipIdx.mpr member
      obtain ⟨defect, found⟩ := checkable bond i place
      exact decodable_of_defect found
    obtain ⟨spent, looked⟩ : ∃ spent, chain.lookupMempoolInputs tick bonds Table.empty =
        .ok spent := exists_lookupMempoolInputs.mpr decodable
    exact ⟨_, bind_eq_ok.mpr ⟨invalid, checked, bind_eq_ok.mpr
      ⟨rejected, bind_eq_ok.mpr ⟨results, answered, rejects⟩,
        bind_eq_ok.mpr ⟨spent, looked, rfl⟩⟩⟩⟩

end Chain

namespace Sample

/-- A bond transaction that locks the output of a funding transaction. -/
def bondTx (txid funding : String) : Transaction where
  txid
  input := [⟨funding, 0⟩]
  output := [⟨10000, Platform.sample.scriptPubkey makerAddress⟩]
  vsize := 150

/-- A bond transaction that locks it in two parts. -/
def splitBondTx : Transaction where
  txid := "t2"
  input := [⟨"f2", 0⟩]
  output := List.replicate 2 ⟨5000, Platform.sample.scriptPubkey makerAddress⟩
  vsize := 150

def bondTx? (bytes : Bytes) : Option Transaction :=
  if bytes = [0xb0] then some (bondTx "t0" "f0")
  else if bytes = [0xb1] then some (bondTx "t1" "f1")
  else if bytes = [0xb2] then some splitBondTx
  else none

/-- The node accepts every transaction that it can read. -/
def verdict (rawBond : String) : Except Error TestMempoolAcceptResult := do
  let tx ← parse "deserialize" bondTx? (← decodeHex rawBond)
  return ⟨tx.txid, true, none⟩

/-- The entries can be visited in the order of their insertion. -/
theorem insertion_perm (_ : Nat) (bonds : InvalidBonds) : bonds.rows.Perm bonds.rows :=
  List.Perm.refl bonds.rows

/-- A chain with three bond transactions, whose mempool spends the outputs. -/
def ledger (spent : List OutPoint) : Chain where
  sha256 bytes := bytes
  deserialize := bondTx?
  verifyTx _ _ _ := .ok ()
  getRawTx _ _ _ := .ok none
  getTx _ _ txid := .ok (some ⟨txid, [], [⟨30000000, [0x51, 0x20]⟩], 150⟩)
  testMempoolAccept _ _ rawBonds := rawBonds.mapM verdict
  inUtxoSet _ input := input ∈ spent
  broadcast _ _ := .ok ()
  visit _ bonds := bonds.rows
  visit_perm := insertion_perm

/-- The bond of an offer. -/
def backing (tradeIdHex bondTxHex : String) : MonitoringBond where
  bondTxHex
  tradeIdHex
  robot := makerRobohash
  requirements := ⟨makerAddress, 10000, 100000⟩
  table := .orderbook

end Sample

end TapTrade
