import TapTrade.Model.CoordinatorUtils
import TapTrade.Model.Interface
import TapTrade.Model.Text

/-! # The validation of bonds

`validate_bonds` of `wallet/mod.rs`, with `test_mempool_accept_bonds`, the functions of `BondTx`
and `lookup_mempool_inputs`. Three checks flag bonds in one map, by the hash of their bond
transaction: the checks of the transaction itself, the `testmempoolaccept` of the bitcoin node
and the inputs that the mempool spends.
-/

namespace TapTrade

open Relational Resumption

/-- `bitcoin::Transaction`, as far as it is looked into. -/
structure Transaction where
  txid : String
  input : List OutPoint
  output : List TxOut
  vsize : UInt64
  deriving DecidableEq, Repr

/-- An answer of `testmempoolaccept` about one transaction. -/
structure TestMempoolAcceptResult where
  txid : String
  allowed : Bool
  rejectReason : Option String
  deriving DecidableEq, Repr

/-- An entry of the map of invalid bonds. -/
structure InvalidBond where
  id : Bytes
  bond : MonitoringBond
  error : Error
  deriving DecidableEq, Repr

instance : Keyed InvalidBond Bytes := ⟨InvalidBond.id⟩

abbrev InvalidBonds := Table InvalidBond

/-- What is looked up to validate bonds. Lookups are made at the tick of the validation; the
    number is that of the bond or, for `testmempoolaccept`, of the chunk of bonds. -/
structure Chain where
  sha256 : Bytes → Bytes
  /-- `deserialize::<Transaction>`. -/
  deserialize : Bytes → Option Transaction
  /-- `verify_tx`. -/
  verifyTx : Nat → Nat → Transaction → Except Error Unit
  /-- `get_raw_tx` of the wallet's database. -/
  getRawTx : Nat → Nat → String → Except Error (Option Transaction)
  /-- `get_tx` of the blockchain. -/
  getTx : Nat → Nat → String → Except Error (Option Transaction)
  testMempoolAccept : Nat → Nat → List String → Except Error (List TestMempoolAcceptResult)
  /-- Whether the mempool's `utxo_set` contains the output. -/
  inUtxoSet : Nat → OutPoint → Bool
  broadcast : Nat → Transaction → Except Error Unit
  /-- The order in which the map yields its entries. -/
  visit : Nat → InvalidBonds → List InvalidBond
  visit_perm : ∀ tick bonds, (visit tick bonds).Perm bonds.rows

namespace Transaction

/-- `all_output_sum`. -/
def allOutputSum (tx : Transaction) : UInt64 :=
  tx.output.foldl (fun total output => total + output.value) 0

/-- `bond_output_sum`: what the first output to the address is worth. -/
def bondOutputSum (P : Platform) (tx : Transaction) (bondAddress : String) :
    Except Error UInt64 := do
  let address ← parse "Address::from_str" P.addressFromStr bondAddress
  if P.isValidForRegtest address then
    match tx.output.find? fun output => output.scriptPubkey = P.scriptPubkey address with
    | some output => return output.value
    | none => .error (.message "No output to bond address in transaction")
  else
    .error (.library "require_network")

end Transaction

/-- `MonitoringBond::id`. -/
protected def MonitoringBond.id (chain : Chain) (bond : MonitoringBond) : Except Error Bytes := do
  return chain.sha256 (← decodeHex bond.bondTxHex)

namespace Chain

variable (P : Platform) (chain : Chain) (tick : Nat)

/-- `deserialize(&hex::decode(text)?)?`. -/
def transaction (text : String) : Except Error Transaction := do
  parse "deserialize" chain.deserialize (← decodeHex text)

/-- The transaction that an input spends from. -/
def prevTx (k : Nat) (txid : String) : Except Error Transaction := do
  match ← chain.getRawTx tick k txid with
  | some prevTx => return prevTx
  | none =>
      match ← chain.getTx tick k txid with
      | some prevTx => return prevTx
      | none => .error (.library "VerifyError::MissingInputTx")

/-- The output that an input of the k-th bond spends. -/
def lookUp (k : Nat) (input : OutPoint) : Except Error TxOut := do
  match (← chain.prevTx tick k input.txid).output[input.vout.toNat]? with
  | some spentOutput => return spentOutput
  | none => .error (.library "VerifyError::InvalidInput")

/-- The values that the inputs spend, added to the total. -/
def addInputs (k : Nat) (total : UInt64) : List OutPoint → Except Error UInt64
  | [] => return total
  | input :: inputs => do
      let prevTx ← chain.prevTx tick k input.txid
      match prevTx.output[input.vout.toNat]? with
      | some spentOutput => addInputs k (total + spentOutput.value) inputs
      | none => .error (.library "VerifyError::InvalidInput")

/-- `input_sum`. -/
def inputSum (k : Nat) (tx : Transaction) : Except Error UInt64 := do
  let inputSum ← chain.addInputs tick k 0 tx.input
  if inputSum = 0 then .error (.message "Empty input sum in transaction") else return inputSum

/-- What is wrong with the transaction of the k-th bond. The sums wrap as in a release build;
    one that checks for overflow panics instead and flags nothing. -/
def defect? (k : Nat) (bond : MonitoringBond) : Except Error (Option Error) := do
  let tx ← chain.transaction bond.bondTxHex
  match chain.verifyTx tick k tx with
  | .error e => return some e
  | .ok () =>
      let inputSum ← chain.inputSum tick k tx
      if inputSum < bond.requirements.minInputSumSat then
        return some (.message ("Bond input sum too small: " ++ toString inputSum))
      else
        let outputSum ← tx.bondOutputSum P bond.requirements.bondAddress
        if outputSum < bond.requirements.lockingAmountSat then
          return some (.message ("Bond output sum too small: " ++ toString outputSum))
        else
          let feeRate := (inputSum - tx.allOutputSum) / tx.vsize
          return if feeRate < 200 then
            some (.message ("Bond fee rate too low: " ++ toString feeRate))
          else none

/-- `invalid_bonds.insert(bond.id()?, (bond, error))`. -/
def insert (bond : MonitoringBond) (error : Error) (invalidBonds : InvalidBonds) :
    Except Error InvalidBonds := do
  return invalidBonds.insertOrReplace ⟨← bond.id chain, bond, error⟩

/-- The loop over the transactions of the bonds, from the k-th one on. -/
def checkTransactions (k : Nat) : List MonitoringBond → InvalidBonds → Except Error InvalidBonds
  | [], invalidBonds => return invalidBonds
  | bond :: bonds, invalidBonds => do
      match ← chain.defect? P tick k bond with
      | some error => checkTransactions (k + 1) bonds (← chain.insert bond error invalidBonds)
      | none => checkTransactions (k + 1) bonds invalidBonds

/-- `search_monitoring_bond_by_txid`. -/
def searchMonitoringBondByTxid (txid : String) : List MonitoringBond → Except Error MonitoringBond
  | [] => .error (.message "Bond not found in monitoring bonds")
  | bond :: bonds => do
      if (← chain.transaction bond.bondTxHex).txid = txid then return bond
      else searchMonitoringBondByTxid txid bonds

/-- The calls of `testmempoolaccept`, from the k-th chunk on. -/
def testChunks (k : Nat) : List (List String) → Except Error (List TestMempoolAcceptResult)
  | [] => return []
  | rawBonds :: chunks => do
      return (← chain.testMempoolAccept tick k rawBonds) ++ (← testChunks (k + 1) chunks)

/-- The loop over the answers of `testmempoolaccept`. -/
def rejectBonds (bonds : List MonitoringBond) :
    List TestMempoolAcceptResult → InvalidBonds → Except Error InvalidBonds
  | [], invalidBonds => return invalidBonds
  | res :: results, invalidBonds => do
      if res.allowed then
        rejectBonds bonds results invalidBonds
      else
        let invalidBond ← chain.searchMonitoringBondByTxid res.txid bonds
        let reason := res.rejectReason.getD "rejected by testmempoolaccept"
        rejectBonds bonds results (← chain.insert invalidBond
          (.message ("Bond not accepted by testmempoolaccept: " ++ debugText reason)) invalidBonds)

/-- `test_mempool_accept_bonds`. -/
def testMempoolAcceptBonds (bonds : List MonitoringBond) : Except Error InvalidBonds := do
  let results ← chain.testChunks tick 0 ((bonds.map MonitoringBond.bondTxHex).toChunks 25)
  chain.rejectBonds bonds results Table.empty

/-- `lookup_mempool_inputs`, for the bonds that are left. -/
def lookupMempoolInputs : List MonitoringBond → InvalidBonds → Except Error InvalidBonds
  | [], bondsToPunish => return bondsToPunish
  | bond :: bonds, bondsToPunish => do
      let bondTx ← chain.transaction bond.bondTxHex
      if bondTx.input.any (chain.inUtxoSet tick) then
        lookupMempoolInputs bonds
          (← chain.insert bond (.message "Input in mempool") bondsToPunish)
      else
        lookupMempoolInputs bonds bondsToPunish

/-- `extend`. -/
def extend (invalidBonds others : InvalidBonds) : InvalidBonds :=
  others.rows.foldl Table.insertOrReplace invalidBonds

def validateBonds (bonds : List MonitoringBond) : Except Error InvalidBonds := do
  let invalidBonds ← chain.checkTransactions P tick 0 bonds Table.empty
  let invalidBondsTestmempoolaccept ← chain.testMempoolAcceptBonds tick bonds
  let mempoolBonds ← chain.lookupMempoolInputs tick bonds Table.empty
  return extend (extend invalidBonds invalidBondsTestmempoolaccept) mempoolBonds

def validateBondTxHex (bondTxHex : String) (requirements : BondRequirements) :
    Except Error Unit := do
  let dummyMonitoringBond : MonitoringBond :=
    { bondTxHex, tradeIdHex := "0", robot := [0], requirements, table := .memory }
  match chain.visit tick (← chain.validateBonds P tick [dummyMonitoringBond]) with
  | [] => return ()
  | invalidBond :: _ => .error invalidBond.error

def publishBondTxHex (bond : String) : Except Error Unit := do
  chain.broadcast tick (← chain.transaction bond)

/-- The table holds bonds out of a list, each under its id. -/
def Flags (bonds : List MonitoringBond) (invalidBonds : InvalidBonds) : Prop :=
  ∀ invalidBond ∈ invalidBonds.rows,
    invalidBond.bond ∈ bonds ∧ invalidBond.bond.id chain = .ok invalidBond.id

/-- The table holds bonds with a cause, each under its id, and has an entry for the id of every bond
    with one. -/
structure Records (cause : MonitoringBond → Prop) (invalidBonds : InvalidBonds) : Prop where
  sound : ∀ invalidBond ∈ invalidBonds.rows,
    cause invalidBond.bond ∧ invalidBond.bond.id chain = .ok invalidBond.id
  complete : ∀ bond, cause bond → ∃ id, bond.id chain = .ok id ∧ invalidBonds.Contains id

/-- The first check finds something wrong with the bond, one of those from the k-th on. -/
def Defective (k : Nat) (bonds : List MonitoringBond) (bond : MonitoringBond) : Prop :=
  ∃ i, (bond, i) ∈ bonds.zipIdx k ∧ ∃ error, chain.defect? P tick i bond = .ok (some error)

/-- The bond is the first one with the txid of a transaction that the node does not accept. -/
def Rejected (bonds : List MonitoringBond) (results : List TestMempoolAcceptResult)
    (bond : MonitoringBond) : Prop :=
  ∃ res ∈ results, res.allowed = false ∧ chain.searchMonitoringBondByTxid res.txid bonds = .ok bond

/-- The mempool spends an input of the bond. -/
def Spent (bond : MonitoringBond) : Prop :=
  ∃ tx, chain.transaction bond.bondTxHex = .ok tx ∧ ∃ input ∈ tx.input, chain.inUtxoSet tick input

variable {P chain tick} {bonds : List MonitoringBond} {invalidBonds result : InvalidBonds}
  {bond : MonitoringBond} {cause cause' : MonitoringBond → Prop}

/-- The loop over the inputs looks up what each of them spends. -/
theorem addInputs_cons (k : Nat) (total : UInt64) (input : OutPoint) (inputs : List OutPoint) :
    chain.addInputs tick k total (input :: inputs) = chain.lookUp tick k input >>= fun output =>
      chain.addInputs tick k (total + output.value) inputs := by
  rw [addInputs, lookUp]
  cases chain.prevTx tick k input.txid with
  | error e => rfl
  | ok prevTx =>
      dsimp only [bind, Except.bind]
      cases prevTx.output[input.vout.toNat]? <;> rfl

theorem records_empty : chain.Records (fun _ => False) Table.empty := ⟨nofun, nofun⟩

theorem Records.congr (records : chain.Records cause invalidBonds)
    (same : ∀ bond, cause bond ↔ cause' bond) : chain.Records cause' invalidBonds := by
  constructor
  · intro invalidBond member
    exact (records.sound invalidBond member).imp_left (same _).mp
  · intro bond caused
    exact records.complete bond ((same bond).mpr caused)

theorem Records.insert {error : Error} (records : chain.Records cause invalidBonds)
    (inserted : chain.insert bond error invalidBonds = .ok result) :
    chain.Records (fun other => cause other ∨ other = bond) result := by
  obtain ⟨id, named, inserted⟩ := bind_eq_ok.mp inserted
  cases inserted
  constructor
  · intro invalidBond member
    rcases Table.mem_of_mem_insertOrReplace member with rfl | member
    · exact ⟨.inr rfl, named⟩
    · exact (records.sound invalidBond member).imp_left .inl
  · rintro other (caused | rfl)
    · obtain ⟨otherId, otherNamed, contained⟩ := records.complete other caused
      exact ⟨otherId, otherNamed, Table.contains_insertOrReplace.mpr (.inr contained)⟩
    · exact ⟨id, named, Table.contains_insertOrReplace.mpr (.inl rfl)⟩

theorem Records.extend {others : InvalidBonds} (records : chain.Records cause invalidBonds)
    (records' : chain.Records cause' others) :
    chain.Records (fun bond => cause bond ∨ cause' bond) (extend invalidBonds others) := by
  constructor
  · intro invalidBond member
    rcases Table.mem_foldl_insertOrReplace member with member | member
    · exact (records.sound invalidBond member).imp_left .inl
    · exact (records'.sound invalidBond member).imp_left .inr
  · rintro bond (caused | caused)
    · obtain ⟨id, named, contained⟩ := records.complete bond caused
      exact ⟨id, named, (Table.contains_foldl_insertOrReplace _).mpr (.inl contained)⟩
    · obtain ⟨id, named, contained⟩ := records'.complete bond caused
      exact ⟨id, named, (Table.contains_foldl_insertOrReplace _).mpr
        (.inr (Table.contains_iff_mem.mp contained))⟩

theorem records_checkTransactions {k : Nat} {rest : List MonitoringBond}
    (records : chain.Records cause invalidBonds)
    (checked : chain.checkTransactions P tick k rest invalidBonds = .ok result) :
    chain.Records (fun bond => cause bond ∨ chain.Defective P tick k rest bond) result := by
  induction rest generalizing k invalidBonds cause with
  | nil =>
      cases checked
      exact records.congr fun bond => (or_iff_left nofun).symm
  | cons first rest ih =>
      obtain ⟨defect, found, checked⟩ := bind_eq_ok.mp checked
      cases defect with
      | none =>
          apply (ih records checked).congr
          intro bond
          apply or_congr_right
          simp only [Defective, List.zipIdx_cons, List.mem_cons, Prod.mk.injEq, or_and_right,
            exists_or]
          apply (or_iff_right _).symm
          rintro ⟨i, ⟨rfl, rfl⟩, error, fails⟩
          cases found.symm.trans fails
      | some error =>
          obtain ⟨flagged, inserted, checked⟩ := bind_eq_ok.mp checked
          apply (ih (records.insert inserted) checked).congr
          intro bond
          rw [or_assoc]
          apply or_congr_right
          simp only [Defective, List.zipIdx_cons, List.mem_cons, Prod.mk.injEq, or_and_right,
            exists_or]
          apply or_congr_left
          constructor
          · rintro rfl
            exact ⟨k, ⟨rfl, rfl⟩, error, found⟩
          · rintro ⟨i, ⟨rfl, -⟩, -⟩
            rfl

theorem mem_of_searchMonitoringBondByTxid {txid : String}
    (found : chain.searchMonitoringBondByTxid txid bonds = .ok bond) : bond ∈ bonds := by
  induction bonds with
  | nil => cases found
  | cons first bonds ih =>
      obtain ⟨tx, -, found⟩ := bind_eq_ok.mp found
      split at found
      · cases found
        exact List.mem_cons_self ..
      · exact List.mem_cons_of_mem _ (ih found)

theorem records_rejectBonds {results : List TestMempoolAcceptResult}
    (records : chain.Records cause invalidBonds)
    (rejected : chain.rejectBonds bonds results invalidBonds = .ok result) :
    chain.Records (fun bond => cause bond ∨ chain.Rejected bonds results bond) result := by
  induction results generalizing invalidBonds cause with
  | nil =>
      cases rejected
      exact records.congr fun bond => (or_iff_left nofun).symm
  | cons res results ih =>
      unfold rejectBonds at rejected
      split at rejected
      case isTrue allowed =>
        apply (ih records rejected).congr
        intro bond
        simp [Rejected, allowed]
      case isFalse refused =>
        obtain ⟨first, found, rejected⟩ := bind_eq_ok.mp rejected
        obtain ⟨flagged, inserted, rejected⟩ := bind_eq_ok.mp rejected
        apply (ih (records.insert inserted) rejected).congr
        intro bond
        rw [or_assoc]
        apply or_congr_right
        simp only [Rejected, List.exists_mem_cons_iff]
        apply or_congr_left
        constructor
        · rintro rfl
          exact ⟨Bool.eq_false_iff.mpr refused, found⟩
        · rintro ⟨-, found'⟩
          exact Except.ok.inj (found'.symm.trans found)

theorem records_lookupMempoolInputs {rest : List MonitoringBond}
    (records : chain.Records cause invalidBonds)
    (looked : chain.lookupMempoolInputs tick rest invalidBonds = .ok result) :
    chain.Records (fun bond => cause bond ∨ bond ∈ rest ∧ chain.Spent tick bond) result := by
  induction rest generalizing invalidBonds cause with
  | nil =>
      cases looked
      exact records.congr fun bond => (or_iff_left nofun).symm
  | cons first rest ih =>
      obtain ⟨tx, decoded, looked⟩ := bind_eq_ok.mp looked
      have spent_iff : chain.Spent tick first ↔ tx.input.any (chain.inUtxoSet tick) := by
        simp [Spent, decoded]
      split at looked
      case isTrue spent =>
        obtain ⟨flagged, inserted, looked⟩ := bind_eq_ok.mp looked
        apply (ih (records.insert inserted) looked).congr
        intro bond
        rw [or_assoc, List.mem_cons, or_and_right]
        apply or_congr_right
        apply or_congr_left
        constructor
        · rintro rfl
          exact ⟨rfl, spent_iff.mpr spent⟩
        · exact And.left
      case isFalse unspent =>
        apply (ih records looked).congr
        intro bond
        rw [List.mem_cons, or_and_right]
        apply or_congr_right
        apply (or_iff_right _).symm
        rintro ⟨rfl, spent⟩
        exact unspent (spent_iff.mp spent)

/-- What the three checks record. -/
theorem records_validateBonds (validated : chain.validateBonds P tick bonds = .ok result) :
    ∃ results invalid rejected spent,
      chain.testChunks tick 0 ((bonds.map MonitoringBond.bondTxHex).toChunks 25) = .ok results ∧
      result = extend (extend invalid rejected) spent ∧
      chain.Records (chain.Defective P tick 0 bonds) invalid ∧
      chain.Records (chain.Rejected bonds results) rejected ∧
      chain.Records (fun bond => bond ∈ bonds ∧ chain.Spent tick bond) spent := by
  obtain ⟨invalid, checked, validated⟩ := bind_eq_ok.mp validated
  obtain ⟨rejected, tested, validated⟩ := bind_eq_ok.mp validated
  obtain ⟨spent, looked, validated⟩ := bind_eq_ok.mp validated
  obtain ⟨results, answered, rejects⟩ := bind_eq_ok.mp tested
  have recordsInvalid := records_checkTransactions records_empty checked
  have recordsRejected := records_rejectBonds records_empty rejects
  have recordsSpent := records_lookupMempoolInputs records_empty looked
  simp only [false_or] at recordsInvalid recordsRejected recordsSpent
  exact ⟨results, invalid, rejected, spent, answered, (Except.ok.inj validated).symm,
    recordsInvalid, recordsRejected, recordsSpent⟩

/-- Only the given bonds are flagged. -/
theorem flags_validateBonds (validated : chain.validateBonds P tick bonds = .ok result) :
    chain.Flags bonds result := by
  obtain ⟨results, invalid, rejected, spent, -, rfl, recordsInvalid, recordsRejected,
    recordsSpent⟩ := records_validateBonds validated
  intro invalidBond member
  obtain ⟨(⟨i, listed, -⟩ | ⟨res, -, -, found⟩) | ⟨listed, -⟩, named⟩ :=
    ((recordsInvalid.extend recordsRejected).extend recordsSpent).sound invalidBond member
  · exact ⟨List.mem_of_getElem? (List.mk_mem_zipIdx_iff_getElem?.mp listed), named⟩
  · exact ⟨mem_of_searchMonitoringBondByTxid found, named⟩
  · exact ⟨listed, named⟩

/-- No bond is flagged twice. -/
theorem Flags.nodup (flags : chain.Flags bonds invalidBonds) :
    (invalidBonds.rows.map InvalidBond.bond).Nodup := by
  apply List.Nodup.of_map (fun bond => bond.id chain)
  have ids : (invalidBonds.rows.map InvalidBond.bond).map (fun bond => bond.id chain) =
      (invalidBonds.rows.map Keyed.key).map Except.ok := by
    rw [List.map_map, List.map_map]
    exact List.map_congr_left fun invalidBond member => (flags invalidBond member).2
  rw [ids]
  exact invalidBonds.nodup.map fun _ _ same => Except.ok.inj same

end Chain

section Surroundings

variable {P : Platform}

/-- The same surroundings, with a chain to validate and publish bonds against. -/
def withChain (env : Environment (coordinator P)) (chain : Chain) :
    Environment (coordinator P) where
  answer tick
    | .validateBonds bonds => do
        return (chain.visit tick (← chain.validateBonds P tick bonds)).map fun invalidBond =>
          (invalidBond.bond, invalidBond.error)
    | .validateBondTxHex bondTxHex requirements =>
        chain.validateBondTxHex P tick bondTxHex requirements
    | .publishBondTxHex bond => chain.publishBondTxHex tick bond
    | query => env.answer tick query
  fault := env.fault

/-- The flagged bonds are among those that were to be validated, each once. -/
theorem flagged_of_answer {env : Environment (coordinator P)} {chain : Chain} {tick : Nat}
    {bonds : List MonitoringBond} {flagged : List (MonitoringBond × Error)}
    (answered : (withChain env chain).answer tick (.validateBonds bonds) = .ok flagged) :
    (∀ bond ∈ flagged.map Prod.fst, bond ∈ bonds) ∧ (flagged.map Prod.fst).Nodup := by
  obtain ⟨invalidBonds, validated, visited⟩ := bind_eq_ok.mp answered
  cases visited
  have flags := Chain.flags_validateBonds validated
  have order := (chain.visit_perm tick invalidBonds).map InvalidBond.bond
  rw [List.map_map]
  refine ⟨fun bond member => ?_, order.nodup_iff.mpr flags.nodup⟩
  obtain ⟨invalidBond, listed, rfl⟩ := List.mem_map.mp (order.mem_iff.mp member)
  exact (flags invalidBond listed).1

end Surroundings

end TapTrade
