import TapTrade.Bonds.Passes

/-! # Bonds in one batch

A batch of bonds is validated in three passes that flag bonds under the hash of their transaction.
That is the same as validating them one by one as long as no bond of the batch makes the validation
fail, no two violating bonds share a hash, and every transaction that the node rejects leads back to
a bond that is to be flagged for it.
-/

namespace TapTrade

open Relational

/-- The chunks are the list. -/
theorem flatten_toChunks {α : Type} (n : Nat) (xs : List α) : (xs.toChunks n).flatten = xs := by
  have go (xs : List α) (chunk : Array α) (chunks : Array (List α)) :
      (List.toChunks.go n xs chunk chunks).flatten =
        chunks.toList.flatten ++ chunk.toList ++ xs := by
    induction xs generalizing chunk chunks with
    | nil => simp [List.toChunks.go]
    | cons x xs ih =>
        rw [List.toChunks.go]
        split
        · rw [ih]
          simp
        · rw [ih]
          simp
  cases xs with
  | nil => rfl
  | cons x xs =>
      cases n with
      | zero => simp [List.toChunks]
      | succ n =>
          rw [List.toChunks, go]
          · simp
          · exact Nat.succ_ne_zero n

theorem mem_of_mapM_eq_ok {α β : Type} {f : α → Except Error β} {xs : List α} {ys : List β}
    (mapped : xs.mapM f = .ok ys) (y : β) : y ∈ ys ↔ ∃ x ∈ xs, f x = .ok y := by
  have paired := mapM_eq_ok.mp mapped
  clear mapped
  induction paired with
  | nil => simp
  | @cons x z xs zs first _ ih =>
      have others : y ∈ zs ↔ ∃ x ∈ xs, f x = .ok y := ih
      rw [List.mem_cons, others, List.exists_mem_cons_iff, first, Except.ok.injEq, eq_comm]

namespace Chain

/-- The lookups say the same whenever they are made, and the node answers for each transaction on
    its own, in the order in which they are given. -/
structure Independent (chain : Chain) (tick : Nat)
    (verdict : String → Except Error TestMempoolAcceptResult) : Prop where
  verifyTx : ∀ k tx, chain.verifyTx tick k tx = chain.verifyTx tick 0 tx
  getRawTx : ∀ k txid, chain.getRawTx tick k txid = chain.getRawTx tick 0 txid
  getTx : ∀ k txid, chain.getTx tick k txid = chain.getTx tick 0 txid
  testMempoolAccept : ∀ k rawBonds, chain.testMempoolAccept tick k rawBonds = rawBonds.mapM verdict
  txid : ∀ text tx res, chain.transaction text = .ok tx → verdict text = .ok res →
    res.txid = tx.txid

/-- No two transactions of the bonds have the same hash. -/
def HashesDistinct (chain : Chain) (bonds : List MonitoringBond) : Prop :=
  ∀ bond ∈ bonds, ∀ other ∈ bonds, bond.id chain = other.id chain →
    decodeHex bond.bondTxHex = decodeHex other.bondTxHex

section Batch

variable (P : Platform) (chain : Chain) (tick : Nat)
  (verdict : String → Except Error TestMempoolAcceptResult)

/-- The bond does not make the validation fail. -/
def Checkable (bond : MonitoringBond) : Prop :=
  (∃ defect, chain.defect? P tick 0 bond = .ok defect) ∧ ∃ res, verdict bond.bondTxHex = .ok res

/-- The checks of the bond itself or the mempool speak against it. -/
def Faulty (bond : MonitoringBond) : Prop :=
  (∃ error, chain.defect? P tick 0 bond = .ok (some error)) ∨ chain.Spent tick bond

/-- The node would not accept the bond. -/
def Refused (bond : MonitoringBond) : Prop :=
  ∃ res, verdict bond.bondTxHex = .ok res ∧ res.allowed = false

def Violating (bond : MonitoringBond) : Prop :=
  chain.Faulty P tick bond ∨ Refused verdict bond

/-- The bond is among the values of the map that the validation of the bonds returns. -/
def Reported (bonds : List MonitoringBond) (bond : MonitoringBond) : Prop :=
  ∃ invalidBonds, chain.validateBonds P tick bonds = .ok invalidBonds ∧
    ∃ invalidBond ∈ invalidBonds.rows, invalidBond.bond = bond

/-- The batch reports the bonds that are flagged or make the validation fail on their own. -/
def BatchAgrees (bonds : List MonitoringBond) : Prop :=
  ∀ bond ∈ bonds, chain.Reported P tick bonds bond ↔
    chain.Reported P tick [bond] bond ∨ ∃ error, chain.validateBonds P tick [bond] = .error error

/-- No bond makes the validation fail, no two violating bonds share a hash, and the first bond with
    the txid of a refused one violates as well and is that one if nothing else speaks against it. -/
structure Separable (bonds : List MonitoringBond) : Prop where
  checkable : ∀ bond ∈ bonds, chain.Checkable P tick verdict bond
  distinguished : ∀ bond ∈ bonds, ∀ other ∈ bonds, chain.Violating P tick verdict bond →
    chain.Violating P tick verdict other → bond.id chain = other.id chain → bond = other
  blamed : ∀ bond ∈ bonds, Refused verdict bond →
    ∀ tx, chain.transaction bond.bondTxHex = .ok tx →
      ∀ first, chain.searchMonitoringBondByTxid tx.txid bonds = .ok first →
        chain.Violating P tick verdict first ∧ (chain.Faulty P tick bond ∨ first = bond)

/-- The bond is the first one with the txid of one that the node refuses. -/
def Blamed (bonds : List MonitoringBond) (bond : MonitoringBond) : Prop :=
  ∃ other ∈ bonds, Refused verdict other ∧ ∃ tx, chain.transaction other.bondTxHex = .ok tx ∧
    chain.searchMonitoringBondByTxid tx.txid bonds = .ok bond

instance (bonds : List MonitoringBond) (bond : MonitoringBond) :
    Decidable (chain.Reported P tick bonds bond) :=
  match validated : chain.validateBonds P tick bonds with
  | .error _ => .isFalse fun ⟨_, validated', _⟩ => nomatch validated.symm.trans validated'
  | .ok invalidBonds => decidable_of_iff
      (∃ invalidBond ∈ invalidBonds.rows, invalidBond.bond = bond)
      ⟨fun shown => ⟨invalidBonds, validated, shown⟩, fun ⟨_, validated', shown⟩ =>
        Except.ok.inj (validated.symm.trans validated') ▸ shown⟩

variable {P chain tick verdict} {bonds : List MonitoringBond} {bond first : MonitoringBond}
  {invalidBonds : InvalidBonds}

theorem Independent.addInputs (independent : chain.Independent tick verdict) (k : Nat)
    (total : UInt64) (inputs : List OutPoint) :
    chain.addInputs tick k total inputs = chain.addInputs tick 0 total inputs := by
  induction inputs generalizing total with
  | nil => rfl
  | cons input inputs ih =>
      simp only [Chain.addInputs, prevTx, independent.getRawTx k, independent.getTx k, ih]

/-- The first check does not depend on the place of the bond. -/
theorem Independent.defect (independent : chain.Independent tick verdict) (k : Nat)
    (bond : MonitoringBond) : chain.defect? P tick k bond = chain.defect? P tick 0 bond := by
  simp only [defect?, inputSum, independent.verifyTx k, independent.addInputs k]

/-- The chunks are answered like one list. -/
theorem Independent.testChunks (independent : chain.Independent tick verdict) (k : Nat)
    (chunks : List (List String)) :
    chain.testChunks tick k chunks = chunks.flatten.mapM verdict := by
  induction chunks generalizing k with
  | nil => rfl
  | cons rawBonds chunks ih =>
      rw [Chain.testChunks, independent.testMempoolAccept, ih, List.flatten_cons, List.mapM_append]

theorem transaction_of_id {other : MonitoringBond} (distinct : HashesDistinct chain bonds)
    (listed : bond ∈ bonds) (listed' : other ∈ bonds) (same : bond.id chain = other.id chain) :
    chain.transaction bond.bondTxHex = chain.transaction other.bondTxHex := by
  rw [Chain.transaction, Chain.transaction, distinct bond listed other listed' same]

theorem txid_of_search {txid : String}
    (found : chain.searchMonitoringBondByTxid txid bonds = .ok first) :
    ∃ tx, chain.transaction first.bondTxHex = .ok tx ∧ tx.txid = txid := by
  induction bonds with
  | nil => cases found
  | cons bond bonds ih =>
      obtain ⟨tx, decoded, found⟩ := bind_eq_ok.mp found
      split at found
      case isTrue same =>
        cases found
        exact ⟨tx, decoded, same⟩
      case isFalse => exact ih found

/-- Among readable bonds the search finds one if there is one. -/
theorem exists_search {tx : Transaction} (decodable : ∀ bond ∈ bonds, chain.Decodable bond)
    (listed : bond ∈ bonds) (decoded : chain.transaction bond.bondTxHex = .ok tx) :
    ∃ first, chain.searchMonitoringBondByTxid tx.txid bonds = .ok first := by
  induction bonds with
  | nil => cases listed
  | cons other bonds ih =>
      obtain ⟨⟨otherTx, otherDecoded⟩, decodable⟩ := List.forall_mem_cons.mp decodable
      by_cases same : otherTx.txid = tx.txid
      · exact ⟨other, bind_eq_ok.mpr ⟨otherTx, otherDecoded, if_pos same⟩⟩
      · rcases List.mem_cons.mp listed with rfl | later
        · cases otherDecoded.symm.trans decoded
          exact absurd rfl same
        · obtain ⟨first, found⟩ := ih decodable later
          refine ⟨first, bind_eq_ok.mpr ⟨otherTx, otherDecoded, ?_⟩⟩
          rw [if_neg same]
          exact found

/-- Nothing ends the validation of a batch iff none of its bonds does. -/
theorem Independent.exists_validateBonds (independent : chain.Independent tick verdict) :
    (∃ invalidBonds, chain.validateBonds P tick bonds = .ok invalidBonds) ↔
      ∀ bond ∈ bonds, chain.Checkable P tick verdict bond := by
  rw [Chain.exists_validateBonds, independent.testChunks, flatten_toChunks]
  constructor
  · rintro ⟨checkable, results, answered, -⟩ bond listed
    obtain ⟨i, place⟩ := exists_mem_zipIdx.mpr listed
    obtain ⟨defect, found⟩ := checkable bond i place
    rw [independent.defect] at found
    exact ⟨⟨defect, found⟩, exists_mapM_eq_ok.mp ⟨results, answered⟩ bond.bondTxHex
      (List.mem_map_of_mem listed)⟩
  · intro checkable
    have decodable (bond : MonitoringBond) (listed : bond ∈ bonds) : chain.Decodable bond := by
      obtain ⟨⟨defect, found⟩, -⟩ := checkable bond listed
      exact decodable_of_defect found
    constructor
    · intro bond i place
      rw [independent.defect]
      exact (checkable bond (exists_mem_zipIdx.mp ⟨i, place⟩)).1
    · obtain ⟨results, answered⟩ : ∃ results,
          (bonds.map MonitoringBond.bondTxHex).mapM verdict = .ok results := by
        apply exists_mapM_eq_ok.mpr
        intro text member
        obtain ⟨bond, listed, rfl⟩ := List.mem_map.mp member
        exact (checkable bond listed).2
      refine ⟨results, answered, fun res member _ => ?_⟩
      obtain ⟨text, member, told⟩ := (mem_of_mapM_eq_ok answered res).mp member
      obtain ⟨bond, listed, rfl⟩ := List.mem_map.mp member
      obtain ⟨tx, decoded⟩ := decodable bond listed
      rw [independent.txid _ tx res decoded told]
      exact exists_search decodable listed decoded

/-- What the passes over a batch record, in terms of its bonds. -/
theorem Independent.passes (independent : chain.Independent tick verdict)
    (validated : chain.validateBonds P tick bonds = .ok invalidBonds) :
    ∃ invalid rejected spent, invalidBonds = extend (extend invalid rejected) spent ∧
      chain.Records (fun bond => bond ∈ bonds ∧
        ∃ error, chain.defect? P tick 0 bond = .ok (some error)) invalid ∧
      chain.Records (chain.Blamed verdict bonds) rejected ∧
      chain.Records (fun bond => bond ∈ bonds ∧ chain.Spent tick bond) spent := by
  have checkable := independent.exists_validateBonds.mp ⟨invalidBonds, validated⟩
  obtain ⟨results, invalid, rejected, spent, answered, same, recordsInvalid, recordsRejected,
    recordsSpent⟩ := records_validateBonds validated
  rw [independent.testChunks, flatten_toChunks] at answered
  refine ⟨invalid, rejected, spent, same, recordsInvalid.congr fun bond => ?_,
    recordsRejected.congr fun bond => ?_, recordsSpent⟩
  · simp only [Defective, independent.defect, exists_and_right, exists_mem_zipIdx]
  · constructor
    · rintro ⟨res, member, refused, found⟩
      obtain ⟨text, member, told⟩ := (mem_of_mapM_eq_ok answered res).mp member
      obtain ⟨other, listed, rfl⟩ := List.mem_map.mp member
      obtain ⟨⟨defect, checked⟩, -⟩ := checkable other listed
      obtain ⟨tx, decoded⟩ := decodable_of_defect checked
      rw [independent.txid _ tx res decoded told] at found
      exact ⟨other, listed, ⟨res, told, refused⟩, tx, decoded, found⟩
    · rintro ⟨other, listed, ⟨res, told, refused⟩, tx, decoded, found⟩
      refine ⟨res, ?_, refused, ?_⟩
      · exact (mem_of_mapM_eq_ok answered res).mpr ⟨_, List.mem_map_of_mem listed, told⟩
      · rw [independent.txid _ tx res decoded told]
        exact found

theorem Independent.records (independent : chain.Independent tick verdict)
    (validated : chain.validateBonds P tick bonds = .ok invalidBonds) :
    chain.Records (fun bond => bond ∈ bonds ∧ chain.Faulty P tick bond ∨
      chain.Blamed verdict bonds bond) invalidBonds := by
  obtain ⟨invalid, rejected, spent, rfl, recordsInvalid, recordsRejected, recordsSpent⟩ :=
    independent.passes validated
  apply ((recordsInvalid.extend recordsRejected).extend recordsSpent).congr
  intro bond
  rw [or_right_comm, ← and_or_left]
  rfl

/-- A bond on its own is flagged iff something speaks against it. -/
theorem Independent.reported_singleton (independent : chain.Independent tick verdict)
    (checkable : chain.Checkable P tick verdict bond) :
    chain.Reported P tick [bond] bond ↔ chain.Violating P tick verdict bond := by
  obtain ⟨invalidBonds, validated⟩ : ∃ invalidBonds, chain.validateBonds P tick [bond] =
      .ok invalidBonds :=
    independent.exists_validateBonds.mpr (List.forall_mem_singleton.mpr checkable)
  have records := independent.records validated
  obtain ⟨⟨defect, checked⟩, -⟩ := checkable
  obtain ⟨tx, decoded⟩ := decodable_of_defect checked
  have own : chain.searchMonitoringBondByTxid tx.txid [bond] = .ok bond :=
    bind_eq_ok.mpr ⟨tx, decoded, if_pos rfl⟩
  constructor
  · rintro ⟨invalidBonds', validated', invalidBond, member, rfl⟩
    cases validated.symm.trans validated'
    obtain ⟨⟨-, faulty⟩ | ⟨other, listed, refused, -⟩, -⟩ := records.sound invalidBond member
    · exact .inl faulty
    · cases List.mem_singleton.mp listed
      exact .inr refused
  · intro violating
    obtain ⟨id, named, contained⟩ := records.complete bond (by
      rcases violating with faulty | refused
      · exact .inl ⟨List.mem_singleton_self bond, faulty⟩
      · exact .inr ⟨bond, List.mem_singleton_self bond, refused, tx, decoded, own⟩)
    obtain ⟨invalidBond, member, -⟩ := Table.contains_iff_mem.mp contained
    exact ⟨invalidBonds, validated, invalidBond, member,
      List.mem_singleton.mp (flags_validateBonds validated invalidBond member).1⟩

/-- A bond on its own is flagged, or its validation fails, iff it violates once it can be checked
    at all. -/
theorem Independent.single (independent : chain.Independent tick verdict) :
    (chain.Reported P tick [bond] bond ∨
        ∃ error, chain.validateBonds P tick [bond] = .error error) ↔
      (chain.Checkable P tick verdict bond → chain.Violating P tick verdict bond) := by
  have through : (∃ invalidBonds, chain.validateBonds P tick [bond] = .ok invalidBonds) ↔
      chain.Checkable P tick verdict bond := by
    rw [independent.exists_validateBonds, List.forall_mem_singleton]
  by_cases checkable : chain.Checkable P tick verdict bond
  · rw [independent.reported_singleton checkable]
    obtain ⟨invalidBonds, validated⟩ := through.mpr checkable
    simp [validated, checkable]
  · apply iff_of_true
    · cases validated : chain.validateBonds P tick [bond] with
      | error error => exact .inr ⟨error, rfl⟩
      | ok invalidBonds => exact absurd (through.mp ⟨invalidBonds, validated⟩) checkable
    · exact fun ok => absurd ok checkable

/-- Whatever a separable batch has a reason to record violates. -/
theorem Separable.violating_of_cause (separable : chain.Separable P tick verdict bonds)
    (cause : bond ∈ bonds ∧ chain.Faulty P tick bond ∨ chain.Blamed verdict bonds bond) :
    chain.Violating P tick verdict bond := by
  obtain ⟨-, faulty⟩ | ⟨other, listed, refused, tx, decoded, found⟩ := cause
  · exact .inl faulty
  · exact (separable.blamed other listed refused tx decoded bond found).1

theorem Separable.cause_of_violating (separable : chain.Separable P tick verdict bonds)
    (listed : bond ∈ bonds) (violating : chain.Violating P tick verdict bond) :
    bond ∈ bonds ∧ chain.Faulty P tick bond ∨ chain.Blamed verdict bonds bond := by
  rcases violating with faulty | refused
  · exact .inl ⟨listed, faulty⟩
  · have decodable (other : MonitoringBond) (member : other ∈ bonds) : chain.Decodable other := by
      obtain ⟨⟨defect, checked⟩, -⟩ := separable.checkable other member
      exact decodable_of_defect checked
    obtain ⟨tx, decoded⟩ := decodable bond listed
    obtain ⟨first, found⟩ := exists_search decodable listed decoded
    obtain ⟨-, faulty | rfl⟩ := separable.blamed bond listed refused tx decoded first found
    · exact .inl ⟨listed, faulty⟩
    · exact .inr ⟨first, listed, refused, tx, decoded, found⟩

/-- A separable batch reports just the bonds that violate. -/
theorem Separable.reported_iff (separable : chain.Separable P tick verdict bonds)
    (independent : chain.Independent tick verdict) (listed : bond ∈ bonds) :
    chain.Reported P tick bonds bond ↔ chain.Violating P tick verdict bond := by
  obtain ⟨invalidBonds, validated⟩ : ∃ invalidBonds, chain.validateBonds P tick bonds =
      .ok invalidBonds := independent.exists_validateBonds.mpr separable.checkable
  have records := independent.records validated
  constructor
  · rintro ⟨invalidBonds', validated', invalidBond, member, rfl⟩
    cases validated.symm.trans validated'
    exact separable.violating_of_cause (records.sound invalidBond member).1
  · intro violating
    obtain ⟨id, named, contained⟩ :=
      records.complete bond (separable.cause_of_violating listed violating)
    obtain ⟨invalidBond, member, rfl⟩ := Table.contains_iff_mem.mp contained
    obtain ⟨cause, named'⟩ := records.sound invalidBond member
    have same : bond = invalidBond.bond :=
      separable.distinguished bond listed invalidBond.bond
        (flags_validateBonds validated invalidBond member).1 violating
        (separable.violating_of_cause cause) (named.trans named'.symm)
    exact ⟨invalidBonds, validated, invalidBond, member, same.symm⟩

/-- A bond that is blamed without any reason of its own is reported all the same. -/
theorem Independent.reported_of_blamed (independent : chain.Independent tick verdict)
    (distinct : HashesDistinct chain bonds)
    (validated : chain.validateBonds P tick bonds = .ok invalidBonds)
    (blamed : chain.Blamed verdict bonds bond) (unspent : ¬ chain.Spent tick bond) :
    chain.Reported P tick bonds bond := by
  have listed : bond ∈ bonds := by
    obtain ⟨other, -, -, tx, -, found⟩ := blamed
    exact mem_of_searchMonitoringBondByTxid found
  obtain ⟨invalid, rejected, spent, rfl, recordsInvalid, recordsRejected, recordsSpent⟩ :=
    independent.passes validated
  obtain ⟨id, named, contained⟩ := recordsRejected.complete bond blamed
  have same {invalidBond : InvalidBond} (member : invalidBond.bond ∈ bonds)
      (named' : invalidBond.bond.id chain = .ok invalidBond.id) (key : invalidBond.id = id) :
      chain.transaction invalidBond.bond.bondTxHex = chain.transaction bond.bondTxHex := by
    rw [key] at named'
    exact transaction_of_id distinct member listed (named'.trans named.symm)
  obtain ⟨entry, found⟩ : ∃ entry, (extend (extend invalid rejected) spent).find? id = some entry :=
    Option.isSome_iff_exists.mp ((Table.contains_foldl_insertOrReplace _).mpr
      (.inl ((Table.contains_foldl_insertOrReplace _).mpr
        (.inr (Table.contains_iff_mem.mp contained)))))
  have key : entry.id = id := Table.find?_key found
  refine ⟨_, validated, entry, Table.mem_of_find? found, ?_⟩
  rcases Table.find?_of_foldl_insertOrReplace found with inSpent | ⟨found, -⟩
  · -- the mempool spends the same inputs for all bonds with the hash
    obtain ⟨⟨member, tx, decoded, hit⟩, named'⟩ := recordsSpent.sound entry inSpent
    rw [same member named' key] at decoded
    exact absurd ⟨tx, decoded, hit⟩ unspent
  · rcases Table.find?_of_foldl_insertOrReplace found with inRejected | ⟨-, none⟩
    · obtain ⟨⟨other, -, -, tx, -, search⟩, named'⟩ := recordsRejected.sound entry inRejected
      obtain ⟨-, -, -, tx', -, search'⟩ := blamed
      obtain ⟨own, decoded, txid⟩ := txid_of_search search
      obtain ⟨own', decoded', txid'⟩ := txid_of_search search'
      rw [same (mem_of_searchMonitoringBondByTxid search) named' key] at decoded
      cases decoded.symm.trans decoded'
      rw [← txid] at search
      rw [← txid'] at search'
      exact Except.ok.inj (search.symm.trans search')
    · obtain ⟨row, member, key'⟩ := Table.contains_iff_mem.mp contained
      exact absurd key' (none row member)

/-- A batch in which everything is reported as for single bonds is separable. -/
theorem Independent.separable_of_agrees (independent : chain.Independent tick verdict)
    (distinct : HashesDistinct chain bonds) (agrees : chain.BatchAgrees P tick bonds) :
    chain.Separable P tick verdict bonds := by
  have checkable : ∀ bond ∈ bonds, chain.Checkable P tick verdict bond := by
    intro bond listed
    by_contra unchecked
    obtain ⟨invalidBonds, validated, -⟩ := (agrees bond listed).mpr
      (independent.single.mpr fun checkable => absurd checkable unchecked)
    exact unchecked (independent.exists_validateBonds.mp ⟨invalidBonds, validated⟩ bond listed)
  have reported (bond : MonitoringBond) (listed : bond ∈ bonds) :
      chain.Reported P tick bonds bond ↔ chain.Violating P tick verdict bond := by
    rw [agrees bond listed, independent.single]
    exact imp_iff_right (checkable bond listed)
  obtain ⟨invalidBonds, validated⟩ : ∃ invalidBonds, chain.validateBonds P tick bonds =
      .ok invalidBonds := independent.exists_validateBonds.mpr checkable
  have records := independent.records validated
  -- The entry of a reported bond is the one under its hash.
  have entry {bond : MonitoringBond} (shown : chain.Reported P tick bonds bond) :
      ∃ invalidBond ∈ invalidBonds.rows, invalidBond.bond = bond := by
    obtain ⟨invalidBonds', validated', shown⟩ := shown
    cases validated.symm.trans validated'
    exact shown
  refine ⟨checkable, ?_, ?_⟩
  · intro bond listed other listed' violating violating' same
    obtain ⟨invalidBond, member, rfl⟩ := entry ((reported bond listed).mpr violating)
    obtain ⟨invalidBond', member', rfl⟩ := entry ((reported other listed').mpr violating')
    have named := (records.sound invalidBond member).2
    have named' := (records.sound invalidBond' member').2
    have sameId : invalidBond.id = invalidBond'.id :=
      Except.ok.inj (named.symm.trans (same.trans named'))
    rw [List.inj_on_of_nodup_map invalidBonds.nodup member member' sameId]
  · intro bond listed refused tx decoded first found
    have blamed : chain.Blamed verdict bonds first := ⟨bond, listed, refused, tx, decoded, found⟩
    constructor
    · by_cases spent : chain.Spent tick first
      · exact .inl (.inr spent)
      · exact (reported first (mem_of_searchMonitoringBondByTxid found)).mp
          (independent.reported_of_blamed distinct validated blamed spent)
    · obtain ⟨invalidBond, member, rfl⟩ := entry ((reported bond listed).mpr (.inr refused))
      obtain ⟨⟨-, faulty⟩ | ⟨other, -, -, tx', -, found'⟩, -⟩ := records.sound invalidBond member
      · exact .inl faulty
      · obtain ⟨own, decoded', txid⟩ := txid_of_search found'
        cases decoded.symm.trans decoded'
        rw [← txid] at found'
        exact .inr (Except.ok.inj (found.symm.trans found'))

/-- A batch agrees with the validation of its bonds one by one iff it is separable. -/
theorem batchAgrees_iff (P : Platform) (chain : Chain) (tick : Nat)
    (verdict : String → Except Error TestMempoolAcceptResult)
    (independent : chain.Independent tick verdict) (bonds : List MonitoringBond)
    (distinct : HashesDistinct chain bonds) :
    chain.BatchAgrees P tick bonds ↔ chain.Separable P tick verdict bonds := by
  constructor
  · exact independent.separable_of_agrees distinct
  · intro separable bond listed
    rw [separable.reported_iff independent listed, independent.single]
    exact (imp_iff_right (separable.checkable bond listed)).symm

end Batch

end Chain

namespace Sample

theorem independent_ledger (spent : List OutPoint) : (ledger spent).Independent 0 verdict where
  verifyTx _ _ := rfl
  getRawTx _ _ := rfl
  getTx _ _ := rfl
  testMempoolAccept _ _ := rfl
  txid text tx res decoded told := by
    obtain ⟨bytes, hex, told⟩ := bind_eq_ok.mp told
    obtain ⟨tx', parsed, told⟩ := bind_eq_ok.mp told
    cases told
    obtain ⟨bytes', hex', parsed'⟩ := bind_eq_ok.mp decoded
    cases hex.symm.trans hex'
    cases parsed.symm.trans parsed'
    rfl

theorem hashesDistinct_ledger (spent : List OutPoint) (bonds : List MonitoringBond) :
    Chain.HashesDistinct (ledger spent) bonds := by
  intro bond listed other listed' same
  have ids (bond : MonitoringBond) : bond.id (ledger spent) = decodeHex bond.bondTxHex := by
    rw [MonitoringBond.id]
    cases decodeHex bond.bondTxHex with
    | error e => rfl
    | ok bytes => rfl
  rw [← ids, ← ids, same]

end Sample

theorem batchAgrees_iff_sample :
    (Sample.ledger []).BatchAgrees .sample 0 [Sample.backing "00" "b0", Sample.backing "01" "b1"] ↔
      (Sample.ledger []).Separable .sample 0 Sample.verdict
        [Sample.backing "00" "b0", Sample.backing "01" "b1"] :=
  Chain.batchAgrees_iff .sample (Sample.ledger []) 0 Sample.verdict (Sample.independent_ledger []) _
    (Sample.hashesDistinct_ledger [] _)

/-- Of two offers with the same bond transaction one is reported, and a bond that cannot be read
    hides the others. -/
theorem batch_hides_bonds :
    ¬ (Sample.ledger [⟨"f0", 0⟩]).BatchAgrees .sample 0
        [Sample.backing "00" "b0", Sample.backing "01" "b0"] ∧
      ¬ (Sample.ledger [⟨"f0", 0⟩]).BatchAgrees .sample 0
        [Sample.backing "00" "zz", Sample.backing "01" "b0"] := by
  have alone (tradeIdHex : String) (known : tradeIdHex = "00" ∨ tradeIdHex = "01") :
      (Sample.ledger [⟨"f0", 0⟩]).Reported .sample 0 [Sample.backing tradeIdHex "b0"]
        (Sample.backing tradeIdHex "b0") := by
    rcases known with rfl | rfl
    · decide +kernel
    · decide +kernel
  constructor
  · intro agrees
    have reported := (agrees (Sample.backing "00" "b0") (by decide)).mpr (.inl (alone _ (.inl rfl)))
    revert reported
    decide +kernel
  · intro agrees
    have reported := (agrees (Sample.backing "01" "b0") (by decide)).mpr (.inl (alone _ (.inr rfl)))
    revert reported
    decide +kernel

end TapTrade
