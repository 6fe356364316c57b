import TapTrade.Bonds.Passes
import TapTrade.Model.MempoolMonitoring

/-! # The tracked mempool is the mempool

The rounds of the mempool monitoring only ever fetch what they do not know yet, keep what is still
there, and go on after a failure. The outputs that they hold as spent are those that a
recomputation from the snapshots gives, and a bond is found in the mempool iff one of its inputs is
among them.
-/

namespace TapTrade

open Relational

/-- The node tells the same of a transaction whenever it tells anything. -/
def Consistent (content : String → Transaction) (rounds : List MempoolAnswers) : Prop :=
  ∀ answers ∈ rounds, ∀ k txid tx, answers.getRawTransaction k txid = .ok tx → tx = content txid

/-- The snapshot of a round, with the transactions that the node serves in it. -/
def MempoolAnswers.snapshot? (answers : MempoolAnswers) : Option (Snapshot String) :=
  match answers.getRawMempool with
  | .error _ => none
  | .ok mempoolTxs => some ⟨mempoolTxs, fun txid =>
      ∃ k, mempoolTxs[k]? = some txid ∧ ∃ tx, answers.getRawTransaction k txid = .ok tx⟩

/-- Some transaction spends the output that is in the latest snapshot, and was fetched since it
    last entered the snapshots. -/
def SpentInMempool (content : String → Transaction) (rounds : List MempoolAnswers)
    (output : OutPoint) : Prop :=
  ∃ txid, Snapshot.Held (rounds.filterMap MempoolAnswers.snapshot?) txid ∧
    output ∈ (content txid).input

namespace Mempool

variable {answers : MempoolAnswers} {content : String → Transaction}
  {rounds : List MempoolAnswers} {mempool : Mempool} {mempoolState : Table MempoolTransaction}
  {mempoolTxs : List String} {txid : String} {output : OutPoint} {k : Nat}

/-- The loop over the snapshot adds what is fetched. -/
theorem contains_fetchTransactions :
    (fetchTransactions answers k mempoolTxs mempoolState).Contains txid ↔
      (∃ i, (txid, i) ∈ mempoolTxs.zipIdx k ∧ ∃ tx, answers.getRawTransaction i txid = .ok tx) ∨
        mempoolState.Contains txid := by
  induction mempoolTxs generalizing k mempoolState with
  | nil => simp [fetchTransactions]
  | cons first mempoolTxs ih =>
      rw [fetchTransactions, List.zipIdx_cons]
      simp only [List.mem_cons, Prod.mk.injEq, or_and_right, exists_or]
      split
      case isTrue known =>
        rw [ih]
        constructor
        · exact fun held => held.imp_left .inr
        · rintro ((⟨i, ⟨rfl, -⟩, -⟩ | fetched) | held)
          · exact .inr known
          · exact .inl fetched
          · exact .inr held
      case isFalse =>
        split
        case h_1 failure refused =>
          rw [ih]
          apply or_congr_left
          apply (or_iff_right _).symm
          rintro ⟨i, ⟨rfl, rfl⟩, tx, served⟩
          cases refused.symm.trans served
        case h_2 tx served =>
          rw [ih, Table.contains_insertOrReplace, or_left_comm, or_assoc]
          apply or_congr_left
          constructor
          · rintro rfl
            exact ⟨k, ⟨rfl, rfl⟩, tx, served⟩
          · rintro ⟨i, ⟨rfl, -⟩, -⟩
            rfl

/-- What the loop adds is what the node tells. -/
theorem inputs_fetchTransactions (consistent : Consistent content [answers])
    (known : ∀ tx ∈ mempoolState.rows, tx.inputs = (content tx.txid).input) :
    ∀ tx ∈ (fetchTransactions answers k mempoolTxs mempoolState).rows,
      tx.inputs = (content tx.txid).input := by
  induction mempoolTxs generalizing k mempoolState with
  | nil => exact known
  | cons first mempoolTxs ih =>
      rw [fetchTransactions]
      split
      · exact ih known
      · split
        · exact ih known
        case h_2 fetched served =>
          apply ih
          intro tx member
          rcases Table.mem_of_mem_insertOrReplace member with rfl | member
          · rw [consistent answers (List.mem_singleton_self _) k first fetched served]
          · exact known tx member

theorem mem_insertInputs {utxoSet : Finset OutPoint} {inputs : List OutPoint} :
    output ∈ insertInputs utxoSet inputs ↔ output ∈ utxoSet ∨ output ∈ inputs := by
  induction inputs generalizing utxoSet with
  | nil => simp [insertInputs]
  | cons input inputs ih =>
      change output ∈ insertInputs (insert input utxoSet) inputs ↔ _
      rw [ih, Finset.mem_insert, List.mem_cons, or_assoc, or_left_comm]

theorem mem_rebuild : output ∈ rebuild mempoolState ↔
    ∃ tx ∈ mempoolState.rows, output ∈ tx.inputs := by
  have from_set (rows : List MempoolTransaction) (utxoSet : Finset OutPoint) :
      output ∈ rows.foldl (fun utxoSet tx => insertInputs utxoSet tx.inputs) utxoSet ↔
        output ∈ utxoSet ∨ ∃ tx ∈ rows, output ∈ tx.inputs := by
    induction rows generalizing utxoSet with
    | nil => simp
    | cons tx rows ih =>
        rw [List.foldl_cons, ih, mem_insertInputs, or_assoc, List.exists_mem_cons_iff]
  rw [rebuild, from_set]
  simp

/-- The set of spent outputs is that of the cached transactions, as the node tells them. -/
structure Tracks (content : String → Transaction) (mempool : Mempool) : Prop where
  told : ∀ tx ∈ mempool.transactions.rows, tx.inputs = (content tx.txid).input
  rebuilt : mempool.utxoSet = rebuild mempool.transactions

theorem tracks_round (tracks : Tracks content mempool) (consistent : Consistent content [answers]) :
    Tracks content (mempool.round answers) := by
  unfold round
  split
  · exact tracks
  · refine ⟨fun tx member => ?_, rfl⟩
    exact inputs_fetchTransactions consistent tracks.told tx (Table.mem_retain.mp member).1

theorem tracks_run (consistent : Consistent content rounds) : Tracks content (run rounds) := by
  induction rounds using List.reverseRecOn with
  | nil => exact ⟨nofun, rfl⟩
  | append_singleton rounds answers ih =>
      rw [run, List.foldl_concat]
      apply tracks_round
      · exact ih fun earlier member => consistent earlier (List.mem_append_left _ member)
      · intro last member
        exact consistent last (List.mem_append_right _ member)

/-- After any rounds the cache holds the transactions that the snapshots determine. -/
theorem contains_run : (run rounds).transactions.Contains txid ↔
    Snapshot.Held (rounds.filterMap MempoolAnswers.snapshot?) txid := by
  apply @Snapshot.holds_iff_held String _ Mempool MempoolAnswers round MempoolAnswers.snapshot?
    (fun mempool txid => mempool.transactions.Contains txid) new
  · exact Table.not_contains_empty
  · intro mempool answers snapshot txid taken
    cases obtained : answers.getRawMempool with
    | error failure =>
        rw [MempoolAnswers.snapshot?, obtained] at taken
        cases taken
    | ok mempoolTxs =>
        rw [MempoolAnswers.snapshot?, obtained] at taken
        cases taken
        rw [round, obtained, Table.contains_retain, contains_fetchTransactions]
        simp only [List.contains_iff_mem, List.mk_mem_zipIdx_iff_getElem?]
  · intro mempool answers untaken
    cases obtained : answers.getRawMempool with
    | error failure => rw [round, obtained]
    | ok mempoolTxs =>
        rw [MempoolAnswers.snapshot?, obtained] at untaken
        cases untaken

/-- After any rounds the outputs held as spent are those that a recomputation gives. -/
theorem mem_utxoSet_run (consistent : Consistent content rounds) :
    output ∈ (run rounds).utxoSet ↔ SpentInMempool content rounds output := by
  have tracks := tracks_run consistent
  rw [tracks.rebuilt, mem_rebuild]
  simp only [SpentInMempool, ← contains_run, Table.contains_iff_mem]
  constructor
  · rintro ⟨tx, member, spends⟩
    rw [tracks.told tx member] at spends
    exact ⟨tx.txid, ⟨tx, member, rfl⟩, spends⟩
  · rintro ⟨txid, ⟨tx, member, same⟩, spends⟩
    have told : tx.inputs = (content txid).input := same ▸ tracks.told tx member
    rw [← told] at spends
    exact ⟨tx, member, spends⟩

end Mempool

/-- After any rounds the tracked outputs are those that a recomputation from the snapshots gives,
    and the bonds found are those with an input among them. -/
theorem mempool_tracked (content : String → Transaction) (rounds : List MempoolAnswers)
    (consistent : Consistent content rounds) (chain : Chain) (tick : Nat)
    (bonds : List MonitoringBond) (decodable : ∀ bond ∈ bonds, chain.Decodable bond) :
    (∀ output, output ∈ (Mempool.run rounds).utxoSet ↔ SpentInMempool content rounds output) ∧
      ∃ found, (chain.withMempool (Mempool.run rounds)).lookupMempoolInputs tick bonds Table.empty =
          .ok found ∧
        ∀ id, found.Contains id ↔ ∃ bond ∈ bonds, bond.id chain = .ok id ∧
          ∃ tx, chain.transaction bond.bondTxHex = .ok tx ∧
            ∃ input ∈ tx.input, SpentInMempool content rounds input := by
  have spent (output : OutPoint) : output ∈ (Mempool.run rounds).utxoSet ↔
      SpentInMempool content rounds output := Mempool.mem_utxoSet_run consistent
  refine ⟨spent, ?_⟩
  obtain ⟨found, looked⟩ : ∃ found,
      (chain.withMempool (Mempool.run rounds)).lookupMempoolInputs tick bonds Table.empty =
        .ok found := Chain.exists_lookupMempoolInputs.mpr decodable
  have records := Chain.records_lookupMempoolInputs Chain.records_empty looked
  have inMempool (bond : MonitoringBond) :
      (chain.withMempool (Mempool.run rounds)).Spent tick bond ↔
        ∃ tx, chain.transaction bond.bondTxHex = .ok tx ∧
          ∃ input ∈ tx.input, SpentInMempool content rounds input := by
    apply exists_congr
    intro tx
    apply and_congr_right
    intro decoded
    apply exists_congr
    intro input
    rw [← spent]
    simp only [Chain.withMempool, decide_eq_true_eq]
  refine ⟨found, looked, fun id => ?_⟩
  constructor
  · intro contained
    obtain ⟨entry, member, rfl⟩ := Table.contains_iff_mem.mp contained
    obtain ⟨none | ⟨listed, hit⟩, named⟩ := records.sound entry member
    · cases none
    · exact ⟨entry.bond, listed, named, (inMempool entry.bond).mp hit⟩
  · rintro ⟨bond, listed, named, hit⟩
    obtain ⟨id', named', contained⟩ :=
      records.complete bond (.inr ⟨listed, (inMempool bond).mpr hit⟩)
    cases named.symm.trans named'
    exact contained

namespace Sample

/-- Two transactions that spend what the bonds spend. -/
def conflicting (txid : String) : Transaction := bondTx txid (if txid = "aa" then "f0" else "f1")

/-- A round that fails, one in which the second transaction cannot be fetched, and one in which the
    first is gone. -/
def mempoolRounds : List MempoolAnswers :=
  [⟨.error (.library "get_raw_mempool"), fun _ txid => .ok (conflicting txid)⟩,
    ⟨.ok ["aa", "bb"], fun k txid =>
      if k = 1 then .error (.library "get_raw_transaction") else .ok (conflicting txid)⟩,
    ⟨.ok ["bb"], fun _ txid => .ok (conflicting txid)⟩]

theorem consistent_mempoolRounds : Consistent conflicting mempoolRounds := by
  intro answers member k txid tx served
  simp only [mempoolRounds, List.mem_cons, List.not_mem_nil, or_false] at member
  rcases member with rfl | rfl | rfl
  · exact (Except.ok.inj served).symm
  · dsimp only at served
    split at served
    · cases served
    · exact (Except.ok.inj served).symm
  · exact (Except.ok.inj served).symm

example : (Mempool.run (mempoolRounds.take 2)).utxoSet = {⟨"f0", 0⟩} := by decide

example : (Mempool.run mempoolRounds).utxoSet = {⟨"f1", 0⟩} := by decide

end Sample

theorem mempool_tracked_sample :
    (∀ output, output ∈ (Mempool.run Sample.mempoolRounds).utxoSet ↔
      SpentInMempool Sample.conflicting Sample.mempoolRounds output) ∧
    ∃ found, ((Sample.ledger []).withMempool (Mempool.run Sample.mempoolRounds)).lookupMempoolInputs
        0 [Sample.backing "00" "b0", Sample.backing "01" "b1"] Table.empty = .ok found ∧
      ∀ id, found.Contains id ↔
        ∃ bond ∈ [Sample.backing "00" "b0", Sample.backing "01" "b1"],
          bond.id (Sample.ledger []) = .ok id ∧
          ∃ tx, (Sample.ledger []).transaction bond.bondTxHex = .ok tx ∧
            ∃ input ∈ tx.input, SpentInMempool Sample.conflicting Sample.mempoolRounds input := by
  apply mempool_tracked Sample.conflicting Sample.mempoolRounds Sample.consistent_mempoolRounds
  intro bond member
  simp only [List.mem_cons, List.not_mem_nil, or_false] at member
  rcases member with rfl | rfl
  · exact ⟨Sample.bondTx "t0" "f0", by decide⟩
  · exact ⟨Sample.bondTx "t1" "f1", by decide⟩

end TapTrade
