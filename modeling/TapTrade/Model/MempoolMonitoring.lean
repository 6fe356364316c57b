import Mathlib.Data.Finset.Insert
import TapTrade.Model.BondValidation
import TapTrade.Relational.Cache

/-! # The mempool that is kept in memory

`coordinator/mempool_monitoring.rs`: the rounds of `run_mempool`, which keep the transactions of the
node's mempool and the outputs that they spend. Another task looks bonds up in these outputs; the
rounds rebuild them under a lock.
-/

namespace TapTrade

open Relational

/-- An entry of the map `transactions`. -/
structure MempoolTransaction where
  txid : String
  inputs : List OutPoint
  deriving DecidableEq, Repr

instance : Keyed MempoolTransaction String := ⟨MempoolTransaction.txid⟩

structure Mempool where
  transactions : Table MempoolTransaction
  utxoSet : Finset OutPoint

/-- What the node answers in one round. The number is that of the txid in the snapshot. -/
structure MempoolAnswers where
  getRawMempool : Except Error (List String)
  getRawTransaction : Nat → String → Except Error Transaction

namespace Mempool

def new : Mempool := ⟨Table.empty, ∅⟩

/-- The loop over the txids of the snapshot, from the k-th one on. -/
def fetchTransactions (answers : MempoolAnswers) (k : Nat) :
    List String → Table MempoolTransaction → Table MempoolTransaction
  | [], mempoolState => mempoolState
  | txid :: mempoolTxs, mempoolState =>
      if mempoolState.Contains txid then
        fetchTransactions answers (k + 1) mempoolTxs mempoolState
      else
        match answers.getRawTransaction k txid with
        | .error _ => fetchTransactions answers (k + 1) mempoolTxs mempoolState
        | .ok tx => fetchTransactions answers (k + 1) mempoolTxs
            (mempoolState.insertOrReplace ⟨txid, tx.input⟩)

/-- The loop over the inputs of a transaction. -/
def insertInputs (utxoSet : Finset OutPoint) (inputs : List OutPoint) : Finset OutPoint :=
  inputs.foldl (fun utxoSet input => insert input utxoSet) utxoSet

/-- The loop over the transactions, after `clear`. -/
def rebuild (mempoolState : Table MempoolTransaction) : Finset OutPoint :=
  mempoolState.rows.foldl (fun utxoSet tx => insertInputs utxoSet tx.inputs) ∅

/-- One round of `run_mempool`. -/
def round (mempool : Mempool) (answers : MempoolAnswers) : Mempool :=
  match answers.getRawMempool with
  | .error _ => mempool
  | .ok mempoolTxs =>
      let mempoolState := (fetchTransactions answers 0 mempoolTxs mempool.transactions).retain
        (mempoolTxs.contains ·)
      ⟨mempoolState, rebuild mempoolState⟩

/-- The rounds of `run_mempool` from the start on. -/
def run (rounds : List MempoolAnswers) : Mempool := rounds.foldl round new

end Mempool

/-- The chain with the tracked mempool. -/
def Chain.withMempool (chain : Chain) (mempool : Mempool) : Chain :=
  { chain with inUtxoSet := fun _ input => input ∈ mempool.utxoSet }

end TapTrade
