import TapTrade.Model.Interface
import TapTrade.Model.CoordinatorUtils

/-! # Confirmations

`get_confirmations` of `tx_confirmation_monitoring.rs`, which asks the bitcoin node about one
transaction after the other. The first answer that is an error ends the round, unless it only
says that the node does not know the transaction.
-/

namespace TapTrade

open Resumption

/-- `CoreRpcError`: an error with a code that the node answered with, or any other one; with
    its text. -/
inductive CoreRpcError where
  | rpc (code : Int32) (text : String)
  | other (text : String)
  deriving DecidableEq, Repr

/-- A bitcoin node. Its answer to the k-th question of a round may depend on the tick of the
    round and on k. -/
structure Node where
  Txid : Type
  /-- `Txid::from_str`. -/
  txidFromStr : String → Option Txid
  /-- The `confirmations` that `get_raw_transaction_info` answers. -/
  getRawTransactionInfo : Nat → Nat → Txid → Except CoreRpcError (Option UInt32)

namespace Node

variable (node : Node) (tick : Nat)

/-- The error for everything but a transaction that the node does not know yet. -/
def fetchError (txid text : String) : Error :=
  .message ("Error fetching transaction info for " ++ txid ++ ": " ++ text)

/-- More than three confirmations. -/
def isConfirmed : Option UInt32 → Bool
  | some confirmations => 3 < confirmations
  | none => false

/-- The rest of the loop of `get_confirmations`, from its k-th question on. -/
def confirmationsFrom (k : Nat) : List String → Except Error (List String)
  | [] => .ok []
  | txid :: unconfirmedTxids => do
      let txidStruct ← parse "Txid::from_str" node.txidFromStr txid
      match node.getRawTransactionInfo tick k txidStruct with
      | .error (.rpc code text) =>
          if code = -5 then confirmationsFrom (k + 1) unconfirmedTxids
          else .error (fetchError txid text)
      | .error (.other text) => .error (fetchError txid text)
      | .ok confirmations =>
          let nowConfirmedTxs ← confirmationsFrom (k + 1) unconfirmedTxids
          return if isConfirmed confirmations then txid :: nowConfirmedTxs else nowConfirmedTxs

/-- `get_confirmations`. -/
def getConfirmations (unconfirmedTxids : List String) : Except Error (List String) :=
  node.confirmationsFrom tick 0 unconfirmedTxids

/-- The node answers the k-th question of the round, which is about the transaction, with more
    than three confirmations. -/
def Confirms (k : Nat) (txid : String) : Prop :=
  ∃ id count, node.txidFromStr txid = some id ∧
    node.getRawTransactionInfo tick k id = .ok (some count) ∧ 3 < count

variable {node tick}

theorem confirms_of_mem {k : Nat} {txids confirmed : List String} {txid : String}
    (answered : node.confirmationsFrom tick k txids = .ok confirmed) (member : txid ∈ confirmed) :
    ∃ i, txids[i]? = some txid ∧ node.Confirms tick (k + i) txid := by
  induction txids generalizing k confirmed with
  | nil =>
      cases answered
      cases member
  | cons first txids ih =>
      have later {confirmed : List String}
          (rest : node.confirmationsFrom tick (k + 1) txids = .ok confirmed)
          (member : txid ∈ confirmed) :
          ∃ i, (first :: txids)[i]? = some txid ∧ node.Confirms tick (k + i) txid := by
        obtain ⟨i, there, confirms⟩ := ih rest member
        exact ⟨i + 1, there, by rwa [Nat.add_comm i, ← Nat.add_assoc]⟩
      rw [confirmationsFrom, bind_eq_ok] at answered
      obtain ⟨id, parsed, answered⟩ := answered
      rw [parse_eq_ok] at parsed
      cases info : node.getRawTransactionInfo tick k id with
      | error e =>
          rw [info] at answered
          cases e with
          | rpc code text =>
              simp only at answered
              split at answered
              · exact later answered member
              · cases answered
          | other text => cases answered
      | ok confirmations =>
          rw [info] at answered
          obtain ⟨rest, continued, returned⟩ := bind_eq_ok.mp answered
          cases returned
          split at member
          case isFalse => exact later continued member
          case isTrue enough =>
            rcases List.mem_cons.mp member with rfl | member
            · cases confirmations with
              | none => cases enough
              | some count =>
                  exact ⟨0, rfl, id, count, parsed, info, of_decide_eq_true enough⟩
            · exact later continued member

end Node

section Surroundings

variable {P : Platform}

/-- The same surroundings, with a node to ask for confirmations. -/
def withNode (env : Environment (coordinator P)) (node : Node) : Environment (coordinator P) where
  answer tick
    | .getConfirmations txids => node.getConfirmations tick txids
    | query => env.answer tick query
  fault := env.fault

end Surroundings

end TapTrade
