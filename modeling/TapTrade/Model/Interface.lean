import TapTrade.Model.Platform
import TapTrade.Model.Schema
import TapTrade.Resumption.Call

/-! # What a handler may do

A handler acts on the database one SQL statement at a time. Everything else it
depends on, the wallet, the bitcoin node, the random number generator, the clock and
the operator, answers as it likes; every question is kept in the log together with the
database it was asked in.
-/

namespace TapTrade

open Relational Resumption

inductive Query (P : Platform) where
  /-- `SystemTime::now()`, in seconds. -/
  | now
  /-- `PUNISHMENT_ENABLED` of the process environment. -/
  | punishmentEnabled
  | generateRandomOrderId (size : Nat)
  | getNewAddress
  | getCoordinatorTaprootPk
  | validateBondTxHex (bondTxHex : String) (requirements : BondRequirements)
  | validateBonds (bonds : List MonitoringBond)
  | publishBondTxHex (bond : String)
  /-- `builder.finish()` for the escrow locking transaction. -/
  | finishEscrowTx (tx : EscrowTx P.Input)
  | combineAndBroadcastEscrowPsbt (signedMakerPsbtHex signedTakerPsbtHex : String)
  | assembleKeyspendPayoutPsbt (payoutInformation : PayoutData P)
  | broadcastKeyspendTx (keyspendCtx : KeyspendContext P)
  | getConfirmations (unconfirmedTxids : List String)
  | getCoordinatorCliInput (escrowCase : EscrowCase)

@[reducible] def Query.Answer {P : Platform} : Query P → Type
  | now => UInt64
  | punishmentEnabled => Option String
  | generateRandomOrderId _ => String
  | getNewAddress => Except Error String
  | getCoordinatorTaprootPk => Except Error P.XOnlyPublicKey
  | validateBondTxHex _ _ => Except Error Unit
  | validateBonds _ => Except Error (List (MonitoringBond × Error))
  | publishBondTxHex _ => Except Error Unit
  -- the PSBT as text and the id of its transaction
  | finishEscrowTx _ => Except Error (String × String)
  | combineAndBroadcastEscrowPsbt _ _ => Except Error Unit
  | assembleKeyspendPayoutPsbt _ => Except Error String
  | broadcastKeyspendTx _ => Except Error Unit
  | getConfirmations _ => Except Error (List String)
  -- an error when the task that reads the line has panicked
  | getCoordinatorCliInput _ => Except Error EscrowWinner

/-- The interface of the coordinator: its database and its surroundings. -/
@[reducible] def coordinator (P : Platform) : Interface where
  State := Database
  Query := Query P
  Answer := Query.Answer
  Fault := Unit

/-- A call of the coordinator that can fail with `ε`. -/
abbrev Act (P : Platform) (ε α : Type) := Call (coordinator P) ε α

variable {P : Platform} {ε α : Type}

def ask (query : Query P) : Act P ε query.Answer :=
  Call.ask (I := coordinator P) query

/-- `fetch_optional`. -/
def fetchOptional (read : Database → Option α) : Act P Error (Option α) :=
  Call.query (fun _ => .database) read

/-- `fetch_all`. -/
def fetchAll (read : Database → List α) : Act P Error (List α) :=
  Call.query (fun _ => .database) read

/-- `fetch_one`: a missing row is an error. -/
def fetchOne (read : Database → Option α) : Act P Error α := do
  Call.ofOption .rowNotFound (← fetchOptional read)

/-- `execute`. -/
def execute (write : Database → Database) : Act P Error Unit :=
  Call.update (fun _ => .database) write

/-- `hex::decode(text)?`. -/
def hexDecode (text : String) : Act P Error Bytes := Call.ofOption .fromHex (Hex.decode text)

/-- A question whose answer can be an error, which `?` passes on. -/
def tryAsk (query : Query P) (answer : query.Answer → Except Error α) : Act P Error α := do
  Call.ofExcept (answer (← ask query))

end TapTrade
