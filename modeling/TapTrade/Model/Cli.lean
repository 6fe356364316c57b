import TapTrade.Model.Session
import TapTrade.Model.Words

/-! # The command line of the client

`cli/mod.rs` and `main.rs` of the trader: how the settings are read, from the terminal or from a
file, and which of the two programs is started with them.
-/

namespace TapTrade

open Resumption

variable {P : Platform} {D : Device P}

/-- `cli::CliSettings`. -/
inductive CliSettings (D : Device P) where
  | coordinator
  | taker (settings : TraderConfig D)
  | maker (settings : TraderConfig D)

/-- `char::to_lowercase`, as far as it gives letters of ASCII. -/
def lowercase (c : Char) : Char := if c.toNat = 0x212A then 'k' else c.toLower

def toLowercase (text : String) : String := String.ofList (text.toList.map lowercase)

namespace CliSettings

/-- `get_user_input`. A line that cannot be read is a panic. -/
def getUserInput (prompt : String) : Session D String := do
  match ← Session.ask (.readLine (.setting prompt)) with
  | .ok line => return trim line
  | .error _ => Call.panic

def getTradeType (tradeType : Option String) : Session D OfferType := do
  let tradeType ← match tradeType with
    | some value => pure value
    | none => getUserInput "Do you want to buy or sell satoshis: "
  if tradeType = "buy" then
    let value ← getUserInput "How many satoshi do you want to buy: "
    return .buy (← Call.unwrap (parseU64 value))
  else if tradeType = "sell" then
    let value ← getUserInput "How many satoshi do you want to sell: "
    return .sell (← Call.unwrap (parseU64 value))
  else Call.panic

/-- The timestamp so many hours from now, in either build. -/
def timestampAfter (checks : Bool) (now duration : UInt64) : Outcome Error UInt64 := do
  Word.add checks now (← Word.mul checks duration 3600)

def hoursToTs (hours : String) : Session D UInt64 := do
  let duration ← Session.attempt (parse "u64::from_str" parseU64 hours)
  let now ← Session.tryAsk .now id
  Session.outcome (timestampAfter D.overflowChecks now duration)

/-- `get_wallet_xprv`. -/
def getWalletXprv (xprvInput : Option String) : Session D D.ExtendedPrivKey :=
  match xprvInput with
  | some xprv => Session.attempt (parse "ExtendedPrivKey::from_str" D.xprvFromStr xprv)
  | none => Session.tryAsk .newMaster id

def checkXprvInput (cliInput : Option String) : Session D D.ExtendedPrivKey :=
  getWalletXprv (cliInput.filter (· ≠ ""))

def getTraderSettings : Session D (TraderConfig D) := do
  let electrumEndpoint ← getUserInput "Enter electrum endpoint: "
  let coordinatorEndpoint ← getUserInput "Enter coordinator endpoint: "
  let robotKey ← getUserInput "Enter your robosats robot key: "
  let tradeType ← getTradeType none
  let payoutAddress ←
    getUserInput "Enter a payout address for refunded bonds or your trade payout: "
  let bondRatio ← Session.attempt
    (parse "u8::from_str" parseU8 (← getUserInput "Enter bond ration in [2, 50]%: "))
  let walletXprv ← checkXprvInput
    (some (← getUserInput "Enter funded testnet wallet xprv or leave empty to generate: "))
  let durationUnixTs ← hoursToTs (← getUserInput "How many hours should the offer stay online: ")
  return {
    electrumEndpoint
    coordinatorEndpoint
    robosatsRobohashHex := Hex.encode (D.sha256 robotKey)
    tradeType
    payoutAddress
    bondRatio
    walletXprv
    durationUnixTs }

/-- `env::var(name)?`. -/
def envVar (name : String) : Session D String := Session.tryAsk (.envVar name) id

def loadFromEnv (filename : String) : Session D (TraderConfig D) := do
  Session.tryAsk (.dotenv filename) id
  let electrumEndpoint ← envVar "ELECTRUM_ENDPOINT"
  let coordinatorEndpoint ← envVar "COORDINATOR_ENDPOINT"
  let robosatsRobohashHex ← envVar "ROBOHASH_HEX"
  let tradeType ← getTradeType (some (← envVar "TRADE_TYPE"))
  let payoutAddress ← envVar "PAYOUT_ADDRESS"
  let bondRatio ← Session.attempt (parse "u8::from_str" parseU8 (← envVar "BOND_RATIO"))
  let walletXprv ← checkXprvInput (some (← envVar "XPRV"))
  let durationUnixTs ← hoursToTs (← envVar "OFFER_DURATION_HOURS")
  return {
    electrumEndpoint
    coordinatorEndpoint
    robosatsRobohashHex
    tradeType
    payoutAddress
    bondRatio
    walletXprv
    durationUnixTs }

def parseTraderSettings (maybeFilename : String) : Session D (TraderConfig D) := do
  let input ← getUserInput "Load from .env (y/N): "
  if input = "y" then loadFromEnv maybeFilename
  else if input = "N" then getTraderSettings
  else Call.fail (.failed (.message "Not a valid input!"))

def parseCliArgs : Session D (CliSettings D) := do
  let mode := toLowercase (← getUserInput "Enter mode, 'taker' or 'maker': ")
  if mode = "maker" then return .maker (← parseTraderSettings "maker.env")
  else if mode = "taker" then return .taker (← parseTraderSettings "taker.env")
  else Call.fail (.failed (.message "Either select maker or taker!"))

end CliSettings

variable (W : TradingWallet P) (rounds : Nat)

def startTradePipeline : CliSettings D → Session D Unit
  | .maker makerConfig => runMaker W rounds makerConfig
  | .taker takerConfig => runTaker W rounds takerConfig
  | .coordinator => Call.fail (.failed (.message
      "Wrong trading mode selected, not implemented: Coordinator(Coordinator)"))

/-- `main` of the client. -/
def traderMain : Session D Unit := do
  startTradePipeline W rounds (← CliSettings.parseCliArgs)

end TapTrade
