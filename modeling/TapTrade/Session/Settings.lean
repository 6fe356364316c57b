import TapTrade.Session.Provenance

/-! # What a session is started with

The settings of a client are texts that its trader has typed, or that a file has; only the amount
is always typed. All that the client then does comes from these settings and from what it was
answered: this is so for the whole program, from the first prompt on.
-/

namespace TapTrade

open Wire Resumption Call

variable {P : Platform} {D : Device P}

/-- The settings as texts. -/
structure Entries where
  electrumEndpoint : String
  coordinatorEndpoint : String
  robohashHex : String
  tradeType : String
  payoutAddress : String
  bondRatio : String
  xprv : String
  hours : String

namespace Hearing

variable (heard : Hearing D)

/-- The trader has typed the text, maybe with whitespace around it. -/
def Typed (prompt text : String) : Prop :=
  ∃ line, heard (.readLine (.setting prompt)) (.ok line) ∧ trim line = text

/-- All settings were typed. The robohash is the one of the key that was typed. -/
structure Filled (entries : Entries) : Prop where
  electrumEndpoint : heard.Typed "Enter electrum endpoint: " entries.electrumEndpoint
  coordinatorEndpoint : heard.Typed "Enter coordinator endpoint: " entries.coordinatorEndpoint
  robohash : ∃ robotKey, heard.Typed "Enter your robosats robot key: " robotKey ∧
    entries.robohashHex = Hex.encode (D.sha256 robotKey)
  tradeType : heard.Typed "Do you want to buy or sell satoshis: " entries.tradeType
  payoutAddress : heard.Typed "Enter a payout address for refunded bonds or your trade payout: "
    entries.payoutAddress
  bondRatio : heard.Typed "Enter bond ration in [2, 50]%: " entries.bondRatio
  xprv : heard.Typed "Enter funded testnet wallet xprv or leave empty to generate: " entries.xprv
  hours : heard.Typed "How many hours should the offer stay online: " entries.hours

/-- The settings were read from the file. -/
structure Loaded (filename : String) (entries : Entries) : Prop where
  file : heard (.dotenv filename) (.ok ())
  electrumEndpoint : heard (.envVar "ELECTRUM_ENDPOINT") (.ok entries.electrumEndpoint)
  coordinatorEndpoint : heard (.envVar "COORDINATOR_ENDPOINT") (.ok entries.coordinatorEndpoint)
  robohash : heard (.envVar "ROBOHASH_HEX") (.ok entries.robohashHex)
  tradeType : heard (.envVar "TRADE_TYPE") (.ok entries.tradeType)
  payoutAddress : heard (.envVar "PAYOUT_ADDRESS") (.ok entries.payoutAddress)
  bondRatio : heard (.envVar "BOND_RATIO") (.ok entries.bondRatio)
  xprv : heard (.envVar "XPRV") (.ok entries.xprv)
  hours : heard (.envVar "OFFER_DURATION_HOURS") (.ok entries.hours)

/-- The trader has typed an amount for the trade. -/
def Amount (prompt : String) (value : UInt64) : Prop :=
  ∃ text, heard.Typed prompt text ∧ parseU64 text = some value

/-- The trade is of the type, and the amount was typed. -/
def Trade (tradeType : String) : OfferType → Prop
  | .buy value => tradeType = "buy" ∧ heard.Amount "How many satoshi do you want to buy: " value
  | .sell value => tradeType = "sell" ∧ heard.Amount "How many satoshi do you want to sell: " value

/-- The key of the wallet: a new one if the text is empty. -/
def Wallet (xprv : String) (walletXprv : D.ExtendedPrivKey) : Prop :=
  if xprv = "" then heard .newMaster (.ok walletXprv) else D.xprvFromStr xprv = some walletXprv

/-- The offer ends so many hours from the time that the client has read. -/
def Until (hours : String) (timestamp : UInt64) : Prop :=
  ∃ duration now, parseU64 hours = some duration ∧ heard .now (.ok now) ∧
    CliSettings.timestampAfter D.overflowChecks now duration = .ok timestamp

/-- The settings are what the texts say. -/
structure Parsed (entries : Entries) (config : TraderConfig D) : Prop where
  electrumEndpoint : config.electrumEndpoint = entries.electrumEndpoint
  coordinatorEndpoint : config.coordinatorEndpoint = entries.coordinatorEndpoint
  robohash : config.robosatsRobohashHex = entries.robohashHex
  tradeType : heard.Trade entries.tradeType config.tradeType
  payoutAddress : config.payoutAddress = entries.payoutAddress
  bondRatio : parseU8 entries.bondRatio = some config.bondRatio
  walletXprv : heard.Wallet entries.xprv config.walletXprv
  durationUnixTs : heard.Until entries.hours config.durationUnixTs

/-- The settings were typed, or read from the file, as the trader has chosen. -/
def Configured (filename : String) (config : TraderConfig D) : Prop :=
  ∃ entries, heard.Parsed entries config ∧
    (heard.Typed "Load from .env (y/N): " "y" ∧ heard.Loaded filename entries ∨
      heard.Typed "Load from .env (y/N): " "N" ∧ heard.Filled entries)

/-- The trader has typed the mode, in upper or lower case. -/
def Mode (mode : String) : Prop :=
  ∃ text, heard.Typed "Enter mode, 'taker' or 'maker': " text ∧ toLowercase text = mode

/-- The trader has entered the settings, for the mode that it has typed. -/
def Entered : CliSettings D → Prop
  | .coordinator => False
  | .maker config => heard.Mode "maker" ∧ heard.Configured "maker.env" config
  | .taker config => heard.Mode "taker" ∧ heard.Configured "taker.env" config

end Hearing

/-- A question with which the settings are read. -/
def TraderQuery.Prepares : TraderQuery D → Prop
  | .readLine (.setting _) | .envVar _ | .dotenv _ | .now | .newMaster => True
  | _ => False

/-- A question of the client: it reads the settings, or its data come from them and from what was
    heard. -/
def TraderQuery.Accountable (heard : Hearing D) (W : TradingWallet P) (query : TraderQuery D) : Prop :=
  query.Prepares ∨ ∃ settings config, heard.Entered settings ∧ settings.trader? = some config ∧
    query.Genuine heard config W

section Growth

variable {heard heard' : Hearing D} {prompt text filename : String} {entries : Entries}
  {config : TraderConfig D}
  (grows : ∀ query answer, heard query answer → heard' query answer)
include grows

namespace Hearing

theorem Typed.mono (typed : heard.Typed prompt text) : heard'.Typed prompt text := by
  obtain ⟨line, read, same⟩ := typed
  exact ⟨line, grows _ _ read, same⟩

theorem Filled.mono (filled : heard.Filled entries) : heard'.Filled entries where
  electrumEndpoint := filled.electrumEndpoint.mono grows
  coordinatorEndpoint := filled.coordinatorEndpoint.mono grows
  robohash := filled.robohash.imp fun _ => And.imp_left (·.mono grows)
  tradeType := filled.tradeType.mono grows
  payoutAddress := filled.payoutAddress.mono grows
  bondRatio := filled.bondRatio.mono grows
  xprv := filled.xprv.mono grows
  hours := filled.hours.mono grows

theorem Loaded.mono (loaded : heard.Loaded filename entries) : heard'.Loaded filename entries where
  file := grows _ _ loaded.file
  electrumEndpoint := grows _ _ loaded.electrumEndpoint
  coordinatorEndpoint := grows _ _ loaded.coordinatorEndpoint
  robohash := grows _ _ loaded.robohash
  tradeType := grows _ _ loaded.tradeType
  payoutAddress := grows _ _ loaded.payoutAddress
  bondRatio := grows _ _ loaded.bondRatio
  xprv := grows _ _ loaded.xprv
  hours := grows _ _ loaded.hours

theorem Amount.mono {value : UInt64} (amount : heard.Amount prompt value) :
    heard'.Amount prompt value := by
  obtain ⟨text, typed, parsed⟩ := amount
  exact ⟨text, typed.mono grows, parsed⟩

theorem Trade.mono {offerType : OfferType} (trade : heard.Trade text offerType) :
    heard'.Trade text offerType := by
  cases offerType with
  | buy value => exact ⟨trade.1, Amount.mono grows trade.2⟩
  | sell value => exact ⟨trade.1, Amount.mono grows trade.2⟩

theorem Wallet.mono {walletXprv : D.ExtendedPrivKey} (wallet : heard.Wallet text walletXprv) :
    heard'.Wallet text walletXprv := by
  unfold Wallet at wallet ⊢
  split at wallet
  case isTrue empty => exact (if_pos empty).mpr (grows _ _ wallet)
  case isFalse given => exact (if_neg given).mpr wallet

theorem Until.mono {timestamp : UInt64} (till : heard.Until text timestamp) :
    heard'.Until text timestamp := by
  obtain ⟨duration, now, parsed, read, sum⟩ := till
  exact ⟨duration, now, parsed, grows _ _ read, sum⟩

theorem Parsed.mono (parsed : heard.Parsed entries config) : heard'.Parsed entries config where
  electrumEndpoint := parsed.electrumEndpoint
  coordinatorEndpoint := parsed.coordinatorEndpoint
  robohash := parsed.robohash
  tradeType := parsed.tradeType.mono grows
  payoutAddress := parsed.payoutAddress
  bondRatio := parsed.bondRatio
  walletXprv := parsed.walletXprv.mono grows
  durationUnixTs := parsed.durationUnixTs.mono grows

theorem Configured.mono (configured : heard.Configured filename config) :
    heard'.Configured filename config := by
  obtain ⟨entries, parsed, source⟩ := configured
  refine ⟨entries, parsed.mono grows, source.imp ?_ ?_⟩
  · exact And.imp (·.mono grows) (·.mono grows)
  · exact And.imp (·.mono grows) (·.mono grows)

theorem Entered.mono {settings : CliSettings D} (entered : heard.Entered settings) :
    heard'.Entered settings := by
  have mode {mode : String} (typed : heard.Mode mode) : heard'.Mode mode :=
    typed.imp fun _ => And.imp_left (·.mono grows)
  cases settings with
  | coordinator => exact entered
  | maker config => exact ⟨mode entered.1, entered.2.mono grows⟩
  | taker config => exact ⟨mode entered.1, entered.2.mono grows⟩

end Hearing

theorem TraderQuery.Accountable.mono {W : TradingWallet P} {query : TraderQuery D}
    (accountable : query.Accountable heard W) : query.Accountable heard' W := by
  obtain prepares | ⟨settings, config, entered, trader, genuine⟩ := accountable
  · exact .inl prepares
  · exact .inr ⟨settings, config, entered.mono grows, trader, genuine.mono grows⟩

end Growth

/-- The call asks only what the client can account for. -/
abbrev AccountableCall {α : Type} (W : TradingWallet P) (post : Knowledge (trader D) → α → Prop)
    (k : Knowledge (trader D)) (c : Session D α) : Prop :=
  c.Learns (fun _ _ _ => True)
    (fun k (query : TraderQuery D) => query.Accountable (.ofKnowledge k) W) post k

section Calls

variable {W : TradingWallet P} {k : Knowledge (trader D)} {prompt name filename : String}

theorem account_attempt {α : Type} {x : Except Error α} {post : Knowledge (trader D) → α → Prop}
    (ends : ∀ a, x = .ok a → post k a) : AccountableCall W post k (Session.attempt x) :=
  fun _ => Session.follows_attempt ends

theorem account_tryAsk {α : Type} {query : TraderQuery D} {answer : query.Answer → Except Error α}
    {post : Knowledge (trader D) → α → Prop} (prepares : query.Prepares)
    (ends : ∀ k' reply a, k ≤ k' → Hearing.ofKnowledge k' query reply → answer reply = .ok a →
      post k' a) : AccountableCall W post k (Session.tryAsk query answer) :=
  Learns.bind (learns_ask (.inl prepares) fun reply =>
    account_attempt fun a same => ends _ reply a Knowledge.le_hear Knowledge.mem_hear same)

theorem account_getUserInput {post : Knowledge (trader D) → String → Prop}
    (ends : ∀ k' text, k ≤ k' → (Hearing.ofKnowledge k').Typed prompt text → post k' text) :
    AccountableCall W post k (CliSettings.getUserInput prompt) := by
  refine Learns.bind (learns_ask (.inl trivial) fun reply => ?_)
  cases reply with
  | ok line => exact learns_pure (ends _ _ Knowledge.le_hear ⟨line, Knowledge.mem_hear, rfl⟩)
  | error e => exact learns_panic

theorem account_envVar {post : Knowledge (trader D) → String → Prop}
    (ends : ∀ k' text, k ≤ k' → Hearing.ofKnowledge k' (.envVar name) (.ok text) → post k' text) :
    AccountableCall W post k (CliSettings.envVar name) := by
  apply account_tryAsk
  · trivial
  rintro k' reply text more given rfl
  exact ends k' text more given

theorem account_amount {offerType : UInt64 → OfferType}
    {post : Knowledge (trader D) → OfferType → Prop}
    (ends : ∀ k' value, k ≤ k' → (Hearing.ofKnowledge k').Amount prompt value →
      post k' (offerType value)) : AccountableCall W post k (do
        let value ← CliSettings.getUserInput prompt
        return offerType (← Call.unwrap (parseU64 value))) := by
  apply Learns.bind
  apply account_getUserInput
  intro k' text more typed
  apply Learns.bind
  refine fun _ => Session.follows_unwrap fun value parsed => ?_
  exact learns_pure (ends k' value more ⟨text, typed, parsed⟩)

/-- The type of the trade is given, and the amount is typed. -/
theorem account_getTradeType {text : String} {post : Knowledge (trader D) → OfferType → Prop}
    (ends : ∀ k' offerType, k ≤ k' → (Hearing.ofKnowledge k').Trade text offerType →
      post k' offerType) : AccountableCall W post k (CliSettings.getTradeType (some text)) := by
  apply Learns.bind
  apply learns_pure
  apply learns_ite
  · rintro rfl
    exact account_amount fun k' value more amount => ends k' (.buy value) more ⟨rfl, amount⟩
  intro elsewise
  apply learns_ite
  · rintro rfl
    exact account_amount fun k' value more amount => ends k' (.sell value) more ⟨rfl, amount⟩
  · exact fun _ => learns_panic

/-- The type of the trade is typed, too. -/
theorem account_askTradeType {post : Knowledge (trader D) → OfferType → Prop}
    (ends : ∀ k' text offerType, k ≤ k' →
      (Hearing.ofKnowledge k').Typed "Do you want to buy or sell satoshis: " text →
      (Hearing.ofKnowledge k').Trade text offerType → post k' offerType) :
    AccountableCall W post k (CliSettings.getTradeType none) := by
  have asks : (CliSettings.getTradeType none : Session D OfferType) =
      CliSettings.getUserInput "Do you want to buy or sell satoshis: " >>= fun text =>
        CliSettings.getTradeType (some text) := rfl
  rw [asks]
  apply Learns.bind
  apply account_getUserInput
  intro k₁ text more typed
  apply account_getTradeType
  intro k₂ offerType further trade
  exact ends k₂ text offerType (Knowledge.le_trans more further)
    (typed.mono (hearing_le further)) trade

theorem account_hoursToTs {hours : String} {post : Knowledge (trader D) → UInt64 → Prop}
    (ends : ∀ k' timestamp, k ≤ k' → (Hearing.ofKnowledge k').Until hours timestamp →
      post k' timestamp) : AccountableCall W post k (CliSettings.hoursToTs hours) := by
  apply Learns.bind
  apply account_attempt
  intro duration parsed
  apply Learns.bind
  apply account_tryAsk
  · trivial
  rintro k' reply now more heard rfl
  exact fun _ => Session.follows_outcome fun timestamp sum =>
    ends k' timestamp more ⟨duration, now, parse_eq_ok.mp parsed, heard, sum⟩

theorem account_checkXprvInput {text : String}
    {post : Knowledge (trader D) → D.ExtendedPrivKey → Prop}
    (ends : ∀ k' xprv, k ≤ k' → (Hearing.ofKnowledge k').Wallet text xprv → post k' xprv) :
    AccountableCall W post k (CliSettings.checkXprvInput (some text)) := by
  by_cases empty : text = ""
  · subst empty
    apply account_tryAsk
    · trivial
    rintro k' reply xprv more made rfl
    exact ends k' xprv more ((if_pos rfl).mpr made)
  · have given : CliSettings.checkXprvInput (D := D) (some text) =
        CliSettings.getWalletXprv (some text) := by
      simp [CliSettings.checkXprvInput, Option.filter, empty]
    rw [given]
    apply account_attempt
    intro xprv parsed
    exact ends k xprv Knowledge.le_refl ((if_neg empty).mpr (parse_eq_ok.mp parsed))

theorem account_getTraderSettings {post : Knowledge (trader D) → TraderConfig D → Prop}
    (ends : ∀ k' entries config, k ≤ k' → (Hearing.ofKnowledge k').Filled entries →
      (Hearing.ofKnowledge k').Parsed entries config → post k' config) :
    AccountableCall W post k CliSettings.getTraderSettings := by
  apply Learns.bind
  apply account_getUserInput
  intro k₁ electrumEndpoint more₁ electrum
  apply Learns.bind
  apply account_getUserInput
  intro k₂ coordinatorEndpoint more₂ coordinator
  apply Learns.bind
  apply account_getUserInput
  intro k₃ robotKey more₃ key
  apply Learns.bind
  apply account_askTradeType
  intro k₄ tradeType offerType more₄ type trade
  apply Learns.bind
  apply account_getUserInput
  intro k₅ payoutAddress more₅ address
  apply Learns.bind
  apply account_getUserInput
  intro k₆ ratioText more₆ ratio
  apply Learns.bind
  apply account_attempt
  intro bondRatio ratioParsed
  apply Learns.bind
  apply account_getUserInput
  intro k₇ xprv more₇ xprvTyped
  apply Learns.bind
  apply account_checkXprvInput
  intro k₈ walletXprv more₈ wallet
  apply Learns.bind
  apply account_getUserInput
  intro k₉ hours more₉ hoursTyped
  apply Learns.bind
  apply account_hoursToTs
  intro k₁₀ durationUnixTs later₉ till
  have later₈ := Knowledge.le_trans more₉ later₉
  have later₇ := Knowledge.le_trans more₈ later₈
  have later₆ := Knowledge.le_trans more₇ later₇
  have later₅ := Knowledge.le_trans more₆ later₆
  have later₄ := Knowledge.le_trans more₅ later₅
  have later₃ := Knowledge.le_trans more₄ later₄
  have later₂ := Knowledge.le_trans more₃ later₃
  have later₁ := Knowledge.le_trans more₂ later₂
  let entries : Entries := {
    electrumEndpoint
    coordinatorEndpoint
    robohashHex := Hex.encode (D.sha256 robotKey)
    tradeType
    payoutAddress
    bondRatio := ratioText
    xprv
    hours }
  refine learns_pure (ends k₁₀ entries _ (Knowledge.le_trans more₁ later₁) ?_ ?_)
  · exact {
      electrumEndpoint := electrum.mono (hearing_le later₁)
      coordinatorEndpoint := coordinator.mono (hearing_le later₂)
      robohash := ⟨robotKey, key.mono (hearing_le later₃), rfl⟩
      tradeType := type.mono (hearing_le later₄)
      payoutAddress := address.mono (hearing_le later₅)
      bondRatio := ratio.mono (hearing_le later₆)
      xprv := xprvTyped.mono (hearing_le later₇)
      hours := hoursTyped.mono (hearing_le later₉) }
  · exact {
      electrumEndpoint := rfl
      coordinatorEndpoint := rfl
      robohash := rfl
      tradeType := trade.mono (hearing_le later₄)
      payoutAddress := rfl
      bondRatio := parse_eq_ok.mp ratioParsed
      walletXprv := wallet.mono (hearing_le later₈)
      durationUnixTs := till }

theorem account_loadFromEnv {post : Knowledge (trader D) → TraderConfig D → Prop}
    (ends : ∀ k' entries config, k ≤ k' → (Hearing.ofKnowledge k').Loaded filename entries →
      (Hearing.ofKnowledge k').Parsed entries config → post k' config) :
    AccountableCall W post k (CliSettings.loadFromEnv filename) := by
  apply Learns.bind
  apply account_tryAsk
  · trivial
  rintro k₀ reply ⟨⟩ more₀ file rfl
  apply Learns.bind
  apply account_envVar
  intro k₁ electrumEndpoint more₁ electrum
  apply Learns.bind
  apply account_envVar
  intro k₂ coordinatorEndpoint more₂ coordinator
  apply Learns.bind
  apply account_envVar
  intro k₃ robohashHex more₃ robohash
  apply Learns.bind
  apply account_envVar
  intro k₄ tradeType more₄ type
  apply Learns.bind
  apply account_getTradeType
  intro k₅ offerType more₅ trade
  apply Learns.bind
  apply account_envVar
  intro k₆ payoutAddress more₆ address
  apply Learns.bind
  apply account_envVar
  intro k₇ ratioText more₇ ratio
  apply Learns.bind
  apply account_attempt
  intro bondRatio ratioParsed
  apply Learns.bind
  apply account_envVar
  intro k₈ xprv more₈ xprvSet
  apply Learns.bind
  apply account_checkXprvInput
  intro k₉ walletXprv more₉ wallet
  apply Learns.bind
  apply account_envVar
  intro k₁₀ hours more₁₀ hoursSet
  apply Learns.bind
  apply account_hoursToTs
  intro k₁₁ durationUnixTs later₁₀ till
  have later₉ := Knowledge.le_trans more₁₀ later₁₀
  have later₈ := Knowledge.le_trans more₉ later₉
  have later₇ := Knowledge.le_trans more₈ later₈
  have later₆ := Knowledge.le_trans more₇ later₇
  have later₅ := Knowledge.le_trans more₆ later₆
  have later₄ := Knowledge.le_trans more₅ later₅
  have later₃ := Knowledge.le_trans more₄ later₄
  have later₂ := Knowledge.le_trans more₃ later₃
  have later₁ := Knowledge.le_trans more₂ later₂
  have later₀ := Knowledge.le_trans more₁ later₁
  let entries : Entries := {
    electrumEndpoint
    coordinatorEndpoint
    robohashHex
    tradeType
    payoutAddress
    bondRatio := ratioText
    xprv
    hours }
  refine learns_pure (ends k₁₁ entries _ (Knowledge.le_trans more₀ later₀) ?_ ?_)
  · exact {
      file := hearing_le later₀ _ _ file
      electrumEndpoint := hearing_le later₁ _ _ electrum
      coordinatorEndpoint := hearing_le later₂ _ _ coordinator
      robohash := hearing_le later₃ _ _ robohash
      tradeType := hearing_le later₄ _ _ type
      payoutAddress := hearing_le later₆ _ _ address
      bondRatio := hearing_le later₇ _ _ ratio
      xprv := hearing_le later₈ _ _ xprvSet
      hours := hearing_le later₁₀ _ _ hoursSet }
  · exact {
      electrumEndpoint := rfl
      coordinatorEndpoint := rfl
      robohash := rfl
      tradeType := trade.mono (hearing_le later₅)
      payoutAddress := rfl
      bondRatio := parse_eq_ok.mp ratioParsed
      walletXprv := wallet.mono (hearing_le later₉)
      durationUnixTs := till }

theorem account_parseTraderSettings {post : Knowledge (trader D) → TraderConfig D → Prop}
    (ends : ∀ k' config, k ≤ k' → (Hearing.ofKnowledge k').Configured filename config →
      post k' config) : AccountableCall W post k (CliSettings.parseTraderSettings filename) := by
  apply Learns.bind
  apply account_getUserInput
  intro k₁ input more₁ typed
  apply learns_ite
  · rintro rfl
    apply account_loadFromEnv
    intro k₂ entries config more₂ loaded parsed
    exact ends k₂ config (Knowledge.le_trans more₁ more₂)
      ⟨entries, parsed, .inl ⟨typed.mono (hearing_le more₂), loaded⟩⟩
  intro elsewise
  apply learns_ite
  · rintro rfl
    apply account_getTraderSettings
    intro k₂ entries config more₂ filled parsed
    exact ends k₂ config (Knowledge.le_trans more₁ more₂)
      ⟨entries, parsed, .inr ⟨typed.mono (hearing_le more₂), filled⟩⟩
  · exact fun _ => learns_fail _

theorem account_parseCliArgs {post : Knowledge (trader D) → CliSettings D → Prop}
    (ends : ∀ k' settings, (Hearing.ofKnowledge k').Entered settings → post k' settings) :
    AccountableCall W post k CliSettings.parseCliArgs := by
  apply Learns.bind
  apply account_getUserInput
  intro k₁ text more₁ typed
  apply learns_ite
  · intro maker
    apply Learns.bind
    apply account_parseTraderSettings
    intro k₂ config more₂ configured
    exact learns_pure (ends k₂ (.maker config)
      ⟨⟨text, typed.mono (hearing_le more₂), maker⟩, configured⟩)
  intro elsewise
  apply learns_ite
  · intro taker
    apply Learns.bind
    apply account_parseTraderSettings
    intro k₂ config more₂ configured
    exact learns_pure (ends k₂ (.taker config)
      ⟨⟨text, typed.mono (hearing_le more₂), taker⟩, configured⟩)
  · exact fun _ => learns_fail _

/-- A session whose settings were entered accounts for what it asks. -/
theorem account_genuine {settings : CliSettings D} {config : TraderConfig D} {c : Session D Unit}
    (entered : (Hearing.ofKnowledge k).Entered settings) (trader : settings.trader? = some config)
    (genuine : GenuineCall config W (fun _ _ => True) k c) :
    AccountableCall W (fun _ _ => True) k c :=
  genuine.among fun _ more _ genuine =>
    .inr ⟨settings, config, entered.mono (hearing_le more), trader, genuine⟩

end Calls

/-- Whatever everybody answers: all that the client of a trader submits, and all that its wallet
    builds and signs, comes from the settings that were entered and from what it has heard before. -/
theorem client_genuine (W : TradingWallet P) (rounds : Nat) (env : Environment (trader D))
    (w : World (trader D)) :
    ∃ events, (Call.exec env (traderMain W rounds) w).2.log = w.log ++ events ∧
      ∀ earlier event later, events = earlier ++ event :: later →
        event.query.Accountable (.ofLog earlier) W := by
  have accountable : AccountableCall W (fun _ _ => True) .nothing
      (traderMain W rounds : Session D Unit) := by
    apply Learns.bind
    apply account_parseCliArgs
    intro k settings entered
    cases settings with
    | coordinator => exact entered.elim
    | maker config => exact account_genuine entered rfl (genuine_runMaker rounds)
    | taker config => exact account_genuine entered rfl (genuine_runTaker rounds)
  obtain ⟨events, log, asked, -⟩ :=
    Program.Learns.run (fun n => (accountable n).mono fun _ _ _ _ => trivial) env w
  refine ⟨events, log, fun earlier event later same => ?_⟩
  obtain ⟨k, holds, accountable⟩ := asked earlier event later same
  refine accountable.mono fun query answer heard => ?_
  obtain ⟨⟨⟩, member⟩ := holds.heard query answer heard
  exact member

end TapTrade
