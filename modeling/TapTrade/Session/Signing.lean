import TapTrade.Session.Order
import TapTrade.Session.Secrets

/-! # What a session signs

A session draws one secret nonce, tells the coordinator the public one with its bond, and signs at
most one transaction with it: the payout that it was answered. A nonce that signs twice gives the
secret key away; so this must not depend on what the coordinator answers, and it does not.
-/

namespace TapTrade

open Wire Resumption Call

variable {P : Platform} {D : Device P} {config : TraderConfig D} {heard heard' : Hearing D}

namespace Hearing

variable (heard : Hearing D) (config : TraderConfig D) (nonce : D.SecNonce)

/-- The public nonce and the public key were sent with a bond. -/
def Announced : Prop :=
  ∃ request answer keys, heard.Answered config request answer ∧ request.keys? = some keys ∧
    Announces config nonce keys

/-- The parts of the payout were the answer to a poll. -/
def Payable (parts : P.PartiallySignedTransaction × P.MusigAggNonce × P.KeyAggContext) : Prop :=
  ∃ id answer payout, heard.Answered config (.pollFinalPayout (config.about id)) answer ∧
    hasStatus 200 answer ∧ message? PayoutResponse answer = some payout ∧
      payout.parts (D := D) = .ok parts

/-- The text is the signature of a payout that was answered, with the nonce that was drawn and
    announced. -/
def Cosigned (text : String) : Prop :=
  ∃ nonce parts, heard .generateNonce (.ok nonce) ∧ heard.Announced config nonce ∧
    heard.Payable config parts ∧ PartialSignature config nonce parts text

end Hearing

namespace KeyState

/-- What a session has heard when the nonce is in the state. -/
def Heard (heard : Hearing D) (config : TraderConfig D) : KeyState D → Prop
  | fresh | spent => True
  | drawn nonce => heard .generateNonce (.ok nonce)
  | announced nonce => heard .generateNonce (.ok nonce) ∧ heard.Announced config nonce
  | payable nonce parts => heard .generateNonce (.ok nonce) ∧ heard.Announced config nonce ∧
      heard.Payable config parts

/-- How far the nonce has come. -/
def rank : KeyState D → Nat
  | fresh => 0
  | drawn _ => 1
  | announced _ => 2
  | payable _ _ => 3
  | spent => 4

end KeyState

/-- The rank of the states in which it is done. -/
def SecretStep.rank : SecretStep → Nat
  | draw => 0
  | announce => 1
  | sign => 3

namespace KeyState

variable {state after : KeyState D} {query : TraderQuery D} {answer : query.Answer}

theorem secretStep?_of_keys? {request : Request} {keys : String × String}
    (same : request.keys? = some keys) : request.secretStep? = some .announce := by
  cases request <;> first | rfl | cases same

theorem Requests.rank {request : Request} {answer : Except Error Response}
    (requests : Requests config answer state request after) :
    state.rank ≤ after.rank ∧ ∀ step, request.secretStep? = some step →
      state.rank = step.rank ∧ step.rank < after.rank := by
  cases requests with
  | announces same =>
      refine ⟨by simp [KeyState.rank], fun step is => ?_⟩
      cases (secretStep?_of_keys? same).symm.trans is
      simp [KeyState.rank, SecretStep.rank]
  | paidOut => exact ⟨by simp [KeyState.rank], nofun⟩
  | signed =>
      refine ⟨by simp [KeyState.rank], ?_⟩
      rintro _ ⟨⟩
      simp [KeyState.rank, SecretStep.rank]
  | keyless keyless =>
      refine ⟨Nat.le_refl _, fun step is => ?_⟩
      cases keyless.symm.trans is

/-- The nonce never goes back, and each step leads it on. -/
theorem Asks.rank (asks : Asks config state query answer after) :
    state.rank ≤ after.rank ∧ ∀ step, query.secretStep? = some step →
      state.rank = step.rank ∧ step.rank < after.rank := by
  cases asks with
  | drawn | undrawn =>
      refine ⟨by simp [KeyState.rank], ?_⟩
      rintro _ ⟨⟩
      simp [KeyState.rank, SecretStep.rank]
  | request routed requests =>
      refine ⟨requests.rank.1, fun step is => requests.rank.2 step ?_⟩
      simpa [TraderQuery.secretStep?, routed, Except.toOption] using is
  | keyless keyless =>
      refine ⟨Nat.le_refl _, fun step is => ?_⟩
      cases keyless.symm.trans is

theorem Heard.mono (known : state.Heard heard config)
    (grows : ∀ query answer, heard query answer → heard' query answer) :
    state.Heard heard' config := by
  have announced {nonce : D.SecNonce} (announced : heard.Announced config nonce) :
      heard'.Announced config nonce := by
    obtain ⟨request, answer, keys, answered, rest⟩ := announced
    exact ⟨request, answer, keys, answered.mono grows, rest⟩
  cases state with
  | fresh | spent => trivial
  | drawn nonce => exact grows _ _ known
  | announced nonce => exact ⟨grows _ _ known.1, announced known.2⟩
  | payable nonce parts =>
      obtain ⟨drawn, sent, id, answer, payout, answered, rest⟩ := known
      exact ⟨grows _ _ drawn, announced sent, id, answer, payout, answered.mono grows, rest⟩

theorem Heard.next (known : state.Heard heard config) (new : heard query answer)
    (asks : Asks config state query answer after) : after.Heard heard config := by
  cases asks with
  | drawn => exact new
  | undrawn => trivial
  | keyless => exact known
  | @request state after path body request answer routed requests =>
      have answered : heard.Answered config request answer := ⟨path, body, new, routed⟩
      cases requests with
      | announces same announces => exact ⟨known, request, answer, _, answered, same, announces⟩
      | paidOut ready read parsed =>
          exact ⟨known.1, known.2, _, answer, _, answered, ready, read, parsed⟩
      | signed => trivial
      | keyless => exact known

/-- A signature is permitted only if it is one of what was heard. -/
theorem Heard.cosigned {path : String} {body : Json} {payload : PayoutSignatureRequest}
    {endpoint : String} {answer : Except Error Response} (known : state.Heard heard config)
    (routed : route path body = .ok (.submitPayoutSignature payload))
    (asks : Asks config state (.post endpoint path body) answer after) :
    heard.Cosigned config payload.partialSigHex := by
  cases asks with
  | keyless keyless =>
      simp [TraderQuery.secretStep?, Request.secretStep?, routed, Except.toOption] at keyless
  | request routed' requests =>
      cases routed.symm.trans routed'
      cases requests with
      | announces same => cases same
      | signed signature => exact ⟨_, _, known.1, known.2.1, known.2.2, signature⟩
      | keyless keyless => cases keyless

end KeyState

/-- Nothing is done twice with the secrets, and what is signed is a payout. -/
structure Sparing (config : TraderConfig D) (log : List (Event (trader D))) : Prop where
  once : log.Pairwise fun event event' => ∀ step, event.query.secretStep? = some step →
    event'.query.secretStep? ≠ some step
  cosigned : ∀ earlier endpoint path body answer later payload,
    log = earlier ++ ⟨.post endpoint path body, answer, ()⟩ :: later →
    route path body = .ok (.submitPayoutSignature payload) →
    (Hearing.ofLog earlier).Cosigned config payload.partialSigHex

section Traces

variable {after : KeyState D} {log : List (Event (trader D))}

theorem keys_of_traces (traces : (secrets config).Traces .fresh log after) :
    after.Heard (.ofLog log) config := by
  refine traces.invariant (fun past (state : KeyState D) => state.Heard (.ofLog past) config) ?_
    trivial
  intro past state event after known asks
  have grown : state.Heard (.ofLog (past ++ [event])) config :=
    known.mono fun query answer earlier => List.mem_append_left _ earlier
  have new : Hearing.ofLog (past ++ [event]) event.query event.answer :=
    List.mem_append_right past (List.mem_singleton_self event)
  exact grown.next new asks

theorem sparing_of_traces (traces : (secrets config).Traces .fresh log after) :
    Sparing config log := by
  refine ⟨traces.once KeyState.rank SecretStep.rank TraderQuery.secretStep?
    fun _ _ _ _ asks => KeyState.Asks.rank asks, ?_⟩
  rintro earlier endpoint path body answer later payload rfl routed
  obtain ⟨before, between, first, asks, -⟩ := traces.split
  exact (keys_of_traces first).cosigned routed asks

end Traces

/-- Whatever everybody answers: a session draws, announces and signs with at most one nonce, once
    each, and what it signs is a payout that it was answered. -/
theorem session_sparing (W : TradingWallet P) (rounds : Nat) {cli : CliSettings D}
    (settings : cli.trader? = some config) (env : Environment (trader D)) (w : World (trader D)) :
    ∃ events, (Call.exec env (startTradePipeline W rounds cli) w).2.log = w.log ++ events ∧
      Sparing config events := by
  have follows : (startTradePipeline W rounds cli).Follows (secrets config) (fun _ _ _ => True) 0
      .fresh := by
    cases cli with
    | coordinator => cases settings
    | maker => cases settings; exact follows_makerSecrets rounds
    | taker => cases settings; exact follows_takerSecrets rounds
  obtain ⟨events, state, log, traces, -⟩ := Program.Follows.traces (fun _ _ _ _ _ same => same)
    (follows.mono fun _ _ _ _ => trivial) env w
  exact ⟨events, log, sparing_of_traces traces⟩

/-- A taker who takes an offer and signs its payout. -/
theorem session_sparing_sample :
    (Call.exec (Sample.tradingEnvironment false) (startTradePipeline (Sample.wallet false) 3
        (.taker (Sample.settings false))) ⟨(), [], 0⟩).2.log.filterMap (·.query.secretStep?) =
        [.draw, .announce, .sign] ∧
      ∃ events, (Call.exec (Sample.tradingEnvironment false)
          (startTradePipeline (Sample.wallet false) 3 (.taker (Sample.settings false)))
          ⟨(), [], 0⟩).2.log = [] ++ events ∧ Sparing (Sample.settings false) events := by
  have settings : (CliSettings.taker (Sample.settings false)).trader? =
      some (Sample.settings false) := rfl
  exact ⟨by decide +kernel, session_sparing (Sample.wallet false) 3 settings
    (Sample.tradingEnvironment false) ⟨(), [], 0⟩⟩

end TapTrade
