import TapTrade.Session.Order
import TapTrade.System.Network
import TapTrade.System.Serving

/-! # How the participants conduct themselves

A participant is a session in some phase, a request that the coordinator is serving, or both: the
phase of a session changes when the answer to its request arrives. The program of every
participant keeps to this.
-/

namespace TapTrade

open Wire Resumption

variable {P : Platform} {D : Device P}

/-- The standing of a participant. -/
structure Actor (D : Device P) where
  /-- The settings and the phase of a session. -/
  session : Option (TraderConfig D × TradePhase)
  /-- The request that is served for it, and what the coordinator knows by now. -/
  serving : Option (Request × Knowledge (coordinator P))

namespace Actor

/-- A statement of the request that is served. -/
inductive Writes (actor : Actor D) (db db' : Database) : Actor D → Prop
  | serving {request : Request} {k : Knowledge (coordinator P)} {fact : Database → Prop}
      (busy : actor.serving = some (request, k)) (records : request.Records k db db')
      (held : fact db) : Writes actor db db' { actor with serving := some (request, k.see fact) }

/-- A question of a participant, and how it stands after the answer. -/
inductive Asks (actor : Actor D) :
    (query : (system D).Query) → (system D).Answer query → Actor D → Prop
  | serving {request : Request} {k : Knowledge (coordinator P)} {query : Query P}
      {answer : query.Answer} (busy : actor.serving = some (request, k))
      (may : request.MayAsk k query) :
      Asks actor (.inl query) answer
        { actor with serving := some (request, k.hear query answer) }
  | client {config : TraderConfig D} {phase after : TradePhase} {query : TraderQuery D}
      {answer : query.Answer} (idle : actor = ⟨some (config, phase), none⟩)
      (elsewhere : ∀ endpoint path body, query ≠ .post endpoint path body)
      (asks : TradePhase.Asks config phase query answer after) :
      Asks actor (.inr (.client query)) answer ⟨some (config, after), none⟩
  | delivered {config : TraderConfig D} {phase : TradePhase} {path : String} {body : Json}
      {request : Request} (idle : actor = ⟨some (config, phase), none⟩)
      (routed : route path body = .ok request)
      (may : ∀ answer, ∃ after,
        TradePhase.Requests config.robosatsRobohashHex answer phase request after) :
      Asks actor (.inr (.deliver path body)) (.ok ())
        ⟨some (config, phase), some (request, .nothing)⟩
  | lost {config : TraderConfig D} {phase after : TradePhase} {path : String} {body : Json}
      {e : Error} (idle : actor = ⟨some (config, phase), none⟩)
      (asks : TradePhase.Asks config phase (.post config.coordinatorEndpoint path body)
        (.error e) after) :
      Asks actor (.inr (.deliver path body)) (.error e) ⟨some (config, after), none⟩
  | answered {config : TraderConfig D} {phase after : TradePhase} {request : Request}
      {k : Knowledge (coordinator P)} {response : Response} {arrived : Except Error Unit}
      (busy : actor = ⟨some (config, phase), some (request, k)⟩)
      (vouched : request.Vouched k.Knows (arrived.map fun _ => response))
      (requests : TradePhase.Requests config.robosatsRobohashHex (arrived.map fun _ => response)
        phase request after) :
      Asks actor (.inr (.respond response)) arrived ⟨some (config, after), none⟩
  | closed {config : TraderConfig D} {phase after : TradePhase} {request : Request}
      {k : Knowledge (coordinator P)} {e : Error}
      (busy : actor = ⟨some (config, phase), some (request, k)⟩)
      (requests : TradePhase.Requests config.robosatsRobohashHex (.error e) phase request after) :
      Asks actor (.inr .close) e ⟨some (config, after), none⟩

end Actor

theorem Request.Vouched.mono {knows knows' : (Database → Prop) → Prop} {request : Request}
    {answer : Except Error Response} (vouched : request.Vouched knows answer)
    (more : ∀ fact, knows fact → knows' fact) : request.Vouched knows' answer := by
  cases request <;> try trivial
  case pollEscrowConfirmation payload =>
    intro reported
    obtain ⟨⟨isMaker, acting⟩, confirmed⟩ := vouched reported
    exact ⟨⟨isMaker, more _ acting⟩, more _ confirmed⟩
  case pollFinalPayout payload => exact fun ready => more _ (vouched ready)

theorem Request.vouched_error (request : Request) {knows : (Database → Prop) → Prop} (e : Error) :
    request.Vouched knows (.error e) := by
  cases request <;> first | trivial | exact nofun

/-- The typestate of the participants. -/
@[reducible] def conduct (D : Device P) : Typestate (system D) where
  Token := Actor D
  writes _ actor db db' actor' := actor.Writes db db' actor'
  asks := Actor.Asks

section Programs

variable {n : Nat}

/-- A request that is served, whoever it is served for. -/
theorem follows_served {α : Type} {p : Program (coordinator P) α} {request : Request}
    {k : Knowledge (coordinator P)} {post : Knowledge (coordinator P) → α → Prop}
    (learns : p.Learns request.Records request.MayAsk post k)
    (session : Option (TraderConfig D × TradePhase)) :
    (p.lift (Outside D) Outside.Answer).Follows (conduct D)
      (fun _ actor a => ∃ k, actor = ⟨session, some (request, k)⟩ ∧ post k a)
      n ⟨session, some (request, k)⟩ := by
  apply Program.Follows.lift ?_ ?_ (learns n)
  · rintro n k db db' k' ⟨records, fact, held, rfl⟩
    exact .serving rfl records held
  · rintro k query answer k' ⟨may, rfl⟩
    exact .serving rfl may

/-- The program that answers a request. -/
theorem learns_apiServer {path : String} {body : Json} {request : Request}
    (routed : route path body = .ok request) (k : Knowledge (coordinator P)) :
    (apiServer P path body).Learns request.Records request.MayAsk
      (fun k response? => ∀ response, response? = some response →
        request.Vouched k.Knows (.ok response)) k := by
  simp only [apiServer, routed]
  exact fun n => Program.Follows.bind ((learns_serve P request k) n)

/-- The answer to a `POST` of a session. -/
theorem follows_transmit {config : TraderConfig D} {phase : TradePhase} {path : String}
    {body : Json} (may : ∀ answer, ∃ after,
      phase.next config (.post config.coordinatorEndpoint path body) answer = some after) :
    (transmit D path body).Follows (conduct D) (fun _ actor answer => ∀ after,
      phase.next config (.post config.coordinatorEndpoint path body) answer = some after →
        actor = ⟨some (config, after), none⟩) n ⟨some (config, phase), none⟩ := by
  obtain ⟨request, routed, requests⟩ : ∃ request, route path body = .ok request ∧
      ∀ answer, phase.next config (.post config.coordinatorEndpoint path body) answer =
        phase.request config.robosatsRobohashHex request answer := by
    cases routed : route path body with
    | error response =>
        obtain ⟨after, asks⟩ := may (.error .rowNotFound)
        simp [TradePhase.next, routed] at asks
    | ok request => exact ⟨request, rfl, fun answer => by simp [TradePhase.next, routed]⟩
  have ends (answer : Except Error Response) : ∃ after,
      TradePhase.Requests config.robosatsRobohashHex answer phase request after ∧
        ∀ other, phase.next config (.post config.coordinatorEndpoint path body) answer =
          some other → other = after := by
    obtain ⟨after, asks⟩ := may answer
    refine ⟨after, TradePhase.requests_of_request ((requests answer).symm.trans asks), ?_⟩
    intro other same
    exact Option.some.inj (same.symm.trans asks)
  rintro (e | ⟨⟩)
  · obtain ⟨after, requested, only⟩ := ends (.error e)
    refine ⟨⟨some (config, after), none⟩, .lost rfl (.request routed requested), ?_⟩
    rintro other same
    rw [only other same]
  refine ⟨⟨some (config, phase), some (request, .nothing)⟩, .delivered rfl routed ?_, ?_⟩
  · exact fun answer => (ends answer).imp fun _ requested => requested.1
  apply Program.Follows.bind
  apply (follows_served (learns_apiServer routed .nothing) _).mono
  rintro n _ (_ | response) ⟨k, rfl, vouched⟩
  · -- The handler has panicked.
    intro e
    obtain ⟨after, requested, only⟩ := ends (.error e)
    refine ⟨_, .closed rfl requested, fun other same => ?_⟩
    rw [only other same]
  · rintro (e | ⟨⟩)
    · obtain ⟨after, requested, only⟩ := ends (.error e)
      refine ⟨_, .answered rfl (request.vouched_error e) requested, fun other same => ?_⟩
      rw [only other same]
    · obtain ⟨after, requested, only⟩ := ends (.ok response)
      refine ⟨_, .answered rfl (vouched response rfl) requested, fun other same => ?_⟩
      rw [only other same]

/-- Any question of a session. -/
theorem follows_connection {config : TraderConfig D} {phase : TradePhase} {query : TraderQuery D}
    (may : ∀ answer, ∃ after, phase.next config query answer = some after) :
    ((connection D).query query).Follows (conduct D) (fun _ actor answer => ∀ after,
      phase.next config query answer = some after → actor = ⟨some (config, after), none⟩)
      n ⟨some (config, phase), none⟩ := by
  have surroundings (elsewhere : ∀ endpoint path body, query ≠ .post endpoint path body) :
      (Program.ask (.inr (.client query)) .done : Program (system D) query.Answer).Follows
        (conduct D) (fun _ actor answer => ∀ after,
          phase.next config query answer = some after → actor = ⟨some (config, after), none⟩)
        n ⟨some (config, phase), none⟩ := by
    intro answer
    obtain ⟨after, asks⟩ := may answer
    refine ⟨_, .client rfl elsewhere (TradePhase.asks_of_next asks), fun other same => ?_⟩
    rw [Option.some.inj (same.symm.trans asks)]
  cases query with
  | post endpoint path body =>
      obtain ⟨after, asks⟩ := may (.error .rowNotFound)
      obtain ⟨rfl, -⟩ := Option.ite_none_right_eq_some.mp asks
      exact follows_transmit may
  | _ => exact surroundings nofun

/-- The settings of a session. -/
def Participant.trader? : Participant D → Option (TraderConfig D)
  | .session _ _ settings => settings.trader?
  | .request _ => none

/-- What a participant starts with. -/
def Participant.actor : Participant D → Actor D
  | .session _ _ settings => ⟨settings.trader?.map (·, .entering), none⟩
  | .request made => ⟨none, some (made, .nothing)⟩

/-- A session that ends without an error has its payout. -/
def Participant.Ends (participant : Participant D) (actor : Actor D) (result : Participant.Result) :
    Prop :=
  ∀ config, participant.trader? = some config → result = .inl (.ok ()) →
    ∃ offerId, actor.session = some (config, .finished offerId) ∨
      actor.session = some (config, .reconciled offerId)

/-- Every participant conducts itself. -/
theorem follows_participant (participant : Participant D) :
    participant.program.Follows (conduct D) (fun _ => participant.Ends) n participant.actor := by
  cases participant with
  | session W rounds settings =>
      apply Program.Follows.bind
      cases trader : settings.trader? with
      | none =>
          cases settings with
          | coordinator =>
              intro config same
              cases same
          | _ => cases trader
      | some config =>
          have follows := follows_startTradePipeline W rounds n trader
          let during (phase : TradePhase) (actor : Actor D) : Prop :=
            actor = ⟨some (config, phase), none⟩
          have start : during .entering (Participant.actor (.session W rounds settings)) := by
            simp [during, Participant.actor, trader]
          apply (follows.translate (fun _ _ _ _ _ => id) ?_ start).mono
          · rintro n actor result ⟨phase, ends, rfl⟩ _ own same
            cases trader.symm.trans own
            obtain ⟨offerId, rfl | rfl⟩ := ends () (Sum.inl.inj same)
            · exact ⟨offerId, .inl rfl⟩
            · exact ⟨offerId, .inr rfl⟩
          · rintro n phase _ query rfl may
            exact follows_connection may
  | request made =>
      apply Program.Follows.bind
      apply (follows_served (learns_serve P made .nothing) none).mono
      intro n actor reply held config same
      cases same

theorem pursuing_gathering {ι : Type} (participants : ι → Participant D) :
    (gathering participants).Pursuing (conduct D) (fun i _ => (participants i).Ends)
      fun i => (participants i).actor :=
  fun i => follows_participant (participants i)

end Programs

end TapTrade
