import TapTrade.System.Chronicle
import TapTrade.Trading.Acting

/-! # What every run of the system keeps

Whoever takes part, and however their operations are interleaved: every record of a trade is
warranted, what a session acts on is so, and a transaction is broadcast only from a row with both
signatures. One invariant of the participants, the database and the chronicle carries this.
-/

namespace TapTrade

open Wire Relational Resumption

variable {P : Platform} {D : Device P}

/-- What holds of a participant. -/
structure Actor.Sound (c : Chronicle D) (actor : Actor D) : Prop where
  knows : ∀ request k, actor.serving = some (request, k) → k.Holds c.states (lefts c.log)
  trades : ∀ config phase, actor.session = some (config, phase) → config ∈ c.traders
  heard : ∀ config phase, actor.session = some (config, phase) → phase.Heard c.hearing config
  /-- A session waits for the answer to a request that its phase permits. -/
  waits : ∀ config phase request k, actor.session = some (config, phase) →
    actor.serving = some (request, k) → c.Delivered request ∧
      ∀ answer, ∃ after,
        TradePhase.Requests config.robosatsRobohashHex answer phase request after

/-- The request is served without a session. -/
def Actor.Alone (actor : Actor D) (request : Request) : Prop :=
  actor.session = none ∧ ∃ k, actor.serving = some (request, k)

/-- What holds of a question, and still does later. -/
def Chronicle.Grounded (c : Chronicle D) : (system D).Query → Prop
  | .inl query => query.Founded c.Once c.Answered
  | .inr (.client (.readLine (.fiatConfirmation robohashHex offerId _))) =>
      (∃ isMaker, c.Once (Acting offerId robohashHex isMaker)) ∧
        c.Once (·.HasOffer offerId TakenOffer.Confirmed)
  | .inr (.deliver path body) => ∃ request, ∃ config ∈ c.traders, route path body = .ok request ∧
      request.Justified c.hearing config
  | _ => True

/-- What holds of the database, as it is and as it was, and of the log. -/
structure Chronicle.Sound (c : Chronicle D) (db : Database) : Prop where
  warranted : ∀ db' ∈ insert db c.states, c.Warrants db'
  grounded : ∀ event ∈ c.log, c.Grounded event.query

section Steps

variable {c c' : Chronicle D} {actor : Actor D} {db db' : Database} {query : (system D).Query}
  {answer : (system D).Answer query}

theorem Chronicle.Grounded.mono (grounded : c.Grounded query) (more : c ≤ c') :
    c'.Grounded query := by
  rcases query with query | query
  · exact grounded.mono (fun fact once => once.mono more) fun _ _ answered => answered.mono more
  · cases query with
    | client query =>
        cases query with
        | readLine prompt =>
            cases prompt with
            | fiatConfirmation robohashHex offerId isBuyOrder =>
                obtain ⟨⟨isMaker, acting⟩, confirmed⟩ := grounded
                exact ⟨⟨isMaker, acting.mono more⟩, confirmed.mono more⟩
            | _ => trivial
        | _ => trivial
    | deliver path body =>
        obtain ⟨request, config, trader, routed, justified⟩ := grounded
        exact ⟨request, config, more.1 trader, routed, justified.mono (hearing_mono more)⟩
    | _ => trivial

theorem Actor.Sound.mono (sound : actor.Sound c) (more : c ≤ c') : actor.Sound c' where
  knows request k serving := (sound.knows request k serving).mono more.2.2.1
    fun event member => by
      obtain ⟨query, answer, db⟩ := event
      exact mem_lefts.mpr (more.2.2.2 (mem_lefts.mp member))
  trades config phase session := more.1 (sound.trades config phase session)
  heard config phase session :=
    (sound.heard config phase session).mono (Chronicle.hearing_mono more)
  waits config phase request k session serving :=
    (sound.waits config phase request k session serving).imp_left (·.mono more)

/-- Whoever is served has made the request, or had good reason to. -/
theorem Actor.Sound.sent (sound : actor.Sound c)
    (made : ∀ request, actor.Alone request → request ∈ c.made) {request : Request}
    {k : Knowledge (coordinator P)} (busy : actor.serving = some (request, k)) : c.Sent request := by
  cases session : actor.session with
  | none => exact .inl (made request ⟨session, k, busy⟩)
  | some session' =>
      obtain ⟨config, phase⟩ := session'
      obtain ⟨delivered, permitted⟩ := sound.waits config phase request k session busy
      refine .inr ⟨delivered, config, sound.trades config phase session, ?_⟩
      obtain ⟨path, body, db, -, routed⟩ := delivered
      obtain ⟨after, requests⟩ := permitted (.error .rowNotFound)
      obtain ⟨-, request', routed', justified⟩ :=
        (sound.heard config phase session).justified (.request routed requests)
      cases routed.symm.trans routed'
      exact justified

/-- A participant that only waits for its session. -/
theorem Actor.Sound.idle {config : TraderConfig D} {phase : TradePhase}
    (trader : config ∈ c.traders) (heard : phase.Heard c.hearing config) :
    Actor.Sound c ⟨some (config, phase), none⟩ where
  knows := nofun
  trades := by
    rintro _ _ ⟨⟩
    exact trader
  heard := by
    rintro _ _ ⟨⟩
    exact heard
  waits := nofun

/-- A participant whose request is served, with what the coordinator knows by now. -/
theorem Actor.Sound.busy (sound : actor.Sound c) {request : Request}
    {k k' : Knowledge (coordinator P)} (busy : actor.serving = some (request, k))
    (knows : k'.Holds c.states (lefts c.log)) :
    Actor.Sound c { actor with serving := some (request, k') } where
  knows := by
    rintro _ _ ⟨⟩
    exact knows
  trades := sound.trades
  heard := sound.heard
  waits := by
    rintro config phase _ _ session ⟨⟩
    exact sound.waits config phase request k session busy

/-- What a request puts on record is warranted, if all that was there before is. -/
theorem Request.Records.warrants {request : Request} {k : Knowledge (coordinator P)}
    (records : request.Records k db db') (sent : c.Sent request)
    (knows : k.Holds c.states (lefts c.log)) (before : ∀ db₁ ∈ c.states, c.Warrants db₁)
    (now : c.Warrants db) : c.Warrants db' := by
  constructor
  · rintro offerId record ⟨row, found, recorded⟩
    by_contra unwarranted
    have unmade : ¬ request.Makes k offerId record := fun makes =>
      unwarranted (makes.warranted sent knows before)
    refine records.trades offerId record unmade (fun row found recorded => ?_) row found recorded
    exact unwarranted (now.trades offerId record ⟨row, found, recorded⟩)
  · intro offerId stake listed
    obtain earlier | enlists := records.offers offerId stake listed
    · exact now.offers offerId stake earlier
    · exact enlists.offered sent

/-- A statement, after which the chronicle contains the state before it. -/
theorem Actor.Writes.sound {actor' : Actor D} (writes : actor.Writes db db' actor')
    (sound : actor.Sound c) (holds : c.Sound db) (more : c ≤ c')
    (made : ∀ request, actor.Alone request → request ∈ c'.made) (log : c'.log = c.log)
    (states : c'.states = insert db c.states) : actor'.Sound c' ∧ c'.Sound db' := by
  obtain @⟨request, k, fact, busy, records, held⟩ := writes
  have later := sound.mono more
  have before (db₁ : Database) (there : db₁ ∈ c'.states) : c'.Warrants db₁ :=
    (holds.warranted db₁ (states ▸ there)).mono more
  have member : db ∈ c'.states := states ▸ Set.mem_insert _ _
  have knows := later.knows request k busy
  refine ⟨later.busy busy (knows.see member held), ?_, fun event there => ?_⟩
  · rintro db₁ (rfl | there)
    · exact records.warrants (later.sent made busy) knows before (before db member)
    · exact before db₁ there
  · exact (holds.grounded event (log ▸ there)).mono more

/-- A question, after which the chronicle contains it. -/
theorem Actor.Asks.sound {actor' : Actor D} (asks : actor.Asks query answer actor')
    (sound : actor.Sound c) (more : c ≤ c') (asked : ⟨query, answer, db⟩ ∈ c'.log) :
    actor'.Sound c' ∧ c'.Grounded query := by
  have later := sound.mono more
  cases asks with
  | @serving request k query answer busy may =>
      have knows := later.knows request k busy
      refine ⟨later.busy busy (knows.hear (mem_lefts.mpr asked)), ?_⟩
      refine may.2.mono (fun fact known => knows.knows known) fun query answer heard => ?_
      exact (knows.heard query answer heard).imp fun db asked => mem_lefts.mp asked
  | @client config phase after query answer idle elsewhere asks =>
      have trader := later.trades config phase (by rw [idle])
      have known := later.heard config phase (by rw [idle])
      have new : c'.hearing query answer := by
        cases query with
        | post endpoint path body => exact absurd rfl (elsewhere endpoint path body)
        | _ => exact ⟨db, asked⟩
      refine ⟨.idle trader (known.next new asks), ?_⟩
      have justified := known.justified asks
      cases query with
      | readLine prompt =>
          cases prompt with
          | fiatConfirmation robohashHex offerId isBuyOrder =>
              obtain ⟨rfl, bonded, confirmed⟩ := justified
              exact Chronicle.once_of_confirmed confirmed
          | _ => trivial
      | _ => trivial
  | @delivered config phase path body request idle routed may =>
      have trader := later.trades config phase (by rw [idle])
      have known := later.heard config phase (by rw [idle])
      obtain ⟨after, requests⟩ := may (.error .rowNotFound)
      obtain ⟨-, request', routed', justified⟩ := known.justified (.request routed requests)
      refine ⟨⟨?_, ?_, ?_, ?_⟩, request', config, trader, routed', justified⟩
      · rintro _ _ ⟨⟩
        exact Knowledge.holds_nothing
      · rintro _ _ ⟨⟩
        exact trader
      · rintro _ _ ⟨⟩
        exact known
      · rintro _ _ _ _ ⟨⟩ ⟨⟩
        exact ⟨⟨path, body, db, asked, routed⟩, may⟩
  | @lost config phase after path body e idle asks =>
      have trader := later.trades config phase (by rw [idle])
      have known := later.heard config phase (by rw [idle])
      have new : c'.hearing (.post config.coordinatorEndpoint path body) (.error e) :=
        fun request _ => request.vouched_error e
      obtain ⟨-, request, routed, justified⟩ := known.justified asks
      exact ⟨.idle trader (known.next new asks), request, config, trader, routed, justified⟩
  | @answered config phase after request k response arrived busy vouched requests =>
      obtain ⟨⟨path, body, -, -, routed⟩, -⟩ :=
        later.waits config phase request k (by rw [busy]) (by rw [busy])
      have trader := later.trades config phase (by rw [busy])
      have known := later.heard config phase (by rw [busy])
      have knows := later.knows request k (by rw [busy])
      have new : c'.hearing (.post config.coordinatorEndpoint path body)
          (arrived.map fun _ => response) := by
        intro request' routed'
        cases routed.symm.trans routed'
        exact vouched.mono fun fact known => knows.knows known
      exact ⟨.idle trader (known.next new (.request routed requests)), trivial⟩
  | @closed config phase after request k e busy requests =>
      obtain ⟨⟨path, body, -, -, routed⟩, -⟩ :=
        later.waits config phase request k (by rw [busy]) (by rw [busy])
      have trader := later.trades config phase (by rw [busy])
      have known := later.heard config phase (by rw [busy])
      have new : c'.hearing (.post config.coordinatorEndpoint path body) (.error e) :=
        fun request' _ => request'.vouched_error e
      exact ⟨.idle trader (known.next new (.request routed requests)), trivial⟩

/-- Who acts alone has done so before. -/
theorem Actor.Writes.alone {actor' : Actor D} {request : Request}
    (writes : actor.Writes db db' actor') (alone : actor'.Alone request) : actor.Alone request := by
  obtain @⟨request', k, fact, busy, records, held⟩ := writes
  obtain ⟨single, k', serving⟩ := alone
  cases serving
  exact ⟨single, k, busy⟩

theorem Actor.Asks.alone {actor' : Actor D} {request : Request}
    (asks : actor.Asks query answer actor') (alone : actor'.Alone request) : actor.Alone request := by
  obtain ⟨single, k', serving⟩ := alone
  cases asks with
  | serving busy =>
      cases serving
      exact ⟨single, _, busy⟩
  | _ => cases single

end Steps

section Runs

variable {ι : Type} [DecidableEq ι] (participants : ι → Participant D)

/-- What the pool remembers of its run. -/
def Chronicle.ofPool (pool : Pool (system D) ι Participant.Result) : Chronicle D where
  traders := {config | ∃ i, (participants i).trader? = some config}
  made := {request | ∃ i, participants i = .request request ∧ pool.past i ≠ []}
  states := pool.seen
  log := pool.world.log

/-- What has happened in a run: every state before each of its operations, and after the last. -/
def chronicle (env : Environment (system D)) (schedule : List ι) : Chronicle D where
  traders := {config | ∃ i, (participants i).trader? = some config}
  made := {request | ∃ i ∈ schedule, participants i = .request request}
  states := {db | ∃ earlier, earlier <+: schedule ∧
    ((gathering participants).play env earlier).world.state = db}
  log := ((gathering participants).play env schedule).world.log

/-- The invariant of a run. -/
structure Kept (actors : ι → Actor D) (pool : Pool (system D) ι Participant.Result) : Prop where
  all : ∀ i, (actors i).Sound (.ofPool participants pool)
  alone : ∀ i request, (actors i).Alone request → participants i = .request request
  now : (Chronicle.ofPool participants pool).Sound pool.world.state

variable {participants} {env : Environment (system D)} {schedule : List ι}
  {pool : Pool (system D) ι Participant.Result} {actors : ι → Actor D} {i : ι} {actor : Actor D}

theorem ofPool_le_step :
    Chronicle.ofPool participants pool ≤ .ofPool participants (pool.step env i) := by
  refine ⟨subset_rfl, ?_, ?_, (Pool.log_step pool i).subset⟩
  · rintro request ⟨j, same, acted⟩
    refine ⟨j, same, fun idle => acted ?_⟩
    exact List.prefix_nil.mp (idle ▸ Pool.past_grows_step pool i j)
  · rintro db ⟨j, member⟩
    exact ⟨j, (Pool.past_grows_step pool i j).subset member⟩

theorem Participant.sound {c : Chronicle D} (participant : Participant D)
    (trades : ∀ config, participant.trader? = some config → config ∈ c.traders) :
    participant.actor.Sound c := by
  cases participant with
  | request request =>
      constructor
      case knows =>
        rintro _ _ ⟨⟩
        exact Knowledge.holds_nothing
      all_goals
        intro config phase
        exact nofun
  | session W rounds settings =>
      constructor
      case trades =>
        intro config phase same
        obtain ⟨_, started, same⟩ := Option.map_eq_some_iff.mp same
        cases same
        exact trades config started
      case heard =>
        intro config phase same
        obtain ⟨trader, started, same⟩ := Option.map_eq_some_iff.mp same
        cases same
        trivial
      all_goals exact fun _ _ => nofun

theorem Participant.alone {participant : Participant D} {request : Request}
    (alone : participant.actor.Alone request) : participant = .request request := by
  obtain ⟨single, k, serving⟩ := alone
  cases participant with
  | request request' =>
      cases serving
      rfl
  | session W rounds settings => cases serving

omit [DecidableEq ι] in
theorem kept_start : Kept participants (fun i => (participants i).actor)
    (gathering participants) := by
  refine ⟨fun i => (participants i).sound fun config trader => ⟨i, trader⟩,
    fun i request => Participant.alone, ?_, nofun⟩
  rintro db (rfl | ⟨j, member⟩)
  · refine ⟨?_, ?_⟩
    · rintro offerId record ⟨row, found, -⟩
      cases found
    · rintro offerId stake ⟨offer, found, -⟩
      cases found
  · cases member

theorem Kept.step (kept : Kept participants actors pool)
    (moves : pool.Moves (conduct D) env i (actors i) actor) :
    Kept participants (Function.update actors i actor) (pool.step env i) := by
  have more : Chronicle.ofPool participants pool ≤ .ofPool participants (pool.step env i) :=
    ofPool_le_step
  have all (mine : actor.Sound (.ofPool participants (pool.step env i))) (j : ι) :
      (Function.update actors i actor j).Sound (.ofPool participants (pool.step env i)) := by
    revert j
    rw [Function.forall_update_iff actors fun _ actor =>
      actor.Sound (.ofPool participants (pool.step env i))]
    exact ⟨mine, fun j _ => (kept.all j).mono more⟩
  have alone (mine : ∀ request, actor.Alone request → (actors i).Alone request) (j : ι) :
      ∀ request, (Function.update actors i actor j).Alone request →
        participants j = .request request := by
    revert j
    rw [Function.forall_update_iff actors fun j actor =>
      ∀ request, actor.Alone request → participants j = .request request]
    exact ⟨fun request serving => kept.alone i request (mine request serving),
      fun j _ => kept.alone j⟩
  have seen : (pool.step env i).seen = _ := Pool.seen_step pool i
  have settled (state : (pool.step env i).world.state = pool.world.state) (db : Database)
      (there : db ∈ insert (pool.step env i).world.state (pool.step env i).seen) :
      (Chronicle.ofPool participants (pool.step env i)).Warrants db := by
    refine (kept.now.warranted db ?_).mono more
    rw [state, seen] at there
    split at there
    case isTrue => exact there
    case isFalse => rwa [Set.insert_idem] at there
  obtain ⟨state, log⟩ | ⟨about, unfailing, permitted, log⟩ |
    @⟨n, query, _, about, permitted, state, log⟩ := moves
  · refine ⟨all ((kept.all i).mono more), alone fun _ => id, settled state, fun event member => ?_⟩
    change event ∈ (pool.step env i).world.log at member
    rw [log] at member
    exact (kept.now.grounded event member).mono more
  · have made (request : Request) (serving : (actors i).Alone request) :
        request ∈ (Chronicle.ofPool participants (pool.step env i)).made := by
      refine ⟨i, kept.alone i request serving, ?_⟩
      rw [Pool.step_past_self about.1]
      exact List.concat_ne_nil _ _
    rw [about.1, if_neg Bool.false_ne_true] at seen
    obtain ⟨mine, now⟩ := permitted.sound (kept.all i) kept.now more made log seen
    exact ⟨all mine, alone fun _ => permitted.alone, now⟩
  · have asked : ⟨query, env.answer pool.world.clock query, pool.world.state⟩ ∈
        (pool.step env i).world.log := by simp [log]
    obtain ⟨mine, grounded⟩ := permitted.sound (kept.all i) more asked
    refine ⟨all mine, alone fun _ => permitted.alone, settled state, fun event member => ?_⟩
    change event ∈ (pool.step env i).world.log at member
    rw [log, List.mem_append, List.mem_singleton] at member
    obtain earlier | rfl := member
    · exact (kept.now.grounded event earlier).mono more
    · exact grounded

theorem ofPool_le_chronicle :
    Chronicle.ofPool participants ((gathering participants).play env schedule) ≤
      chronicle participants env schedule := by
  refine ⟨subset_rfl, ?_, fun db seen => ?_, List.Subset.refl _⟩
  · rintro request ⟨i, same, acted⟩
    refine ⟨i, ?_, same⟩
    by_contra idle
    exact acted (Pool.play_past_of_not_mem idle)
  · obtain ⟨j, member⟩ | earlier := Pool.earlier_of_seen seen
    · cases member
    · exact earlier

/-- Every run keeps the invariant, and its participants end as they may. -/
theorem kept_play (participants : ι → Participant D) (env : Environment (system D))
    (schedule : List ι) : ((gathering participants).play env schedule).Witnessed (conduct D)
      (fun i _ => (participants i).Ends) (Kept participants) :=
  Pool.witnessed_play (fun _ _ _ _ kept moves => Kept.step kept moves) schedule
    ⟨_, pursuing_gathering participants, kept_start⟩

/-- What has happened in a run is sound. -/
theorem sound_chronicle (participants : ι → Participant D) (env : Environment (system D))
    (schedule : List ι) : (chronicle participants env schedule).Sound
      ((gathering participants).play env schedule).world.state := by
  have shorter {part : List ι} (earlier : part <+: schedule) :
      chronicle participants env part ≤ chronicle participants env schedule := by
    obtain ⟨later, rfl⟩ := earlier
    refine ⟨subset_rfl, ?_, ?_, ?_⟩
    · rintro request ⟨i, member, same⟩
      exact ⟨i, List.mem_append_left later member, same⟩
    · rintro db ⟨part', earlier, same⟩
      exact ⟨part', earlier.trans (List.prefix_append _ _), same⟩
    · rw [chronicle, chronicle, Pool.play_append]
      exact (Pool.log_play _ later).subset
  obtain ⟨actors, -, -, -, now⟩ := kept_play participants env schedule
  refine ⟨?_, fun event member => (now.grounded event member).mono ofPool_le_chronicle⟩
  rintro db (rfl | ⟨part, earlier, rfl⟩)
  · exact (now.warranted _ (Set.mem_insert _ _)).mono ofPool_le_chronicle
  · obtain ⟨actors, -, -, -, before⟩ := kept_play participants env part
    exact ((before.warranted _ (Set.mem_insert _ _)).mono ofPool_le_chronicle).mono
      (shorter earlier)

/-- Whoever takes part and whatever happens: every stake, signature, satisfaction, dispute and
    confirmation on record is warranted. -/
theorem records_warranted (participants : ι → Participant D) (env : Environment (system D))
    (schedule : List ι) : (chronicle participants env schedule).Warrants
      ((gathering participants).play env schedule).world.state :=
  (sound_chronicle participants env schedule).warranted _ (Set.mem_insert _ _)

end Runs

end TapTrade
