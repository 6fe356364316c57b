import TapTrade.Model.Sample
import TapTrade.Model.Frame

/-! # Order book and trades exclude each other

An offer moves between the tables by a `SELECT`, a `DELETE` and an `INSERT OR REPLACE` that
nothing holds together, and any number of moves can be under way for the same offer. What keeps
the tables apart is the life of an id: it is generated, inserted into the order book at most once,
and a take inserts it among the trades only after it has deleted it there. The tokens follow how
far a call is on this way.
-/

namespace TapTrade

open Relational Resumption

section Exclusion

variable {P : Platform} {ι : Type}

namespace Database

/-- The offer is among the taken ones. -/
def Takes (db : Database) (offerId : String) : Prop := db.takenOffers.find? offerId ≠ none

instance (db : Database) (offerId : String) : Decidable (db.Takes offerId) :=
  inferInstanceAs (Decidable (_ ≠ _))

/-- No id gets into one of the tables. -/
structure Shrinks (before after : Database) : Prop where
  lists : ∀ offerId, after.Lists offerId → before.Lists offerId
  takes : ∀ offerId, after.Takes offerId → before.Takes offerId

instance : Std.Refl Shrinks := ⟨fun _ => ⟨fun _ => id, fun _ => id⟩⟩

variable {db : Database} {offerId : String}

theorem lists_insertActive {row : ActiveMakerOffer} (lists : (db.insertActive row).Lists offerId) :
    db.Lists offerId ∨ offerId = row.offerId := by
  simp only [Lists, insertActive, Table.find?_insertOrReplace] at lists
  split at lists
  case isTrue same => exact .inr same
  case isFalse => exact .inl lists

theorem takes_insertTaken {row : TakenOffer} (takes : (db.insertTaken row).Takes offerId) :
    db.Takes offerId ∨ offerId = row.offerId := by
  simp only [Takes, insertTaken, Table.find?_insertOrReplace] at takes
  split at takes
  case isTrue same => exact .inr same
  case isFalse => exact .inl takes

theorem shrinks_deleteActive (db : Database) (id : String) : Shrinks db (db.deleteActive id) :=
  ⟨fun _ lists => (lists_deleteActive.mp lists).2, fun _ takes => takes⟩

theorem takes_updateWhere {matching : TakenOffer → Bool} {change : Change TakenOffer}
    (found : (db.takenOffers.updateWhere matching change).find? offerId ≠ none) :
    db.Takes offerId := by
  rw [Table.find?_updateWhere] at found
  intro missing
  exact found (Option.map_eq_none_iff.mpr missing)

/-- A request that activates and takes no offer gets no id into the tables. -/
theorem shrinks_served {request : Request} {before after : Database}
    (noBond : ∀ payload, request ≠ .submitMakerBond payload)
    (noTake : ∀ payload, request ≠ .submitTakerBond payload)
    (served : Served request before after) : Shrinks before after := by
  cases served with
  | reads => exact Std.Refl.refl before
  | writes permitted =>
      cases permitted with
      | delistPending | activate => exact absurd rfl (noBond _)
      | delist | take => exact absurd rfl (noTake _)
      | createOffer => exact ⟨fun _ => id, fun _ => id⟩
      | punish => exact shrinks_deleteActive _ _
      | finish =>
          refine ⟨fun _ => id, fun id takes => ?_⟩
          simp only [Takes, deleteTaken, Table.find?_delete] at takes
          split at takes
          · exact absurd rfl takes
          · exact takes
      | _ => exact ⟨fun _ => id, fun _ => takes_updateWhere⟩

end Database

/-- How far a call is on the way of an offer: it has generated its id, it has seen it listed,
    it has deleted it from the order book. -/
inductive OfferToken where
  | idle
  | generated (offerId : String)
  | seen (offerId : String)
  | delisted (offerId : String)

namespace OfferToken

open Database

/-- What a token permits to write. -/
inductive Writes : OfferToken → Database → Database → OfferToken → Prop
  | shrinks {token before after} (shrinks : Shrinks before after) : Writes token before after token
  | lists {offerId before after}
      (lists : ∀ id, after.Lists id → before.Lists id ∨ id = offerId)
      (takes : ∀ id, after.Takes id → before.Takes id) : Writes (generated offerId) before after idle
  | sees {offerId db} (lists : db.Lists offerId) : Writes idle db db (seen offerId)
  | delists {offerId before after} (shrinks : Shrinks before after)
      (gone : ¬ after.Lists offerId) : Writes (seen offerId) before after (delisted offerId)
  | takes {offerId before after} (lists : ∀ id, after.Lists id → before.Lists id)
      (takes : ∀ id, after.Takes id → before.Takes id ∨ id = offerId) :
      Writes (delisted offerId) before after idle

/-- What a token permits to ask. -/
inductive Asks : OfferToken → (query : Query P) → query.Answer → OfferToken → Prop
  | stays {token query answer} : Asks token query answer token
  | generates {size offerId} : Asks idle (.generateRandomOrderId size) offerId (generated offerId)

/-- The life of an offer id. -/
@[reducible] def typestate (P : Platform) : Typestate (coordinator P) where
  Token := OfferToken
  writes _ := Writes
  asks := Asks

section Requests

open Call

variable {α ε : Type} {n : Nat} {token : OfferToken}
  {post : Nat → OfferToken → α → Prop}

theorem follows_of_shrinks {c : Act P ε α} (keeps : c.Keeps Shrinks) (ends : ∀ n a, post n token a) :
    c.Follows (typestate P) post n token :=
  keeps.follows (fun _ _ _ => .shrinks) (fun _ _ => .stays) ends

theorem shrinks_fetchAndDeleteOfferFromBondTable (robohashHex : String) :
    (fetchAndDeleteOfferFromBondTable robohashHex : Act P Error _).Keeps Shrinks := by
  apply Keeps.bind (by simp)
  intro robohash
  refine Keeps.bind (by simp) fun row => Keeps.bind (by simp) fun offer => ?_
  exact Keeps.bind (keeps_execute fun db => ⟨fun _ => id, fun _ => id⟩) fun _ => by simp

theorem follows_handleMakerBond (payload : BondSubmissionRequest) :
    (handleMakerBond payload : Act P BondError _).Follows (typestate P) (fun _ _ _ => True) 0
      idle := by
  apply Follows.bind
  apply follows_of_shrinks (by simp)
  intro _ requirements
  apply Follows.bind
  apply follows_of_shrinks (by simp)
  intro _ validated
  apply Follows.bind
  apply follows_ask
  intro offerId
  refine ⟨generated offerId, .generates, ?_⟩
  apply Follows.bind
  apply follows_of_shrinks (by simp)
  intro _ address
  apply Follows.bind
  apply Follows.mapError
  apply Follows.bind
  apply follows_of_shrinks (shrinks_fetchAndDeleteOfferFromBondTable _)
  intro _ offer
  apply Follows.bind
  apply follows_hexDecode
  intro robohash decoded
  apply Follows.bind
  apply follows_execute
  intro db
  refine ⟨idle, .lists (fun id => lists_insertActive) fun _ => id, follows_pure ?_⟩
  exact follows_pure trivial

theorem follows_handleTakerBond (payload : OfferPsbtRequest) :
    (handleTakerBond payload : Act P BondError _).Follows (typestate P) (fun _ _ _ => True) 0
      idle := by
  apply Follows.bind
  apply follows_of_shrinks (by simp)
  intro _ escrow
  apply Follows.bind
  apply Follows.mapError
  apply Follows.bind
  apply Follows.bind
  apply follows_fetchOne
  · intro db row found
    refine ⟨seen payload.offer.offerIdHex, .sees fun missing => ?_, ?_⟩
    · cases found.symm.trans missing
    · apply Follows.bind
      apply follows_ofOption
      intro offer read
      apply Follows.bind
      apply follows_execute
      intro db
      refine ⟨delisted payload.offer.offerIdHex,
        .delists (shrinks_deleteActive _ _) fun lists => (lists_deleteActive.mp lists).1 rfl, ?_⟩
      apply follows_pure
      apply Follows.bind
      apply follows_hexDecode
      intro robohash decoded
      apply follows_execute
      intro db
      refine ⟨idle, .takes (fun _ => id) fun id takes => ?_, follows_pure trivial⟩
      rw [← (AwaitingTakerOffer.ofRow_eq_some read).1]
      exact takes_insertTaken takes
  · exact fun db _ => ⟨idle, .shrinks (Std.Refl.refl db)⟩

/-- Every request keeps to the life of an offer id. -/
theorem follows_serve (P : Platform) (request : Request) :
    (request.serve P).Follows (typestate P) (fun _ _ _ => True) 0 idle := by
  by_cases bond : ∃ payload, request = .submitMakerBond payload
  · obtain ⟨payload, rfl⟩ := bond
    exact Program.Follows.bind ((follows_handleMakerBond payload).mono fun _ _ _ _ => trivial)
  by_cases take : ∃ payload, request = .submitTakerBond payload
  · obtain ⟨payload, rfl⟩ := take
    exact Program.Follows.bind ((follows_handleTakerBond payload).mono fun _ _ _ _ => trivial)
  refine (writes_serve P request).follows ?_ (fun _ _ => .stays) fun _ _ => trivial
  intro _ before after served
  exact .shrinks (shrinks_served (fun payload same => bond ⟨payload, same⟩)
    (fun payload same => take ⟨payload, same⟩) served)

end Requests

end OfferToken

/-- The id that an event generates. -/
def generated? : Event (coordinator P) → Option String
  | ⟨.generateRandomOrderId _, offerId, _⟩ => some offerId
  | _ => none

/-- The ids that were generated, the first one first. -/
def generatedIds (log : Log (coordinator P)) : List String := log.filterMap generated?

namespace OfferToken

open Database

/-- What a step can do to the tables, in terms of the token before and after it. -/
structure Moved (before after : World (coordinator P)) (token token' : OfferToken) : Prop where
  grows : generatedIds before.log <+: generatedIds after.log
  generates : ∀ id, token' = generated id → token = generated id ∨
    generatedIds after.log = generatedIds before.log ++ [id]
  lists : ∀ id, after.state.Lists id → before.state.Lists id ∨ token = generated id ∧ token' = idle
  takes : ∀ id, after.state.Takes id → before.state.Takes id ∨ token = delisted id
  sees : ∀ id, token' = seen id → token = seen id ∨ before.state.Lists id
  delists : ∀ id, token' = delisted id → token = delisted id ∨
    token = seen id ∧ ¬ after.state.Lists id

/-- A step that gets no id into the tables and leaves the token as it is. -/
theorem Moved.of_shrinks {before after : World (coordinator P)} {token : OfferToken}
    (log : after.log = before.log) (shrinks : Shrinks before.state after.state) :
    Moved before after token token where
  grows := by rw [log]
  generates _ same := .inl same
  lists id now := .inl (shrinks.lists id now)
  takes id now := .inl (shrinks.takes id now)
  sees _ same := .inl same
  delists _ same := .inl same

variable [DecidableEq ι] {env : Environment (coordinator P)} {pool : Pool (coordinator P) ι Reply}
  {i : ι} {token token' : OfferToken}

theorem moved_of_writes {before after : World (coordinator P)} (log : after.log = before.log)
    (writes : Writes token before.state after.state token') : Moved before after token token' := by
  have grows : generatedIds before.log <+: generatedIds after.log := by rw [log]
  generalize stateBefore : before.state = db at writes
  generalize worldAfter : after.state = db' at writes
  cases writes with
  | shrinks shrinks => exact .of_shrinks log (stateBefore ▸ worldAfter ▸ shrinks)
  | @lists offerId _ _ lists takes =>
      subst stateBefore worldAfter
      refine ⟨grows, nofun, fun id now => ?_, fun id now => .inl (takes id now), nofun, nofun⟩
      rcases lists id now with earlier | rfl
      · exact .inl earlier
      · exact .inr ⟨rfl, rfl⟩
  | @sees offerId _ lists =>
      subst stateBefore
      refine ⟨grows, nofun, fun id now => .inl (worldAfter ▸ now),
        fun id now => .inl (worldAfter ▸ now), fun id same => ?_, nofun⟩
      cases same
      exact .inr lists
  | @delists offerId _ _ shrinks gone =>
      subst stateBefore worldAfter
      refine ⟨grows, nofun, fun id now => .inl (shrinks.lists id now),
        fun id now => .inl (shrinks.takes id now), nofun, fun id same => ?_⟩
      cases same
      exact .inr ⟨rfl, gone⟩
  | @takes offerId _ _ lists takes =>
      subst stateBefore worldAfter
      refine ⟨grows, nofun, fun id now => .inl (lists id now), fun id now => ?_, nofun, nofun⟩
      rcases takes id now with earlier | rfl
      · exact .inl earlier
      · exact .inr rfl

theorem moved_of_asks {before after : World (coordinator P)} {query : Query P}
    {answer : query.Answer} (state : after.state = before.state)
    (log : after.log = before.log ++ [⟨query, answer, before.state⟩])
    (asks : Asks token query answer token') : Moved before after token token' := by
  have grows : generatedIds before.log <+: generatedIds after.log := by
    rw [generatedIds, generatedIds, log, List.filterMap_append]
    exact List.prefix_append _ _
  have lists (id : String) (now : after.state.Lists id) : before.state.Lists id := state ▸ now
  have takes (id : String) (now : after.state.Takes id) : before.state.Takes id := state ▸ now
  cases asks with
  | stays =>
      exact ⟨grows, fun _ => .inl, fun id now => .inl (lists id now),
        fun id now => .inl (takes id now), fun _ => .inl, fun _ => .inl⟩
  | generates =>
      refine ⟨grows, fun id same => ?_, fun id now => .inl (lists id now),
        fun id now => .inl (takes id now), nofun, nofun⟩
      cases same
      right
      rw [generatedIds, log, List.filterMap_append]
      rfl

/-- Everything that a permitted step can do. -/
theorem moved_of_moves (moves : pool.Moves (typestate P) env i token token') :
    Moved pool.world (pool.step env i).world token token' := by
  rcases moves with ⟨state, log⟩ | ⟨about, unfailing, permitted, log⟩ | ⟨about, permitted, state, log⟩
  · refine .of_shrinks log ?_
    rw [state]
    exact Std.Refl.refl pool.world.state
  · exact moved_of_writes log permitted
  · exact moved_of_asks state log permitted

/-- The id was generated, and no call is about to list it. -/
structure Used (tokens : ι → OfferToken) (log : Log (coordinator P)) (id : String) : Prop where
  generated : id ∈ generatedIds log
  free : ∀ i, tokens i ≠ .generated id

/-- Such an id that is not in the order book. -/
structure Gone (tokens : ι → OfferToken) (w : World (coordinator P)) (id : String) : Prop where
  used : Used tokens w.log id
  unlisted : ¬ w.state.Lists id

/-- An id is about to be listed by at most one call, and only before it is listed or taken; one
    that is taken, or that a take has deleted, is not listed. -/
structure Exclusive (tokens : ι → OfferToken) (w : World (coordinator P)) : Prop where
  generated : ∀ i id, tokens i = .generated id → id ∈ generatedIds w.log
  distinct : ∀ i j id, tokens i = .generated id → tokens j = .generated id → i = j
  listed : ∀ id, w.state.Lists id → Used tokens w.log id
  taken : ∀ id, w.state.Takes id → Gone tokens w id
  seen : ∀ i id, tokens i = .seen id → Used tokens w.log id
  delisted : ∀ i id, tokens i = .delisted id → Gone tokens w id

variable {tokens : ι → OfferToken} {before after : World (coordinator P)} {id : String}

/-- An id that was generated is not generated again. -/
theorem Moved.generated_same (moved : Moved before after token token')
    (fresh : (generatedIds after.log).Nodup) (known : id ∈ generatedIds before.log)
    (now : token' = generated id) : token = generated id := by
  rcases moved.generates id now with same | new
  · exact same
  · rw [new, List.nodup_append] at fresh
    exact absurd rfl (fresh.2.2 id known id (List.mem_singleton_self id))

theorem Used.moved (used : Used tokens before.log id) (moved : Moved before after (tokens i) token')
    (fresh : (generatedIds after.log).Nodup) :
    Used (Function.update tokens i token') after.log id := by
  refine ⟨moved.grows.subset used.generated, fun j holds => ?_⟩
  by_cases same : j = i
  · subst same
    rw [Function.update_self] at holds
    exact used.free j (moved.generated_same fresh used.generated holds)
  · rw [Function.update_of_ne same] at holds
    exact used.free j holds

/-- An id that has left the order book stays away from it. -/
theorem Gone.moved (gone : Gone tokens before id) (moved : Moved before after (tokens i) token')
    (fresh : (generatedIds after.log).Nodup) : Gone (Function.update tokens i token') after id := by
  refine ⟨gone.used.moved moved fresh, fun lists => ?_⟩
  rcases moved.lists id lists with earlier | ⟨holds, -⟩
  · exact gone.unlisted earlier
  · exact gone.used.free i holds

theorem Exclusive.moved (exclusive : Exclusive tokens before)
    (moved : Moved before after (tokens i) token') (fresh : (generatedIds after.log).Nodup) :
    Exclusive (Function.update tokens i token') after := by
  -- the token of every other call is what it was
  have other {j : ι} {t : OfferToken} (holds : Function.update tokens i token' j = t) :
      j = i ∧ token' = t ∨ j ≠ i ∧ tokens j = t := by
    by_cases same : j = i
    · subst same
      rw [Function.update_self] at holds
      exact .inl ⟨rfl, holds⟩
    · rw [Function.update_of_ne same] at holds
      exact .inr ⟨same, holds⟩
  have known {j : ι} {id : String} (holds : tokens j = .generated id) :
      id ∈ generatedIds after.log := moved.grows.subset (exclusive.generated j id holds)
  refine ⟨fun j id holds => ?_, fun j k id holds holds' => ?_, fun id lists => ?_,
    fun id takes => ?_, fun j id holds => ?_, fun j id holds => ?_⟩
  · rcases other holds with ⟨rfl, now⟩ | ⟨-, earlier⟩
    · rcases moved.generates id now with earlier | new
      · exact known earlier
      · rw [new]
        exact List.mem_append_right _ (List.mem_singleton_self id)
    · exact known earlier
  · have earlier {j : ι} (holds : Function.update tokens i token' j = .generated id)
        (before : id ∈ generatedIds before.log) : tokens j = .generated id := by
      rcases other holds with ⟨rfl, now⟩ | ⟨-, earlier⟩
      · exact moved.generated_same fresh before now
      · exact earlier
    by_cases both : j = i ∧ k = i
    · exact both.1.trans both.2.symm
    · have before : id ∈ generatedIds before.log := by
        rcases other holds with ⟨rfl, -⟩ | ⟨-, first⟩
        · rcases other holds' with ⟨rfl, -⟩ | ⟨-, second⟩
          · exact absurd ⟨rfl, rfl⟩ both
          · exact exclusive.generated k id second
        · exact exclusive.generated j id first
      exact exclusive.distinct j k id (earlier holds before) (earlier holds' before)
  · rcases moved.lists id lists with earlier | ⟨holds, idle⟩
    · exact (exclusive.listed id earlier).moved moved fresh
    · refine ⟨known holds, fun j again => ?_⟩
      rcases other again with ⟨rfl, now⟩ | ⟨different, earlier⟩
      · cases idle.symm.trans now
      · exact different (exclusive.distinct j i id earlier holds)
  · rcases moved.takes id takes with earlier | holds
    · exact (exclusive.taken id earlier).moved moved fresh
    · exact (exclusive.delisted i id holds).moved moved fresh
  · rcases other holds with ⟨rfl, now⟩ | ⟨-, earlier⟩
    · rcases moved.sees id now with earlier | lists
      · exact (exclusive.seen j id earlier).moved moved fresh
      · exact (exclusive.listed id lists).moved moved fresh
    · exact (exclusive.seen j id earlier).moved moved fresh
  · rcases other holds with ⟨rfl, now⟩ | ⟨-, earlier⟩
    · rcases moved.delists id now with earlier | ⟨saw, unlisted⟩
      · exact (exclusive.delisted j id earlier).moved moved fresh
      · exact ⟨(exclusive.seen j id saw).moved moved fresh, unlisted⟩
    · exact (exclusive.delisted j id earlier).moved moved fresh

/-- If no id has been generated twice so far, the invariant holds, and what else is given. -/
def Keeping (also : (ι → OfferToken) → World (coordinator P) → Prop) (tokens : ι → OfferToken)
    (w : World (coordinator P)) : Prop :=
  (generatedIds w.log).Nodup → Exclusive tokens w ∧ also tokens w

omit [DecidableEq ι] in
theorem keeping_start (requests : ι → Request) :
    (Pool.start (startup P) fun i => (requests i).serve P).Governed (typestate P)
      (Keeping fun _ _ => True) := by
  refine ⟨fun _ => idle, fun i => follows_serve P (requests i), fun _ => ⟨?_, trivial⟩⟩
  have noList (id : String) : ¬ (startup P).state.Lists id := fun lists => lists rfl
  have noTake (id : String) : ¬ (startup P).state.Takes id := fun takes => takes rfl
  exact ⟨nofun, nofun, fun id lists => absurd lists (noList id),
    fun id takes => absurd takes (noTake id), nofun, nofun⟩

/-- The invariant after any schedule, with whatever else every step preserves. -/
theorem keeping_play {also : (ι → OfferToken) → World (coordinator P) → Prop}
    (stable : ∀ tokens i token before after, Moved before after (tokens i) token →
      (generatedIds after.log).Nodup → also tokens before →
      also (Function.update tokens i token) after)
    (env : Environment (coordinator P)) (schedule : List ι)
    (start : pool.Governed (typestate P) (Keeping also)) :
    (pool.play env schedule).Governed (typestate P) (Keeping also) := by
  apply Pool.governed_play ?_ schedule start
  intro pool tokens i token kept moves fresh
  have moved := moved_of_moves moves
  obtain ⟨exclusive, now⟩ := kept (fresh.sublist moved.grows.sublist)
  exact ⟨exclusive.moved moved fresh, stable tokens i token _ _ moved fresh now⟩

omit [DecidableEq ι] in
/-- What follows from the invariant may be added to it. -/
theorem keeping_add (also' : (ι → OfferToken) → World (coordinator P) → Prop)
    {also : (ι → OfferToken) → World (coordinator P) → Prop}
    (kept : pool.Governed (typestate P) (Keeping also))
    (implies : ∀ tokens, Exclusive tokens pool.world → also tokens pool.world →
      also' tokens pool.world) : pool.Governed (typestate P) (Keeping also') := by
  obtain ⟨tokens, following, keeps⟩ := kept
  refine ⟨tokens, following, fun fresh => ?_⟩
  obtain ⟨exclusive, now⟩ := keeps fresh
  exact ⟨exclusive, implies tokens exclusive now⟩

end OfferToken

/-- The world after a schedule of requests that were made from the start. -/
abbrev worldAfter (env : Environment (coordinator P)) [DecidableEq ι] (requests : ι → Request)
    (schedule : List ι) : World (coordinator P) :=
  ((Pool.start (startup P) fun i => (requests i).serve P).play env schedule).world

open OfferToken in
/-- Whatever the coordinator is asked, in whatever interleaving: unless an id is generated twice,
    no offer is in the order book and among the taken ones at once, and one that has left the
    order book does not come back. -/
theorem tables_exclusive [DecidableEq ι] (env : Environment (coordinator P))
    (requests : ι → Request) (earlier between later : List ι) (offerId : String)
    (fresh : (generatedIds (worldAfter env requests (earlier ++ between ++ later)).log).Nodup) :
    ¬ ((worldAfter env requests (earlier ++ between ++ later)).state.Lists offerId ∧
        (worldAfter env requests (earlier ++ between ++ later)).state.Takes offerId) ∧
      ((worldAfter env requests earlier).state.Lists offerId →
        ¬ (worldAfter env requests (earlier ++ between)).state.Lists offerId →
        ¬ (worldAfter env requests (earlier ++ between ++ later)).state.Lists offerId) := by
  have start := keeping_start (P := P) requests
  constructor
  · rintro ⟨lists, takes⟩
    obtain ⟨tokens, -, kept⟩ := keeping_play (fun _ _ _ _ _ _ _ => id) env
      (earlier ++ between ++ later) start
    exact ((kept fresh).1.taken offerId takes).unlisted lists
  · intro listed left
    have first := keeping_play (fun _ _ _ _ _ _ _ => id) env earlier start
    have used := keeping_add (fun tokens w => Used tokens w.log offerId) first
      fun tokens exclusive _ => exclusive.listed offerId listed
    have second := keeping_play (fun _ _ _ _ _ moved fresh used => used.moved moved fresh) env
      between used
    rw [← Pool.play_append] at second
    have gone := keeping_add (fun tokens w => Gone tokens w offerId) second
      fun tokens _ used => ⟨used, left⟩
    have third := keeping_play (fun _ _ _ _ _ moved fresh gone => gone.moved moved fresh) env
      later gone
    rw [← Pool.play_append] at third
    obtain ⟨tokens, -, kept⟩ := third
    exact (kept fresh).2.unlisted

end Exclusion

namespace Sample

/-- An order, the bond for it, and two takes of the offer. -/
inductive Mover where
  | ordering
  | bonding
  | taking
  | rivalling
  deriving DecidableEq

def movers : Mover → Request
  | .ordering => .createOffer (order true)
  | .bonding => .submitMakerBond makerBond
  | .taking | .rivalling => .submitTakerBond take

/-- The offer gets listed. -/
def offering : List Mover := List.replicate 3 .ordering ++ List.replicate 7 .bonding

/-- Both takes read the offer before the first one deletes it. -/
def takingTogether : List Mover :=
  List.replicate 8 .taking ++ List.replicate 8 .rivalling ++ List.replicate 2 .taking

end Sample

theorem tables_exclusive_sample :
    ¬ ((worldAfter Sample.environment Sample.movers (Sample.offering ++ Sample.takingTogether ++
          [.rivalling, .rivalling])).state.Lists Sample.offerId ∧
        (worldAfter Sample.environment Sample.movers (Sample.offering ++ Sample.takingTogether ++
          [.rivalling, .rivalling])).state.Takes Sample.offerId) ∧
      ((worldAfter Sample.environment Sample.movers Sample.offering).state.Lists Sample.offerId →
        ¬ (worldAfter Sample.environment Sample.movers
          (Sample.offering ++ Sample.takingTogether)).state.Lists Sample.offerId →
        ¬ (worldAfter Sample.environment Sample.movers (Sample.offering ++ Sample.takingTogether ++
          [.rivalling, .rivalling])).state.Lists Sample.offerId) :=
  tables_exclusive Sample.environment Sample.movers Sample.offering Sample.takingTogether
    [.rivalling, .rivalling] Sample.offerId (by decide +kernel)

end TapTrade
