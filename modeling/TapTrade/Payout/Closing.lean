import TapTrade.Model.Sample
import TapTrade.Payout.Signatures
import TapTrade.Resumption.Course

/-! # Two signatures that close a trade

Each of the two calls stores its signature and then looks at both, in a later statement. If
neither stores its signature between the other's store and look, the second one finishes the
payout and the first one has been told to wait. If both store before either looks, both find
the payout ready: it is broadcast twice, or the slower call finds the offer deleted.
-/

namespace TapTrade

open Relational Resumption

section Closing

variable {P : Platform} {env : Environment (coordinator P)} {w : World (coordinator P)}
  {offerId : String} {payload : Bool → PayoutSignatureRequest}

/-- The maker (`true`) and the taker (`false`) of an offer each submit a valid signature. No
    statement fails and the node accepts the transaction. -/
structure BothSign (env : Environment (coordinator P)) (w : World (coordinator P))
    (offerId : String) (payload : Bool → PayoutSignatureRequest) where
  row : TakenOffer
  robohash : Bool → Bytes
  context : KeyspendContext P
  faultless : env.Faultless
  found : w.state.takenOffers.find? offerId = some row
  confirmed : row.escrowPsbtIsConfirmed = some 1
  prepared : row.payoutTransactionPsbtHex ≠ none
  unsigned : ∀ isMaker, row.partialSig isMaker = none
  about : ∀ isMaker, (payload isMaker).offerIdHex = offerId
  decoded : ∀ isMaker, Hex.decode (payload isMaker).robohashHex = some (robohash isMaker)
  maker : row.robohashMaker = some (robohash true)
  taker : row.robohashTaker = some (robohash false)
  distinct : robohash true ≠ robohash false
  aggregates : TakenOffer.keyspendContext P { row with
    musigPartialSigHexMaker := some (payload true).partialSigHex
    musigPartialSigHexTaker := some (payload false).partialSigHex } = .ok (some context)
  accepted : ∀ tick, env.answer tick (.broadcastKeyspendTx context) = .ok ()

/-- The two calls, of which none has acted. -/
def signingPool (w : World (coordinator P)) (payload : Bool → PayoutSignatureRequest) :
    Pool (coordinator P) Bool Reply :=
  Pool.start w fun isMaker => (Request.submitPayoutSignature (payload isMaker)).serve P

/-- The question broadcasts a payout transaction. -/
def Query.broadcastsPayout : Query P → Bool
  | .broadcastKeyspendTx _ => true
  | _ => false

/-- The payout is broadcast once, by one of the calls; the other one was told to wait, and the
    offer is gone. -/
structure FinishedOnce (w : World (coordinator P)) (offerId : String)
    (pool : Pool (coordinator P) Bool Reply) : Prop where
  broadcast : (pool.world.log.drop w.log.length).countP (fun event =>
    event.query.broadcastsPayout) = 1
  replies : ∃ isMaker, (pool.calls isMaker).result? = some (.submitPayoutSignature (.ok false)) ∧
    (pool.calls !isMaker).result? = some (.submitPayoutSignature (.ok true))
  deleted : pool.world.state.takenOffers.find? offerId = none

/-- No call stores its signature, its fifth operation, while the other one has stored its own
    and not yet looked at both. -/
def StoresAlone (pool : Pool (coordinator P) Bool Reply) (isMaker : Bool) : Prop :=
  pool.About isMaker 4 → ¬ pool.About (!isMaker) 5

instance (pool : Pool (coordinator P) Bool Reply) : DecidablePred (StoresAlone pool) :=
  fun _ => inferInstanceAs (Decidable (_ → _))

namespace BothSign

variable (both : BothSign env w offerId payload)

/-- The row with the signature of one trader. -/
def signed (isMaker : Bool) : TakenOffer :=
  (TakenOffer.setPartialSig isMaker (payload isMaker).partialSigHex).apply both.row

/-- The row with both signatures. -/
def signedTwice : TakenOffer := { both.row with
  musigPartialSigHexMaker := some (payload true).partialSigHex
  musigPartialSigHexTaker := some (payload false).partialSigHex }

/-- The offer takes the signature of each trader. -/
theorem accepts (isMaker : Bool) :
    both.row.AcceptsSignature (both.robohash isMaker) isMaker := by
  have maker : Column.blob both.row.robohashMaker = both.robohash true := by
    rw [both.maker]
    rfl
  have taker : Column.blob both.row.robohashTaker = both.robohash false := by
    rw [both.taker]
    rfl
  refine ⟨?_, ?_, ?_, both.unsigned isMaker⟩
  · cases isMaker <;> simp [TakenOffer.names, both.maker, both.taker]
  · rw [both.confirmed]
    rfl
  · cases isMaker with
    | true => rw [TakenOffer.role?, if_pos maker]
    | false =>
        have other : Column.blob both.row.robohashMaker ≠ both.robohash false :=
          maker ▸ both.distinct
        rw [TakenOffer.role?, if_neg other, if_pos taker]

/-- One signature does not keep the other trader from signing. -/
theorem accepts_signed (isMaker : Bool) :
    (both.signed isMaker).AcceptsSignature (both.robohash !isMaker) (!isMaker) := by
  obtain ⟨names, confirmed, role, unsigned⟩ := both.accepts !isMaker
  cases isMaker <;> exact ⟨names, confirmed, role, unsigned⟩

/-- The second signature completes the first one. -/
theorem signed_signed (isMaker : Bool) :
    (TakenOffer.setPartialSig (!isMaker) (payload !isMaker).partialSigHex).apply
      (both.signed isMaker) = both.signedTwice := by
  cases isMaker <;> rfl

theorem keyspendContext_signed (isMaker : Bool) :
    (both.signed isMaker).keyspendContext P = .ok none := by
  have missing := both.unsigned !isMaker
  cases isMaker with
  | true =>
      have taker : (both.signed true).musigPartialSigHexTaker = none := missing
      rw [TakenOffer.keyspendContext, taker]
      cases (both.signed true).musigPartialSigHexMaker <;> rfl
  | false =>
      have maker : (both.signed false).musigPartialSigHexMaker = none := missing
      rw [TakenOffer.keyspendContext, maker]
      rfl

/-- How far the two calls have got, with the row of the offer: neither has stored its
    signature; one has; it was told to wait, and the other one finishes the payout. -/
inductive Progress : (Bool → SignatureStage P) → Option TakenOffer → Nat → Prop
  | unsigned {stages} (early : ∀ c, (stages c).Early c) : Progress stages (some both.row) 0
  | signed {stages} (c : Bool) (first : stages c = .aggregating ∨ stages c = .ended (.ok false))
      (early : (stages !c).Early !c) : Progress stages (some (both.signed c)) 0
  | aggregating {stages} (c : Bool) (waits : stages c = .ended (.ok false))
      (last : stages (!c) = .aggregating ∨ stages (!c) = .broadcasting both.context) :
      Progress stages (some both.signedTwice) 0
  | finishing {stages} (c : Bool) (waits : stages c = .ended (.ok false))
      (last : stages (!c) = .finishing) : Progress stages (some both.signedTwice) 1
  | finished {stages} (c : Bool) (waits : stages c = .ended (.ok false))
      (last : stages (!c) = .ended (.ok true)) : Progress stages none 1

/-- A call that stored its signature and has not been told to wait. -/
inductive Late : SignatureStage P → Prop
  | aggregating : Late .aggregating
  | broadcasting (context) : Late (.broadcasting context)
  | finishing : Late .finishing
  | ended (outcome) (other : outcome ≠ .ok false) : Late (.ended outcome)

theorem Late.refused (error : Abort RequestError) :
    Late (P := P) (.ended (.error error)) := by
  apply Late.ended
  intro same
  cases same

theorem Late.finished : Late (P := P) (.ended (.ok true)) := by
  apply Late.ended
  intro same
  cases same

/-- Both calls stored their signatures before either was told to wait. -/
structure Overlapping (stages : Bool → SignatureStage P) (row : Option TakenOffer) : Prop where
  late : ∀ c, Late (stages c)
  row : row = none ∨ row = some both.signedTwice

/-- The calls of the pool are at these stages, with `n` broadcasts so far. -/
structure Standing (stages : Bool → SignatureStage P) (n : Nat)
    (pool : Pool (coordinator P) Bool Reply) : Prop where
  calls : ∀ c, (SignatureStage.staging (payload c) (both.robohash c) (both.decoded c)).At (stages c)
    (pool.past c).length (pool.calls c)
  log : ∃ events, pool.world.log = w.log ++ events ∧
    events.countP (fun event => event.query.broadcastsPayout) = n

variable {stages : Bool → SignatureStage P} {n : Nat} {pool : Pool (coordinator P) Bool Reply}

/-- Whether the next operation of a call broadcasts the payout. -/
def broadcasts : SignatureStage P → Nat
  | .broadcasting _ => 1
  | _ => 0

theorem log_after (request : PayoutSignatureRequest) (env : Environment (coordinator P))
    (w : World (coordinator P)) (stage : SignatureStage P) :
    ∃ events, (stage.after request env w).log = w.log ++ events ∧
      events.countP (fun event => event.query.broadcastsPayout) = broadcasts stage := by
  cases stage with
  | broadcasting context =>
      exact ⟨[⟨.broadcastKeyspendTx context, env.answer w.clock _, w.state⟩], rfl, rfl⟩
  | storing isMaker =>
      refine ⟨[], ?_, rfl⟩
      rw [List.append_nil]
      exact World.exec_log env _ w
  | finishing =>
      refine ⟨[], ?_, rfl⟩
      rw [List.append_nil]
      exact World.exec_log env _ w
  | _ => exact ⟨[], (List.append_nil _).symm, rfl⟩

/-- A step of the pool advances the acting call. -/
theorem Standing.step (standing : both.Standing stages n pool) (c : Bool) :
    both.Standing
        (Function.update stages c
          ((stages c).advance (payload c) (both.robohash c) env pool.world))
        (n + broadcasts (stages c)) (pool.step env c) ∧
      (pool.step env c).world = (stages c).after (payload c) env pool.world := by
  have acts := (standing.calls c).step env pool.world
  refine ⟨⟨?_, ?_⟩, acts.2⟩
  · apply Pool.forall_step fun j n p =>
      (SignatureStage.staging (payload j) (both.robohash j) (both.decoded j)).At
        (Function.update stages c
          ((stages c).advance (payload c) (both.robohash c) env pool.world) j) n p
    · intro j other
      rw [Function.update_of_ne other]
      exact standing.calls j
    · rw [Function.update_self]
      exact acts.1
  · obtain ⟨events, log, count⟩ := standing.log
    obtain ⟨new, logged, more⟩ := log_after (payload c) env pool.world (stages c)
    refine ⟨events ++ new, ?_, ?_⟩
    · calc (pool.step env c).world.log
          = ((stages c).after (payload c) env pool.world).log := congrArg World.log acts.2
        _ = w.log ++ (events ++ new) := by rw [logged, log, List.append_assoc]
    · rw [List.countP_append, count, more]

section Steps

variable {w₁ : World (coordinator P)} {c : Bool}

/-- The stage to which the next operation takes the call. -/
abbrev next (stages : Bool → SignatureStage P) (w₁ : World (coordinator P)) (c : Bool) :
    SignatureStage P := (stages c).advance (payload c) (both.robohash c) env w₁

/-- The row of the offer after that operation. -/
abbrev rowAfter (_ : BothSign env w offerId payload) (stages : Bool → SignatureStage P)
    (w₁ : World (coordinator P)) (c : Bool) : Option TakenOffer :=
  ((stages c).after (payload c) env w₁).state.takenOffers.find? offerId

/-- A call that has ended does nothing any more. -/
theorem stays {outcome : Outcome RequestError Bool} (ended : stages c = .ended outcome) :
    Function.update stages c (both.next stages w₁ c) = stages ∧
      both.rowAfter stages w₁ c = w₁.state.takenOffers.find? offerId := by
  constructor
  · rw [next, ended, SignatureStage.advance, ← ended, Function.update_eq_self]
  · rw [rowAfter, ended, SignatureStage.after]

/-- A call that looks at an offer that takes its signature. -/
theorem looks {row : TakenOffer} (early : (stages c).Early c) (other : stages c ≠ .storing c)
    (found : w₁.state.takenOffers.find? offerId = some row)
    (accepts : row.AcceptsSignature (both.robohash c) c) :
    (both.next stages w₁ c).Early c ∧ both.rowAfter stages w₁ c = some row := by
  rw [← both.about c] at found
  obtain ⟨still, tick⟩ := early.advance other (both.faultless _) found accepts
  rw [both.about c] at found
  refine ⟨still, ?_⟩
  rw [rowAfter, tick]
  exact found

/-- A call that stores its signature. -/
theorem stores {row : TakenOffer} (storing : stages c = .storing c)
    (found : w₁.state.takenOffers.find? offerId = some row) :
    both.next stages w₁ c = .aggregating ∧ both.rowAfter stages w₁ c =
      some ((TakenOffer.setPartialSig c (payload c).partialSigHex).apply row) := by
  constructor
  · rw [next, storing, SignatureStage.advance, both.faultless]
  · rw [rowAfter, storing, SignatureStage.after, World.exec, both.faultless, both.about c]
    change (w₁.state.takenOffers.update offerId _).find? offerId = _
    rw [Table.find?_update_self, found]
    rfl

/-- A call that looks at both signatures. -/
theorem looksAtBoth {row : TakenOffer} {context : Option (KeyspendContext P)}
    (aggregating : stages c = .aggregating)
    (found : w₁.state.takenOffers.find? offerId = some row)
    (read : row.keyspendContext P = .ok context) :
    both.next stages w₁ c = context.elim (.ended (.ok false)) .broadcasting ∧
      both.rowAfter stages w₁ c = some row := by
  constructor
  · rw [← both.about c] at found
    rw [next, aggregating, SignatureStage.advance, look_of_found (both.faultless _) found, read]
    cases context <;> rfl
  · rw [rowAfter, aggregating, SignatureStage.after]
    exact found

/-- A call that broadcasts the payout. -/
theorem broadcastsAt (w₁ : World (coordinator P))
    (broadcasting : stages c = .broadcasting both.context) :
    both.next stages w₁ c = .finishing ∧
      both.rowAfter stages w₁ c = w₁.state.takenOffers.find? offerId := by
  constructor
  · rw [next, broadcasting, SignatureStage.advance, both.accepted]
  · rw [rowAfter, broadcasting, SignatureStage.after, World.ask_state]

/-- A call that deletes the offer. -/
theorem deletes (w₁ : World (coordinator P)) (finishing : stages c = .finishing) :
    both.next stages w₁ c = .ended (.ok true) ∧ both.rowAfter stages w₁ c = none := by
  constructor
  · rw [next, finishing, SignatureStage.advance, both.faultless]
  · rw [rowAfter, finishing, SignatureStage.after, World.exec, both.faultless, both.about c]
    exact Table.find?_delete_self _ _

theorem broadcasts_of_early (early : (stages c).Early c) : broadcasts (stages c) = 0 := by
  cases stage : stages c with
  | broadcasting context =>
      rw [stage] at early
      cases early
  | _ => rfl

/-- One operation of either call, if it does not store its signature between the store and
    the look of the other one. -/
theorem Progress.step {row : Option TakenOffer} (progress : both.Progress stages row n)
    (found : w₁.state.takenOffers.find? offerId = row)
    (alone : stages c = .storing c → stages (!c) ≠ .aggregating) :
    both.Progress (Function.update stages c (both.next stages w₁ c))
      (both.rowAfter stages w₁ c) (n + broadcasts (stages c)) := by
  have kept : Function.update stages c (both.next stages w₁ c) (!c) = stages (!c) :=
    Function.update_of_ne (Bool.not_ne_self c) ..
  have moved : Function.update stages c (both.next stages w₁ c) c = both.next stages w₁ c :=
    Function.update_self ..
  cases progress with
  | unsigned early =>
      by_cases storing : stages c = .storing c
      · obtain ⟨next, row⟩ := both.stores storing found
        rw [row, storing]
        exact .signed c (.inl (moved.trans next)) (kept ▸ early !c)
      · obtain ⟨next, row⟩ := both.looks (early c) storing found (both.accepts c)
        rw [row, broadcasts_of_early (early c)]
        refine .unsigned fun d => ?_
        rcases Bool.eq_or_eq_not d c with rfl | rfl
        · rw [moved]
          exact next
        · exact kept ▸ early !c
  | signed d first early =>
      rcases Bool.eq_or_eq_not c d with rfl | rfl
      · rcases first with aggregating | waits
        · obtain ⟨next, row⟩ := both.looksAtBoth aggregating found (both.keyspendContext_signed c)
          rw [row, aggregating]
          exact .signed c (.inr (moved.trans next)) (kept ▸ early)
        · rw [(both.stays waits).1, (both.stays waits).2, found, waits]
          exact .signed c (.inr waits) early
      · rw [Bool.not_not] at kept alone
        by_cases storing : stages (!d) = .storing (!d)
        · have waits := first.resolve_left (alone storing)
          obtain ⟨next, row⟩ := both.stores storing found
          rw [row, storing, both.signed_signed d]
          exact .aggregating d (kept.trans waits) (.inl (moved.trans next))
        · obtain ⟨next, row⟩ := both.looks early storing found (both.accepts_signed d)
          rw [row, broadcasts_of_early early]
          refine .signed d ?_ ?_
          · rw [kept]
            exact first
          · rw [moved]
            exact next
  | aggregating d waits last =>
      rcases Bool.eq_or_eq_not c d with rfl | rfl
      · rw [(both.stays waits).1, (both.stays waits).2, found, waits]
        exact .aggregating c waits last
      · rw [Bool.not_not] at kept
        rcases last with aggregating | broadcasting
        · obtain ⟨next, row⟩ := both.looksAtBoth aggregating found both.aggregates
          rw [row, aggregating]
          exact .aggregating d (kept.trans waits) (.inr (moved.trans next))
        · obtain ⟨next, row⟩ := both.broadcastsAt w₁ broadcasting
          rw [row, found, broadcasting]
          exact .finishing d (kept.trans waits) (moved.trans next)
  | finishing d waits last =>
      rcases Bool.eq_or_eq_not c d with rfl | rfl
      · rw [(both.stays waits).1, (both.stays waits).2, found, waits]
        exact .finishing c waits last
      · rw [Bool.not_not] at kept
        obtain ⟨next, row⟩ := both.deletes w₁ last
        rw [row, last]
        exact .finished d (kept.trans waits) (moved.trans next)
  | finished d waits last =>
      rcases Bool.eq_or_eq_not c d with rfl | rfl
      · rw [(both.stays waits).1, (both.stays waits).2, found, waits]
        exact .finished c waits last
      · rw [(both.stays last).1, (both.stays last).2, found, last]
        exact .finished d waits last

/-- A call that is about to store its signature stores it for itself, and the other one has
    not stored its own or is the only one that has. -/
theorem Progress.atStore {row : Option TakenOffer} {isMaker : Bool}
    (progress : both.Progress stages row n) (storing : stages c = .storing isMaker) :
    isMaker = c ∧ ((stages !c).Early (!c) ∨ row = some (both.signed !c)) := by
  have own (early : (stages c).Early c) : isMaker = c := by
    rw [storing] at early
    cases early
    rfl
  cases progress with
  | unsigned early => exact ⟨own (early c), .inl (early !c)⟩
  | signed d first early =>
      rcases Bool.eq_or_eq_not c d with rfl | rfl
      · rcases first with aggregating | waits
        · cases aggregating.symm.trans storing
        · cases waits.symm.trans storing
      · rw [Bool.not_not]
        exact ⟨own early, .inr rfl⟩
  | aggregating d waits last =>
      rcases Bool.eq_or_eq_not c d with rfl | rfl
      · cases waits.symm.trans storing
      · rcases last with aggregating | broadcasting
        · cases aggregating.symm.trans storing
        · cases broadcasting.symm.trans storing
  | finishing d waits last | finished d waits last =>
      rcases Bool.eq_or_eq_not c d with rfl | rfl
      · cases waits.symm.trans storing
      · cases last.symm.trans storing

/-- A call that stores its signature between the store and the look of the other one. -/
theorem Progress.overlap {row : Option TakenOffer} (progress : both.Progress stages row n)
    (found : w₁.state.takenOffers.find? offerId = row) (storing : stages c = .storing c)
    (aggregating : stages (!c) = .aggregating) :
    both.Overlapping (Function.update stages c (both.next stages w₁ c))
      (both.rowAfter stages w₁ c) := by
  obtain ⟨-, early | signed⟩ := progress.atStore both storing
  · rw [aggregating] at early
    cases early
  · obtain ⟨next, row⟩ := both.stores storing (found.trans signed)
    have twice := both.signed_signed !c
    rw [Bool.not_not] at twice
    refine ⟨fun d => ?_, .inr (row.trans (congrArg some twice))⟩
    rcases Bool.eq_or_eq_not d c with rfl | rfl
    · rw [Function.update_self, next]
      exact .aggregating
    · rw [Function.update_of_ne (Bool.not_ne_self c), aggregating]
      exact .aggregating

/-- Neither call is told to wait any more. -/
theorem Overlapping.step {row : Option TakenOffer} (overlapping : both.Overlapping stages row)
    (found : w₁.state.takenOffers.find? offerId = row) :
    both.Overlapping (Function.update stages c (both.next stages w₁ c))
      (both.rowAfter stages w₁ c) := by
  have rows := overlapping.row
  have acts : Late (both.next stages w₁ c) ∧ (both.rowAfter stages w₁ c = none ∨
      both.rowAfter stages w₁ c = some both.signedTwice) := by
    have late := overlapping.late c
    cases stage : stages c with
    | aggregating =>
        rcases rows with gone | twice
        · rw [next, rowAfter, stage, SignatureStage.advance, look, both.faultless, both.about c,
            found, gone]
          exact ⟨.refused _, .inl (found.trans gone)⟩
        · obtain ⟨next, row⟩ := both.looksAtBoth stage (found.trans twice) both.aggregates
          rw [next]
          exact ⟨.broadcasting _, .inr row⟩
    | broadcasting context =>
        rw [next, rowAfter, stage, SignatureStage.advance, SignatureStage.after, World.ask_state,
          found]
        refine ⟨?_, rows⟩
        split
        · exact .refused _
        · exact .finishing
    | finishing =>
        obtain ⟨next, row⟩ := both.deletes w₁ stage
        rw [next]
        exact ⟨.finished, .inl row⟩
    | ended outcome =>
        rw [next, rowAfter, stage, SignatureStage.advance, SignatureStage.after, found]
        exact ⟨stage ▸ late, rows⟩
    | _ =>
        rw [stage] at late
        cases late
  refine ⟨fun d => ?_, acts.2⟩
  by_cases same : d = c
  · subst same
    rw [Function.update_self]
    exact acts.1
  · rw [Function.update_of_ne same]
    exact overlapping.late d

end Steps

section Runs

theorem Standing.storesAlone_iff {row : Option TakenOffer}
    (standing : both.Standing stages n pool) (progress : both.Progress stages row n) (c : Bool) :
    StoresAlone pool c ↔ (stages c = .storing c → stages (!c) ≠ .aggregating) := by
  rw [StoresAlone, (standing.calls c).about_iff, (standing.calls (!c)).about_iff]
  constructor
  · intro alone storing aggregating
    rw [storing, aggregating] at alone
    exact alone ⟨rfl, rfl⟩ ⟨rfl, rfl⟩
  · rintro alone ⟨-, fifth⟩ ⟨-, sixth⟩
    cases stage : stages c with
    | storing isMaker =>
        obtain rfl := (progress.atStore both stage).1.symm
        cases other : stages !c with
        | aggregating => exact alone stage other
        | _ =>
            rw [other] at sixth
            cases sixth
    | _ =>
        rw [stage] at fifth
        cases fifth

/-- An overlap is not made good any more. -/
theorem not_finishedOnce_of_overlapping {schedule : List Bool}
    (standing : both.Standing stages n pool)
    (overlapping : both.Overlapping stages (pool.world.state.takenOffers.find? offerId)) :
    ¬ FinishedOnce w offerId (pool.play env schedule) := by
  induction schedule generalizing pool stages n with
  | nil =>
      rintro ⟨-, ⟨c, waits, -⟩, -⟩
      have late := overlapping.late c
      rw [Pool.play_nil, (standing.calls c).same] at waits
      rw [SignatureStage.result?_program _ _ (both.decoded c) waits] at late
      cases late with
      | ended _ other => exact other rfl
  | cons c schedule ih =>
      obtain ⟨stands, world⟩ := standing.step both c
      refine ih stands ?_
      rw [world]
      exact overlapping.step both rfl

/-- When both calls have ended, one was told to wait and the other one has finished. -/
theorem Progress.ended {row : Option TakenOffer} (progress : both.Progress stages row n)
    (stopped : ∀ c, (stages c).isEnded = true) :
    n = 1 ∧ row = none ∧
      ∃ c, stages c = .ended (.ok false) ∧ stages (!c) = .ended (.ok true) := by
  have going {c : Bool} {stage : SignatureStage P} (now : stages c = stage) :
      stage.isEnded = true := now ▸ stopped c
  cases progress with
  | unsigned early => cases (early true).going.symm.trans (stopped true)
  | signed c first early => cases early.going.symm.trans (stopped !c)
  | aggregating c waits last =>
      rcases last with aggregating | broadcasting
      · cases going aggregating
      · cases going broadcasting
  | finishing c waits last => cases going last
  | finished c waits last => exact ⟨rfl, rfl, c, waits, last⟩

/-- Two calls that have both ended have closed the trade. -/
theorem finishedOnce_of_progress (standing : both.Standing stages n pool)
    (progress : both.Progress stages (pool.world.state.takenOffers.find? offerId) n)
    (ended : ∀ c, (pool.calls c).ended = true) : FinishedOnce w offerId pool := by
  have stopped (c : Bool) : (stages c).isEnded = true := by
    exact (standing.calls c).ended.symm.trans (ended c)
  have answers {c : Bool} {outcome : Outcome RequestError Bool}
      (answered : stages c = .ended outcome) :
      (pool.calls c).result? = some (.submitPayoutSignature outcome) := by
    rw [(standing.calls c).same, answered]
    rfl
  obtain ⟨rfl, gone, c, waits, last⟩ := progress.ended both stopped
  obtain ⟨events, log, count⟩ := standing.log
  refine ⟨?_, ⟨c, answers waits, answers last⟩, gone⟩
  rw [log, List.drop_left]
  exact count

theorem finishedOnce_iff_of_progress {schedule : List Bool}
    (standing : both.Standing stages n pool)
    (progress : both.Progress stages (pool.world.state.takenOffers.find? offerId) n)
    (ended : ∀ c, ((pool.play env schedule).calls c).ended = true) :
    FinishedOnce w offerId (pool.play env schedule) ↔
      Course.Throughout (Pool.step env) StoresAlone pool schedule := by
  induction schedule generalizing pool stages n with
  | nil =>
      exact iff_of_true (finishedOnce_of_progress both standing progress ended) trivial
  | cons c schedule ih =>
      obtain ⟨stands, world⟩ := standing.step both c
      have alone_iff := standing.storesAlone_iff both progress c
      by_cases alone : StoresAlone pool c
      · rw [Pool.play_cons, ih stands ?_ ended]
        · exact (and_iff_right alone).symm
        · rw [world]
          exact progress.step both rfl (alone_iff.mp alone)
      · refine iff_of_false ?_ fun met => alone met.1
        rw [alone_iff, Classical.not_imp, not_not] at alone
        rw [Pool.play_cons]
        refine not_finishedOnce_of_overlapping both stands ?_
        rw [world]
        exact progress.overlap both rfl alone.1 alone.2

/-- In every interleaving in which both calls run to their end: the payout is finished once
    iff neither call stores its signature between the store and the look of the other. -/
theorem finishedOnce_iff (both : BothSign env w offerId payload) (schedule : List Bool)
    (ended : ∀ c, (((signingPool w payload).play env schedule).calls c).ended = true) :
    FinishedOnce w offerId ((signingPool w payload).play env schedule) ↔
      Course.Throughout (Pool.step env) StoresAlone (signingPool w payload) schedule := by
  have standing : both.Standing (fun _ => .validating) 0 (signingPool w payload) :=
    ⟨fun c => ⟨rfl, fun _ => rfl⟩, [], (List.append_nil _).symm, rfl⟩
  refine finishedOnce_iff_of_progress both standing ?_ ended
  have found : (signingPool w payload).world.state.takenOffers.find? offerId = some both.row :=
    both.found
  rw [found]
  exact .unsigned fun c => .validating

end Runs

end BothSign

end Closing

namespace Sample

def signatures (isMaker : Bool) : PayoutSignatureRequest :=
  if isMaker then makerSignature else takerSignature

instance : DecidableEq (KeyspendContext .sample) := fun a b =>
  have : DecidableEq Platform.sample.LiftedSignature := inferInstanceAs (DecidableEq (List String))
  have : DecidableEq Platform.sample.MusigAggNonce := inferInstanceAs (DecidableEq (String × String))
  have : DecidableEq Platform.sample.KeyAggContext := inferInstanceAs (DecidableEq (String × String))
  have : DecidableEq Platform.sample.PartiallySignedTransaction := inferInstanceAs (DecidableEq Bytes)
  decidable_of_iff
    (a.aggSig = b.aggSig ∧ a.aggNonce = b.aggNonce ∧ a.aggKeyspendPk = b.aggKeyspendPk ∧
      a.keyspendPsbt = b.keyspendPsbt)
    (by cases a; cases b; simp)

def keyspendContext : KeyspendContext .sample where
  aggSig := [makerPartialSig, takerPartialSig]
  aggNonce := (makerNonce, takerNonce)
  aggKeyspendPk := (makerMusigPk, takerMusigPk)
  keyspendPsbt := [0x70, 0x73, 0x62, 0x74, 0xff, 0x01]

def bothSign : BothSign environment (trading preparedOffer) offerId signatures where
  row := preparedOffer
  robohash isMaker := if isMaker then makerRobohash else takerRobohash
  context := keyspendContext
  faultless _ := rfl
  found := rfl
  confirmed := rfl
  prepared := nofun
  unsigned := by decide
  about := by decide
  decoded := by decide +kernel
  maker := rfl
  taker := rfl
  distinct := by decide
  aggregates := by decide +kernel
  accepted _ := rfl

/-- The two calls on the prepared payout. -/
def signing (schedule : List Bool) : Pool (coordinator .sample) Bool Reply :=
  (signingPool (trading preparedOffer) signatures).play environment schedule

end Sample

/-- The maker signs, and then the taker. -/
theorem finishedOnce_iff_sample :
    FinishedOnce (Sample.trading Sample.preparedOffer) Sample.offerId
        (Sample.signing (List.replicate 6 true ++ List.replicate 8 false)) ↔
      Course.Throughout (Pool.step Sample.environment) StoresAlone
        (signingPool (Sample.trading Sample.preparedOffer) Sample.signatures)
        (List.replicate 6 true ++ List.replicate 8 false) :=
  Sample.bothSign.finishedOnce_iff _ (by decide +kernel)

/-- Both store their signatures before either looks: both broadcast the payout. -/
theorem finished_twice :
    ¬ FinishedOnce (Sample.trading Sample.preparedOffer) Sample.offerId
      (Sample.signing (List.replicate 5 true ++ List.replicate 6 false ++
        [true, true, false, true, false])) := by
  intro once
  have twice : ((Sample.signing (List.replicate 5 true ++ List.replicate 6 false ++
      [true, true, false, true, false])).world.log.drop 0).countP
        (fun event => event.query.broadcastsPayout) = 2 := by
    decide +kernel
  exact absurd (once.broadcast.symm.trans twice) (by decide)

end TapTrade
