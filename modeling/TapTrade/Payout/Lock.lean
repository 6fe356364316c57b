import TapTrade.Locking.Toggle
import TapTrade.Resumption.Staging
import TapTrade.Payout.Agreement

/-! # Whether the processing flag is a lock

A poll takes the processing flag by toggling it, and gives it back by toggling it. A poll that
comes while another one is at work toggles it, too: it is refused, but the flag is clear, and the
next poll gets to work as well.
-/

namespace TapTrade

open Relational Resumption Locking

section Lock

variable {P : Platform} {offerId : String} {n : Nat} {p : Program (coordinator P) Reply}
  {env : Environment (coordinator P)} {w : World (coordinator P)}

/-- The processing flag of the offer, if there is the offer. -/
def Database.processing? (offerId : String) (db : Database) : Option Int64 :=
  (db.takenOffers.find? offerId).map TakenOffer.processing

theorem Database.processing?_updateTaken (db : Database) (change : Change TakenOffer)
    {g : Int64 → Int64} (changes : ∀ row, (change.apply row).processing = g row.processing) :
    (db.updateTaken offerId change).processing? offerId = (db.processing? offerId).map g := by
  rw [Database.processing?, Database.processing?, Database.updateTaken, Table.find?_update_self]
  cases db.takenOffers.find? offerId with
  | none => rfl
  | some row => exact congrArg some (changes row)

/-- Where a poll of the offer stands that has made `n` operations. -/
inductive Position (offerId : String) : Nat → Program (coordinator P) Reply → Prop
  | starting {payload : OfferTakenRequest} (same : payload.offerIdHex = offerId) :
      Position offerId 0 ((Request.pollFinalPayout payload).serve P)
  | deciding (payload : OfferTakenRequest) :
      Position offerId 1 (answering (disputeResult payload))
  | reading : Position offerId 1 (answering (keyspendPayout offerId))
  | looking {p : Program (coordinator P) Reply} (looking : Looking offerId p) :
      Position offerId 2 p
  | attempting (data : PayoutData P) : Position offerId 3 (answering (beginPayout offerId data))
  | assembling (data : PayoutData P) : Position offerId 4 (answering (assemblePayout offerId data))
  | storing (data : PayoutData P) (psbt : String) :
      Position offerId 5 (answering (storePayoutPsbt offerId data psbt))
  | returning {psbt : String} {p : Program (coordinator P) Reply}
      (returning : Returning offerId psbt p) : Position offerId 6 p
  | ended {n : Nat} (reply : Reply) : Position offerId n (.done reply)

theorem Unready.ended {p : Program (coordinator P) Reply} (unready : Unready p) :
    ∃ reply, p = .done reply := by
  obtain ⟨reply, rfl, -⟩ := unready
  exact ⟨reply, rfl⟩

theorem Unready.position {p : Program (coordinator P) Reply} (unready : Unready p) :
    Position offerId n p := by
  obtain ⟨reply, rfl, -⟩ := unready
  exact .ended reply

theorem processing?_toggling (db : Database) :
    (toggling offerId db).2.processing? offerId = (db.processing? offerId).map TakenOffer.toggle :=
  db.processing?_updateTaken _ fun _ => rfl

/-- What a step of a poll leads to, unless it attempts to take the flag: a poll that gets to the
    work has been at it before, and only one that ends it toggles the flag. -/
structure QuietStep (offerId : String) (n : Nat) (before after : Database)
    (p : Program (coordinator P) Reply) : Prop where
  position : Position offerId (n + 1) p
  works : p.ended = false → 4 ≤ n + 1 → 4 ≤ n
  flag : after.processing? offerId = before.processing? offerId ∨ 4 ≤ n ∧ p.ended = true

theorem Unready.quiet {before after : Database} {p : Program (coordinator P) Reply}
    (unready : Unready p) (flag : after.processing? offerId = before.processing? offerId) :
    QuietStep offerId n before after p := by
  obtain ⟨reply, rfl, -⟩ := unready
  exact ⟨.ended reply, nofun, .inl flag⟩

/-- A statement that only reads, before the flag is taken. -/
theorem quiet_read {β : Type} {read : Database → β}
    {next : Except Unit β → Program (coordinator P) Reply}
    (position : ∀ result, Position offerId (n + 1) (next result)) (early : n < 3) :
    QuietStep offerId n w.state
      ((Program.statement (I := coordinator P) (fun db => (read db, db)) next).step env w).2.state
      ((Program.statement (I := coordinator P) (fun db => (read db, db)) next).step env w).1 := by
  apply Program.step_statement (motive := fun p after => QuietStep offerId n w.state after p)
  · exact fun fault => ⟨position _, fun _ late => absurd late (by omega), .inl rfl⟩
  · exact ⟨position _, fun _ late => absurd late (by omega), .inl rfl⟩

/-- A poll attempts to take the flag if its fourth operation does not fail and finds the offer. -/
def Takes (offerId : String) (env : Environment (coordinator P)) (w : World (coordinator P))
    (n : Nat) : Prop :=
  n = 3 ∧ env.fault w.clock = none ∧ (w.state.processing? offerId).isSome

/-- An attempt that fails, or that does not find the offer. -/
theorem quiet_beginPayout (data : PayoutData P) (quiet : ¬ Takes offerId env w 3) :
    QuietStep offerId 3 w.state ((answering (beginPayout offerId data)).step env w).2.state
      ((answering (beginPayout offerId data)).step env w).1 := by
  obtain ⟨next, view, fails, missing, -⟩ := answering_beginPayout (P := P) offerId data
  rw [view]
  simp only [Program.step, World.exec]
  cases fault : env.fault w.clock with
  | some failure => exact (fails failure).quiet rfl
  | none =>
      have absent : w.state.processing? offerId = none := by
        by_contra found
        exact quiet ⟨rfl, fault, Option.isSome_iff_ne_none.mpr found⟩
      have nothing : (toggling offerId w.state).1 = none := by
        rw [Database.processing?, Option.map_eq_none_iff] at absent
        rw [toggling, absent]
        rfl
      rw [nothing]
      apply missing.quiet
      rw [processing?_toggling, absent]
      rfl

/-- The last operation of the work ends the poll. -/
theorem Returning.quiet {psbt : String} (returning : Returning offerId psbt p) :
    QuietStep offerId 6 w.state (p.step env w).2.state (p.step env w).1 := by
  obtain ⟨next, rfl, fails, missing, ends⟩ := returning.next
  have done (result) : ∃ reply, next result = .done reply := by
    rcases result with fault | _ | flag
    · exact (fails fault).ended
    · exact missing.ended
    · obtain ⟨reply, done, -⟩ := ends flag
      exact ⟨reply, done⟩
  apply Program.step_statement (motive := fun p after => QuietStep offerId 6 w.state after p)
  · intro fault
    obtain ⟨reply, done⟩ := done (.error fault)
    exact done ▸ ⟨.ended reply, fun _ _ => by omega, .inl rfl⟩
  · obtain ⟨reply, done⟩ := done (.ok (toggling offerId w.state).1)
    exact done ▸ ⟨.ended reply, fun _ _ => by omega, .inr ⟨by omega, rfl⟩⟩

theorem Position.quiet (position : Position offerId n p) (going : p.ended = false)
    (quiet : ¬ Takes offerId env w n) :
    QuietStep offerId n w.state (p.step env w).2.state (p.step env w).1 := by
  cases position with
  | @starting payload same =>
      obtain ⟨next, view, goesOn⟩ := serve_pollFinalPayout (P := P) payload
      rw [view]
      apply quiet_read _ (by omega)
      intro result
      rcases goesOn result with unready | deciding | reading
      · exact unready.position
      · exact deciding ▸ .deciding payload
      · rw [reading, same]
        exact .reading
  | deciding payload =>
      obtain ⟨next, view, ends⟩ := answering_disputeResult (P := P) payload
      rw [view]
      exact quiet_read (fun result => (ends result).position) (by omega)
  | reading =>
      obtain ⟨next, view, goesOn⟩ := answering_keyspendPayout (P := P) offerId
      rw [view]
      apply quiet_read _ (by omega)
      intro result
      rcases goesOn result with unready | looking
      · exact unready.position
      · exact .looking looking
  | looking looking =>
      obtain ⟨next, rfl, fails, missing, finds⟩ := looking.next
      apply quiet_read _ (by omega)
      rintro (fault | _ | row)
      · exact (fails fault).position
      · exact missing.position
      · rcases finds row with ⟨psbt, reply, -, ends, -⟩ | ⟨data, -, goesOn⟩
        · exact ends ▸ .ended reply
        · exact goesOn ▸ .attempting data
  | attempting data => exact quiet_beginPayout data quiet
  | assembling data =>
      obtain ⟨next, view, answers⟩ := answering_assemblePayout (P := P) offerId data
      rw [view]
      rcases answers (w.ask env _).1 with unready | ⟨psbt, goesOn⟩
      · exact unready.quiet rfl
      · rw [Program.step, goesOn]
        exact ⟨.storing data psbt, fun _ _ => le_rfl, .inl rfl⟩
  | storing data psbt =>
      obtain ⟨next, view, fails, goesOn⟩ := answering_storePayoutPsbt (P := P) offerId data psbt
      rw [view]
      apply Program.step_statement (motive := fun p after => QuietStep offerId 5 w.state after p)
      · exact fun fault => (fails fault).quiet rfl
      · refine ⟨.returning goesOn, fun _ _ => by omega, .inl ?_⟩
        rw [w.state.processing?_updateTaken (TakenOffer.setPayoutPsbt psbt) (g := id) fun _ => rfl,
          Option.map_id_apply]
  | returning returning => exact returning.quiet
  | ended reply => cases going

/-- An attempt toggles the flag, and goes on to the work iff the flag was clear. -/
theorem Position.takes (position : Position offerId n p) (going : p.ended = false)
    (takes : Takes offerId env w n) :
    Position offerId (n + 1) (p.step env w).1 ∧
      (p.step env w).2.state.processing? offerId =
        (w.state.processing? offerId).map TakenOffer.toggle ∧
      ((p.step env w).1.ended = false ↔ w.state.processing? offerId = some 0) := by
  obtain ⟨rfl, fault, found⟩ := takes
  cases position with
  | ended reply => cases going
  | attempting data =>
      obtain ⟨next, view, -, -, goesOn, refused⟩ := answering_beginPayout (P := P) offerId data
      obtain ⟨flag, found⟩ := Option.isSome_iff_exists.mp found
      obtain ⟨row, there, rfl⟩ := Option.map_eq_some_iff.mp found
      have toggled : (toggling offerId w.state).1 = some (TakenOffer.toggle row.processing) := by
        rw [toggling, there]
        rfl
      have acts : (Program.statement (I := coordinator P) (toggling offerId) next).step env w =
          (next (.ok (some (TakenOffer.toggle row.processing))),
            { w with state := (toggling offerId w.state).2, clock := w.clock + 1 }) := by
        simp only [Program.step, World.exec, fault, toggled]
      rw [view, acts]
      by_cases clear : row.processing = 0
      · have set : TakenOffer.toggle row.processing = 1 := if_pos clear
        rw [set, goesOn, found, clear]
        refine ⟨.assembling data, ?_, iff_of_true rfl rfl⟩
        rw [processing?_toggling, found, clear]
      · have unready := refused (TakenOffer.toggle row.processing) (by
          rw [TakenOffer.toggle, if_neg clear]
          decide)
        obtain ⟨reply, ends⟩ := unready.ended
        refine ⟨unready.position, processing?_toggling _, ?_⟩
        rw [ends, found]
        apply iff_of_false
        · intro goesOn
          cases goesOn
        · exact fun same => clear (Option.some.inj same)

variable {ι : Type} {i j : ι} {pool : Pool (coordinator P) ι Reply}

/-- The poll has taken the flag and has not given it back yet. -/
def Working (pool : Pool (coordinator P) ι Reply) (i : ι) : Prop :=
  (pool.calls i).ended = false ∧ 4 ≤ (pool.past i).length

/-- The next operation of the poll toggles the flag, in order to take it. -/
def Attempts (offerId : String) (env : Environment (coordinator P))
    (pool : Pool (coordinator P) ι Reply) (i : ι) : Prop :=
  (pool.calls i).ended = false ∧ Takes offerId env pool.world (pool.past i).length

instance (i : ι) : Decidable (Working pool i) := inferInstanceAs (Decidable (_ ∧ _))

/-- All calls are polls of the offer. -/
def Polling (offerId : String) (pool : Pool (coordinator P) ι Reply) : Prop :=
  ∀ i, Position offerId (pool.past i).length (pool.calls i)

/-- The flag is not clear. -/
def Taken (offerId : String) (pool : Pool (coordinator P) ι Reply) : Prop :=
  ∃ flag, pool.world.state.processing? offerId = some flag ∧ flag ≠ 0

theorem not_taken_iff (found : (pool.world.state.processing? offerId).isSome) :
    ¬ Taken offerId pool ↔ pool.world.state.processing? offerId = some 0 := by
  obtain ⟨flag, found⟩ := Option.isSome_iff_exists.mp found
  simp [Taken, found]

theorem taken_of_toggled {pool' : Pool (coordinator P) ι Reply}
    (found : (pool.world.state.processing? offerId).isSome)
    (toggled : pool'.world.state.processing? offerId =
      (pool.world.state.processing? offerId).map TakenOffer.toggle) :
    Taken offerId pool' ↔ ¬ Taken offerId pool := by
  rw [not_taken_iff found]
  obtain ⟨flag, found⟩ := Option.isSome_iff_exists.mp found
  rw [Taken, toggled, found]
  by_cases clear : flag = 0
  · simp [TakenOffer.toggle, clear]
  · simp [TakenOffer.toggle, clear]

variable [DecidableEq ι]

theorem working_step_of_ne (other : j ≠ i) : Working (pool.step env i) j ↔ Working pool j := by
  rw [Working, Pool.step_calls_of_ne other, Pool.step_past_of_ne other, Working]

theorem Polling.step (polling : Polling offerId pool) : Polling offerId (pool.step env i) := by
  cases ended : (pool.calls i).ended with
  | true =>
      rw [Pool.step_of_ended ended]
      exact polling
  | false =>
      apply Pool.forall_step fun _ n p => Position offerId n p
      · exact fun j _ => polling j
      · rw [ended]
        by_cases takes : Takes offerId env pool.world (pool.past i).length
        · exact ((polling i).takes ended takes).1
        · exact ((polling i).quiet ended takes).position

/-- What a step does that is no attempt. -/
theorem Polling.quiet (polling : Polling offerId pool) (quiet : ¬ Attempts offerId env pool i) :
    (Working (pool.step env i) i → Working pool i) ∧
      ((Working pool i → Working (pool.step env i) i) →
        (pool.step env i).world.state.processing? offerId =
          pool.world.state.processing? offerId) := by
  cases ended : (pool.calls i).ended with
  | true =>
      rw [Pool.step_of_ended ended]
      exact ⟨id, fun _ => rfl⟩
  | false =>
      obtain ⟨-, works, flag⟩ := (polling i).quiet ended fun takes => quiet ⟨ended, takes⟩
      rw [Working, Pool.step_calls_self, Pool.length_past_step_of_going ended, Working]
      refine ⟨fun ⟨going, late⟩ => ⟨ended, works going late⟩, fun keeps => ?_⟩
      rcases flag with same | ⟨late, done⟩
      · exact same
      · have going := (keeps ⟨ended, late⟩).1
        rw [done] at going
        cases going

/-- Polls of one offer as the users of a lock. -/
def processingLock (offerId : String) (env : Environment (coordinator P)) :
    ToggleLock (Pool (coordinator P) ι Reply) ι where
  step := Pool.step env
  inv := Polling offerId
  taken := Taken offerId
  holds := Working
  attempts := Attempts offerId env
  inv_step := Polling.step
  holds_other _ other := working_step_of_ne other
  not_holds _ attempts working := by
    have late := working.2
    rw [attempts.2.1] at late
    omega
  taken_attempt {_ i} polling attempts :=
    taken_of_toggled attempts.2.2.2 ((polling i).takes attempts.1 attempts.2).2.1
  holds_attempt {pool i} polling attempts := by
    rw [not_taken_iff attempts.2.2.2, ← ((polling i).takes attempts.1 attempts.2).2.2, Working,
      Pool.step_calls_self, Pool.length_past_step_of_going attempts.1, attempts.2.1]
    exact and_iff_left (by omega)
  holds_quiet polling quiet := (polling.quiet quiet).1
  taken_quiet polling quiet keeps := by
    rw [Taken, (polling.quiet quiet).2 keeps, Taken]

/-- Any number of polls of an offer, of which none has begun. -/
def pollsOf (offerId : String) (robohash : ι → String) (w : World (coordinator P)) :
    Pool (coordinator P) ι Reply :=
  Pool.start w fun i => (Request.pollFinalPayout ⟨robohash i, offerId⟩).serve P

/-- In every interleaving of polls of an offer: at most one at a time has the flag iff never two
    others attempt to take it while one has it. -/
theorem working_exclusive_iff (env : Environment (coordinator P)) (w : World (coordinator P))
    (offerId : String) (robohash : ι → String) (schedule : List ι) :
    (∀ earlier, earlier <+: schedule → ∀ i j,
        Working ((pollsOf offerId robohash w).play env earlier) i →
        Working ((pollsOf offerId robohash w).play env earlier) j → i = j) ↔
      ¬ (processingLock offerId env).Overtaken (pollsOf offerId robohash w) schedule := by
  have polling : (processingLock offerId env).inv (pollsOf offerId robohash w) :=
    fun i => .starting rfl
  have free (i : ι) : ¬ (processingLock offerId env).holds (pollsOf offerId robohash w) i := by
    rintro ⟨-, late⟩
    cases late
  exact ToggleLock.exclusive_iff polling free

end Lock

namespace Sample

/-- Three polls by the two traders, the second and the third by the taker. -/
def pollers : Fin 3 → String
  | 0 => makerPoll.robohashHex
  | 1 | 2 => takerPoll.robohashHex

end Sample

/-- The first poll assembles a transaction, the second is refused, and the third is at work
    together with the first. -/
theorem flag_taken_twice : ∃ i j, i ≠ j ∧
    Working ((pollsOf Sample.offerId Sample.pollers Sample.satisfied).play Sample.environment
      [0, 0, 0, 0, 1, 1, 1, 1, 2, 2, 2, 2]) i ∧
    Working ((pollsOf Sample.offerId Sample.pollers Sample.satisfied).play Sample.environment
      [0, 0, 0, 0, 1, 1, 1, 1, 2, 2, 2, 2]) j :=
  ⟨0, 2, by decide, by decide +kernel, by decide +kernel⟩

end TapTrade
