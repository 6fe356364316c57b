import TapTrade.Model.Frame
import TapTrade.Resumption.Staging

/-! # Calls that go on from look-ups

A handler of a trade looks at the taken offer, decides, looks again, and at last writes.
Each look is an operation of its own, after which the call ends with an error or goes on.
The lemmas here turn a look-up within a handler into that first operation, so that the
handler is its operations one after the other.
-/

namespace TapTrade

open Relational Resumption

/-- The part that the trader with the robohash has in the trade: true for the maker, false
    for the taker, none for anybody else. -/
def TakenOffer.role? (robohash : Bytes) (row : TakenOffer) : Option Bool :=
  if Column.blob row.robohashMaker = robohash then some true
  else if Column.blob row.robohashTaker = robohash then some false
  else none

/-- The error for anybody else. -/
def noTrader : Error := .message "Robohash does not match maker or taker"

section Lookup

variable {P : Platform} {α β : Type} (reply : Outcome RequestError α → Reply)

/-- The program that answers with the outcome of the call. -/
abbrev replying (c : Act P RequestError α) : Program (coordinator P) Reply := c.run.map reply

/-- The call ends with the error. -/
abbrev refusing (e : RequestError) : Program (coordinator P) Reply :=
  .done (reply (.error (.failed e)))

/-- Look up the taken offer and go on with it. -/
def lookingUp (offerId : String) (goesOn : TakenOffer → Program (coordinator P) Reply) :
    Program (coordinator P) Reply :=
  .statement (fun db => (db.takenOffers.find? offerId, db)) fun
    | .error _ => refusing reply (.database .database)
    | .ok none => refusing reply (.database .rowNotFound)
    | .ok (some row) => goesOn row

/-- Look up the taken offer that names the trader and go on if there is one. -/
def checkingTrader (offerId : String) (robohash : Bytes) (goesOn : Program (coordinator P) Reply) :
    Program (coordinator P) Reply :=
  .statement
    (fun db => ((db.takenOffers.find? offerId).filter fun row => (row.names robohash).holds, db)) fun
    | .error _ => refusing reply (.database .database)
    | .ok none => refusing reply .notFound
    | .ok (some _) => goesOn

/-- Write to the database and go on. -/
def writing (write : Database → Database) (goesOn : Program (coordinator P) Reply) :
    Program (coordinator P) Reply :=
  .statement (fun db => ((), write db)) fun
    | .error _ => refusing reply (.database .database)
    | .ok _ => goesOn

theorem lookingUp_congr {reply : Outcome RequestError α → Reply} {offerId : String}
    {goesOn goesOn' : TakenOffer → Program (coordinator P) Reply}
    (same : ∀ row, goesOn row = goesOn' row) :
    lookingUp reply offerId goesOn = lookingUp reply offerId goesOn' :=
  congrArg (lookingUp reply offerId) (funext same)

theorem hexDecode_eq {text : String} {bytes : Bytes} (decoded : Hex.decode text = some bytes) :
    (hexDecode text : Act P Error Bytes) = pure bytes := by
  rw [hexDecode, decoded]
  rfl

theorem hexDecode_eq_fail {text : String} (decoded : Hex.decode text = none) :
    (hexDecode text : Act P Error Bytes) = Call.fail .fromHex := by
  rw [hexDecode, decoded]
  rfl

/-- The role of the trader, by the robohash that its text stands for. -/
theorem isMakerInTakenOffers_eq {offerId robohashHex : String} {robohash : Bytes}
    (decoded : Hex.decode robohashHex = some robohash) :
    (isMakerInTakenOffers offerId robohashHex : Act P Error Bool) = (do
      let row ← fetchOne fun db => db.takenOffers.find? offerId
      Call.ofOption noTrader (row.role? robohash)) := by
  rw [isMakerInTakenOffers, hexDecode_eq decoded, pure_bind]
  apply bind_congr
  intro row
  rw [TakenOffer.role?]
  by_cases maker : Column.blob row.robohashMaker = robohash
  · rw [if_pos maker, decide_eq_true maker]
    rfl
  · rw [if_neg maker, decide_eq_false maker]
    by_cases taker : Column.blob row.robohashTaker = robohash
    · rw [if_pos taker, decide_eq_true taker]
      rfl
    · rw [if_neg taker, decide_eq_false taker]
      rfl

/-- A look-up and what its method makes of the offer. -/
theorem replying_fetchOne (offerId : String) (method : TakenOffer → Act P Error β)
    (rest : β → Act P RequestError α) :
    replying reply (Call.mapError .database
        (fetchOne (fun db => db.takenOffers.find? offerId) >>= method) >>= rest) =
      lookingUp reply offerId fun row =>
        replying reply (Call.mapError .database (method row) >>= rest) := by
  apply Program.statement_congr
  intro result
  rcases result with fault | (_ | row) <;> rfl

/-- The look-up of the role of the trader, and what the method makes of it. -/
theorem replying_isMakerInTakenOffers {offerId robohashHex : String} {robohash : Bytes}
    (decoded : Hex.decode robohashHex = some robohash) (method : Bool → Act P Error β)
    (rest : β → Act P RequestError α) :
    replying reply (Call.mapError .database
        (isMakerInTakenOffers offerId robohashHex >>= method) >>= rest) =
      lookingUp reply offerId fun row => match row.role? robohash with
        | some isMaker => replying reply (Call.mapError .database (method isMaker) >>= rest)
        | none => refusing reply (.database noTrader) := by
  rw [isMakerInTakenOffers_eq decoded, bind_assoc, replying_fetchOne]
  apply lookingUp_congr
  intro row
  cases row.role? robohash <;> rfl

/-- A write, with the error that it may end with. -/
theorem replying_execute (write : Database → Database) (rest : Unit → Act P RequestError α) :
    replying reply (Call.mapError .database (execute write) >>= rest) =
      writing reply write (replying reply (rest ())) := by
  apply Program.statement_congr
  intro result
  rcases result with fault | written <;> rfl

section Steps

variable {reply} (env : Environment (coordinator P)) (w : World (coordinator P))

theorem step_lookingUp (offerId : String) (goesOn : TakenOffer → Program (coordinator P) Reply) :
    (lookingUp reply offerId goesOn).step env w =
      (match env.fault w.clock, w.state.takenOffers.find? offerId with
        | some _, _ => refusing reply (.database .database)
        | none, none => refusing reply (.database .rowNotFound)
        | none, some row => goesOn row, World.tick w) := by
  simp only [lookingUp, Program.step, World.exec]
  cases env.fault w.clock with
  | some fault => rfl
  | none => cases w.state.takenOffers.find? offerId <;> rfl

theorem step_checkingTrader (offerId : String) (robohash : Bytes)
    (goesOn : Program (coordinator P) Reply) :
    (checkingTrader reply offerId robohash goesOn).step env w =
      (match env.fault w.clock,
          (w.state.takenOffers.find? offerId).filter fun row => (row.names robohash).holds with
        | some _, _ => refusing reply (.database .database)
        | none, none => refusing reply .notFound
        | none, some _ => goesOn, World.tick w) := by
  simp only [checkingTrader, Program.step, World.exec]
  cases env.fault w.clock with
  | some fault => rfl
  | none =>
      cases (w.state.takenOffers.find? offerId).filter fun row => (row.names robohash).holds <;> rfl

theorem step_writing (write : Database → Database) (goesOn : Program (coordinator P) Reply) :
    (writing reply write goesOn).step env w =
      match env.fault w.clock with
      | some _ => (refusing reply (.database .database), World.tick w)
      | none => (goesOn, { World.tick w with state := write w.state }) := by
  simp only [writing, Program.step, World.exec]
  cases env.fault w.clock <;> rfl

end Steps

section Stages

variable {reply} {S : Staging (coordinator P) Reply} {σ : Type} {env : Environment (coordinator P)}
  {w : World (coordinator P)} {start stage : S.Stage} {n : Nat}

/-- The stage after a look at the taken offer. -/
def look (refused : RequestError → σ) (offerId : String) (env : Environment (coordinator P))
    (w : World (coordinator P)) (goesOn : TakenOffer → σ) : σ :=
  match env.fault w.clock, w.state.takenOffers.find? offerId with
  | some _, _ => refused (.database .database)
  | none, none => refused (.database .rowNotFound)
  | none, some row => goesOn row

/-- The stage after the check that the offer names the trader. -/
def check (refused : RequestError → σ) (offerId : String) (robohash : Bytes)
    (env : Environment (coordinator P)) (w : World (coordinator P)) (goesOn : σ) : σ :=
  match env.fault w.clock,
      (w.state.takenOffers.find? offerId).filter fun row => (row.names robohash).holds with
  | some _, _ => refused (.database .database)
  | none, none => refused .notFound
  | none, some _ => goesOn

theorem look_of_found {refused : RequestError → σ} {offerId : String} {row : TakenOffer}
    (unfailing : env.fault w.clock = none) (found : w.state.takenOffers.find? offerId = some row)
    (goesOn : TakenOffer → σ) : look refused offerId env w goesOn = goesOn row := by
  rw [look, unfailing, found]

theorem check_of_found {refused : RequestError → σ} {offerId : String} {robohash : Bytes}
    {row : TakenOffer} (unfailing : env.fault w.clock = none)
    (found : w.state.takenOffers.find? offerId = some row)
    (names : (row.names robohash).holds = true) (goesOn : σ) :
    check refused offerId robohash env w goesOn = goesOn := by
  rw [check, unfailing, found, Option.filter_some, names]
  rfl

/-- A look at the taken offer leads to the stage after it. -/
theorem step_look {program : σ → Program (coordinator P) Reply}
    {refused : RequestError → σ} (refuses : ∀ e, program (refused e) = refusing reply e)
    {offerId : String} {goesOn : TakenOffer → σ} {p : Program (coordinator P) Reply}
    (looks : p = lookingUp reply offerId fun row => program (goesOn row)) :
    p.step env w = (program (look refused offerId env w goesOn), World.tick w) := by
  rw [looks, step_lookingUp, look]
  cases env.fault w.clock with
  | some fault => exact congrArg (·, _) (refuses _).symm
  | none =>
      cases w.state.takenOffers.find? offerId with
      | none => exact congrArg (·, _) (refuses _).symm
      | some row => rfl

/-- The check of the trader leads to the stage after it. -/
theorem step_check {program : σ → Program (coordinator P) Reply}
    {refused : RequestError → σ} (refuses : ∀ e, program (refused e) = refusing reply e)
    {offerId : String} {robohash : Bytes} {goesOn : σ} {p : Program (coordinator P) Reply}
    (checks : p = checkingTrader reply offerId robohash (program goesOn)) :
    p.step env w = (program (check refused offerId robohash env w goesOn), World.tick w) := by
  rw [checks, step_checkingTrader, check]
  cases env.fault w.clock with
  | some fault => exact congrArg (·, _) (refuses _).symm
  | none =>
      cases (w.state.takenOffers.find? offerId).filter fun row => (row.names robohash).holds with
      | none => exact congrArg (·, _) (refuses _).symm
      | some row => rfl

/-- The program runs into an error and has not changed anything. -/
def Refuses (S : Staging (coordinator P) Reply) (refused : RequestError → S.Stage)
    (env : Environment (coordinator P)) (w : World (coordinator P)) (start : S.Stage) : Prop :=
  ∃ e n, (S.program start).run env w = (S.program (refused e)).run env (w.later n)

/-- One look further: the program is refused, or it goes on with the offer. -/
theorem reaches_look {refused : RequestError → S.Stage} {offerId : String}
    {goesOn : TakenOffer → S.Stage} (reaches : S.Reaches env w start n stage)
    (looks : S.advance env (w.later n) stage = look refused offerId env (w.later n) goesOn)
    (reads : S.after env (w.later n) stage = w.later (n + 1)) :
    Refuses S refused env w start ∨ ∃ row, w.state.takenOffers.find? offerId = some row ∧
      S.Reaches env w start (n + 1) (goesOn row) := by
  have run := reaches.run_next
  rw [looks, reads, look] at run
  cases fault : env.fault (w.later n).clock with
  | some failure =>
      rw [fault] at run
      exact .inl ⟨_, _, run⟩
  | none =>
      rw [fault] at run
      cases found : w.state.takenOffers.find? offerId with
      | none =>
          have missing : (w.later n).state.takenOffers.find? offerId = none := found
          rw [missing] at run
          exact .inl ⟨_, _, run⟩
      | some row =>
          have there : (w.later n).state.takenOffers.find? offerId = some row := found
          rw [there] at run
          exact .inr ⟨row, rfl, run, Staging.unfailing_succ reaches.unfailing fault⟩

/-- The check of the trader: the program is refused, or the offer names the trader. -/
theorem reaches_check {refused : RequestError → S.Stage} {offerId : String} {robohash : Bytes}
    {goesOn : S.Stage} (reaches : S.Reaches env w start n stage)
    (checks : S.advance env (w.later n) stage =
      check refused offerId robohash env (w.later n) goesOn)
    (reads : S.after env (w.later n) stage = w.later (n + 1)) :
    Refuses S refused env w start ∨ ∃ row, w.state.takenOffers.find? offerId = some row ∧
      (row.names robohash).holds = true ∧ S.Reaches env w start (n + 1) goesOn := by
  have run := reaches.run_next
  rw [checks, reads, check] at run
  cases fault : env.fault (w.later n).clock with
  | some failure =>
      rw [fault] at run
      exact .inl ⟨_, _, run⟩
  | none =>
      rw [fault] at run
      cases found : ((w.later n).state.takenOffers.find? offerId).filter fun row =>
          (row.names robohash).holds with
      | none =>
          rw [found] at run
          exact .inl ⟨_, _, run⟩
      | some row =>
          rw [found] at run
          obtain ⟨inTable, names⟩ := Option.filter_eq_some_iff.mp found
          exact .inr ⟨row, inTable, names, run, Staging.unfailing_succ reaches.unfailing fault⟩

end Stages

end Lookup

end TapTrade
