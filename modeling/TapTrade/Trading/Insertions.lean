import TapTrade.Locking.Cells
import TapTrade.Resumption.Staging
import TapTrade.Escrow.Broadcast
import TapTrade.Payout.Signatures

/-! # Whether what a trader submits is final

A signed escrow PSBT or a partial signature is refused if the trader has submitted one already.
The methods look up the role of the trader, look at its column, and write it, in a statement each.
-/

namespace TapTrade

open Relational Resumption Locking

/-- The columns that a trader may write once. -/
inductive SubmissionColumn where
  | signedEscrowPsbt
  | partialSig
  deriving DecidableEq, Repr

/-- What a trader of an offer submits in one of the columns. -/
structure Entry where
  offerId : String
  robohash : Bytes
  column : SubmissionColumn
  deriving DecidableEq, Repr

namespace SubmissionColumn

def value (isMaker : Bool) (row : TakenOffer) : SubmissionColumn → Option String
  | signedEscrowPsbt => row.signedPsbt isMaker
  | partialSig => row.partialSig isMaker

def set (isMaker : Bool) (content : String) : SubmissionColumn → Change TakenOffer
  | signedEscrowPsbt => TakenOffer.setSignedEscrowPsbt isMaker content
  | partialSig => TakenOffer.setPartialSig isMaker content

variable (column other : SubmissionColumn) (isMaker isMaker' : Bool) (content : String)
  (row : TakenOffer)

theorem keepsTrade_set : KeepsTrade (column.set isMaker content) := by
  cases column with
  | signedEscrowPsbt => exact TakenOffer.keepsTrade_setSignedEscrowPsbt isMaker content
  | partialSig => exact TakenOffer.keepsTrade_setPartialSig isMaker content

theorem value_set :
    column.value isMaker ((column.set isMaker content).apply row) = some content := by
  cases column <;> cases isMaker <;> rfl

variable {column other isMaker isMaker'}

theorem value_set_of_ne (different : column ≠ other ∨ isMaker ≠ isMaker') :
    other.value isMaker' ((column.set isMaker content).apply row) = other.value isMaker' row := by
  cases column <;> cases other <;> cases isMaker <;> cases isMaker' <;> simp at different <;> rfl

end SubmissionColumn

theorem TakenOffer.role?_inj {row : TakenOffer} {robohash robohash' : Bytes} {isMaker : Bool}
    (first : row.role? robohash = some isMaker) (second : row.role? robohash' = some isMaker) :
    robohash = robohash' := by
  simp only [role?] at first second
  split at first <;> split at second <;> grind

namespace Database

/-- The role of the trader in the offer, if there is the offer and it is one. -/
def role? (offerId : String) (robohash : Bytes) (db : Database) : Option Bool :=
  (db.takenOffers.find? offerId).bind (TakenOffer.role? robohash)

/-- What the trader has submitted. -/
def submitted? (entry : Entry) (db : Database) : Option String := do
  let row ← db.takenOffers.find? entry.offerId
  let isMaker ← row.role? entry.robohash
  entry.column.value isMaker row

variable {db : Database} {offerId : String} {robohash : Bytes} {isMaker : Bool}
  {column : SubmissionColumn} {content : String}

theorem submitted?_of_found {row : TakenOffer} (found : db.takenOffers.find? offerId = some row)
    (role : row.role? robohash = some isMaker) :
    db.submitted? ⟨offerId, robohash, column⟩ = column.value isMaker row := by
  simp [submitted?, found, role]

theorem role?_set (id : String) (robohash' : Bytes) :
    (db.updateTaken offerId (column.set isMaker content)).role? id robohash' =
      db.role? id robohash' := by
  rw [role?, role?, updateTaken, Table.find?_update]
  split
  · cases db.takenOffers.find? id with
    | none => rfl
    | some row => exact TakenOffer.role?_of_trade (column.keepsTrade_set _ _ row) robohash'
  · rfl

theorem submitted?_set (role : db.role? offerId robohash = some isMaker) :
    (db.updateTaken offerId (column.set isMaker content)).submitted? ⟨offerId, robohash, column⟩ =
      some content := by
  obtain ⟨row, found, isTrader⟩ := Option.bind_eq_some_iff.mp role
  have same := TakenOffer.role?_of_trade (column.keepsTrade_set isMaker content row) robohash
  simp [submitted?, updateTaken, found, same, isTrader, SubmissionColumn.value_set]

theorem submitted?_set_of_ne (role : db.role? offerId robohash = some isMaker) {entry : Entry}
    (other : entry ≠ ⟨offerId, robohash, column⟩) :
    (db.updateTaken offerId (column.set isMaker content)).submitted? entry =
      db.submitted? entry := by
  obtain ⟨row, found, isTrader⟩ := Option.bind_eq_some_iff.mp role
  obtain ⟨id, robohash', column'⟩ := entry
  simp only [submitted?, updateTaken, Table.find?_update]
  split
  case isFalse => rfl
  case isTrue same =>
    subst same
    have kept := TakenOffer.role?_of_trade (column.keepsTrade_set isMaker content row) robohash'
    rw [found, Option.map_some]
    change (TakenOffer.role? robohash' _).bind _ = (TakenOffer.role? robohash' row).bind _
    rw [kept]
    cases role' : row.role? robohash' with
    | none => rfl
    | some isMaker' =>
        -- two traders of one offer with the same role are the same trader
        apply SubmissionColumn.value_set_of_ne
        by_contra same
        obtain ⟨sameColumn, sameRole⟩ := not_or.mp same
        obtain rfl := not_not.mp sameColumn
        obtain rfl := not_not.mp sameRole
        exact other (by rw [TakenOffer.role?_inj role' isTrader])

end Database

section Looking

variable {P : Platform} {α : Type}

/-- Look up the taken offer and go on with it. -/
def looking (offerId : String)
    (goesOn : TakenOffer → Program (coordinator P) (Outcome Error α)) :
    Program (coordinator P) (Outcome Error α) :=
  .statement (fun db => (db.takenOffers.find? offerId, db)) fun
    | .error _ => .done (.error (.failed .database))
    | .ok none => .done (.error (.failed .rowNotFound))
    | .ok (some row) => goesOn row

theorem run_fetchOne (offerId : String) (method : TakenOffer → Act P Error α) :
    (fetchOne (fun db => db.takenOffers.find? offerId) >>= method).run =
      looking offerId fun row => (method row).run := by
  apply Program.statement_congr
  intro result
  rcases result with fault | (_ | row) <;> rfl

/-- The look-up fails, or the call goes on with the offer. -/
theorem step_looking {offerId : String}
    {goesOn : TakenOffer → Program (coordinator P) (Outcome Error α)}
    {env : Environment (coordinator P)} {w : World (coordinator P)}
    {motive : Program (coordinator P) (Outcome Error α) → Database → Prop}
    (fails : ∀ abort, motive (.done (.error abort)) w.state)
    (finds : ∀ row, w.state.takenOffers.find? offerId = some row → motive (goesOn row) w.state) :
    motive ((looking offerId goesOn).step env w).1
      ((looking offerId goesOn).step env w).2.state := by
  apply Program.step_statement (motive := motive)
  · exact fun fault => fails _
  · cases found : w.state.takenOffers.find? offerId with
    | none => exact fails _
    | some row => exact finds row found

end Looking

/-- A call of `insert_signed_escrow_psbt` or of `insert_partial_sig`. -/
structure Insertion where
  column : SubmissionColumn
  content : String
  offerIdHex : String
  robohashHex : String
  deriving DecidableEq, Repr

namespace Insertion

variable {P : Platform} (c : Insertion)

/-- What the trader whose call it is submits. -/
def target? : Option Entry := do
  let robohash ← Hex.decode c.robohashHex
  return ⟨c.offerIdHex, robohash, c.column⟩

/-- Whether the call has reported success. -/
def call : Act P Error Bool :=
  match c.column with
  | .signedEscrowPsbt => insertSignedEscrowPsbt ⟨c.content, c.offerIdHex, c.robohashHex⟩
  | .partialSig => do
      insertPartialSig c.content c.offerIdHex c.robohashHex
      return true

/-- The answer to a trader who has submitted something already. -/
def refuse : Act P Error Bool :=
  match c.column with
  | .signedEscrowPsbt => return false
  | .partialSig => Call.fail (.message "Partial sig already submitted")

def store (isMaker : Bool) : Act P Error Bool := do
  execute fun db => db.updateTaken c.offerIdHex (c.column.set isMaker c.content)
  return true

def check (isMaker : Bool) : Act P Error Bool := do
  let status ← fetchOne fun db => db.takenOffers.find? c.offerIdHex
  if (c.column.value isMaker status).isSome then
    c.refuse
  else
    c.store isMaker

theorem call_eq : (c.call : Act P Error Bool) = (do
    let isMaker ← isMakerInTakenOffers c.offerIdHex c.robohashHex
    c.check isMaker) := by
  obtain ⟨column, content, offerIdHex, robohashHex⟩ := c
  cases column with
  | signedEscrowPsbt =>
      apply bind_congr
      intro isMaker
      cases isMaker <;> rfl
  | partialSig =>
      simp only [call, insertPartialSig, bind_assoc]
      apply bind_congr
      intro isMaker
      apply bind_congr
      intro status
      have there : (if isMaker then status.musigPartialSigHexMaker.isSome
          else status.musigPartialSigHexTaker.isSome) = (status.partialSig isMaker).isSome := by
        cases isMaker <;> rfl
      rw [there, SubmissionColumn.value]
      split <;> rfl

/-- Where a call stands that has made `n` operations. The role that it has found is the role of
    the trader in the database. -/
inductive Stands (db : Database) : Nat → Program (coordinator P) (Outcome Error Bool) → Prop
  | identifying {robohash : Bytes} (decoded : Hex.decode c.robohashHex = some robohash) :
      Stands db 0 c.call.run
  | checking {robohash : Bytes} {isMaker : Bool}
      (decoded : Hex.decode c.robohashHex = some robohash)
      (role : db.role? c.offerIdHex robohash = some isMaker) : Stands db 1 (c.check isMaker).run
  | storing {robohash : Bytes} {isMaker : Bool}
      (decoded : Hex.decode c.robohashHex = some robohash)
      (role : db.role? c.offerIdHex robohash = some isMaker) : Stands db 2 (c.store isMaker).run
  | ended {n : Nat} (outcome : Outcome Error Bool) : Stands db n (.done outcome)

theorem stands_call (db : Database) : c.Stands db 0 (c.call (P := P)).run := by
  cases decoded : Hex.decode c.robohashHex with
  | some robohash => exact .identifying decoded
  | none =>
      rw [call_eq, isMakerInTakenOffers, hexDecode_eq_fail decoded]
      exact .ended _

variable {c} {db db' : Database} {n : Nat} {p : Program (coordinator P) (Outcome Error Bool)}
  {env : Environment (coordinator P)} {w : World (coordinator P)}

theorem Stands.congr (same : ∀ id robohash, db'.role? id robohash = db.role? id robohash)
    (stands : c.Stands db n p) : c.Stands db' n p := by
  cases stands with
  | identifying decoded => exact .identifying decoded
  | checking decoded role => exact .checking decoded ((same _ _).trans role)
  | storing decoded role => exact .storing decoded ((same _ _).trans role)
  | ended outcome => exact .ended outcome

/-- What a step that writes nothing leads to. -/
structure Reads (c : Insertion) (before : Database) (n : Nat)
    (p : Program (coordinator P) (Outcome Error Bool)) (after : Database) : Prop where
  same : after = before
  stands : c.Stands before n p
  silent : p.result? ≠ some (.ok true)
  empty : p.ended = false → n = 2 → ∀ entry, c.target? = some entry →
    before.submitted? entry = none

theorem Reads.refused (before : Database) (n : Nat) {outcome : Outcome Error Bool}
    (unsuccessful : outcome ≠ .ok true) :
    c.Reads before n (.done outcome : Program (coordinator P) (Outcome Error Bool)) before :=
  ⟨rfl, .ended outcome, fun same => unsuccessful (Option.some.inj same), nofun⟩

theorem refuse_eq (c : Insertion) : ∃ outcome : Outcome Error Bool, outcome ≠ .ok true ∧
    (c.refuse (P := P)).run = .done outcome := by
  rw [refuse]
  cases c.column with
  | signedEscrowPsbt => exact ⟨.ok false, nofun, rfl⟩
  | partialSig => exact ⟨.error _, nofun, rfl⟩

/-- The look at the role of the trader. -/
theorem run_call {robohash : Bytes} (decoded : Hex.decode c.robohashHex = some robohash) :
    (c.call (P := P)).run = looking c.offerIdHex fun row =>
      match row.role? robohash with
      | some isMaker => (c.check isMaker).run
      | none => .done (.error (.failed noTrader)) := by
  rw [call_eq, isMakerInTakenOffers_eq decoded, bind_assoc, run_fetchOne]
  apply congrArg (looking c.offerIdHex)
  funext row
  cases row.role? robohash <;> rfl

theorem step_store (isMaker : Bool) : (c.store (P := P) isMaker).run.step env w =
    match env.fault w.clock with
    | some _ => (.done (.error (.failed .database)), World.tick w)
    | none => (.done (.ok true), { World.tick w with
        state := w.state.updateTaken c.offerIdHex (c.column.set isMaker c.content) }) := by
  change ((Program.statement _ _).step env w : _ × _) = _
  simp only [Program.step, World.exec]
  cases env.fault w.clock <;> rfl

/-- A step that writes nothing. -/
theorem Stands.reads (stands : c.Stands w.state n p) (going : p.ended = false)
    (quiet : ¬ (n = 2 ∧ env.fault w.clock = none)) :
    c.Reads w.state (n + 1) (p.step env w).1 (p.step env w).2.state := by
  cases stands with
  | ended outcome => cases going
  | @identifying robohash decoded =>
      rw [run_call decoded]
      apply step_looking (motive := fun p after => c.Reads w.state 1 p after)
      · exact fun abort => .refused _ _ nofun
      · intro row found
        have role : w.state.role? c.offerIdHex robohash = row.role? robohash := by
          rw [Database.role?, found]
          rfl
        cases isTrader : row.role? robohash with
        | none => exact .refused _ _ nofun
        | some isMaker =>
            exact ⟨rfl, .checking decoded (role.trans isTrader), nofun, nofun⟩
  | @checking robohash isMaker decoded role =>
      rw [check, run_fetchOne]
      apply step_looking (motive := fun p after => c.Reads w.state 2 p after)
      · exact fun abort => .refused _ _ nofun
      · intro row found
        cases stored : c.column.value isMaker row with
        | some content =>
            obtain ⟨outcome, unsuccessful, ends⟩ := refuse_eq (P := P) c
            rw [Option.isSome_some, if_pos rfl, ends]
            exact .refused _ _ unsuccessful
        | none =>
            refine ⟨rfl, .storing decoded role, nofun, fun _ _ entry same => ?_⟩
            rw [target?, decoded] at same
            cases same
            rw [Database.role?, found] at role
            exact (Database.submitted?_of_found found role).trans stored
  | @storing robohash isMaker decoded role =>
      have fails : ∃ fault, env.fault w.clock = some fault := by
        cases fault : env.fault w.clock with
        | none => exact absurd ⟨rfl, fault⟩ quiet
        | some failure => exact ⟨failure, rfl⟩
      obtain ⟨fault, fails⟩ := fails
      rw [step_store, fails]
      exact .refused _ _ nofun

/-- The call writes what it submits and reports success. -/
theorem Stands.writes (stands : c.Stands w.state 2 p) (going : p.ended = false)
    (unfailing : env.fault w.clock = none) :
    ∃ entry isMaker, c.target? = some entry ∧
      w.state.role? entry.offerId entry.robohash = some isMaker ∧
      (p.step env w).1 = .done (.ok true) ∧
      (p.step env w).2.state =
        w.state.updateTaken entry.offerId (entry.column.set isMaker c.content) := by
  cases stands with
  | ended outcome => cases going
  | @storing robohash isMaker decoded role =>
      rw [step_store, unfailing]
      refine ⟨⟨c.offerIdHex, robohash, c.column⟩, isMaker, ?_, role, rfl, rfl⟩
      rw [target?, decoded]
      rfl

end Insertion

section Once

variable {P : Platform} {ι : Type} {calls : ι → Insertion} {env : Environment (coordinator P)}
  {pool : Pool (coordinator P) ι (Outcome Error Bool)} {i j : ι} {entry : Entry}

/-- Any number of calls, of which none has begun. -/
def insertionsOf (calls : ι → Insertion) (w : World (coordinator P)) :
    Pool (coordinator P) ι (Outcome Error Bool) :=
  Pool.start w fun i => (calls i).call.run

/-- The call has found that the trader has not submitted anything, and goes on to write. -/
def Intends (calls : ι → Insertion) (pool : Pool (coordinator P) ι (Outcome Error Bool)) (i : ι)
    (entry : Entry) : Prop :=
  (calls i).target? = some entry ∧ (pool.calls i).ended = false ∧ (pool.past i).length = 2

/-- The next operation of the call writes what the trader submits. -/
def WritesEntry (calls : ι → Insertion) (env : Environment (coordinator P))
    (pool : Pool (coordinator P) ι (Outcome Error Bool)) (i : ι) (entry : Entry) : Prop :=
  Intends calls pool i entry ∧ env.fault pool.world.clock = none

/-- The call has reported success. -/
def ReportsEntry (calls : ι → Insertion) (pool : Pool (coordinator P) ι (Outcome Error Bool))
    (i : ι) (entry : Entry) : Prop :=
  (calls i).target? = some entry ∧ (pool.calls i).result? = some (.ok true)

/-- All calls are calls of the two methods. -/
def Underway (calls : ι → Insertion) (pool : Pool (coordinator P) ι (Outcome Error Bool)) :
    Prop :=
  ∀ i, (calls i).Stands pool.world.state (pool.past i).length (pool.calls i)

variable [DecidableEq ι]

/-- What one operation of a call does. -/
inductive InsertionStep (calls : ι → Insertion) (env : Environment (coordinator P))
    (pool : Pool (coordinator P) ι (Outcome Error Bool)) (i : ι) : Prop
  | ended (done : (pool.calls i).ended = true) (same : pool.step env i = pool)
  | read (going : (pool.calls i).ended = false)
      (quiet : ∀ entry, ¬ WritesEntry calls env pool i entry)
      (reads : (calls i).Reads pool.world.state ((pool.past i).length + 1)
        ((pool.step env i).calls i) (pool.step env i).world.state)
  | write {entry : Entry} {isMaker : Bool} (writes : WritesEntry calls env pool i entry)
      (role : pool.world.state.role? entry.offerId entry.robohash = some isMaker)
      (ends : (pool.step env i).calls i = .done (.ok true))
      (stores : (pool.step env i).world.state = pool.world.state.updateTaken entry.offerId
        (entry.column.set isMaker (calls i).content))

theorem Underway.step_cases (underway : Underway calls pool) (env : Environment (coordinator P))
    (i : ι) :
    InsertionStep calls env pool i := by
  have stands := underway i
  cases going : (pool.calls i).ended with
  | true => exact .ended going (Pool.step_of_ended going env)
  | false =>
      by_cases write : (pool.past i).length = 2 ∧ env.fault pool.world.clock = none
      · obtain ⟨third, unfailing⟩ := write
        rw [third] at stands
        obtain ⟨entry, isMaker, submits, role, ends, stores⟩ := stands.writes going unfailing
        exact .write ⟨⟨submits, going, third⟩, unfailing⟩ role (Pool.step_calls_self.trans ends)
          stores
      · refine .read going (fun entry writes => write ⟨writes.1.2.2, writes.2⟩) ?_
        rw [Pool.step_calls_self]
        exact stands.reads going write

theorem Underway.role?_step (underway : Underway calls pool) (env : Environment (coordinator P))
    (i : ι) (id : String) (robohash : Bytes) :
    (pool.step env i).world.state.role? id robohash = pool.world.state.role? id robohash := by
  cases underway.step_cases env i with
  | ended done same => rw [same]
  | read going quiet reads => rw [reads.same]
  | write writes role ends stores =>
      rw [stores]
      exact Database.role?_set id robohash

theorem Underway.step (underway : Underway calls pool) :
    Underway calls (pool.step env i) := by
  have roles := underway.role?_step env i
  intro j
  by_cases other : j = i
  · subst other
    cases underway.step_cases env j with
    | ended done same =>
        rw [same]
        exact underway j
    | read going quiet reads =>
        rw [Pool.length_past_step_of_going going]
        exact reads.stands.congr roles
    | write writes role ends stores =>
        rw [ends]
        exact .ended _
  · rw [Pool.step_calls_of_ne other, Pool.step_past_of_ne other]
    exact (underway j).congr roles

theorem ended_of_result? {α : Type} {p : Program (coordinator P) α} {a : α}
    (result : p.result? = some a) : p.ended = true := by
  cases p with
  | done b => rfl
  | statement effect next => cases result
  | ask query next => cases result

/-- What traders submit as cells that are tested before they are written. -/
def submissions (calls : ι → Insertion) (env : Environment (coordinator P)) :
    TestedCells (Pool (coordinator P) ι (Outcome Error Bool)) ι Entry String where
  step := Pool.step env
  inv := Underway calls
  value pool entry := pool.world.state.submitted? entry
  intends := Intends calls
  writes := WritesEntry calls env
  wrote := ReportsEntry calls
  inv_step := Underway.step
  intends_of_writes writes := writes.1
  not_wrote_of_intends intends reports := by
    have ended := ended_of_result? reports.2
    rw [intends.2.1] at ended
    cases ended
  intends_other other := by
    rw [Intends, Pool.step_calls_of_ne other, Pool.step_past_of_ne other, Intends]
  wrote_other other := by
    rw [ReportsEntry, Pool.step_calls_of_ne other, ReportsEntry]
  empty_of_intends {pool i entry} underway intends := by
    obtain ⟨submits, goesOn, third⟩ := intends
    cases underway.step_cases env i with
    | ended done same =>
        rw [same, done] at goesOn
        cases goesOn
    | read going quiet reads =>
        rw [Pool.length_past_step_of_going going] at third
        rw [reads.same]
        exact reads.empty goesOn third entry submits
    | write writes role ends stores =>
        rw [ends] at goesOn
        cases goesOn
  value_quiet {pool i entry} underway quiet := by
    cases underway.step_cases env i with
    | ended done same => rw [same]
    | read going quiet reads => rw [reads.same]
    | write writes role ends stores =>
        rw [stores]
        apply Database.submitted?_set_of_ne role
        rintro rfl
        exact quiet writes
  value_written {pool i entry} underway written := by
    cases underway.step_cases env i with
    | ended done same => cases done.symm.trans written.1.2.1
    | read going quiet reads => exact absurd written (quiet entry)
    | @write entry' _ writes role ends stores =>
        obtain rfl : entry' = entry := Option.some.inj (writes.1.1.symm.trans written.1.1)
        rw [stores, Database.submitted?_set role]
        rfl
  wrote_step {pool i entry} underway := by
    cases underway.step_cases env i with
    | ended done same =>
        rw [same]
        refine (or_iff_left fun writes => ?_).symm
        cases done.symm.trans writes.1.2.1
    | read going quiet reads =>
        refine iff_of_false (fun reports => reads.silent reports.2) ?_
        rintro (reports | writes)
        · cases going.symm.trans (ended_of_result? reports.2)
        · exact quiet entry writes
    | @write entry' _ writes role ends stores =>
        constructor
        · rintro ⟨submits, -⟩
          obtain rfl : entry' = entry := Option.some.inj (writes.1.1.symm.trans submits)
          exact .inr writes
        · rintro (reports | written)
          · cases writes.1.2.1.symm.trans (ended_of_result? reports.2)
          · exact ⟨written.1.1, congrArg Program.result? ends⟩

/-- The next operation, if it is a write, finds that the trader has still not submitted anything. -/
def FindsUnsubmitted (calls : ι → Insertion) (env : Environment (coordinator P))
    (pool : Pool (coordinator P) ι (Outcome Error Bool)) (i : ι) : Prop :=
  ∀ entry, WritesEntry calls env pool i entry → pool.world.state.submitted? entry = none

/-- The next operation leaves everything that traders have submitted. -/
def KeepsSubmitted (env : Environment (coordinator P))
    (pool : Pool (coordinator P) ι (Outcome Error Bool)) (i : ι) : Prop :=
  ∀ entry content, pool.world.state.submitted? entry = some content →
    (pool.step env i).world.state.submitted? entry = some content

/-- In every interleaving of the two methods: what is submitted never changes and at most one call
    reports success to a trader for a column iff every write finds the column still empty. -/
theorem insertions_once_iff (env : Environment (coordinator P)) (w : World (coordinator P))
    (calls : ι → Insertion) (schedule : List ι) :
    (Course.Throughout (Pool.step env) (KeepsSubmitted env) (insertionsOf calls w) schedule ∧
        ∀ entry i j,
          ReportsEntry calls ((insertionsOf calls w).play env schedule) i entry →
          ReportsEntry calls ((insertionsOf calls w).play env schedule) j entry → i = j) ↔
      Course.Throughout (Pool.step env) (FindsUnsubmitted calls env) (insertionsOf calls w)
        schedule := by
  have underway : (submissions calls env).inv (insertionsOf calls w) :=
    fun i => (calls i).stands_call w.state
  apply TestedCells.once_iff underway
  · rintro i entry ⟨-, -, third⟩
    cases third
  · rintro i entry ⟨submits, reports⟩
    change (calls i).call.run.result? = _ at reports
    cases decoded : Hex.decode (calls i).robohashHex with
    | none =>
        rw [Insertion.target?, decoded] at submits
        cases submits
    | some robohash =>
        rw [Insertion.run_call decoded] at reports
        cases reports

end Once

namespace Sample

/-- The maker submits two different PSBTs. -/
def resubmission (again : Bool) : Insertion where
  column := .signedEscrowPsbt
  content := if again then "70736274ff02" else "70736274ff01"
  offerIdHex := offerId
  robohashHex := makerBond.robohashHex

def makerEntry : Entry := ⟨offerId, makerRobohash, .signedEscrowPsbt⟩

end Sample

/-- Both calls find that the maker has not submitted a PSBT. The first is told that its PSBT is
    taken, and the second replaces it. -/
theorem psbt_replaced :
    ((insertionsOf Sample.resubmission (Sample.trading Sample.freshTrade)).play Sample.environment
        [false, false, true, true, false]).world.state.submitted? Sample.makerEntry =
      some "70736274ff01" ∧
    ((insertionsOf Sample.resubmission (Sample.trading Sample.freshTrade)).play Sample.environment
        [false, false, true, true, false, true]).world.state.submitted? Sample.makerEntry =
      some "70736274ff02" ∧
    ∀ again, ReportsEntry Sample.resubmission
      ((insertionsOf Sample.resubmission (Sample.trading Sample.freshTrade)).play
        Sample.environment [false, false, true, true, false, true]) again Sample.makerEntry := by
  refine ⟨by decide +kernel, by decide +kernel, fun again => ?_⟩
  cases again with
  | false => exact ⟨by decide +kernel, rfl⟩
  | true => exact ⟨by decide +kernel, rfl⟩

end TapTrade
