import TapTrade.Model.Background
import TapTrade.Resumption.Typestate

/-! # Rules for the operations of a handler

What the operations of `Model/Interface` do when they run undisturbed, what they keep
under interference, and which of them leave the database as it is.
-/

namespace TapTrade

open Relational Resumption

variable {P : Platform} {ε α : Type}

section Undisturbed

open Call

variable {env : Environment (coordinator P)} {w w' : World (coordinator P)}

/-- A moment later. -/
def World.tick (w : World (coordinator P)) : World (coordinator P) :=
  { w with clock := w.clock + 1 }

@[simp] theorem tick_state : (World.tick w).state = w.state := rfl

@[simp] theorem tick_log : (World.tick w).log = w.log := rfl

theorem exec_fetchOptional (unfailing : env.fault w.clock = none) (read : Database → Option α) :
    exec env (fetchOptional read) w = (.ok (read w.state), World.tick w) := by
  rw [fetchOptional, Call.query, exec_statement, unfailing]
  rfl

theorem exec_fetchAll (unfailing : env.fault w.clock = none) (read : Database → List α) :
    exec env (fetchAll read) w = (.ok (read w.state), World.tick w) := by
  rw [fetchAll, Call.query, exec_statement, unfailing]
  rfl

theorem exec_fetchOne (unfailing : env.fault w.clock = none) (read : Database → Option α) :
    exec env (fetchOne read) w = match read w.state with
      | some a => (.ok a, World.tick w)
      | none => (.error (.failed .rowNotFound), World.tick w) := by
  rw [fetchOne, exec_bind, exec_fetchOptional unfailing]
  cases read w.state <;> rfl

theorem exec_execute (unfailing : env.fault w.clock = none) (write : Database → Database) :
    exec env (execute write) w = (.ok (), { World.tick w with state := write w.state }) := by
  rw [execute, Call.update, exec_statement, unfailing]
  rfl

theorem exec_execute_of_fault {fault : Unit} (fails : env.fault w.clock = some fault)
    (write : Database → Database) :
    exec env (execute write) w = (.error (.failed .database), World.tick w) := by
  rw [execute, Call.update, exec_statement, fails]
  rfl

theorem exec_hexDecode (text : String) :
    exec env (hexDecode text) w = match Hex.decode text with
      | some bytes => (.ok bytes, w)
      | none => (.error (.failed .fromHex), w) := by
  rw [hexDecode]
  cases Hex.decode text <;> rfl

theorem exec_ask_bind {β : Type} (query : Query P) (rest : query.Answer → Act P ε β) :
    exec env (ask query >>= rest) w =
      exec env (rest (env.answer w.clock query)) (w.ask env query).2 := by
  rw [exec_bind]
  rfl

theorem exec_fetchOne_of_found {read : Database → Option α} {a : α}
    (unfailing : env.fault w.clock = none) (found : read w.state = some a) :
    exec env (fetchOne read) w = (.ok a, World.tick w) := by
  rw [exec_fetchOne unfailing, found]

theorem exec_fetchAll_of_fault {fault : Unit} (fails : env.fault w.clock = some fault)
    (read : Database → List α) :
    exec env (fetchAll read) w = (.error (.failed .database), World.tick w) := by
  rw [fetchAll, Call.query, exec_statement, fails]
  rfl

theorem exec_fetchOne_of_fault {fault : Unit} (fails : env.fault w.clock = some fault)
    (read : Database → Option α) :
    exec env (fetchOne read) w = (.error (.failed .database), World.tick w) := by
  rw [fetchOne, fetchOptional, exec_bind, Call.query, exec_statement, fails]
  rfl

theorem unfailing_of_fetchOne {read : Database → Option α} {a : α}
    (fetched : exec env (fetchOne read) w = (.ok a, w')) : env.fault w.clock = none := by
  cases fault : env.fault w.clock with
  | none => rfl
  | some failure =>
      rw [exec_fetchOne_of_fault fault] at fetched
      cases fetched

theorem calm_fetchOne (read : Database → Option α) : (fetchOne read : Act P Error α).Calm :=
  Calm.bind (calm_statement _ _) fun _ => calm_ofOption _ _

theorem calm_tryAsk (query : Query P) (answer : query.Answer → Except Error α) :
    (tryAsk query answer).Calm :=
  Calm.bind (calm_ask (I := coordinator P) query) fun _ => calm_ofExcept _

theorem exec_tryAsk_of_ok {query : Query P} {answer : query.Answer → Except Error α} {a : α}
    (answered : answer (env.answer w.clock query) = .ok a) :
    exec env (tryAsk query answer) w = (.ok a, (w.ask env query).2) := by
  rw [tryAsk, exec_ask_bind, answered]
  rfl

theorem exec_tryAsk_ok {query : Query P} {answer : query.Answer → Except Error α} {a : α}
    (h : exec env (tryAsk query answer) w = (.ok a, w')) :
    answer (env.answer w.clock query) = .ok a ∧ w' = (w.ask env query).2 := by
  rw [tryAsk, exec_ask_bind] at h
  exact exec_ofExcept_ok env _ h

theorem exec_fetchOptional_ok {read : Database → Option α} {a : Option α}
    (h : exec env (fetchOptional read) w = (.ok a, w')) : a = read w.state ∧ w' = World.tick w := by
  rw [fetchOptional, Call.query, exec_statement] at h
  cases fault : env.fault w.clock with
  | some e => simp [fault] at h
  | none =>
      simp only [fault, Prod.mk.injEq, Except.ok.injEq] at h
      exact ⟨h.1.symm, h.2.symm⟩

theorem exec_fetchAll_ok {read : Database → List α} {rows : List α}
    (h : exec env (fetchAll read) w = (.ok rows, w')) :
    rows = read w.state ∧ w' = World.tick w := by
  rw [fetchAll, Call.query, exec_statement] at h
  cases fault : env.fault w.clock with
  | some e => simp [fault] at h
  | none =>
      simp only [fault, Prod.mk.injEq, Except.ok.injEq] at h
      exact ⟨h.1.symm, h.2.symm⟩

theorem exec_fetchOne_ok {read : Database → Option α} {a : α}
    (h : exec env (fetchOne read) w = (.ok a, w')) :
    read w.state = some a ∧ w' = World.tick w := by
  obtain ⟨row, w₁, fetched, rest⟩ := exec_bind_ok env w h
  obtain ⟨rfl, rfl⟩ := exec_fetchOptional_ok fetched
  cases found : read w.state with
  | none => simp [found, Call.ofOption] at rest
  | some b =>
      simp only [found, Call.ofOption, exec_pure, Prod.mk.injEq, Except.ok.injEq] at rest
      exact ⟨by rw [rest.1], rest.2.symm⟩

theorem exec_execute_ok {write : Database → Database} {u : Unit}
    (h : exec env (execute write) w = (.ok u, w')) :
    w' = { World.tick w with state := write w.state } := by
  rw [execute, Call.update, exec_statement] at h
  cases fault : env.fault w.clock with
  | some e => simp [fault] at h
  | none =>
      simp only [fault, Prod.mk.injEq] at h
      exact h.2.symm

theorem unfailing_of_execute {write : Database → Database} {u : Unit}
    (executed : exec env (execute write) w = (.ok u, w')) : env.fault w.clock = none := by
  cases fault : env.fault w.clock with
  | none => rfl
  | some failure =>
      rw [exec_execute_of_fault fault] at executed
      cases executed

theorem exec_hexDecode_ok {text : String} {bytes : Bytes}
    (h : exec env (hexDecode text) w = (.ok bytes, w')) :
    Hex.decode text = some bytes ∧ w' = w := by
  rw [exec_hexDecode] at h
  cases found : Hex.decode text with
  | none => simp [found] at h
  | some b =>
      simp only [found, Prod.mk.injEq, Except.ok.injEq] at h
      exact ⟨by rw [h.1], h.2.symm⟩

end Undisturbed

section Interfered

variable {inv : Invariant (coordinator P)} {condition : List Database → Prop}
  {post : Post (coordinator P) α} {past : List Database} {log : Log (coordinator P)}

theorem safe_fetchOptional {read : Database → Option α} {post : Post (coordinator P) (Option α)}
    (ends : ∀ db log', log <+: log' → inv.holds db log' → condition (past ++ [db]) →
      post (read db) (past ++ [db]) log') :
    (fetchOptional read).Safe inv condition post past log := Call.safe_query ends

theorem safe_fetchOne {read : Database → Option α}
    (ends : ∀ db log' a, log <+: log' → inv.holds db log' → condition (past ++ [db]) →
      read db = some a → post a (past ++ [db]) log') :
    (fetchOne read).Safe inv condition post past log := by
  refine Call.Safe.bind (safe_fetchOptional fun db log' grown holds met => ?_)
  exact Call.safe_ofOption fun a found log'' more =>
    ends db log'' a (grown.trans more) (inv.grows more holds) met found

theorem safe_execute {write : Database → Database} {post : Post (coordinator P) Unit}
    (ends : ∀ db log', log <+: log' → inv.holds db log' → condition (past ++ [db]) →
      inv.holds (write db) log' ∧ ∀ log'', log' <+: log'' → post () (past ++ [db]) log'') :
    (execute write).Safe inv condition post past log := Call.safe_update ends

theorem safe_hexDecode {text : String} {post : Post (coordinator P) Bytes}
    (ends : ∀ bytes log', Hex.decode text = some bytes → log <+: log' → post bytes past log') :
    (hexDecode text).Safe inv condition post past log :=
  Call.safe_ofOption fun bytes found log' grown => ends bytes log' found grown

theorem safe_tryAsk {query : Query P} {answer : query.Answer → Except Error α}
    (ends : ∀ db log' given a, log <+: log' → inv.holds db log' → condition (past ++ [db]) →
      answer given = .ok a → ∀ log'', log' ++ [⟨query, given, db⟩] <+: log'' →
        post a (past ++ [db]) log'') :
    (tryAsk query answer).Safe inv condition post past log := by
  refine Call.Safe.bind (Call.safe_ask fun db log' given grown holds met log'' more => ?_)
  exact Call.safe_ofExcept fun a found log₃ still =>
    ends db log' given a grown holds met found log₃ (more.trans still)

theorem safe_checked {overflows : Bool} {wrapped : UInt64} {post : Post (coordinator P) UInt64}
    (ends : ∀ log', log <+: log' → post wrapped past log') :
    (U64.checked overflows wrapped : Act P Error UInt64).Safe inv condition post past log := by
  unfold U64.checked
  split
  · exact Call.safe_panic
  · exact Call.safe_pure ends

theorem safe_sum {values : List UInt64} {total : UInt64} {post : Post (coordinator P) UInt64}
    (ends : ∀ sum log', log <+: log' → post sum past log') :
    (U64.sum total values : Act P Error UInt64).Safe inv condition post past log := by
  induction values generalizing total log with
  | nil => exact Call.safe_pure (ends total)
  | cons value values ih =>
      exact Call.Safe.bind (safe_checked fun log' grown =>
        ih fun sum log'' more => ends sum log'' (grown.trans more))

theorem safe_inputSum {data : EscrowPsbtConstructionData P} {post : Post (coordinator P) UInt64}
    (ends : ∀ sum log', log <+: log' → post sum past log') :
    data.inputSum.Safe inv condition post past log := by
  refine Call.Safe.bind (safe_sum fun sum log' grown => ?_)
  split
  · exact Call.safe_fail _
  · exact Call.safe_pure fun log'' more => ends sum log'' (grown.trans more)

theorem safe_changeAmount {inputSum escrowAmount escrowFee : UInt64}
    {post : Post (coordinator P) UInt64}
    (ends : ∀ change log', log <+: log' → post change past log') :
    (changeAmount inputSum escrowAmount escrowFee : Act P Error UInt64).Safe inv condition post past
      log := by
  refine Call.Safe.bind (safe_checked fun log₁ grown₁ => ?_)
  refine Call.Safe.bind (safe_checked fun log₂ grown₂ => safe_checked fun log₃ grown₃ => ?_)
  exact ends _ log₃ (grown₁.trans (grown₂.trans grown₃))

end Interfered

section Followed

variable {S : Typestate (coordinator P)} {n : Nat} {token : S.Token}
  {post : Nat → S.Token → α → Prop}

theorem follows_fetchOne {read : Database → Option α}
    (found : ∀ db a, read db = some a → ∃ token', S.writes n token db db token' ∧
      post (n + 1) token' a)
    (missing : ∀ db, read db = none → ∃ token', S.writes n token db db token') :
    (fetchOne read).Follows S post n token := by
  apply Call.Follows.bind
  apply Call.follows_statement
  intro db
  cases reads : read db with
  | none =>
      obtain ⟨token', writes⟩ := missing db reads
      exact ⟨token', writes, Call.follows_fail _⟩
  | some a =>
      obtain ⟨token', writes, ends⟩ := found db a reads
      exact ⟨token', writes, Call.follows_pure ends⟩

theorem follows_execute {write : Database → Database} {post : Nat → S.Token → Unit → Prop}
    (writes : ∀ db, ∃ token', S.writes n token db (write db) token' ∧ post (n + 1) token' ()) :
    (execute write).Follows S post n token := Call.follows_statement writes

theorem follows_tryAsk {query : Query P} {answer : query.Answer → Except Error α}
    (asks : ∀ given, ∃ token', S.asks token query given token' ∧
      ∀ a, answer given = .ok a → post (n + 1) token' a) :
    (tryAsk query answer).Follows S post n token := by
  apply Call.Follows.bind
  apply Call.follows_ask
  intro given
  obtain ⟨token', permitted, ends⟩ := asks given
  exact ⟨token', permitted, Call.follows_ofExcept ends⟩

theorem follows_hexDecode {text : String} {post : Nat → S.Token → Bytes → Prop}
    (ends : ∀ bytes, Hex.decode text = some bytes → post n token bytes) :
    (hexDecode text).Follows S post n token := Call.follows_ofOption ends

theorem follows_checked {overflows : Bool} {wrapped : UInt64}
    {post : Nat → S.Token → UInt64 → Prop} (ends : post n token wrapped) :
    (U64.checked overflows wrapped : Act P Error UInt64).Follows S post n token := by
  unfold U64.checked
  split
  · exact Call.follows_panic
  · exact Call.follows_pure ends

end Followed

section Silent

@[simp] theorem silent_fetchOptional (read : Database → Option α) :
    (fetchOptional read : Act P Error (Option α)).Silent := Call.silent_statement _ _

@[simp] theorem silent_execute (write : Database → Database) :
    (execute write : Act P Error Unit).Silent := Call.silent_statement _ _

@[simp] theorem silent_hexDecode (text : String) :
    (hexDecode text : Act P Error Bytes).Silent := Call.silent_ofOption _ _

@[simp] theorem silent_fetchOne (read : Database → Option α) :
    (fetchOne read : Act P Error α).Silent :=
  Call.Silent.bind (silent_fetchOptional read) fun _ => Call.silent_ofOption _ _

end Silent

section Frame

variable {allowed : Database → Database → Prop}

@[simp] theorem keeps_asking (query : Query P) :
    (ask query : Act P ε query.Answer).Keeps allowed := Call.keeps_ask _

@[simp] theorem keeps_tryAsk (query : Query P) (answer : query.Answer → Except Error α) :
    (tryAsk query answer).Keeps allowed :=
  Call.Keeps.bind (keeps_asking query) fun _ => Call.keeps_ofExcept _

@[simp] theorem keeps_hexDecode (text : String) :
    (hexDecode text : Act P Error Bytes).Keeps allowed := Call.keeps_ofOption _ _

theorem keeps_execute {write : Database → Database} (permitted : ∀ db, allowed db (write db)) :
    (execute write : Act P Error Unit).Keeps allowed := Call.keeps_update permitted

variable [Std.Refl allowed]

@[simp] theorem keeps_fetchOptional (read : Database → Option α) :
    (fetchOptional read : Act P Error (Option α)).Keeps allowed := Call.keeps_query _ _

@[simp] theorem keeps_fetchAll (read : Database → List α) :
    (fetchAll read : Act P Error (List α)).Keeps allowed := Call.keeps_query _ _

@[simp] theorem keeps_fetchOne (read : Database → Option α) :
    (fetchOne read : Act P Error α).Keeps allowed :=
  Call.Keeps.bind (keeps_fetchOptional read) fun _ => Call.keeps_ofOption _ _

end Frame

end TapTrade
