import Mathlib.Logic.Basic
import Mathlib.Data.List.Basic

/-! # Programs over a shared state

A `Program` acts on a shared state one atomic statement at a time and asks its
environment for everything else. Because the rest of a program is an explicit
value, the same program can be run to its end without interference (`run`) or be
advanced by one operation at a time between the operations of others (`step`).

The environment answers by the tick of a global clock, so one `Environment` fixes
a whole run: every answer, and every statement that fails.
-/

namespace Resumption

/-- What programs share and what they may ask. -/
structure Interface where
  /-- The state that statements read and write. -/
  State : Type
  /-- Questions to the environment. -/
  Query : Type
  /-- The answers a question can get. -/
  Answer : Query → Type
  /-- The ways a statement can fail without having had any effect. -/
  Fault : Type

/-- A finite interaction: a value, an atomic statement or a question, with what
    follows for every result. -/
inductive Program (I : Interface) (α : Type) : Type 1 where
  | done (value : α)
  | statement {β : Type} (effect : I.State → β × I.State)
      (next : Except I.Fault β → Program I α)
  | ask (query : I.Query) (next : I.Answer query → Program I α)

variable {I : Interface} {α β γ : Type}

namespace Program

def bind (p : Program I α) (g : α → Program I β) : Program I β :=
  match p with
  | .done a => g a
  | .statement effect next => .statement effect fun r => (next r).bind g
  | .ask query next => .ask query fun a => (next a).bind g

instance : Monad (Program I) where
  pure := .done
  bind := bind

/-- The same program with its value changed at the end. -/
def map (f : α → β) (p : Program I α) : Program I β := p.bind fun a => .done (f a)

theorem bind_done (p : Program I α) : p.bind .done = p := by
  induction p with
  | done a => rfl
  | statement effect next ih => simp only [bind, ih]
  | ask query next ih => simp only [bind, ih]

theorem bind_assoc (p : Program I α) (g : α → Program I β) (k : β → Program I γ) :
    (p.bind g).bind k = p.bind fun a => (g a).bind k := by
  induction p with
  | done a => rfl
  | statement effect next ih => simp only [bind, ih]
  | ask query next ih => simp only [bind, ih]

theorem statement_congr {effect : I.State → β × I.State}
    {next next' : Except I.Fault β → Program I α} (same : ∀ result, next result = next' result) :
    statement effect next = statement effect next' :=
  congrArg (statement effect) (funext same)

theorem ask_congr {query : I.Query} {next next' : I.Answer query → Program I α}
    (same : ∀ answer, next answer = next' answer) : ask query next = ask query next' :=
  congrArg (ask query) (funext same)

instance : LawfulMonad (Program I) :=
  LawfulMonad.mk' _ bind_done (fun _ _ => rfl) bind_assoc

@[simp] theorem pure_eq (a : α) : (pure a : Program I α) = .done a := rfl

@[simp] theorem bind_eq (p : Program I α) (g : α → Program I β) : p >>= g = p.bind g := rfl

/-- The value of a program that has ended. -/
def result? : Program I α → Option α
  | .done a => some a
  | _ => none

end Program

/-- Answers and faults, by the tick at which they are due. -/
structure Environment (I : Interface) where
  answer : Nat → (query : I.Query) → I.Answer query
  fault : Nat → Option I.Fault

/-- No statement ever fails. -/
def Environment.Faultless (env : Environment I) : Prop := ∀ tick, env.fault tick = none

/-- A question that was asked, with its answer and the shared state at that moment. -/
structure Event (I : Interface) where
  query : I.Query
  answer : I.Answer query
  state : I.State

/-- The shared state, the questions asked so far (latest last) and the clock. -/
structure World (I : Interface) where
  state : I.State
  log : List (Event I)
  clock : Nat

namespace World

/-- A statement takes effect as a whole, or fails and changes nothing. -/
def exec (env : Environment I) (effect : I.State → β × I.State) (w : World I) :
    Except I.Fault β × World I :=
  match env.fault w.clock with
  | some fault => (.error fault, { w with clock := w.clock + 1 })
  | none => (.ok (effect w.state).1,
      { w with state := (effect w.state).2, clock := w.clock + 1 })

def ask (env : Environment I) (query : I.Query) (w : World I) : I.Answer query × World I :=
  (env.answer w.clock query,
    { w with
      log := w.log ++ [⟨query, env.answer w.clock query, w.state⟩]
      clock := w.clock + 1 })

@[simp] theorem exec_log (env : Environment I) (effect : I.State → β × I.State) (w : World I) :
    (w.exec env effect).2.log = w.log := by
  unfold exec
  split <;> rfl

@[simp] theorem exec_clock (env : Environment I) (effect : I.State → β × I.State) (w : World I) :
    (w.exec env effect).2.clock = w.clock + 1 := by
  unfold exec
  split <;> rfl

@[simp] theorem ask_clock (env : Environment I) (query : I.Query) (w : World I) :
    (w.ask env query).2.clock = w.clock + 1 := rfl

@[simp] theorem ask_state (env : Environment I) (query : I.Query) (w : World I) :
    (w.ask env query).2.state = w.state := rfl

theorem exec_state (env : Environment I) (effect : I.State → β × I.State) (w : World I) :
    (w.exec env effect).2.state = w.state ∨
      (w.exec env effect).1 = .ok (effect w.state).1 ∧
        (w.exec env effect).2.state = (effect w.state).2 := by
  unfold exec
  split
  · exact .inl rfl
  · exact .inr ⟨rfl, rfl⟩

theorem exec_reads {effect : I.State → β × I.State} (reads : ∀ state, (effect state).2 = state)
    (env : Environment I) (w : World I) : (w.exec env effect).2.state = w.state := by
  rcases w.exec_state env effect with same | ⟨-, changed⟩
  · exact same
  · exact changed.trans (reads w.state)

end World

namespace Program

/-- One operation of a program. A program that has ended stays as it is. -/
def step (env : Environment I) (p : Program I α) (w : World I) : Program I α × World I :=
  match p with
  | .done a => (.done a, w)
  | .statement effect next => (next (w.exec env effect).1, (w.exec env effect).2)
  | .ask query next => (next (w.ask env query).1, (w.ask env query).2)

/-- A program run to its end with nobody else acting in between. -/
def run (env : Environment I) : Program I α → World I → α × World I
  | .done a, w => (a, w)
  | .statement effect next, w => run env (next (w.exec env effect).1) (w.exec env effect).2
  | .ask query next, w => run env (next (w.ask env query).1) (w.ask env query).2

/-- A step leads towards the same end. -/
theorem run_step (env : Environment I) (p : Program I α) (w : World I) :
    run env (p.step env w).1 (p.step env w).2 = run env p w := by
  cases p <;> rfl

theorem run_bind (env : Environment I) (p : Program I α) (g : α → Program I β) (w : World I) :
    run env (p.bind g) w = run env (g (run env p w).1) (run env p w).2 := by
  induction p generalizing w with
  | done a => rfl
  | statement effect next ih => simp only [bind, run, ih]
  | ask query next ih => simp only [bind, run, ih]

end Program

end Resumption
