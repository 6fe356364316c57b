import TapTrade.Resumption.Interference

/-! # Which questions a program asks

`Program.Asks` is the frame rule for the log: every question of the program is one of the
allowed ones, so that the events of another kind all come from other programs.
-/

namespace Resumption

variable {I : Interface} {α β ε ε' : Type} {allowed : I.Query → Prop}

namespace Program

/-- Each question of the program is allowed. -/
def Asks (allowed : I.Query → Prop) : Program I α → Prop
  | .done _ => True
  | .statement _ next => ∀ result, (next result).Asks allowed
  | .ask query next => allowed query ∧ ∀ answer, (next answer).Asks allowed

theorem Asks.bind {p : Program I α} {g : α → Program I β} (first : p.Asks allowed)
    (second : ∀ a, (g a).Asks allowed) : (p.bind g).Asks allowed := by
  induction p with
  | done a => exact second a
  | statement effect next ih => exact fun result => ih result (first result)
  | ask query next ih => exact ⟨first.1, fun answer => ih answer (first.2 answer)⟩

/-- What is left of a program asks what the program asks. -/
theorem Asks.step {p : Program I α} (asks : p.Asks allowed) (env : Environment I) (w : World I) :
    (p.step env w).1.Asks allowed := by
  cases p with
  | done a => trivial
  | statement effect next => exact asks _
  | ask query next => exact asks.2 _

/-- A step adds at most one event to the log, which is an allowed question about the state. -/
theorem Asks.mem_log {p : Program I α} (asks : p.Asks allowed) {env : Environment I} {w : World I}
    {event : Event I} (member : event ∈ (p.step env w).2.log) :
    event ∈ w.log ∨ allowed event.query ∧ event.state = w.state := by
  cases p with
  | done a => exact .inl member
  | statement effect next =>
      rw [Program.step, World.exec_log] at member
      exact .inl member
  | ask query next =>
      rcases List.mem_append.mp member with earlier | new
      · exact .inl earlier
      · obtain rfl := List.mem_singleton.mp new
        exact .inr ⟨asks.1, rfl⟩

end Program

namespace Call

/-- Each question of the call is allowed. -/
def Asks (allowed : I.Query → Prop) (c : Call I ε α) : Prop := Program.Asks allowed c.run

variable {c : Call I ε α} {g : α → Call I ε β}

@[simp] theorem asks_pure (a : α) : (pure a : Call I ε α).Asks allowed := trivial

@[simp] theorem asks_fail (e : ε) : (fail e : Call I ε α).Asks allowed := trivial

@[simp] theorem asks_panic : (panic : Call I ε α).Asks allowed := trivial

@[simp] theorem asks_ofExcept (x : Except ε α) : (ofExcept x : Call I ε α).Asks allowed := by
  cases x <;> trivial

@[simp] theorem asks_ofOption (e : ε) (x : Option α) :
    (ofOption e x : Call I ε α).Asks allowed := by
  cases x <;> trivial

@[simp] theorem asks_unwrap (x : Option α) : (unwrap x : Call I ε α).Asks allowed := by
  cases x <;> trivial

@[simp] theorem asks_statement (fault : I.Fault → ε) (effect : I.State → α × I.State) :
    (statement fault effect).Asks allowed := by
  intro result
  cases result <;> trivial

theorem asks_ask {q : I.Query} (permitted : allowed q) :
    (ask q : Call I ε (I.Answer q)).Asks allowed := ⟨permitted, fun _ => trivial⟩

theorem Asks.bind (first : c.Asks allowed) (second : ∀ a, (g a).Asks allowed) :
    (c >>= g).Asks allowed := by
  refine Program.Asks.bind first fun result => ?_
  cases result with
  | ok a => exact second a
  | error e => trivial

@[simp] theorem asks_mapError {f : ε → ε'} (first : c.Asks allowed) :
    (c.mapError f).Asks allowed := Program.Asks.bind first fun _ => trivial

@[simp] theorem asks_ite {p : Prop} [Decidable p] {d : Call I ε α} (yes : c.Asks allowed)
    (no : d.Asks allowed) : (if p then c else d).Asks allowed := by
  split
  · exact yes
  · exact no

end Call

end Resumption
