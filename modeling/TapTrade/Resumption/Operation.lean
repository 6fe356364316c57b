import TapTrade.Resumption.Interference

/-! # Operations by number

`Timed` counts the operations of a program up to its value, so that one can speak of the
n-th operation of a call and of the call that is about to make it.
-/

namespace Resumption

variable {I : Interface} {ι α β ε ε' : Type}

namespace Program

/-- The value of the program, and the number of operations made when it ends, are as `ends`
    says; `n` of them have been made already. -/
def Timed (ends : Nat → α → Prop) (n : Nat) : Program I α → Prop
  | .done a => ends n a
  | .statement _ next => ∀ result, (next result).Timed ends (n + 1)
  | .ask _ next => ∀ answer, (next answer).Timed ends (n + 1)

theorem timed_bind {ends : Nat → β → Prop} {n : Nat} {p : Program I α} {g : α → Program I β} :
    (p.bind g).Timed ends n ↔ p.Timed (fun n a => (g a).Timed ends n) n := by
  induction p generalizing n with
  | done a => rfl
  | statement effect next ih => exact forall_congr' fun result => ih result
  | ask query next ih => exact forall_congr' fun answer => ih answer

theorem timed_congr {ends ends' : Nat → α → Prop} {n : Nat} {p : Program I α}
    (same : ∀ n a, ends n a ↔ ends' n a) : p.Timed ends n ↔ p.Timed ends' n := by
  induction p generalizing n with
  | done a => exact same n a
  | statement effect next ih => exact forall_congr' fun result => ih result
  | ask query next ih => exact forall_congr' fun answer => ih answer

/-- One step of a timed program that has not ended. -/
theorem Timed.step {ends : Nat → α → Prop} {n : Nat} {p : Program I α} (timed : p.Timed ends n)
    (going : p.ended = false) (env : Environment I) (w : World I) :
    (p.step env w).1.Timed ends (n + 1) := by
  cases p with
  | done a => cases going
  | statement effect next => exact timed _
  | ask query next => exact timed _

/-- A timed program that is run to its end has made as many operations as the clock tells. -/
theorem Timed.run {ends : Nat → α → Prop} {n : Nat} {p : Program I α} (timed : p.Timed ends n)
    (env : Environment I) (w : World I) :
    ∃ k, (p.run env w).2.clock = w.clock + k ∧ ends (n + k) (p.run env w).1 := by
  induction p generalizing n w with
  | done a => exact ⟨0, rfl, timed⟩
  | statement effect next ih =>
      obtain ⟨k, clock, holds⟩ := ih (w.exec env effect).1 (timed _) (w.exec env effect).2
      refine ⟨k + 1, clock.trans ?_, by rwa [Nat.add_comm k, ← Nat.add_assoc]⟩
      rw [World.exec_clock, Nat.add_assoc, Nat.add_comm k]
  | ask query next ih =>
      obtain ⟨k, clock, holds⟩ := ih (w.ask env query).1 (timed _) (w.ask env query).2
      refine ⟨k + 1, clock.trans ?_, by rwa [Nat.add_comm k, ← Nat.add_assoc]⟩
      rw [World.ask_clock, Nat.add_assoc, Nat.add_comm k]

/-- The program makes at most `n` operations. -/
def Bounded : Program I α → Nat → Prop
  | .done _, _ => True
  | .statement _ next, n => ∃ k, n = k + 1 ∧ ∀ result, (next result).Bounded k
  | .ask _ next, n => ∃ k, n = k + 1 ∧ ∀ answer, (next answer).Bounded k

theorem Bounded.mono {p : Program I α} {m n : Nat} (bounded : p.Bounded m) (fewer : m ≤ n) :
    p.Bounded n := by
  induction p generalizing m n with
  | done a => trivial
  | statement effect next ih =>
      obtain ⟨k, rfl, rest⟩ := bounded
      exact ⟨n - 1, by omega, fun result => ih result (rest result) (by omega)⟩
  | ask query next ih =>
      obtain ⟨k, rfl, rest⟩ := bounded
      exact ⟨n - 1, by omega, fun answer => ih answer (rest answer) (by omega)⟩

theorem Bounded.bind {p : Program I α} {g : α → Program I β} {m n : Nat} (first : p.Bounded m)
    (second : ∀ a, (g a).Bounded n) : (p.bind g).Bounded (m + n) := by
  induction p generalizing m with
  | done a => exact (second a).mono (Nat.le_add_left n m)
  | statement effect next ih =>
      obtain ⟨k, rfl, rest⟩ := first
      exact ⟨k + n, by omega, fun result => ih result (rest result)⟩
  | ask query next ih =>
      obtain ⟨k, rfl, rest⟩ := first
      exact ⟨k + n, by omega, fun answer => ih answer (rest answer)⟩

/-- One step of a bounded program that has not ended. -/
theorem Bounded.step {p : Program I α} {n : Nat} (bounded : p.Bounded n)
    (going : p.ended = false) (env : Environment I) (w : World I) :
    ∃ k, n = k + 1 ∧ (p.step env w).1.Bounded k := by
  cases p with
  | done a => cases going
  | statement effect next =>
      obtain ⟨k, same, rest⟩ := bounded
      exact ⟨k, same, rest _⟩
  | ask query next =>
      obtain ⟨k, same, rest⟩ := bounded
      exact ⟨k, same, rest _⟩

/-- What is left of a program keeps what the program keeps. -/
theorem Keeps.step {allowed : I.State → I.State → Prop} {p : Program I α} (keeps : p.Keeps allowed)
    (env : Environment I) (w : World I) : (p.step env w).1.Keeps allowed := by
  cases p with
  | done a => trivial
  | statement effect next => exact keeps.2 _
  | ask query next => exact keeps _

/-- A step of a program changes the state as the program is allowed to, if at all. -/
theorem Keeps.step_state {allowed : I.State → I.State → Prop} [Std.Refl allowed]
    {p : Program I α} (keeps : p.Keeps allowed) (env : Environment I) (w : World I) :
    allowed w.state (p.step env w).2.state := by
  cases p with
  | done a => exact Std.Refl.refl _
  | statement effect next =>
      rcases w.exec_state env effect with same | ⟨-, changed⟩
      · rw [Program.step, same]
        exact Std.Refl.refl _
      · rw [Program.step, changed]
        exact keeps.1 _
  | ask query next => exact Std.Refl.refl _

/-- The log only grows. -/
theorem log_step (p : Program I α) (env : Environment I) (w : World I) :
    w.log <+: (p.step env w).2.log := by
  cases p with
  | done a => exact List.prefix_rfl
  | statement effect next =>
      rw [Program.step, World.exec_log]
  | ask query next => exact List.prefix_append _ _

/-- A statement fails and changes nothing, or it takes effect. -/
theorem step_statement {effect : I.State → β × I.State} {next : Except I.Fault β → Program I α}
    {env : Environment I} {w : World I} {motive : Program I α → I.State → Prop}
    (fails : ∀ fault, motive (next (.error fault)) w.state)
    (succeeds : motive (next (.ok (effect w.state).1)) (effect w.state).2) :
    motive ((statement effect next).step env w).1 ((statement effect next).step env w).2.state := by
  simp only [Program.step, World.exec]
  cases env.fault w.clock with
  | some fault => exact fails fault
  | none => exact succeeds

/-- A step of a composition is a step of its first part until that has ended. -/
theorem step_bind {p : Program I α} {g : α → Program I β} (going : p.ended = false)
    (env : Environment I) (w : World I) :
    (p.bind g).step env w = ((p.step env w).1.bind g, (p.step env w).2) := by
  cases p with
  | done a => cases going
  | statement effect next => rfl
  | ask query next => rfl

end Program

namespace Call

/-- The number of operations of a call that returns a value. -/
def Timed (ends : Nat → α → Prop) (n : Nat) (c : Call I ε α) : Prop :=
  Program.Timed (fun n result => ∀ a, result = .ok a → ends n a) n c.run

variable {ends : Nat → α → Prop} {n : Nat}

/-- A timed call that returns a value has made as many operations as the clock tells. -/
theorem Timed.clock {c : Call I ε α} (timed : c.Timed ends n) {env : Environment I} {w w' : World I}
    {a : α} (returned : exec env c w = (.ok a, w')) :
    ∃ k, w'.clock = w.clock + k ∧ ends (n + k) a := by
  obtain ⟨k, clock, holds⟩ := Program.Timed.run timed env w
  change Program.run env c.run w = _ at returned
  rw [returned] at clock holds
  exact ⟨k, clock, holds a rfl⟩

@[simp] theorem timed_pure (a : α) : (pure a : Call I ε α).Timed ends n ↔ ends n a := by
  constructor
  · exact fun timed => timed a rfl
  · intro holds b same
    cases same
    exact holds

@[simp] theorem timed_fail (e : ε) : (fail e : Call I ε α).Timed ends n := nofun

@[simp] theorem timed_panic : (panic : Call I ε α).Timed ends n := nofun

@[simp] theorem timed_ask (q : I.Query) {ends : Nat → I.Answer q → Prop} :
    (ask q : Call I ε _).Timed ends n ↔ ∀ answer, ends (n + 1) answer :=
  forall_congr' fun answer => timed_pure answer

@[simp] theorem timed_ofExcept (x : Except ε α) :
    (ofExcept x : Call I ε α).Timed ends n ↔ ∀ a, x = .ok a → ends n a := by
  cases x with
  | error e => exact iff_of_true (timed_fail e) nofun
  | ok b => exact (timed_pure b).trans ⟨fun holds a same => by cases same; exact holds,
      fun holds => holds b rfl⟩

@[simp] theorem timed_ofOption (e : ε) (x : Option α) :
    (ofOption e x : Call I ε α).Timed ends n ↔ ∀ a, x = some a → ends n a := by
  cases x with
  | none => exact iff_of_true (timed_fail e) nofun
  | some b => exact (timed_pure b).trans ⟨fun holds a same => by cases same; exact holds,
      fun holds => holds b rfl⟩

@[simp] theorem timed_unwrap (x : Option α) :
    (unwrap x : Call I ε α).Timed ends n ↔ ∀ a, x = some a → ends n a := by
  cases x with
  | none => exact iff_of_true timed_panic nofun
  | some b => exact (timed_pure b).trans ⟨fun holds a same => by cases same; exact holds,
      fun holds => holds b rfl⟩

theorem timed_query {fault : I.Fault → ε} {read : I.State → α} (after : ∀ a, ends (n + 1) a) :
    (query fault read).Timed ends n := by
  intro result
  cases result with
  | ok a => exact (timed_pure a).mpr (after a)
  | error e => exact timed_fail (fault e)

@[simp] theorem timed_bind {ends : Nat → β → Prop} {c : Call I ε α} {g : α → Call I ε β} :
    (c >>= g).Timed ends n ↔ c.Timed (fun n a => (g a).Timed ends n) n := by
  refine Program.timed_bind.trans (Program.timed_congr fun n result => ?_)
  cases result with
  | ok a =>
      constructor
      · rintro timed b ⟨⟩
        exact timed
      · exact fun timed => timed a rfl
  | error e => exact iff_of_true nofun nofun

@[simp] theorem timed_mapError {f : ε → ε'} {c : Call I ε α} :
    (c.mapError f).Timed ends n ↔ c.Timed ends n := by
  refine Program.timed_bind.trans (Program.timed_congr fun n result => ?_)
  exact forall_congr' fun a => by rw [Outcome.mapError_eq_ok]

/-- The call makes at most `n` operations. -/
def Bounded (c : Call I ε α) (n : Nat) : Prop := c.run.Bounded n

theorem Bounded.bind {c : Call I ε α} {g : α → Call I ε β} {m n : Nat} (first : c.Bounded m)
    (second : ∀ a, (g a).Bounded n) : (c >>= g).Bounded (m + n) := by
  refine Program.Bounded.bind first fun result => ?_
  cases result with
  | ok a => exact second a
  | error e => trivial

/-- A part that makes no operation. -/
theorem Bounded.bind_idle {c : Call I ε α} {g : α → Call I ε β} {n : Nat} (first : c.Bounded 0)
    (second : ∀ a, (g a).Bounded n) : (c >>= g).Bounded n := by
  have bounded := first.bind second
  rwa [Nat.zero_add] at bounded

/-- A part that makes one operation. -/
theorem Bounded.bind_one {c : Call I ε α} {g : α → Call I ε β} {n : Nat} (first : c.Bounded 1)
    (second : ∀ a, (g a).Bounded n) : (c >>= g).Bounded (n + 1) := by
  have bounded := first.bind second
  rwa [Nat.add_comm] at bounded

@[simp] theorem bounded_pure (a : α) : (pure a : Call I ε α).Bounded n := trivial

@[simp] theorem bounded_fail (e : ε) : (fail e : Call I ε α).Bounded n := trivial

@[simp] theorem bounded_panic : (panic : Call I ε α).Bounded n := trivial

@[simp] theorem bounded_ofExcept (x : Except ε α) : (ofExcept x : Call I ε α).Bounded n := by
  cases x <;> trivial

@[simp] theorem bounded_ofOption (e : ε) (x : Option α) :
    (ofOption e x : Call I ε α).Bounded n := by
  cases x <;> trivial

@[simp] theorem bounded_unwrap (x : Option α) : (unwrap x : Call I ε α).Bounded n := by
  cases x <;> trivial

@[simp] theorem bounded_ask (q : I.Query) : (ask q : Call I ε (I.Answer q)).Bounded 1 :=
  ⟨0, rfl, fun _ => trivial⟩

theorem bounded_query (fault : I.Fault → ε) (read : I.State → α) :
    (query fault read).Bounded 1 :=
  ⟨0, rfl, fun result => by cases result <;> trivial⟩

@[simp] theorem bounded_mapError {f : ε → ε'} {c : Call I ε α} (bounded : c.Bounded n) :
    (c.mapError f).Bounded n := by
  have ends : (c.mapError f).run.Bounded (n + 0) := by
    apply Program.Bounded.bind bounded
    exact fun _ => trivial
  exact ends

@[simp] theorem bounded_ite {p : Prop} [Decidable p] {c d : Call I ε α} (yes : c.Bounded n)
    (no : d.Bounded n) : (if p then c else d).Bounded n := by
  split
  · exact yes
  · exact no

end Call

namespace Pool

/-- The call is about to make the operation of that number, counted from 0. -/
def About (pool : Pool I ι α) (i : ι) (n : Nat) : Prop :=
  (pool.calls i).ended = false ∧ (pool.past i).length = n

instance (pool : Pool I ι α) (i : ι) (n : Nat) : Decidable (pool.About i n) :=
  inferInstanceAs (Decidable (_ ∧ _))

/-- A call that has not ended has made one more operation. -/
theorem length_past_step [DecidableEq ι] {pool : Pool I ι α} {env : Environment I} {i : ι} :
    ((pool.step env i).past i).length =
      if (pool.calls i).ended then (pool.past i).length else (pool.past i).length + 1 := by
  simp only [step, Function.update_self]
  split <;> simp

theorem length_past_step_of_going [DecidableEq ι] {pool : Pool I ι α} {env : Environment I} {i : ι}
    (going : (pool.calls i).ended = false) :
    ((pool.step env i).past i).length = (pool.past i).length + 1 := by
  rw [length_past_step, going]
  rfl

/-- What holds of the acting call and of the others, with the number of operations that each
    has made, holds of all calls after the step. -/
theorem forall_step [DecidableEq ι] (holds : ι → Nat → Program I α → Prop) {pool : Pool I ι α}
    {env : Environment I} {i : ι}
    (others : ∀ j, j ≠ i → holds j (pool.past j).length (pool.calls j))
    (self : holds i
      (if (pool.calls i).ended then (pool.past i).length else (pool.past i).length + 1)
      ((pool.calls i).step env pool.world).1) (j : ι) :
    holds j ((pool.step env i).past j).length ((pool.step env i).calls j) := by
  by_cases same : j = i
  · subst same
    rw [step_calls_self, length_past_step]
    exact self
  · rw [step_calls_of_ne same, step_past_of_ne same]
    exact others j same

/-- A call can be run to its end with nobody else acting. -/
theorem play_alone [DecidableEq ι] (env : Environment I) (pool : Pool I ι α) (i : ι) :
    ∃ n, (pool.play env (List.replicate n i)).world = ((pool.calls i).run env pool.world).2 := by
  generalize call : pool.calls i = p
  induction p generalizing pool with
  | done a => exact ⟨0, rfl⟩
  | statement effect next ih =>
      obtain ⟨n, ends⟩ := ih _ (pool.step env i) (by rw [step_calls_self, call]; rfl)
      refine ⟨n + 1, ends.trans ?_⟩
      rw [show (pool.step env i).world = ((pool.calls i).step env pool.world).2 from rfl, call]
      rfl
  | ask query next ih =>
      obtain ⟨n, ends⟩ := ih _ (pool.step env i) (by rw [step_calls_self, call]; rfl)
      refine ⟨n + 1, ends.trans ?_⟩
      rw [show (pool.step env i).world = ((pool.calls i).step env pool.world).2 from rfl, call]
      rfl

/-- Every call still keeps what it kept. -/
theorem keeps_step [DecidableEq ι] {allowed : ι → I.State → I.State → Prop} {pool : Pool I ι α}
    (keeps : ∀ j, (pool.calls j).Keeps (allowed j)) (env : Environment I) (i j : ι) :
    ((pool.step env i).calls j).Keeps (allowed j) := by
  by_cases same : j = i
  · subst same
    rw [step_calls_self]
    exact (keeps j).step env pool.world
  · rw [step_calls_of_ne same]
    exact keeps j

/-- What the statements of all calls preserve holds at any time. -/
theorem holds_play [DecidableEq ι] {holds : I.State → Prop} {pool : Pool I ι α}
    (keeps : ∀ i, (pool.calls i).Keeps (Preserving holds)) (before : holds pool.world.state)
    (env : Environment I) (schedule : List ι) : holds (pool.play env schedule).world.state := by
  induction schedule generalizing pool with
  | nil => exact before
  | cons i schedule ih =>
      exact ih (keeps_step keeps env i) ((keeps i).step_state env pool.world before)

/-- What holds of the states that the calls have acted in and of the present one holds of
    those that they have acted in after the step. -/
theorem forall_past_step [DecidableEq ι] {holds : I.State → Prop} {pool : Pool I ι α}
    {env : Environment I} {i : ι} (earlier : ∀ j, ∀ state ∈ pool.past j, holds state)
    (now : holds pool.world.state) (j : ι) : ∀ state ∈ (pool.step env i).past j, holds state := by
  by_cases same : j = i
  · subst same
    simp only [step, Function.update_self]
    split
    · exact earlier j
    · intro state member
      rcases List.mem_append.mp member with seen | here
      · exact earlier j state seen
      · exact List.mem_singleton.mp here ▸ now
  · rw [step_past_of_ne same]
    exact earlier j

end Pool

end Resumption
