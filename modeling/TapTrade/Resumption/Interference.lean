import Mathlib.Data.List.Infix
import TapTrade.Resumption.Pool

/-! # Invariants under interference

`Program.Safe` says that a program keeps an invariant of state and log however others
act in between, as long as they keep it too. What the program knows between two of its
operations is what it has read (`past`) and what has been asked (a log that only grows).
The condition restricts what two of its operations may find; it is `fun _ => True` where
nothing is assumed. `Pool.safe_play` carries the invariant over every interleaving.

`Program.Keeps` is the frame rule: each statement of the program changes the state only
as a given relation allows.
-/

namespace Resumption

variable {I : Interface} {ι α β ε ε' : Type}

abbrev Log (I : Interface) := List (Event I)

/-- What was at a position of a record is there later, too. -/
theorem mem_getElem?_of_grown {xs ys : List α} (earlier : xs <+: ys) {n : Nat} {a : α}
    (found : a ∈ xs[n]?) : a ∈ ys[n]? := by
  obtain ⟨inside, rfl⟩ := List.getElem?_eq_some_iff.mp found
  exact List.prefix_iff_getElem?.mp earlier n inside

/-- An invariant that further questions cannot break. -/
structure Invariant (I : Interface) where
  holds : I.State → Log I → Prop
  grows : ∀ {state log log'}, log <+: log' → holds state log → holds state log'

/-- An invariant of the state alone. -/
def Invariant.ofState (holds : I.State → Prop) : Invariant I where
  holds state _ := holds state
  grows _ h := h

/-- The same invariant at logs that extend a given one. -/
def Invariant.since (inv : Invariant I) (start : Log I) : Invariant I where
  holds state log := inv.holds state log ∧ start <+: log
  grows grown h := ⟨inv.grows grown h.1, h.2.trans grown⟩

/-- What may be known when a program ends: its value, what it saw and what was asked. -/
abbrev Post (I : Interface) (α : Type) := α → List I.State → Log I → Prop

/-- The changes that preserve a property. -/
def Preserving {σ : Type*} (holds : σ → Prop) (state state' : σ) : Prop :=
  holds state → holds state'

instance {σ : Type*} (holds : σ → Prop) : Std.Refl (Preserving holds) := ⟨fun _ h => h⟩

namespace Program

def Safe (inv : Invariant I) (condition : List I.State → Prop) (post : Post I α) :
    Program I α → List I.State → Log I → Prop
  | .done a, past, log => ∀ log', log <+: log' → post a past log'
  | .statement effect next, past, log =>
      ∀ state log', log <+: log' → inv.holds state log' → condition (past ++ [state]) →
        inv.holds (effect state).2 log' ∧
          Safe inv condition post (next (.ok (effect state).1)) (past ++ [state]) log' ∧
          ∀ fault, Safe inv condition post (next (.error fault)) (past ++ [state]) log'
  | .ask query next, past, log =>
      ∀ state log' answer, log <+: log' → inv.holds state log' → condition (past ++ [state]) →
        Safe inv condition post (next answer) (past ++ [state]) (log' ++ [⟨query, answer, state⟩])

variable {inv : Invariant I} {condition : List I.State → Prop} {post post' : Post I α}
  {past : List I.State} {log log' : Log I}

/-- More questions of others do no harm. -/
theorem Safe.later {p : Program I α} (safe : p.Safe inv condition post past log)
    (grown : log <+: log') : p.Safe inv condition post past log' := by
  cases p with
  | done a => exact fun log'' more => safe log'' (grown.trans more)
  | statement effect next => exact fun state log'' more => safe state log'' (grown.trans more)
  | ask query next =>
      exact fun state log'' answer more => safe state log'' answer (grown.trans more)

theorem Safe.mono {p : Program I α} (safe : p.Safe inv condition post past log)
    (weaker : ∀ a past log, (∀ log', log <+: log' → post a past log') → post' a past log) :
    p.Safe inv condition post' past log := by
  induction p generalizing past log with
  | done a =>
      exact fun log' grown => weaker a past log' fun log'' more => safe log'' (grown.trans more)
  | statement effect next ih =>
      intro state log' grown holds met
      obtain ⟨kept, continues, fails⟩ := safe state log' grown holds met
      exact ⟨kept, ih _ continues, fun fault => ih _ (fails fault)⟩
  | ask query next ih =>
      intro state log' answer grown holds met
      exact ih _ (safe state log' answer grown holds met)

/-- The rule of composition: what the first part leaves, the second starts from. -/
theorem Safe.bind {p : Program I α} {g : α → Program I β} {post : Post I β}
    (safe : p.Safe inv condition (fun a past log => (g a).Safe inv condition post past log)
      past log) : (p.bind g).Safe inv condition post past log := by
  induction p generalizing past log with
  | done a => exact safe log List.prefix_rfl
  | statement effect next ih =>
      intro state log' grown holds met
      obtain ⟨kept, continues, fails⟩ := safe state log' grown holds met
      exact ⟨kept, ih _ continues, fun fault => ih _ (fails fault)⟩
  | ask query next ih =>
      intro state log' answer grown holds met
      exact ih _ (safe state log' answer grown holds met)

/-- Whatever comes later extends the log of now. -/
theorem Safe.since {p : Program I α} {start : Log I} (reached : start <+: log)
    (safe : p.Safe (inv.since start) condition post past log) :
    p.Safe inv condition post past log := by
  induction p generalizing past log with
  | done a => exact safe
  | statement effect next ih =>
      intro state log' grown holds met
      have later := reached.trans grown
      obtain ⟨kept, continues, fails⟩ := safe state log' grown ⟨holds, later⟩ met
      exact ⟨kept.1, ih _ later continues, fun fault => ih _ later (fails fault)⟩
  | ask query next ih =>
      intro state log' answer grown holds met
      have later := reached.trans grown
      exact ih _ (later.trans (List.prefix_append _ _))
        (safe state log' answer grown ⟨holds, later⟩ met)

/-- One operation keeps the invariant and leaves a safe program. -/
theorem Safe.step {p : Program I α} (env : Environment I) {w : World I}
    (safe : p.Safe inv condition post past w.log) (holds : inv.holds w.state w.log)
    (met : p.ended = false → condition (past ++ [w.state])) :
    inv.holds (p.step env w).2.state (p.step env w).2.log ∧
      w.log <+: (p.step env w).2.log ∧
      (p.step env w).1.Safe inv condition post
        (if p.ended then past else past ++ [w.state]) (p.step env w).2.log := by
  cases p with
  | done a => exact ⟨holds, List.prefix_rfl, safe⟩
  | statement effect next =>
      obtain ⟨kept, continues, fails⟩ := safe w.state w.log List.prefix_rfl holds (met rfl)
      simp only [Program.step, World.exec, ended, Bool.false_eq_true, if_false]
      cases env.fault w.clock with
      | some fault => exact ⟨holds, List.prefix_rfl, fails fault⟩
      | none => exact ⟨kept, List.prefix_rfl, continues⟩
  | ask query next =>
      have grown : w.log <+: (w.ask env query).2.log := List.prefix_append _ _
      exact ⟨inv.grows grown holds, grown,
        safe w.state w.log _ List.prefix_rfl holds (met rfl)⟩

/-- Each statement changes the state only as `allowed` permits. -/
def Keeps (allowed : I.State → I.State → Prop) : Program I α → Prop
  | .done _ => True
  | .statement effect next =>
      (∀ state, allowed state (effect state).2) ∧ ∀ result, (next result).Keeps allowed
  | .ask _ next => ∀ answer, (next answer).Keeps allowed

variable {allowed : I.State → I.State → Prop}

theorem Keeps.bind {p : Program I α} {g : α → Program I β} (first : p.Keeps allowed)
    (second : ∀ a, (g a).Keeps allowed) : (p.bind g).Keeps allowed := by
  induction p with
  | done a => exact second a
  | statement effect next ih => exact ⟨first.1, fun result => ih result (first.2 result)⟩
  | ask query next ih => exact fun answer => ih answer (first answer)

theorem Keeps.mono {p : Program I α} {wider : I.State → I.State → Prop} (keeps : p.Keeps allowed)
    (weaker : ∀ state state', allowed state state' → wider state state') : p.Keeps wider := by
  induction p with
  | done a => trivial
  | statement effect next ih =>
      exact ⟨fun state => weaker _ _ (keeps.1 state), fun result => ih result (keeps.2 result)⟩
  | ask query next ih => exact fun answer => ih answer (keeps answer)

/-- A program whose statements cannot break the invariant is safe. -/
theorem Keeps.safe {p : Program I α} (keeps : p.Keeps allowed)
    (harmless : ∀ state state' log, allowed state state' → inv.holds state log →
      inv.holds state' log) :
    p.Safe inv condition (fun _ _ _ => True) past log := by
  induction p generalizing past log with
  | done a => exact fun _ _ => trivial
  | statement effect next ih =>
      intro state log' _ holds _
      exact ⟨harmless _ _ _ (keeps.1 state) holds, ih _ (keeps.2 _), fun _ => ih _ (keeps.2 _)⟩
  | ask query next ih => exact fun _ _ answer _ _ _ => ih _ (keeps answer)

/-- What a statement relation preserves, a whole run preserves. -/
theorem Keeps.run {p : Program I α} (keeps : p.Keeps allowed) (env : Environment I) (w : World I)
    (refl : ∀ state, allowed state state)
    (trans : ∀ {a b c}, allowed a b → allowed b c → allowed a c) :
    allowed w.state (p.run env w).2.state := by
  induction p generalizing w with
  | done a => exact refl _
  | statement effect next ih =>
      have first : allowed w.state (w.exec env effect).2.state := by
        rcases w.exec_state env effect with same | ⟨-, changed⟩
        · rw [same]
          exact refl _
        · rw [changed]
          exact keeps.1 _
      exact trans first (ih _ (keeps.2 _) _)
  | ask query next ih =>
      exact ih (w.ask env query).1 (keeps (w.ask env query).1) (w.ask env query).2

theorem Keeps.run_holds {p : Program I α} {holds : I.State → Prop} {env : Environment I}
    {w : World I} (keeps : p.Keeps (Preserving holds)) (before : holds w.state) :
    holds (p.run env w).2.state :=
  keeps.run env w (fun _ h => h) (fun first second h => second (first h)) before

end Program

namespace Call

variable {inv : Invariant I} {condition : List I.State → Prop} {past : List I.State} {log : Log I}

/-- A safe call; the postcondition is about the value it returns, if it returns one. -/
def Safe (inv : Invariant I) (condition : List I.State → Prop) (post : Post I α) (c : Call I ε α)
    (past : List I.State) (log : Log I) : Prop :=
  Program.Safe inv condition (fun result past log => ∀ a, result = .ok a → post a past log)
    c.run past log

section Rules

variable {post : Post I α} {c : Call I ε α}

theorem Safe.since (safe : c.Safe (inv.since log) condition post past log) :
    c.Safe inv condition post past log := Program.Safe.since List.prefix_rfl safe

theorem safe_pure {a : α} (ends : ∀ log', log <+: log' → post a past log') :
    (pure a : Call I ε α).Safe inv condition post past log := by
  intro log' grown b same
  cases same
  exact ends log' grown

theorem safe_fail (e : ε) : (fail e : Call I ε α).Safe inv condition post past log := by
  intro log' _ b same
  cases same

theorem safe_panic : (panic : Call I ε α).Safe inv condition post past log := by
  intro log' _ b same
  cases same

theorem safe_ofExcept {x : Except ε α}
    (ends : ∀ a, x = .ok a → ∀ log', log <+: log' → post a past log') :
    (ofExcept x : Call I ε α).Safe inv condition post past log := by
  cases x with
  | ok a => exact safe_pure (ends a rfl)
  | error e => exact safe_fail e

theorem safe_ofOption {e : ε} {x : Option α}
    (ends : ∀ a, x = some a → ∀ log', log <+: log' → post a past log') :
    (ofOption e x : Call I ε α).Safe inv condition post past log := by
  cases x with
  | some a => exact safe_pure (ends a rfl)
  | none => exact safe_fail e

theorem safe_unwrap {x : Option α}
    (ends : ∀ a, x = some a → ∀ log', log <+: log' → post a past log') :
    (unwrap x : Call I ε α).Safe inv condition post past log := by
  cases x with
  | some a => exact safe_pure (ends a rfl)
  | none => exact safe_panic

theorem Safe.bind {g : α → Call I ε β} {post : Post I β}
    (safe : c.Safe inv condition (fun a past log => (g a).Safe inv condition post past log)
      past log) : (c >>= g).Safe inv condition post past log := by
  refine Program.Safe.bind (Program.Safe.mono safe ?_)
  intro result past log ends
  cases result with
  | ok a => exact ends log List.prefix_rfl a rfl
  | error e =>
      intro log' _ b same
      cases same

theorem Safe.mapError {f : ε → ε'} (safe : c.Safe inv condition post past log) :
    (c.mapError f).Safe inv condition post past log := by
  refine Program.Safe.bind (Program.Safe.mono safe ?_)
  intro result past log ends log' grown a same
  exact ends log' grown a (Outcome.mapError_eq_ok.mp same)

theorem safe_ask {q : I.Query} {post : Post I (I.Answer q)}
    (ends : ∀ state log' answer, log <+: log' → inv.holds state log' →
      condition (past ++ [state]) → ∀ log'', log' ++ [⟨q, answer, state⟩] <+: log'' →
        post answer (past ++ [state]) log'') :
    (ask q : Call I ε _).Safe inv condition post past log := by
  intro state log' answer grown holds met log'' more a same
  cases same
  exact ends state log' answer grown holds met log'' more

theorem safe_statement {fault : I.Fault → ε} {effect : I.State → α × I.State}
    (ends : ∀ state log', log <+: log' → inv.holds state log' → condition (past ++ [state]) →
      inv.holds (effect state).2 log' ∧
        ∀ log'', log' <+: log'' → post (effect state).1 (past ++ [state]) log'') :
    (statement fault effect).Safe inv condition post past log := by
  intro state log' grown holds met
  refine ⟨(ends state log' grown holds met).1, ?_, ?_⟩
  · intro log'' more a same
    cases same
    exact (ends state log' grown holds met).2 log'' more
  · intro e log'' _ a same
    cases same

theorem safe_query {fault : I.Fault → ε} {read : I.State → α}
    (ends : ∀ state log', log <+: log' → inv.holds state log' → condition (past ++ [state]) →
      post (read state) (past ++ [state]) log') :
    (query fault read).Safe inv condition post past log :=
  safe_statement fun state _ grown holds met =>
    ⟨holds, fun _ more => ends state _ (grown.trans more) (inv.grows more holds) met⟩

theorem safe_update {fault : I.Fault → ε} {write : I.State → I.State} {post : Post I Unit}
    (ends : ∀ state log', log <+: log' → inv.holds state log' → condition (past ++ [state]) →
      inv.holds (write state) log' ∧
        ∀ log'', log' <+: log'' → post () (past ++ [state]) log'') :
    (update fault write).Safe inv condition post past log :=
  safe_statement ends

end Rules

/-- Each statement of the call changes the state only as `allowed` permits. -/
def Keeps (allowed : I.State → I.State → Prop) (c : Call I ε α) : Prop :=
  Program.Keeps allowed c.run

section Frame

variable {allowed : I.State → I.State → Prop} {c : Call I ε α} {g : α → Call I ε β}

@[simp] theorem keeps_pure (a : α) : (pure a : Call I ε α).Keeps allowed := trivial

@[simp] theorem keeps_fail (e : ε) : (fail e : Call I ε α).Keeps allowed := trivial

@[simp] theorem keeps_panic : (panic : Call I ε α).Keeps allowed := trivial

@[simp] theorem keeps_ask (q : I.Query) : (ask q : Call I ε (I.Answer q)).Keeps allowed :=
  fun _ => trivial

@[simp] theorem keeps_ofExcept (x : Except ε α) : (ofExcept x : Call I ε α).Keeps allowed := by
  cases x <;> trivial

@[simp] theorem keeps_ofOption (e : ε) (x : Option α) :
    (ofOption e x : Call I ε α).Keeps allowed := by
  cases x <;> trivial

@[simp] theorem keeps_unwrap (x : Option α) : (unwrap x : Call I ε α).Keeps allowed := by
  cases x <;> trivial

theorem keeps_statement {fault : I.Fault → ε} {effect : I.State → α × I.State}
    (permitted : ∀ state, allowed state (effect state).2) :
    (statement fault effect).Keeps allowed := by
  refine ⟨permitted, fun result => ?_⟩
  cases result <;> trivial

theorem keeps_update {fault : I.Fault → ε} {write : I.State → I.State}
    (permitted : ∀ state, allowed state (write state)) : (update fault write).Keeps allowed :=
  keeps_statement permitted

@[simp] theorem keeps_query [Std.Refl allowed] (fault : I.Fault → ε) (read : I.State → α) :
    (query fault read).Keeps allowed :=
  keeps_statement fun state => Std.Refl.refl state

theorem Keeps.bind (first : c.Keeps allowed) (second : ∀ a, (g a).Keeps allowed) :
    (c >>= g).Keeps allowed := by
  refine Program.Keeps.bind first fun result => ?_
  cases result with
  | ok a => exact second a
  | error e => trivial

/-- After a fallible conversion only its result matters. -/
theorem Keeps.ofOption_bind {e : ε} {x : Option α}
    (second : ∀ a, x = some a → (g a).Keeps allowed) :
    (ofOption e x >>= g).Keeps allowed := by
  cases x with
  | none => trivial
  | some a => exact second a rfl

@[simp] theorem keeps_mapError {f : ε → ε'} (first : c.Keeps allowed) :
    (c.mapError f).Keeps allowed :=
  Program.Keeps.bind first fun _ => trivial

@[simp] theorem keeps_ite {p : Prop} [Decidable p] {d : Call I ε α} (yes : c.Keeps allowed)
    (no : d.Keeps allowed) : (if p then c else d).Keeps allowed := by
  split
  · exact yes
  · exact no

/-- A call whose statements cannot break the invariant is safe. -/
theorem Keeps.safe {post : Post I α} (keeps : c.Keeps allowed)
    (harmless : ∀ state state' log, allowed state state' → inv.holds state log →
      inv.holds state' log)
    (ends : ∀ a past log, post a past log) : c.Safe inv condition post past log :=
  Program.Safe.mono (Program.Keeps.safe keeps harmless) fun _ _ _ _ a _ => ends a _ _

/-- What each statement preserves, the call preserves when it runs undisturbed. -/
theorem Keeps.exec_holds {holds : I.State → Prop} {env : Environment I} {w : World I}
    (keeps : c.Keeps (Preserving holds)) (before : holds w.state) :
    holds (exec env c w).2.state := Program.Keeps.run_holds keeps before

/-- A call that only reads leaves the state as it is. -/
theorem Keeps.exec_state {env : Environment I} {w : World I} (reads : c.Keeps Eq) :
    (exec env c w).2.state = w.state :=
  (Program.Keeps.run reads env w (fun _ => rfl) Eq.trans).symm

/-- A call that only reads is safe. -/
theorem safe_of_reads {post : Post I α} (reads : c.Keeps Eq)
    (ends : ∀ a past log, post a past log) : c.Safe inv condition post past log :=
  reads.safe (fun _ _ _ same holds => same ▸ holds) ends

end Frame

end Call

namespace Pool

variable [DecidableEq ι] {env : Environment I} {inv : Invariant I}
  {condition : ι → List I.State → Prop} {post : ι → Post I α} {pool : Pool I ι α}

theorem past_grows_step (pool : Pool I ι α) (i j : ι) :
    pool.past j <+: (pool.step env i).past j := by
  by_cases same : j = i
  · subst same
    simp only [step, Function.update_self]
    split
    · exact List.prefix_rfl
    · exact List.prefix_append _ _
  · rw [step_past_of_ne same]

theorem past_grows_play (pool : Pool I ι α) (schedule : List ι) (j : ι) :
    pool.past j <+: (pool.play env schedule).past j := by
  induction schedule generalizing pool with
  | nil => exact List.prefix_rfl
  | cons i schedule ih => exact (past_grows_step pool i j).trans (ih _)

/-- The invariant holds and every program is safe. -/
structure Keeping (inv : Invariant I) (condition : ι → List I.State → Prop)
    (post : ι → Post I α) (pool : Pool I ι α) : Prop where
  holds : inv.holds pool.world.state pool.world.log
  safe : ∀ i, (pool.calls i).Safe inv (condition i) (post i) (pool.past i) pool.world.log

theorem Keeping.step (keeping : Keeping inv condition post pool) (i : ι)
    (met : condition i ((pool.step env i).past i)) :
    Keeping inv condition post (pool.step env i) := by
  have now := (keeping.safe i).step env keeping.holds fun going => by
    simpa only [Pool.step, Function.update_self, going, Bool.false_eq_true, if_false] using met
  refine ⟨now.1, fun j => ?_⟩
  by_cases same : j = i
  · subst same
    simpa only [Pool.step, Function.update_self] using now.2.2
  · rw [step_calls_of_ne same, step_past_of_ne same]
    exact (keeping.safe j).later now.2.1

/-- Every interleaving of safe programs keeps the invariant, as long as what they have
    seen meets their conditions. -/
theorem safe_play (schedule : List ι)
    (closed : ∀ i past past', past <+: past' → condition i past' → condition i past)
    (keeping : Keeping inv condition post pool)
    (met : ∀ i, condition i ((pool.play env schedule).past i)) :
    Keeping inv condition post (pool.play env schedule) := by
  induction schedule generalizing pool with
  | nil => exact keeping
  | cons i schedule ih =>
      have now : condition i ((pool.step env i).past i) :=
        closed i _ _ (past_grows_play _ schedule i) (met i)
      exact ih (keeping.step i now) met

end Pool

end Resumption
