import TapTrade.Resumption.Program

/-! # Fallible calls

A `Call` is a program that ends with a value, with an error, or by a panic. The
lemmas tagged for `simp` run a call operation by operation; `exec_bind` is the
rule by which the results of its parts are composed.
-/

namespace Resumption

/-- How a call ends when it does not return a value. -/
inductive Abort (ε : Type) where
  | failed (error : ε)
  | panicked
  deriving DecidableEq, Repr

abbrev Outcome (ε α : Type) := Except (Abort ε) α

abbrev Call (I : Interface) (ε α : Type) := ExceptT (Abort ε) (Program I) α

variable {I : Interface} {α β ε ε' : Type}

namespace Outcome

/-- Keep the value or the panic, translate the error. -/
def mapError (f : ε → ε') : Outcome ε α → Outcome ε' α
  | .ok a => .ok a
  | .error (.failed e) => .error (.failed (f e))
  | .error .panicked => .error .panicked

/-- A value or an error. -/
def ofExcept : Except ε α → Outcome ε α
  | .ok a => .ok a
  | .error e => .error (.failed e)

/-- A value, or a panic where there is none. -/
def unwrap : Option α → Outcome ε α
  | some a => .ok a
  | none => .error .panicked

@[simp] theorem unwrap_eq_ok {x : Option α} {a : α} :
    (unwrap x : Outcome ε α) = .ok a ↔ x = some a := by
  cases x <;> simp [unwrap]

@[simp] theorem unwrap_eq_panicked {x : Option α} :
    (unwrap x : Outcome ε α) = .error .panicked ↔ x = none := by
  cases x <;> simp [unwrap]

@[simp] theorem ofExcept_eq_ok {x : Except ε α} {a : α} : ofExcept x = .ok a ↔ x = .ok a := by
  cases x <;> simp [ofExcept]

/-- A computation does not panic if none of its parts does. -/
theorem bind_ne_panicked {x : Outcome ε α} {g : α → Outcome ε β} :
    (x >>= g) ≠ .error .panicked ↔
      x ≠ .error .panicked ∧ ∀ a, x = .ok a → g a ≠ .error .panicked := by
  cases x with
  | error abort =>
      change Except.error abort ≠ .error .panicked ↔ _
      simp
  | ok a =>
      change g a ≠ .error .panicked ↔ _
      simp

@[simp] theorem ofExcept_ne_panicked (x : Except ε α) : ofExcept x ≠ .error .panicked := by
  cases x <;> simp [ofExcept]

@[simp] theorem mapError_ok (f : ε → ε') (a : α) : mapError f (.ok a) = .ok a := rfl

@[simp] theorem mapError_failed (f : ε → ε') (e : ε) :
    mapError f (.error (.failed e) : Outcome ε α) = .error (.failed (f e)) := rfl

@[simp] theorem mapError_panicked (f : ε → ε') :
    mapError f (.error .panicked : Outcome ε α) = .error .panicked := rfl

@[simp] theorem mapError_eq_ok {f : ε → ε'} {x : Outcome ε α} {a : α} :
    mapError f x = .ok a ↔ x = .ok a := by
  rcases x with (e | _) | a <;> simp [mapError]

end Outcome

namespace Call

/-- An atomic statement; a fault of the state becomes an error of the call. -/
def statement (fault : I.Fault → ε) (effect : I.State → β × I.State) : Call I ε β :=
  ExceptT.mk <| .statement effect fun
    | .ok b => .done (.ok b)
    | .error e => .done (.error (.failed (fault e)))

/-- A statement that only reads. -/
def query (fault : I.Fault → ε) (read : I.State → β) : Call I ε β :=
  statement fault fun s => (read s, s)

/-- A statement that only writes. -/
def update (fault : I.Fault → ε) (write : I.State → I.State) : Call I ε Unit :=
  statement fault fun s => ((), write s)

def ask (q : I.Query) : Call I ε (I.Answer q) :=
  ExceptT.mk <| .ask q fun a => .done (.ok a)

def fail (e : ε) : Call I ε α := ExceptT.mk <| .done (.error (.failed e))

def panic : Call I ε α := ExceptT.mk <| .done (.error .panicked)

def ofExcept : Except ε α → Call I ε α
  | .ok a => pure a
  | .error e => fail e

/-- `Some(a)` goes on with `a`, `None` ends with the error. -/
def ofOption (e : ε) : Option α → Call I ε α
  | some a => pure a
  | none => fail e

/-- `Some(a)` goes on with `a`, `None` is a panic. -/
def unwrap : Option α → Call I ε α
  | some a => pure a
  | none => panic

def mapError (f : ε → ε') (c : Call I ε α) : Call I ε' α :=
  ExceptT.mk <| c.run.bind fun x => .done (Outcome.mapError f x)

/-- The outcome of a call run without interference, and the world it leaves. -/
def exec (env : Environment I) (c : Call I ε α) (w : World I) : Outcome ε α × World I :=
  Program.run env c.run w

variable (env : Environment I) (w : World I)

@[simp] theorem exec_pure (a : α) : exec env (pure a : Call I ε α) w = (.ok a, w) := rfl

@[simp] theorem exec_fail (e : ε) :
    exec env (fail e : Call I ε α) w = (.error (.failed e), w) := rfl

theorem exec_bind (c : Call I ε α) (g : α → Call I ε β) :
    exec env (c >>= g) w = match exec env c w with
      | (.ok a, w') => exec env (g a) w'
      | (.error e, w') => (.error e, w') := by
  change Program.run env (c.run.bind _) w = _
  rw [Program.run_bind]
  unfold exec
  rcases Program.run env c.run w with ⟨e | a, w'⟩ <;> rfl

theorem exec_mapError (f : ε → ε') (c : Call I ε α) :
    exec env (c.mapError f) w = (Outcome.mapError f (exec env c w).1, (exec env c w).2) := by
  change Program.run env (c.run.bind _) w = _
  rw [Program.run_bind]
  rfl

theorem exec_statement (fault : I.Fault → ε) (effect : I.State → β × I.State) :
    exec env (statement fault effect) w =
      match env.fault w.clock with
      | some e => (.error (.failed (fault e)), { w with clock := w.clock + 1 })
      | none => (.ok (effect w.state).1,
          { w with state := (effect w.state).2, clock := w.clock + 1 }) := by
  simp only [exec, statement, ExceptT.run_mk, Program.run, World.exec]
  cases env.fault w.clock <;> rfl

/-- What went right up to a bind, and what happens after it. -/
theorem exec_bind_ok {c : Call I ε α} {g : α → Call I ε β} {b : β} {w'' : World I}
    (h : exec env (c >>= g) w = (.ok b, w'')) :
    ∃ a w', exec env c w = (.ok a, w') ∧ exec env (g a) w' = (.ok b, w'') := by
  rw [exec_bind] at h
  rcases hc : exec env c w with ⟨e | a, w'⟩
  · rw [hc] at h
    cases h
  · rw [hc] at h
    exact ⟨a, w', rfl, h⟩

theorem exec_bind_of_ok {c : Call I ε α} {g : α → Call I ε β} {a : α} {w' : World I}
    (first : exec env c w = (.ok a, w')) : exec env (c >>= g) w = exec env (g a) w' := by
  rw [exec_bind, first]

theorem exec_mapError_of_ok {f : ε → ε'} {c : Call I ε α} {a : α} {w' : World I}
    (first : exec env c w = (.ok a, w')) : exec env (c.mapError f) w = (.ok a, w') := by
  rw [exec_mapError, first]
  rfl

/-- The two ways a bind can go. -/
theorem exec_bind_cases {c : Call I ε α} {g : α → Call I ε β}
    {motive : Outcome ε β × World I → Prop}
    (stops : ∀ e w', exec env c w = (.error e, w') → motive (.error e, w'))
    (continues : ∀ a w', exec env c w = (.ok a, w') → motive (exec env (g a) w')) :
    motive (exec env (c >>= g) w) := by
  rw [exec_bind]
  cases first : exec env c w with
  | mk result w' =>
      cases result with
      | error e => exact stops e w' first
      | ok a => exact continues a w' first

theorem exec_ofOption_ok {e : ε} {x : Option α} {a : α} {w' : World I}
    (h : exec env (ofOption e x) w = (.ok a, w')) : x = some a ∧ w' = w := by
  cases x with
  | none => cases h
  | some b =>
      cases h
      exact ⟨rfl, rfl⟩

theorem exec_unwrap_ok {x : Option α} {a : α} {w' : World I}
    (h : exec env (unwrap x : Call I ε α) w = (.ok a, w')) : x = some a ∧ w' = w := by
  cases x with
  | none => cases h
  | some b =>
      cases h
      exact ⟨rfl, rfl⟩

theorem exec_ofExcept_ok {x : Except ε α} {a : α} {w' : World I}
    (h : exec env (ofExcept x) w = (.ok a, w')) : x = .ok a ∧ w' = w := by
  cases x with
  | error e => cases h
  | ok b =>
      cases h
      exact ⟨rfl, rfl⟩

theorem exec_mapError_ok {f : ε → ε'} {c : Call I ε α} {a : α} {w' : World I}
    (h : exec env (c.mapError f) w = (.ok a, w')) : exec env c w = (.ok a, w') := by
  rw [exec_mapError] at h
  rcases hc : exec env c w with ⟨x, w₁⟩
  simp only [hc, Prod.mk.injEq, Outcome.mapError_eq_ok] at h
  obtain ⟨rfl, rfl⟩ := h
  rfl

/-- A call that neither acts nor asks, and has the outcome. -/
def Computes (c : Call I ε α) (x : Outcome ε α) : Prop :=
  ∀ (env : Environment I) (w : World I), exec env c w = (x, w)

theorem computes_pure (a : α) : (pure a : Call I ε α).Computes (.ok a) := fun _ _ => rfl

theorem computes_fail (e : ε) : (fail e : Call I ε α).Computes (.error (.failed e)) :=
  fun _ _ => rfl

theorem Computes.bind {c : Call I ε α} {g : α → Call I ε β} {x : Outcome ε α}
    {y : α → Outcome ε β} (first : c.Computes x) (second : ∀ a, (g a).Computes (y a)) :
    (c >>= g).Computes (x >>= y) := by
  intro env w
  rw [exec_bind, first env w]
  cases x with
  | error abort => rfl
  | ok a => exact second a env w

theorem Computes.ite {p : Prop} [Decidable p] {c d : Call I ε α} {x y : Outcome ε α}
    (yes : c.Computes x) (no : d.Computes y) :
    (if p then c else d).Computes (if p then x else y) := by
  split
  · exact yes
  · exact no

/-- A call that asks nothing. -/
def Silent (c : Call I ε α) : Prop :=
  ∀ (env : Environment I) (w : World I), (exec env c w).2.log = w.log

section Silent

variable {c : Call I ε α} {g : α → Call I ε β}

@[simp] theorem silent_pure (a : α) : Silent (pure a : Call I ε α) := fun _ _ => rfl

@[simp] theorem silent_fail (e : ε) : Silent (fail e : Call I ε α) := fun _ _ => rfl

@[simp] theorem silent_ofExcept (x : Except ε α) : Silent (ofExcept x : Call I ε α) := by
  cases x <;> exact fun _ _ => rfl

@[simp] theorem silent_ofOption (e : ε) (x : Option α) : Silent (ofOption e x : Call I ε α) := by
  cases x <;> exact fun _ _ => rfl

@[simp] theorem silent_statement (fault : I.Fault → ε) (effect : I.State → α × I.State) :
    Silent (statement fault effect) := by
  intro env w
  rw [exec_statement]
  split <;> rfl

theorem Silent.bind (first : Silent c) (second : ∀ a, Silent (g a)) : Silent (c >>= g) := by
  intro env w
  have kept := first env w
  rw [exec_bind]
  cases ends : exec env c w with
  | mk result w' =>
      rw [ends] at kept
      cases result with
      | error e => exact kept
      | ok a => exact (second a env w').trans kept

@[simp] theorem silent_mapError {f : ε → ε'} (silent : Silent c) : Silent (c.mapError f) := by
  intro env w
  rw [exec_mapError]
  exact silent env w

@[simp] theorem silent_ite {p : Prop} [Decidable p] {d : Call I ε α} (yes : Silent c)
    (no : Silent d) : Silent (if p then c else d) := by
  split
  · exact yes
  · exact no

end Silent

/-- A call that does not panic. -/
def Calm (c : Call I ε α) : Prop :=
  ∀ (env : Environment I) (w : World I), (exec env c w).1 ≠ .error .panicked

section Calm

variable {c : Call I ε α} {g : α → Call I ε β}

@[simp] theorem calm_pure (a : α) : Calm (pure a : Call I ε α) := fun _ _ => nofun

@[simp] theorem calm_fail (e : ε) : Calm (fail e : Call I ε α) := fun _ _ => nofun

@[simp] theorem calm_ofExcept (x : Except ε α) : Calm (ofExcept x : Call I ε α) := by
  cases x <;> exact fun _ _ => nofun

@[simp] theorem calm_ofOption (e : ε) (x : Option α) : Calm (ofOption e x : Call I ε α) := by
  cases x <;> exact fun _ _ => nofun

@[simp] theorem calm_ask (q : I.Query) : Calm (ask q : Call I ε (I.Answer q)) := fun _ _ => nofun

@[simp] theorem calm_statement (fault : I.Fault → ε) (effect : I.State → α × I.State) :
    Calm (statement fault effect) := by
  intro env w
  rw [exec_statement]
  split <;> exact nofun

theorem exec_bind_calm {env : Environment I} {w : World I}
    (first : (exec env c w).1 ≠ .error .panicked)
    (second : ∀ a w', exec env c w = (.ok a, w') → (exec env (g a) w').1 ≠ .error .panicked) :
    (exec env (c >>= g) w).1 ≠ .error .panicked := by
  apply exec_bind_cases env w (motive := fun end' => end'.1 ≠ .error .panicked)
  · intro abort w' stops panics
    rw [stops] at first
    exact first (by simpa using panics)
  · exact second

theorem Calm.bind (first : Calm c) (second : ∀ a, Calm (g a)) : Calm (c >>= g) :=
  fun env w => exec_bind_calm (first env w) fun a w' _ => second a env w'

end Calm

end Call

end Resumption
