import TapTrade.Resumption.Knowledge

/-! # Polling

A loop without a bound that tries the same call until it decides. `Call.retry` gives up after
so many attempts with an error of its own, which tells a loop that is still waiting from one
that has ended: whatever a loop does after finitely many attempts, it does with enough of them.
-/

namespace Resumption

variable {I : Interface} {α ε : Type}

namespace Call

/-- At most so many attempts, until one of them returns a value or ends with an error. -/
def retry (waiting : ε) (attempt : Call I ε (Option α)) : Nat → Call I ε α
  | 0 => fail waiting
  | rounds + 1 => do
      match ← attempt with
      | some a => return a
      | none => retry waiting attempt rounds

variable {waiting : ε} {attempt : Call I ε (Option α)} {env : Environment I}

/-- What an attempt has decided, if it has. -/
def settled? : Outcome ε (Option α) → Option (Outcome ε α)
  | .ok none => none
  | .ok (some a) => some (.ok a)
  | .error abort => some (.error abort)

/-- A loop whose attempts are one operation each ends with the first of them that decides. -/
theorem exec_retry {decides : Nat → Option (Outcome ε α)}
    (one : ∀ w, settled? (exec env attempt w).1 = decides w.clock ∧
      (exec env attempt w).2.clock = w.clock + 1) (rounds : Nat) (w : World I) :
    (exec env (retry waiting attempt rounds) w).1 =
      ((List.range' w.clock rounds).findSome? decides).getD (.error (.failed waiting)) := by
  induction rounds generalizing w with
  | zero => rfl
  | succ rounds ih =>
      obtain ⟨result, clock⟩ := one w
      rw [retry, exec_bind, List.range'_succ, List.findSome?_cons, ← result]
      rcases first : exec env attempt w with ⟨abort | _ | a, next⟩
      · rfl
      · rw [first] at clock
        exact (ih next).trans (by rw [show next.clock = w.clock + 1 from clock]; rfl)
      · rfl

section Patience

variable {β : Type} {c d : Call I ε α} {g h : α → Call I ε β}

/-- The second call does the same as the first one, unless that is still waiting. -/
def Outlasts (waiting : ε) (c d : Call I ε α) : Prop :=
  ∀ env w, (exec env c w).1 = .error (.failed waiting) ∨ exec env d w = exec env c w

theorem outlasts_refl (c : Call I ε α) : Outlasts waiting c c := fun _ _ => .inr rfl

theorem Outlasts.bind (first : Outlasts waiting c d) (second : ∀ a, Outlasts waiting (g a) (h a)) :
    Outlasts waiting (c >>= g) (d >>= h) := by
  intro env w
  simp only [exec_bind]
  obtain waits | same := first env w
  · left
    rcases result : exec env c w with ⟨abort | a, next⟩
    · rw [result] at waits
      cases waits
      rfl
    · rw [result] at waits
      cases waits
  · rw [same]
    rcases exec env c w with ⟨abort | a, next⟩
    · exact .inr rfl
    · exact second a env next

theorem outlasts_ite {p : Prop} [Decidable p] {c' d' : Call I ε α} (yes : Outlasts waiting c d)
    (no : Outlasts waiting c' d') :
    Outlasts waiting (if p then c else c') (if p then d else d') := by
  split
  · exact yes
  · exact no

/-- A loop with more attempts. -/
theorem outlasts_retry (rounds more : Nat) :
    Outlasts waiting (retry waiting attempt rounds) (retry waiting attempt (rounds + more)) := by
  induction rounds with
  | zero => exact fun env w => .inl rfl
  | succ rounds ih =>
      rw [Nat.succ_add]
      apply (outlasts_refl attempt).bind
      intro decision
      cases decision with
      | some a => exact outlasts_refl _
      | none => exact ih

end Patience

variable {allowed : I.Query → Prop}

theorem asks_retry (asks : attempt.Asks allowed) (rounds : Nat) :
    (retry waiting attempt rounds).Asks allowed := by
  induction rounds with
  | zero => exact asks_fail waiting
  | succ rounds ih =>
      apply Asks.bind asks
      intro decision
      cases decision with
      | some a => exact asks_pure a
      | none => exact ih

variable {S : Typestate I} {post : Nat → S.Token → α → Prop} {token : S.Token}

/-- The rule of a loop: an attempt that decides nothing leaves the token as it was. -/
theorem follows_retry (follows : ∀ n, attempt.Follows S (fun n token' decision =>
      match decision with
      | some a => post n token' a
      | none => token' = token) n token) (rounds n : Nat) :
    (retry waiting attempt rounds).Follows S post n token := by
  induction rounds generalizing n with
  | zero => exact follows_fail waiting
  | succ rounds ih =>
      apply Follows.bind
      apply Program.Follows.mono (follows n)
      intro n' token' result ends decision same
      have left := ends decision same
      cases decision with
      | some a => exact follows_pure left
      | none =>
          subst left
          exact ih n'

variable {writes : Knowledge I → I.State → I.State → Prop} {asks : Knowledge I → I.Query → Prop}

/-- The same for knowledge, which grows with every attempt. -/
theorem learns_retry {post : Knowledge I → α → Prop} (rounds : Nat) {k : Knowledge I}
    (learns : ∀ k', k ≤ k' → attempt.Learns writes asks (fun k'' decision =>
      match decision with
      | some a => post k'' a
      | none => k' ≤ k'') k') : (retry waiting attempt rounds).Learns writes asks post k := by
  induction rounds generalizing k with
  | zero => exact learns_fail waiting
  | succ rounds ih =>
      apply Learns.bind
      apply (learns k Knowledge.le_refl).mono
      intro k' decision after
      cases decision with
      | some a => exact learns_pure after
      | none => exact ih fun k'' more => learns k'' (Knowledge.le_trans after more)

end Call

end Resumption
