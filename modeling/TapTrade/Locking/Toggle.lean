import Mathlib.Data.List.Induction

/-! # Locks that are toggled

A lock that is taken and given back by the same toggle. Whoever toggles it while it is free holds
it; an attempt on a lock that is taken frees it. Two agents hold it at once iff two attempts of
others fall into the time in which one of them holds it: the first frees it, the second takes it.
-/

namespace Locking

/-- Agents that act one at a time, with a lock that is toggled. -/
structure ToggleLock (σ : Type*) (ι : Type*) where
  step : σ → ι → σ
  /-- The states that are considered. -/
  inv : σ → Prop
  taken : σ → Prop
  holds : σ → ι → Prop
  /-- The next step of the agent toggles the lock in order to take it. -/
  attempts : σ → ι → Prop
  inv_step : ∀ {s i}, inv s → inv (step s i)
  holds_other : ∀ {s i j}, inv s → j ≠ i → (holds (step s i) j ↔ holds s j)
  not_holds : ∀ {s i}, inv s → attempts s i → ¬ holds s i
  taken_attempt : ∀ {s i}, inv s → attempts s i → (taken (step s i) ↔ ¬ taken s)
  holds_attempt : ∀ {s i}, inv s → attempts s i → (holds (step s i) i ↔ ¬ taken s)
  holds_quiet : ∀ {s i}, inv s → ¬ attempts s i → holds (step s i) i → holds s i
  /-- Apart from attempts only an agent that gives the lock back toggles it. -/
  taken_quiet : ∀ {s i}, inv s → ¬ attempts s i → (holds s i → holds (step s i) i) →
    (taken (step s i) ↔ taken s)

namespace ToggleLock

variable {σ ι : Type*} (lock : ToggleLock σ ι) {s : σ} {h i j k : ι}
  {schedule between earlier later : List ι}

def run (s : σ) (schedule : List ι) : σ := schedule.foldl lock.step s

/-- At most one agent holds the lock. -/
def Exclusive (s : σ) : Prop := ∀ i j, lock.holds s i → lock.holds s j → i = j

/-- The agent holds the lock in all states of the run. -/
def HoldsThroughout (h : ι) (s : σ) (schedule : List ι) : Prop :=
  ∀ earlier, earlier <+: schedule → lock.holds (lock.run s earlier) h

/-- Since the agent holds the lock another one has attempted to take it. -/
def Attempted (s : σ) (schedule : List ι) (h : ι) : Prop :=
  ∃ before i between, schedule = before ++ i :: between ∧
    lock.HoldsThroughout h (lock.run s before) (i :: between) ∧
    i ≠ h ∧ lock.attempts (lock.run s before) i

/-- Two attempts of others while one agent holds the lock. -/
def Overtaken (s : σ) (schedule : List ι) : Prop :=
  ∃ earlier j h, earlier ++ [j] <+: schedule ∧ lock.Attempted s earlier h ∧
    j ≠ h ∧ lock.attempts (lock.run s earlier) j

@[simp] theorem run_nil : lock.run s [] = s := rfl

@[simp] theorem run_cons : lock.run s (i :: schedule) = lock.run (lock.step s i) schedule := rfl

theorem run_append : lock.run s (earlier ++ later) = lock.run (lock.run s earlier) later :=
  List.foldl_append

theorem run_snoc : lock.run s (schedule ++ [i]) = lock.step (lock.run s schedule) i :=
  lock.run_append

variable {lock}

theorem inv_run (inv : lock.inv s) (schedule : List ι) : lock.inv (lock.run s schedule) := by
  induction schedule generalizing s with
  | nil => exact inv
  | cons i schedule ih => exact ih (lock.inv_step inv)

theorem holdsThroughout_cons : lock.HoldsThroughout h s (i :: schedule) ↔
    lock.holds s h ∧ lock.HoldsThroughout h (lock.step s i) schedule := by
  constructor
  · intro holds
    refine ⟨holds [] List.nil_prefix, fun earlier part => ?_⟩
    exact holds (i :: earlier) (List.cons_prefix_cons.mpr ⟨rfl, part⟩)
  · rintro ⟨now, holds⟩ earlier part
    cases earlier with
    | nil => exact now
    | cons k earlier =>
        obtain ⟨rfl, rest⟩ := List.cons_prefix_cons.mp part
        exact holds earlier rest

theorem HoldsThroughout.snoc (holds : lock.HoldsThroughout h s schedule)
    (now : lock.holds (lock.run s (schedule ++ [i])) h) :
    lock.HoldsThroughout h s (schedule ++ [i]) := by
  intro earlier part
  rcases List.prefix_concat_iff.mp part with rfl | part
  · exact now
  · exact holds earlier part

theorem Attempted.holds (attempted : lock.Attempted s schedule h) :
    lock.holds (lock.run s schedule) h := by
  obtain ⟨before, i, between, rfl, holds, -⟩ := attempted
  rw [run_append]
  exact holds (i :: between) List.prefix_rfl

/-- An attempt is not forgotten while the agent holds the lock. -/
theorem Attempted.snoc (attempted : lock.Attempted s schedule h)
    (now : lock.holds (lock.run s (schedule ++ [k])) h) :
    lock.Attempted s (schedule ++ [k]) h := by
  obtain ⟨before, i, between, rfl, holds, attempt⟩ := attempted
  rw [List.append_assoc, run_append] at now
  exact ⟨before, i, between ++ [k], List.append_assoc _ _ _, holds.snoc now, attempt⟩

theorem Attempted.new (holds : lock.holds (lock.run s schedule) h)
    (now : lock.holds (lock.run s (schedule ++ [i])) h) (other : i ≠ h)
    (attempts : lock.attempts (lock.run s schedule) i) : lock.Attempted s (schedule ++ [i]) h := by
  refine ⟨schedule, i, [], rfl, holdsThroughout_cons.mpr ⟨holds, ?_⟩, other, attempts⟩
  intro earlier part
  rw [List.prefix_nil.mp part]
  rwa [run_snoc] at now

/-- Somebody takes the lock while another holds it. -/
theorem not_exclusive_of_attempt (inv : lock.inv s) (holds : lock.holds s h)
    (attempts : lock.attempts s i) (free : ¬ lock.taken s) :
    ¬ lock.Exclusive (lock.step s i) := by
  have other : h ≠ i := by
    rintro rfl
    exact lock.not_holds inv attempts holds
  intro exclusive
  exact other (exclusive h i ((lock.holds_other inv other).mpr holds)
    ((lock.holds_attempt inv attempts).mpr free))

/-- A lock that was freed while somebody holds it is taken by the next attempt. -/
theorem not_exclusive_of_free (inv : lock.inv s) (free : ¬ lock.taken s)
    (holds : lock.HoldsThroughout h s between)
    (attempts : lock.attempts (lock.run s between) j) :
    ∃ earlier, earlier <+: between ++ [j] ∧ ¬ lock.Exclusive (lock.run s earlier) := by
  induction between generalizing s with
  | nil =>
      have now := holds [] List.prefix_rfl
      exact ⟨[j], List.prefix_rfl, not_exclusive_of_attempt inv now attempts free⟩
  | cons k between ih =>
      obtain ⟨now, rest⟩ := holdsThroughout_cons.mp holds
      by_cases attempt : lock.attempts s k
      · refine ⟨[k], ?_, not_exclusive_of_attempt inv now attempt free⟩
        exact List.cons_prefix_cons.mpr ⟨rfl, List.nil_prefix⟩
      by_cases second : lock.holds s k ∧ k ≠ h
      · exact ⟨[], List.nil_prefix, fun exclusive => second.2 (exclusive k h second.1 now)⟩
      -- nobody but the holder could give the lock back, and it goes on holding
      have keeps : lock.holds s k → lock.holds (lock.step s k) k := by
        intro first
        by_cases same : k = h
        · exact same ▸ rest [] List.nil_prefix
        · exact absurd ⟨first, same⟩ second
      rw [← lock.taken_quiet inv attempt keeps] at free
      obtain ⟨earlier, part, violated⟩ := ih (lock.inv_step inv) free rest attempts
      exact ⟨k :: earlier, List.cons_prefix_cons.mpr ⟨rfl, part⟩, violated⟩

/-- Who is overtaken does not hold the lock alone. -/
theorem not_exclusive_of_overtaken (inv : lock.inv s) (overtaken : lock.Overtaken s schedule) :
    ∃ earlier, earlier <+: schedule ∧ ¬ lock.Exclusive (lock.run s earlier) := by
  obtain ⟨_, j, h, whole, ⟨before, i, between, rfl, holds, -, first⟩, -, second⟩ := overtaken
  have reached := inv_run inv before
  obtain ⟨now, rest⟩ := holdsThroughout_cons.mp holds
  rw [List.append_assoc, List.cons_append] at whole
  by_cases free : lock.taken (lock.run s before)
  · -- the first attempt frees the lock
    have freed : ¬ lock.taken (lock.step (lock.run s before) i) := by
      rw [lock.taken_attempt reached first]
      exact not_not_intro free
    rw [run_append, run_cons] at second
    obtain ⟨earlier, part, violated⟩ :=
      not_exclusive_of_free (lock.inv_step reached) freed rest second
    refine ⟨before ++ i :: earlier, ?_, by rwa [run_append]⟩
    apply List.IsPrefix.trans _ whole
    exact (List.prefix_append_right_inj before).mpr (List.cons_prefix_cons.mpr ⟨rfl, part⟩)
  · refine ⟨before ++ [i], ?_, ?_⟩
    · apply List.IsPrefix.trans _ whole
      exact (List.prefix_append_right_inj before).mpr
        (List.cons_prefix_cons.mpr ⟨rfl, List.nil_prefix⟩)
    · rw [run_snoc]
      exact not_exclusive_of_attempt reached now first free

/-- At most one agent holds the lock, and then it is taken unless another has attempted to take it
    in the meantime. -/
structure Guarded (lock : ToggleLock σ ι) (s : σ) (schedule : List ι) : Prop where
  exclusive : lock.Exclusive (lock.run s schedule)
  guarded : ∀ h, lock.holds (lock.run s schedule) h →
    lock.taken (lock.run s schedule) ∨ lock.Attempted s schedule h

/-- An attempt on a guarded lock. -/
theorem Guarded.attempt (inv : lock.inv s) (guarded : lock.Guarded s schedule)
    (attempts : lock.attempts (lock.run s schedule) k)
    (fair : ¬ lock.Overtaken s (schedule ++ [k])) : lock.Guarded s (schedule ++ [k]) := by
  have reached := inv_run inv schedule
  have before (h : ι) (now : lock.holds (lock.run s (schedule ++ [k])) h) (other : h ≠ k) :
      lock.holds (lock.run s schedule) h := by
    rw [run_snoc] at now
    exact (lock.holds_other reached other).mp now
  -- a second attempt would overtake the holder
  have once (h : ι) (held : lock.holds (lock.run s schedule) h) (other : k ≠ h) :
      lock.taken (lock.run s schedule) := by
    rcases guarded.guarded h held with taken | attempted
    · exact taken
    · exact absurd ⟨schedule, k, h, List.prefix_rfl, attempted, other, attempts⟩ fair
  have alone (h : ι) (now : lock.holds (lock.run s (schedule ++ [k])) h) (other : h ≠ k)
      (new : lock.holds (lock.run s (schedule ++ [k])) k) : False := by
    rw [run_snoc, lock.holds_attempt reached attempts] at new
    exact new (once h (before h now other) other.symm)
  constructor
  · intro i j first second
    by_cases isFirst : i = k
    · by_cases isSecond : j = k
      · exact isFirst.trans isSecond.symm
      · exact absurd (isFirst ▸ first) (alone j second isSecond)
    · by_cases isSecond : j = k
      · exact absurd (isSecond ▸ second) (alone i first isFirst)
      · exact guarded.exclusive i j (before i first isFirst) (before j second isSecond)
  · intro h now
    by_cases same : h = k
    · subst same
      left
      rw [run_snoc] at now ⊢
      rw [lock.taken_attempt reached attempts]
      exact (lock.holds_attempt reached attempts).mp now
    · exact .inr (.new (before h now same) now (Ne.symm same) attempts)

/-- Any other step. -/
theorem Guarded.quiet (inv : lock.inv s) (guarded : lock.Guarded s schedule)
    (quiet : ¬ lock.attempts (lock.run s schedule) k) : lock.Guarded s (schedule ++ [k]) := by
  have reached := inv_run inv schedule
  have before (h : ι) (now : lock.holds (lock.run s (schedule ++ [k])) h) :
      lock.holds (lock.run s schedule) h := by
    rw [run_snoc] at now
    by_cases same : h = k
    · subst same
      exact lock.holds_quiet reached quiet now
    · exact (lock.holds_other reached same).mp now
  constructor
  · exact fun i j first second => guarded.exclusive i j (before i first) (before j second)
  · intro h now
    rcases guarded.guarded h (before h now) with taken | attempted
    · left
      have keeps : lock.holds (lock.run s schedule) k →
          lock.holds (lock.step (lock.run s schedule) k) k := by
        intro held
        obtain rfl := guarded.exclusive h k (before h now) held
        rwa [run_snoc] at now
      rw [run_snoc, lock.taken_quiet reached quiet keeps]
      exact taken
    · exact .inr (attempted.snoc now)

/-- From a state in which nobody holds the lock: at most one agent holds it at any time iff nobody
    is overtaken. -/
theorem exclusive_iff (inv : lock.inv s) (free : ∀ i, ¬ lock.holds s i) :
    (∀ earlier, earlier <+: schedule → lock.Exclusive (lock.run s earlier)) ↔
      ¬ lock.Overtaken s schedule := by
  constructor
  · intro exclusive overtaken
    obtain ⟨earlier, part, violated⟩ := not_exclusive_of_overtaken inv overtaken
    exact violated (exclusive earlier part)
  · intro fair earlier part
    have guarded : lock.Guarded s earlier := by
      induction earlier using List.reverseRecOn with
      | nil => exact ⟨fun i j held => absurd held (free i), fun h held => absurd held (free h)⟩
      | append_singleton earlier k ih =>
          have guarded := ih ((List.prefix_append earlier [k]).trans part)
          by_cases attempts : lock.attempts (lock.run s earlier) k
          · apply guarded.attempt inv attempts
            rintro ⟨earlier', j, h, part', overtaken⟩
            exact fair ⟨earlier', j, h, part'.trans part, overtaken⟩
          · exact guarded.quiet inv attempts
    exact guarded.exclusive

end ToggleLock

end Locking
