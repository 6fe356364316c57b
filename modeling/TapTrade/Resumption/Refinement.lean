import Mathlib.Logic.Relation
import TapTrade.Resumption.Translation

/-! # Pools that do jobs for others

A program that acts on the shared state only by doing jobs from their beginning to their end is as
good as the jobs themselves: a pool of such programs does to the state what a pool of jobs can do.
The jobs that there could be are all there from the start, each as often as it is needed.
-/

namespace Resumption

variable {I K : Interface} {Q : Type} {A : Q → Type} {ι κ α β : Type}

namespace Pool

section Reaching

variable [DecidableEq ι] {env env' : Environment I} {pool pool' : Pool I ι α} {i : ι}

/-- One operation, with an environment of its own. -/
def Advances (pool pool' : Pool I ι α) : Prop := ∃ env i, pool' = pool.step env i

theorem clock_step : (pool.step env i).world.clock =
    if (pool.calls i).ended then pool.world.clock else pool.world.clock + 1 := by
  change ((pool.calls i).step env pool.world).2.clock = _
  cases pool.calls i with
  | done a => rfl
  | statement effect next => exact World.exec_clock env effect pool.world
  | ask query next => rfl

theorem clock_le_play (pool : Pool I ι α) (schedule : List ι) :
    pool.world.clock ≤ (pool.play env schedule).world.clock := by
  induction schedule generalizing pool with
  | nil => exact Nat.le_refl _
  | cons i schedule ih =>
      refine Nat.le_trans ?_ (ih _)
      rw [clock_step]
      split <;> omega

/-- An operation depends on the environment at one tick, and only if there is one. -/
theorem step_congr (same : (pool.calls i).ended = false →
      env.answer pool.world.clock = env'.answer pool.world.clock ∧
        env.fault pool.world.clock = env'.fault pool.world.clock) :
    pool.step env i = pool.step env' i := by
  have now : (pool.calls i).step env pool.world = (pool.calls i).step env' pool.world := by
    cases call : pool.calls i with
    | done a => rfl
    | statement effect next =>
        simp only [Program.step, World.exec, (same (call ▸ rfl)).2]
    | ask query next => simp only [Program.step, World.ask, (same (call ▸ rfl)).1]
  simp only [step, now]

/-- A run depends on the environment up to its end. -/
theorem play_congr {schedule : List ι}
    (same : ∀ tick < (pool.play env schedule).world.clock,
      env.answer tick = env'.answer tick ∧ env.fault tick = env'.fault tick) :
    pool.play env schedule = pool.play env' schedule := by
  induction schedule generalizing pool with
  | nil => rfl
  | cons i schedule ih =>
      have first : pool.step env i = pool.step env' i := by
        refine step_congr fun going => same _ (Nat.lt_of_lt_of_le ?_ (clock_le_play _ schedule))
        rw [clock_step, going, if_neg Bool.false_ne_true]
        exact Nat.lt_succ_self _
      rw [play_cons, play_cons, ← first]
      exact ih same

/-- What is reached operation by operation is reached in one environment. -/
theorem exists_play (env : Environment I) (reaches : Relation.ReflTransGen Advances pool pool') :
    ∃ env schedule, pool' = pool.play env schedule := by
  induction reaches with
  | refl => exact ⟨env, [], rfl⟩
  | @tail between pool' _ advances ih =>
      obtain ⟨before, schedule, rfl⟩ := ih
      obtain ⟨now, i, rfl⟩ := advances
      let played := pool.play before schedule
      let joined : Environment I :=
        { answer := fun tick => if tick < played.world.clock then before.answer tick
            else now.answer tick
          fault := fun tick => if tick < played.world.clock then before.fault tick
            else now.fault tick }
      refine ⟨joined, schedule ++ [i], ?_⟩
      have earlier : played = pool.play joined schedule := by
        refine play_congr fun tick within => ?_
        simp only [joined, if_pos within, and_self, played]
      have last : played.step now i = played.step joined i := by
        refine step_congr fun _ => ?_
        simp only [joined, Nat.lt_irrefl, if_false, and_self]
      rw [play_append, ← earlier]
      exact last

end Reaching

end Pool

/-- A program that acts on the shared state only by doing jobs, and asks aside. -/
inductive Program.Through (job : κ → Program K β) : Program (K.beside Q A) α → Prop
  | done (a : α) : Through job (.done a)
  | aside {q : Q} {next : A q → Program (K.beside Q A) α} (rest : ∀ a, (next a).Through job) :
      Through job (.ask (.inr q) next)
  | job {k : κ} {next : β → Program (K.beside Q A) α} (rest : ∀ b, (next b).Through job) :
      Through job (((job k).lift Q A).bind next)

namespace Program

variable {job : κ → Program K β} {env : Environment (K.beside Q A)} {γ : Type}

theorem Through.bind {p : Program (K.beside Q A) α} {g : α → Program (K.beside Q A) γ}
    (through : p.Through job) (rest : ∀ a, (g a).Through job) : (p.bind g).Through job := by
  induction through with
  | done a => exact rest a
  | aside _ ih => exact .aside ih
  | job _ ih =>
      rw [bind_assoc]
      exact .job ih

/-- A program whose questions are answered by such programs. -/
theorem through_translate {T : Translation I (K.beside Q A)}
    (statements : ∀ {γ : Type} (effect : I.State → γ × I.State), (T.statement effect).Through job)
    (queries : ∀ query, (T.query query).Through job) (p : Program I α) :
    (p.translate T).Through job := by
  induction p with
  | done a => exact .done a
  | statement effect next ih => exact (statements effect).bind ih
  | ask query next ih => exact (queries query).bind ih

/-- What such a program does next. -/
theorem Through.next {p : Program (K.beside Q A) α} (through : p.Through job) :
    (∃ a, p = .done a) ∨
      (∃ q next, p = .ask (.inr q) next ∧ ∀ a, (next a).Through job) ∨
      ∃ k next, (job k).ended = false ∧ p = ((job k).lift Q A).bind next ∧
        ∀ b, (next b).Through job := by
  induction through with
  | done a => exact .inl ⟨a, rfl⟩
  | aside rest ih => exact .inr (.inl ⟨_, _, rfl, rest⟩)
  | @job k next rest ih =>
      cases ended : (job k).ended with
      | false => exact .inr (.inr ⟨k, next, ended, rfl, rest⟩)
      | true =>
          cases begun : job k with
          | done b => exact ih b
          | statement | ask =>
              rw [begun] at ended
              cases ended

end Program

/-- The environment of the smaller interface at one tick, at all times. -/
def Environment.left (env : Environment (K.beside Q A)) (tick : Nat) : Environment K where
  answer _ query := env.answer tick (.inl query)
  fault _ := env.fault tick

/-- The world of the smaller interface, at any time. -/
structure World.Left (small : World K) (world : World (K.beside Q A)) : Prop where
  state : small.state = world.state
  log : small.log = lefts world.log

namespace Program

variable {env : Environment (K.beside Q A)} {small : World K} {world : World (K.beside Q A)}

/-- An operation of a job, and that of the program that does it. -/
theorem step_lift {p : Program K β} {next : β → Program (K.beside Q A) α}
    (going : p.ended = false) (left : small.Left world) :
    (((p.lift Q A).bind next).step env world).1 =
        (((p.step (env.left world.clock) small).1.lift Q A).bind next) ∧
      (p.step (env.left world.clock) small).2.Left (((p.lift Q A).bind next).step env world).2 := by
  cases p with
  | done b => cases going
  | statement effect rest =>
      have same : (small.exec (env.left world.clock) effect).1 = (world.exec env effect).1 ∧
          (small.exec (env.left world.clock) effect).2.Left (world.exec env effect).2 := by
        simp only [World.exec, Environment.left, left.state]
        cases env.fault world.clock with
        | some fault => exact ⟨rfl, rfl, left.log⟩
        | none => exact ⟨rfl, rfl, left.log⟩
      refine ⟨?_, same.2⟩
      simp only [step, same.1]
      rfl
  | ask query rest =>
      refine ⟨rfl, left.state, ?_⟩
      change small.log ++ [_] = lefts (world.log ++ [_])
      simp only [lefts, List.filterMap_append, left.log, left.state]
      rfl

end Program

/-- The pool of jobs goes along with the pool that does them: each program does the rest of one of
    its jobs, or none, and later copies of the jobs have not begun. -/
structure Pool.Accompanies (job : κ → Program K β) (pool : Pool (K.beside Q A) ι α)
    (jobs : Pool K (κ × Nat) β) (begun : Nat) (doing : ι → Option (κ × Nat)) : Prop where
  left : jobs.world.Left pool.world
  fresh : ∀ k n, begun ≤ n → jobs.calls (k, n) = job k
  idle : ∀ i, doing i = none → (pool.calls i).Through job
  busy : ∀ i j, doing i = some j → j.2 < begun ∧ ∃ next, (∀ b, (next b).Through job) ∧
    pool.calls i = ((jobs.calls j).lift Q A).bind next
  apart : ∀ i i' j, doing i = some j → doing i' = some j → i = i'

namespace Pool

variable [DecidableEq ι] {job : κ → Program K β} {env : Environment (K.beside Q A)}
  {pool : Pool (K.beside Q A) ι α} {jobs : Pool K (κ × Nat) β} {begun : Nat}
  {doing : ι → Option (κ × Nat)} {i : ι}

/-- A program begins with a job. -/
theorem Accompanies.adopt (along : pool.Accompanies job jobs begun doing) {k : κ}
    {next : β → Program (K.beside Q A) α} (rest : ∀ b, (next b).Through job)
    (call : pool.calls i = ((job k).lift Q A).bind next) :
    pool.Accompanies job jobs (begun + 1) (Function.update doing i (some (k, begun))) where
  left := along.left
  fresh k' n later := along.fresh k' n (by omega)
  idle i' none := by
    by_cases same : i' = i
    · subst same
      rw [Function.update_self] at none
      cases none
    · rw [Function.update_of_ne same] at none
      exact along.idle i' none
  busy i' j doing' := by
    by_cases same : i' = i
    · subst same
      rw [Function.update_self] at doing'
      cases doing'
      exact ⟨Nat.lt_succ_self _, next, rest, (along.fresh k begun (Nat.le_refl _)).symm ▸ call⟩
    · rw [Function.update_of_ne same] at doing'
      obtain ⟨earlier, others⟩ := along.busy i' j doing'
      exact ⟨Nat.lt_succ_of_lt earlier, others⟩
  apart i₁ i₂ j first second := by
    have old (i') (other : i' ≠ i)
        (doing' : Function.update doing i (some (k, begun)) i' = some j) : j.2 < begun := by
      rw [Function.update_of_ne other] at doing'
      exact (along.busy i' j doing').1
    have new (doing' : Function.update doing i (some (k, begun)) i = some j) : j.2 = begun := by
      rw [Function.update_self] at doing'
      cases doing'
      rfl
    by_cases same₁ : i₁ = i <;> by_cases same₂ : i₂ = i
    · exact same₁.trans same₂.symm
    · subst same₁
      exact absurd (new first) (Nat.ne_of_lt (old i₂ same₂ second))
    · subst same₂
      exact absurd (new second) (Nat.ne_of_lt (old i₁ same₁ first))
    · rw [Function.update_of_ne same₁] at first
      rw [Function.update_of_ne same₂] at second
      exact along.apart i₁ i₂ j first second

/-- A program that has no job to do. -/
theorem Accompanies.rest (along : pool.Accompanies job jobs begun doing) (none : doing i = none)
    (left : jobs.world.Left (pool.step env i).world)
    (through : ((pool.step env i).calls i).Through job) :
    (pool.step env i).Accompanies job jobs begun doing where
  left := left
  fresh := along.fresh
  idle i' none' := by
    by_cases same : i' = i
    · exact same ▸ through
    · rw [step_calls_of_ne same]
      exact along.idle i' none'
  busy i' j doing' := by
    have other : i' ≠ i := by
      rintro rfl
      cases none.symm.trans doing'
    rw [step_calls_of_ne other]
    exact along.busy i' j doing'
  apart := along.apart

/-- A program that is done with its job. -/
theorem Accompanies.settle (along : pool.Accompanies job jobs begun doing) {j : κ × Nat}
    (doing' : doing i = some j) (ended : (jobs.calls j).ended = true) :
    pool.Accompanies job jobs begun (Function.update doing i none) where
  left := along.left
  fresh := along.fresh
  idle i' none' := by
    by_cases same : i' = i
    · subst same
      obtain ⟨-, next, rest, call⟩ := along.busy i' j doing'
      cases result : jobs.calls j with
      | done b =>
          rw [call, result]
          exact rest b
      | statement | ask =>
          rw [result] at ended
          cases ended
    · rw [Function.update_of_ne same] at none'
      exact along.idle i' none'
  busy i' j' busy := by
    have other : i' ≠ i := by
      rintro rfl
      rw [Function.update_self] at busy
      cases busy
    rw [Function.update_of_ne other] at busy
    exact along.busy i' j' busy
  apart i₁ i₂ j' first second := by
    have still (i') (busy : Function.update doing i none i' = some j') : doing i' = some j' := by
      by_cases same : i' = i
      · subst same
        rw [Function.update_self] at busy
        cases busy
      · rwa [Function.update_of_ne same] at busy
    exact along.apart i₁ i₂ j' (still i₁ first) (still i₂ second)

variable [DecidableEq κ]

/-- An operation of a job. -/
theorem Accompanies.work (along : pool.Accompanies job jobs begun doing) {j : κ × Nat}
    (doing' : doing i = some j) (going : (jobs.calls j).ended = false) :
    (pool.step env i).Accompanies job (jobs.step (env.left pool.world.clock) j) begun doing := by
  obtain ⟨earlier, next, rest, call⟩ := along.busy i j doing'
  have lifted : ((((jobs.calls j).lift Q A).bind next).step env pool.world).1 = _ ∧ _ :=
    Program.step_lift going along.left
  obtain ⟨calls, left⟩ := lifted
  refine ⟨?_, fun k n later => ?_, fun i' none => ?_, fun i' j' busy => ?_, along.apart⟩
  · rw [← call] at left
    exact left
  · rw [step_calls_of_ne]
    · exact along.fresh k n later
    · rintro rfl
      exact Nat.not_lt.mpr later earlier
  · have other : i' ≠ i := by
      rintro rfl
      cases none.symm.trans doing'
    rw [step_calls_of_ne other]
    exact along.idle i' none
  · by_cases same : i' = i
    · subst same
      cases doing'.symm.trans busy
      refine ⟨earlier, next, rest, ?_⟩
      rw [step_calls_self, step_calls_self, call]
      exact calls
    · obtain ⟨earlier', next', rest', call'⟩ := along.busy i' j' busy
      have other : j' ≠ j := by
        rintro rfl
        exact same (along.apart i' i j' busy doing')
      exact ⟨earlier', next', rest', by rw [step_calls_of_ne same, step_calls_of_ne other, call']⟩

/-- Every operation is one of a job, or none. -/
theorem Accompanies.step (along : pool.Accompanies job jobs begun doing)
    (env : Environment (K.beside Q A)) (i : ι) : ∃ jobs' begun' doing',
      Relation.ReflTransGen Advances jobs jobs' ∧
        (pool.step env i).Accompanies job jobs' begun' doing' := by
  have fromRest {begun doing} (along : pool.Accompanies job jobs begun doing)
      (none : doing i = none) : ∃ jobs' begun' doing', Relation.ReflTransGen Advances jobs jobs' ∧
        (pool.step env i).Accompanies job jobs' begun' doing' := by
    have world : (pool.step env i).world = ((pool.calls i).step env pool.world).2 := rfl
    have calls : (pool.step env i).calls i = _ := step_calls_self
    obtain ⟨a, call⟩ | ⟨q, next, call, rest⟩ | ⟨k, next, going, call, rest⟩ :=
      (along.idle i none).next
    · rw [call] at world calls
      exact ⟨jobs, begun, doing, .refl, along.rest none (world ▸ along.left) (calls ▸ .done a)⟩
    · rw [call] at world calls
      refine ⟨jobs, begun, doing, .refl, along.rest none (world ▸ ?_) (calls ▸ rest _)⟩
      refine ⟨along.left.state, along.left.log.trans ?_⟩
      simp [lefts, Program.step, World.ask, Event.left?]
    · have adopted := along.adopt rest call
      have doing' : Function.update doing i (some (k, begun)) i = some (k, begun) :=
        Function.update_self ..
      have unended : (jobs.calls (k, begun)).ended = false := by
        rw [along.fresh k begun (Nat.le_refl _), going]
      exact ⟨_, _, _, .single ⟨_, _, rfl⟩, adopted.work doing' unended⟩
  cases doing' : doing i with
  | none => exact fromRest along doing'
  | some j =>
      cases ended : (jobs.calls j).ended with
      | true => exact fromRest (along.settle doing' ended) (Function.update_self ..)
      | false => exact ⟨_, _, _, .single ⟨_, _, rfl⟩, along.work doing' ended⟩

/-- Each job, as often as it is needed. -/
def copies (job : κ → Program K β) (world : World (K.beside Q A)) : Pool K (κ × Nat) β :=
  .start ⟨world.state, lefts world.log, world.clock⟩ fun j => job j.1

/-- Whatever is done by programs that do jobs can be done by the jobs. -/
theorem exists_play_jobs {calls : ι → Program (K.beside Q A) α}
    (through : ∀ i, (calls i).Through job) (world : World (K.beside Q A))
    (env : Environment (K.beside Q A)) (schedule : List ι) :
    ∃ (env' : Environment K) (schedule' : List (κ × Nat)),
      ((copies job world).play env' schedule').world.Left
        ((Pool.start world calls).play env schedule).world := by
  have onwards (pool : Pool (K.beside Q A) ι α) (jobs : Pool K (κ × Nat) β) (begun doing)
      (along : pool.Accompanies job jobs begun doing) : ∃ jobs',
        Relation.ReflTransGen Advances jobs jobs' ∧
          jobs'.world.Left (pool.play env schedule).world := by
    induction schedule generalizing pool jobs begun doing with
    | nil => exact ⟨jobs, .refl, along.left⟩
    | cons i schedule ih =>
        obtain ⟨between, begun', doing', first, along⟩ := along.step env i
        obtain ⟨jobs', later, left⟩ := ih _ between begun' doing' along
        exact ⟨jobs', first.trans later, left⟩
  obtain ⟨jobs', reaches, left⟩ := onwards (.start world calls) (copies job world) 0 (fun _ => none)
    ⟨⟨rfl, rfl⟩, fun _ _ _ => rfl, fun i _ => through i, nofun, nofun⟩
  obtain ⟨env', schedule', rfl⟩ := exists_play (env.left 0) reaches
  exact ⟨env', schedule', left⟩

end Pool

end Resumption
