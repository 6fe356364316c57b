import Mathlib.Data.Set.Insert
import TapTrade.Resumption.Questions
import TapTrade.Resumption.Typestate

/-! # Programs that run on other programs

A program asks questions without knowing who answers. `Program.translate` answers the questions
of one interface by programs over another one: a client whose requests are served by a handler
becomes one program over the state of the server. `Interface.beside` adds questions to an
interface, and a program is lifted to it as it is.
-/

namespace Resumption

variable {I J : Interface} {α β ε ε' : Type}

/-- How the statements and questions of one interface are done over another one. -/
structure Translation (I J : Interface) where
  statement {β : Type} (effect : I.State → β × I.State) : Program J (Except I.Fault β)
  query (query : I.Query) : Program J (I.Answer query)

namespace Program

variable (T : Translation I J)

def translate : Program I α → Program J α
  | .done a => .done a
  | .statement effect next => (T.statement effect).bind fun result => (next result).translate
  | .ask query next => (T.query query).bind fun answer => (next answer).translate

theorem translate_bind (p : Program I α) (g : α → Program I β) :
    (p.bind g).translate T = (p.translate T).bind fun a => (g a).translate T := by
  induction p with
  | done a => rfl
  | statement effect next ih => simp only [bind, translate, bind_assoc, ih]
  | ask query next ih => simp only [bind, translate, bind_assoc, ih]

end Program

namespace Interface

/-- The same shared state, with questions of a further kind. -/
@[reducible] def beside (K : Interface) (Q : Type) (A : Q → Type) : Interface where
  State := K.State
  Query := K.Query ⊕ Q
  Answer := Sum.elim K.Answer A
  Fault := K.Fault

end Interface

variable {K : Interface} {Q : Type} {A : Q → Type}

/-- The question of the smaller interface, if it is one. -/
def Event.left? : Event (K.beside Q A) → Option (Event K)
  | ⟨.inl query, answer, state⟩ => some ⟨query, answer, state⟩
  | ⟨.inr _, _, _⟩ => none

/-- The log of the smaller interface. -/
def lefts (log : List (Event (K.beside Q A))) : List (Event K) := log.filterMap Event.left?

theorem mem_lefts {log : List (Event (K.beside Q A))} {query : K.Query} {answer : K.Answer query}
    {state : K.State} : ⟨query, answer, state⟩ ∈ lefts log ↔ ⟨.inl query, answer, state⟩ ∈ log := by
  rw [lefts, List.mem_filterMap]
  constructor
  · rintro ⟨⟨_ | _, answer', state'⟩, member, same⟩
    · cases same
      exact member
    · cases same
  · exact fun member => ⟨_, member, rfl⟩

/-- A program of the smaller interface, as it is. -/
def Translation.left (K : Interface) (Q : Type) (A : Q → Type) :
    Translation K (K.beside Q A) where
  statement effect := .statement effect .done
  query query := .ask (.inl query) .done

namespace Program

/-- The program over an interface with more questions. -/
def lift (Q : Type) (A : Q → Type) (p : Program K α) : Program (K.beside Q A) α :=
  p.translate (Translation.left K Q A)

/-- A lifted program keeps to a typestate of the larger interface in which the tokens of the
    smaller one stand for some of its own. -/
theorem Follows.lift {S : Typestate K} {S' : Typestate (K.beside Q A)} {as : S.Token → S'.Token}
    (writes : ∀ n token state state' token', S.writes n token state state' token' →
      S'.writes n (as token) state state' (as token'))
    (asks : ∀ token query answer token', S.asks token query answer token' →
      S'.asks (as token) (.inl query) answer (as token'))
    {post : Nat → S.Token → α → Prop} {p : Program K α} {n : Nat} {token : S.Token}
    (follows : p.Follows S post n token) :
    (p.lift Q A).Follows S' (fun n token' a => ∃ token, token' = as token ∧ post n token a)
      n (as token) := by
  induction p generalizing n token with
  | done a => exact ⟨token, rfl, follows⟩
  | statement effect next ih =>
      refine ⟨fun state => ?_, fun fault => ih _ (follows.2 fault)⟩
      obtain ⟨token', written, rest⟩ := follows.1 state
      exact ⟨as token', writes _ _ _ _ _ written, ih _ rest⟩
  | ask query next ih =>
      intro answer
      obtain ⟨token', permitted, rest⟩ := follows answer
      exact ⟨as token', asks _ _ _ _ permitted, ih _ rest⟩

end Program

section Simulation

variable {S : Typestate I} {S' : Typestate J} {T : Translation I J}
  {related : S.Token → S'.Token → Prop}

/-- A program that keeps to a typestate, on programs that keep to another one: as long as each
    question is answered so that the tokens stay related, they stay related to the end. The
    program has no statements of its own. -/
theorem Program.Follows.translate (alone : ∀ n token state state' token',
      ¬ S.writes n token state state' token') [Inhabited I.State]
    (answered : ∀ n token token' query, related token token' →
      (∀ answer, ∃ after, S.asks token query answer after) →
      (T.query query).Follows S' (fun _ after' answer => ∀ after,
        S.asks token query answer after → related after after') n token')
    {post : S.Token → α → Prop} {p : Program I α} {n n' : Nat} {token : S.Token}
    {token' : S'.Token} (follows : p.Follows S (fun _ => post) n token)
    (start : related token token') :
    (p.translate T).Follows S' (fun _ after' a => ∃ after, post after a ∧ related after after')
      n' token' := by
  induction p generalizing n n' token token' with
  | done a => exact ⟨token, follows, start⟩
  | statement effect next ih =>
      obtain ⟨after, writes, -⟩ := follows.1 default
      exact absurd writes (alone _ _ _ _ _)
  | ask query next ih =>
      have permitted (answer) : ∃ after, S.asks token query answer after := by
        obtain ⟨after, asks, -⟩ := follows answer
        exact ⟨after, asks⟩
      apply Program.Follows.bind
      apply Program.Follows.mono (answered n' token token' query start permitted)
      intro n'' after' answer ends
      obtain ⟨after, asks, rest⟩ := follows answer
      exact ih answer rest (ends after asks)

end Simulation

namespace Pool

variable {ι : Type} [DecidableEq ι] {S : Typestate I} {env : Environment I}

/-- The states in which a program of the pool has acted. -/
def seen (pool : Pool I ι α) : Set I.State := {state | ∃ i, state ∈ pool.past i}

theorem seen_step (pool : Pool I ι α) (i : ι) : (pool.step env i).seen =
    if (pool.calls i).ended then pool.seen else insert pool.world.state pool.seen := by
  ext state
  have mine : (pool.step env i).past i =
      if (pool.calls i).ended then pool.past i else pool.past i ++ [pool.world.state] := by
    simp [Pool.step]
  have others (j) (other : j ≠ i) : (pool.step env i).past j = pool.past j := step_past_of_ne other
  split at mine
  case isTrue ended =>
    have same (j) : (pool.step env i).past j = pool.past j := by
      by_cases other : j = i
      · exact other ▸ mine
      · exact others j other
    simp [seen, same, ended]
  case isFalse going =>
    simp only [seen, going, Bool.false_eq_true, if_false, Set.mem_ofPred_eq, Set.mem_insert_iff]
    constructor
    · rintro ⟨j, member⟩
      by_cases other : j = i
      · subst other
        rw [mine, List.mem_append, List.mem_singleton] at member
        exact member.symm.imp_right fun earlier => ⟨j, earlier⟩
      · exact .inr ⟨j, others j other ▸ member⟩
    · rintro (rfl | ⟨j, member⟩)
      · exact ⟨i, mine ▸ List.mem_append_right _ (List.mem_singleton_self _)⟩
      · exact ⟨j, (past_grows_step pool i j).subset member⟩

theorem log_step (pool : Pool I ι α) (i : ι) : pool.world.log <+: (pool.step env i).world.log := by
  change pool.world.log <+: ((pool.calls i).step env pool.world).2.log
  cases pool.calls i with
  | done a => exact List.prefix_rfl
  | statement effect next =>
      rw [Program.step, World.exec_log]
  | ask query next => exact List.prefix_append _ _

theorem log_play (pool : Pool I ι α) (schedule : List ι) :
    pool.world.log <+: (pool.play env schedule).world.log := by
  induction schedule generalizing pool with
  | nil => exact List.prefix_rfl
  | cons i schedule ih => exact (log_step pool i).trans (ih _)

/-- What was seen in a run was the state of an earlier point of it. -/
theorem earlier_of_seen {pool : Pool I ι α} {schedule : List ι} {state : I.State}
    (seen : state ∈ (pool.play env schedule).seen) :
    state ∈ pool.seen ∨ ∃ earlier, earlier <+: schedule ∧
      (pool.play env earlier).world.state = state := by
  induction schedule generalizing pool with
  | nil => exact .inl seen
  | cons i schedule ih =>
      obtain before | ⟨earlier, part, same⟩ := ih seen
      · rw [seen_step] at before
        split at before
        case isTrue => exact .inl before
        case isFalse =>
          obtain rfl | before := before
          · exact .inr ⟨[], List.nil_prefix, rfl⟩
          · exact .inl before
      · exact .inr ⟨i :: earlier, List.cons_prefix_cons.mpr ⟨rfl, part⟩, same⟩

/-- The programs of the pool hold tokens with which a property of the pool holds: of its world
    and of what its programs have seen. -/
def Witnessed (S : Typestate I) (post : ι → Nat → S.Token → α → Prop)
    (holds : (ι → S.Token) → Pool I ι α → Prop) (pool : Pool I ι α) : Prop :=
  ∃ tokens, pool.Pursuing S post tokens ∧ holds tokens pool

/-- What every permitted move preserves holds after every schedule. -/
theorem witnessed_play {post : ι → Nat → S.Token → α → Prop}
    {holds : (ι → S.Token) → Pool I ι α → Prop}
    (preserved : ∀ (pool : Pool I ι α) tokens i token, holds tokens pool →
      pool.Moves S env i (tokens i) token →
      holds (Function.update tokens i token) (pool.step env i))
    (schedule : List ι) {pool : Pool I ι α} (start : pool.Witnessed S post holds) :
    (pool.play env schedule).Witnessed S post holds := by
  induction schedule generalizing pool with
  | nil => exact start
  | cons i schedule ih =>
      obtain ⟨tokens, following, now⟩ := start
      obtain ⟨token, next, moves⟩ := following.step env i
      exact ih ⟨_, next, preserved pool tokens i token now moves⟩

end Pool

end Resumption
