import TapTrade.Resumption.Course
import TapTrade.Resumption.Operation

/-! # Typestates

What a program may do next can depend on what it has done: a name that it generated is its own
until it has used it, a row that it deleted is its to insert elsewhere. A `Typestate` gives every
program a token for this and says which writes a token permits and what token they leave.
`Program.Follows` checks a program against it, whoever acts in between, and `Pool.Following`
follows all programs of a pool at once. Nothing but the tokens, the state and the log is left to
reason about then.
-/

namespace Resumption

variable {I : Interface} {ι α β ε ε' : Type}

structure Typestate (I : Interface) where
  Token : Type
  /-- With the token, the operation of that number may turn the state into the other one, and
      leaves the other token. -/
  writes : Nat → Token → I.State → I.State → Token → Prop
  /-- With the token, the answer to the question may leave the other token. -/
  asks : Token → (query : I.Query) → I.Answer query → Token → Prop

namespace Program

/-- The program keeps to the typestate, with a token and `n` operations made. -/
def Follows (S : Typestate I) (post : Nat → S.Token → α → Prop) :
    Nat → S.Token → Program I α → Prop
  | n, token, .done a => post n token a
  | n, token, .statement effect next =>
      (∀ state, ∃ token', S.writes n token state (effect state).2 token' ∧
        (next (.ok (effect state).1)).Follows S post (n + 1) token') ∧
      ∀ fault, (next (.error fault)).Follows S post (n + 1) token
  | n, token, .ask query next => ∀ answer, ∃ token', S.asks token query answer token' ∧
      (next answer).Follows S post (n + 1) token'

variable {S : Typestate I} {n : Nat} {token : S.Token}

theorem Follows.bind {post : Nat → S.Token → β → Prop} {p : Program I α} {g : α → Program I β}
    (follows : p.Follows S (fun n token a => (g a).Follows S post n token) n token) :
    (p.bind g).Follows S post n token := by
  induction p generalizing n token with
  | done a => exact follows
  | statement effect next ih =>
      refine ⟨fun state => ?_, fun fault => ih _ (follows.2 fault)⟩
      obtain ⟨token', writes, rest⟩ := follows.1 state
      exact ⟨token', writes, ih _ rest⟩
  | ask query next ih =>
      intro answer
      obtain ⟨token', asks, rest⟩ := follows answer
      exact ⟨token', asks, ih _ rest⟩

theorem Follows.mono {post post' : Nat → S.Token → α → Prop} {p : Program I α}
    (follows : p.Follows S post n token)
    (weaker : ∀ n token a, post n token a → post' n token a) : p.Follows S post' n token := by
  induction p generalizing n token with
  | done a => exact weaker n token a follows
  | statement effect next ih =>
      refine ⟨fun state => ?_, fun fault => ih _ (follows.2 fault)⟩
      obtain ⟨token', writes, rest⟩ := follows.1 state
      exact ⟨token', writes, ih _ rest⟩
  | ask query next ih =>
      intro answer
      obtain ⟨token', asks, rest⟩ := follows answer
      exact ⟨token', asks, ih _ rest⟩

/-- A program whose statements and questions the token permits at any time, and which leave it
    as it is. -/
theorem Keeps.follows {allowed : I.State → I.State → Prop} {post : Nat → S.Token → α → Prop}
    {p : Program I α} (keeps : p.Keeps allowed)
    (writes : ∀ n state state', allowed state state' → S.writes n token state state' token)
    (asks : ∀ query answer, S.asks token query answer token)
    (ends : ∀ n a, post n token a) : p.Follows S post n token := by
  induction p generalizing n with
  | done a => exact ends n a
  | statement effect next ih =>
      exact ⟨fun state => ⟨token, writes n _ _ (keeps.1 state), ih _ (keeps.2 _)⟩,
        fun fault => ih _ (keeps.2 _)⟩
  | ask query next ih => exact fun answer => ⟨token, asks query answer, ih _ (keeps answer)⟩

/-- The same with the number of operations that the program makes. -/
theorem Keeps.follows_timed {allowed : I.State → I.State → Prop} {ends : Nat → α → Prop}
    {post : Nat → S.Token → α → Prop} {p : Program I α} (keeps : p.Keeps allowed)
    (timed : p.Timed ends n)
    (writes : ∀ n state state', allowed state state' → S.writes n token state state' token)
    (asks : ∀ query answer, S.asks token query answer token)
    (after : ∀ n a, ends n a → post n token a) : p.Follows S post n token := by
  induction p generalizing n with
  | done a => exact after n a timed
  | statement effect next ih =>
      exact ⟨fun state => ⟨token, writes n _ _ (keeps.1 state), ih _ (keeps.2 _) (timed _)⟩,
        fun fault => ih _ (keeps.2 _) (timed _)⟩
  | ask query next ih =>
      exact fun answer => ⟨token, asks query answer, ih _ (keeps answer) (timed answer)⟩

end Program

namespace Call

variable {S : Typestate I} {n : Nat} {token : S.Token}

/-- The call keeps to the typestate; the postcondition is about the value it returns. -/
def Follows (S : Typestate I) (post : Nat → S.Token → α → Prop) (n : Nat) (token : S.Token)
    (c : Call I ε α) : Prop :=
  Program.Follows S (fun n token result => ∀ a, result = .ok a → post n token a) n token c.run

variable {post : Nat → S.Token → α → Prop}

theorem follows_pure {a : α} (ends : post n token a) :
    (pure a : Call I ε α).Follows S post n token := by
  intro b same
  cases same
  exact ends

theorem follows_fail (e : ε) : (fail e : Call I ε α).Follows S post n token := by
  intro b same
  cases same

theorem follows_panic : (panic : Call I ε α).Follows S post n token := by
  intro b same
  cases same

theorem follows_ofExcept {x : Except ε α} (ends : ∀ a, x = .ok a → post n token a) :
    (ofExcept x : Call I ε α).Follows S post n token := by
  cases x with
  | ok a => exact follows_pure (ends a rfl)
  | error e => exact follows_fail e

theorem follows_ofOption {e : ε} {x : Option α} (ends : ∀ a, x = some a → post n token a) :
    (ofOption e x : Call I ε α).Follows S post n token := by
  cases x with
  | some a => exact follows_pure (ends a rfl)
  | none => exact follows_fail e

theorem Follows.bind {c : Call I ε α} {g : α → Call I ε β} {post : Nat → S.Token → β → Prop}
    (follows : c.Follows S (fun n token a => (g a).Follows S post n token) n token) :
    (c >>= g).Follows S post n token := by
  apply Program.Follows.bind
  apply Program.Follows.mono follows
  intro n token result ends
  cases result with
  | ok a => exact ends a rfl
  | error e =>
      intro b same
      cases same

theorem Follows.mapError {f : ε → ε'} {c : Call I ε α} (follows : c.Follows S post n token) :
    (c.mapError f).Follows S post n token := by
  apply Program.Follows.bind
  apply Program.Follows.mono follows
  intro n token result ends a same
  exact ends a (Outcome.mapError_eq_ok.mp same)

theorem follows_ask {q : I.Query} {post : Nat → S.Token → I.Answer q → Prop}
    (asks : ∀ answer, ∃ token', S.asks token q answer token' ∧ post (n + 1) token' answer) :
    (ask q : Call I ε _).Follows S post n token := by
  intro answer
  obtain ⟨token', permitted, ends⟩ := asks answer
  exact ⟨token', permitted, follows_pure ends⟩

theorem follows_statement {fault : I.Fault → ε} {effect : I.State → α × I.State}
    (writes : ∀ state, ∃ token', S.writes n token state (effect state).2 token' ∧
      post (n + 1) token' (effect state).1) :
    (statement fault effect).Follows S post n token := by
  refine ⟨fun state => ?_, fun failure => follows_fail (fault failure)⟩
  obtain ⟨token', permitted, ends⟩ := writes state
  exact ⟨token', permitted, follows_pure ends⟩

theorem Keeps.follows {allowed : I.State → I.State → Prop} {c : Call I ε α}
    (keeps : c.Keeps allowed)
    (writes : ∀ n state state', allowed state state' → S.writes n token state state' token)
    (asks : ∀ query answer, S.asks token query answer token)
    (ends : ∀ n a, post n token a) : c.Follows S post n token :=
  Program.Keeps.follows keeps writes asks fun n _ a _ => ends n a

theorem Keeps.follows_timed {allowed : I.State → I.State → Prop} {ends : Nat → α → Prop}
    {c : Call I ε α} (keeps : c.Keeps allowed) (timed : c.Timed ends n)
    (writes : ∀ n state state', allowed state state' → S.writes n token state state' token)
    (asks : ∀ query answer, S.asks token query answer token)
    (after : ∀ n a, ends n a → post n token a) : c.Follows S post n token :=
  Program.Keeps.follows_timed keeps timed writes asks fun n _ held a same => after n a (held a same)

end Call

namespace Pool

variable [DecidableEq ι] {S : Typestate I} {env : Environment I} {pool : Pool I ι α} {i : ι}
  {post : ι → Nat → S.Token → α → Prop}

/-- What a step of a program does that holds the first token: the program has ended or its
    statement fails, it writes, or it asks. -/
inductive Moves (S : Typestate I) (env : Environment I) (pool : Pool I ι α) (i : ι)
    (token : S.Token) : S.Token → Prop
  | rests (state : (pool.step env i).world.state = pool.world.state)
      (log : (pool.step env i).world.log = pool.world.log) : Moves S env pool i token token
  | writes {n : Nat} {token' : S.Token} (about : pool.About i n)
      (unfailing : env.fault pool.world.clock = none)
      (permitted : S.writes n token pool.world.state (pool.step env i).world.state token')
      (log : (pool.step env i).world.log = pool.world.log) : Moves S env pool i token token'
  | asks {n : Nat} {query : I.Query} {token' : S.Token} (about : pool.About i n)
      (permitted : S.asks token query (env.answer pool.world.clock query) token')
      (state : (pool.step env i).world.state = pool.world.state)
      (log : (pool.step env i).world.log = pool.world.log ++
        [⟨query, env.answer pool.world.clock query, pool.world.state⟩]) :
      Moves S env pool i token token'

/-- Every program keeps to the typestate, with its token, and ends with its postcondition. -/
def Pursuing (S : Typestate I) (post : ι → Nat → S.Token → α → Prop) (pool : Pool I ι α)
    (tokens : ι → S.Token) : Prop :=
  ∀ i, (pool.calls i).Follows S (post i) (pool.past i).length (tokens i)

theorem Pursuing.step {tokens : ι → S.Token} (following : pool.Pursuing S post tokens)
    (env : Environment I) (i : ι) :
    ∃ token, (pool.step env i).Pursuing S post (Function.update tokens i token) ∧
      pool.Moves S env i (tokens i) token := by
  have follows (token : S.Token) (self : ((pool.calls i).step env pool.world).1.Follows S (post i)
      (if (pool.calls i).ended then (pool.past i).length else (pool.past i).length + 1) token) :
      (pool.step env i).Pursuing S post (Function.update tokens i token) := by
    apply Pool.forall_step fun j n p =>
      p.Follows S (post j) n (Function.update tokens i token j)
    · intro j other
      rw [Function.update_of_ne other]
      exact following j
    · rw [Function.update_self]
      exact self
  have mine := following i
  have world : (pool.step env i).world = ((pool.calls i).step env pool.world).2 := rfl
  cases call : pool.calls i with
  | done a =>
      rw [call] at follows world
      rw [call] at mine
      exact ⟨tokens i, follows _ mine, .rests (by rw [world]; rfl) (by rw [world]; rfl)⟩
  | statement effect next =>
      have about : pool.About i (pool.past i).length := ⟨by rw [call]; rfl, rfl⟩
      rw [call] at follows mine world
      cases fault : env.fault pool.world.clock with
      | some failure =>
          refine ⟨tokens i, follows _ ?_, .rests ?_ ?_⟩
          · simp only [Program.step, World.exec, fault]
            exact mine.2 failure
          · simp only [world, Program.step, World.exec, fault]
          · simp only [world, Program.step, World.exec, fault]
      | none =>
          obtain ⟨token, writes, rest⟩ := mine.1 pool.world.state
          refine ⟨token, follows _ ?_, .writes about fault ?_ ?_⟩
          · simp only [Program.step, World.exec, fault]
            exact rest
          · simp only [world, Program.step, World.exec, fault]
            exact writes
          · simp only [world, Program.step, World.exec, fault]
  | ask query next =>
      have about : pool.About i (pool.past i).length := ⟨by rw [call]; rfl, rfl⟩
      rw [call] at follows mine world
      obtain ⟨token, asks, rest⟩ := mine (env.answer pool.world.clock query)
      exact ⟨token, follows _ rest, .asks about asks (by rw [world]; rfl) (by rw [world]; rfl)⟩

/-- Every program keeps to the typestate, with its token. -/
def Following (S : Typestate I) (pool : Pool I ι α) (tokens : ι → S.Token) : Prop :=
  ∀ i, (pool.calls i).Follows S (fun _ _ _ => True) (pool.past i).length (tokens i)

theorem Following.step {tokens : ι → S.Token} (following : pool.Following S tokens)
    (env : Environment I) (i : ι) :
    ∃ token, (pool.step env i).Following S (Function.update tokens i token) ∧
      pool.Moves S env i (tokens i) token := Pursuing.step following env i

/-- The programs of the pool hold tokens for which the property holds. -/
def Governed (S : Typestate I) (holds : (ι → S.Token) → World I → Prop) (pool : Pool I ι α) : Prop :=
  ∃ tokens, pool.Following S tokens ∧ holds tokens pool.world

/-- What every permitted move preserves holds after every schedule. -/
theorem governed_foldl {holds : (ι → S.Token) → World I → Prop} {condition : Pool I ι α → ι → Prop}
    (preserved : ∀ (pool : Pool I ι α) tokens i token, holds tokens pool.world →
      condition pool i → pool.Moves S env i (tokens i) token →
      holds (Function.update tokens i token) (pool.step env i).world)
    {schedule : List ι} (start : pool.Governed S holds)
    (met : Course.Throughout (Pool.step env) condition pool schedule) :
    (pool.play env schedule).Governed S holds := by
  apply Course.invariant_foldl (Governed S holds) ?_ start met
  rintro pool i ⟨tokens, following, now⟩ meets
  obtain ⟨token, next, moves⟩ := following.step env i
  exact ⟨_, next, preserved pool tokens i token now meets moves⟩

/-- The same for moves that need no condition. -/
theorem governed_play {holds : (ι → S.Token) → World I → Prop}
    (preserved : ∀ (pool : Pool I ι α) tokens i token, holds tokens pool.world →
      pool.Moves S env i (tokens i) token →
      holds (Function.update tokens i token) (pool.step env i).world)
    (schedule : List ι) (start : pool.Governed S holds) :
    (pool.play env schedule).Governed S holds := by
  have met : Course.Throughout (Pool.step env) (fun _ _ => True) pool schedule :=
    Course.throughout_of_mem fun _ _ _ => trivial
  exact governed_foldl (fun pool tokens i token now _ => preserved pool tokens i token now) start met

end Pool

end Resumption
