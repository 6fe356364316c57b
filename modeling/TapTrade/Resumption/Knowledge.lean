import Mathlib.Data.Set.Insert
import TapTrade.Resumption.Questions
import TapTrade.Resumption.Typestate

/-! # What a program knows

Between two statements of a program others act, so that what it has read need not hold any more
when it writes. But it did hold when it was read: a program knows facts about the states in which
it has acted, and the answers that it was given. `Knowing` is the typestate of programs whose
writes and questions are permitted by what they know.
-/

namespace Resumption

variable {I : Interface} {α β ε ε' : Type}

structure Knowledge (I : Interface) where
  /-- Each fact held in some state in which the program has acted. -/
  seen : Set (I.State → Prop)
  heard : Set ((query : I.Query) × I.Answer query)

namespace Knowledge

/-- What is known before the first operation. -/
def nothing : Knowledge I := ⟨∅, ∅⟩

def see (k : Knowledge I) (fact : I.State → Prop) : Knowledge I :=
  { k with seen := insert fact k.seen }

def hear (k : Knowledge I) (query : I.Query) (answer : I.Answer query) : Knowledge I :=
  { k with heard := insert ⟨query, answer⟩ k.heard }

/-- The fact follows from one that was seen. -/
def Knows (k : Knowledge I) (fact : I.State → Prop) : Prop :=
  ∃ seen ∈ k.seen, ∀ state, seen state → fact state

instance : LE (Knowledge I) := ⟨fun k k' => k.seen ⊆ k'.seen ∧ k.heard ⊆ k'.heard⟩

variable {k k' k'' : Knowledge I} {fact fact' : I.State → Prop} {query : I.Query}
  {answer : I.Answer query}

theorem le_refl : k ≤ k := ⟨subset_rfl, subset_rfl⟩

theorem le_trans (first : k ≤ k') (second : k' ≤ k'') : k ≤ k'' :=
  ⟨first.1.trans second.1, first.2.trans second.2⟩

theorem le_see : k ≤ k.see fact := ⟨Set.subset_insert _ _, subset_rfl⟩

theorem le_hear : k ≤ k.hear query answer := ⟨subset_rfl, Set.subset_insert _ _⟩

theorem Knows.mono (knows : k.Knows fact) (more : k ≤ k') : k'.Knows fact := by
  obtain ⟨seen, member, implies⟩ := knows
  exact ⟨seen, more.1 member, implies⟩

theorem Knows.imp (knows : k.Knows fact) (weaker : ∀ state, fact state → fact' state) :
    k.Knows fact' := by
  obtain ⟨seen, member, implies⟩ := knows
  exact ⟨seen, member, fun state held => weaker state (implies state held)⟩

theorem knows_see : (k.see fact).Knows fact := ⟨fact, Set.mem_insert _ _, fun _ => id⟩

theorem mem_hear : ⟨query, answer⟩ ∈ (k.hear query answer).heard := Set.mem_insert _ _

/-- What is known was so: in one of the states, and in the log. -/
structure Holds (k : Knowledge I) (states : Set I.State) (log : List (Event I)) : Prop where
  seen : ∀ fact ∈ k.seen, ∃ state ∈ states, fact state
  heard : ∀ query answer, ⟨query, answer⟩ ∈ k.heard → ∃ state, ⟨query, answer, state⟩ ∈ log

variable {states states' : Set I.State} {log log' : List (Event I)}

theorem holds_nothing : (nothing : Knowledge I).Holds states log := ⟨nofun, nofun⟩

theorem Holds.mono (holds : k.Holds states log) (more : states ⊆ states') (longer : log ⊆ log') :
    k.Holds states' log' := by
  refine ⟨fun fact known => ?_, fun query answer known => ?_⟩
  · obtain ⟨state, member, held⟩ := holds.seen fact known
    exact ⟨state, more member, held⟩
  · obtain ⟨state, member⟩ := holds.heard query answer known
    exact ⟨state, longer member⟩

theorem Holds.see (holds : k.Holds states log) {state : I.State} (member : state ∈ states)
    (held : fact state) : (k.see fact).Holds states log := by
  refine ⟨fun other known => ?_, holds.heard⟩
  obtain rfl | earlier := known
  · exact ⟨state, member, held⟩
  · exact holds.seen other earlier

theorem Holds.hear (holds : k.Holds states log) {state : I.State}
    (member : ⟨query, answer, state⟩ ∈ log) : (k.hear query answer).Holds states log := by
  refine ⟨holds.seen, fun other answer' known => ?_⟩
  obtain same | earlier := known
  · cases same
    exact ⟨state, member⟩
  · exact holds.heard other answer' earlier

theorem Holds.knows (holds : k.Holds states log) (knows : k.Knows fact) :
    ∃ state ∈ states, fact state := by
  obtain ⟨seen, member, implies⟩ := knows
  obtain ⟨state, there, held⟩ := holds.seen seen member
  exact ⟨state, there, implies state held⟩

end Knowledge

/-- The typestate of programs that write and ask as their knowledge permits. -/
@[reducible] def Knowing (writes : Knowledge I → I.State → I.State → Prop)
    (asks : Knowledge I → I.Query → Prop) : Typestate I where
  Token := Knowledge I
  writes _ k state state' k' := writes k state state' ∧ ∃ fact, fact state ∧ k' = k.see fact
  asks k query answer k' := asks k query ∧ k' = k.hear query answer

variable {writes : Knowledge I → I.State → I.State → Prop} {asks : Knowledge I → I.Query → Prop}

/-- The program keeps to `Knowing`, and ends with knowledge that satisfies the postcondition. -/
def Program.Learns (writes : Knowledge I → I.State → I.State → Prop)
    (asks : Knowledge I → I.Query → Prop) (post : Knowledge I → α → Prop) (k : Knowledge I)
    (p : Program I α) : Prop := ∀ n, p.Follows (Knowing writes asks) (fun _ => post) n k

namespace Call

/-- The same for a call; the postcondition is about the value it returns. -/
def Learns (writes : Knowledge I → I.State → I.State → Prop)
    (asks : Knowledge I → I.Query → Prop) (post : Knowledge I → α → Prop) (k : Knowledge I)
    (c : Call I ε α) : Prop := ∀ n, c.Follows (Knowing writes asks) (fun _ => post) n k

variable {k : Knowledge I} {post : Knowledge I → α → Prop}

theorem learns_pure {a : α} (ends : post k a) : (pure a : Call I ε α).Learns writes asks post k :=
  fun _ => follows_pure ends

theorem learns_fail (e : ε) : (fail e : Call I ε α).Learns writes asks post k :=
  fun _ => follows_fail e

theorem learns_panic : (panic : Call I ε α).Learns writes asks post k := fun _ => follows_panic

theorem learns_ofExcept {x : Except ε α} (ends : ∀ a, x = .ok a → post k a) :
    (ofExcept x : Call I ε α).Learns writes asks post k := fun _ => follows_ofExcept ends

theorem learns_ofOption {e : ε} {x : Option α} (ends : ∀ a, x = some a → post k a) :
    (ofOption e x : Call I ε α).Learns writes asks post k := fun _ => follows_ofOption ends

theorem learns_ite {p : Prop} [Decidable p] {c d : Call I ε α}
    (yes : p → c.Learns writes asks post k) (no : ¬ p → d.Learns writes asks post k) :
    (if p then c else d).Learns writes asks post k := by
  split
  case isTrue holds => exact yes holds
  case isFalse fails => exact no fails

theorem Learns.bind {c : Call I ε α} {g : α → Call I ε β} {post : Knowledge I → β → Prop}
    (learns : c.Learns writes asks (fun k a => (g a).Learns writes asks post k) k) :
    (c >>= g).Learns writes asks post k := fun n =>
  Follows.bind (Program.Follows.mono (learns n) fun n _ _ ends a same => ends a same n)

theorem Learns.mapError {f : ε → ε'} {c : Call I ε α} (learns : c.Learns writes asks post k) :
    (c.mapError f).Learns writes asks post k := fun n => (learns n).mapError

theorem Learns.mono {c : Call I ε α} {post' : Knowledge I → α → Prop}
    (learns : c.Learns writes asks post k) (weaker : ∀ k a, post k a → post' k a) :
    c.Learns writes asks post' k := fun n =>
  Program.Follows.mono (learns n) fun _ _ _ ends a same => weaker _ a (ends a same)

/-- What a statement reads, it knows afterwards. -/
theorem learns_query {fault : I.Fault → ε} {read : I.State → α}
    (reads : ∀ state, writes k state state)
    (ends : ∀ a, post (k.see fun state => read state = a) a) :
    (query fault read).Learns writes asks post k := fun _ =>
  follows_statement fun state =>
    ⟨_, ⟨reads state, fun state' => read state' = read state, rfl, rfl⟩, ends (read state)⟩

theorem learns_update {fault : I.Fault → ε} {write : I.State → I.State}
    {post : Knowledge I → Unit → Prop} (permitted : ∀ state, writes k state (write state))
    (ends : ∀ k', k ≤ k' → post k' ()) : (update fault write).Learns writes asks post k := fun _ =>
  follows_statement fun state =>
    ⟨_, ⟨permitted state, fun _ => True, trivial, rfl⟩, ends _ Knowledge.le_see⟩

theorem learns_ask {q : I.Query} {post : Knowledge I → I.Answer q → Prop} (permitted : asks k q)
    (ends : ∀ answer, post (k.hear q answer) answer) :
    (ask q : Call I ε _).Learns writes asks post k := fun _ =>
  follows_ask fun answer => ⟨_, ⟨permitted, rfl⟩, ends answer⟩

end Call

namespace Program

variable {k : Knowledge I} {post : Knowledge I → β → Prop}

theorem Learns.mono {p : Program I β} {post' : Knowledge I → β → Prop}
    (learns : p.Learns writes asks post k) (weaker : ∀ k b, post k b → post' k b) :
    p.Learns writes asks post' k := fun n => (learns n).mono fun _ => weaker

/-- A call, and what is made of its outcome. -/
theorem learns_map {c : Call I ε α} {f : Except (Abort ε) α → β} {post' : Knowledge I → α → Prop}
    (learns : c.Learns writes asks post' k)
    (ends : ∀ k result, (∀ a, result = .ok a → post' k a) → post k (f result)) :
    (c.run.map f).Learns writes asks post k := fun n =>
  Follows.bind (Follows.mono (learns n) fun _ k result held => ends k result held)

/-- A program that may write and ask whatever it knows. -/
theorem Keeps.learns {allowed : I.State → I.State → Prop} {asked : I.Query → Prop}
    {p : Program I β} (keeps : p.Keeps allowed) (asking : p.Asks asked)
    (permitted : ∀ k', k ≤ k' → ∀ state state', allowed state state' → writes k' state state')
    (may : ∀ k', k ≤ k' → ∀ query, asked query → asks k' query) :
    p.Learns writes asks (fun k' _ => k ≤ k') k := by
  intro n
  have onwards (k' : Knowledge I) (more : k ≤ k') :
      p.Follows (Knowing writes asks) (fun _ k' _ => k ≤ k') n k' := by
    induction p generalizing n k' with
    | done a => exact more
    | statement effect next ih =>
        refine ⟨fun state => ⟨k'.see fun _ => True, ⟨permitted k' more _ _ (keeps.1 state), _,
          trivial, rfl⟩, ?_⟩, fun fault => ih _ (keeps.2 _) (asking _) _ k' more⟩
        exact ih _ (keeps.2 _) (asking _) _ _ (Knowledge.le_trans more Knowledge.le_see)
    | ask query next ih =>
        intro answer
        exact ⟨_, ⟨may k' more query asking.1, rfl⟩, ih answer (keeps answer) (asking.2 answer) _ _
          (Knowledge.le_trans more Knowledge.le_hear)⟩
  exact onwards k Knowledge.le_refl

/-- A program among those that ask more. -/
theorem Learns.among {p : Program I β} {asks' : Knowledge I → I.Query → Prop}
    (learns : p.Learns writes asks post k)
    (may : ∀ k', k ≤ k' → ∀ query, asks k' query → asks' k' query) :
    p.Learns writes asks' post k := by
  intro n
  have onwards (k' : Knowledge I) (more : k ≤ k')
      (follows : p.Follows (Knowing writes asks) (fun _ => post) n k') :
      p.Follows (Knowing writes asks') (fun _ => post) n k' := by
    clear learns
    induction p generalizing n k' with
    | done b => exact follows
    | statement effect next ih =>
        refine ⟨fun state => ?_, fun fault => ih _ _ k' more (follows.2 fault)⟩
        obtain ⟨_, ⟨permitted, fact, held, rfl⟩, rest⟩ := follows.1 state
        exact ⟨_, ⟨permitted, fact, held, rfl⟩,
          ih _ _ _ (Knowledge.le_trans more Knowledge.le_see) rest⟩
    | ask query next ih =>
        intro answer
        obtain ⟨_, ⟨permitted, rfl⟩, rest⟩ := follows answer
        exact ⟨_, ⟨may k' more query permitted, rfl⟩,
          ih answer _ _ (Knowledge.le_trans more Knowledge.le_hear) rest⟩
  exact onwards k Knowledge.le_refl (learns n)

/-- In a run, every question is permitted by what was heard before it. -/
theorem Learns.run {p : Program I β} (learns : p.Learns writes asks post .nothing)
    (env : Environment I) (w : World I) : ∃ events, (p.run env w).2.log = w.log ++ events ∧
      (∀ earlier event later, events = earlier ++ event :: later →
        ∃ k, k.Holds Set.univ earlier ∧ asks k event.query) ∧
      ∃ k, k.Holds Set.univ events ∧ post k (p.run env w).1 := by
  -- The induction is on the program, with the events of the operations before.
  have onwards (past : List (Event I)) (k : Knowledge I) (holds : k.Holds Set.univ past) (n : Nat)
      (follows : p.Follows (Knowing writes asks) (fun _ => post) n k) :
      ∃ events, (p.run env w).2.log = w.log ++ events ∧
        (∀ earlier event later, events = earlier ++ event :: later →
          ∃ k, k.Holds Set.univ (past ++ earlier) ∧ asks k event.query) ∧
        ∃ k, k.Holds Set.univ (past ++ events) ∧ post k (p.run env w).1 := by
    clear learns
    induction p generalizing past k n w with
    | done b =>
        refine ⟨[], (List.append_nil _).symm, fun earlier event later same => ?_, k, ?_, follows⟩
        · cases earlier <;> cases same
        · rwa [List.append_nil]
    | statement effect next ih =>
        obtain ⟨k', known, rest⟩ : ∃ k', k'.Holds Set.univ past ∧
            (next (w.exec env effect).1).Follows (Knowing writes asks) (fun _ => post) (n + 1) k' := by
          unfold World.exec
          cases env.fault w.clock with
          | some fault => exact ⟨k, holds, follows.2 fault⟩
          | none =>
              obtain ⟨_, ⟨-, fact, held, rfl⟩, rest⟩ := follows.1 w.state
              exact ⟨_, holds.see (Set.mem_univ _) held, rest⟩
        obtain ⟨events, log, asked, ends⟩ := ih _ (w.exec env effect).2 past k' known (n + 1) rest
        exact ⟨events, log.trans (by rw [World.exec_log]), asked, ends⟩
    | ask query next ih =>
        obtain ⟨_, ⟨permitted, rfl⟩, rest⟩ := follows (env.answer w.clock query)
        let event : Event I := ⟨query, env.answer w.clock query, w.state⟩
        have known : (k.hear query (env.answer w.clock query)).Holds Set.univ (past ++ [event]) := by
          have longer := holds.mono (Set.Subset.refl _) (List.subset_append_left past [event])
          exact longer.hear (List.mem_append_right past (List.mem_singleton_self event))
        obtain ⟨events, log, asked, k', later, ends⟩ :=
          ih _ (w.ask env query).2 (past ++ [event]) _ known (n + 1) rest
        refine ⟨event :: events, log.trans ?_, ?_, k', ?_, ends⟩
        · rw [World.ask, List.append_assoc, List.singleton_append]
        · rintro (_ | ⟨first, earlier⟩) event' rest' same
          · obtain ⟨rfl, -⟩ := List.cons.inj same
            exact ⟨k, by rwa [List.append_nil], permitted⟩
          · obtain ⟨rfl, others⟩ := List.cons.inj same
            obtain ⟨k'', before, may⟩ := asked earlier event' rest' others
            exact ⟨k'', by rwa [List.append_assoc, List.singleton_append] at before, may⟩
        · rwa [List.append_assoc, List.singleton_append] at later
  simpa using onwards [] .nothing Knowledge.holds_nothing 0 (learns 0)

end Program

theorem Call.Keeps.learns {allowed : I.State → I.State → Prop} {asked : I.Query → Prop}
    {c : Call I ε α} {k : Knowledge I} (keeps : c.Keeps allowed) (asking : c.Asks asked)
    (permitted : ∀ k', k ≤ k' → ∀ state state', allowed state state' → writes k' state state')
    (may : ∀ k', k ≤ k' → ∀ query, asked query → asks k' query) :
    c.Learns writes asks (fun k' _ => k ≤ k') k := fun n =>
  Program.Follows.mono (Program.Keeps.learns keeps asking permitted may n)
    fun _ _ _ more _ _ => more

/-- The same where every write is permitted. -/
theorem Call.Asks.learns {asked : I.Query → Prop} {c : Call I ε α} {k : Knowledge I}
    (asking : c.Asks asked) (permitted : ∀ k state state', writes k state state')
    (may : ∀ k query, asked query → asks k query) :
    c.Learns writes asks (fun k' _ => k ≤ k') k := by
  have keeps {p : Program I (Except (Abort ε) α)} : p.Keeps fun _ _ => True := by
    induction p with
    | done a => trivial
    | statement effect next ih => exact ⟨fun _ => trivial, fun result => ih result⟩
    | ask query next ih => exact fun answer => ih answer
  exact Call.Keeps.learns keeps asking (fun k _ state state' _ => permitted k state state')
    fun k _ => may k

/-- A call among those that ask more. -/
theorem Call.Learns.among {asks' : Knowledge I → I.Query → Prop} {c : Call I ε α}
    {k : Knowledge I} {post : Knowledge I → α → Prop} (learns : c.Learns writes asks post k)
    (may : ∀ k', k ≤ k' → ∀ query, asks k' query → asks' k' query) :
    c.Learns writes asks' post k := fun n => Program.Learns.among (fun n => learns n) may n

end Resumption
