import TapTrade.Resumption.Questions
import TapTrade.Resumption.Typestate

/-! # Traces of a typestate

The questions that a program asks in a run, as a path of its typestate. What one permitted
question preserves, of the questions asked so far and the token, holds after every run.
-/

namespace Resumption

variable {I : Interface} {α ε : Type} {S : Typestate I}

namespace Typestate

/-- The events lead from the first token to the second one. -/
inductive Traces (S : Typestate I) : S.Token → List (Event I) → S.Token → Prop
  | nil {token : S.Token} : Traces S token [] token
  | cons {token between after : S.Token} {event : Event I} {events : List (Event I)}
      (first : S.asks token event.query event.answer between)
      (rest : Traces S between events after) : Traces S token (event :: events) after

/-- A trace up to one of its events, and on from it. -/
theorem Traces.split {token after : S.Token} {earlier later : List (Event I)} {event : Event I}
    (traces : S.Traces token (earlier ++ event :: later) after) :
    ∃ before between, S.Traces token earlier before ∧
      S.asks before event.query event.answer between ∧ S.Traces between later after := by
  induction earlier generalizing token with
  | nil =>
      obtain _ | ⟨first, rest⟩ := traces
      exact ⟨token, _, .nil, first, rest⟩
  | cons head earlier ih =>
      obtain _ | ⟨first, rest⟩ := traces
      obtain ⟨before, between, path, asks, onwards⟩ := ih rest
      exact ⟨before, between, .cons first path, asks, onwards⟩

/-- What every permitted question preserves holds at the end of a trace. -/
theorem Traces.invariant (holds : List (Event I) → S.Token → Prop)
    (preserved : ∀ past token event after, holds past token →
      S.asks token event.query event.answer after → holds (past ++ [event]) after)
    {events : List (Event I)} {token after : S.Token} (start : holds [] token)
    (traces : S.Traces token events after) : holds events after := by
  have onwards (past) (now : holds past token) : holds (past ++ events) after := by
    clear start
    induction traces generalizing past with
    | nil => simpa using now
    | @cons token between after event events first rest ih =>
        have next := ih (past ++ [event]) (preserved past token event between now first)
        rwa [List.append_assoc, List.singleton_append] at next
  exact onwards [] start

section Rank

variable {σ : Type} (rank : S.Token → Nat) (level : σ → Nat) (stage? : I.Query → Option σ)
  (climbs : ∀ token query answer after, S.asks token query answer after →
    rank token ≤ rank after ∧
      ∀ stage, stage? query = some stage → rank token = level stage ∧ level stage < rank after)
include climbs

/-- No question comes from below its level. -/
theorem Traces.rank_le {token after : S.Token} {events : List (Event I)}
    (traces : S.Traces token events after) {event : Event I} (member : event ∈ events) {stage : σ}
    (same : stage? event.query = some stage) : rank token ≤ level stage := by
  induction traces with
  | nil => cases member
  | cons first rest ih =>
      obtain ⟨rises, climbs⟩ := climbs _ _ _ _ first
      obtain rfl | later := List.mem_cons.mp member
      · exact (climbs stage same).1.le
      · exact rises.trans (ih later)

/-- If the tokens only ever rise, and a question of a stage leads above its level, then there are
    no two of a stage. -/
theorem Traces.once {token after : S.Token} {events : List (Event I)}
    (traces : S.Traces token events after) :
    events.Pairwise fun event event' => ∀ stage, stage? event.query = some stage →
      stage? event'.query ≠ some stage := by
  induction traces with
  | nil => exact .nil
  | cons first rest ih =>
      refine .cons (fun event' member stage same again => ?_) ih
      have further := ((climbs _ _ _ _ first).2 stage same).2
      exact absurd (rest.rank_le rank level stage? climbs member again) (Nat.not_le.mpr further)

end Rank

end Typestate

/-- A run of a program that keeps to a typestate in which no statement changes the token. -/
theorem Program.Follows.traces (alone : ∀ n token state state' token',
      S.writes n token state state' token' → token' = token)
    {post : S.Token → α → Prop} {p : Program I α} {n : Nat} {token : S.Token}
    (follows : p.Follows S (fun _ => post) n token) (env : Environment I) (w : World I) :
    ∃ events after, (p.run env w).2.log = w.log ++ events ∧ S.Traces token events after ∧
      post after (p.run env w).1 := by
  induction p generalizing n token w with
  | done a => exact ⟨[], token, (List.append_nil _).symm, .nil, follows⟩
  | statement effect next ih =>
      have rest : (next (w.exec env effect).1).Follows S (fun _ => post) (n + 1) token := by
        unfold World.exec
        cases env.fault w.clock with
        | some fault => exact follows.2 fault
        | none =>
            obtain ⟨after, writes, rest⟩ := follows.1 w.state
            exact alone _ _ _ _ _ writes ▸ rest
      obtain ⟨events, after, log, path, ends⟩ := ih _ rest (w.exec env effect).2
      exact ⟨events, after, log.trans (by rw [World.exec_log]), path, ends⟩
  | ask query next ih =>
      obtain ⟨between, asks, rest⟩ := follows (env.answer w.clock query)
      obtain ⟨events, after, log, path, ends⟩ := ih _ rest (w.ask env query).2
      refine ⟨⟨query, env.answer w.clock query, w.state⟩ :: events, after, log.trans ?_,
        .cons asks path, ends⟩
      rw [World.ask, List.append_assoc, List.singleton_append]

/-- A program whose questions leave the token as it is, and whose statements do. -/
theorem Program.Asks.follows {allowed : I.Query → Prop} {token : S.Token}
    {post : Nat → S.Token → α → Prop} {p : Program I α} (asking : p.Asks allowed)
    (writes : ∀ n state state', S.writes n token state state' token)
    (stays : ∀ query answer, allowed query → S.asks token query answer token)
    (ends : ∀ n a, post n token a) {n : Nat} : p.Follows S post n token := by
  induction p generalizing n with
  | done a => exact ends n a
  | statement effect next ih =>
      exact ⟨fun state => ⟨token, writes n _ _, ih _ (asking _)⟩, fun fault => ih _ (asking _)⟩
  | ask query next ih =>
      exact fun answer => ⟨token, stays query answer asking.1, ih _ (asking.2 answer)⟩

end Resumption
