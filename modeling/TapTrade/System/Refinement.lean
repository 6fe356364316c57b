import TapTrade.Resumption.Refinement
import TapTrade.System.Network

/-! # The coordinator among its clients

To the coordinator, clients with their sessions are no more than requests: what the system does to
the database and to the surroundings of the coordinator is done by requests that are interleaved.
So whatever holds of every interleaving of requests holds with clients, too.
-/

namespace TapTrade

open Wire Resumption

variable {P : Platform} {D : Device P}

theorem through_transmit (path : String) (body : Json) :
    (transmit D path body).Through (Request.serve P) := by
  refine .aside fun arrived => ?_
  rcases arrived with e | ⟨⟩
  · exact .done _
  cases routed : route path body with
  | error response =>
      simp only [apiServer, routed]
      refine .aside fun returned => ?_
      rcases returned with e | ⟨⟩
      · exact .done _
      · exact .done _
  | ok request =>
      simp only [apiServer, routed, Program.map, Program.lift, Program.translate_bind,
        Program.bind_assoc]
      refine .job fun reply => ?_
      -- The answer is sent back, or the connection is closed.
      change (Program.bind (.done reply.respond) _).Through (Request.serve P)
      cases reply.respond with
      | none => exact .aside fun e => .done _
      | some response =>
          refine .aside fun returned => ?_
          rcases returned with e | ⟨⟩
          · exact .done _
          · exact .done _

theorem through_connection (query : TraderQuery D) :
    ((connection D).query query).Through (Request.serve P) := by
  cases query with
  | post endpoint path body => exact through_transmit path body
  | _ => exact .aside fun answer => .done answer

theorem through_participant (participant : Participant D) :
    participant.program.Through (Request.serve P) := by
  cases participant with
  | session W rounds settings =>
      apply Program.Through.bind
      · exact Program.through_translate (fun effect => .done _) through_connection _
      · exact fun outcome => .done _
  | request made => exact .job fun reply => .done _

variable {ι : Type} [DecidableEq ι]

/-- Every run of the system is, for the coordinator, a run of requests that nobody waits for. -/
theorem system_refines (participants : ι → Participant D) (env : Environment (system D))
    (schedule : List ι) :
    ∃ (env' : Environment (coordinator P)) (schedule' : List (Request × Nat)),
      ((Pool.start (startup P) fun copy : Request × Nat => copy.1.serve P).play env'
        schedule').world.Left ((gathering participants).play env schedule).world :=
  Pool.exists_play_jobs (fun i => through_participant (participants i)) ⟨Database.init, [], 0⟩ env
    schedule

end TapTrade
