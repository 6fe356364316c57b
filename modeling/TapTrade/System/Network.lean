import TapTrade.Model.Cli
import TapTrade.Resumption.Translation

/-! # The coordinator and its clients

Sessions of traders and requests of anybody else act on one coordinator, which is the one that the
settings of all sessions name. A connection can fail before the request arrives, and before the
response does; a session ends with the first one that fails, so that nobody needs to know what
becomes of a handler whose client has gone.
-/

namespace TapTrade

open Wire Resumption

variable {P : Platform} {D : Device P}

/-- What the coordinator does not decide. -/
inductive Outside (D : Device P) where
  /-- A question of a client to its own surroundings. -/
  | client (query : TraderQuery D)
  /-- Whether a `POST` arrives. -/
  | deliver (path : String) (body : Json)
  /-- Whether the response arrives. -/
  | respond (response : Response)
  /-- The error of a connection that is closed without a response. -/
  | close

@[reducible] def Outside.Answer : Outside D → Type
  | client query => query.Answer
  | deliver _ _ => Except Error Unit
  | respond _ => Except Error Unit
  | close => Error

/-- The database of the coordinator, its surroundings and those of its clients. -/
@[reducible] def system (D : Device P) : Interface :=
  (coordinator P).beside (Outside D) Outside.Answer

/-- What becomes of a `POST` to the coordinator. A handler that panics closes the connection. -/
def transmit (D : Device P) (path : String) (body : Json) :
    Program (system D) (Except Error Response) :=
  .ask (.inr (.deliver path body)) fun
    | .error e => .done (.error e)
    | .ok () => ((apiServer P path body).lift (Outside D) Outside.Answer).bind fun
        | none => .ask (.inr .close) fun e => .done (.error e)
        | some response => .ask (.inr (.respond response)) fun
            | .error e => .done (.error e)
            | .ok () => .done (.ok response)

/-- What a client asks. It has no statements. -/
def connection (D : Device P) : Translation (trader D) (system D) where
  statement effect := .done (.ok (effect ()).1)
  query
    | .post _ path body => transmit D path body
    | query => .ask (.inr (.client query)) .done

/-- Who acts on the coordinator. -/
inductive Participant (D : Device P) where
  /-- A session, with the wallet of its trader and the patience of its loops. -/
  | session (W : TradingWallet P) (rounds : Nat) (settings : CliSettings D)
  /-- A request that anybody else has made, or a round of a background task. -/
  | request (made : Request)

namespace Participant

/-- How the program of a participant ends. -/
abbrev Result := Outcome Stop Unit ⊕ Reply

def program : Participant D → Program (system D) Result
  | .session W rounds settings =>
      ((startTradePipeline W rounds settings).run.translate (connection D)).map .inl
  | .request made => ((made.serve P).lift (Outside D) Outside.Answer).map .inr

end Participant

/-- The participants before any of them has acted, on a new database. -/
def gathering {ι : Type} (participants : ι → Participant D) :
    Pool (system D) ι Participant.Result :=
  .start ⟨Database.init, [], 0⟩ fun i => (participants i).program

end TapTrade
