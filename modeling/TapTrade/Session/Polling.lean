import TapTrade.Model.Cli
import TapTrade.Model.SampleTrader

/-! # What a session waits for

Every loop of a client asks again until an answer decides. What it then does cannot depend on how
often it was willing to ask; and what the poll for the payout tells the trader in the end is a
matter of what the handler of the coordinator made of the polls, by way of a status.
-/

namespace TapTrade

open Wire Resumption Call

variable {P : Platform} {D : Device P}

section Patience

variable {config : TraderConfig D} {W : TradingWallet P} (rounds more : Nat)

/-- A session with more patience does the same. -/
abbrev Patient {α : Type} (c d : Session D α) : Prop := Outlasts .waiting c d

theorem patient_pollPayout (offer : ActiveOffer D) :
    Patient (IsOfferReadyRequest.pollPayout config rounds offer)
      (IsOfferReadyRequest.pollPayout config (rounds + more) offer) :=
  (outlasts_retry rounds more).bind fun _ => outlasts_refl _

theorem patient_signPayout (offer : ActiveOffer D) :
    Patient (ActiveOffer.signPayout config rounds offer)
      (ActiveOffer.signPayout config (rounds + more) offer) :=
  (outlasts_refl _).bind fun _ => (patient_pollPayout rounds more offer).bind fun _ =>
    outlasts_refl _

theorem patient_runMaker :
    Patient (runMaker W rounds config) (runMaker W (rounds + more) config) := by
  apply (outlasts_refl _).bind
  rintro ⟨⟩
  apply (outlasts_refl _).bind
  intro offer
  apply (outlasts_retry rounds more).bind
  intro taken
  apply (outlasts_refl _).bind
  intro escrowPsbt
  apply (outlasts_refl _).bind
  rintro ⟨⟩
  apply (outlasts_retry rounds more).bind
  rintro ⟨⟩
  apply (outlasts_retry rounds more).bind
  intro happy
  apply outlasts_ite (patient_signPayout rounds more offer)
  apply (outlasts_refl _).bind
  rintro ⟨⟩
  exact (patient_pollPayout rounds more offer).bind fun _ => outlasts_refl _

theorem patient_runTaker :
    Patient (runTaker W rounds config) (runTaker W (rounds + more) config) := by
  apply (outlasts_refl _).bind
  rintro ⟨⟩
  apply (outlasts_retry rounds more).bind
  intro availableOffers
  apply (outlasts_refl _).bind
  intro selectedOffer
  apply (outlasts_refl _).bind
  intro acceptedOffer
  apply (outlasts_retry rounds more).bind
  rintro ⟨⟩
  apply (outlasts_retry rounds more).bind
  intro happy
  exact outlasts_ite (patient_signPayout rounds more acceptedOffer) (outlasts_refl _)

/-- How often a client asks makes no difference, once it no longer waits: it ends the same way in
    the same world. -/
theorem session_patient (W : TradingWallet P) (env : Environment (trader D)) (w : World (trader D)) :
    (exec env (traderMain W rounds) w).1 = .error (.failed .waiting) ∨
      exec env (traderMain W (rounds + more)) w = exec env (traderMain W rounds) w := by
  have patient : Patient (traderMain W rounds : Session D Unit) (traderMain W (rounds + more)) := by
    apply (outlasts_refl _).bind
    intro settings
    cases settings with
    | coordinator => exact outlasts_refl _
    | maker => exact patient_runMaker rounds more
    | taker => exact patient_runTaker rounds more
  exact patient env w

end Patience

section Payout

/-- An end with a text and the status of a response. -/
def told {α : Type} (text : String) (status : Nat) : Option (Outcome Stop α) :=
  some (.error (.failed (.status text status)))

/-- What a client makes of the outcome of its poll for the payout, if it makes an end of it. Who
    has lost the escrow is told that a request has failed, and whose request has failed is told
    that the escrow is lost. A panic closes the connection. -/
def PayoutProcessingResult.told (closed : Error) :
    Outcome RequestError PayoutProcessingResult → Option (Outcome Stop PayoutResponse)
  | .ok (.readyPsbt payout) => some (.ok payout)
  | .ok .notReady | .ok .decidingEscrow => none
  | .ok .lostEscrow =>
      TapTrade.told "Requesting final payout when waiting on other party failed" 410
  | .error (.failed .notConfirmed) => TapTrade.told "We lost the escrow, your bond is gone" 406
  | .error (.failed .notFound) => TapTrade.told "We lost the escrow, your bond is gone" 404
  | .error (.failed _) => TapTrade.told "We lost the escrow, your bond is gone" 500
  | .error .panicked => some (.error (.failed (.failed closed)))

variable {config : TraderConfig D} {env : Environment (trader D)} {offer : ActiveOffer D}

/-- The answer to a poll. -/
def polled (closed : Error) (outcome : Outcome RequestError PayoutProcessingResult) :
    Except Error Response :=
  match Endpoint.pollFinalPayout outcome with
  | some response => .ok response
  | none => .error closed

theorem exec_attempt {α : Type} (x : Except Error α) (w : World (trader D)) :
    exec env (Session.attempt x) w = (Outcome.mapError .failed (Outcome.ofExcept x), w) := by
  cases x <;> rfl

theorem exec_tryAsk {α : Type} (query : TraderQuery D) (answer : query.Answer → Except Error α)
    (w : World (trader D)) : exec env (Session.tryAsk query answer) w =
      (Outcome.mapError .failed (Outcome.ofExcept (answer (env.answer w.clock query))),
        (w.ask env query).2) := by
  rw [Session.tryAsk, exec_bind]
  exact exec_attempt _ _

theorem settled_pollPayoutOnce {closed : Error} {w : World (trader D)}
    {outcome : Outcome RequestError PayoutProcessingResult}
    (answered : env.answer w.clock (.post config.coordinatorEndpoint "/poll-final-payout"
      (Message.write (config.about offer.offerIdHex))) = polled closed outcome) :
    settled? (exec env (IsOfferReadyRequest.pollPayoutOnce config offer) w).1 =
        (PayoutProcessingResult.told closed outcome).map (Except.map Response.json) ∧
      (exec env (IsOfferReadyRequest.pollPayoutOnce config offer) w).2.clock = w.clock + 1 := by
  rw [IsOfferReadyRequest.pollPayoutOnce, exec_bind, post, exec_tryAsk, answered]
  rcases outcome with ((_ | _ | _ | _ | _ | _) | _) | (_ | _ | _ | _)
  all_goals exact ⟨rfl, rfl⟩

/-- The poll for the payout ends with the first outcome that is not to wait, whatever the handler
    of the coordinator makes of the polls. -/
theorem payout_told (rounds : Nat) {closed : Nat → Error}
    {outcomes : Nat → Outcome RequestError PayoutProcessingResult}
    (answered : ∀ tick, env.answer tick (.post config.coordinatorEndpoint "/poll-final-payout"
      (Message.write (config.about offer.offerIdHex))) = polled (closed tick) (outcomes tick))
    (w : World (trader D)) :
    (exec env (IsOfferReadyRequest.pollPayout config rounds offer) w).1 = (do
      let payout ← ((List.range' w.clock rounds).findSome? fun tick =>
        PayoutProcessingResult.told (closed tick) (outcomes tick)).getD (.error (.failed .waiting))
      Outcome.mapError .failed (Outcome.ofExcept (payout.parts (D := D)))) := by
  let verdict (tick : Nat) := PayoutProcessingResult.told (closed tick) (outcomes tick)
  have polls : (exec env (retry .waiting (IsOfferReadyRequest.pollPayoutOnce config offer) rounds)
      w).1 = (((List.range' w.clock rounds).findSome? verdict).map
        (Except.map Response.json)).getD (.error (.failed .waiting)) := by
    rw [List.map_findSome?]
    exact exec_retry (fun w => settled_pollPayoutOnce (answered w.clock)) rounds w
  rw [IsOfferReadyRequest.pollPayout, exec_bind]
  generalize exec env (retry .waiting (IsOfferReadyRequest.pollPayoutOnce config offer) rounds) w =
    ended at polls ⊢
  obtain ⟨result, next⟩ := ended
  obtain rfl : result = _ := polls
  change _ = Bind.bind (((List.range' w.clock rounds).findSome? verdict).getD _) _
  rcases (List.range' w.clock rounds).findSome? verdict with _ | abort | payout
  · rfl
  · rfl
  · have read : parse "Response::json" Response.json? (Response.json payout) = .ok payout :=
      parse_eq_ok.mpr (Response.json?_json payout)
    simp only [Option.map_some, Option.getD_some, Except.map, exec_bind, Session.decode,
      exec_attempt, read]
    rfl

/-- Who has lost the escrow is not told so. -/
theorem payout_told_lostEscrow :
    (exec (Sample.surroundings true fun tick _ =>
        polled .rowNotFound (.ok (if tick = 0 then .decidingEscrow else .lostEscrow)))
      (IsOfferReadyRequest.pollPayout (Sample.settings true) 3 (Sample.activeOffer true))
      ⟨(), [], 0⟩).1 =
      .error (.failed (.status "Requesting final payout when waiting on other party failed" 410)) :=
  (payout_told 3 (fun _ => rfl) _).trans rfl

end Payout

end TapTrade
