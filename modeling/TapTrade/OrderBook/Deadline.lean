import TapTrade.OrderBook.Search
import TapTrade.Punishment.Round
import TapTrade.Taking.Move

/-! # What happens after the deadline of an offer

The maker says how long the offer should stay available, and is told in return until when the bond
is locked. The timestamp is checked when the order comes in, stored with the offer and returned,
and nothing looks at it afterwards: the search, the take and the monitoring of the bond do after
the deadline exactly what they do before it.
-/

namespace TapTrade

open Relational Resumption

section Deadline

variable {P : Platform}

/-- The time at which a request comes in. -/
def timeAt (env : Environment (coordinator P)) (w : World (coordinator P)) : UInt64 :=
  env.answer w.clock .now

/-- The clock does not go backwards. -/
def Advancing (env : Environment (coordinator P)) : Prop :=
  ∀ tick tick', tick ≤ tick' → (env.answer tick .now : UInt64) ≤ env.answer tick' .now

/-- What the maker of a listed offer has been promised. -/
structure Obligation where
  offerIdHex : String
  signedBondHex : String
  bondLockedUntilTimestamp : UInt64
  deriving DecidableEq, Repr

/-- What an accepted bond obliges to. -/
def Request.obligation? : Request → Reply → Option Obligation
  | .submitMakerBond payload, .submitMakerBond (.ok response) =>
      some ⟨response.offerIdHex, payload.signedBondHex, response.bondLockedUntilTimestamp⟩
  | _, _ => none

/-- The offers that a reply shows. -/
def Reply.shown : Reply → List PublicOffer
  | .fetchAvailableOffers (.ok offers) => offers.offers.getD []
  | _ => []

/-- The reply to a take that succeeds. -/
def Reply.taken : Reply → Bool
  | .submitTakerBond (.ok _) => true
  | _ => false

def published? : Event (coordinator P) → Option String
  | ⟨.publishBondTxHex bond, _, _⟩ => some bond
  | _ => none

/-- How often the bond was published. -/
def publications (bond : String) (log : Log (coordinator P)) : Nat :=
  (log.filterMap published?).count bond

/-- Nothing happens to the offer and its bond any more: the search does not show the offer, no take
    of it succeeds, and the monitoring does not publish the bond. -/
structure Ended (env : Environment (coordinator P)) (obligation : Obligation)
    (w : World (coordinator P)) (request : Request) : Prop where
  hidden : ∀ offer ∈ ((request.serve P).run env w).1.shown,
    offer.offerIdHex ≠ obligation.offerIdHex
  untaken : request.taken? = some obligation.offerIdHex →
    ((request.serve P).run env w).1.taken = false
  unpublished : request = .monitorBonds →
    publications obligation.signedBondHex (serveAlone env w request).log =
      publications obligation.signedBondHex w.log

/-- The loop over the flagged bonds, from the tick on, gets to one with the transaction and
    publishes it: each one before is published and deleted, or punishment is disabled. -/
def Reaches (env : Environment (coordinator P)) (bondTxHex : String) :
    Nat → List (MonitoringBond × Error) → Prop
  | _, [] => False
  | tick, (bond, _) :: validationResults =>
      match (env.answer tick .punishmentEnabled).getD "0" with
      | "1" => bond.bondTxHex = bondTxHex ∨
          env.answer (tick + 1) (.publishBondTxHex bond.bondTxHex) = .ok () ∧
            bond.table = .orderbook ∧ env.fault (tick + 2) = none ∧
            Reaches env bondTxHex (tick + 3) validationResults
      | "0" => Reaches env bondTxHex (tick + 1) validationResults
      | _ => False

/-- The request still has to do with the offer: a search that the listed offer suits, a take that
    goes through, or a round of the monitoring that flags the bond and gets to it. -/
def Concerns (env : Environment (coordinator P)) (obligation : Obligation)
    (w : World (coordinator P)) : Request → Prop
  | .fetchAvailableOffers search => env.fault w.clock = none ∧
      ∃ row, w.state.activeMakerOffers.find? obligation.offerIdHex = some row ∧
        (suits search row).holds
  | .submitTakerBond payload =>
      payload.offer.offerIdHex = obligation.offerIdHex ∧ GoesThrough env w payload
  | .monitorBonds => ∃ flagged, Returned env w flagged ∧
      Reaches env obligation.signedBondHex (w.clock + 2) flagged
  | _ => False

/-- After the deadline of each bond that the run accepts, the later requests meet the condition. -/
def AfterDeadlines (env : Environment (coordinator P))
    (condition : Obligation → World (coordinator P) → Request → Prop) :
    World (coordinator P) → List Request → Prop
  | _, [] => True
  | w, request :: requests =>
      (∀ obligation, request.obligation? ((request.serve P).run env w).1 = some obligation →
        Course.Throughout (serveAlone env) (fun w request =>
          obligation.bondLockedUntilTimestamp < timeAt env w → condition obligation w request)
          (serveAlone env w request) requests) ∧
      AfterDeadlines env condition (serveAlone env w request) requests

open Call

variable {env : Environment (coordinator P)} {w w' : World (coordinator P)}
  {obligation : Obligation}

section Publications

variable {bondTxHex : String}

theorem publications_mono {log log' : Log (coordinator P)} (grown : log <+: log') :
    publications bondTxHex log ≤ publications bondTxHex log' :=
  (grown.filterMap published?).sublist.count_le _

theorem publications_append (log : Log (coordinator P)) (event : Event (coordinator P)) :
    publications bondTxHex (log ++ [event]) = publications bondTxHex log +
      (if published? event = some bondTxHex then 1 else 0) := by
  simp only [publications, List.filterMap_append, List.count_append]
  cases published : published? event with
  | none => simp [published]
  | some bond => simp [published, List.count_singleton]

theorem log_punish (bond : MonitoringBond) : (exec env bond.punish w).2.log =
    (w.ask env (.publishBondTxHex bond.bondTxHex)).2.log := by
  have silent : (Call.mapError (Error.context "Error removing violating bond from db")
      (removeViolatingBond (P := P) bond)).Silent := by
    unfold removeViolatingBond
    simp
  rw [MonitoringBond.punish, tryAsk, bind_assoc, exec_ask_bind]
  cases env.answer w.clock (.publishBondTxHex bond.bondTxHex) with
  | error e => rfl
  | ok u => exact silent env _

theorem punish_ok {bond : MonitoringBond} {u : Unit}
    (punished : exec env bond.punish w = (.ok u, w')) :
    env.answer w.clock (.publishBondTxHex bond.bondTxHex) = .ok () ∧ bond.table = .orderbook ∧
      env.fault (w.clock + 1) = none ∧ w'.clock = w.clock + 2 := by
  obtain ⟨v, w₁, published, h₁⟩ := exec_bind_ok env w punished
  obtain ⟨answered, rfl⟩ := exec_tryAsk_ok published
  have removed := exec_mapError_ok env _ h₁
  unfold removeViolatingBond at removed
  split at removed
  case isTrue orderbook =>
    have written := exec_execute_ok removed
    subst written
    exact ⟨answered, orderbook, unfailing_of_execute removed, rfl⟩
  case isFalse => cases removed

/-- Publishing a flagged bond, and then going on with the others. -/
theorem publications_punish {bond : MonitoringBond} {flagged : List (MonitoringBond × Error)}
    (others : ∀ w : World (coordinator P),
      publications bondTxHex (exec env (punishViolations flagged) w).2.log =
        publications bondTxHex w.log ↔ ¬ Reaches env bondTxHex w.clock flagged) :
    publications bondTxHex (exec env (bond.punish >>= fun _ => punishViolations flagged) w).2.log =
        publications bondTxHex w.log ↔
      ¬ (bond.bondTxHex = bondTxHex ∨
        env.answer w.clock (.publishBondTxHex bond.bondTxHex) = .ok () ∧
          bond.table = .orderbook ∧ env.fault (w.clock + 1) = none ∧
          Reaches env bondTxHex (w.clock + 2) flagged) := by
  rcases punished : exec env bond.punish w with ⟨result, w'⟩
  have after : publications bondTxHex w'.log =
      publications bondTxHex w.log + (if some bond.bondTxHex = some bondTxHex then 1 else 0) := by
    have log : (exec env bond.punish w).2.log = _ := log_punish bond
    rw [punished] at log
    rw [log]
    exact publications_append _ _
  by_cases own : bond.bondTxHex = bondTxHex
  · refine iff_of_false (fun same => ?_) fun neither => neither (.inl own)
    have grown : w'.log <+:
        (exec env (bond.punish >>= fun _ => punishViolations flagged) w).2.log := by
      rw [exec_bind, punished]
      cases result with
      | error stop => exact List.prefix_rfl
      | ok u => exact Program.log_run env (punishViolations (P := P) flagged).run w'
    have more : publications bondTxHex w'.log ≤ _ := publications_mono grown
    rw [after, if_pos (congrArg some own), same] at more
    omega
  · rw [if_neg (fun same => own (Option.some.inj same)), Nat.add_zero] at after
    rw [exec_bind, punished, ← after]
    cases result with
    | ok u =>
        obtain ⟨answered, orderbook, unfailing, clock⟩ := punish_ok punished
        dsimp only
        rw [others, clock]
        simp only [own, answered, orderbook, unfailing, false_or, true_and]
    | error stop =>
        refine iff_of_true rfl fun reached => ?_
        obtain ⟨answered, orderbook, unfailing, -⟩ := reached.resolve_left own
        obtain ⟨w₁, succeeds, -, -⟩ := exec_punish_ok orderbook answered unfailing
        cases succeeds.symm.trans punished

/-- The loop over the flagged bonds publishes a bond iff it gets to it. -/
theorem publications_punishViolations (flagged : List (MonitoringBond × Error)) :
    publications bondTxHex (exec env (punishViolations flagged) w).2.log =
        publications bondTxHex w.log ↔ ¬ Reaches env bondTxHex w.clock flagged := by
  induction flagged generalizing w with
  | nil => exact iff_of_true rfl id
  | cons violation flagged ih =>
      obtain ⟨bond, error⟩ := violation
      let asked : World (coordinator P) := (w.ask env .punishmentEnabled).2
      have same : publications bondTxHex asked.log = publications bondTxHex w.log :=
        publications_append _ _
      rw [punishViolations, exec_ask_bind, Reaches]
      generalize (env.answer w.clock .punishmentEnabled).getD "0" = setting
      split
      · rw [← same]
        exact publications_punish (w := asked) fun _ => ih
      · rw [← same]
        exact ih
      · apply iff_of_true same
        simp only [not_false_eq_true]

end Publications

section Handlers

/-- A search shows an offer iff the offer is listed and suits. -/
theorem hidden_iff (search : OffersRequest) (offerId : String) :
    (∀ offer ∈ (Reply.fetchAvailableOffers (exec env (getPublicOffers search) w).1).shown,
        offer.offerIdHex ≠ offerId) ↔
      ¬ (env.fault w.clock = none ∧ ∃ row, w.state.activeMakerOffers.find? offerId = some row ∧
        (suits search row).holds) := by
  cases fault : env.fault w.clock with
  | some failure =>
      have fails : exec env (fetchSuitableOffers search) w =
          (.error (.failed .database), World.tick w) := by
        rw [fetchSuitableOffers, exec_bind, exec_fetchAll_of_fault fault]
      rw [getPublicOffers, exec_bind, exec_mapError, fails]
      refine iff_of_true (fun offer member => ?_) fun reads => ?_
      · cases member
      · cases reads.1
  | none =>
      rw [getPublicOffers, exec_bind_of_ok env w
        (exec_mapError_of_ok env w (exec_fetchSuitableOffers fault search))]
      cases found : suitableOffers search w.state.activeMakerOffers with
      | none =>
          refine iff_of_true (fun offer member => ?_) ?_
          · cases member
          · rintro ⟨-, row, inTable, suitable⟩
            exact suitableOffers_eq_none.mp found row (Table.mem_of_find? inTable) suitable
      | some offers =>
          constructor
          · rintro hidden ⟨-, row, inTable, suitable⟩
            apply hidden row.publicOffer
            · exact (mem_suitableOffers found _).mpr
                ⟨row, Table.mem_of_find? inTable, suitable, rfl⟩
            · exact Table.find?_key inTable
          · intro absent offer member same
            obtain ⟨row, inTable, suitable, rfl⟩ := (mem_suitableOffers found _).mp member
            exact absent ⟨rfl, row, same ▸ Table.mem_rows.mp inTable, suitable⟩

theorem Returned.unique {flagged flagged' : List (MonitoringBond × Error)}
    (returned : Returned env w flagged) (returned' : Returned env w flagged') :
    flagged = flagged' := Except.ok.inj (returned.answered.symm.trans returned'.answered)

/-- A round that has no flagged bonds to visit publishes nothing. -/
theorem publications_of_not_returned {bondTxHex : String}
    (none : ∀ flagged, ¬ Returned env w flagged) :
    publications bondTxHex (exec env monitorBonds w).2.log = publications bondTxHex w.log := by
  cases fault : env.fault w.clock with
  | some failure =>
      rw [monitorBonds, fetchAllBonds, exec_bind, exec_bind, exec_fetchAll_of_fault fault]
      rfl
  | none =>
      let bonds := w.state.activeMakerOffers.rows.map ActiveMakerOffer.monitoringBond
      have fetched : exec env fetchAllBonds w = (.ok bonds, World.tick w) := by
        rw [fetchAllBonds, exec_bind_of_ok env w (exec_fetchAll fault _)]
        rfl
      rw [monitorBonds, exec_bind_of_ok env w fetched]
      split
      · rfl
      case isFalse some =>
        have monitored : w.state.activeMakerOffers.rows ≠ [] := by
          simpa [bonds, List.isEmpty_iff] using some
        rw [tryAsk, bind_assoc, exec_ask_bind]
        cases answered : env.answer (World.tick w).clock (.validateBonds bonds) with
        | error e => exact publications_append _ _
        | ok flagged => exact absurd ⟨fault, monitored, answered⟩ (none flagged)

/-- A round of the monitoring publishes a bond iff the loop over the flagged bonds gets to it. -/
theorem unpublished_iff (bondTxHex : String) :
    publications bondTxHex (exec env monitorBonds w).2.log = publications bondTxHex w.log ↔
      ¬ ∃ flagged, Returned env w flagged ∧ Reaches env bondTxHex (w.clock + 2) flagged := by
  by_cases visits : ∃ flagged, Returned env w flagged
  · obtain ⟨flagged, returned⟩ := visits
    have same : publications bondTxHex (validatedWorld env w).log = publications bondTxHex w.log :=
      publications_append _ _
    rw [exec_monitorBonds returned, ← same, publications_punishViolations]
    apply not_congr
    constructor
    · exact fun reaches => ⟨flagged, returned, reaches⟩
    · rintro ⟨flagged', returned', reaches⟩
      rw [returned.unique returned']
      exact reaches
  · apply iff_of_true
    · exact publications_of_not_returned fun flagged returned => visits ⟨flagged, returned⟩
    · exact fun published => visits (published.imp fun _ => And.left)

end Handlers

/-- A request that is no search, no take and no round of the monitoring leaves offers alone. -/
theorem ended_of_other {α ε : Type} {request : Request} {c : Act P ε α}
    {reply : Outcome ε α → Reply}
    (serves : request.serve P = c.run.map reply) (shown : ∀ outcome, (reply outcome).shown = [])
    (noTake : request.taken? = none) (noRound : request ≠ .monitorBonds) :
    Ended env obligation w request := by
  refine ⟨fun offer member => ?_, fun takes => ?_, fun round => absurd round noRound⟩
  · have run : ((request.serve P).run env w).1 = reply (exec env c w).1 := by
      rw [serves]
      exact congrArg Prod.fst (Program.run_bind env c.run _ w)
    rw [run, shown] at member
    cases member
  · cases noTake.symm.trans takes

theorem ended_fetchAvailableOffers_iff (search : OffersRequest) :
    Ended env obligation w (.fetchAvailableOffers search) ↔
      ¬ Concerns env obligation w (.fetchAvailableOffers search) := by
  rw [Concerns, ← hidden_iff]
  have serves : (((Request.fetchAvailableOffers search).serve P).run env w).1 =
      .fetchAvailableOffers (exec env (getPublicOffers search) w).1 :=
    congrArg Prod.fst (Program.run_bind env (getPublicOffers (P := P) search).run _ w)
  rw [← serves]
  refine ⟨Ended.hidden, fun hidden => ⟨hidden, fun takes => ?_, fun round => ?_⟩⟩
  · cases takes
  · cases round

theorem ended_submitTakerBond_iff (payload : OfferPsbtRequest) :
    Ended env obligation w (.submitTakerBond payload) ↔
      ¬ Concerns env obligation w (.submitTakerBond payload) := by
  have serves : (((Request.submitTakerBond payload).serve P).run env w).1 =
      .submitTakerBond (exec env (handleTakerBond payload) w).1 :=
    congrArg Prod.fst (Program.run_bind env (handleTakerBond (P := P) payload).run _ w)
  rw [Concerns, ← handleTakerBond_ok_iff]
  constructor
  · rintro ⟨-, untaken, -⟩ ⟨same, response, answered⟩
    have failed := untaken (congrArg some same)
    rw [serves, answered] at failed
    cases failed
  · intro fails
    refine ⟨fun offer member => ?_, fun takes => ?_, fun round => ?_⟩
    · rw [serves] at member
      cases member
    · rw [serves]
      cases ends : (exec env (handleTakerBond payload) w).1 with
      | error stop => rfl
      | ok response => exact absurd ⟨Option.some.inj takes, response, ends⟩ fails
    · cases round

theorem ended_monitorBonds_iff :
    Ended env obligation w .monitorBonds ↔ ¬ Concerns env obligation w .monitorBonds := by
  rw [Concerns, ← unpublished_iff]
  have serves : ((Request.monitorBonds.serve P).run env w) =
      (.background (exec env monitorBonds w).1, (exec env monitorBonds w).2) :=
    Program.run_bind env (monitorBonds (P := P)).run _ w
  have log : (serveAlone env w .monitorBonds).log = (exec env monitorBonds w).2.log :=
    congrArg (fun ends => ends.2.log) serves
  rw [← log]
  constructor
  · exact fun ended => ended.unpublished rfl
  · intro same
    refine ⟨fun offer member => ?_, fun takes => ?_, fun _ => same⟩
    · rw [serves] at member
      cases member
    · cases takes

/-- What the request does to the offer, in terms of the state before it. -/
theorem ended_iff (request : Request) :
    Ended env obligation w request ↔ ¬ Concerns env obligation w request := by
  cases request with
  | fetchAvailableOffers search => exact ended_fetchAvailableOffers_iff search
  | submitTakerBond payload => exact ended_submitTakerBond_iff payload
  | monitorBonds => exact ended_monitorBonds_iff
  | createOffer offer =>
      exact iff_of_true (ended_of_other (c := receiveOrder offer) rfl (fun _ => rfl) rfl
        Request.noConfusion) id
  | submitMakerBond payload =>
      exact iff_of_true (ended_of_other (c := handleMakerBond payload) rfl (fun _ => rfl) rfl
        Request.noConfusion) id
  | requestOfferStatus payload =>
      exact iff_of_true (ended_of_other (c := getOfferStatusMaker payload) rfl (fun _ => rfl) rfl
        Request.noConfusion) id
  | submitEscrowPsbt payload =>
      exact iff_of_true (ended_of_other (c := handleSignedEscrowPsbt payload) rfl (fun _ => rfl) rfl
        Request.noConfusion) id
  | pollEscrowConfirmation payload =>
      exact iff_of_true (ended_of_other (c := fetchEscrowConfirmationStatus payload) rfl
        (fun _ => rfl) rfl Request.noConfusion) id
  | submitObligationConfirmation payload =>
      exact iff_of_true (ended_of_other (c := handleObligationConfirmation payload) rfl
        (fun _ => rfl) rfl Request.noConfusion) id
  | requestEscrow payload =>
      exact iff_of_true (ended_of_other (c := initiateEscrow payload) rfl (fun _ => rfl) rfl
        Request.noConfusion) id
  | pollFinalPayout payload =>
      exact iff_of_true (ended_of_other (c := handleFinalPayout payload) rfl (fun _ => rfl) rfl
        Request.noConfusion) id
  | submitPayoutSignature payload =>
      exact iff_of_true (ended_of_other (c := handlePayoutSignature payload) rfl (fun _ => rfl) rfl
        Request.noConfusion) id
  | updateTransactionConfirmations =>
      exact iff_of_true (ended_of_other (c := updateTransactionConfirmations) rfl (fun _ => rfl) rfl
        Request.noConfusion) id
  | escrowCliLoop =>
      exact iff_of_true (ended_of_other (c := escrowCliLoop) rfl (fun _ => rfl) rfl
        Request.noConfusion) id

/-- In a run from any state, at whatever pace the clock advances: nothing happens to an offer and
    its bond after the deadline iff after the deadline no request has to do with them. -/
theorem ended_throughout_iff (env : Environment (coordinator P)) (requests : List Request)
    (w : World (coordinator P)) :
    AfterDeadlines env (Ended env) w requests ↔
      AfterDeadlines env (fun obligation w request => ¬ Concerns env obligation w request) w
        requests := by
  induction requests generalizing w with
  | nil => exact Iff.rfl
  | cons request requests ih =>
      simp only [AfterDeadlines]
      apply and_congr
      · apply forall_congr'
        intro obligation
        apply imp_congr_right
        intro accepted
        apply Course.throughout_congr
        intro w request
        rw [ended_iff]
      · exact ih (serveAlone env w request)

end Deadline

namespace Sample

/-- One day passes after the bond of the maker is accepted; the bond is then seen in the mempool. -/
def late : Environment (coordinator .sample) where
  answer tick
    | .now => if tick < 10 then 1700000000 else 1700100000
    | .punishmentEnabled => some "1"
    | .validateBonds bonds => .ok (bonds.map fun bond => (bond, .message "Input in mempool"))
    | query => answer query
  fault _ := none

/-- What the maker of the order is promised for the bond. -/
def promise : Obligation := ⟨offerId, makerBond.signedBondHex, 1700086400⟩

/-- The world in which the deadline of the listed offer has passed. -/
def overdue : World (coordinator .sample) :=
  runAlone late [.createOffer (order true), .submitMakerBond makerBond]

theorem advancing_late : Advancing late := by
  intro tick tick' le
  change (if tick < 10 then 1700000000 else 1700100000 : UInt64) ≤
    if tick' < 10 then 1700000000 else 1700100000
  split
  · split
    · decide
    · decide
  · rw [if_neg (by omega)]
    decide

end Sample

/-- After its deadline an offer is still shown, taken, and its bond published. -/
theorem deadline_ignored :
    Advancing Sample.late ∧
      (Request.submitMakerBond Sample.makerBond).obligation?
        (((Request.submitMakerBond Sample.makerBond).serve .sample).run Sample.late
          (runAlone Sample.late [.createOffer (Sample.order true)])).1 = some Sample.promise ∧
      Sample.promise.bondLockedUntilTimestamp < timeAt Sample.late Sample.overdue ∧
      ¬ Ended Sample.late Sample.promise Sample.overdue
        (.fetchAvailableOffers ⟨true, 0, 1000000⟩) ∧
      ¬ Ended Sample.late Sample.promise Sample.overdue (.submitTakerBond Sample.take) ∧
      ¬ Ended Sample.late Sample.promise Sample.overdue .monitorBonds ∧
      ¬ AfterDeadlines Sample.late (Ended Sample.late) (startup .sample)
        [.createOffer (Sample.order true), .submitMakerBond Sample.makerBond, .monitorBonds] := by
  have accepted : (Request.submitMakerBond Sample.makerBond).obligation?
      (((Request.submitMakerBond Sample.makerBond).serve .sample).run Sample.late
        (runAlone Sample.late [.createOffer (Sample.order true)])).1 = some Sample.promise := by
    decide +kernel
  have past : Sample.promise.bondLockedUntilTimestamp < timeAt Sample.late Sample.overdue := by
    decide +kernel
  have punished : ¬ Ended Sample.late Sample.promise Sample.overdue .monitorBonds := by
    intro ended
    have same := ended.unpublished rfl
    revert same
    decide +kernel
  refine ⟨Sample.advancing_late, accepted, past, ?_, ?_, punished, ?_⟩
  · intro ended
    have hidden := ended.hidden
    revert hidden
    decide +kernel
  · intro ended
    have untaken := ended.untaken rfl
    revert untaken
    decide +kernel
  · intro holds
    exact punished ((holds.2.1 Sample.promise accepted).1 past)

end TapTrade
