import TapTrade.Model.BondValidation
import TapTrade.Model.Frame
import TapTrade.Model.Sample

/-! # What a round of the bond monitoring removes

A flagged bond is published first, and only then is its offer deleted. A publication that
fails ends the round, with the offer of that bond and those of all bonds after it still in the
order book. Publishing fails when the inputs of the bond have been spent, which is what it was
flagged for.
-/

namespace TapTrade

open Relational Resumption

variable {P : Platform}

/-- The same surroundings, with `PUNISHMENT_ENABLED=1`. -/
def punishing (env : Environment (coordinator P)) : Environment (coordinator P) where
  answer tick
    | .punishmentEnabled => some "1"
    | query => env.answer tick query
  fault := env.fault

/-- From the tick on, every one of the bonds is published, and the statement that deletes its
    offer does not fail. -/
def Unfailing (env : Environment (coordinator P)) : Nat → List MonitoringBond → Prop
  | _, [] => True
  | tick, bond :: bonds =>
      env.answer (tick + 1) (.publishBondTxHex bond.bondTxHex) = .ok () ∧
        env.fault (tick + 2) = none ∧ Unfailing env (tick + 3) bonds

section Punish

open Call

variable {env : Environment (coordinator P)} {w : World (coordinator P)} {bond : MonitoringBond}

theorem exec_punish_ok (orderbook : bond.table = .orderbook)
    (published : env.answer w.clock (.publishBondTxHex bond.bondTxHex) = .ok ())
    (unfailing : env.fault (w.clock + 1) = none) :
    ∃ w', exec env bond.punish w = (.ok (), w') ∧
      w'.state = w.state.deleteActive bond.tradeIdHex ∧ w'.clock = w.clock + 2 := by
  let asked : World (coordinator P) := (w.ask env (.publishBondTxHex bond.bondTxHex)).2
  have first : exec env (tryAsk (.publishBondTxHex bond.bondTxHex) id) w = (.ok (), asked) :=
    exec_tryAsk_of_ok published
  let ends : World (coordinator P) :=
    { World.tick asked with state := asked.state.deleteActive bond.tradeIdHex }
  have deleted : exec env (execute fun db => db.deleteActive bond.tradeIdHex) asked =
      (.ok (), ends) := exec_execute unfailing _
  refine ⟨ends, ?_, rfl, rfl⟩
  rw [MonitoringBond.punish, exec_bind_of_ok _ _ first, removeViolatingBond, if_pos orderbook]
  exact exec_mapError_of_ok _ _ deleted

/-- A publication or a deletion that fails leaves the offer. -/
theorem exec_punish_fails (orderbook : bond.table = .orderbook)
    (fails : ¬ (env.answer w.clock (.publishBondTxHex bond.bondTxHex) = .ok () ∧
      env.fault (w.clock + 1) = none)) :
    ∃ stop w', exec env bond.punish w = (.error stop, w') ∧ w'.state = w.state := by
  let asked : World (coordinator P) := (w.ask env (.publishBondTxHex bond.bondTxHex)).2
  rw [MonitoringBond.punish, removeViolatingBond, if_pos orderbook]
  cases answer : env.answer w.clock (.publishBondTxHex bond.bondTxHex) with
  | error e =>
      refine ⟨.failed e, asked, ?_, rfl⟩
      rw [exec_bind, tryAsk, exec_ask_bind, answer]
      rfl
  | ok u =>
      have first : exec env (tryAsk (.publishBondTxHex bond.bondTxHex) id) w = (.ok (), asked) :=
        exec_tryAsk_of_ok answer
      cases fault : env.fault (w.clock + 1) with
      | none => exact absurd ⟨answer, fault⟩ fails
      | some failure =>
          rw [exec_bind_of_ok _ _ first, exec_mapError, exec_execute_of_fault fault]
          exact ⟨_, World.tick asked, rfl, rfl⟩

/-- The loop visits a bond. -/
theorem exec_punishViolations_cons (error : Error)
    (validationResults : List (MonitoringBond × Error)) :
    exec (punishing env) (punishViolations ((bond, error) :: validationResults)) w =
      exec (punishing env) (bond.punish >>= fun _ => punishViolations validationResults)
        (w.ask (punishing env) .punishmentEnabled).2 := by
  rw [punishViolations, exec_ask_bind]
  rfl

/-- An offer that is not listed does not come back. -/
theorem unlisted_punishViolations {offerId : String} (unlisted : ¬ w.state.Lists offerId)
    (flagged : List (MonitoringBond × Error)) :
    ¬ (exec env (punishViolations flagged) w).2.state.Lists offerId := by
  have keeps : (punishViolations flagged : Act P Error Unit).Keeps
      (Preserving fun db : Database => ¬ db.Lists offerId) := by
    apply Program.Keeps.mono (writes_punishViolations flagged)
    rintro before after (_ | permitted) unlisted
    · exact unlisted
    · cases permitted with
      | punish other => exact fun listed => unlisted (Database.lists_deleteActive.mp listed).2
  exact keeps.exec_holds unlisted

/-- Of distinct listed offers the loop leaves none iff nothing fails. -/
theorem noneLeft_punishViolations {flagged : List (MonitoringBond × Error)}
    (orderbook : ∀ bond ∈ flagged.map Prod.fst, bond.table = .orderbook)
    (listed : ∀ bond ∈ flagged.map Prod.fst, w.state.Lists bond.tradeIdHex)
    (distinct : ((flagged.map Prod.fst).map MonitoringBond.tradeIdHex).Nodup) :
    (∀ bond ∈ flagged.map Prod.fst,
        ¬ (exec (punishing env) (punishViolations flagged) w).2.state.Lists bond.tradeIdHex) ↔
      Unfailing (punishing env) w.clock (flagged.map Prod.fst) := by
  induction flagged generalizing w with
  | nil => exact iff_of_true nofun trivial
  | cons violation flagged ih =>
      obtain ⟨bond, error⟩ := violation
      simp only [List.map_cons, List.forall_mem_cons, List.nodup_cons, Unfailing]
        at orderbook listed distinct ⊢
      rw [exec_punishViolations_cons]
      let asked : World (coordinator P) := (w.ask (punishing env) .punishmentEnabled).2
      by_cases succeeds :
          (punishing env).answer asked.clock (.publishBondTxHex bond.bondTxHex) = .ok () ∧
            (punishing env).fault (asked.clock + 1) = none
      · obtain ⟨w', punished, state, clock⟩ :=
          exec_punish_ok orderbook.1 succeeds.1 succeeds.2
        rw [exec_bind_of_ok _ _ punished]
        have others : ∀ other ∈ flagged.map Prod.fst, w'.state.Lists other.tradeIdHex := by
          intro other member
          rw [state, Database.lists_deleteActive]
          have differs : other.tradeIdHex ≠ bond.tradeIdHex := fun same =>
            distinct.1 (same ▸ List.mem_map_of_mem member)
          exact ⟨differs, listed.2 other member⟩
        have gone : ¬ w'.state.Lists bond.tradeIdHex := by
          rw [state, Database.lists_deleteActive]
          exact fun still => still.1 rfl
        have rest := ih orderbook.2 others distinct.2
        rw [clock] at rest
        rw [rest]
        exact ⟨fun left => ⟨succeeds.1, succeeds.2, left.2⟩,
          fun unfailing => ⟨unlisted_punishViolations gone flagged, unfailing.2.2⟩⟩
      · -- the round ends here, with the offer of this bond still listed
        obtain ⟨stop, w', failed, state⟩ := exec_punish_fails orderbook.1 succeeds
        refine iff_of_false (fun left => left.1 ?_) fun unfailing =>
          succeeds ⟨unfailing.1, unfailing.2.1⟩
        rw [exec_bind, failed, state]
        exact listed.1

end Punish

/-- `validate_bonds` returns the flagged bonds, in the order in which the loop visits them, in a
    round that starts in the world. -/
structure Returned (env : Environment (coordinator P)) (w : World (coordinator P))
    (flagged : List (MonitoringBond × Error)) : Prop where
  fetched : env.fault w.clock = none
  monitored : w.state.activeMakerOffers.rows ≠ []
  answered : env.answer (w.clock + 1) (.validateBonds
    (w.state.activeMakerOffers.rows.map ActiveMakerOffer.monitoringBond)) = .ok flagged

section Round

open Call

variable {env : Environment (coordinator P)} {w : World (coordinator P)}
  {flagged : List (MonitoringBond × Error)}

/-- The world in which the bonds of a round have been validated. -/
abbrev validatedWorld (env : Environment (coordinator P)) (w : World (coordinator P)) :
    World (coordinator P) :=
  ((World.tick w).ask env (.validateBonds
    (w.state.activeMakerOffers.rows.map ActiveMakerOffer.monitoringBond))).2

/-- A round comes down to the loop over the flagged bonds. -/
theorem exec_monitorBonds (returned : Returned env w flagged) :
    exec env monitorBonds w = exec env (punishViolations flagged) (validatedWorld env w) := by
  let bonds := w.state.activeMakerOffers.rows.map ActiveMakerOffer.monitoringBond
  have fetched : exec env fetchAllBonds w = (.ok bonds, World.tick w) := by
    rw [fetchAllBonds, exec_bind_of_ok env w (exec_fetchAll returned.fetched _)]
    rfl
  have monitored : bonds.isEmpty = false := by
    simpa [bonds, List.isEmpty_eq_false_iff] using returned.monitored
  have validated : exec env (tryAsk (.validateBonds bonds) id) (World.tick w) =
      (.ok flagged, validatedWorld env w) := exec_tryAsk_of_ok returned.answered
  rw [monitorBonds, exec_bind_of_ok _ _ fetched, monitored]
  exact exec_bind_of_ok _ _ validated

/-- The bonds of a round are those of distinct listed offers. -/
theorem Returned.of_snapshot {chain : Chain}
    (returned : Returned (punishing (withChain env chain)) w flagged) :
    (∀ bond ∈ flagged.map Prod.fst, bond.table = .orderbook ∧ w.state.Lists bond.tradeIdHex) ∧
      ((flagged.map Prod.fst).map MonitoringBond.tradeIdHex).Nodup := by
  have answered : (withChain env chain).answer (w.clock + 1) (.validateBonds
      (w.state.activeMakerOffers.rows.map ActiveMakerOffer.monitoringBond)) = .ok flagged :=
    returned.answered
  obtain ⟨snapshot, once⟩ := flagged_of_answer answered
  have row_of (bond : MonitoringBond) (member : bond ∈ flagged.map Prod.fst) :
      ∃ row ∈ w.state.activeMakerOffers.rows, row.monitoringBond = bond :=
    List.mem_map.mp (snapshot bond member)
  refine ⟨fun bond member => ?_, once.map_on fun bond member other member' same => ?_⟩
  · obtain ⟨row, listed, rfl⟩ := row_of bond member
    exact ⟨rfl, Database.lists_of_mem listed⟩
  · obtain ⟨row, listed, rfl⟩ := row_of bond member
    obtain ⟨row', listed', rfl⟩ := row_of other member'
    rw [List.inj_on_of_nodup_map w.state.activeMakerOffers.nodup listed listed' same]

/-- A round of the monitoring leaves none of the flagged offers in the order book iff every
    bond gets published and every offer gets deleted. -/
theorem noneLeft_iff (env : Environment (coordinator P)) (chain : Chain)
    (w : World (coordinator P)) {flagged : List (MonitoringBond × Error)}
    (returned : Returned (punishing (withChain env chain)) w flagged) :
    (∀ bond ∈ flagged.map Prod.fst, ¬ (exec (punishing (withChain env chain)) monitorBonds
        w).2.state.Lists bond.tradeIdHex) ↔
      Unfailing (punishing (withChain env chain)) (w.clock + 2) (flagged.map Prod.fst) := by
  obtain ⟨snapshot, distinct⟩ := returned.of_snapshot
  rw [exec_monitorBonds returned]
  exact noneLeft_punishViolations (fun bond member => (snapshot bond member).1)
    (fun bond member => (snapshot bond member).2) distinct

end Round

namespace Sample

/-- A chain on which the inputs of every bond are spent from some tick on, by a transaction in
    the mempool that bonds replace or do not replace. -/
def chain (spentFrom : Nat) (replaces : Bool) : Chain where
  sha256 bytes := bytes
  deserialize bytes := some ⟨Hex.encode bytes, [⟨"f0", 0⟩],
    [⟨10000, Platform.sample.scriptPubkey makerAddress⟩], 150⟩
  verifyTx _ _ _ := .ok ()
  getRawTx _ _ _ := .ok none
  getTx _ _ txid := .ok (some ⟨txid, [], [⟨30000000, [0x51, 0x20]⟩], 150⟩)
  testMempoolAccept _ _ _ := .ok []
  inUtxoSet tick _ := spentFrom ≤ tick
  broadcast tick _ := if tick < spentFrom || replaces then .ok () else .error (.library "broadcast")
  visit _ bonds := bonds.rows
  visit_perm _ bonds := List.Perm.refl bonds.rows

/-- The bond of the maker, as the monitoring finds it. -/
def violation : MonitoringBond × Error :=
  (⟨"b0", offerId, makerRobohash, ⟨makerAddress, 10000, 100000⟩, .orderbook⟩,
    .message "Input in mempool")

theorem returned :
    Returned (punishing (withChain environment (chain 0 false))) listed [violation] :=
  ⟨rfl, by decide +kernel, by decide +kernel⟩

/-- Two offers get listed one after the other, each with an id of its own. -/
def twoOffers : Environment (coordinator .sample) where
  answer tick
    | .generateRandomOrderId _ => if tick < 10 then offerId else "101112131415161718191a1b1c1d1e1f"
    | query => answer query
  fault _ := none

def twoListed : World (coordinator .sample) :=
  runAlone twoOffers [.createOffer (order true), .submitMakerBond makerBond,
    .createOffer { order false with robohashHex := takerBond.robohashHex },
    .submitMakerBond takerBond]

/-- A chain on which the transaction that spends the inputs of the first bond is about to be
    confirmed: only the first publication of a round still replaces it. -/
def racingChain (firstLast : Bool) : Chain := { chain 0 true with
  broadcast := fun tick tx =>
    if tx.txid = "b0" && twoListed.clock + 3 < tick then .error (.library "broadcast") else .ok ()
  visit := fun _ bonds => if firstLast then bonds.rows.reverse else bonds.rows
  visit_perm := by
    intro tick bonds
    split
    · exact List.reverse_perm _
    · exact List.Perm.refl _ }

/-- The bond of the second offer, as the monitoring finds it. -/
def otherViolation : MonitoringBond × Error :=
  (⟨"b1", "101112131415161718191a1b1c1d1e1f", takerRobohash, ⟨makerAddress, 10000, 100000⟩,
    .orderbook⟩, .message "Input in mempool")

theorem returned_racing :
    Returned (punishing (withChain environment (racingChain false))) twoListed
        [violation, otherViolation] ∧
      Returned (punishing (withChain environment (racingChain true))) twoListed
        [otherViolation, violation] :=
  ⟨⟨rfl, by decide +kernel, by decide +kernel⟩, ⟨rfl, by decide +kernel, by decide +kernel⟩⟩

end Sample

/-- Of two bonds, of which the first can be published right away only, the round leaves no offer if
    it visits the first one first, and leaves one otherwise. -/
theorem noneLeft_iff_sample :
    (∀ bond ∈ [Sample.violation.1, Sample.otherViolation.1],
      ¬ (Call.exec (punishing (withChain Sample.environment (Sample.racingChain false)))
        monitorBonds Sample.twoListed).2.state.Lists bond.tradeIdHex) ∧
    ¬ ∀ bond ∈ [Sample.otherViolation.1, Sample.violation.1],
      ¬ (Call.exec (punishing (withChain Sample.environment (Sample.racingChain true)))
        monitorBonds Sample.twoListed).2.state.Lists bond.tradeIdHex := by
  constructor
  · exact (noneLeft_iff Sample.environment (Sample.racingChain false) Sample.twoListed
      Sample.returned_racing.1).mpr ⟨by decide +kernel, rfl, by decide +kernel, rfl, trivial⟩
  · intro left
    obtain ⟨-, -, late, -⟩ := (noneLeft_iff Sample.environment (Sample.racingChain true)
      Sample.twoListed Sample.returned_racing.2).mp left
    exact absurd late (by decide +kernel)

/-- The bond cannot be published, since its inputs are spent already, and its offer stays. -/
theorem violating_offer_stays :
    Returned (punishing (withChain Sample.environment (Sample.chain 0 false))) Sample.listed
        [Sample.violation] ∧
      (Call.exec (punishing (withChain Sample.environment (Sample.chain 0 false))) monitorBonds
        Sample.listed).2.state.Lists Sample.violation.1.tradeIdHex :=
  ⟨Sample.returned, by decide +kernel⟩

end TapTrade
