import TapTrade.Model.Writes
import TapTrade.Session.Protocol
import TapTrade.System.Records

/-! # What the coordinator knows when it acts and answers

Each handler, with what it has read by the time it writes, asks and answers: the role of the
trader that a record is made for, the row whose signatures it aggregates, the confirmation that
it reports.
-/

namespace TapTrade

open Relational Resumption Call

variable {P : Platform} {α β ε : Type} {request : Request} {k : Knowledge (coordinator P)}

/-- The call acts and asks as the request may with what it knows. -/
abbrev Request.Does (request : Request) (post : Knowledge (coordinator P) → α → Prop)
    (k : Knowledge (coordinator P)) (c : Act P ε α) : Prop :=
  c.Learns request.Records request.MayAsk post k

/-- What an answer to the request says is so. -/
def Request.Vouched (knows : (Database → Prop) → Prop) : Request → Except Error Response → Prop
  | .pollEscrowConfirmation payload, answer => hasStatus 200 answer →
      (∃ isMaker, knows (Acting payload.offerIdHex payload.robohashHex isMaker)) ∧
        knows (·.HasOffer payload.offerIdHex TakenOffer.Confirmed)
  | .pollFinalPayout payload, answer => hasStatus 200 answer →
      knows (·.HasOffer payload.offerIdHex fun row => row.happiness.bothHappy = true)
  | _, _ => True

section Parts

variable {post : Knowledge (coordinator P) → α → Prop}

theorem learns_fetchOptional {read : Database → Option α}
    {post : Knowledge (coordinator P) → Option α → Prop}
    (ends : ∀ a, post (k.see fun db => read db = a) a) :
    request.Does post k (fetchOptional read) :=
  learns_query (fun _ => Request.records_self) ends

theorem learns_fetchOne {read : Database → Option α}
    (ends : ∀ a, post (k.see fun db => read db = some a) a) :
    request.Does post k (fetchOne read) := by
  apply Learns.bind
  apply learns_fetchOptional
  intro found
  apply learns_ofOption
  rintro a rfl
  exact ends a

theorem learns_execute {write : Database → Database}
    {post : Knowledge (coordinator P) → Unit → Prop}
    (records : ∀ db, request.Records k db (write db)) (ends : ∀ k', k ≤ k' → post k' ()) :
    request.Does post k (execute write) := learns_update records ends

/-- A call that only reads, and asks nothing. -/
theorem learns_looks {c : Act P ε α} (reads : c.Keeps Eq) (silent : c.Asks fun _ => False)
    (ends : ∀ k' a, k ≤ k' → post k' a) : request.Does post k c := by
  apply Learns.mono (Keeps.learns reads silent ?_ nofun) (fun k' a more => ends k' a more)
  rintro k' more db _ rfl
  exact Request.records_self

/-- A request that has a transaction assembled or broadcast. -/
def Request.Transacts : Request → Prop
  | .submitEscrowPsbt _ | .pollFinalPayout _ | .submitPayoutSignature _ | .monitorBonds => True
  | _ => False

theorem Request.Plain.other (plain : request.Plain) : ¬ request.Transacts := by
  cases request <;> first | exact plain.elim | exact id

theorem Request.mayAsk_of_poses {query : Query P} (other : ¬ request.Transacts)
    (posed : request.Poses query) : request.MayAsk k query := by
  refine ⟨posed, ?_⟩
  cases query with
  | publishBondTxHex | combineAndBroadcastEscrowPsbt | assembleKeyspendPayoutPsbt
  | broadcastKeyspendTx =>
      cases request <;> first | exact posed.elim | exact absurd trivial other
  | _ => trivial

theorem learns_tryAsk {query : Query P} {answer : query.Answer → Except Error α}
    (may : request.MayAsk k query)
    (ends : ∀ given a, answer given = .ok a → post (k.hear query given) a) :
    request.Does post k (tryAsk query answer) := by
  apply Learns.bind
  apply learns_ask may
  intro given
  exact learns_ofExcept (ends given)

end Parts

section Trader

variable {offerId robohashHex : String}

theorem TakenOffer.role?_of_names {row : TakenOffer} {robohash : Bytes}
    (named : (row.names robohash).holds = true) : ∃ isMaker, row.role? robohash = some isMaker := by
  simp only [names, Ternary.holds_or, Ternary.holds_eq] at named
  obtain ⟨maker, -⟩ | ⟨taker, -⟩ := named
  · exact ⟨true, by simp [role?, maker, Column.blob]⟩
  · by_cases maker : Column.blob row.robohashMaker = robohash
    · exact ⟨true, if_pos maker⟩
    · exact ⟨false, (if_neg maker).trans (if_pos (by simp [taker, Column.blob]))⟩

/-- The role that a trader is found to have is its role. -/
theorem learns_isMakerInTakenOffers {post : Knowledge (coordinator P) → Bool → Prop}
    (ends : ∀ k' isMaker, k ≤ k' → k'.Knows (Acting offerId robohashHex isMaker) →
      post k' isMaker) :
    request.Does post k (isMakerInTakenOffers offerId robohashHex) := by
  apply Learns.bind
  apply learns_ofOption
  intro robohash decoded
  apply Learns.bind
  apply learns_fetchOne
  intro row
  have knows (isMaker : Bool) (role : row.role? robohash = some isMaker) :
      (k.see fun db => db.takenOffers.find? offerId = some row).Knows
        (Acting offerId robohashHex isMaker) :=
    Knowledge.knows_see.imp fun db found => ⟨robohash, decoded, row, found, role⟩
  apply learns_ite
  · exact fun _ => learns_fail _
  · intro trader
    refine learns_pure (ends _ _ Knowledge.le_see (knows _ ?_))
    simp only [Bool.not_eq_eq_eq_not, Bool.not_true, Bool.and_eq_true, decide_eq_false_iff_not,
      not_and, not_not] at trader
    by_cases maker : Column.blob row.robohashMaker = robohash
    · simp [TakenOffer.role?, maker]
    · simp [TakenOffer.role?, maker, trader maker]

theorem learns_isValidRobohashInTable {post : Knowledge (coordinator P) → Bool → Prop}
    (invalid : ∀ k', k ≤ k' → post k' false)
    (valid : ∀ k' isMaker, k ≤ k' → k'.Knows (Acting offerId robohashHex isMaker) →
      post k' true) :
    request.Does post k (isValidRobohashInTable robohashHex offerId) := by
  apply Learns.bind
  apply learns_ofOption
  intro robohash decoded
  apply Learns.bind
  apply learns_fetchOptional
  rintro (_ | row)
  · exact learns_pure (invalid _ Knowledge.le_see)
  · apply learns_pure
    by_cases named : (row.names robohash).holds = true
    · obtain ⟨isMaker, role⟩ := row.role?_of_names named
      refine valid _ isMaker Knowledge.le_see (Knowledge.knows_see.imp fun db found => ?_)
      exact ⟨robohash, decoded, row, (Option.filter_eq_some_iff.mp found).1, role⟩
    · exact valid _ true Knowledge.le_see (Knowledge.knows_see.imp fun db found =>
        absurd (Option.filter_eq_some_iff.mp found).2 named)

theorem learns_fetchEscrowTxConfirmationStatus {post : Knowledge (coordinator P) → Bool → Prop}
    (unconfirmed : ∀ k', k ≤ k' → post k' false)
    (confirmed : ∀ k', k ≤ k' → k'.Knows (·.HasOffer offerId TakenOffer.Confirmed) →
      post k' true) :
    request.Does post k (fetchEscrowTxConfirmationStatus offerId) := by
  apply Learns.bind
  apply learns_fetchOne
  intro row
  apply learns_pure
  by_cases read : Column.i64 row.escrowPsbtIsConfirmed = 1
  · rw [decide_eq_true read]
    exact confirmed _ Knowledge.le_see (Knowledge.knows_see.imp fun db found =>
      ⟨row, found, TakenOffer.confirmed_of_i64 read⟩)
  · rw [decide_eq_false read]
    exact unconfirmed _ Knowledge.le_see

theorem learns_checkOfferAndConfirmation {post : Knowledge (coordinator P) → Unit → Prop}
    (ends : ∀ k', k ≤ k' → post k' ()) :
    request.Does post k (checkOfferAndConfirmation offerId robohashHex) :=
  learns_looks (keeps_checkOfferAndConfirmation _ _) (poses_checkOfferAndConfirmation _ _)
    fun k' _ more => ends k' more

end Trader

section Handlers

theorem learns_fetchEscrowConfirmationStatus (payload : OfferTakenRequest) :
    (Request.pollEscrowConfirmation payload).Does (fun k reported => reported = true →
      (∃ isMaker, k.Knows (Acting payload.offerIdHex payload.robohashHex isMaker)) ∧
        k.Knows (·.HasOffer payload.offerIdHex TakenOffer.Confirmed)) k
      (fetchEscrowConfirmationStatus payload : Act P FetchEscrowConfirmationError Bool) := by
  apply Learns.bind
  apply Learns.mapError
  apply learns_isValidRobohashInTable
  · intro k' more
    exact learns_fail _
  · intro k' isMaker more acting
    apply Learns.mapError
    apply learns_fetchEscrowTxConfirmationStatus
    · exact fun _ _ => nofun
    · intro k'' further confirmed reported
      exact ⟨⟨isMaker, acting.mono further⟩, confirmed⟩

theorem learns_handleMakerBond (payload : BondSubmissionRequest) :
    (Request.submitMakerBond payload).Does (fun _ _ => True) k
      (handleMakerBond payload : Act P BondError OfferActivatedResponse) := by
  apply Learns.bind
  apply Learns.mapError
  apply learns_looks (keeps_fetchBondRequirements _)
    (Asks.bind (by simp) fun _ => Asks.bind (by simp) fun _ => by simp)
  intro k' requirements more
  apply Learns.bind
  apply Learns.mapError
  apply learns_tryAsk
  · exact ⟨trivial, trivial⟩
  intro given valid accepted
  apply Learns.bind
  apply learns_ask
  · exact ⟨trivial, trivial⟩
  intro offerId
  apply Learns.bind
  apply Learns.mapError
  apply learns_tryAsk
  · exact ⟨trivial, trivial⟩
  intro given' address derived
  apply Learns.bind
  apply Learns.mapError
  apply Learns.bind
  apply Learns.bind
  apply learns_ofOption
  intro robohash decoded
  apply Learns.bind
  apply learns_fetchOne
  intro row
  apply Learns.bind
  apply learns_ofOption
  intro offer read
  apply Learns.bind
  apply learns_execute fun db => Request.records_makerRequests
  intro k'' further
  apply learns_pure
  apply Learns.bind
  apply learns_ofOption
  intro robohash' decoded'
  apply Learns.bind
  apply learns_execute
  · exact fun db => Request.records_insertActive ⟨robohash', decoded', rfl⟩
  · exact fun _ _ => learns_pure (learns_pure trivial)

theorem learns_handleTakerBond (payload : OfferPsbtRequest) :
    (Request.submitTakerBond payload).Does (fun _ _ => True) k
      (handleTakerBond payload : Act P BondError OfferTakenResponse) := by
  have looks : (escrowForTaker payload : Act P BondError EscrowPsbt).Keeps Eq :=
    keeps_escrowForTaker payload
  apply Learns.bind
  apply (Keeps.learns looks (poses_escrowForTaker payload) ?_ ?_).mono
  · intro k' escrow more
    apply Learns.bind
    apply Learns.mapError
    apply Learns.bind
    apply Learns.bind
    apply learns_fetchOne
    intro row
    have known : (k'.see fun db => db.activeMakerOffers.find? payload.offer.offerIdHex =
        some row).Knows (·.HasListed payload.offer.offerIdHex row.stake) :=
      Knowledge.knows_see.imp fun db found => ⟨row, found, rfl⟩
    apply Learns.bind
    apply learns_ofOption
    intro offer read
    apply Learns.bind
    apply learns_execute fun db => Request.records_deleteActive
    intro k'' further
    apply learns_pure
    apply Learns.bind
    apply learns_ofOption
    intro robohash decoded
    apply learns_execute
    · intro db
      apply Request.records_insertTaken
      obtain ⟨same, maker⟩ := AwaitingTakerOffer.stake_of_ofRow read robohash payload escrow
      rw [same]
      rintro (_ | _)
      · exact ⟨rfl, robohash, decoded, rfl⟩
      · exact ⟨rfl, maker ▸ known.mono further⟩
    · exact fun _ _ => learns_pure trivial
  · rintro k' more db _ rfl
    exact Request.records_self
  · exact fun k' more query posed => Request.mayAsk_of_poses id posed

theorem learns_handleSignedEscrowPsbt (payload : PsbtSubmissionRequest) :
    (Request.submitEscrowPsbt payload).Does (fun _ _ => True) k
      (handleSignedEscrowPsbt payload : Act P RequestError Unit) := by
  apply Learns.bind
  apply learns_looks (keeps_mapError (by simp)) (asks_mapError (by simp))
  intro k' valid more
  apply learns_ite ?_ fun _ => learns_fail _
  intro named
  apply Learns.bind
  apply Learns.mapError
  apply Learns.bind
  apply learns_isMakerInTakenOffers
  intro k'' isMaker further acting
  apply Learns.bind
  apply learns_fetchOne
  intro status
  apply learns_ite
  · exact fun _ => learns_pure (learns_fail _)
  intro fresh
  apply Learns.bind
  apply learns_execute
  · exact fun db =>
      Request.records_setSignedEscrowPsbt ⟨rfl, rfl, acting.mono Knowledge.le_see⟩
  intro k₃ onwards
  apply learns_pure
  apply Learns.bind
  apply Learns.mapError
  apply Learns.bind
  apply learns_fetchOne
  intro row
  split
  · rename_i maker taker makerSigned takerSigned
    apply learns_pure
    apply Learns.mapError
    apply learns_tryAsk
    · exact ⟨trivial, payload.offerIdHex, Knowledge.knows_see.imp fun db found =>
        ⟨row, found, makerSigned, takerSigned⟩⟩
    · exact fun _ _ _ => trivial
  · exact learns_pure (learns_pure trivial)

theorem learns_handleObligationConfirmation (payload : OfferTakenRequest) :
    (Request.submitObligationConfirmation payload).Does (fun _ _ => True) k
      (handleObligationConfirmation payload : Act P RequestError Unit) := by
  apply Learns.bind
  apply learns_checkOfferAndConfirmation
  intro k' more
  apply Learns.mapError
  apply Learns.bind
  apply learns_isMakerInTakenOffers
  intro k' isMaker more acting
  apply Learns.bind
  apply learns_execute
  · exact fun db => Request.records_setHappy fun _ => ⟨rfl, acting⟩
  · intro k' more
    exact learns_pure trivial

theorem learns_initiateEscrow (payload : TradeObligationsUnsatisfied) :
    (Request.requestEscrow payload).Does (fun _ _ => True) k
      (initiateEscrow payload : Act P RequestError Unit) := by
  apply Learns.bind
  apply learns_checkOfferAndConfirmation
  intro k' more
  apply Learns.mapError
  apply Learns.bind
  apply learns_isMakerInTakenOffers
  intro k' isMaker more acting
  apply Learns.bind
  apply learns_execute
  · exact fun db => Request.records_setHappy fun reported => absurd rfl reported
  · intro k' further
    apply learns_execute
    · exact fun db => Request.records_setEscrowOngoing ⟨rfl, isMaker, acting.mono further⟩
    · exact fun _ _ => trivial

theorem learns_handlePayoutSignature (payload : PayoutSignatureRequest) :
    (Request.submitPayoutSignature payload).Does (fun _ _ => True) k
      (handlePayoutSignature payload : Act P RequestError Bool) := by
  apply Learns.bind
  apply learns_checkOfferAndConfirmation
  intro k' more
  apply Learns.bind
  apply Learns.mapError
  apply Learns.bind
  apply learns_isMakerInTakenOffers
  intro k' isMaker more acting
  apply Learns.bind
  apply learns_fetchOne
  intro status
  apply learns_ite
  · exact fun _ => learns_fail _
  intro fresh
  apply learns_execute
  · exact fun db => Request.records_setPartialSig ⟨rfl, rfl, acting.mono Knowledge.le_see⟩
  intro k' further
  apply Learns.bind
  apply Learns.mapError
  apply Learns.bind
  apply learns_fetchOne
  intro row
  apply learns_ofExcept
  rintro (_ | context) read
  · exact learns_pure trivial
  apply Learns.bind
  apply Learns.mapError
  apply learns_tryAsk
  · refine ⟨trivial, payload.offerIdHex, ?_⟩
    exact Knowledge.knows_see.imp fun db found => ⟨row, found, read⟩
  intro given a sent
  apply Learns.bind
  apply Learns.mapError
  apply learns_execute
  · exact fun db => Request.records_deleteTaken
  · exact fun _ _ => learns_pure trivial

/-- An answer that a payout is ready. -/
def PayoutProcessingResult.isReady : PayoutProcessingResult → Bool
  | .readyPsbt _ => true
  | _ => false

theorem learns_disputeResult (payload : OfferTakenRequest) :
    request.Does (fun _ result => result.isReady = false) k
      (disputeResult payload : Act P RequestError PayoutProcessingResult) := by
  apply Learns.bind
  apply learns_looks (keeps_mapError (Keeps.bind (by simp) fun _ => by simp))
    (asks_mapError (Asks.bind (by simp) fun _ => by simp))
  rintro k' (_ | winner) more
  · exact learns_pure rfl
  · exact learns_ite (fun _ => learns_panic) fun _ => learns_pure rfl

theorem learns_toggleProcessing {offerId : String}
    {post : Knowledge (coordinator P) → Bool → Prop}
    (ends : ∀ k' acquired, k ≤ k' → post k' acquired) :
    request.Does post k (toggleProcessing offerId) := by
  have keeps : (toggleProcessing offerId : Act P Error Bool).Keeps
      fun db db' => ∀ k : Knowledge (coordinator P), request.Records k db db' :=
    keeps_toggleProcessing fun db k => Request.records_toggleProcessing
  have silent : (toggleProcessing offerId : Act P Error Bool).Asks fun _ => False :=
    poses_toggleProcessing offerId
  exact (Keeps.learns keeps silent (fun k' _ db db' records => records k') nofun).mono ends

theorem learns_storePayoutPsbt {payload : OfferTakenRequest} {data : PayoutData P} {psbt : String}
    (happy : k.Knows (·.HasOffer payload.offerIdHex fun row => row.happiness.bothHappy = true)) :
    (Request.pollFinalPayout payload).Does (fun k' _ => k ≤ k') k
      (storePayoutPsbt payload.offerIdHex data psbt : Act P RequestError PayoutProcessingResult) := by
  apply Learns.bind
  apply Learns.mapError
  apply learns_execute
  · exact fun db => Request.records_setPayoutPsbt ⟨rfl, happy⟩
  intro k' more
  apply Learns.bind
  apply Learns.mapError
  apply learns_toggleProcessing
  intro k'' released further
  exact learns_pure (Knowledge.le_trans more further)

/-- A payout is assembled for both traders, who are satisfied. -/
theorem learns_beginPayout {payload : OfferTakenRequest} {data : PayoutData P}
    (payable : k.Knows (·.HasOffer payload.offerIdHex fun row => row.payoutData P = .ok data))
    (happy : k.Knows (·.HasOffer payload.offerIdHex fun row => row.happiness.bothHappy = true)) :
    (Request.pollFinalPayout payload).Does (fun k' _ => k ≤ k') k
      (beginPayout payload.offerIdHex data : Act P RequestError PayoutProcessingResult) := by
  apply Learns.bind
  apply Learns.mapError
  apply learns_toggleProcessing
  intro k' acquired more
  apply learns_ite
  case no => exact fun _ => learns_pure more
  intro acquired
  apply Learns.bind
  apply Learns.mapError
  apply learns_tryAsk
  · exact ⟨trivial, payload.offerIdHex, payable.mono more, happy.mono more⟩
  intro given psbt assembled
  apply (learns_storePayoutPsbt ((happy.mono more).mono Knowledge.le_hear)).mono
  intro k'' result further
  exact Knowledge.le_trans (Knowledge.le_trans more Knowledge.le_hear) further

theorem learns_keyspendPayout {payload : OfferTakenRequest}
    (happy : k.Knows (·.HasOffer payload.offerIdHex fun row => row.happiness.bothHappy = true)) :
    (Request.pollFinalPayout payload).Does (fun k' _ => k ≤ k') k
      (keyspendPayout payload.offerIdHex : Act P RequestError PayoutProcessingResult) := by
  apply Learns.bind
  apply Learns.mapError
  apply Learns.bind
  apply Learns.mapError
  apply learns_fetchOne
  intro row
  apply learns_ofExcept
  intro data read
  have payable : (k.see fun db => db.takenOffers.find? payload.offerIdHex = some row).Knows
      (·.HasOffer payload.offerIdHex fun row => row.payoutData P = .ok data) :=
    Knowledge.knows_see.imp fun db found => ⟨row, found, read⟩
  apply Learns.bind
  apply Learns.mapError
  apply Learns.bind
  apply learns_fetchOne
  intro row'
  apply learns_pure
  cases row'.payoutTransactionPsbtHex with
  | some psbt => exact learns_pure (Knowledge.le_trans Knowledge.le_see Knowledge.le_see)
  | none =>
      apply (learns_beginPayout (payable.mono Knowledge.le_see)
        ((happy.mono Knowledge.le_see).mono Knowledge.le_see)).mono
      intro k' result more
      exact Knowledge.le_trans (Knowledge.le_trans Knowledge.le_see Knowledge.le_see) more

theorem learns_handleFinalPayout (payload : OfferTakenRequest) :
    (Request.pollFinalPayout payload).Does (fun k result => result.isReady = true →
      k.Knows (·.HasOffer payload.offerIdHex fun row => row.happiness.bothHappy = true)) k
      (handleFinalPayout payload : Act P RequestError PayoutProcessingResult) := by
  apply Learns.bind
  apply Learns.mapError
  apply Learns.bind
  apply learns_fetchOne
  intro row
  apply learns_pure
  apply learns_ite
  · intro happy
    have known : (k.see fun db => db.takenOffers.find? payload.offerIdHex = some row).Knows
        (·.HasOffer payload.offerIdHex fun row => row.happiness.bothHappy = true) :=
      Knowledge.knows_see.imp fun db found => ⟨row, found, happy⟩
    exact (learns_keyspendPayout known).mono fun k' result more ready => known.mono more
  · intro unhappy
    apply learns_ite
    · exact fun _ => learns_pure nofun
    · intro decided
      apply (learns_disputeResult payload).mono
      exact fun _ _ pending ready => nomatch pending.symm.trans ready

theorem learns_punish {bond : MonitoringBond}
    (founded : (Query.publishBondTxHex bond.bondTxHex).Founded k.Knows
      fun query answer => ⟨query, answer⟩ ∈ k.heard) :
    Request.monitorBonds.Does (fun k' _ => k ≤ k') k (bond.punish : Act P Error Unit) := by
  apply Learns.bind
  apply learns_tryAsk
  · exact ⟨trivial, founded⟩
  intro given published broadcast
  apply Learns.mapError
  apply learns_ite
  · intro listed
    apply learns_execute
    · exact fun db => Request.records_deleteActive
    · exact fun k' more => Knowledge.le_trans Knowledge.le_hear more
  · exact fun _ => learns_fail _

theorem learns_punishViolations {bonds : List MonitoringBond}
    {violations : List (MonitoringBond × Error)}
    (heard : ⟨.validateBonds bonds, .ok violations⟩ ∈ k.heard)
    (listed : k.Knows fun db =>
      db.activeMakerOffers.rows.map ActiveMakerOffer.monitoringBond = bonds)
    (flagged : List (MonitoringBond × Error)) (told : flagged ⊆ violations) :
    Request.monitorBonds.Does (fun _ _ => True) k
      (punishViolations flagged : Act P Error Unit) := by
  induction flagged generalizing k with
  | nil => exact learns_pure trivial
  | cons violation flagged ih =>
      obtain ⟨bond, e⟩ := violation
      obtain ⟨member, told⟩ := List.cons_subset.mp told
      apply Learns.bind
      apply learns_ask
      · exact ⟨trivial, trivial⟩
      intro setting
      have further : k ≤ k.hear .punishmentEnabled setting := Knowledge.le_hear
      split
      · rename_i enabled
        have setting_eq : setting = some "1" := by
          cases setting with
          | none => exact absurd enabled (by decide)
          | some value => exact congrArg some enabled
        subst setting_eq
        have founded : Query.Founded (P := P) (k.hear .punishmentEnabled (some "1")).Knows
            (fun query answer => ⟨query, answer⟩ ∈ (k.hear .punishmentEnabled (some "1")).heard)
            (.publishBondTxHex bond.bondTxHex) :=
          ⟨Knowledge.mem_hear, bonds, violations, further.2 heard, listed.mono further, _, member, rfl⟩
        apply Learns.bind ((learns_punish founded).mono fun k' _ more => ?_)
        have onwards := Knowledge.le_trans further more
        exact ih (onwards.2 heard) (listed.mono onwards) told
      · exact ih (further.2 heard) (listed.mono further) told
      · exact learns_fail _

theorem learns_monitorBonds :
    Request.monitorBonds.Does (fun _ _ => True) k (monitorBonds : Act P Error Unit) := by
  apply Learns.bind
  apply Learns.bind
  apply learns_query fun _ => Request.records_self
  intro rows
  apply learns_pure
  apply learns_ite
  · exact fun _ => learns_pure trivial
  intro some
  apply Learns.bind
  apply learns_tryAsk
  · exact ⟨trivial, trivial⟩
  rintro _ violations rfl
  apply learns_punishViolations Knowledge.mem_hear ?_ violations (List.Subset.refl _)
  apply Knowledge.Knows.mono ?_ Knowledge.le_hear
  exact Knowledge.knows_see.imp fun db same => congrArg _ same

theorem learns_confirmBondTxids {txids confirmed : List String}
    (heard : ⟨.getConfirmations txids, .ok confirmed⟩ ∈ k.heard) (newlyConfirmed : List String)
    (told : newlyConfirmed ⊆ confirmed) :
    Request.updateTransactionConfirmations.Does (fun _ _ => True) k
      (confirmBondTxids newlyConfirmed : Act P Error Unit) := by
  induction newlyConfirmed generalizing k with
  | nil => exact learns_pure trivial
  | cons txid newlyConfirmed ih =>
      obtain ⟨member, told⟩ := List.cons_subset.mp told
      apply Learns.bind
      apply learns_execute
      · exact fun db => Request.records_confirm fun id => ⟨txids, confirmed, heard, member⟩
      · exact fun k' more => ih (more.2 heard) told

theorem learns_updateTransactionConfirmations :
    Request.updateTransactionConfirmations.Does (fun _ _ => True) k
      (updateTransactionConfirmations : Act P Error Unit) := by
  apply Learns.bind
  apply learns_looks (Keeps.bind (by simp) fun _ => by simp) (Asks.bind (by simp) fun _ => by simp)
  intro k' txids more
  apply learns_ite
  · exact fun _ => learns_pure trivial
  intro unconfirmed
  apply Learns.bind
  apply learns_ask
  · exact ⟨trivial, trivial⟩
  · rintro (e | confirmed)
    · exact learns_pure trivial
    · exact learns_confirmBondTxids Knowledge.mem_hear confirmed (List.Subset.refl _)

theorem learns_resolveEscrows (escrows : List EscrowCase)
    (open' : ∀ escrow ∈ escrows,
      k.Knows (·.HasOffer escrow.offerId (TakenOffer.Case escrow))) :
    Request.escrowCliLoop.Does (fun _ _ => True) k (resolveEscrows escrows : Act P Error Unit) := by
  induction escrows generalizing k with
  | nil => exact learns_pure trivial
  | cons escrow escrows ih =>
      obtain ⟨first, rest⟩ := List.forall_mem_cons.mp open'
      have decides (choice : EscrowWinner) :
          Request.escrowCliLoop.Does (fun k' _ => k ≤ k')
            (k.hear (.getCoordinatorCliInput escrow) (.ok choice))
            (resolveEscrow escrow.offerId (escrow.winner choice) : Act P Error Unit) := by
        have more : k ≤ k.hear (.getCoordinatorCliInput escrow) (.ok choice) := Knowledge.le_hear
        have known := first.mono more
        apply learns_execute
        · refine fun db => Request.records_setEscrowWinner (known.imp ?_) ⟨escrow, choice,
            Knowledge.mem_hear, rfl, known⟩
          rintro db ⟨row, found, ongoing, -⟩
          exact ⟨row, found, .inl ongoing⟩
        · exact fun k'' further => Knowledge.le_trans more further
      have goesOn (k' : Knowledge (coordinator P)) (more : k ≤ k') :
          Request.escrowCliLoop.Does (fun _ _ => True) k'
            (resolveEscrows escrows : Act P Error Unit) :=
        ih fun case member => (rest case member).mono more
      apply Learns.bind
      apply learns_ask
      · exact ⟨trivial, trivial⟩
      · rintro (e | _ | _)
        · exact goesOn _ Knowledge.le_hear
        · exact Learns.bind ((decides .maker).mono fun k' _ => goesOn k')
        · exact Learns.bind ((decides .taker).mono fun k' _ => goesOn k')

theorem learns_escrowCliLoop :
    Request.escrowCliLoop.Does (fun _ _ => True) k (escrowCliLoop : Act P Error Unit) := by
  apply Learns.bind
  apply Learns.bind
  apply learns_query fun _ => Request.records_self
  intro rows
  apply learns_pure
  apply learns_resolveEscrows
  intro escrow member
  obtain ⟨row, listed, rfl⟩ := List.mem_map.mp member
  apply Knowledge.knows_see.imp
  rintro db rfl
  obtain ⟨inTable, ongoing⟩ := List.mem_filter.mp listed
  exact ⟨row, Table.mem_rows.mp inTable, of_decide_eq_true ongoing, rfl⟩

/-- Only a confirmed escrow is answered with 200. -/
theorem Endpoint.eq_ok_of_confirmed {outcome : Outcome FetchEscrowConfirmationError Bool}
    {response : Response} (sent : pollEscrowConfirmation outcome = some response)
    (status : response.status = 200) : outcome = .ok true := by
  rcases outcome with ((_ | _) | _) | (_ | _)
  all_goals first | rfl | (cases sent <;> cases status)

/-- Only a payout is answered with 200. -/
theorem Endpoint.eq_ok_of_ready {outcome : Outcome RequestError PayoutProcessingResult}
    {response : Response} (sent : pollFinalPayout outcome = some response)
    (status : response.status = 200) : ∃ payout, outcome = .ok (.readyPsbt payout) := by
  rcases outcome with ((_ | _ | _ | _ | _ | _) | _) | (_ | payout | _ | _)
  all_goals first | exact ⟨_, rfl⟩ | (cases sent <;> cases status)

/-- Every request acts and asks as it may, and what its answer says is so. -/
theorem learns_serve (P : Platform) (request : Request) (k : Knowledge (coordinator P)) :
    (request.serve P).Learns request.Records request.MayAsk
      (fun k reply => ∀ response, reply.respond = some response →
        request.Vouched k.Knows (.ok response)) k := by
  have plain (plain : request.Plain) (vouched : ∀ (k : Knowledge (coordinator P)) answer,
      request.Vouched k.Knows answer) :
      (request.serve P).Learns request.Records request.MayAsk
        (fun k reply => ∀ response, reply.respond = some response →
          request.Vouched k.Knows (.ok response)) k := by
    apply (Program.Keeps.learns (writes_serve P request) (poses_serve P request) ?_ ?_).mono
    · exact fun k' reply more response sent => vouched k' _
    · exact fun k more db db' served => Request.records_of_served plain served
    · exact fun k more query posed => Request.mayAsk_of_poses plain.other posed
  cases request with
  | pollEscrowConfirmation payload =>
      apply Program.learns_map (learns_fetchEscrowConfirmationStatus payload)
      intro k' outcome held response sent reported
      exact held true (Endpoint.eq_ok_of_confirmed sent (of_decide_eq_true reported)) rfl
  | pollFinalPayout payload =>
      apply Program.learns_map (learns_handleFinalPayout payload)
      intro k' outcome held response sent reported
      obtain ⟨payout, rfl⟩ := Endpoint.eq_ok_of_ready sent (of_decide_eq_true reported)
      exact held _ rfl rfl
  | submitMakerBond payload =>
      exact Program.learns_map (learns_handleMakerBond payload) fun _ _ _ _ _ => trivial
  | submitTakerBond payload =>
      exact Program.learns_map (learns_handleTakerBond payload) fun _ _ _ _ _ => trivial
  | submitEscrowPsbt payload =>
      exact Program.learns_map (learns_handleSignedEscrowPsbt payload) fun _ _ _ _ _ => trivial
  | submitObligationConfirmation payload =>
      exact Program.learns_map (learns_handleObligationConfirmation payload) fun _ _ _ _ _ => trivial
  | requestEscrow payload =>
      exact Program.learns_map (learns_initiateEscrow payload) fun _ _ _ _ _ => trivial
  | submitPayoutSignature payload =>
      exact Program.learns_map (learns_handlePayoutSignature payload) fun _ _ _ _ _ => trivial
  | monitorBonds => exact Program.learns_map learns_monitorBonds fun _ _ _ _ _ => trivial
  | updateTransactionConfirmations =>
      exact Program.learns_map learns_updateTransactionConfirmations fun _ _ _ _ _ => trivial
  | escrowCliLoop => exact Program.learns_map learns_escrowCliLoop fun _ _ _ _ _ => trivial
  | _ => exact plain trivial fun _ _ => trivial

end Handlers

end TapTrade
