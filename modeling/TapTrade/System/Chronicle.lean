import TapTrade.System.Conduct

/-! # What has happened in a run

A chronicle is what a run of the system leaves behind: who has taken part, the states that the
database has had, and the questions with their answers. What it says about a trade stays so.
-/

namespace TapTrade

open Wire Relational Resumption

variable {P : Platform} {D : Device P}

structure Chronicle (D : Device P) where
  /-- The settings of the sessions. -/
  traders : Set (TraderConfig D)
  /-- The requests that somebody without a session has made. -/
  made : Set Request
  /-- The states of the database. -/
  states : Set Database
  log : List (Event (system D))

namespace Chronicle

instance : LE (Chronicle D) :=
  ⟨fun c c' => c.traders ⊆ c'.traders ∧ c.made ⊆ c'.made ∧ c.states ⊆ c'.states ∧ c.log ⊆ c'.log⟩

variable (c : Chronicle D)

/-- The fact was so at some point. -/
def Once (fact : Database → Prop) : Prop := ∃ db ∈ c.states, fact db

/-- The surroundings of the coordinator have given the answer. -/
def Answered (query : Query P) (answer : query.Answer) : Prop :=
  ∃ db, ⟨.inl query, answer, db⟩ ∈ c.log

/-- What the sessions have heard. The answers of the coordinator are vouched for. -/
def hearing : Hearing D
  | .post _ path body, answer =>
      ∀ request, route path body = .ok request → request.Vouched c.Once answer
  | query, answer => ∃ db, ⟨.inr (.client query), answer, db⟩ ∈ c.log

/-- A session has the robohash. -/
def Trades (robohashHex : String) : Prop :=
  ∃ config ∈ c.traders, config.robosatsRobohashHex = robohashHex

/-- The request of a session has arrived. -/
def Delivered (request : Request) : Prop :=
  ∃ path body db, ⟨.inr (.deliver path body), .ok (), db⟩ ∈ c.log ∧ route path body = .ok request

/-- Somebody has made the request, or a session with good reason. -/
def By (request : Request) (reason : Prop) : Prop :=
  request ∈ c.made ∨ c.Delivered request ∧ reason

/-- A trader has typed whether it is satisfied with the trade. -/
def Told (robohashHex offerId : String) (happy : Bool) : Prop :=
  ∃ isBuyOrder line db, ⟨.inr (.client (.readLine (.fiatConfirmation robohashHex offerId
    isBuyOrder))), .ok line, db⟩ ∈ c.log ∧ satisfaction? line = some happy

/-- The node has reported that the transaction is confirmed. -/
def Reported (txid : String) : Prop :=
  ∃ txids confirmed, c.Answered (.getConfirmations txids) (.ok confirmed) ∧ txid ∈ confirmed

/-- The operator was asked about the dispute of the offer, and the winner is by its choice. -/
def Decided (offerId winner : String) : Prop :=
  ∃ escrow choice, c.Answered (.getCoordinatorCliInput escrow) (.ok choice) ∧
    winner = escrow.winner choice ∧ c.Once (·.HasOffer offerId (TakenOffer.Case escrow))

/-- The request was made by somebody, or is justified by what its session has heard. -/
def Sent (request : Request) : Prop :=
  c.By request (∃ config ∈ c.traders, request.Justified c.hearing config)

variable {c c' : Chronicle D} {fact : Database → Prop} {robohashHex offerId txid : String}
  {happy : Bool} {config : TraderConfig D} {request : Request}

theorem Once.mono (once : c.Once fact) (more : c ≤ c') : c'.Once fact := by
  obtain ⟨db, member, held⟩ := once
  exact ⟨db, more.2.2.1 member, held⟩

theorem Answered.mono {query : Query P} {answer : query.Answer} (answered : c.Answered query answer)
    (more : c ≤ c') : c'.Answered query answer := by
  obtain ⟨db, member⟩ := answered
  exact ⟨db, more.2.2.2 member⟩

theorem hearing_mono (more : c ≤ c') (query : TraderQuery D) (answer : query.Answer)
    (heard : c.hearing query answer) : c'.hearing query answer := by
  cases query with
  | post endpoint path body =>
      exact fun request routed => (heard request routed).mono fun fact once => once.mono more
  | _ =>
      obtain ⟨db, member⟩ := heard
      exact ⟨db, more.2.2.2 member⟩

theorem Trades.mono (trades : c.Trades robohashHex) (more : c ≤ c') : c'.Trades robohashHex := by
  obtain ⟨config, member, same⟩ := trades
  exact ⟨config, more.1 member, same⟩

theorem Delivered.mono (delivered : c.Delivered request) (more : c ≤ c') :
    c'.Delivered request := by
  obtain ⟨path, body, db, member, routed⟩ := delivered
  exact ⟨path, body, db, more.2.2.2 member, routed⟩

theorem By.mono {reason reason' : Prop} (sent : c.By request reason) (more : c ≤ c')
    (why : reason → reason') : c'.By request reason' := by
  obtain made | ⟨delivered, because⟩ := sent
  · exact .inl (more.2.1 made)
  · exact .inr ⟨delivered.mono more, why because⟩

theorem Told.mono (told : c.Told robohashHex offerId happy) (more : c ≤ c') :
    c'.Told robohashHex offerId happy := by
  obtain ⟨isBuyOrder, line, db, member, means⟩ := told
  exact ⟨isBuyOrder, line, db, more.2.2.2 member, means⟩

theorem Reported.mono (reported : c.Reported txid) (more : c ≤ c') : c'.Reported txid := by
  obtain ⟨txids, confirmed, answered, told⟩ := reported
  exact ⟨txids, confirmed, answered.mono more, told⟩

theorem Decided.mono {winner : String} (decided : c.Decided offerId winner) (more : c ≤ c') :
    c'.Decided offerId winner := by
  obtain ⟨escrow, choice, answered, same, once⟩ := decided
  exact ⟨escrow, choice, answered.mono more, same, once.mono more⟩

theorem told_of_said (said : c.hearing.Said config offerId happy) :
    c.Told config.robosatsRobohashHex offerId happy := by
  obtain ⟨isBuyOrder, line, ⟨db, member⟩, means⟩ := said
  exact ⟨isBuyOrder, line, db, member, means⟩

/-- A session that was told of the confirmation of its escrow was told the truth. -/
theorem once_of_confirmed (confirmed : c.hearing.Confirmed config offerId) :
    (∃ isMaker, c.Once (Acting offerId config.robosatsRobohashHex isMaker)) ∧
      c.Once (·.HasOffer offerId TakenOffer.Confirmed) := by
  obtain ⟨answer, ⟨path, body, vouched, routed⟩, reported⟩ := confirmed
  exact vouched _ routed reported

/-- And so was one that got a payout. -/
theorem once_of_paidOut (paidOut : c.hearing.PaidOut config offerId) :
    c.Once (·.HasOffer offerId fun row => row.happiness.bothHappy = true) := by
  obtain ⟨answer, payout, ⟨path, body, vouched, routed⟩, ready, -⟩ := paidOut
  exact vouched _ routed ready

/-- The maker, or the taker, has made the request: it names the robohash of the trader. A session
    does so for a reason. -/
def ByTrader (c : Chronicle D) (offerId : String) (isMaker : Bool) (request : String → Request)
    (reason : String → Prop) : Prop :=
  ∃ robohashHex, c.Once (Acting offerId robohashHex isMaker) ∧
    c.By (request robohashHex) (c.Trades robohashHex ∧ reason robohashHex)

theorem ByTrader.mono {isMaker : Bool} {request : String → Request} {reason reason' : String → Prop}
    (sent : c.ByTrader offerId isMaker request reason) (more : c ≤ c')
    (why : ∀ robohashHex, reason robohashHex → reason' robohashHex) :
    c'.ByTrader offerId isMaker request reason' := by
  obtain ⟨robohashHex, acting, sent⟩ := sent
  exact ⟨robohashHex, acting.mono more, sent.mono more (And.imp (·.mono more) (why robohashHex))⟩

/-- A maker has submitted the stake. -/
def Offered (c : Chronicle D) (stake : Stake) : Prop :=
  ∃ payload : BondSubmissionRequest, payload.Enters stake ∧
    c.By (.submitMakerBond payload) (c.Trades payload.robohashHex)

/-- The stake was submitted to take the offer. -/
def Accepted (c : Chronicle D) (offerId : String) (stake : Stake) : Prop :=
  ∃ payload : OfferPsbtRequest, payload.offer.offerIdHex = offerId ∧
    payload.tradeData.Enters stake ∧
      c.By (.submitTakerBond payload) (c.Trades payload.tradeData.robohashHex)

/-- The maker, or the taker, has entered the trade with the stake: the offer was listed with the one
    that its maker has submitted. -/
def Entered (c : Chronicle D) (offerId : String) : Bool → Stake → Prop
  | true, stake => c.Once (·.HasListed offerId stake) ∧ c.Offered stake
  | false, stake => c.Accepted offerId stake

/-- The maker, or the taker, has submitted the escrow transaction with its signature. -/
def Cosigned (c : Chronicle D) (offerId : String) (isMaker : Bool) (psbt : String) : Prop :=
  c.ByTrader offerId isMaker (fun robohashHex => .submitEscrowPsbt ⟨psbt, offerId, robohashHex⟩)
    fun _ => True

/-- The maker, or the taker, is satisfied: it has said so once the escrow was confirmed, or
    somebody has who knows its robohash. -/
def Satisfied (c : Chronicle D) (offerId : String) (isMaker : Bool) : Prop :=
  c.ByTrader offerId isMaker
    (fun robohashHex => .submitObligationConfirmation ⟨robohashHex, offerId⟩)
    fun robohashHex => c.Told robohashHex offerId true ∧
      c.Once (·.HasOffer offerId TakenOffer.Confirmed)

/-- The maker, or the taker, has submitted its signature of the payout: its session once the
    trader had said that it is satisfied and both were on record as satisfied. -/
def Signed (c : Chronicle D) (offerId : String) (isMaker : Bool) (signature : String) : Prop :=
  c.ByTrader offerId isMaker
    (fun robohashHex => .submitPayoutSignature ⟨signature, offerId, robohashHex⟩)
    fun robohashHex => c.Told robohashHex offerId true ∧
      c.Once (·.HasOffer offerId fun row => row.happiness.bothHappy = true)

/-- The maker, or the taker, has complained: its session once the escrow was confirmed and the
    trader had said that it is not satisfied. -/
def Complained (c : Chronicle D) (offerId : String) (isMaker : Bool) : Prop :=
  c.ByTrader offerId isMaker (fun robohashHex => .requestEscrow ⟨robohashHex, offerId⟩)
    fun robohashHex => c.Told robohashHex offerId false ∧
      c.Once (·.HasOffer offerId TakenOffer.Confirmed)

theorem Offered.mono {stake : Stake} (offered : c.Offered stake) (more : c ≤ c') :
    c'.Offered stake := by
  obtain ⟨payload, enters, sent⟩ := offered
  exact ⟨payload, enters, sent.mono more (·.mono more)⟩

theorem Entered.mono {isMaker : Bool} {stake : Stake} (entered : c.Entered offerId isMaker stake)
    (more : c ≤ c') : c'.Entered offerId isMaker stake := by
  cases isMaker with
  | true => exact entered.imp (·.mono more) (·.mono more)
  | false =>
      obtain ⟨payload, about, enters, sent⟩ := entered
      exact ⟨payload, about, enters, sent.mono more (·.mono more)⟩

theorem Satisfied.mono {isMaker : Bool} (satisfied : c.Satisfied offerId isMaker) (more : c ≤ c') :
    c'.Satisfied offerId isMaker :=
  ByTrader.mono satisfied more fun _ => And.imp (·.mono more) (·.mono more)

end Chronicle

/-- What is on record rests on what has happened before: on a request of the trader itself, or of
    somebody who knows its robohash; on the operator; on the node. -/
def Record.Warranted (c : Chronicle D) (offerId : String) : Record → Prop
  | entered isMaker stake => c.Entered offerId isMaker stake
  | cosigned isMaker psbt => c.Cosigned offerId isMaker psbt
  | satisfied isMaker => c.Satisfied offerId isMaker
  | prepared => ∀ isMaker, c.Satisfied offerId isMaker
  | signed isMaker signature => c.Signed offerId isMaker signature
  | disputed => ∃ isMaker, c.Complained offerId isMaker
  | decided winner => c.Decided offerId winner
  | confirmed txid => c.Reported txid

theorem Record.Warranted.mono {c c' : Chronicle D} {offerId : String} {record : Record}
    (warranted : record.Warranted c offerId) (more : c ≤ c') : record.Warranted c' offerId := by
  cases record with
  | entered isMaker stake => exact Chronicle.Entered.mono warranted more
  | cosigned isMaker psbt => exact Chronicle.ByTrader.mono warranted more fun _ => id
  | satisfied isMaker => exact Chronicle.Satisfied.mono warranted more
  | prepared => exact fun isMaker => (warranted isMaker).mono more
  | signed isMaker signature =>
      exact Chronicle.ByTrader.mono warranted more fun _ => And.imp (·.mono more) (·.mono more)
  | disputed =>
      exact warranted.imp fun isMaker complained =>
        Chronicle.ByTrader.mono complained more fun _ => And.imp (·.mono more) (·.mono more)
  | decided winner => exact Chronicle.Decided.mono warranted more
  | confirmed txid => exact Chronicle.Reported.mono warranted more

/-- What the database has on record rests on what has happened before. -/
structure Chronicle.Warrants (c : Chronicle D) (db : Database) : Prop where
  trades : ∀ offerId (record : Record), db.HasOffer offerId record.In → record.Warranted c offerId
  offers : ∀ offerId stake, db.HasListed offerId stake → c.Offered stake

theorem Chronicle.Warrants.mono {c c' : Chronicle D} {db : Database} (warrants : c.Warrants db)
    (more : c ≤ c') : c'.Warrants db where
  trades offerId record recorded := (warrants.trades offerId record recorded).mono more
  offers offerId stake listed := (warrants.offers offerId stake listed).mono more

section Requests

variable {c : Chronicle D} {k : Knowledge (coordinator P)} {offerId robohashHex : String}
  {isMaker : Bool} {request : Request}

/-- Who knows the role of the robohash that it names has made the request as that trader. -/
theorem Chronicle.Sent.byTrader {about : String → Request} {reason : String → Prop}
    (sent : c.Sent (about robohashHex)) (knows : k.Holds c.states (lefts c.log))
    (acting : k.Knows (Acting offerId robohashHex isMaker))
    (why : ∀ config : TraderConfig D, (about robohashHex).Justified c.hearing config →
      config.robosatsRobohashHex = robohashHex ∧ reason robohashHex) :
    c.ByTrader offerId isMaker about reason := by
  refine ⟨robohashHex, knows.knows acting, sent.imp_right (And.imp_right ?_)⟩
  rintro ⟨config, trader, justified⟩
  obtain ⟨own, because⟩ := why config justified
  exact ⟨⟨config, trader, own⟩, because⟩

/-- A bond gets an offer with its own stake into the order book. -/
theorem Request.Enlists.offered {stake : Stake} (enlists : request.Enlists stake)
    (sent : c.Sent request) : c.Offered stake := by
  cases request <;> try exact enlists.elim
  case submitMakerBond payload =>
    refine ⟨payload, enlists, sent.imp_right (And.imp_right ?_)⟩
    rintro ⟨config, trader, own⟩
    exact ⟨config, trader, own.symm⟩

/-- A request makes only records that are warranted, or were there before. -/
theorem Request.Makes.warranted {record : Record} (makes : request.Makes k offerId record)
    (sent : c.Sent request) (knows : k.Holds c.states (lefts c.log))
    (earlier : ∀ db ∈ c.states, c.Warrants db) : record.Warranted c offerId := by
  cases request <;> cases record <;> try exact makes.elim
  case submitTakerBond.entered payload isMaker stake =>
    cases isMaker with
    | true =>
        obtain ⟨db, member, listed⟩ := knows.knows makes.2
        exact ⟨⟨db, member, listed⟩, (earlier db member).offers offerId stake listed⟩
    | false =>
        refine ⟨payload, makes.1, makes.2, sent.imp_right (And.imp_right ?_)⟩
        rintro ⟨config, trader, own⟩
        exact ⟨config, trader, own.symm⟩
  case submitEscrowPsbt.cosigned payload isMaker psbt =>
    obtain ⟨rfl, rfl, acting⟩ := makes
    exact sent.byTrader knows acting fun config justified => ⟨justified.1.symm, trivial⟩
  case submitObligationConfirmation.satisfied payload isMaker =>
    obtain ⟨rfl, acting⟩ := makes
    refine sent.byTrader knows acting fun config justified => ?_
    obtain ⟨own, bonded, confirmed, said⟩ := justified
    rw [own]
    exact ⟨rfl, Chronicle.told_of_said said, (Chronicle.once_of_confirmed confirmed).2⟩
  case submitPayoutSignature.signed payload isMaker signature =>
    obtain ⟨rfl, rfl, acting⟩ := makes
    refine sent.byTrader knows acting fun config justified => ?_
    obtain ⟨own, said, recorded, paidOut⟩ := justified
    rw [own]
    exact ⟨rfl, Chronicle.told_of_said said, Chronicle.once_of_paidOut paidOut⟩
  case pollFinalPayout.prepared payload =>
    obtain ⟨db, member, row, found, happy⟩ := knows.knows makes.2
    intro isMaker
    refine (earlier db member).trades offerId (.satisfied isMaker) ⟨row, found, ?_⟩
    exact Record.satisfied_of_bothHappy happy isMaker
  case requestEscrow.disputed payload =>
    obtain ⟨rfl, isMaker, acting⟩ := makes
    refine ⟨isMaker, sent.byTrader knows acting fun config justified => ?_⟩
    obtain ⟨own, bonded, confirmed, said⟩ := justified
    rw [own]
    exact ⟨rfl, Chronicle.told_of_said said, (Chronicle.once_of_confirmed confirmed).2⟩
  case updateTransactionConfirmations.confirmed txid =>
    obtain ⟨txids, confirmed, heard, member⟩ := makes
    obtain ⟨db, asked⟩ := knows.heard _ _ heard
    exact ⟨txids, confirmed, ⟨db, mem_lefts.mp asked⟩, member⟩
  case escrowCliLoop.disputed =>
    obtain ⟨db, member, recorded⟩ := knows.knows makes
    exact (earlier db member).trades offerId .disputed recorded
  case escrowCliLoop.decided winner =>
    obtain ⟨escrow, choice, heard, same, known⟩ := makes
    obtain ⟨db, asked⟩ := knows.heard _ _ heard
    exact ⟨escrow, choice, ⟨db, mem_lefts.mp asked⟩, same, knows.knows known⟩

end Requests

end TapTrade
