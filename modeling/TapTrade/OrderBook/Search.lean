import TapTrade.Model.Sample
import TapTrade.OrderBook.Origin

/-! # The search in the order book

What `fetch_suitable_offers` is meant to return, judged by the requests of the makers,
and what it does return. A sell offer is stored with `NULL` as its direction, which no
comparison of SQL meets, and a bound from `2 ^ 63` on turns negative when it is bound to
the statement. These are the only two ways in which the search goes wrong.
-/

namespace TapTrade

open Relational Resumption

variable {ι : Type} {P : Platform}

/-- The offer goes back to a request in the wanted direction with an amount between the
    bounds. -/
def Suitable (requests : ι → Request) (search : OffersRequest) (row : ActiveMakerOffer) : Prop :=
  ∃ order, Accepted requests order ∧ row.From order ∧ order.isBuyOrder = search.buyOffers ∧
    search.amountMinSat ≤ order.amountSatoshi ∧ order.amountSatoshi ≤ search.amountMaxSat

/-- The answer consists of the suitable offers, each once. -/
structure ExactSearch (requests : ι → Request) (search : OffersRequest)
    (book : Table ActiveMakerOffer) (answer : Option (List PublicOffer)) : Prop where
  none_iff : answer = none ↔ ∀ row ∈ book.rows, ¬ Suitable requests search row
  once : ∀ offers, answer = some offers → (offers.map PublicOffer.offerIdHex).Nodup
  exactly : ∀ offers, answer = some offers → ∀ offer,
    offer ∈ offers ↔ ∃ row ∈ book.rows, Suitable requests search row ∧ row.publicOffer = offer

/-- The rows that the `WHERE` clause keeps, as they are shown to a taker. -/
def listed (search : OffersRequest) (book : Table ActiveMakerOffer) : List PublicOffer :=
  (book.select fun row => (suits search row).holds).map ActiveMakerOffer.publicOffer

/-- What `fetch_suitable_offers` makes of a table. -/
def suitableOffers (search : OffersRequest) (book : Table ActiveMakerOffer) :
    Option (List PublicOffer) :=
  if (listed search book).isEmpty then none else some (listed search book)

theorem exec_fetchSuitableOffers {env : Environment (coordinator P)}
    {w : World (coordinator P)} (unfailing : env.fault w.clock = none) (search : OffersRequest) :
    Call.exec env (fetchSuitableOffers search) w =
      (.ok (suitableOffers search w.state.activeMakerOffers), World.tick w) := by
  rw [fetchSuitableOffers, Call.exec_bind_of_ok env w (exec_fetchAll unfailing _)]
  change Call.exec env (if (listed search w.state.activeMakerOffers).isEmpty then pure none
    else pure (some (listed search w.state.activeMakerOffers))) _ = _
  unfold suitableOffers
  split <;> rfl

theorem fetchSuitableOffers_ok {env : Environment (coordinator P)} {w : World (coordinator P)}
    {search : OffersRequest} {answer : Option (List PublicOffer)}
    (answered : (Call.exec env (fetchSuitableOffers search) w).1 = .ok answer) :
    answer = suitableOffers search w.state.activeMakerOffers := by
  cases fault : env.fault w.clock with
  | some failure =>
      rw [fetchSuitableOffers, Call.exec_bind, exec_fetchAll_of_fault fault] at answered
      cases answered
  | none =>
      rw [exec_fetchSuitableOffers fault] at answered
      exact (Except.ok.inj answered).symm

section Exact

variable {requests : ι → Request} {search : OffersRequest} {book : Table ActiveMakerOffer}

theorem mem_suitableOffers {offers : List PublicOffer}
    (found : suitableOffers search book = some offers) (offer : PublicOffer) :
    offer ∈ offers ↔ ∃ row ∈ book.rows, (suits search row).holds ∧ row.publicOffer = offer := by
  unfold suitableOffers at found
  split at found
  · cases found
  · cases found
    simp [listed, Table.select, and_assoc]

/-- What is shown under the id of a listed offer is that offer, and it suits the search. -/
theorem publicOffer_of_answered {env : Environment (coordinator P)} {w : World (coordinator P)}
    {offers : List PublicOffer} {offer : PublicOffer} {row : ActiveMakerOffer}
    (answered : (Call.exec env (fetchSuitableOffers search) w).1 = .ok (some offers))
    (published : offer ∈ offers) (member : row ∈ w.state.activeMakerOffers.rows)
    (same : offer.offerIdHex = row.offerId) :
    offer = row.publicOffer ∧ (suits search row).holds := by
  obtain ⟨listed, there, suits, rfl⟩ :=
    (mem_suitableOffers (fetchSuitableOffers_ok answered).symm offer).mp published
  have found := Table.mem_rows.mp member
  have found' : w.state.activeMakerOffers.find? row.offerId = some listed :=
    same ▸ Table.mem_rows.mp there
  cases found.symm.trans found'
  exact ⟨rfl, suits⟩

theorem suitableOffers_eq_none :
    suitableOffers search book = none ↔ ∀ row ∈ book.rows, ¬ (suits search row).holds := by
  unfold suitableOffers
  simp [listed, Table.select]

/-- Rows of the order book that look the same to a taker are the same. -/
theorem eq_of_publicOffer_eq {row row' : ActiveMakerOffer} (member : row ∈ book.rows)
    (member' : row' ∈ book.rows) (same : row.publicOffer = row'.publicOffer) : row = row' :=
  List.inj_on_of_nodup_map book.nodup member member' (congrArg PublicOffer.offerIdHex same)

/-- The search is exact iff its `WHERE` clause decides row by row. -/
theorem exactSearch_iff :
    ExactSearch requests search book (suitableOffers search book) ↔
      ∀ row ∈ book.rows, ((suits search row).holds ↔ Suitable requests search row) := by
  constructor
  · intro exact row member
    cases answer : suitableOffers search book with
    | none =>
        have noneSuits := suitableOffers_eq_none.mp answer row member
        have noneSuitable := exact.none_iff.mp answer row member
        exact iff_of_false noneSuits noneSuitable
    | some offers =>
        have listed := (mem_suitableOffers answer row.publicOffer).symm.trans
          (exact.exactly offers answer row.publicOffer)
        constructor
        · intro suits
          obtain ⟨row', member', suitable, same⟩ := listed.mp ⟨row, member, suits, rfl⟩
          rwa [eq_of_publicOffer_eq member member' same.symm]
        · intro suitable
          obtain ⟨row', member', suits, same⟩ := listed.mpr ⟨row, member, suitable, rfl⟩
          rwa [eq_of_publicOffer_eq member member' same.symm]
  · intro pointwise
    refine ⟨?_, fun offers answer => ?_, fun offers answer offer => ?_⟩
    · rw [suitableOffers_eq_none]
      exact forall₂_congr fun row member => not_congr (pointwise row member)
    · unfold suitableOffers at answer
      split at answer
      · cases answer
      · cases answer
        rw [listed, List.map_map]
        exact book.nodup.sublist (List.filter_sublist.map _)
    · rw [mem_suitableOffers answer]
      refine exists_congr fun row => and_congr_right fun member => and_congr_left fun _ => ?_
      exact pointwise row member

/-- Direction and amount decide whether an offer is suitable. -/
theorem suitable_iff {row : ActiveMakerOffer} {order : OfferRequest}
    (accepted : Accepted requests order) (origin : row.From order) :
    Suitable requests search row ↔ order.isBuyOrder = search.buyOffers ∧
      search.amountMinSat ≤ order.amountSatoshi ∧ order.amountSatoshi ≤ search.amountMaxSat := by
  constructor
  · rintro ⟨other, -, origin', wanted⟩
    have direction := origin.stored.1.symm.trans origin'.stored.1
    have amount := origin.stored.2.symm.trans origin'.stored.2
    have sameAmount : order.amountSatoshi = other.amountSatoshi := by
      simpa using congrArg Int64.toUInt64 amount
    have sameDirection : order.isBuyOrder = other.isBuyOrder := by
      simpa using congrArg Column.bool direction
    rwa [sameAmount, sameDirection]
  · exact fun wanted => ⟨order, accepted, origin, wanted⟩

/-- What the `WHERE` clause decides of an offer with these columns. -/
theorem suits_of_stored {row : ActiveMakerOffer} {order : OfferRequest}
    (small : order.amountSatoshi.toNat < 2 ^ 63)
    (direction : row.isBuyOrder = boolToSqlInt order.isBuyOrder)
    (amount : row.amountSat = order.amountSatoshi.toInt64) :
    (suits search row).holds ↔ order.isBuyOrder = true ∧ search.buyOffers = true ∧
      (search.amountMinSat ≤ order.amountSatoshi ∨ 2 ^ 63 ≤ search.amountMinSat.toNat) ∧
      order.amountSatoshi ≤ search.amountMaxSat ∧ search.amountMaxSat.toNat < 2 ^ 63 := by
  have wanted : (Ternary.eq (boolToSqlInt order.isBuyOrder)
      (some (if search.buyOffers then 1 else 0))).holds ↔
      order.isBuyOrder = true ∧ search.buyOffers = true := by
    cases order.isBuyOrder <;> cases search.buyOffers <;> decide
  rw [suits, Ternary.holds_and, direction, amount, wanted, Ternary.holds_between,
    toInt64_le_of_small small, small_le_toInt64 small, and_assoc]

theorem suits_iff {row : ActiveMakerOffer} {order : OfferRequest}
    (accepted : Accepted requests order) (origin : row.From order) :
    (suits search row).holds ↔ order.isBuyOrder = true ∧ search.buyOffers = true ∧
      (search.amountMinSat ≤ order.amountSatoshi ∨ 2 ^ 63 ≤ search.amountMinSat.toNat) ∧
      order.amountSatoshi ≤ search.amountMaxSat ∧ search.amountMaxSat.toNat < 2 ^ 63 :=
  suits_of_stored accepted.small origin.stored.1 origin.stored.2

end Exact

/-- When the search is exact. Searching for sell offers, there must be none to find.
    Searching for buy offers, a bound from `2 ^ 63` on must make no difference. -/
def SearchWorks (requests : ι → Request) (search : OffersRequest) (book : Table ActiveMakerOffer) :
    Prop :=
  ∀ row ∈ book.rows, ∀ order, Accepted requests order → row.From order →
    order.isBuyOrder = search.buyOffers →
      (search.buyOffers = false →
        ¬ (search.amountMinSat ≤ order.amountSatoshi ∧
          order.amountSatoshi ≤ search.amountMaxSat)) ∧
      (search.buyOffers = true →
        ¬ (search.amountMinSat ≤ order.amountSatoshi ∧ 2 ^ 63 ≤ search.amountMaxSat.toNat) ∧
        ¬ (order.amountSatoshi ≤ search.amountMaxSat ∧ search.amountMaxSat.toNat < 2 ^ 63 ∧
          2 ^ 63 ≤ search.amountMinSat.toNat))

theorem searchWorks_iff {search : OffersRequest} {order : OfferRequest}
    (small : order.amountSatoshi.toNat < 2 ^ 63) :
    ((order.isBuyOrder = true ∧ search.buyOffers = true ∧
        (search.amountMinSat ≤ order.amountSatoshi ∨ 2 ^ 63 ≤ search.amountMinSat.toNat) ∧
        order.amountSatoshi ≤ search.amountMaxSat ∧ search.amountMaxSat.toNat < 2 ^ 63) ↔
      (order.isBuyOrder = search.buyOffers ∧ search.amountMinSat ≤ order.amountSatoshi ∧
        order.amountSatoshi ≤ search.amountMaxSat)) ↔
    (order.isBuyOrder = search.buyOffers →
      (search.buyOffers = false →
        ¬ (search.amountMinSat ≤ order.amountSatoshi ∧
          order.amountSatoshi ≤ search.amountMaxSat)) ∧
      (search.buyOffers = true →
        ¬ (search.amountMinSat ≤ order.amountSatoshi ∧ 2 ^ 63 ≤ search.amountMaxSat.toNat) ∧
        ¬ (order.amountSatoshi ≤ search.amountMaxSat ∧ search.amountMaxSat.toNat < 2 ^ 63 ∧
          2 ^ 63 ≤ search.amountMinSat.toNat))) := by
  have below := search.amountMaxSat.toNat_lt
  simp only [UInt64.le_iff_toNat_le]
  cases order.isBuyOrder <;> cases search.buyOffers <;> simp
  omega

/-- In every reachable database the search is exact iff it asks for buy offers between
    bounds below `2 ^ 63`, or what it asks otherwise makes no difference. -/
theorem fetchSuitableOffers_exact_iff [DecidableEq ι] (env : Environment (coordinator P))
    (requests : ι → Request) (schedule : List ι) (search : OffersRequest)
    {answer : Option (List PublicOffer)}
    (answered : (Call.exec env (fetchSuitableOffers search)
      ((Pool.start (startup P) fun i => (requests i).serve P).play env schedule).world).1 =
        .ok answer) :
    ExactSearch requests search ((Pool.start (startup P) fun i => (requests i).serve P).play env
        schedule).world.state.activeMakerOffers answer ↔
      SearchWorks requests search ((Pool.start (startup P) fun i => (requests i).serve P).play env
        schedule).world.state.activeMakerOffers := by
  have traceable := traceable_play env requests schedule
  rw [fetchSuitableOffers_ok answered, exactSearch_iff]
  refine forall₂_congr fun row member => ?_
  constructor
  · intro pointwise order accepted origin
    rw [suits_iff accepted origin, suitable_iff accepted origin] at pointwise
    exact (searchWorks_iff accepted.small).mp pointwise
  · intro works
    obtain ⟨order, accepted, origin⟩ :=
      traceable.activeMakerOffers row.offerId row (Table.mem_rows.mp member)
    rw [suits_iff accepted origin, suitable_iff accepted origin]
    exact (searchWorks_iff accepted.small).mpr (works order accepted origin)

namespace Sample

/-- An order and the bond for it. -/
def listing (isBuyOrder : Bool) : Fin 2 → Request
  | 0 => .createOffer (order isBuyOrder)
  | 1 => .submitMakerBond makerBond

/-- The order and the bond served one after the other. -/
def listingSchedule : List (Fin 2) := List.replicate 3 0 ++ List.replicate 7 1

/-- The world once the offer is in the order book. -/
def listedWorld (isBuyOrder : Bool) : World (coordinator .sample) :=
  ((Pool.start (startup .sample) fun i => (listing isBuyOrder i).serve .sample).play environment
    listingSchedule).world

def search (buyOffers : Bool) : OffersRequest := ⟨buyOffers, 10000, 20000000⟩

end Sample

/-- A buy offer in the order book is found. -/
theorem fetchSuitableOffers_exact_iff_sample :
    ExactSearch (Sample.listing true) (Sample.search true)
        (Sample.listedWorld true).state.activeMakerOffers (some [Sample.publicOffer]) ↔
      SearchWorks (Sample.listing true) (Sample.search true)
        (Sample.listedWorld true).state.activeMakerOffers :=
  fetchSuitableOffers_exact_iff Sample.environment (Sample.listing true) Sample.listingSchedule
    (Sample.search true) (by decide +kernel)

/-- A sell offer in the order book is not found. -/
theorem fetchSuitableOffers_misses_sellOffer :
    (Call.exec Sample.environment (fetchSuitableOffers (Sample.search false))
        (Sample.listedWorld false)).1 = .ok none ∧
      ¬ ExactSearch (Sample.listing false) (Sample.search false)
        (Sample.listedWorld false).state.activeMakerOffers none := by
  refine ⟨by decide +kernel, fun exact => ?_⟩
  have listed : ∃ row ∈ (Sample.listedWorld false).state.activeMakerOffers.rows,
      row.isBuyOrder = none ∧ row.amountSat = 100000 := by decide +kernel
  obtain ⟨row, member, direction, amount⟩ := listed
  obtain ⟨order, accepted, origin⟩ :=
    (traceable_play Sample.environment (Sample.listing false)
      Sample.listingSchedule).activeMakerOffers row.offerId row (Table.mem_rows.mp member)
  refine exact.none_iff.mp rfl row member ⟨order, accepted, origin, ?_⟩
  have sells : order.isBuyOrder = false := by
    have := origin.stored.1.symm.trans direction
    simpa [boolToSqlInt] using this
  have sat : order.amountSatoshi = 100000 :=
    congrArg Int64.toUInt64 (origin.stored.2.symm.trans amount)
  rw [sells, sat]
  decide

end TapTrade
