import TapTrade.Model.SampleTrader
import TapTrade.System.Safety

/-! # What the traders have agreed to

What the coordinator does with the bitcoins of a trade, and what a client does for its trader,
rests on what both traders have submitted and said, in every run of the system.
-/

namespace TapTrade

open Wire Relational Resumption

variable {P : Platform} {D : Device P}

/-- The payout is between the two stakes: it goes to their addresses, and it is signed with their
    keys and nonces. -/
structure PayoutData.Between (data : PayoutData P) (maker taker : Stake) : Prop where
  makerAddress : P.addressFromStr maker.payoutAddress = some data.payoutAddressMaker
  takerAddress : P.addressFromStr taker.payoutAddress = some data.payoutAddressTaker
  nonces : aggHexMusigNonces maker.musigPubNonceHex taker.musigPubNonceHex = .ok data.aggMusigNonce
  keys : ∃ tweak keys,
    aggregateMusigPubkeysWithTweak maker.musigPubkeyHex taker.musigPubkeyHex tweak = .ok keys ∧
      data.aggregatedMusigPubkeyCtxHex = Hex.encode (P.keyAggToBytes keys)

/-- The payout of a row is between its traders. -/
theorem TakenOffer.between_of_payoutData {row : TakenOffer} {data : PayoutData P}
    (read : row.payoutData P = .ok data) : data.Between (row.stake true) (row.stake false) := by
  simp only [payoutData, PayoutData.newFromStrings, bind_eq_ok, regtestAddress_eq_ok] at read
  obtain ⟨tweak, -, keys, aggregated, nonce, nonces, _, -, maker, ⟨makerAddress, -⟩, taker,
    ⟨takerAddress, -⟩, rest⟩ := read
  cases rest
  exact ⟨makerAddress, takerAddress, nonces, tweak, keys, aggregated, rfl⟩

namespace Chronicle

/-- Every bond that is published was flagged when the node was asked about the order book, with
    punishment enabled; and it was asked about bonds only with which the maker of a listed offer has
    entered it. -/
def PunishesViolations (c : Chronicle D) : Prop :=
  ∀ bondTxHex answer db, ⟨.inl (.publishBondTxHex bondTxHex), answer, db⟩ ∈ c.log →
    c.Answered .punishmentEnabled (some "1") ∧
      ∃ bonds violations, c.Answered (.validateBonds bonds) (.ok violations) ∧
        (∃ violation ∈ violations, violation.1.bondTxHex = bondTxHex) ∧
          ∀ bond ∈ bonds, ∃ stake, c.Entered bond.tradeIdHex true stake ∧
            stake.robohash = bond.robot ∧ stake.bondTxHex = bond.bondTxHex

/-- Every escrow transaction that is broadcast is combined from what both traders have signed. -/
def LocksByConsent (c : Chronicle D) : Prop :=
  ∀ maker taker answer db,
    ⟨.inl (.combineAndBroadcastEscrowPsbt maker taker), answer, db⟩ ∈ c.log →
    ∃ offerId, c.Cosigned offerId true maker ∧ c.Cosigned offerId false taker

/-- Every payout that is assembled is one of a row: it goes to the addresses that the maker and the
    taker of this offer have entered it with, and both are satisfied. -/
def PaysTheTraders (c : Chronicle D) : Prop :=
  ∀ data answer db, ⟨.inl (.assembleKeyspendPayoutPsbt data), answer, db⟩ ∈ c.log →
    ∃ offerId row, c.Once (·.takenOffers.find? offerId = some row) ∧
      row.payoutData P = .ok data ∧ data.Between (row.stake true) (row.stake false) ∧
      ∀ isMaker, c.Entered offerId isMaker (row.stake isMaker) ∧ c.Satisfied offerId isMaker

/-- Every payout that is broadcast is one that both traders were satisfied to make, and it is
    made of the signatures that they have submitted. -/
def PaysByConsent (c : Chronicle D) : Prop :=
  ∀ context answer db, ⟨.inl (.broadcastKeyspendTx context), answer, db⟩ ∈ c.log →
    ∃ offerId row, c.Once (·.takenOffers.find? offerId = some row) ∧
      row.keyspendContext P = .ok (some context) ∧ ∀ isMaker,
        c.Entered offerId isMaker (row.stake isMaker) ∧ c.Satisfied offerId isMaker ∧
          ∃ signature, (Record.signed isMaker signature).In row ∧
            c.Signed offerId isMaker signature

/-- The node has reported that the escrow of the offer is confirmed. -/
def Locked (c : Chronicle D) (offerId : String) : Prop :=
  ∃ txid, c.Reported txid ∧
    c.Once (·.HasOffer offerId fun row => row.Confirmed ∧ row.escrowPsbtTxid = txid)

/-- A trader is asked about the fiat payment only in a trade of its own, whose escrow the node
    has reported as confirmed. -/
def AsksWhenConfirmed (c : Chronicle D) : Prop :=
  ∀ robohashHex offerId isBuyOrder answer db,
    ⟨.inr (.client (.readLine (.fiatConfirmation robohashHex offerId isBuyOrder))), answer, db⟩ ∈
      c.log →
    (∃ isMaker, c.Once (Acting offerId robohashHex isMaker)) ∧ c.Locked offerId

/-- A session sends a signature of the payout only when its trader and the other one are
    satisfied, and are so on record. -/
def SignsWhenHappy (c : Chronicle D) : Prop :=
  ∀ path body payload answer db, ⟨.inr (.deliver path body), answer, db⟩ ∈ c.log →
    route path body = .ok (.submitPayoutSignature payload) →
    c.Told payload.robohashHex payload.offerIdHex true ∧
      c.Once (·.HasOffer payload.offerIdHex fun row => row.happiness.bothHappy = true) ∧
      ∀ isMaker, c.Satisfied payload.offerIdHex isMaker

/-- A session ends without an error only in a trade of its own whose escrow is locked, and that
    both traders are satisfied with. -/
def EndsWhenHappy {ι : Type} (c : Chronicle D) (participants : ι → Participant D)
    (pool : Pool (system D) ι Participant.Result) : Prop :=
  ∀ i config, (participants i).trader? = some config → pool.calls i = .done (.inl (.ok ())) →
    ∃ offerId, (∃ isMaker, c.Once (Acting offerId config.robosatsRobohashHex isMaker)) ∧
      c.Locked offerId ∧ ∀ isMaker, c.Satisfied offerId isMaker

namespace Sound

variable {c : Chronicle D} {db : Database} {offerId : String}

theorem of_once (sound : c.Sound db) {record : Record}
    (once : c.Once (·.HasOffer offerId record.In)) : record.Warranted c offerId := by
  obtain ⟨db', member, recorded⟩ := once
  exact (sound.warranted db' (Set.mem_insert_of_mem _ member)).trades offerId record recorded

/-- Every trader has entered the trade with its stake. -/
theorem entered (sound : c.Sound db) {row : TakenOffer}
    (once : c.Once (·.takenOffers.find? offerId = some row)) (isMaker : Bool) :
    c.Entered offerId isMaker (row.stake isMaker) := by
  have recorded : (Record.entered isMaker (row.stake isMaker)).In row := rfl
  obtain ⟨db', member, found⟩ := once
  exact sound.of_once ⟨db', member, row, found, recorded⟩

/-- Both traders are satisfied only if each of them has said so. -/
theorem of_happy (sound : c.Sound db)
    (happy : c.Once (·.HasOffer offerId fun row => row.happiness.bothHappy = true))
    (isMaker : Bool) : c.Satisfied offerId isMaker := by
  obtain ⟨db', member, row, found, happy⟩ := happy
  have recorded := Record.satisfied_of_bothHappy happy isMaker
  exact sound.of_once ⟨db', member, row, found, recorded⟩

/-- An escrow is confirmed only if the node has reported it. -/
theorem of_confirmed (sound : c.Sound db)
    (confirmed : c.Once (·.HasOffer offerId TakenOffer.Confirmed)) : c.Locked offerId := by
  obtain ⟨before, member, row, found, confirmed⟩ := confirmed
  have recorded : (Record.confirmed row.escrowPsbtTxid).In row := ⟨confirmed, rfl⟩
  exact ⟨row.escrowPsbtTxid, sound.of_once ⟨before, member, row, found, recorded⟩,
    before, member, row, found, recorded⟩

theorem punishesViolations (sound : c.Sound db) : c.PunishesViolations := by
  intro bondTxHex answer db' asked
  obtain ⟨enabled, bonds, violations, checked, ⟨before, member, rfl⟩, flagged⟩ :=
    sound.grounded _ asked
  refine ⟨enabled, _, violations, checked, flagged, fun bond listed => ?_⟩
  obtain ⟨offer, inTable, rfl⟩ := List.mem_map.mp listed
  have listed : before.HasListed offer.offerId offer.stake :=
    ⟨offer, Table.mem_rows.mp inTable, rfl⟩
  have warranted := sound.warranted before (Set.mem_insert_of_mem _ member)
  exact ⟨offer.stake, ⟨⟨before, member, listed⟩, warranted.offers _ _ listed⟩, rfl, rfl⟩

theorem locksByConsent (sound : c.Sound db) : c.LocksByConsent := by
  intro maker taker answer db' asked
  obtain ⟨offerId, before, member, row, found, makerSigned, takerSigned⟩ := sound.grounded _ asked
  have locks (isMaker : Bool) (psbt : String) (recorded : (Record.cosigned isMaker psbt).In row) :
      c.Cosigned offerId isMaker psbt := sound.of_once ⟨before, member, row, found, recorded⟩
  exact ⟨offerId, locks true maker makerSigned, locks false taker takerSigned⟩

theorem paysTheTraders (sound : c.Sound db) : c.PaysTheTraders := by
  intro data answer db' asked
  obtain ⟨offerId, ⟨before, member, row, found, read⟩, happy⟩ := sound.grounded _ asked
  have once : c.Once (·.takenOffers.find? offerId = some row) := ⟨before, member, found⟩
  exact ⟨offerId, row, once, read, row.between_of_payoutData read, fun isMaker =>
    ⟨sound.entered once isMaker, sound.of_happy happy isMaker⟩⟩

theorem paysByConsent (sound : c.Sound db) (noPsbt : P.psbtDeserialize [] = none) :
    c.PaysByConsent := by
  intro context answer db' asked
  obtain ⟨offerId, before, member, row, found, read⟩ := sound.grounded _ asked
  have prepared : Record.prepared.Warranted c offerId :=
    sound.of_once ⟨before, member, row, found, prepared_of_keyspendContext noPsbt read⟩
  have once : c.Once (·.takenOffers.find? offerId = some row) := ⟨before, member, found⟩
  refine ⟨offerId, row, once, read, fun isMaker => ?_⟩
  refine ⟨sound.entered once isMaker, prepared isMaker, ?_⟩
  obtain ⟨maker, taker⟩ := TakenOffer.signed_of_keyspendContext read
  obtain ⟨signature, recorded⟩ : ∃ signature, (Record.signed isMaker signature).In row := by
    cases isMaker with
    | true => exact Option.isSome_iff_exists.mp maker
    | false => exact Option.isSome_iff_exists.mp taker
  exact ⟨signature, recorded, sound.of_once ⟨before, member, row, found, recorded⟩⟩

theorem asksWhenConfirmed (sound : c.Sound db) : c.AsksWhenConfirmed := by
  intro robohashHex offerId isBuyOrder answer db' asked
  obtain ⟨acting, confirmed⟩ := sound.grounded _ asked
  exact ⟨acting, sound.of_confirmed confirmed⟩

theorem signsWhenHappy (sound : c.Sound db) : c.SignsWhenHappy := by
  intro path body payload answer db' asked routed
  obtain ⟨request, config, -, routed', justified⟩ := sound.grounded _ asked
  cases routed.symm.trans routed'
  obtain ⟨own, said, recorded, paidOut⟩ := justified
  have happy := once_of_paidOut paidOut
  rw [own]
  exact ⟨told_of_said said, happy, sound.of_happy happy⟩

end Sound

end Chronicle

section Results

variable {ι : Type} [DecidableEq ι] (participants : ι → Participant D)
  (env : Environment (system D)) (schedule : List ι)

/-- No bond is published without a violation, in any run. -/
theorem bonds_published_for_violations :
    (chronicle participants env schedule).PunishesViolations :=
  (sound_chronicle participants env schedule).punishesViolations

/-- No escrow without the signatures of both traders, in any run. -/
theorem escrows_by_consent : (chronicle participants env schedule).LocksByConsent :=
  (sound_chronicle participants env schedule).locksByConsent

/-- In any run, a payout is assembled for the two traders of a trade and for nobody else. -/
theorem payouts_to_traders : (chronicle participants env schedule).PaysTheTraders :=
  (sound_chronicle participants env schedule).paysTheTraders

/-- No payout without the consent of both traders, in any run. -/
theorem payouts_by_consent (noPsbt : P.psbtDeserialize [] = none) :
    (chronicle participants env schedule).PaysByConsent :=
  (sound_chronicle participants env schedule).paysByConsent noPsbt

end Results

namespace Sample

/-- Both traders, and a round of the task that looks for confirmations. -/
def participants : Option Bool → Participant .sample
  | some true => .session (wallet true) 3 (.maker (settings true))
  | some false => .session (wallet false) 3 (.taker (settings false))
  | none => .request .updateTransactionConfirmations

/-- Surroundings in which nothing fails. The maker asks for its nonce before the taker does. -/
def systemEnvironment : Environment (system .sample) where
  answer tick
    | .inl query => answer query
    | .inr (.client query) =>
        (surroundings (tick < 15) fun _ _ => .error .rowNotFound).answer tick query
    | .inr (.deliver _ _) | .inr (.respond _) => .ok ()
    | .inr .close => .rowNotFound
  fault _ := none

/-- A trade from the first bond to the payout. -/
def turns : List (Option Bool) :=
  List.replicate 19 (some true) ++ List.replicate 29 (some false) ++
    List.replicate 12 (some true) ++ List.replicate 3 none ++ List.replicate 13 (some true) ++
    List.replicate 28 (some false) ++ List.replicate 14 (some true)

def isBroadcast : (system .sample).Query → Bool
  | .inl (.broadcastKeyspendTx _) => true
  | _ => false

end Sample

/-- The trade of the two traders, whose payout is broadcast. -/
theorem payouts_by_consent_sample :
    ((gathering Sample.participants).play Sample.systemEnvironment Sample.turns).world.log.any
        (fun event => Sample.isBroadcast event.query) = true ∧
      (chronicle Sample.participants Sample.systemEnvironment Sample.turns).PaysByConsent :=
  ⟨by decide +kernel, payouts_by_consent _ _ _ rfl⟩

section Sessions

variable {ι : Type} [DecidableEq ι] (participants : ι → Participant D)
  (env : Environment (system D)) (schedule : List ι)

/-- In any run, fiat is asked for only when the bitcoins are locked. -/
theorem fiat_when_confirmed : (chronicle participants env schedule).AsksWhenConfirmed :=
  (sound_chronicle participants env schedule).asksWhenConfirmed

/-- In any run, a client signs the payout only when both traders are satisfied. -/
theorem signature_when_happy : (chronicle participants env schedule).SignsWhenHappy :=
  (sound_chronicle participants env schedule).signsWhenHappy

/-- In any run, a client exits without an error only when both traders are satisfied. -/
theorem end_when_happy : (chronicle participants env schedule).EndsWhenHappy participants
    ((gathering participants).play env schedule) := by
  intro i config trader ended
  have sound := sound_chronicle participants env schedule
  obtain ⟨actors, pursuing, all, -, -⟩ := kept_play participants env schedule
  have ends := pursuing i
  rw [ended] at ends
  have heard := ((all i).mono ofPool_le_chronicle).heard config
  obtain ⟨offerId, confirmed, paidOut⟩ : ∃ offerId,
      (chronicle participants env schedule).hearing.Confirmed config offerId ∧
        (chronicle participants env schedule).hearing.PaidOut config offerId := by
    obtain ⟨offerId, finished | reconciled⟩ := ends config trader rfl
    · obtain ⟨bonded, confirmed, said, recorded, paidOut, signed⟩ := heard _ finished
      exact ⟨offerId, confirmed, paidOut⟩
    · obtain ⟨bonded, confirmed, said, complained, paidOut⟩ := heard _ reconciled
      exact ⟨offerId, confirmed, paidOut⟩
  obtain ⟨acting, once⟩ := Chronicle.once_of_confirmed confirmed
  exact ⟨offerId, acting, sound.of_confirmed once,
    sound.of_happy (Chronicle.once_of_paidOut paidOut)⟩

end Sessions

end TapTrade
