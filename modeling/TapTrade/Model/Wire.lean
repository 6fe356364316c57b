import TapTrade.Model.Background
import TapTrade.Wire.Json

/-! # The messages on the wire

Client and coordinator declare the structures of their `communication/api.rs` each on their
own. A message is written with the names of the program that sends it and read with those of
the program that gets it, in the order of its fields there.
-/

namespace TapTrade

open Wire Json

/-- `OrderRequest` of the client, `OfferRequest` of the coordinator. -/
instance : Message OfferRequest where
  write request := object [
    ("robohash_hex", string request.robohashHex),
    ("amount_satoshi", ofU64 request.amountSatoshi),
    ("is_buy_order", bool request.isBuyOrder),
    ("bond_ratio", ofU8 request.bondRatio),
    ("offer_duration_ts", ofU64 request.offerDurationTs)]
  read json := if json.fits 5 then do
      let robohashHex ← (← json.field? 0 "robohash_hex").text?
      let amountSatoshi ← (← json.field? 1 "amount_satoshi").u64?
      let isBuyOrder ← (← json.field? 2 "is_buy_order").flag?
      let bondRatio ← (← json.field? 3 "bond_ratio").u8?
      let offerDurationTs ← (← json.field? 4 "offer_duration_ts").u64?
      return { robohashHex, amountSatoshi, isBuyOrder, bondRatio, offerDurationTs }
    else none
  read_write request := by simp [fits, field?]

instance : Message BondRequirementResponse where
  write response := object [
    ("bond_address", string response.bondAddress),
    ("locking_amount_sat", ofU64 response.lockingAmountSat),
    ("escrow_locking_input_amount_without_trade_sum",
      ofU64 response.escrowLockingInputAmountWithoutTradeSum)]
  read json := if json.fits 3 then do
      let bondAddress ← (← json.field? 0 "bond_address").text?
      let lockingAmountSat ← (← json.field? 1 "locking_amount_sat").u64?
      let escrowLockingInputAmountWithoutTradeSum ←
        (← json.field? 2 "escrow_locking_input_amount_without_trade_sum").u64?
      return { bondAddress, lockingAmountSat, escrowLockingInputAmountWithoutTradeSum }
    else none
  read_write response := by simp [fits, field?]

instance : Message BondSubmissionRequest where
  write request := object [
    ("robohash_hex", string request.robohashHex),
    ("signed_bond_hex", string request.signedBondHex),
    ("payout_address", string request.payoutAddress),
    ("taproot_pubkey_hex", string request.taprootPubkeyHex),
    ("musig_pub_nonce_hex", string request.musigPubNonceHex),
    ("musig_pubkey_hex", string request.musigPubkeyHex),
    ("bdk_psbt_inputs_hex_csv", string request.bdkPsbtInputsHexCsv),
    ("client_change_address", string request.clientChangeAddress)]
  read json := if json.fits 8 then do
      let robohashHex ← (← json.field? 0 "robohash_hex").text?
      let signedBondHex ← (← json.field? 1 "signed_bond_hex").text?
      let payoutAddress ← (← json.field? 2 "payout_address").text?
      let taprootPubkeyHex ← (← json.field? 3 "taproot_pubkey_hex").text?
      let musigPubNonceHex ← (← json.field? 4 "musig_pub_nonce_hex").text?
      let musigPubkeyHex ← (← json.field? 5 "musig_pubkey_hex").text?
      let bdkPsbtInputsHexCsv ← (← json.field? 6 "bdk_psbt_inputs_hex_csv").text?
      let clientChangeAddress ← (← json.field? 7 "client_change_address").text?
      return {
        robohashHex
        signedBondHex
        payoutAddress
        taprootPubkeyHex
        musigPubNonceHex
        musigPubkeyHex
        bdkPsbtInputsHexCsv
        clientChangeAddress }
    else none
  read_write request := by simp [fits, field?]

/-- `OfferActivatedResponse` of the coordinator, `OrderActivatedResponse` of the client. -/
instance : Message OfferActivatedResponse where
  write response := object [
    ("offer_id_hex", string response.offerIdHex),
    ("bond_locked_until_timestamp", ofU64 response.bondLockedUntilTimestamp)]
  read json := if json.fits 2 then do
      let offerIdHex ← (← json.field? 0 "offer_id_hex").text?
      let bondLockedUntilTimestamp ← (← json.field? 1 "bond_locked_until_timestamp").u64?
      return { offerIdHex, bondLockedUntilTimestamp }
    else none
  read_write response := by simp [fits, field?]

instance : Message OffersRequest where
  write request := object [
    ("buy_offers", bool request.buyOffers),
    ("amount_min_sat", ofU64 request.amountMinSat),
    ("amount_max_sat", ofU64 request.amountMaxSat)]
  read json := if json.fits 3 then do
      let buyOffers ← (← json.field? 0 "buy_offers").flag?
      let amountMinSat ← (← json.field? 1 "amount_min_sat").u64?
      let amountMaxSat ← (← json.field? 2 "amount_max_sat").u64?
      return { buyOffers, amountMinSat, amountMaxSat }
    else none
  read_write request := by simp [fits, field?]

instance : Message PublicOffer where
  write offer := object [
    ("amount_sat", ofU64 offer.amountSat),
    ("offer_id_hex", string offer.offerIdHex),
    ("bond_requirements", Message.write offer.bondRequirements)]
  read json := if json.fits 3 then do
      let amountSat ← (← json.field? 0 "amount_sat").u64?
      let offerIdHex ← (← json.field? 1 "offer_id_hex").text?
      let bondRequirements ← Message.read (← json.field? 2 "bond_requirements")
      return { amountSat, offerIdHex, bondRequirements }
    else none
  read_write offer := by simp [fits, field?]

/-- `offers` is an `Option`: a missing member or `null` is read as `None`. -/
instance : Message PublicOffers where
  write response := object [("offers", match response.offers with
    | some offers => array (offers.map Message.write)
    | none => null)]
  read json := if json.fits 1 then do
      match ← json.optionalField? 0 "offers" with
      | none | some null => return { offers := none }
      | some offers => return { offers := some (← offers.list? Message.read) }
    else none
  read_write response := by
    obtain ⟨_ | offers⟩ := response <;> simp [fits, optionalField?]

instance : Message OfferTakenResponse where
  write response := object [
    ("escrow_psbt_hex", string response.escrowPsbtHex),
    ("escrow_output_descriptor", string response.escrowOutputDescriptor),
    ("escrow_amount_maker_sat", ofU64 response.escrowAmountMakerSat),
    ("escrow_amount_taker_sat", ofU64 response.escrowAmountTakerSat),
    ("escrow_fee_sat_per_participant", ofU64 response.escrowFeeSatPerParticipant)]
  read json := if json.fits 5 then do
      let escrowPsbtHex ← (← json.field? 0 "escrow_psbt_hex").text?
      let escrowOutputDescriptor ← (← json.field? 1 "escrow_output_descriptor").text?
      let escrowAmountMakerSat ← (← json.field? 2 "escrow_amount_maker_sat").u64?
      let escrowAmountTakerSat ← (← json.field? 3 "escrow_amount_taker_sat").u64?
      let escrowFeeSatPerParticipant ← (← json.field? 4 "escrow_fee_sat_per_participant").u64?
      return {
        escrowPsbtHex
        escrowOutputDescriptor
        escrowAmountMakerSat
        escrowAmountTakerSat
        escrowFeeSatPerParticipant }
    else none
  read_write response := by simp [fits, field?]

instance : Message OfferPsbtRequest where
  write request := object [
    ("offer", Message.write request.offer),
    ("trade_data", Message.write request.tradeData)]
  read json := if json.fits 2 then do
      let offer ← Message.read (← json.field? 0 "offer")
      let tradeData ← Message.read (← json.field? 1 "trade_data")
      return { offer, tradeData }
    else none
  read_write request := by simp [fits, field?]

/-- What the client sends as `OfferTakenRequest`, `IsOfferReadyRequest` and
    `TradeObligationsSatisfied`, and the coordinator reads as `OfferTakenRequest`. -/
instance : Message OfferTakenRequest where
  write request := object [
    ("robohash_hex", string request.robohashHex),
    ("offer_id_hex", string request.offerIdHex)]
  read json := if json.fits 2 then do
      let robohashHex ← (← json.field? 0 "robohash_hex").text?
      let offerIdHex ← (← json.field? 1 "offer_id_hex").text?
      return { robohashHex, offerIdHex }
    else none
  read_write request := by simp [fits, field?]

instance : Message PsbtSubmissionRequest where
  write request := object [
    ("signed_psbt_hex", string request.signedPsbtHex),
    ("offer_id_hex", string request.offerIdHex),
    ("robohash_hex", string request.robohashHex)]
  read json := if json.fits 3 then do
      let signedPsbtHex ← (← json.field? 0 "signed_psbt_hex").text?
      let offerIdHex ← (← json.field? 1 "offer_id_hex").text?
      let robohashHex ← (← json.field? 2 "robohash_hex").text?
      return { signedPsbtHex, offerIdHex, robohashHex }
    else none
  read_write request := by simp [fits, field?]

instance : Message PayoutResponse where
  write response := object [
    ("payout_psbt_hex", string response.payoutPsbtHex),
    ("agg_musig_nonce_hex", string response.aggMusigNonceHex),
    ("agg_musig_pubkey_ctx_hex", string response.aggMusigPubkeyCtxHex)]
  read json := if json.fits 3 then do
      let payoutPsbtHex ← (← json.field? 0 "payout_psbt_hex").text?
      let aggMusigNonceHex ← (← json.field? 1 "agg_musig_nonce_hex").text?
      let aggMusigPubkeyCtxHex ← (← json.field? 2 "agg_musig_pubkey_ctx_hex").text?
      return { payoutPsbtHex, aggMusigNonceHex, aggMusigPubkeyCtxHex }
    else none
  read_write response := by simp [fits, field?]

instance : Message TradeObligationsUnsatisfied where
  write request := object [
    ("robohash_hex", string request.robohashHex),
    ("offer_id_hex", string request.offerIdHex)]
  read json := if json.fits 2 then do
      let robohashHex ← (← json.field? 0 "robohash_hex").text?
      let offerIdHex ← (← json.field? 1 "offer_id_hex").text?
      return { robohashHex, offerIdHex }
    else none
  read_write request := by simp [fits, field?]

instance : Message PayoutSignatureRequest where
  write request := object [
    ("partial_sig_hex", string request.partialSigHex),
    ("offer_id_hex", string request.offerIdHex),
    ("robohash_hex", string request.robohashHex)]
  read json := if json.fits 3 then do
      let partialSigHex ← (← json.field? 0 "partial_sig_hex").text?
      let offerIdHex ← (← json.field? 1 "offer_id_hex").text?
      let robohashHex ← (← json.field? 2 "robohash_hex").text?
      return { partialSigHex, offerIdHex, robohashHex }
    else none
  read_write request := by simp [fits, field?]

end TapTrade
