import TapTrade.Model.Hex

/-! # Requests, responses and errors

The structures of `communication/api.rs`, the error enumerations of
`handler_errors.rs` and the error values that travel through `anyhow`. An error is
kept as a value where the source keeps its text (`e.to_string()`).
-/

namespace TapTrade

/-- Errors behind `anyhow::Error`. -/
inductive Error where
  /-- `sqlx::Error::RowNotFound`, from `fetch_one`. -/
  | rowNotFound
  /-- A column whose value does not fit the requested type. -/
  | columnDecode
  /-- A statement the database could not execute. -/
  | database
  /-- `hex::FromHexError`. -/
  | fromHex
  /-- The error of a library, by the operation that failed. -/
  | library (operation : String)
  /-- `anyhow!(text)`. -/
  | message (text : String)
  /-- `.context(text)`. -/
  | context (text : String) (cause : Error)
  deriving DecidableEq, Repr

inductive BondError where
  | invalidBond (error : Error)
  | bondNotFound
  | coordinatorError (error : Error)
  deriving DecidableEq, Repr

inductive FetchOffersError where
  | noOffersAvailable
  | database (error : Error)
  deriving DecidableEq, Repr

inductive FetchEscrowConfirmationError where
  | notFound
  | database (error : Error)
  deriving DecidableEq, Repr

inductive RequestError where
  | database (error : Error)
  | notConfirmed
  | coordinatorError (error : Error)
  | notFound
  | psbtAlreadySubmitted
  | psbtInvalid (error : Error)
  deriving DecidableEq, Repr

structure OfferRequest where
  robohashHex : String
  amountSatoshi : UInt64
  isBuyOrder : Bool
  bondRatio : UInt8
  offerDurationTs : UInt64
  deriving DecidableEq, Repr

structure BondRequirementResponse where
  bondAddress : String
  lockingAmountSat : UInt64
  escrowLockingInputAmountWithoutTradeSum : UInt64
  deriving DecidableEq, Repr

/-- `wallet::BondRequirements`. -/
structure BondRequirements where
  bondAddress : String
  lockingAmountSat : UInt64
  minInputSumSat : UInt64
  deriving DecidableEq, Repr

structure BondSubmissionRequest where
  robohashHex : String
  signedBondHex : String
  payoutAddress : String
  taprootPubkeyHex : String
  musigPubNonceHex : String
  musigPubkeyHex : String
  bdkPsbtInputsHexCsv : String
  clientChangeAddress : String
  deriving DecidableEq, Repr

structure OfferActivatedResponse where
  offerIdHex : String
  bondLockedUntilTimestamp : UInt64
  deriving DecidableEq, Repr

structure OffersRequest where
  buyOffers : Bool
  amountMinSat : UInt64
  amountMaxSat : UInt64
  deriving DecidableEq, Repr

structure PublicOffer where
  amountSat : UInt64
  offerIdHex : String
  bondRequirements : BondRequirementResponse
  deriving DecidableEq, Repr

structure PublicOffers where
  offers : Option (List PublicOffer)
  deriving DecidableEq, Repr

structure OfferTakenResponse where
  escrowPsbtHex : String
  escrowOutputDescriptor : String
  escrowAmountMakerSat : UInt64
  escrowAmountTakerSat : UInt64
  escrowFeeSatPerParticipant : UInt64
  deriving DecidableEq, Repr

structure OfferPsbtRequest where
  offer : PublicOffer
  tradeData : BondSubmissionRequest
  deriving DecidableEq, Repr

structure OfferTakenRequest where
  robohashHex : String
  offerIdHex : String
  deriving DecidableEq, Repr

structure PsbtSubmissionRequest where
  signedPsbtHex : String
  offerIdHex : String
  robohashHex : String
  deriving DecidableEq, Repr

structure PayoutResponse where
  payoutPsbtHex : String
  aggMusigNonceHex : String
  aggMusigPubkeyCtxHex : String
  deriving DecidableEq, Repr

structure TradeObligationsUnsatisfied where
  robohashHex : String
  offerIdHex : String
  deriving DecidableEq, Repr

structure PayoutSignatureRequest where
  partialSigHex : String
  offerIdHex : String
  robohashHex : String
  deriving DecidableEq, Repr

/-- `coordinator_utils::PayoutProcessingResult`. -/
inductive PayoutProcessingResult where
  | readyPsbt (response : PayoutResponse)
  | notReady
  | lostEscrow
  | decidingEscrow
  deriving DecidableEq, Repr

/-- `wallet::EscrowPsbt`. -/
structure EscrowPsbt where
  escrowPsbtHex : String
  escrowTxTxid : String
  escrowOutputDescriptor : String
  coordinatorXonlyEscrowPk : String
  escrowAmountMakerSat : UInt64
  escrowAmountTakerSat : UInt64
  escrowFeeSatPerParticipant : UInt64
  deriving DecidableEq, Repr

/-- `bond_monitoring::Table`. -/
inductive BondTable where
  | orderbook
  | activeTrades
  | memory
  deriving DecidableEq, Repr

structure MonitoringBond where
  bondTxHex : String
  tradeIdHex : String
  robot : Bytes
  requirements : BondRequirements
  table : BondTable
  deriving DecidableEq, Repr

/-- `escrow_cli::EscrowCase`. -/
structure EscrowCase where
  makerId : String
  takerId : String
  offerId : String
  deriving DecidableEq, Repr

inductive EscrowWinner where
  | maker
  | taker
  deriving DecidableEq, Repr

/-- `database::TraderHappiness`. -/
structure TraderHappiness where
  makerHappy : Option Bool
  takerHappy : Option Bool
  escrowOngoing : Bool
  deriving DecidableEq, Repr

end TapTrade
