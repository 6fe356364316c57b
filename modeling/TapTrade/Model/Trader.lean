import TapTrade.Model.Api
import TapTrade.Model.Platform

/-! # What the client of a trader computes

The parts of the trader's client that decide how many inputs it submits: the order request
of a maker, the search of a taker for offers around its own trade value, and the input amount
for the escrow, which both compute from the quote that they were given.
-/

namespace TapTrade

/-- `cli::OfferType`. -/
inductive OfferType where
  | buy (value : UInt64)
  | sell (value : UInt64)
  deriving DecidableEq, Repr

namespace OfferType

def value : OfferType → UInt64
  | buy value => value
  | sell value => value

def isBuyOrder : OfferType → Bool
  | buy _ => true
  | sell _ => false

end OfferType

/-- `cli::TraderSettings`, as far as the requests depend on them. -/
structure TraderSettings where
  robosatsRobohashHex : String
  tradeType : OfferType
  bondRatio : UInt8
  durationUnixTs : UInt64
  deriving DecidableEq, Repr

/-- `(q).round() as u64` of an `f64` that is not negative. -/
def roundU64 (q : ℚ) : UInt64 := floorU64 (q + 1 / 2)

namespace TraderSettings

variable (settings : TraderSettings)

/-- `_format_order_request`. -/
def formatOrderRequest : OfferRequest where
  robohashHex := settings.robosatsRobohashHex
  amountSatoshi := settings.tradeType.value
  isBuyOrder := settings.tradeType.isBuyOrder
  bondRatio := settings.bondRatio
  offerDurationTs := settings.durationUnixTs

/-- The request of `PublicOffers::fetch`. -/
def offersRequest (roundF64 : ℚ → ℚ) : OffersRequest :=
  let amount := roundF64 settings.tradeType.value.toNat
  { buyOffers := !settings.tradeType.isBuyOrder
    amountMinSat := roundU64 (roundF64 (amount * roundF64 (9 / 10)))
    amountMaxSat := roundU64 (roundF64 (amount * roundF64 (11 / 10))) }

/-- The input amount for the escrow: the quote, and the trade value of a seller. `none` is a
    panic of a build that checks for overflow. -/
def inputAmount (overflowChecks : Bool) (requirements : BondRequirementResponse) : Option UInt64 :=
  let quote := requirements.escrowLockingInputAmountWithoutTradeSum
  if settings.tradeType.isBuyOrder then some quote
  else if overflowChecks && 2 ^ 64 ≤ quote.toNat + settings.tradeType.value.toNat then none
  else some (quote + settings.tradeType.value)

/-- `input_amount` of `ActiveOffer::create`. -/
def createInputAmount (overflowChecks : Bool) (offerConditions : BondRequirementResponse) :
    Option UInt64 := settings.inputAmount overflowChecks offerConditions

/-- `input_amount` of `ActiveOffer::take`. -/
def takeInputAmount (overflowChecks : Bool) (offer : PublicOffer) : Option UInt64 :=
  settings.inputAmount overflowChecks offer.bondRequirements

end TraderSettings

end TapTrade
