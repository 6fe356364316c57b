import TapTrade.Model.Wire

/-! # The HTTP interface of the coordinator

`communication/mod.rs`: which handler a path belongs to, and with which status and body the
outcome of a handler is answered. A handler that panics answers nothing: the connection is
closed. The reason phrases and headers of a response are left out, as no client reads them.
-/

namespace TapTrade

open Wire Resumption

inductive Body where
  | empty
  | json (value : Json)
  /-- `Something went wrong: ` and the text of the error. -/
  | somethingWentWrong (error : Error)
  | text (value : String)

structure Response where
  status : Nat
  body : Body

namespace Response

/-- `StatusCode::.. .into_response()`. -/
def statusCode (status : Nat) : Response := ⟨status, .empty⟩

/-- `Json(value).into_response()`. -/
def json {α : Type} [Message α] (value : α) : Response := ⟨200, .json (Message.write value)⟩

/-- `AppError::into_response`. -/
def appError (error : Error) : Response := ⟨500, .somethingWentWrong error⟩

/-- `res.json()`. -/
def json? {α : Type} [Message α] (response : Response) : Option α :=
  match response.body with
  | .json value => Message.read value
  | _ => none

@[simp] theorem json?_json {α : Type} [Message α] (value : α) :
    (json value).json? = some value := Message.read_write value

end Response

open Response

/-! What each handler of a path makes of the outcome; `none` is a panic. -/

namespace Endpoint

def receiveOrder : Outcome Error (Option BondRequirementResponse) → Option Response
  | .ok none => some (statusCode 400)
  | .ok (some bondRequirements) => some (json bondRequirements)
  | .error (.failed e) => some (appError e)
  | .error .panicked => none

/-- The answer to a bond, which is the same for maker and taker. -/
def submitBond {α : Type} [Message α] : Outcome BondError α → Option Response
  | .ok response => some (json response)
  | .error (.failed .bondNotFound) => some (statusCode 404)
  | .error (.failed (.invalidBond _)) => some (statusCode 406)
  | .error (.failed (.coordinatorError _)) => some (statusCode 500)
  | .error .panicked => none

def submitMakerBond : Outcome BondError OfferActivatedResponse → Option Response := submitBond

def submitTakerBond : Outcome BondError OfferTakenResponse → Option Response := submitBond

/-- The answer to a look for offers, which is the same for a list and for one offer. -/
def fetchOffers {α : Type} [Message α] : Outcome FetchOffersError α → Option Response
  | .ok offers => some (json offers)
  | .error (.failed .noOffersAvailable) => some (statusCode 204)
  | .error (.failed (.database _)) => some (statusCode 500)
  | .error .panicked => none

def fetchAvailableOffers : Outcome FetchOffersError PublicOffers → Option Response := fetchOffers

def requestOfferStatusMaker : Outcome FetchOffersError OfferTakenResponse → Option Response :=
  fetchOffers

def submitEscrowPsbt : Outcome RequestError Unit → Option Response
  | .ok () => some (statusCode 200)
  | .error (.failed .psbtAlreadySubmitted) => some (statusCode 500)
  | .error (.failed (.psbtInvalid _)) => some (statusCode 406)
  | .error (.failed _) => some (statusCode 500)
  | .error .panicked => none

def pollEscrowConfirmation : Outcome FetchEscrowConfirmationError Bool → Option Response
  | .ok true => some (statusCode 200)
  | .ok false => some (statusCode 202)
  | .error (.failed .notFound) => some (statusCode 404)
  | .error (.failed (.database _)) => some (statusCode 500)
  | .error .panicked => none

/-- The answer to what a trader says about the other one. -/
def submitObligations : Outcome RequestError Unit → Option Response
  | .ok () => some (statusCode 200)
  | .error (.failed .notFound) => some (statusCode 404)
  | .error (.failed .notConfirmed) => some (statusCode 406)
  | .error (.failed (.database _)) => some (statusCode 500)
  | .error (.failed _) => some (statusCode 500)
  | .error .panicked => none

def submitObligationConfirmation : Outcome RequestError Unit → Option Response := submitObligations

def requestEscrow : Outcome RequestError Unit → Option Response := submitObligations

def pollFinalPayout : Outcome RequestError PayoutProcessingResult → Option Response
  | .ok .notReady => some (statusCode 202)
  | .ok .lostEscrow => some (statusCode 410)
  | .ok (.readyPsbt psbtAndNonce) => some (json psbtAndNonce)
  | .ok .decidingEscrow => some (statusCode 201)
  | .error (.failed .notConfirmed) => some (statusCode 406)
  | .error (.failed .notFound) => some (statusCode 404)
  | .error (.failed (.database _)) => some (statusCode 500)
  | .error (.failed (.coordinatorError _)) => some (statusCode 500)
  | .error (.failed _) => some (statusCode 500)
  | .error .panicked => none

def submitPayoutSignature : Outcome RequestError Bool → Option Response
  | .ok true => some (statusCode 200)
  | .ok false => some (statusCode 202)
  | .error (.failed _) => some (statusCode 500)
  | .error .panicked => none

end Endpoint

/-- The response to a request. A background task answers nobody. -/
def Reply.respond : Reply → Option Response
  | .createOffer outcome => Endpoint.receiveOrder outcome
  | .submitMakerBond outcome => Endpoint.submitMakerBond outcome
  | .fetchAvailableOffers outcome => Endpoint.fetchAvailableOffers outcome
  | .submitTakerBond outcome => Endpoint.submitTakerBond outcome
  | .requestOfferStatus outcome => Endpoint.requestOfferStatusMaker outcome
  | .submitEscrowPsbt outcome => Endpoint.submitEscrowPsbt outcome
  | .pollEscrowConfirmation outcome => Endpoint.pollEscrowConfirmation outcome
  | .submitObligationConfirmation outcome => Endpoint.submitObligationConfirmation outcome
  | .requestEscrow outcome => Endpoint.requestEscrow outcome
  | .pollFinalPayout outcome => Endpoint.pollFinalPayout outcome
  | .submitPayoutSignature outcome => Endpoint.submitPayoutSignature outcome
  | .background _ => none

/-- The `Json` extractor: a body of another shape is rejected before the handler is called. -/
def extract {α : Type} [Message α] (request : α → Request) (body : Json) : Except Response Request :=
  match Message.read body with
  | some payload => .ok (request payload)
  | none => .error ⟨422, .text "Failed to deserialize the JSON body into the target type"⟩

/-- The routes of `api_server`, for a `POST`. -/
def route (path : String) (body : Json) : Except Response Request :=
  match path with
  | "/test" => .error (statusCode 405)
  | "/create-offer" => extract .createOffer body
  | "/submit-maker-bond" => extract .submitMakerBond body
  | "/fetch-available-offers" => extract .fetchAvailableOffers body
  | "/submit-taker-bond" => extract .submitTakerBond body
  | "/request-offer-status" => extract .requestOfferStatus body
  | "/submit-escrow-psbt" => extract .submitEscrowPsbt body
  | "/poll-escrow-confirmation" => extract .pollEscrowConfirmation body
  | "/submit-obligation-confirmation" => extract .submitObligationConfirmation body
  | "/request-escrow" => extract .requestEscrow body
  | "/poll-final-payout" => extract .pollFinalPayout body
  | "/submit-payout-signature" => extract .submitPayoutSignature body
  | _ => .error (statusCode 404)

/-- The program that answers a `POST`. -/
def apiServer (P : Platform) (path : String) (body : Json) :
    Program (coordinator P) (Option Response) :=
  match route path body with
  | .ok request => (request.serve P).map Reply.respond
  | .error response => .done (some response)

@[simp] theorem extract_write {α : Type} [Message α] (request : α → Request) (payload : α) :
    extract request (Message.write payload) = .ok (request payload) := by
  rw [extract, Message.read_write]

end TapTrade
