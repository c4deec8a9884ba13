import Patala.Fiat.Http

/-! The Square rail: `charge` opens a payment link, whose proof learns the payment's id only
once it is resolved, and `verify` fetches the payment under that id. -/

namespace Patala.Fiat.Square

def squareThreeDecimal : List String := ["KWD", "BHD", "JOD", "OMR", "TND"]

def unsupportedCurrency (cur : String) : Error :=
  .invalidRequest (s!"square: {cur} is a three-decimal ISO-4217 currency, " ++
    "not verified against Square's documented Money semantics; refusing rather than guessing")

def malformed (detail : String) : Error := Fiat.malformed "square" detail

def squareAmount (amountMinor : UInt64) (currency : String) : Except Error UInt64 :=
  let cur := toAsciiUppercase (trim currency)
  if contains squareThreeDecimal cur then .error (unsupportedCurrency cur) else .ok amountMinor

structure SquareErrorDetail where
  category : String
  code : String
  detail : String

structure SquareErrorEnvelope where
  errors : List SquareErrorDetail

structure SquareAmountMoney where
  amount : UInt64
  currency : String

structure SquarePaymentPayload where
  id : String
  status : String
  referenceId : String
  orderId : String
  amountMoney : SquareAmountMoney

structure VerifyResponse where
  payment : SquarePaymentPayload

structure PaymentLink where
  id : String
  url : String
  orderId : String

structure CreateResponse where
  paymentLink : PaymentLink

structure ChargeProof where
  orderId : String
  paymentLinkId : String
  paymentId : Option String

structure SquareSettlementOutcome extends Outcome where
  eventId : String

/-- What a payment says; only `COMPLETED` settles it. -/
def parseSquarePayment (p : SquarePaymentPayload) : Except Error SquareSettlementOutcome :=
  let currency := toAsciiUppercase (trim p.amountMoney.currency)
  if p.id = "" then .error (malformed "missing payment id")
  else if p.referenceId = "" then
    .error (malformed "payment has no reference_id to reconcile against")
  else if p.status = "COMPLETED" then
    if p.amountMoney.amount = 0 then
      .error (malformed "status=COMPLETED with non-positive amount")
    else .ok ⟨⟨p.referenceId, true, p.amountMoney.amount, currency⟩, p.id⟩
  else .ok ⟨⟨p.referenceId, false, 0, currency⟩, p.id⟩

/-- The rail, with how its messages are written and read. -/
structure SquareRail where
  accessToken : String
  locationId : String
  apiBaseUrl : String
  currencies : List String
  proofToBytes : ChargeProof → List UInt8
  proofFromSlice : FromSlice ChargeProof
  createFromSlice : FromSlice CreateResponse
  verifyFromSlice : FromSlice VerifyResponse
  errorFromSlice : FromSlice SquareErrorEnvelope

def railId : String := "square"

def safePathSegment (s : String) : Except Error String := Fiat.safePathSegment "a square id" s

/-- The payment id of a proof, once it is resolved and if it is safe. -/
def ChargeProof.segment (proof : ChargeProof) : Option String :=
  proof.paymentId.bind fun paymentId => (safePathSegment paymentId).toOption

/-- The payment is for the receipt's reference and covers it. -/
def matchPayment (receipt : Receipt) (payment : SquarePaymentPayload) : Bool :=
  match parseSquarePayment payment with
  | .error _ => false
  | .ok outcome =>
    if outcome.reference ≠ receipt.reference.text then false else outcome.covers receipt

namespace SquareRail

variable (rail : SquareRail)

def classifyError (status : UInt16) (body : List UInt8) : Error :=
  let message := match rail.errorFromSlice body with
    | .ok ⟨e :: _⟩ => s!"{e.code}: {e.detail}"
    | _ => "no message"
  unexpectedStatus "square" status message

/-- The request `do_json` sends. -/
def jsonRequest (method : Method) (path : String) (body : Option Json.Value) : Request where
  method := method
  url := rail.apiBaseUrl ++ path
  query := []
  headers := [("Authorization", s!"Bearer {rail.accessToken}"),
    ("Content-Type", "application/json"), ("Accept", "application/json")]
  basicAuth := none
  payload := body.map .json

def createBody (req : PayRequest) (currency redirectUrl : String) (amount : UInt64) : Json.Value :=
  .object [("idempotency_key", .string req.reference.text),
    ("order", .object [("location_id", .string rail.locationId),
      ("reference_id", .string req.reference.text),
      ("line_items", .array [.object [("name", .string s!"patala order {req.reference.text}"),
        ("quantity", .string "1"),
        ("base_price_money", .object [("amount", .number (toString amount.toNat)),
          ("currency", .string currency)])]])]),
    ("checkout_options", .object [("redirect_url", .string redirectUrl)])]

/-- Open a payment link for a request; no payment id is known yet. -/
def charge (req : PayRequest) : Talk Receipt := do
  req.validate
  checkCurrency railId rail.currencies req.currency
  let currency := toAsciiUppercase (trim req.currency)
  let amount ← squareAmount req.amountMinor currency
  let redirectUrl := trim req.destination.text
  insist (redirectUrl ≠ "")
    (.invalidRequest "square: destination (used as the redirect_url) is required")
  let parsed ← fetch "square" "/v2/online-checkout/payment-links"
    (rail.jsonRequest .post "/v2/online-checkout/payment-links"
      (some (rail.createBody req currency redirectUrl amount)))
    rail.classifyError rail.createFromSlice
  insist (parsed.paymentLink.id ≠ "" ∧ parsed.paymentLink.url ≠ "")
    (malformed "empty payment link id or url")
  return {
    railId := railId
    amountMinor := 0
    currency
    reference := req.reference
    proof := rail.proofToBytes ⟨parsed.paymentLink.orderId, parsed.paymentLink.id, none⟩
    settledAtUnix := 0 }

def paymentPath (paymentId : String) : String := s!"/v2/payments/{paymentId}"

def getPayment (paymentId : String) : Talk VerifyResponse :=
  fetch "square" (paymentPath paymentId) (rail.jsonRequest .get (paymentPath paymentId) none)
    rail.classifyError rail.verifyFromSlice

/-- Fetch the payment the proof names and compare it with the receipt. -/
def verify (receipt : Receipt) : Talk Bool :=
  if receipt.railId ≠ railId then return false
  else match rail.proofFromSlice receipt.proof with
    | .error _ => return false
    | .ok proof =>
      match proof.segment with
      | none => return false
      | some paymentId => do
        let parsed ← rail.getPayment paymentId
        return matchPayment receipt parsed.payment

/-- The request `verify` sends for a proof. -/
def lookupRequest : List UInt8 → Option Request :=
  Fiat.lookupRequest rail.proofFromSlice ChargeProof.segment fun paymentId =>
    rail.jsonRequest .get (paymentPath paymentId) none

theorem verify_asks {receipt : Receipt} {question : Request} :
    (rail.verify receipt).Asks question ↔
      receipt.railId = railId ∧ rail.lookupRequest receipt.proof = some question := by
  unfold verify lookupRequest
  simp only [lookupRequest_eq_some]
  by_cases named : receipt.railId = railId
  · cases decoded : rail.proofFromSlice receipt.proof with
    | error => simp [named]
    | ok proof =>
      cases safe : proof.segment with
      | none => simp [named, safe]
      | some paymentId => simp [named, safe, getPayment, Dialogue.asks_bind, eq_comm]
  · simp [named]

end SquareRail

end Patala.Fiat.Square
