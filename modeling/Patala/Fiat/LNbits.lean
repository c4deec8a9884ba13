import Patala.Fiat.Http

/-! The LNbits rail: `charge` creates an invoice for a fixed amount and writes that amount
into the proof, and `verify` asks whether the invoice is paid. -/

namespace Patala.Fiat.LNbits

structure CreatePaymentResponse where
  paymentHash : String
  paymentRequest : String

structure PaymentStatus where
  paid : Bool

structure ErrorEnvelope where
  detail : String

structure ChargeProof where
  paymentHash : String
  paymentRequest : String
  amountMinor : UInt64
  currency : String
  createdAtUnix : UInt64

def malformed (detail : String) : Error := Fiat.malformed "lnbits" detail

/-- The rail, with how its messages are written and read. `jsonFloat` parses a decimal text
as a float and prints it as a JSON number. -/
structure LNbitsRail where
  baseUrl : String
  apiKey : String
  webhookUrl : Option String
  webhookSecret : String
  quoteTtlSecs : UInt64
  currencies : List String
  jsonFloat : String → Option String
  proofToBytes : ChargeProof → List UInt8
  proofFromSlice : FromSlice ChargeProof
  createFromSlice : FromSlice CreatePaymentResponse
  statusFromSlice : FromSlice PaymentStatus
  errorFromSlice : FromSlice ErrorEnvelope

def railId : String := "lnbits"

def safePathSegment (s : String) : Except Error String :=
  Fiat.safePathSegment "an lnbits payment hash" s

def urlencodingMinimal (s : String) : String := percentEncode s

/-- `paid` wins whether or not the quote has expired. -/
def verifyPaidWinsOverExpiry (paid : Bool) : Bool := if paid then true else false

namespace LNbitsRail

variable (rail : LNbitsRail)

def classifyError (status : UInt16) (body : List UInt8) : Error :=
  let message := match rail.errorFromSlice body with
    | .ok env => if env.detail = "" then "no message" else env.detail
    | .error _ => "no message"
  unexpectedStatus "lnbits" status message

/-- The request `do_json` sends. -/
def jsonRequest (method : Method) (path : String) (body : Option Json.Value) : Request where
  method := method
  url := rail.baseUrl ++ path
  query := []
  headers := [("X-Api-Key", rail.apiKey), ("Accept", "application/json")]
  basicAuth := none
  payload := body.map .json

/-- The webhook's address, with its secret behind it. -/
def webhook : Option String :=
  rail.webhookUrl.map fun url =>
    let sep := if url.toList.contains '?' then "&" else "?"
    s!"{url}{sep}secret={urlencodingMinimal rail.webhookSecret}"

def chargeBody (req : PayRequest) (currency amount : String) : Json.Value :=
  let webhook := rail.webhook.toList.map fun full => ("webhook", .string full)
  .object ([("out", .bool false), ("amount", .number amount),
    ("unit", .string (toAsciiLowercase currency)),
    ("memo", .string s!"patala order {req.reference.text}"),
    ("expiry", .number (toString rail.quoteTtlSecs.toNat))] ++ webhook)

/-- Create an invoice at a time; the amount asked for goes into the proof only. -/
def charge (now : UInt64) (req : PayRequest) : Talk Receipt := do
  req.validate
  checkCurrency railId rail.currencies req.currency
  let currency := toAsciiUppercase (trim req.currency)
  let amountStr ← (minorToMajorString req.amountMinor currency).mapError fun e =>
    Error.invalidRequest s!"lnbits: {e.toString}"
  let amount ← okOr (rail.jsonFloat amountStr)
    (.rail "lnbits: could not render amount as a number")
  let parsed ← fetch "lnbits" "/api/v1/payments"
    (rail.jsonRequest .post "/api/v1/payments" (some (rail.chargeBody req currency amount)))
    rail.classifyError rail.createFromSlice
  insist (parsed.paymentHash ≠ "" ∧ parsed.paymentRequest ≠ "")
    (malformed "empty payment_hash or payment_request")
  return {
    railId := railId
    amountMinor := 0
    currency
    reference := req.reference
    proof := rail.proofToBytes
      ⟨parsed.paymentHash, parsed.paymentRequest, req.amountMinor, currency, now⟩
    settledAtUnix := 0 }

def paymentPath (paymentHash : String) : String := s!"/api/v1/payments/{paymentHash}"

def getPayment (paymentHash : String) : Talk PaymentStatus :=
  fetch "lnbits" (paymentPath paymentHash) (rail.jsonRequest .get (paymentPath paymentHash) none)
    rail.classifyError rail.statusFromSlice

/-- Compare the proof with the receipt, then ask whether its invoice is paid. -/
def verify (receipt : Receipt) : Talk Bool :=
  if receipt.railId ≠ railId then return false
  else match rail.proofFromSlice receipt.proof with
    | .error _ => return false
    | .ok proof =>
      if !eqIgnoreAsciiCase proof.currency receipt.currency then return false
      else if proof.amountMinor < receipt.amountMinor then return false
      else do
        let paymentHash ← safePathSegment proof.paymentHash
        let parsed ← rail.getPayment paymentHash
        return verifyPaidWinsOverExpiry parsed.paid

end LNbitsRail

end Patala.Fiat.LNbits
