import Patala.Fiat.Adyen
import Patala.Fiat.Refund

/-! The Adyen rail: `charge` opens a payment link, which cannot be looked up by an order's reference,
so that `verify` is not supported. A refund needs the id a webhook told, written into the proof. -/

namespace Patala.Fiat.Adyen

def adyenNonIsoStandard : List String := ["CLP", "CVE", "IDR", "ISK"]

def unsupportedCurrency (cur : String) : Error :=
  .invalidRequest (s!"adyen: {cur} needs Adyen's non-ISO-standard minor-unit handling, which this " ++
    "adapter has not verified precisely; refusing rather than guessing")

def adyenAmount (amountMinor : UInt64) (currency : String) : Except Error UInt64 :=
  let cur := toAsciiUppercase (trim currency)
  if contains adyenNonIsoStandard cur then .error (unsupportedCurrency cur) else .ok amountMinor

def malformed (detail : String) : Error := Fiat.malformed "adyen" detail

structure PaymentLinkResponse where
  id : String
  url : String

structure AdyenErrorEnvelope where
  errorCode : String
  message : String

/-- The id of the payment is not known when the link is opened. -/
structure ChargeProof where
  paymentLinkId : String
  pspReference : Option String
  redirectUrl : Option String

/-- The payment a proof names, once a webhook told it. -/
def ChargeProof.paid (proof : ChargeProof) : Option String :=
  proof.pspReference.filter fun s => trim s ≠ ""

structure RefundProof where
  refundPspReference : String
  statusAtRefund : String

structure RefundResponse where
  pspReference : String
  status : String

/-- The rail, with how its messages are written and read. -/
structure AdyenRail where
  apiKey : String
  merchantAccount : String
  currencies : List String
  baseUrl : String
  proofToBytes : ChargeProof → List UInt8
  proofFromSlice : FromSlice ChargeProof
  refundProofToBytes : RefundProof → List UInt8
  linkFromSlice : FromSlice PaymentLinkResponse
  refundFromSlice : FromSlice RefundResponse
  errorFromSlice : FromSlice AdyenErrorEnvelope

def safePathSegment (s : String) : Except Error String := Fiat.safePathSegment "an adyen id" s

namespace AdyenRail

variable (rail : AdyenRail)

def classifyError (status : UInt16) (body : List UInt8) : Error :=
  let env := (rail.errorFromSlice body).toOption.getD ⟨"", ""⟩
  let msg := if env.message = "" then "no message" else env.message
  unexpectedStatus "adyen" status s!"{msg} (errorCode={env.errorCode})"

/-- The request `do_json` sends. -/
def jsonRequest (method : Method) (path : String) (body : Option Json.Value) : Request where
  method := method
  url := rail.baseUrl ++ path
  query := []
  headers := [("X-API-Key", rail.apiKey), ("Content-Type", "application/json"),
    ("Accept", "application/json")]
  basicAuth := none
  payload := body.map .json

def amountBody (currency : String) (amount : UInt64) : Json.Value :=
  .object [("value", .number (toString amount.toNat)), ("currency", .string currency)]

def chargeBody (req : PayRequest) (currency : String) (amount : UInt64) : Json.Value :=
  .object [("amount", amountBody currency amount), ("reference", .string req.reference.text),
    ("returnUrl", .string req.destination.text), ("merchantAccount", .string rail.merchantAccount)]

/-- Open a payment link for a request; its receipt claims no amount yet. -/
def charge (req : PayRequest) : Talk Receipt := do
  req.validate
  checkCurrency railId rail.currencies req.currency
  let currency := toAsciiUppercase (trim req.currency)
  let amount ← adyenAmount req.amountMinor currency
  let parsed ← fetch "adyen" "/paymentLinks"
    (rail.jsonRequest .post "/paymentLinks" (some (rail.chargeBody req currency amount)))
    rail.classifyError rail.linkFromSlice
  insist (parsed.id ≠ "" ∧ parsed.url ≠ "") (malformed "empty payment link id or url")
  return {
    railId := railId
    amountMinor := 0
    currency
    reference := req.reference
    proof := rail.proofToBytes ⟨parsed.id, none, some parsed.url⟩
    settledAtUnix := 0 }

/-- A payment link does not tell whether it was paid. -/
def verify (_receipt : Receipt) : Talk Bool :=
  .done (.error (.unsupported ("verify (Adyen's Pay by Link resource cannot be looked up by " ++
    "merchant reference; rely on the AUTHORISATION webhook via " ++
    "crate::adyen::webhook::verify_and_parse as the authoritative settlement signal)")))

def refundPath (pspReference : String) : String := s!"/payments/{pspReference}/refunds"

def refundBody (receipt : Receipt) (currency : String) (amount : UInt64) : Json.Value :=
  .object [("amount", amountBody currency amount),
    ("merchantAccount", .string rail.merchantAccount), ("reference", .string receipt.reference.text)]

def refundRequest (receipt : Receipt) (pspReference currency : String) (amount : UInt64) : Request :=
  rail.jsonRequest .post (refundPath pspReference) (some (rail.refundBody receipt currency amount))

/-- Ask for the payment the proof names to be refunded; whether it is stays open. -/
def refund (receipt : Receipt) : Talk Receipt := do
  insist (receipt.railId = railId) (foreignReceipt receipt.railId railId)
  let proof ← okOr (rail.proofFromSlice receipt.proof).toOption
    (.invalidRequest "receipt proof is not an adyen charge proof")
  let named ← okOr proof.paid (.rail ("adyen: receipt has no psp_reference -- refund " ++
    "requires a receipt whose proof was updated from a verified AUTHORISATION webhook (see " ++
    "proof.rs module docs)"))
  let pspReference ← safePathSegment named
  let currency := toAsciiUppercase (trim receipt.currency)
  let amount ← adyenAmount receipt.amountMinor currency
  let parsed ← fetch "adyen" (refundPath pspReference)
    (rail.refundRequest receipt pspReference currency amount) rail.classifyError rail.refundFromSlice
  return {
    railId := railId
    amountMinor := 0
    currency
    reference := receipt.reference
    proof := rail.refundProofToBytes ⟨parsed.pspReference, parsed.status⟩
    settledAtUnix := 0 }

end AdyenRail

end Patala.Fiat.Adyen
