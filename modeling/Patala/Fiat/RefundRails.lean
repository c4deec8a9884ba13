import Patala.Fiat.AdyenRail
import Patala.Fiat.Square
import Patala.Fiat.Stripe

/-! The refunds of the rails that name a payment by another id than the one they opened: Stripe
looks the payment up in its session first, Square needs a proof its webhook resolved. -/

namespace Patala.Fiat

namespace Stripe

structure RefundResponse where
  id : String
  status : String
  amount : UInt64
  currency : String

structure RefundProof where
  refundId : String
  statusAtRefund : String

/-- The payment of a session, once there is one. -/
def StripeSessionPayload.payment (session : StripeSessionPayload) : Option String :=
  session.paymentIntent.filter fun s => trim s ≠ ""

namespace StripeRail

variable (rail : StripeRail)

def refundRequest (paymentIntent : String) : Request :=
  rail.formRequest .post "/refunds" (some [("payment_intent", paymentIntent)]) none

/-- Only `succeeded` moved money back. -/
def givenBack (parsed : RefundResponse) (currency : String) : Except Error UInt64 :=
  if parsed.status = "succeeded" then stripeAmountToMinor parsed.amount currency else .ok 0

/-- Refund the payment of the session the proof names, all of it. -/
def refund (refundFromSlice : FromSlice RefundResponse) (toBytes : RefundProof → List UInt8)
    (now : UInt64) (receipt : Receipt) : Talk Receipt := do
  insist (receipt.railId = railId) (foreignReceipt receipt.railId railId)
  let proof ← okOr (rail.proofFromSlice receipt.proof).toOption (notAChargeProof "stripe")
  let sessionId ← safePathSegment proof.sessionId
  let session ← rail.getSession sessionId
  let paymentIntent ← okOr session.payment
    (.rail "stripe: session has no payment_intent to refund (payment not completed)")
  let parsed ← fetch "stripe" "/refunds" (rail.refundRequest paymentIntent) rail.classifyError
    refundFromSlice
  let currency := toAsciiUppercase (trim parsed.currency)
  let amountMinor ← givenBack parsed currency
  return {
    railId := railId
    amountMinor
    currency
    reference := receipt.reference
    proof := toBytes ⟨parsed.id, parsed.status⟩
    settledAtUnix := now }

end StripeRail

end Stripe

namespace Square

structure RefundMoney where
  amount : UInt64
  currency : String

structure RefundEntity where
  id : String
  status : String
  amountMoney : RefundMoney

structure RefundResponse where
  refund : RefundEntity

namespace SquareRail

variable (rail : SquareRail)

def refundBody (receipt : Receipt) (paymentId : String) : Json.Value :=
  .object [("idempotency_key", .string s!"refund:{receipt.reference.text}"),
    ("amount_money", .object [("amount", .number (toString receipt.amountMinor.toNat)),
      ("currency", .string receipt.currency)]),
    ("payment_id", .string paymentId)]

def refundRequest (receipt : Receipt) (paymentId : String) : Request :=
  rail.jsonRequest .post "/v2/refunds" (some (refundBody receipt paymentId))

/-- Only `COMPLETED` moved money back. -/
def givenBack (parsed : RefundResponse) : UInt64 :=
  if parsed.refund.status = "COMPLETED" then parsed.refund.amountMoney.amount else 0

/-- Refund the payment the proof was resolved to. -/
def refund (refundFromSlice : FromSlice RefundResponse) (now : UInt64) (receipt : Receipt) :
    Talk Receipt := do
  insist (receipt.railId = railId) (foreignReceipt receipt.railId railId)
  let proof ← okOr (rail.proofFromSlice receipt.proof).toOption (notAChargeProof "square")
  let named ← okOr proof.paymentId (.invalidRequest ("square: receipt has no resolved payment_id " ++
    "-- cannot refund a payment whose id was never learned (see proof.rs's module docs)"))
  let paymentId ← safePathSegment named
  let parsed ← fetch "square" "/v2/refunds" (rail.refundRequest receipt paymentId)
    rail.classifyError refundFromSlice
  insist (parsed.refund.id ≠ "") (malformed "empty refund id")
  let currency := toAsciiUppercase (trim parsed.refund.amountMoney.currency)
  return {
    railId := railId
    amountMinor := givenBack parsed
    currency := if currency = "" then receipt.currency else currency
    reference := receipt.reference
    proof := []
    settledAtUnix := now }

end SquareRail

end Square

end Patala.Fiat
