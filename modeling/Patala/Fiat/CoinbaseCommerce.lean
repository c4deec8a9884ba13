import Patala.Fiat.Http
import Patala.Fiat.Webhook
import Patala.Lib.Codec
import Patala.Lib.Fallible

/-! Coinbase Commerce's webhook: an HMAC over the body. Of the body only the charge it names is
taken, and whether that charge is paid is left to be asked for. -/

namespace Patala.Fiat.CoinbaseCommerce

inductive CoinbaseCommerceWebhookError where
  | missingSignature
  | invalidSignature
  | malformedResponse (detail : String)
  | unhandledEvent (eventType : String)
deriving DecidableEq

def CoinbaseCommerceWebhookError.toString : CoinbaseCommerceWebhookError → String
  | missingSignature => "payments: coinbasecommerce: missing X-CC-Webhook-Signature header"
  | invalidSignature => "payments: coinbasecommerce: invalid X-CC-Webhook-Signature"
  | malformedResponse detail => s!"payments: coinbasecommerce: malformed API response: {detail}"
  | unhandledEvent eventType => s!"payments: unhandled webhook event type: {eventType}"

structure CoinbaseCommerceWebhookEvent where
  eventId : String
  chargeId : String
deriving DecidableEq

structure EventData where
  id : String
deriving DecidableEq

structure Event where
  eventType : String
  data : EventData
deriving DecidableEq

structure Envelope where
  event : Event
deriving DecidableEq

/-- What the webhook needs of the rail: its secret, the digest and how a body is read. -/
structure CoinbaseCommerceRail where
  webhookSecret : String
  hmacSha256 : List UInt8 → List UInt8 → List UInt8
  envelopeFromSlice : FromSlice Envelope

def railId : String := "coinbasecommerce"

/-- `event_type.starts_with("charge:")`. -/
def isChargeEvent (eventType : String) : Bool := "charge:".toList.isPrefixOf eventType.toList

namespace CoinbaseCommerceRail

variable (rail : CoinbaseCommerceRail)

def verifyHmacSha256Hex (secret signedPayload : List UInt8) (hexSignature : String) : Bool :=
  if secret = [] ∨ trim hexSignature = "" then false
  else match Codec.hexDecode (trim hexSignature) with
    | none => false
    | some expectedBytes => rail.hmacSha256 secret signedPayload = expectedBytes

def verifyAndExtract (rawBody : List UInt8) (signatureHeader : String) :
    Except CoinbaseCommerceWebhookError CoinbaseCommerceWebhookEvent :=
  let signatureHeader := trim signatureHeader
  if signatureHeader = "" then .error .missingSignature
  else if !rail.verifyHmacSha256Hex (asBytes rail.webhookSecret) rawBody signatureHeader then
    .error .invalidSignature
  else match rail.envelopeFromSlice rawBody with
    | .error e => .error (.malformedResponse e)
    | .ok envelope =>
      if !isChargeEvent envelope.event.eventType then
        .error (.unhandledEvent envelope.event.eventType)
      else if envelope.event.data.id = "" then
        .error (.malformedResponse "missing event.data.id")
      else .ok ⟨envelope.event.data.id, envelope.event.data.id⟩

def verifyWebhook (delivery : WebhookDelivery) : Except Error WebhookEvent := do
  let event ← (rail.verifyAndExtract delivery.rawBody
    (delivery.headerOrEmpty "X-CC-Webhook-Signature")).mapError fun e =>
      Error.invalidRequest e.toString
  return .unconfirmed railId event.eventId event.chargeId

/-- An accepted delivery says nothing but which charge it is about. -/
theorem verifyWebhook_ok {delivery : WebhookDelivery} {event : WebhookEvent}
    (accepted : rail.verifyWebhook delivery = .ok event) :
    ∃ envelope, rail.envelopeFromSlice delivery.rawBody = .ok envelope ∧
      event = .unconfirmed railId envelope.event.data.id envelope.event.data.id := by
  obtain ⟨parsed, parsing, written⟩ := Fallible.bind_eq_ok.mp accepted
  have checked := Fallible.mapError_eq_ok.mp parsing
  unfold verifyAndExtract at checked
  by_cases unsigned : trim (delivery.headerOrEmpty "X-CC-Webhook-Signature") = ""
  · simp [unsigned] at checked
  by_cases signed : rail.verifyHmacSha256Hex (asBytes rail.webhookSecret) delivery.rawBody
      (trim (delivery.headerOrEmpty "X-CC-Webhook-Signature"))
  · cases read : rail.envelopeFromSlice delivery.rawBody with
    | error => simp [unsigned, signed, read] at checked
    | ok envelope =>
      by_cases handled : isChargeEvent envelope.event.eventType
      · by_cases unnamed : envelope.event.data.id = ""
        · simp [unsigned, signed, read, handled, unnamed] at checked
        · simp only [unsigned, signed, read, handled, unnamed, ↓reduceIte, Bool.not_true,
            Bool.false_eq_true, Except.ok.injEq] at checked
          cases written
          exact ⟨envelope, rfl, by rw [← checked]⟩
      · simp [unsigned, signed, read, handled] at checked
  · simp [unsigned, signed] at checked

end CoinbaseCommerceRail

end Patala.Fiat.CoinbaseCommerce
