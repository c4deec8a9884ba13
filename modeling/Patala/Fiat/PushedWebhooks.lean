import Patala.Fiat.BTCPay
import Patala.Fiat.FormDecoders
import Patala.Fiat.LNbits
import Patala.Fiat.OfflineWebhook
import Patala.Fiat.OpenNode
import Patala.Fiat.Paystack
import Patala.Fiat.Square
import Patala.Fiat.Webhook
import Patala.Fiat.Xendit

/-! The other webhooks that need no round trip. Paystack, Square and Xendit only tell of payments
that settled; BTCPay, LNbits and OpenNode only name what to ask about. -/

namespace Patala.Fiat

open Fallible

/-- What a delivery says that is only accepted of a settled payment. -/
structure PaidEvent where
  eventId : String
  reference : String
  amountMinor : UInt64
  currency : String

def PaidEvent.event (railId : String) (event : PaidEvent) : WebhookEvent :=
  .settlement railId event.eventId event.reference true event.amountMinor event.currency

/-- The parts of a settlement are there. -/
structure PaidEvent.Complete (event : PaidEvent) : Prop where
  eventId : event.eventId ≠ ""
  reference : event.reference ≠ ""
  amountMinor : event.amountMinor ≠ 0

/-- `verify_hmac_sha256_base64` over a given MAC. -/
def verifyHmacBase64 (base64Decode : String → Option (List UInt8))
    (hmac : List UInt8 → List UInt8 → List UInt8) (secret signedPayload : List UInt8)
    (base64Signature : String) : Bool :=
  if secret = [] ∨ trim base64Signature = "" then false
  else match base64Decode (trim base64Signature) with
    | none => false
    | some expectedBytes => hmac secret signedPayload = expectedBytes

theorem verifyHmacBase64_true {base64Decode : String → Option (List UInt8)}
    {hmac : List UInt8 → List UInt8 → List UInt8} {secret signedPayload : List UInt8}
    {base64Signature : String}
    (verified : verifyHmacBase64 base64Decode hmac secret signedPayload base64Signature = true) :
    secret ≠ [] ∧ base64Decode (trim base64Signature) = some (hmac secret signedPayload) := by
  unfold verifyHmacBase64 at verified
  split at verified
  · cases verified
  rename_i present
  cases decoded : base64Decode (trim base64Signature) with
  | none =>
    rw [decoded] at verified
    cases verified
  | some expected =>
    simp only [decoded, decide_eq_true_eq] at verified
    exact ⟨fun empty => present (.inl empty), by rw [verified]⟩

namespace Paystack

structure EventData where
  id : Int64
  status : String
  reference : String
  amount : UInt64
  currency : String

structure Envelope where
  event : String
  data : EventData

inductive PaystackWebhookError where
  | missingSignature
  | invalidSignature
  | malformedResponse (detail : String)
  | unhandledEvent (eventType : String)
deriving DecidableEq

def PaystackWebhookError.toString : PaystackWebhookError → String
  | missingSignature => "payments: paystack: missing webhook signature"
  | invalidSignature => "payments: paystack: invalid webhook signature"
  | malformedResponse detail => "payments: paystack: malformed API response: " ++ detail
  | unhandledEvent eventType => "payments: unhandled webhook event type: " ++ eventType

/-- What the webhook is configured with, and how its deliveries are read. -/
structure Webhook where
  secretKey : String
  hmacSha512 : List UInt8 → List UInt8 → List UInt8
  envelopeFromSlice : FromSlice Envelope

namespace Webhook

variable (webhook : Webhook)

def verifyAndParse (rawBody : List UInt8) (signatureHeader : String) :
    Except PaystackWebhookError PaidEvent := do
  ensure (trim signatureHeader ≠ "") .missingSignature
  ensure (verifyHmacHex webhook.hmacSha512 (asBytes webhook.secretKey) rawBody
    (trim signatureHeader)) .invalidSignature
  let envelope ← (webhook.envelopeFromSlice rawBody).mapError .malformedResponse
  ensure (envelope.event = "charge.success") (.unhandledEvent envelope.event)
  ensure (envelope.data.status = "success") (.malformedResponse
    s!"charge.success event carried data.status={debugStr envelope.data.status}")
  ensure (envelope.data.reference ≠ "" ∧ envelope.data.amount ≠ 0)
    (.malformedResponse "missing reference or non-positive amount")
  -- an absent id is read as zero, and every such delivery would have the same one
  ensure (envelope.data.id ≠ 0)
    (.malformedResponse "no data.id: this delivery carries no id to deduplicate on")
  return ⟨toString envelope.data.id, envelope.data.reference, envelope.data.amount,
    envelope.data.currency⟩

def verifyWebhook (delivery : WebhookDelivery) : Except Error WebhookEvent := do
  let event ← (webhook.verifyAndParse delivery.rawBody
    (delivery.headerOrEmpty "X-Paystack-Signature")).mapError fun e => .invalidRequest e.toString
  return event.event railId

variable {webhook}

theorem verifyWebhook_ok {delivery : WebhookDelivery} {event : WebhookEvent}
    (accepted : webhook.verifyWebhook delivery = .ok event) :
    webhook.secretKey ≠ "" ∧ Spells webhook.hmacSha512 (asBytes webhook.secretKey)
        delivery.rawBody (delivery.headerOrEmpty "X-Paystack-Signature") ∧
      ∃ (envelope : Envelope) (paid : PaidEvent),
        webhook.envelopeFromSlice delivery.rawBody = .ok envelope ∧
        envelope.data.status = "success" ∧ event = paid.event railId ∧ paid.Complete ∧
        paid = ⟨toString envelope.data.id, envelope.data.reference, envelope.data.amount,
          envelope.data.currency⟩ := by
  simp only [verifyWebhook, verifyAndParse, bind_eq_ok, ensure_eq_ok, mapError_eq_ok,
    exists_const] at accepted
  obtain ⟨paid, ⟨-, verified, envelope, read, -, succeeded, present, numbered, same⟩, said⟩ :=
    accepted
  cases same
  cases said
  obtain ⟨keyed, spelled⟩ := verifyHmacHex_true verified
  rw [Spells, trim_trim] at spelled
  exact ⟨ne_empty_of_asBytes keyed, spelled, envelope, _, read, succeeded, rfl,
    ⟨Flutterwave.toString_ne_empty _, present.1, present.2⟩, rfl⟩

end Webhook

end Paystack

namespace Square

inductive SquareWebhookError where
  | missingSignature
  | invalidSignature
  | malformedResponse (detail : String)
  | responseTooLarge
  | unhandledEvent (eventType : String)
deriving DecidableEq

def SquareWebhookError.toString : SquareWebhookError → String
  | missingSignature => "payments: square: missing x-square-hmacsha256-signature header"
  | invalidSignature => "payments: square: invalid webhook signature"
  | malformedResponse detail => "payments: square: malformed API response: " ++ detail
  | responseTooLarge => "payments: square: response body exceeds size limit"
  | unhandledEvent eventType => "payments: unhandled webhook event type: " ++ eventType

structure Envelope where
  eventId : String
  eventType : String
  payment : SquarePaymentPayload

structure SquareWebhookEvent extends PaidEvent where
  paymentId : String

/-- What the webhook is configured with, and how its deliveries are read. -/
structure Webhook where
  signatureKey : String
  notificationUrl : String
  hmacSha256 : List UInt8 → List UInt8 → List UInt8
  base64Decode : String → Option (List UInt8)
  envelopeFromSlice : FromSlice Envelope

namespace Webhook

variable (webhook : Webhook)

/-- The bytes that are signed: the address of the webhook, and the body. -/
def signedPayload (rawBody : List UInt8) : List UInt8 := asBytes webhook.notificationUrl ++ rawBody

def verifyAndParse (rawBody : List UInt8) (signatureHeader : String) :
    Except SquareWebhookError SquareWebhookEvent := do
  (boundedLenCheck rawBody defaultMaxBodyBytes).mapError fun _ => .responseTooLarge
  ensure (trim signatureHeader ≠ "") .missingSignature
  ensure (verifyHmacBase64 webhook.base64Decode webhook.hmacSha256 (asBytes webhook.signatureKey)
    (webhook.signedPayload rawBody) (trim signatureHeader)) .invalidSignature
  let envelope ← (webhook.envelopeFromSlice rawBody).mapError .malformedResponse
  ensure (envelope.eventType = "payment.updated") (.unhandledEvent envelope.eventType)
  let outcome ← (parseSquarePayment envelope.payment).mapError fun e =>
    .malformedResponse e.toString
  ensure (outcome.settled = true) (.unhandledEvent "payment.updated with status!=COMPLETED")
  return {
    eventId := if envelope.eventId = "" then outcome.eventId else envelope.eventId
    reference := outcome.reference
    amountMinor := outcome.amountMinor
    currency := outcome.currency
    paymentId := envelope.payment.id }

def verifyWebhook (delivery : WebhookDelivery) : Except Error WebhookEvent := do
  let event ← (webhook.verifyAndParse delivery.rawBody
    (delivery.headerOrEmpty "x-square-hmacsha256-signature")).mapError fun e =>
      .invalidRequest e.toString
  return (event.toPaidEvent.event railId).withObjectId event.paymentId

end Webhook

/-- A payment that settles has an id, a reference and an amount. -/
theorem parseSquarePayment_settled {p : SquarePaymentPayload} {outcome : SquareSettlementOutcome}
    (read : parseSquarePayment p = .ok outcome) (settled : outcome.settled = true) :
    p.status = "COMPLETED" ∧ p.id ≠ "" ∧ p.referenceId ≠ "" ∧ p.amountMoney.amount ≠ 0 ∧
      outcome = ⟨⟨p.referenceId, true, p.amountMoney.amount,
        toAsciiUppercase (trim p.amountMoney.currency)⟩, p.id⟩ := by
  unfold parseSquarePayment at read
  dsimp only at read
  split at read
  · cases read
  rename_i named
  split at read
  · cases read
  rename_i referenced
  split at read
  · rename_i completed
    split at read
    · cases read
    rename_i positive
    cases read
    exact ⟨completed, named, referenced, positive, rfl⟩
  · cases read
    cases settled

namespace Webhook

variable {webhook : Webhook}

theorem verifyWebhook_ok {delivery : WebhookDelivery} {event : WebhookEvent}
    (accepted : webhook.verifyWebhook delivery = .ok event) :
    webhook.signatureKey ≠ "" ∧
      webhook.base64Decode (trim (delivery.headerOrEmpty "x-square-hmacsha256-signature")) =
        some (webhook.hmacSha256 (asBytes webhook.signatureKey)
          (webhook.signedPayload delivery.rawBody)) ∧
      ∃ (envelope : Envelope) (paid : PaidEvent),
        webhook.envelopeFromSlice delivery.rawBody = .ok envelope ∧
        envelope.payment.status = "COMPLETED" ∧
        event = (paid.event railId).withObjectId envelope.payment.id ∧ paid.Complete ∧
        parseSquarePayment envelope.payment =
          .ok ⟨⟨paid.reference, true, paid.amountMinor, paid.currency⟩, envelope.payment.id⟩ := by
  simp only [verifyWebhook, verifyAndParse, bind_eq_ok, ensure_eq_ok, mapError_eq_ok,
    exists_const] at accepted
  obtain ⟨parsed, ⟨-, -, -, verified, envelope, read, -, outcome, evaluated, settled, same⟩,
    said⟩ := accepted
  cases same
  cases said
  obtain ⟨keyed, spelled⟩ := verifyHmacBase64_true verified
  rw [trim_trim] at spelled
  obtain ⟨completed, named, referenced, positive, rfl⟩ := parseSquarePayment_settled evaluated settled
  refine ⟨ne_empty_of_asBytes keyed, spelled, envelope, _, read, completed, rfl, ⟨?_, referenced,
    positive⟩, evaluated⟩
  dsimp only
  split
  · exact named
  · rename_i own
    exact own

end Webhook

end Square

namespace Xendit

inductive XenditWebhookError where
  | missingToken
  | invalidToken
  | malformedResponse (detail : String)
  | unhandledEvent (eventType : String)
  | responseTooLarge
deriving DecidableEq

def XenditWebhookError.toString : XenditWebhookError → String
  | missingToken => "payments: xendit: missing x-callback-token header"
  | invalidToken => "payments: xendit: invalid x-callback-token"
  | malformedResponse detail => "payments: xendit: malformed API response: " ++ detail
  | unhandledEvent eventType => "payments: unhandled webhook event type: " ++ eventType
  | responseTooLarge => "payments: xendit: response body exceeds size limit"

namespace XenditRail

variable (rail : XenditRail) (webhookToken : String)

/-- The body is the invoice; the token, that is the same for every delivery, does not sign it. -/
def verifyAndParse (rawBody : List UInt8) (callbackTokenHeader : String) :
    Except XenditWebhookError PaidEvent := do
  ensure (trim callbackTokenHeader ≠ "") .missingToken
  (boundedLenCheck rawBody defaultMaxBodyBytes).mapError fun _ => .responseTooLarge
  ensure (PayFast.constantTimeEq (trim callbackTokenHeader) webhookToken) .invalidToken
  let inv ← (rail.invoiceFromSlice rawBody).mapError .malformedResponse
  ensure (inv.status = "PAID" ∨ inv.status = "SETTLED") (.unhandledEvent inv.status)
  let outcome ← (rail.invoiceToOutcome inv).mapError fun e => .malformedResponse e.toString
  return ⟨outcome.eventId, outcome.reference, outcome.amountMinor, outcome.currency⟩

def verifyWebhook (delivery : WebhookDelivery) : Except Error WebhookEvent := do
  let event ← (rail.verifyAndParse webhookToken delivery.rawBody
    (delivery.headerOrEmpty "x-callback-token")).mapError fun e => .invalidRequest e.toString
  return event.event railId

variable {rail webhookToken}

/-- An invoice that is paid is read as settled, with the reference, the id and the currency it
has, and for the amount in the field that counts. -/
theorem invoiceToOutcome_paid {inv : XenditInvoice} {outcome : InvoiceOutcome}
    (read : rail.invoiceToOutcome inv = .ok outcome)
    (paid : inv.status = "PAID" ∨ inv.status = "SETTLED") :
    inv.externalId ≠ "" ∧
      outcome = ⟨inv.externalId, inv.id, true, outcome.amountMinor, inv.currency⟩ ∧
      ∃ text, rail.xenditNumberToString inv.amountField = some text ∧
        majorStringToMinor text inv.currency = .ok outcome.amountMinor := by
  unfold invoiceToOutcome at read
  split at read
  · cases read
  rename_i referenced
  split at read
  · cases read
  rename_i text found
  split at read
  · cases read
  rename_i amount worth
  split at read
  · cases read
  split at read
  · cases read
  cases read
  exact ⟨referenced, rfl, text, (Option.filter_eq_some_iff.mp found).1, worth⟩

theorem verifyWebhook_ok {delivery : WebhookDelivery} {event : WebhookEvent}
    (accepted : rail.verifyWebhook webhookToken delivery = .ok event) :
    webhookToken ≠ "" ∧ trim (delivery.headerOrEmpty "x-callback-token") = webhookToken ∧
      ∃ (inv : XenditInvoice) (paid : PaidEvent),
        rail.invoiceFromSlice delivery.rawBody = .ok inv ∧
        (inv.status = "PAID" ∨ inv.status = "SETTLED") ∧ event = paid.event railId ∧
        paid.Complete ∧ paid.eventId = inv.id ∧ rail.invoiceToOutcome inv =
          .ok ⟨paid.reference, paid.eventId, true, paid.amountMinor, paid.currency⟩ := by
  simp only [verifyWebhook, verifyAndParse, bind_eq_ok, ensure_eq_ok, mapError_eq_ok,
    exists_const, PayFast.constantTimeEq_iff] at accepted
  obtain ⟨parsed, ⟨present, -, -, same, inv, read, paid, outcome, evaluated, answer⟩, said⟩ :=
    accepted
  cases answer
  cases said
  obtain ⟨referenced, fields, -⟩ := invoiceToOutcome_paid evaluated paid
  have settled : outcome.settled = true := by rw [fields]
  have reference : outcome.reference = inv.externalId := by rw [fields]
  have identified : outcome.eventId = inv.id := by rw [fields]
  obtain ⟨named, positive⟩ := invoiceToOutcome_settled evaluated settled
  refine ⟨same ▸ present, same, inv, _, read, paid, rfl, ⟨named, reference ▸ referenced, positive⟩,
    identified, ?_⟩
  rw [evaluated, ← settled]

end XenditRail

end Xendit

namespace BTCPay

inductive BTCPayWebhookError where
  | missingSignature
  | invalidSignature
  | malformedResponse (detail : String)
  | unhandledEvent (eventType : String)
deriving DecidableEq

def BTCPayWebhookError.toString : BTCPayWebhookError → String
  | missingSignature => "payments: btcpay: missing BTCPay-Sig webhook header"
  | invalidSignature => "payments: btcpay: invalid BTCPay-Sig webhook signature"
  | malformedResponse detail => "payments: btcpay: malformed API response: " ++ detail
  | unhandledEvent eventType => "payments: unhandled webhook event type: " ++ eventType

structure Envelope where
  eventType : String
  invoiceId : String

structure BTCPayWebhookEvent where
  eventId : String
  invoiceId : String

/-- What the webhook is configured with, and how its deliveries are read. -/
structure Webhook where
  webhookSecret : String
  hmacSha256 : List UInt8 → List UInt8 → List UInt8
  envelopeFromSlice : FromSlice Envelope

namespace Webhook

variable (webhook : Webhook)

def verifyAndExtract (rawBody : List UInt8) (signatureHeader : String) :
    Except BTCPayWebhookError BTCPayWebhookEvent := do
  ensure (trim signatureHeader ≠ "") .missingSignature
  let hexSig ← (stripPrefix "sha256=" (trim signatureHeader)).elim (.error .invalidSignature) .ok
  ensure (verifyHmacHex webhook.hmacSha256 (asBytes webhook.webhookSecret) rawBody hexSig)
    .invalidSignature
  let envelope ← (webhook.envelopeFromSlice rawBody).mapError .malformedResponse
  ensure ("Invoice".toList.isPrefixOf envelope.eventType.toList) (.unhandledEvent envelope.eventType)
  ensure (envelope.invoiceId ≠ "") (.malformedResponse "missing invoiceId")
  return ⟨envelope.invoiceId, envelope.invoiceId⟩

def verifyWebhook (delivery : WebhookDelivery) : Except Error WebhookEvent := do
  let event ← (webhook.verifyAndExtract delivery.rawBody
    (delivery.headerOrEmpty "BTCPay-Sig")).mapError fun e => .invalidRequest e.toString
  return .unconfirmed railId event.eventId event.invoiceId

variable {webhook}

theorem verifyWebhook_ok {delivery : WebhookDelivery} {event : WebhookEvent}
    (accepted : webhook.verifyWebhook delivery = .ok event) :
    webhook.webhookSecret ≠ "" ∧
      (∃ hexSig, stripPrefix "sha256=" (trim (delivery.headerOrEmpty "BTCPay-Sig")) = some hexSig ∧
        Spells webhook.hmacSha256 (asBytes webhook.webhookSecret) delivery.rawBody hexSig) ∧
      ∃ envelope, webhook.envelopeFromSlice delivery.rawBody = .ok envelope ∧
        envelope.invoiceId ≠ "" ∧
        event = .unconfirmed railId envelope.invoiceId envelope.invoiceId := by
  simp only [verifyWebhook, verifyAndExtract, bind_eq_ok, ensure_eq_ok, mapError_eq_ok,
    elim_eq_ok, exists_const] at accepted
  obtain ⟨parsed, ⟨-, hexSig, stripped, verified, envelope, read, -, named, same⟩, said⟩ := accepted
  cases same
  cases said
  obtain ⟨keyed, spelled⟩ := verifyHmacHex_true verified
  exact ⟨ne_empty_of_asBytes keyed, ⟨hexSig, stripped, spelled⟩, envelope, read, named, rfl⟩

end Webhook

end BTCPay

namespace LNbits

inductive LNbitsWebhookError where
  | missingSecret
  | invalidSecret
  | malformedResponse (detail : String)
deriving DecidableEq

def LNbitsWebhookError.toString : LNbitsWebhookError → String
  | missingSecret => "payments: lnbits: missing ?secret= query parameter on webhook request"
  | invalidSecret =>
    "payments: lnbits: webhook ?secret= does not match the configured webhook secret"
  | malformedResponse detail => "payments: lnbits: malformed API response: " ++ detail

/-- A delivery; a payment hash that is missing is empty. -/
structure Envelope where
  paymentHash : String

structure LNbitsWebhookEvent where
  eventId : String
  paymentHash : String

structure Webhook where
  webhookSecret : String
  envelopeFromSlice : FromSlice Envelope

namespace Webhook

variable (webhook : Webhook)

/-- Nothing is signed: the secret is part of the address that LNbits was given. -/
def verifyAndExtract (givenSecret : Option String) (rawBody : List UInt8) :
    Except LNbitsWebhookError LNbitsWebhookEvent := do
  let given ← (givenSecret.filter (· ≠ "")).elim (.error .missingSecret) .ok
  ensure (PayFast.constantTimeEq given webhook.webhookSecret) .invalidSecret
  let envelope ← (webhook.envelopeFromSlice rawBody).mapError .malformedResponse
  ensure (envelope.paymentHash ≠ "") (.malformedResponse "missing payment_hash")
  return ⟨envelope.paymentHash, envelope.paymentHash⟩

def verifyWebhook (delivery : WebhookDelivery) : Except Error WebhookEvent := do
  let event ← (webhook.verifyAndExtract (delivery.query "secret") delivery.rawBody).mapError fun e =>
    .invalidRequest e.toString
  return .unconfirmed railId event.eventId event.paymentHash

variable {webhook}

theorem verifyWebhook_ok {delivery : WebhookDelivery} {event : WebhookEvent}
    (accepted : webhook.verifyWebhook delivery = .ok event) :
    webhook.webhookSecret ≠ "" ∧ delivery.query "secret" = some webhook.webhookSecret ∧
      ∃ envelope, webhook.envelopeFromSlice delivery.rawBody = .ok envelope ∧
        envelope.paymentHash ≠ "" ∧
        event = .unconfirmed railId envelope.paymentHash envelope.paymentHash := by
  simp only [verifyWebhook, verifyAndExtract, bind_eq_ok, ensure_eq_ok, mapError_eq_ok,
    elim_eq_ok, exists_const, PayFast.constantTimeEq_iff, Option.filter_eq_some_iff,
    decide_eq_true_eq] at accepted
  obtain ⟨parsed, ⟨given, ⟨found, present⟩, same, envelope, read, named, answer⟩, said⟩ := accepted
  cases answer
  cases said
  exact ⟨same ▸ present, same ▸ found, envelope, read, named, rfl⟩

end Webhook

end LNbits

namespace OpenNode

inductive OpenNodeWebhookError where
  | missingSignature
  | invalidSignature
  | malformedResponse (detail : String)
deriving DecidableEq

def OpenNodeWebhookError.toString : OpenNodeWebhookError → String
  | missingSignature => "payments: opennode: missing hashed_order in webhook callback"
  | invalidSignature => "payments: opennode: invalid hashed_order in webhook callback"
  | malformedResponse detail => "payments: opennode: malformed API response: " ++ detail

structure OpenNodeWebhookEvent where
  eventId : String
  chargeId : String

structure Webhook where
  apiKey : String
  hmacSha256 : List UInt8 → List UInt8 → List UInt8

namespace Webhook

variable (webhook : Webhook)

/-- Only the id of the charge is signed. -/
def verifyAndExtract (form : String → Option String) :
    Except OpenNodeWebhookError OpenNodeWebhookEvent := do
  let id := (form "id").getD ""
  ensure (id ≠ "") (.malformedResponse "missing id")
  let hashedOrder := (form "hashed_order").getD ""
  ensure (hashedOrder ≠ "") .missingSignature
  ensure (verifyHmacHex webhook.hmacSha256 (asBytes webhook.apiKey) (asBytes id) hashedOrder)
    .invalidSignature
  return ⟨id, id⟩

def verifyWebhook (delivery : WebhookDelivery) : Except Error WebhookEvent := do
  let body ← (fromUtf8 delivery.rawBody).elim
    (.error (.invalidRequest "opennode: webhook body is not valid UTF-8")) .ok
  let event ← (webhook.verifyAndExtract (parseFormBody body)).mapError fun e =>
    .invalidRequest e.toString
  return .unconfirmed railId event.eventId event.chargeId

variable {webhook}

theorem verifyWebhook_ok {delivery : WebhookDelivery} {event : WebhookEvent}
    (accepted : webhook.verifyWebhook delivery = .ok event) :
    webhook.apiKey ≠ "" ∧ ∃ body id hashedOrder, fromUtf8 delivery.rawBody = some body ∧
      parseFormBody body "id" = some id ∧ id ≠ "" ∧
      parseFormBody body "hashed_order" = some hashedOrder ∧
      Spells webhook.hmacSha256 (asBytes webhook.apiKey) (asBytes id) hashedOrder ∧
      event = .unconfirmed railId id id := by
  simp only [verifyWebhook, verifyAndExtract, bind_eq_ok, ensure_eq_ok, mapError_eq_ok,
    elim_eq_ok, exists_const] at accepted
  obtain ⟨body, text, parsed, ⟨named, signed, verified, same⟩, said⟩ := accepted
  cases same
  cases said
  obtain ⟨keyed, spelled⟩ := verifyHmacHex_true verified
  cases found : parseFormBody body "id" with
  | none => simp [found] at named
  | some id =>
    cases order : parseFormBody body "hashed_order" with
    | none => simp [order] at signed
    | some hashedOrder =>
      simp only [found, order, Option.getD_some] at named spelled ⊢
      exact ⟨ne_empty_of_asBytes keyed, body, id, hashedOrder, text, found, named, order, spelled,
        rfl⟩

end Webhook

end OpenNode

end Patala.Fiat
