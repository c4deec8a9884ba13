import Patala.Fiat.FetchedWebhooks
import Patala.Fiat.PayPalAmount

/-! What an accepted delivery guarantees at the rails that only tell of settled payments, at those
that only name what to ask about, and at those that ask the processor first: who vouches for it,
and which payment is behind the money of its event. -/

namespace Patala.Fiat

open Fallible

/-- A rail with its webhook. -/
inductive PushRail where
  | paystack (webhook : Paystack.Webhook)
  | square (webhook : Square.Webhook)
  | xendit (rail : Xendit.XenditRail) (webhookToken : String)
  | btcpay (webhook : BTCPay.Webhook)
  | lnbits (webhook : LNbits.Webhook)
  | openNode (webhook : OpenNode.Webhook)
  | mercadoPago (rail : MercadoPago.MercadoPagoRail) (webhook : MercadoPago.Webhook)
  | payPal (rail : PayPal.PayPalRail) (webhook : PayPal.Webhook)

namespace PushRail

def railId : PushRail → String
  | paystack _ => Paystack.railId
  | square _ => Square.railId
  | xendit .. => Xendit.railId
  | btcpay _ => BTCPay.railId
  | lnbits _ => LNbits.railId
  | openNode _ => OpenNode.railId
  | mercadoPago .. => MercadoPago.railId
  | payPal .. => PayPal.railId

/-- The rail's `verify_webhook`; nothing when it panics. -/
def verifyWebhook (delivery : WebhookDelivery) : PushRail → Talk (Option WebhookEvent)
  | paystack webhook => (liftM (webhook.verifyWebhook delivery) : Talk _) >>= (pure ∘ some)
  | square webhook => (liftM (webhook.verifyWebhook delivery) : Talk _) >>= (pure ∘ some)
  | xendit rail token => (liftM (rail.verifyWebhook token delivery) : Talk _) >>= (pure ∘ some)
  | btcpay webhook => (liftM (webhook.verifyWebhook delivery) : Talk _) >>= (pure ∘ some)
  | lnbits webhook => (liftM (webhook.verifyWebhook delivery) : Talk _) >>= (pure ∘ some)
  | openNode webhook => (liftM (webhook.verifyWebhook delivery) : Talk _) >>= (pure ∘ some)
  | mercadoPago rail webhook => rail.verifyWebhook webhook delivery >>= (pure ∘ some)
  | payPal rail webhook => rail.verifyWebhook webhook delivery

/-- The delivery is accepted as the event once these questions are answered. -/
def Accepts (rail : PushRail) (delivery : WebhookDelivery) (transcript : List (Request × Reply))
    (event : WebhookEvent) : Prop :=
  (rail.verifyWebhook delivery).Yields transcript (.ok (some event))

/-- Who vouches for a delivery: a signature under the configured secret, the secret itself, or
PayPal. Only Mercado Pago and PayPal are asked anything. -/
def Vouched (delivery : WebhookDelivery) (transcript : List (Request × Reply)) : PushRail → Prop
  | paystack webhook => transcript = [] ∧ webhook.secretKey ≠ "" ∧
      Spells webhook.hmacSha512 (asBytes webhook.secretKey) delivery.rawBody
        (delivery.headerOrEmpty "X-Paystack-Signature")
  | square webhook => transcript = [] ∧ webhook.signatureKey ≠ "" ∧
      webhook.base64Decode (trim (delivery.headerOrEmpty "x-square-hmacsha256-signature")) =
        some (webhook.hmacSha256 (asBytes webhook.signatureKey)
          (webhook.signedPayload delivery.rawBody))
  | xendit _ token => transcript = [] ∧ token ≠ "" ∧
      trim (delivery.headerOrEmpty "x-callback-token") = token
  | btcpay webhook => transcript = [] ∧ webhook.webhookSecret ≠ "" ∧ ∃ hexSig,
      stripPrefix "sha256=" (trim (delivery.headerOrEmpty "BTCPay-Sig")) = some hexSig ∧
      Spells webhook.hmacSha256 (asBytes webhook.webhookSecret) delivery.rawBody hexSig
  | lnbits webhook => transcript = [] ∧ webhook.webhookSecret ≠ "" ∧
      delivery.query "secret" = some webhook.webhookSecret
  | openNode webhook => transcript = [] ∧ webhook.apiKey ≠ "" ∧ ∃ body id hashedOrder,
      fromUtf8 delivery.rawBody = some body ∧ OpenNode.parseFormBody body "id" = some id ∧
      OpenNode.parseFormBody body "hashed_order" = some hashedOrder ∧
      Spells webhook.hmacSha256 (asBytes webhook.apiKey) (asBytes id) hashedOrder
  | mercadoPago rail webhook => webhook.webhookSecret ≠ "" ∧ ∃ dataId reply,
      webhook.Signed delivery dataId ∧ transcript = [(rail.jsonRequest .get
        (MercadoPago.MercadoPagoRail.paymentPath dataId) none, reply)]
  | payPal rail webhook => ∃ value token taken confirmed,
      webhook.valueFromSlice delivery.rawBody = .ok value ∧
      transcript = [(rail.tokenRequest, taken),
        (rail.jsonRequest .post PayPal.PayPalRail.verifySignaturePath
          (some (webhook.verifyBody (PayPal.PayPalRail.deliveredHeaders delivery) value)) token,
          confirmed)] ∧
      rail.readToken taken = .ok token ∧
      confirmed.decoded webhook.statusFromSlice = some "SUCCESS"

/-- The payment that the delivery tells of, or that was fetched for it, is settled for this
reference and this much, by what its own fields say. Where the amount is a text, it is as much as
the rail reads it as. -/
def Shows (delivery : WebhookDelivery) (transcript : List (Request × Reply))
    (payment reference : String) (amountMinor : UInt64) (currency : String) : PushRail → Prop
  | paystack webhook => ∃ envelope, webhook.envelopeFromSlice delivery.rawBody = .ok envelope ∧
      envelope.data.status = "success" ∧ toString envelope.data.id = payment ∧
      envelope.data.reference = reference ∧ envelope.data.amount = amountMinor ∧
      envelope.data.currency = currency
  | square webhook => ∃ envelope, webhook.envelopeFromSlice delivery.rawBody = .ok envelope ∧
      envelope.payment.status = "COMPLETED" ∧ envelope.payment.id = payment ∧
      envelope.payment.referenceId = reference ∧
      envelope.payment.amountMoney.amount = amountMinor ∧
      toAsciiUppercase (trim envelope.payment.amountMoney.currency) = currency
  | xendit rail _ => ∃ inv text, rail.invoiceFromSlice delivery.rawBody = .ok inv ∧
      (inv.status = "PAID" ∨ inv.status = "SETTLED") ∧ inv.id = payment ∧
      inv.externalId = reference ∧ inv.currency = currency ∧
      rail.xenditNumberToString inv.amountField = some text ∧
      majorStringToMinor text currency = .ok amountMinor
  | btcpay _ | lnbits _ | openNode _ => False
  | mercadoPago _ webhook => ∃ question reply pay, transcript = [(question, reply)] ∧
      reply.decoded webhook.paymentFromSlice = some pay ∧ pay.status = "approved" ∧
      toString pay.id = payment ∧ pay.externalReference = reference ∧
      toAsciiUppercase (trim pay.currencyId) = currency ∧
      majorStringToMinor pay.transactionAmount currency = .ok amountMinor
  | payPal rail webhook => ∃ capture eventId,
      webhook.Captured delivery.rawBody capture eventId ∧ capture.id = payment ∧
      capture.customId = reference ∧ toAsciiUppercase capture.amount.currencyCode = currency ∧
      PayPal.ReadsAs rail.overflowChecks capture.amount.value currency amountMinor

/-- The rail accepts no delivery but one of a settled payment. -/
def TellsPaid : PushRail → Prop
  | paystack _ | square _ | xendit .. | payPal .. => True
  | btcpay _ | lnbits _ | openNode _ | mercadoPago .. => False

/-- The id of an event is the one of its payment. -/
def PaymentKeyed : PushRail → Prop
  | paystack _ | xendit .. => True
  | _ => False

/-- The law of an accepted delivery. -/
structure Lawful (rail : PushRail) (delivery : WebhookDelivery)
    (transcript : List (Request × Reply)) (event : WebhookEvent) : Prop where
  vouched : rail.Vouched delivery transcript
  railId : event.railId = rail.railId
  eventId : event.eventId ≠ ""
  shown : event.isSettled → event.reference ≠ "" ∧ event.amountMinor ≠ 0 ∧
    ∃ payment, rail.Shows delivery transcript payment event.reference event.amountMinor
      event.currency
  moneyless : event.isSettled = false → ¬ event.CarriesMoney
  named : event.status = .unconfirmed → event.objectId ≠ ""

variable {rail : PushRail} {delivery : WebhookDelivery} {transcript : List (Request × Reply)}
  {event : WebhookEvent}

theorem yields_lift_some {α : Type} {result : Except Error α} {value : α} :
    ((liftM result : Talk α) >>= (pure ∘ some)).Yields transcript (.ok (some value)) ↔
      transcript = [] ∧ result = .ok value := by
  rw [Dialogue.yields_lift_bind_ok]
  constructor
  · intro ⟨found, same, run⟩
    obtain ⟨asked, answered⟩ := Dialogue.yields_pure.mp run
    cases answered
    exact ⟨asked, same⟩
  · intro ⟨asked, same⟩
    exact ⟨value, same, Dialogue.yields_pure.mpr ⟨asked, rfl⟩⟩

/-- The event of a payment that is shown, if it is settled, keeps the law. -/
theorem lawful_of_settlement (rail : PushRail) (vouched : rail.Vouched delivery transcript)
    {payment reference currency : String} {settled : Bool} {amountMinor : UInt64}
    (identified : payment ≠ "") (referenced : reference ≠ "")
    (positive : settled = true → amountMinor ≠ 0)
    (shown : settled = true → rail.Shows delivery transcript payment reference amountMinor currency) :
    rail.Lawful delivery transcript ((WebhookEvent.settlement rail.railId payment reference settled
      amountMinor currency).withObjectId payment) := by
  refine {
    vouched := vouched
    railId := rfl
    eventId := identified
    shown := ?_
    moneyless := ?_
    named := ?_ }
  · intro said
    cases settled with
    | true => exact ⟨referenced, positive rfl, payment, shown rfl⟩
    | false => cases said
  · intro unsettled money
    have settles : (WebhookEvent.settlement rail.railId payment reference settled amountMinor
        currency).isSettled := WebhookEvent.settlement_carriesMoney money
    exact Bool.eq_false_iff.mp unsettled settles
  · intro unconfirmed
    cases settled <;> cases unconfirmed

/-- An event of a settled payment that is complete and shown keeps the law. -/
theorem lawful_of_paid (rail : PushRail) {paid : PaidEvent}
    (vouched : rail.Vouched delivery transcript) (complete : paid.Complete)
    (objectId payment : String)
    (shown : rail.Shows delivery transcript payment paid.reference paid.amountMinor paid.currency) :
    rail.Lawful delivery transcript ((paid.event rail.railId).withObjectId objectId) where
  vouched := vouched
  railId := rfl
  eventId := complete.eventId
  shown _ := ⟨complete.reference, complete.amountMinor, payment, shown⟩
  moneyless unsettled := by cases unsettled
  named unconfirmed := by cases unconfirmed

/-- What is accepted at a rail that only tells of settled payments. -/
theorem paid_of_accepts (tells : rail.TellsPaid) (accepted : rail.Accepts delivery transcript event) :
    ∃ (paid : PaidEvent) (objectId payment : String), rail.Vouched delivery transcript ∧
      event = (paid.event rail.railId).withObjectId objectId ∧ paid.Complete ∧
      rail.Shows delivery transcript payment paid.reference paid.amountMinor paid.currency ∧
      (rail.PaymentKeyed → paid.eventId = payment) := by
  cases rail with
  | paystack webhook =>
    obtain ⟨asked, verified⟩ := yields_lift_some.mp accepted
    obtain ⟨keyed, spelled, envelope, paid, read, succeeded, same, complete, said⟩ :=
      Paystack.Webhook.verifyWebhook_ok verified
    exact ⟨paid, "", toString envelope.data.id, ⟨asked, keyed, spelled⟩, same, complete,
      ⟨envelope, read, succeeded, rfl, by rw [said], by rw [said], by rw [said]⟩,
      fun _ => by rw [said]⟩
  | square webhook =>
    obtain ⟨asked, verified⟩ := yields_lift_some.mp accepted
    obtain ⟨keyed, spelled, envelope, paid, read, -, same, complete, parsed⟩ :=
      Square.Webhook.verifyWebhook_ok verified
    obtain ⟨completed, -, -, -, said⟩ := Square.parseSquarePayment_settled parsed rfl
    simp only [Square.SquareSettlementOutcome.mk.injEq, Outcome.mk.injEq, and_true,
      true_and] at said
    obtain ⟨reference, amount, currency⟩ := said
    exact ⟨paid, _, _, ⟨asked, keyed, spelled⟩, same, complete,
      ⟨envelope, read, completed, rfl, reference.symm, amount.symm, currency.symm⟩, False.elim⟩
  | xendit rail token =>
    obtain ⟨asked, verified⟩ := yields_lift_some.mp accepted
    obtain ⟨keyed, given, inv, paid, read, settled, same, complete, identified, evaluated⟩ :=
      Xendit.XenditRail.verifyWebhook_ok verified
    obtain ⟨-, fields, text, field, worth⟩ := Xendit.XenditRail.invoiceToOutcome_paid evaluated settled
    injection fields with reference _ _ _ currency
    exact ⟨paid, "", _, ⟨asked, keyed, given⟩, same, complete, ⟨inv, text, read, settled,
      identified.symm, reference.symm, currency.symm, field, currency ▸ worth⟩, fun _ => rfl⟩
  | btcpay | lnbits | openNode | mercadoPago => cases tells
  | payPal rail webhook =>
    obtain ⟨-, value, token, taken, confirmed, paid, parsed, asked, tokened, succeeded, captured,
      same⟩ := PayPal.PayPalRail.verifyWebhook_ok accepted
    obtain ⟨complete, capture, told, reference, currency, worth⟩ :=
      PayPal.PayPalRail.readCaptureEvent_ok captured
    rw [← currency] at worth
    exact ⟨paid, "", _, ⟨value, token, taken, confirmed, parsed, asked, tokened, succeeded⟩, same,
      complete, ⟨capture, paid.eventId, told, rfl, reference.symm, currency.symm,
        PayPal.readsAs_iff.mpr worth⟩, False.elim⟩

/-- An event that only names an object keeps the law. -/
theorem lawful_of_unconfirmed (rail : PushRail) (vouched : rail.Vouched delivery transcript)
    {id : String} (named : id ≠ "") : rail.Lawful delivery transcript (.unconfirmed rail.railId id id) where
  vouched := vouched
  railId := rfl
  eventId := named
  shown settled := by cases settled
  moneyless _ money := by simp [WebhookEvent.CarriesMoney, WebhookEvent.unconfirmed] at money
  named _ := named

end PushRail

/-- Whatever is accepted, at whichever rail and with whatever answers, keeps the law. -/
theorem push_lawful (rail : PushRail) (delivery : WebhookDelivery)
    (transcript : List (Request × Reply)) (event : WebhookEvent)
    (accepted : rail.Accepts delivery transcript event) :
    rail.Lawful delivery transcript event := by
  cases rail with
  | paystack | square | xendit | payPal =>
    obtain ⟨paid, objectId, payment, vouched, rfl, complete, shown, -⟩ :=
      PushRail.paid_of_accepts (by trivial) accepted
    exact PushRail.lawful_of_paid _ vouched complete objectId payment shown
  | btcpay webhook =>
    obtain ⟨rfl, verified⟩ := PushRail.yields_lift_some.mp accepted
    obtain ⟨keyed, ⟨hexSig, stripped, spelled⟩, envelope, -, named, rfl⟩ :=
      BTCPay.Webhook.verifyWebhook_ok verified
    exact PushRail.lawful_of_unconfirmed (.btcpay webhook)
      ⟨rfl, keyed, hexSig, stripped, spelled⟩ named
  | lnbits webhook =>
    obtain ⟨rfl, verified⟩ := PushRail.yields_lift_some.mp accepted
    obtain ⟨keyed, given, envelope, -, named, rfl⟩ := LNbits.Webhook.verifyWebhook_ok verified
    exact PushRail.lawful_of_unconfirmed (.lnbits webhook) ⟨rfl, keyed, given⟩ named
  | openNode webhook =>
    obtain ⟨rfl, verified⟩ := PushRail.yields_lift_some.mp accepted
    obtain ⟨keyed, body, id, hashedOrder, text, found, named, order, spelled, rfl⟩ :=
      OpenNode.Webhook.verifyWebhook_ok verified
    exact PushRail.lawful_of_unconfirmed (.openNode webhook)
      ⟨rfl, keyed, body, id, hashedOrder, text, found, order, spelled⟩ named
  | mercadoPago rail webhook =>
    obtain ⟨handled, verified, same⟩ := Dialogue.yields_bind_pure.mp accepted
    cases handled with
    | error failure => cases same
    | ok found =>
      cases same
      obtain ⟨keyed, dataId, pay, reply, outcome, signed, asked, decoded, own, evaluated, rfl⟩ :=
        MercadoPago.MercadoPagoRail.verifyWebhook_ok verified
      obtain ⟨referenced, sameReference, -, follows⟩ :=
        MercadoPago.MercadoPagoRail.evaluatePayment_ok evaluated
      apply PushRail.lawful_of_settlement (.mercadoPago rail webhook)
        ⟨keyed, dataId, reply, signed, asked⟩ (own ▸ Flutterwave.toString_ne_empty _)
        (sameReference ▸ referenced) follows.amount_iff.mp
      intro settled
      obtain ⟨approved, reference, currency, worth⟩ :=
        MercadoPago.MercadoPagoRail.evaluatePayment_settled evaluated settled
      exact ⟨_, reply, pay, asked, decoded, approved, own, reference.symm, currency.symm, worth⟩

section Delivered

def invoiceBody : List UInt8 := asBytes ("\x7b\"id\":\"inv_1\",\"external_id\":\"ord_1\"," ++
  "\"status\":\"PAID\",\"amount\":\"10000\",\"paid_amount\":\"10000\",\"currency\":\"IDR\"\x7d")

/-- A listing of that invoice alone. -/
def invoicesBody : List UInt8 := asBytes "[" ++ invoiceBody ++ asBytes "]"

def invoice : Xendit.XenditInvoice where
  id := "inv_1"
  externalId := "ord_1"
  status := "PAID"
  amount := .string "10000"
  paidAmount := .string "10000"
  currency := "IDR"
  invoiceUrl := ""

/-- A Xendit rail, as far as it reads these bodies. -/
def invoiced : Xendit.XenditRail where
  secretKey := "xnd_development"
  currencies := ["IDR"]
  baseUrl := Xendit.xenditApiBase
  fixed6 literal := literal ++ ".000000"
  proofToBytes _ := []
  invoiceFromSlice bytes :=
    if bytes = invoiceBody then .ok invoice else .error "expected value"
  invoicesFromSlice bytes :=
    if bytes = invoicesBody then .ok [invoice] else .error "expected value"
  errorFromSlice _ := .error "expected value"

theorem invoice_read : invoiced.invoiceFromSlice invoiceBody = .ok invoice := by
  simp only [invoiced, if_true]

def invoiceDelivery : WebhookDelivery :=
  (WebhookDelivery.new invoiceBody 1700000000).withHeader "X-Callback-Token" "cb_token"

theorem invoiceDelivery_rawBody : invoiceDelivery.rawBody = invoiceBody := by
  simp only [invoiceDelivery, WebhookDelivery.withHeader_rawBody, WebhookDelivery.new]

theorem invoice_accepted : (PushRail.xendit invoiced "cb_token").Accepts invoiceDelivery []
    (.settlement Xendit.railId "inv_1" "ord_1" true 1000000 "IDR") := by
  have header : invoiceDelivery.headerOrEmpty "x-callback-token" = "cb_token" := by
    rw [WebhookDelivery.headerOrEmpty, invoiceDelivery, WebhookDelivery.header_withHeader,
      if_pos (by decide), Option.getD_some]
  have short : boundedLenCheck invoiceBody defaultMaxBodyBytes = .ok () :=
    if_neg (by decide)
  apply PushRail.yields_lift_some.mpr
  refine ⟨rfl, ?_⟩
  simp only [Xendit.XenditRail.verifyWebhook, Xendit.XenditRail.verifyAndParse, header,
    invoiceDelivery_rawBody, short,
    bind_eq_ok, ensure_eq_ok, mapError_eq_ok, exists_const]
  exact ⟨_, ⟨by decide, trivial, by decide, invoice, invoice_read, .inl rfl, ⟨"ord_1", "inv_1", true,
    1000000, "IDR"⟩, by decide, rfl⟩, rfl⟩

theorem push_lawful_invoice : (PushRail.xendit invoiced "cb_token").Lawful invoiceDelivery []
    (.settlement Xendit.railId "inv_1" "ord_1" true 1000000 "IDR") :=
  push_lawful _ _ _ _ invoice_accepted

end Delivered

end Patala.Fiat
