import Patala.Fiat.MercadoPago
import Patala.Fiat.PayFastSignature
import Patala.Fiat.PayPal
import Patala.Fiat.PushedWebhooks

/-! The webhooks that ask the processor before they believe a delivery: Mercado Pago fetches the
payment that a signed manifest names, PayPal has the delivery itself verified, and PayFast has the
notification it received sent back and confirmed. -/

namespace Patala.Fiat

open Fallible

theorem exchange_ok {label path : String} {request : Request} {answer : List UInt8 × UInt16}
    {transcript : List (Request × Reply)} :
    (exchange label path request).Yields transcript (.ok answer) ↔
      ∃ reply, transcript = [(request, reply)] ∧ readReply label path reply = .ok answer := by
  show (Dialogue.once request (readReply label path)).Yields transcript (.ok answer) ↔ _
  simp only [Dialogue.yields_once, eq_comm]

theorem accepted_eq_some (label path : String) {reply : Reply} {body : List UInt8} :
    reply.accepted = some body ↔
      ∃ status, readReply label path reply = .ok (body, status) ∧ isSuccess status = true := by
  cases reply with
  | sendFailed => simp [readReply, Reply.accepted]
  | bodyFailed => simp [readReply, Reply.accepted]
  | answered status bytes =>
    by_cases long : defaultMaxBodyBytes < bytes.length
    · simp [readReply, boundedLenCheck, Reply.accepted, long]
    · have short : bytes.length ≤ defaultMaxBodyBytes := Nat.le_of_not_lt long
      simp [readReply, boundedLenCheck, Reply.accepted, long, short, and_comm]

namespace MercadoPago

inductive MercadoPagoWebhookError where
  | missingSignature
  | invalidSignature
  | malformedResponse (detail : String)
  | unhandledEvent (eventType : String)
deriving DecidableEq

def MercadoPagoWebhookError.toString : MercadoPagoWebhookError → String
  | missingSignature => "payments: mercadopago: missing x-signature/x-request-id headers"
  | invalidSignature => "payments: mercadopago: invalid webhook signature"
  | malformedResponse detail => "payments: mercadopago: malformed API response: " ++ detail
  | unhandledEvent eventType => "payments: unhandled webhook event type: " ++ eventType

structure Envelope where
  eventType : String
  dataId : String

/-- What the webhook needs besides the rail. -/
structure Webhook where
  webhookSecret : String
  hmacSha256 : List UInt8 → List UInt8 → List UInt8
  envelopeFromSlice : FromSlice Envelope
  paymentFromSlice : FromSlice Payment

/-- The timestamp and the signature of a header, the last of each. -/
def parseSignatureHeader (header : String) : Option (String × String) :=
  let pairs := (header.toList.splitOn ',').filterMap fun part =>
    (Stripe.splitOnce (trim (String.ofList part))).map fun pair => (trim pair.1, trim pair.2)
  match lastValue pairs "ts", lastValue pairs "v1" with
  | some ts, some v1 => if ts ≠ "" ∧ v1 ≠ "" then some (ts, v1) else none
  | _, _ => none

def manifest (dataId requestId ts : String) : String :=
  s!"id:{dataId};request-id:{requestId};ts:{ts};"

namespace Webhook

variable (webhook : Webhook)

def verifySignatureAndExtractId (rawBody : List UInt8) (xSignature xRequestId : String) :
    Except MercadoPagoWebhookError String := do
  ensure (trim xSignature ≠ "" ∧ trim xRequestId ≠ "") .missingSignature
  let envelope ← (webhook.envelopeFromSlice rawBody).mapError .malformedResponse
  ensure (envelope.dataId ≠ "") (.malformedResponse "missing data.id")
  let (ts, v1) ← (parseSignatureHeader (trim xSignature)).elim (.error .invalidSignature) .ok
  ensure (verifyHmacHex webhook.hmacSha256 (asBytes webhook.webhookSecret)
    (asBytes (manifest envelope.dataId (trim xRequestId) ts)) v1) .invalidSignature
  ensure (envelope.eventType = "payment") (.unhandledEvent envelope.eventType)
  return envelope.dataId

/-- The headers sign the id under the secret. -/
def Signed (delivery : WebhookDelivery) (dataId : String) : Prop :=
  ∃ ts v1, parseSignatureHeader (trim (delivery.headerOrEmpty "x-signature")) = some (ts, v1) ∧
    Spells webhook.hmacSha256 (asBytes webhook.webhookSecret)
      (asBytes (manifest dataId (trim (delivery.headerOrEmpty "x-request-id")) ts)) v1

end Webhook

namespace MercadoPagoRail

variable (rail : MercadoPagoRail) (webhook : Webhook)

def paymentPath (dataId : String) : String := s!"/v1/payments/{dataId}"

/-- Fetch the payment that a delivery names; it has to be the one that was named. -/
def handleWebhook (rawBody : List UInt8) (xSignature xRequestId : String) :
    Talk PaymentOutcome := do
  let dataId ← (webhook.verifySignatureAndExtractId rawBody xSignature xRequestId).mapError fun e =>
    Error.invalidRequest e.toString
  let pay ← fetch "mercadopago" (paymentPath dataId) (rail.jsonRequest .get (paymentPath dataId) none)
    rail.classifyError webhook.paymentFromSlice
  insist (toString pay.id = dataId) (malformed
    (s!"fetched payment id {pay.id} does not match webhook data.id " ++ debugStr dataId))
  let outcome ← evaluatePayment pay
  return outcome

def verifyWebhook (delivery : WebhookDelivery) : Talk WebhookEvent := do
  let event ← rail.handleWebhook webhook delivery.rawBody (delivery.headerOrEmpty "x-signature")
    (delivery.headerOrEmpty "x-request-id")
  return (WebhookEvent.settlement railId event.eventId event.reference event.settled
    event.amountMinor event.currency).withObjectId event.eventId

variable {rail webhook}

/-- A payment is read with its reference and its id; it settles when it is approved, and then it
has an amount. -/
theorem evaluatePayment_ok {p : Payment} {outcome : PaymentOutcome}
    (read : evaluatePayment p = .ok outcome) :
    p.externalReference ≠ "" ∧ outcome.reference = p.externalReference ∧
      outcome.eventId = toString p.id ∧
      FollowsStatus outcome.settled outcome.amountMinor (p.status = "approved") := by
  unfold evaluatePayment at read
  split at read
  · cases read
  rename_i named
  obtain ⟨minor, -, read⟩ := bind_eq_ok.mp read
  split at read
  · rename_i approved
    split at read
    · cases read
    rename_i empty
    cases read
    exact ⟨named, rfl, rfl, by simp [approved], by simp [(not_or.mp empty).1]⟩
  · rename_i other
    cases read
    exact ⟨named, rfl, rfl, by simp [other], by simp⟩

/-- A payment that settles is approved, and read with its reference, currency and amount. -/
theorem evaluatePayment_settled {p : Payment} {outcome : PaymentOutcome}
    (read : evaluatePayment p = .ok outcome) (settled : outcome.settled = true) :
    p.status = "approved" ∧ outcome.reference = p.externalReference ∧
      outcome.currency = toAsciiUppercase (trim p.currencyId) ∧
      majorStringToMinor p.transactionAmount outcome.currency = .ok outcome.amountMinor := by
  unfold evaluatePayment at read
  split at read
  · cases read
  obtain ⟨minor, worth, read⟩ := bind_eq_ok.mp read
  split at read
  · rename_i approved
    split at read
    · cases read
    cases read
    exact ⟨approved, rfl, rfl, mapError_eq_ok.mp worth⟩
  · cases read
    cases settled

theorem verifyWebhook_ok {delivery : WebhookDelivery} {event : WebhookEvent}
    {transcript : List (Request × Reply)}
    (accepted : (rail.verifyWebhook webhook delivery).Yields transcript (.ok event)) :
    webhook.webhookSecret ≠ "" ∧ ∃ dataId pay reply outcome, webhook.Signed delivery dataId ∧
      transcript = [(rail.jsonRequest .get (paymentPath dataId) none, reply)] ∧
      reply.decoded webhook.paymentFromSlice = some pay ∧ toString pay.id = dataId ∧
      evaluatePayment pay = .ok outcome ∧
      event = (WebhookEvent.settlement railId dataId outcome.reference outcome.settled
        outcome.amountMinor outcome.currency).withObjectId dataId := by
  obtain ⟨outcome, handled, same⟩ := Dialogue.yields_bind_pure.mp accepted
  cases outcome with
  | error error => cases same
  | ok outcome =>
    cases same
    simp only [handleWebhook, Dialogue.yields_lift_bind_ok, fetch_eq_once,
      Dialogue.yields_once_bind_ok, Reply.read_eq_ok, insist_ok_iff, mapError_eq_ok,
      Webhook.verifySignatureAndExtractId, bind_eq_ok, ensure_eq_ok, elim_eq_ok, exists_const,
      Dialogue.yields_lift] at handled
    obtain ⟨dataId, ⟨-, envelope, -, -, ⟨ts, v1⟩, parsed, verified, -, named⟩, reply, pay, later,
      asked, decoded, same, rfl, read⟩ := handled
    cases named
    obtain ⟨keyed, spelled⟩ := verifyHmacHex_true verified
    obtain ⟨-, -, identified, -⟩ := evaluatePayment_ok read.symm
    refine ⟨ne_empty_of_asBytes keyed, envelope.dataId, pay, reply, outcome,
      ⟨ts, v1, parsed, spelled⟩, asked, decoded, same, read.symm, ?_⟩
    dsimp only
    rw [identified, same]

end MercadoPagoRail

end MercadoPago

namespace PayPal

inductive PayPalWebhookError where
  | missingSignatureHeaders
  | invalidSignature
  | unexpectedStatus (detail : String)
  | malformedResponse (detail : String)
  | unhandledEvent (eventType : String)
deriving DecidableEq

def PayPalWebhookError.toString : PayPalWebhookError → String
  | missingSignatureHeaders => "payments: paypal: missing one or more PAYPAL-TRANSMISSION-* headers"
  | invalidSignature => "payments: paypal: webhook signature verification failed"
  | unexpectedStatus detail => "payments: paypal: unexpected API response status: " ++ detail
  | malformedResponse detail => "payments: paypal: malformed API response: " ++ detail
  | unhandledEvent eventType => "payments: unhandled webhook event type: " ++ eventType

/-- A check that could not be made is the rail's error, all else is the delivery's. -/
def PayPalWebhookError.error : PayPalWebhookError → Error
  | unexpectedStatus detail => .rail (unexpectedStatus detail).toString
  | other => .invalidRequest other.toString

structure PayPalWebhookHeaders where
  transmissionId : String
  transmissionTime : String
  certUrl : String
  authAlgo : String
  transmissionSig : String

def PayPalWebhookHeaders.allPresent (headers : PayPalWebhookHeaders) : Prop :=
  headers.transmissionId ≠ "" ∧ headers.transmissionTime ≠ "" ∧ headers.certUrl ≠ "" ∧
    headers.authAlgo ≠ "" ∧ headers.transmissionSig ≠ ""

instance (headers : PayPalWebhookHeaders) : Decidable headers.allPresent :=
  inferInstanceAs (Decidable (_ ∧ _))

structure WebhookEnvelope where
  id : String
  eventType : String
  resource : Json.Value

structure CaptureResource where
  id : String
  status : String
  customId : String
  amount : CaptureAmount

structure ParsedCaptureEvent where
  eventId : String
  customId : String
  currencyCode : String
  value : String

/-- What the webhook needs besides the rail. -/
structure Webhook where
  webhookId : String
  valueFromSlice : FromSlice Json.Value
  /-- The verification status of a reply; it is empty when it is missing. -/
  statusFromSlice : FromSlice String
  envelopeFromSlice : FromSlice WebhookEnvelope
  captureFromValue : Json.Value → Except String CaptureResource

namespace Webhook

variable (webhook : Webhook)

/-- Only a completed capture is read, and only when its own status says so too. -/
def parseCaptureCompleted (rawBody : List UInt8) : Except PayPalWebhookError ParsedCaptureEvent := do
  let envelope ← (webhook.envelopeFromSlice rawBody).mapError .malformedResponse
  ensure (envelope.eventType = "PAYMENT.CAPTURE.COMPLETED") (.unhandledEvent envelope.eventType)
  let capture ← (webhook.captureFromValue envelope.resource).mapError fun e =>
    .malformedResponse ("event resource: " ++ e)
  ensure (capture.status = "COMPLETED") (.malformedResponse
    s!"PAYMENT.CAPTURE.COMPLETED event carried resource.status={debugStr capture.status}")
  ensure (capture.customId ≠ "")
    (.malformedResponse "capture resource has no custom_id to reconcile against")
  let eventId := if envelope.id ≠ "" then envelope.id else capture.id
  ensure (eventId ≠ "") (.malformedResponse
    "neither the event nor the capture resource has an id to deduplicate on")
  return ⟨eventId, capture.customId, capture.amount.currencyCode, capture.amount.value⟩

def verifyBody (headers : PayPalWebhookHeaders) (event : Json.Value) : Json.Value :=
  .object [("transmission_id", .string headers.transmissionId),
    ("transmission_time", .string headers.transmissionTime),
    ("cert_url", .string headers.certUrl), ("auth_algo", .string headers.authAlgo),
    ("transmission_sig", .string headers.transmissionSig),
    ("webhook_id", .string webhook.webhookId), ("webhook_event", event)]

/-- The body is of a completed capture, told of under the event's id. -/
def Captured (rawBody : List UInt8) (capture : CaptureResource) (eventId : String) : Prop :=
  ∃ envelope, webhook.envelopeFromSlice rawBody = .ok envelope ∧
    webhook.captureFromValue envelope.resource = .ok capture ∧ capture.status = "COMPLETED" ∧
    eventId = if envelope.id ≠ "" then envelope.id else capture.id

variable {webhook}

theorem parseCaptureCompleted_ok {rawBody : List UInt8} {parsed : ParsedCaptureEvent}
    (accepted : webhook.parseCaptureCompleted rawBody = .ok parsed) :
    parsed.eventId ≠ "" ∧ ∃ capture, webhook.Captured rawBody capture parsed.eventId ∧
      capture.customId ≠ "" ∧ parsed = ⟨parsed.eventId, capture.customId,
        capture.amount.currencyCode, capture.amount.value⟩ := by
  simp only [parseCaptureCompleted, bind_eq_ok, mapError_eq_ok, ensure_eq_ok,
    exists_const] at accepted
  obtain ⟨envelope, read, -, capture, decoded, completed, referenced, named, same⟩ := accepted
  cases same
  exact ⟨named, capture, ⟨envelope, read, decoded, completed, rfl⟩, referenced, rfl⟩

end Webhook

/-- A failure of the rail's own requests is one of the check. -/
def unchecked (talk : Talk α) : Talk α := do
  match ← talk.attempt with
  | .ok value => return value
  | .error e => .done (.error (PayPalWebhookError.unexpectedStatus e.toString).error)

theorem unchecked_ok {talk : Talk α} {value : α} {transcript : List (Request × Reply)} :
    (unchecked talk).Yields transcript (.ok value) ↔ talk.Yields transcript (.ok value) := by
  simp only [unchecked, Dialogue.yields_bind_ok, Dialogue.yields_attempt]
  constructor
  · intro yielded
    obtain ⟨result, before, after, joined, ⟨_, run, same⟩, rest⟩ := yielded
    cases same
    cases result with
    | error e => cases Dialogue.yields_done.mp rest |>.2
    | ok found =>
      obtain ⟨rfl, same⟩ := Dialogue.yields_pure.mp rest
      cases same
      rwa [joined, List.append_nil]
  · intro run
    exact ⟨.ok value, transcript, [], (List.append_nil _).symm, ⟨_, run, rfl⟩,
      Dialogue.yields_pure.mpr ⟨rfl, rfl⟩⟩

namespace PayPalRail

variable (rail : PayPalRail) (webhook : Webhook)

def verifySignaturePath : String := "/v1/notifications/verify-webhook-signature"

/-- Have a delivery verified by PayPal. -/
def confirmDelivery (headers : PayPalWebhookHeaders) (event : Json.Value) (token : String) :
    Talk Unit := do
  let answer ← unchecked (exchange "paypal" verifySignaturePath
    (rail.jsonRequest .post verifySignaturePath (some (webhook.verifyBody headers event)) token))
  insist (isSuccess answer.2) (PayPalWebhookError.unexpectedStatus
    s!"verify-webhook-signature http {answer.2.toNat}").error
  let verification ← (webhook.statusFromSlice answer.1).mapError fun e =>
    (PayPalWebhookError.malformedResponse ("verify response: " ++ e)).error
  insist (verification = "SUCCESS") PayPalWebhookError.invalidSignature.error

/-- What a verified body says; nothing when reading its amount panics. -/
def readCaptureEvent (rawBody : List UInt8) : Option (Except Error PaidEvent) :=
  match webhook.parseCaptureCompleted rawBody with
  | .error e => some (.error e.error)
  | .ok parsed =>
    let currency := toAsciiUppercase parsed.currencyCode
    (paypalAmountValueToMinor rail.overflowChecks parsed.value currency).map fun read => do
      let amountMinor ← read.mapError fun e =>
        (PayPalWebhookError.malformedResponse e.toString).error
      ensure (amountMinor ≠ 0) (PayPalWebhookError.malformedResponse "non-positive amount").error
      return ⟨parsed.eventId, parsed.customId, amountMinor, currency⟩

def handleWebhook (rawBody : List UInt8) (headers : PayPalWebhookHeaders) :
    Talk (Option PaidEvent) := do
  insist headers.allPresent PayPalWebhookError.missingSignatureHeaders.error
  let bodyJson ← (webhook.valueFromSlice rawBody).mapError fun _ =>
    (PayPalWebhookError.malformedResponse "webhook body is not valid JSON").error
  let token ← unchecked rail.fetchAccessToken
  rail.confirmDelivery webhook headers bodyJson token
  match rail.readCaptureEvent webhook rawBody with
  | none => return none
  | some read => do
    let event ← read
    return some event

def deliveredHeaders (delivery : WebhookDelivery) : PayPalWebhookHeaders where
  transmissionId := delivery.headerOrEmpty "PAYPAL-TRANSMISSION-ID"
  transmissionTime := delivery.headerOrEmpty "PAYPAL-TRANSMISSION-TIME"
  certUrl := delivery.headerOrEmpty "PAYPAL-CERT-URL"
  authAlgo := delivery.headerOrEmpty "PAYPAL-AUTH-ALGO"
  transmissionSig := delivery.headerOrEmpty "PAYPAL-TRANSMISSION-SIG"

def verifyWebhook (delivery : WebhookDelivery) : Talk (Option WebhookEvent) := do
  let handled ← rail.handleWebhook webhook delivery.rawBody (deliveredHeaders delivery)
  return handled.map (PaidEvent.event railId)

variable {rail webhook}

/-- The delivery is verified when PayPal says so. -/
theorem confirmDelivery_ok {headers : PayPalWebhookHeaders} {event : Json.Value} {token : String}
    {transcript : List (Request × Reply)} :
    (rail.confirmDelivery webhook headers event token).Yields transcript (.ok ()) ↔
      ∃ reply, transcript = [(rail.jsonRequest .post verifySignaturePath
        (some (webhook.verifyBody headers event)) token, reply)] ∧
        reply.decoded webhook.statusFromSlice = some "SUCCESS" := by
  rw [confirmDelivery, Dialogue.yields_bind_ok]
  simp only [Dialogue.yields_lift_bind_ok, Dialogue.yields_lift, unchecked_ok, exchange_ok,
    insist_ok_iff, exists_const, mapError_eq_ok, Reply.decoded_eq_some,
    accepted_eq_some "paypal" verifySignaturePath]
  constructor
  · intro yielded
    obtain ⟨answer, before, _, joined, ⟨reply, asked, read⟩, success, status, decoded, rfl, same⟩ :=
      yielded
    rw [List.append_nil] at joined
    rw [insist_ok_iff.mp same.symm] at decoded
    exact ⟨reply, joined.trans asked, answer.1, ⟨answer.2, read, success⟩, decoded⟩
  · intro confirmed
    obtain ⟨reply, asked, body, ⟨status, read, success⟩, decoded⟩ := confirmed
    exact ⟨(body, status), transcript, [], (List.append_nil _).symm, ⟨reply, asked, read⟩, success,
      "SUCCESS", decoded, rfl, (insist_ok_iff.mpr rfl).symm⟩

/-- What a verified body says is complete. -/
theorem readCaptureEvent_ok {rawBody : List UInt8} {event : PaidEvent}
    (read : rail.readCaptureEvent webhook rawBody = some (.ok event)) :
    event.Complete ∧ ∃ capture, webhook.Captured rawBody capture event.eventId ∧
      event.reference = capture.customId ∧
      event.currency = toAsciiUppercase capture.amount.currencyCode ∧
      paypalAmountValueToMinor rail.overflowChecks capture.amount.value
        (toAsciiUppercase capture.amount.currencyCode) = some (.ok event.amountMinor) := by
  unfold readCaptureEvent at read
  cases parsing : webhook.parseCaptureCompleted rawBody with
  | error e => simp [parsing] at read
  | ok parsed =>
    rw [parsing] at read
    obtain ⟨amount, converted, answer⟩ := Option.map_eq_some_iff.mp read
    simp only [bind_eq_ok, ensure_eq_ok, mapError_eq_ok, exists_const] at answer
    obtain ⟨minor, minor_read, positive, same⟩ := answer
    cases same
    obtain ⟨named, capture, captured, referenced, said⟩ := Webhook.parseCaptureCompleted_ok parsing
    rw [said] at named converted ⊢
    exact ⟨⟨named, referenced, positive⟩, capture, captured, rfl, rfl,
      converted.trans (congrArg some minor_read)⟩

theorem verifyWebhook_ok {delivery : WebhookDelivery} {event : WebhookEvent}
    {transcript : List (Request × Reply)}
    (accepted : (rail.verifyWebhook webhook delivery).Yields transcript (.ok (some event))) :
    (deliveredHeaders delivery).allPresent ∧ ∃ value token taken confirmed paid,
      webhook.valueFromSlice delivery.rawBody = .ok value ∧
      transcript = [(rail.tokenRequest, taken), (rail.jsonRequest .post verifySignaturePath
        (some (webhook.verifyBody (deliveredHeaders delivery) value)) token, confirmed)] ∧
      rail.readToken taken = .ok token ∧
      confirmed.decoded webhook.statusFromSlice = some "SUCCESS" ∧
      rail.readCaptureEvent webhook delivery.rawBody = some (.ok paid) ∧
      event = paid.event railId := by
  obtain ⟨handled, run, same⟩ := Dialogue.yields_bind_pure.mp accepted
  cases handled with
  | error error => cases same
  | ok handled =>
    cases handled with
    | none => cases same
    | some paid =>
      cases same
      rw [handleWebhook, Dialogue.yields_lift_bind_ok] at run
      obtain ⟨_, present, run⟩ := run
      obtain ⟨value, parsed, run⟩ := Dialogue.yields_lift_bind_ok.mp run
      obtain ⟨token, before, after, joined, took, run⟩ := Dialogue.yields_bind_ok.mp run
      obtain ⟨_, asking, last, split, confirming, run⟩ := Dialogue.yields_bind_ok.mp run
      obtain ⟨taken, asked, read⟩ := Dialogue.yields_once.mp (unchecked_ok.mp took)
      obtain ⟨confirmed, posted, decoded⟩ := confirmDelivery_ok.mp confirming
      cases captured : rail.readCaptureEvent webhook delivery.rawBody with
      | none =>
        rw [captured] at run
        cases (Dialogue.yields_pure.mp run).2
      | some result =>
        rw [captured] at run
        obtain ⟨found, rfl, ended⟩ := Dialogue.yields_lift_bind_ok.mp run
        obtain ⟨rfl, same⟩ := Dialogue.yields_pure.mp ended
        cases same
        rw [split, asked, posted, List.append_nil] at joined
        exact ⟨insist_ok_iff.mp present, value, token, taken, confirmed, paid,
          mapError_eq_ok.mp parsed, joined, read.symm, decoded, rfl, rfl⟩

end PayPalRail

end PayPal

namespace PayFast

/-- The webhook of the rail: the notification that arrived is posted back, byte by byte, to the
validation address. -/
structure Webhook where
  passphrase : String
  validateUrl : String
  md5 : List UInt8 → List UInt8

/-- What is posted: a form's bytes to an address. -/
structure Posted where
  url : String
  contentType : String
  body : List UInt8

namespace Webhook

variable (webhook : Webhook)

/-- The reply says that PayFast sent the notification. -/
def readConfirmation : Reply → Except Error Unit
  | .sendFailed e => .error (.rail s!"payfast: validate request failed: {e}")
  | .bodyFailed _ e => .error (.rail s!"payfast: failed reading validate response: {e}")
  | .answered status body => do
    (boundedLenCheck body defaultMaxBodyBytes).mapError fun e => Error.rail s!"payfast: {e}"
    ensure (isSuccess status) (.rail
      ("payfast: unexpected API response status: validate endpoint returned http " ++
        toString status.toNat))
    ensure (trim (fromUtf8Lossy body) = "VALID")
      (.rail "payfast: server-side validate confirmation did not return VALID")

/-- The question whether PayFast sent these bytes. -/
def confirmation (rawBody : List UInt8) : Posted :=
  ⟨webhook.validateUrl, "application/x-www-form-urlencoded", rawBody⟩

def confirmWithPayFast (rawBody : List UInt8) : Dialogue Posted Reply Error Unit :=
  .once (webhook.confirmation rawBody) readConfirmation

/-- Check a notification, and then have it confirmed. -/
def handleItn (rawBody : List UInt8) : Dialogue Posted Reply Error PayFastNotificationEvent := do
  (boundedLenCheck rawBody defaultMaxBodyBytes).mapError fun e => Error.rail s!"payfast: {e}"
  let event ← (verifyAndParse webhook.md5 webhook.passphrase rawBody).mapError fun e =>
    Error.rail e.toString
  webhook.confirmWithPayFast rawBody
  return event

def verifyWebhook (delivery : WebhookDelivery) : Dialogue Posted Reply Error WebhookEvent := do
  let event ← webhook.handleItn delivery.rawBody
  return .settlement "payfast" event.eventId event.reference event.settled event.amountMinor "ZAR"

/-- The reply is the confirmation. -/
def Confirms (reply : Reply) : Prop :=
  ∃ body, reply.accepted = some body ∧ trim (fromUtf8Lossy body) = "VALID"

theorem readConfirmation_ok {reply : Reply} : readConfirmation reply = .ok () ↔ Confirms reply := by
  cases reply with
  | sendFailed => simp [readConfirmation, Confirms, Reply.accepted]
  | bodyFailed => simp [readConfirmation, Confirms, Reply.accepted]
  | answered status body =>
    by_cases long : defaultMaxBodyBytes < body.length
    · have short : ¬ body.length ≤ defaultMaxBodyBytes := Nat.not_le.mpr long
      simp [readConfirmation, Confirms, Reply.accepted, boundedLenCheck, long, short, bind_eq_ok,
        mapError_eq_ok]
    · have short : body.length ≤ defaultMaxBodyBytes := Nat.le_of_not_lt long
      simp [readConfirmation, Confirms, Reply.accepted, boundedLenCheck, long, short, bind_eq_ok,
        mapError_eq_ok, ensure_eq_ok, and_assoc]

variable {webhook}

/-- A notification is handled when it is signed and short enough, and PayFast confirms the bytes
that arrived; nothing is asked before that. -/
theorem handleItn_ok {rawBody : List UInt8} {event : PayFastNotificationEvent}
    {transcript : List (Posted × Reply)} :
    (webhook.handleItn rawBody).Yields transcript (.ok event) ↔
      rawBody.length ≤ defaultMaxBodyBytes ∧
        verifyAndParse webhook.md5 webhook.passphrase rawBody = .ok event ∧
        ∃ reply, transcript = [(webhook.confirmation rawBody, reply)] ∧ Confirms reply := by
  simp only [handleItn, confirmWithPayFast, Dialogue.yields_lift_bind_ok, mapError_eq_ok,
    boundedLenCheck_ok, Dialogue.yields_once_bind_ok, Dialogue.yields_pure, exists_const]
  constructor
  · intro yielded
    obtain ⟨short, found, signed, reply, _, _, asked, confirmed, rfl, same⟩ := yielded
    cases same
    exact ⟨short, signed, reply, asked, readConfirmation_ok.mp confirmed⟩
  · intro accepted
    obtain ⟨short, signed, reply, asked, confirmed⟩ := accepted
    exact ⟨short, event, signed, reply, (), [], asked, readConfirmation_ok.mpr confirmed, rfl, rfl⟩

end Webhook

/-- A notification has an amount exactly when it settles. -/
theorem evaluateNotification_amount {values : List (String × String)}
    {outcome : NotificationOutcome} (evaluated : evaluateNotification values = .ok outcome) :
    outcome.settled = true ↔ outcome.amountMinor ≠ 0 := by
  unfold evaluateNotification at evaluated
  simp only at evaluated
  split at evaluated
  · cases evaluated
  split at evaluated
  · cases evaluated
  split at evaluated
  · cases evaluated
  split at evaluated
  · split at evaluated
    · cases evaluated
    · rename_i positive
      cases evaluated
      simp [positive]
  · cases evaluated
    simp

/-- A notification that is accepted has its parts, and an amount exactly when it settles. -/
theorem verifyAndParse_ok {md5 : List UInt8 → List UInt8} {passphrase : String}
    {rawBody : List UInt8} {event : PayFastNotificationEvent}
    (accepted : verifyAndParse md5 passphrase rawBody = .ok event) :
    event.eventId ≠ "" ∧ event.reference ≠ "" ∧
      FollowsStatus event.settled event.amountMinor (Settles (fieldsOf rawBody)) := by
  have follows := (accepted_of_ok accepted).settled
  unfold verifyAndParse at accepted
  split at accepted
  · cases accepted
  dsimp only at accepted
  split at accepted
  · cases accepted
  split at accepted
  · cases accepted
  split at accepted
  · cases accepted
  rename_i outcome evaluated
  cases accepted
  obtain ⟨-, referenced, -, named, -⟩ := evaluateNotification_ok evaluated
  exact ⟨named, referenced, follows, evaluateNotification_amount evaluated⟩

namespace Webhook

/-- What an accepted delivery comes to where PayFast sent these notifications: the delivery is one
of them, and its signed fields make the event. -/
structure Attested (webhook : Webhook) (sent : List (List UInt8)) (rawBody : List UInt8)
    (event : WebhookEvent) : Prop where
  sent : rawBody ∈ sent
  signature : signatureOf rawBody =
    some (computeSignature webhook.md5 (fieldsOf rawBody) webhook.passphrase)
  railId : event.railId = "payfast"
  eventId : lastSigned (fieldsOf rawBody) "pf_payment_id" = some event.eventId ∧ event.eventId ≠ ""
  reference : lastSigned (fieldsOf rawBody) "m_payment_id" = some event.reference ∧
    event.reference ≠ ""
  settled : event.isSettled = true ↔ Settles (fieldsOf rawBody)
  worth : event.isSettled = true → signedAmount (fieldsOf rawBody) = some event.amountMinor ∧
    event.amountMinor ≠ 0 ∧ event.currency = "ZAR"
  moneyless : event.CarriesMoney → event.isSettled

/-- The event of a notification that is accepted and was sent is attested. -/
theorem attested_of_parsed {webhook : Webhook} {sent : List (List UInt8)} {rawBody : List UInt8}
    {said : PayFastNotificationEvent} (member : rawBody ∈ sent)
    (parsed : verifyAndParse webhook.md5 webhook.passphrase rawBody = .ok said) :
    webhook.Attested sent rawBody (.settlement "payfast" said.eventId said.reference said.settled
      said.amountMinor "ZAR") := by
  have holds := accepted_of_ok parsed
  obtain ⟨named, referenced, follows⟩ := verifyAndParse_ok parsed
  refine {
    sent := member
    signature := holds.signature
    railId := rfl
    eventId := ⟨holds.eventId, named⟩
    reference := ⟨holds.reference, referenced⟩
    settled := ?_
    worth := ?_
    moneyless := WebhookEvent.settlement_carriesMoney }
  · rw [WebhookEvent.settlement_isSettled]
    exact follows.settled_iff
  · rw [WebhookEvent.settlement_isSettled]
    intro settled
    obtain ⟨amountMinor, signed, amount⟩ := holds.amount
    rw [settled, if_pos rfl] at amount
    rw [settled]
    exact ⟨amount ▸ signed, follows.amount_iff.mp settled, rfl⟩

theorem verifyWebhook_ok {webhook : Webhook} {delivery : WebhookDelivery} {event : WebhookEvent}
    {transcript : List (Posted × Reply)} :
    (webhook.verifyWebhook delivery).Yields transcript (.ok event) ↔ ∃ said,
      (webhook.handleItn delivery.rawBody).Yields transcript (.ok said) ∧
        event = .settlement "payfast" said.eventId said.reference said.settled said.amountMinor
          "ZAR" := by
  rw [verifyWebhook, Dialogue.yields_bind_pure]
  constructor
  · intro yielded
    obtain ⟨result, handled, same⟩ := yielded
    cases result with
    | error failure => cases same
    | ok said =>
      cases same
      exact ⟨said, handled, rfl⟩
  · intro yielded
    obtain ⟨said, handled, rfl⟩ := yielded
    exact ⟨.ok said, handled, rfl⟩

end Webhook

/-- Where PayFast confirms no bytes but those of a notification that it sent, whatever is accepted
was sent: no other body under the same signature gets through. -/
theorem itn_sent (webhook : Webhook) (sent : List (List UInt8))
    (transcript : List (Posted × Reply))
    (honest : ∀ body reply, (webhook.confirmation body, reply) ∈ transcript →
      Webhook.Confirms reply → body ∈ sent)
    (delivery : WebhookDelivery) (event : WebhookEvent)
    (accepted : (webhook.verifyWebhook delivery).Yields transcript (.ok event)) :
    webhook.Attested sent delivery.rawBody event := by
  obtain ⟨said, handled, rfl⟩ := Webhook.verifyWebhook_ok.mp accepted
  obtain ⟨-, parsed, reply, rfl, confirmed⟩ := Webhook.handleItn_ok.mp handled
  have member := honest _ reply List.mem_cons_self confirmed
  exact Webhook.attested_of_parsed member parsed

section Confirmed

/-- The rail's webhook, with the MD5 that is computed here. -/
def itnWebhook : Webhook where
  passphrase := "test-passphrase"
  validateUrl := "https://www.payfast.co.za/eng/query/validate"
  md5 := Sample.itnMd5

theorem itn_sent_complete : itnWebhook.Attested [asBytes Sample.completeItn]
    (asBytes Sample.completeItn) (.settlement "payfast" "pf_1" "ord_1" true 10000 "ZAR") := by
  have valid : Webhook.Confirms (.answered 200 (asBytes "VALID")) := ⟨_, rfl, by decide⟩
  have short : (asBytes Sample.completeItn).length ≤ defaultMaxBodyBytes := by decide +kernel
  apply itn_sent itnWebhook [asBytes Sample.completeItn]
    [(itnWebhook.confirmation (asBytes Sample.completeItn), .answered 200 (asBytes "VALID"))] ?_
    (.new (asBytes Sample.completeItn) 1700000000)
  · exact Webhook.verifyWebhook_ok.mpr ⟨_, Webhook.handleItn_ok.mpr
      ⟨short, Sample.complete_read.2, _, rfl, valid⟩, rfl⟩
  · intro body reply member _
    cases List.mem_singleton.mp member
    exact List.mem_singleton_self _

end Confirmed

end PayFast

end Patala.Fiat
