import Patala.Fiat.CheckoutCom
import Patala.Fiat.Flutterwave
import Patala.Fiat.FormBody
import Patala.Fiat.PayFast
import Patala.Fiat.Stripe
import Patala.Lib.Fallible

/-! The webhooks that are checked with nothing but a secret: Stripe, Razorpay and Checkout.com
sign the body, Flutterwave repeats a configured hash. What each one makes of a delivery is read
from its body alone. -/

namespace Patala.Fiat

open Fallible

/-- What a delivery says once its signature is verified. -/
structure SettlementEvent where
  eventId : String
  reference : String
  settled : Bool
  amountMinor : UInt64
  currency : String
deriving DecidableEq

/-- `verify_hmac_hex` over a given MAC. -/
def verifyHmacHex (hmac : List UInt8 → List UInt8 → List UInt8) (secret signedPayload : List UInt8)
    (hexSignature : String) : Bool :=
  if secret = [] ∨ trim hexSignature = "" then false
  else match Codec.hexDecode (trim hexSignature) with
    | none => false
    | some expectedBytes => hmac secret signedPayload = expectedBytes

/-- The text spells the MAC of the payload. -/
def Spells (hmac : List UInt8 → List UInt8 → List UInt8) (secret signedPayload : List UInt8)
    (hexSignature : String) : Prop :=
  Codec.hexDecode (trim hexSignature) = some (hmac secret signedPayload)

theorem verifyHmacHex_true {hmac : List UInt8 → List UInt8 → List UInt8}
    {secret signedPayload : List UInt8} {hexSignature : String}
    (verified : verifyHmacHex hmac secret signedPayload hexSignature = true) :
    secret ≠ [] ∧ Spells hmac secret signedPayload hexSignature := by
  unfold verifyHmacHex at verified
  split at verified
  · cases verified
  rename_i present
  cases decoded : Codec.hexDecode (trim hexSignature) with
  | none =>
    rw [decoded] at verified
    cases verified
  | some expected =>
    simp only [decoded, decide_eq_true_eq] at verified
    exact ⟨fun empty => present (.inl empty), by rw [Spells, decoded, verified]⟩

theorem ne_empty_of_asBytes {text : String} (bytes : asBytes text ≠ []) : text ≠ "" := by
  rintro rfl
  exact bytes rfl

/-- An evaluated payment settles exactly on the positive status, and has an amount exactly then. -/
structure FollowsStatus (settled : Bool) (amountMinor : UInt64) (positive : Prop) : Prop where
  settled_iff : settled = true ↔ positive
  amount_iff : settled = true ↔ amountMinor ≠ 0

/-- A payment judged by its status: with the positive one it needs an amount, which is converted
to minor units, and with any other it has none. -/
def settleOn (positive : Prop) [Decidable positive] (amount : UInt64) (unpaid : Error)
    (toMinor : Except Error UInt64) (currency reference : String) : Except Error Outcome :=
  if positive then
    if amount = 0 then .error unpaid
    else do
      let amountMinor ← toMinor
      .ok ⟨reference, true, amountMinor, currency⟩
  else .ok ⟨reference, false, 0, currency⟩

theorem settleOn_ok {positive : Prop} [Decidable positive] {amount : UInt64} {unpaid : Error}
    {toMinor : Except Error UInt64} {currency reference : String} {outcome : Outcome}
    (converts : ∀ minor, toMinor = .ok minor → amount ≠ 0 → minor ≠ 0)
    (read : settleOn positive amount unpaid toMinor currency reference = .ok outcome) :
    outcome.reference = reference ∧ FollowsStatus outcome.settled outcome.amountMinor positive := by
  unfold settleOn at read
  split at read
  · rename_i paid
    split at read
    · cases read
    rename_i nonzero
    obtain ⟨minor, converted, same⟩ := bind_eq_ok.mp read
    cases same
    have kept := converts minor converted nonzero
    exact ⟨rfl, by simp [paid], by simp [kept]⟩
  · rename_i other
    cases read
    exact ⟨rfl, by simp [other], by simp⟩

/-- A payment's reference: its own, or the one in its metadata. -/
def withReference (own : String) (metadata : List (String × String)) (missing : Error)
    (judge : String → Except Error Outcome) : Except Error Outcome :=
  if own ≠ "" then judge own
  else match metadata.lookup "patala_reference" with
    | some r => judge r
    | none => .error missing

/-- No reference is named: none of the payment's own, and an empty one in its metadata. -/
def BlankReference (own : String) (metadata : List (String × String)) : Prop :=
  own = "" ∧ metadata.lookup "patala_reference" = some ""

theorem withReference_ok {own : String} {metadata : List (String × String)} {missing : Error}
    {judge : String → Except Error Outcome} {outcome : Outcome} {property : Prop}
    (judged : ∀ reference, judge reference = .ok outcome → outcome.reference = reference ∧ property)
    (read : withReference own metadata missing judge = .ok outcome) :
    (outcome.reference = "" ↔ BlankReference own metadata) ∧ property := by
  unfold withReference at read
  unfold BlankReference
  split at read
  · rename_i present
    obtain ⟨same, holds⟩ := judged own read
    refine ⟨?_, holds⟩
    rw [same]
    simp [present]
  rename_i absent
  split at read
  · rename_i value listed
    obtain ⟨same, holds⟩ := judged value read
    refine ⟨?_, holds⟩
    rw [same]
    simp [not_not.mp absent, listed]
  · cases read

/-- Dividing an exact multiple of a hundred leaves no amount at zero. -/
theorem div_hundred_ne_zero {amount : UInt64} (exact : amount % 100 = 0) (positive : amount ≠ 0) :
    amount / 100 ≠ 0 := by
  have value : amount.toNat % 100 = 0 := congrArg UInt64.toNat exact
  have nonzero : amount.toNat ≠ 0 := fun zero => positive (UInt64.toNat_inj.mp zero)
  intro quotient
  have zero : amount.toNat / 100 = 0 := congrArg UInt64.toNat quotient
  omega

namespace Stripe

inductive StripeWebhookError where
  | emptyBody
  | missingSignature
  | invalidSignature
  | staleSignature
  | malformedResponse (detail : String)
  | unhandledEvent (eventType : String)
deriving DecidableEq

def StripeWebhookError.toString : StripeWebhookError → String
  | emptyBody => "payments: stripe: empty request body"
  | missingSignature => "payments: stripe: missing Stripe-Signature header"
  | invalidSignature => "payments: stripe: invalid webhook signature"
  | staleSignature => "payments: stripe: webhook timestamp outside replay tolerance"
  | malformedResponse detail => "payments: stripe: malformed API response: " ++ detail
  | unhandledEvent eventType => "payments: unhandled webhook event type: " ++ eventType

def signatureToleranceSecs : Nat := 5 * 60

/-- The envelope of an event; what it is about is decoded only for a handled type. -/
structure Envelope where
  id : String
  eventType : String
  object : Json.Value

/-- How an event and the session in it are read, and the MAC. -/
structure WebhookCrates where
  hmacSha256 : List UInt8 → List UInt8 → List UInt8
  envelopeFromSlice : FromSlice Envelope
  sessionFromValue : Json.Value → Except String StripeSessionPayload

/-- `split_once('=')`. -/
def splitOnce (part : String) : Option (String × String) :=
  if '=' ∈ part.toList then
    some (String.ofList (part.toList.takeWhile (· ≠ '=')),
      String.ofList ((part.toList.dropWhile (· ≠ '=')).drop 1))
  else none

/-- The timestamp and the current signature of a header, the last of each. -/
def parseSignatureHeader (header : String) : Except StripeWebhookError (String × String) :=
  let pairs := (header.toList.splitOn ',').filterMap fun part => splitOnce (trim (String.ofList part))
  match lastValue pairs "t", lastValue pairs "v1" with
  | some timestamp, some v1 => .ok (timestamp, v1)
  | _, _ => .error .invalidSignature

/-- `(now_unix as i64 - ts_unix).unsigned_abs()`. -/
def age (nowUnix : UInt64) (tsUnix : Int) : Nat := (nowUnix.toInt64 - Int64.ofInt tsUnix).toInt.natAbs

/-- The bytes a header's timestamp and a body are signed as. -/
def signedPayload (timestamp : String) (rawBody : List UInt8) : List UInt8 :=
  asBytes timestamp ++ asBytes "." ++ rawBody

def isHandled (eventType : String) : Bool :=
  eventType = "checkout.session.completed" || eventType = "checkout.session.async_payment_succeeded"

def verifyAndParse (crates : WebhookCrates) (webhookSecret : String) (rawBody : List UInt8)
    (signatureHeader : String) (nowUnix : UInt64) : Except StripeWebhookError SettlementEvent := do
  ensure (trim signatureHeader ≠ "") .missingSignature
  ensure (rawBody ≠ []) .emptyBody
  let (ts, v1) ← parseSignatureHeader (trim signatureHeader)
  ensure (verifyHmacHex crates.hmacSha256 (asBytes webhookSecret) (signedPayload ts rawBody) v1)
    .invalidSignature
  let tsUnix ← (parseSigned (-2 ^ 63) (2 ^ 63 - 1) ts).elim (.error .invalidSignature) .ok
  ensure (age nowUnix tsUnix ≤ signatureToleranceSecs) .staleSignature
  let envelope ← (crates.envelopeFromSlice rawBody).mapError .malformedResponse
  ensure (isHandled envelope.eventType) (.unhandledEvent envelope.eventType)
  let session ← (crates.sessionFromValue envelope.object).mapError fun e =>
    .malformedResponse ("event data.object: " ++ e)
  let outcome ← (evaluateSession session).mapError fun e => .malformedResponse e.toString
  return {
    eventId := if envelope.id = "" then session.id else envelope.id
    reference := outcome.reference
    settled := outcome.settled
    amountMinor := outcome.amountMinor
    currency := outcome.currency }

theorem stripeAmountToMinor_ne_zero {amount : UInt64} {currency : String} {minor : UInt64}
    (converted : stripeAmountToMinor amount currency = .ok minor) (positive : amount ≠ 0) :
    minor ≠ 0 := by
  unfold stripeAmountToMinor at converted
  dsimp only at converted
  split at converted
  · cases converted
  split at converted
  · split at converted
    · cases converted
    · rename_i exact
      cases converted
      exact div_hundred_ne_zero (not_not.mp exact) positive
  · cases converted
    exact positive

theorem evaluateSession_ok {s : StripeSessionPayload} {outcome : Outcome}
    (read : evaluateSession s = .ok outcome) :
    s.id ≠ "" ∧ (outcome.reference = "" ↔ BlankReference s.clientReferenceId s.metadata) ∧
      FollowsStatus outcome.settled outcome.amountMinor (s.paymentStatus = "paid") := by
  unfold evaluateSession at read
  split at read
  · cases read
  rename_i named
  have read : withReference s.clientReferenceId s.metadata _ (settleOn (s.paymentStatus = "paid")
      s.amountTotal _ (stripeAmountToMinor s.amountTotal (toAsciiUppercase (trim s.currency)))
      (toAsciiUppercase (trim s.currency))) = .ok outcome := read
  exact ⟨named, withReference_ok (fun _ => settleOn_ok fun _ => stripeAmountToMinor_ne_zero) read⟩

theorem verifyAndParse_ok {crates : WebhookCrates} {secret : String} {rawBody : List UInt8}
    {header : String} {nowUnix : UInt64} {event : SettlementEvent}
    (accepted : verifyAndParse crates secret rawBody header nowUnix = .ok event) :
    ∃ ts v1 envelope session, parseSignatureHeader (trim header) = .ok (ts, v1) ∧
      secret ≠ "" ∧ Spells crates.hmacSha256 (asBytes secret) (signedPayload ts rawBody) v1 ∧
      crates.envelopeFromSlice rawBody = .ok envelope ∧ isHandled envelope.eventType = true ∧
      crates.sessionFromValue envelope.object = .ok session ∧ event.eventId ≠ "" ∧
      (event.reference = "" ↔ BlankReference session.clientReferenceId session.metadata) ∧
      FollowsStatus event.settled event.amountMinor (session.paymentStatus = "paid") := by
  simp only [verifyAndParse, bind_eq_ok, ensure_eq_ok, mapError_eq_ok, exists_const] at accepted
  obtain ⟨-, -, ⟨ts, v1⟩, parsed, verified, -, -, -, envelope, read, handled, session, decoded,
    outcome, evaluated, answer⟩ := accepted
  cases answer
  obtain ⟨keyed, spelled⟩ := verifyHmacHex_true verified
  obtain ⟨named, blank, follows⟩ := evaluateSession_ok evaluated
  refine ⟨ts, v1, envelope, session, parsed, ne_empty_of_asBytes keyed, spelled, read, handled,
    decoded, ?_, blank, follows⟩
  dsimp only
  split
  · exact named
  · rename_i own
    exact own

end Stripe

namespace Razorpay

/-- The subset of a payment entity the adapter reads; a field that is missing is empty or zero. -/
structure RazorpayPayment where
  id : String
  orderId : String
  amount : UInt64
  currency : String
  status : String

structure PaymentOutcome where
  orderId : String
  eventId : String
  settled : Bool
  amountMinor : UInt64
  currency : String

structure Envelope where
  event : String
  entity : RazorpayPayment

inductive RazorpayWebhookError where
  | missingSignature
  | invalidSignature
  | malformedResponse (detail : String)
  | responseTooLarge
  | unhandledEvent (eventType : String)
deriving DecidableEq

def RazorpayWebhookError.toString : RazorpayWebhookError → String
  | missingSignature => "payments: razorpay: missing X-Razorpay-Signature header"
  | invalidSignature => "payments: razorpay: invalid webhook signature"
  | malformedResponse detail => "payments: razorpay: malformed API response: " ++ detail
  | responseTooLarge => "payments: razorpay: response body exceeds size limit"
  | unhandledEvent eventType => "payments: unhandled webhook event type: " ++ eventType

def malformed (detail : String) : Error := Fiat.malformed "razorpay" detail

/-- What a payment says; only `captured` settles it. -/
def evaluatePayment (pay : RazorpayPayment) : Except Error PaymentOutcome :=
  if pay.orderId = "" then .error (malformed "missing order_id")
  else if pay.id = "" then
    .error (malformed "no payment id: this entity carries no id to deduplicate on")
  else
    let currency := toAsciiUppercase (trim pay.currency)
    if pay.status = "captured" then
      if pay.amount = 0 then .error (malformed "captured with non-positive amount")
      else .ok ⟨pay.orderId, pay.id, true, pay.amount, currency⟩
    else .ok ⟨pay.orderId, pay.id, false, 0, currency⟩

structure WebhookCrates where
  hmacSha256 : List UInt8 → List UInt8 → List UInt8
  envelopeFromSlice : FromSlice Envelope

def verifyAndParse (crates : WebhookCrates) (webhookSecret : String) (rawBody : List UInt8)
    (signatureHeader : String) : Except RazorpayWebhookError SettlementEvent := do
  ensure (trim signatureHeader ≠ "") .missingSignature
  (boundedLenCheck rawBody defaultMaxBodyBytes).mapError fun _ => .responseTooLarge
  ensure (verifyHmacHex crates.hmacSha256 (asBytes webhookSecret) rawBody (trim signatureHeader))
    .invalidSignature
  let envelope ← (crates.envelopeFromSlice rawBody).mapError .malformedResponse
  ensure (envelope.event = "payment.captured") (.unhandledEvent envelope.event)
  let outcome ← (evaluatePayment envelope.entity).mapError fun e => .malformedResponse e.toString
  return ⟨outcome.eventId, outcome.orderId, outcome.settled, outcome.amountMinor, outcome.currency⟩

theorem evaluatePayment_ok {pay : RazorpayPayment} {outcome : PaymentOutcome}
    (read : evaluatePayment pay = .ok outcome) :
    outcome.eventId ≠ "" ∧ outcome.orderId ≠ "" ∧
      FollowsStatus outcome.settled outcome.amountMinor (pay.status = "captured") := by
  unfold evaluatePayment at read
  split at read
  · cases read
  rename_i ordered
  split at read
  · cases read
  rename_i named
  dsimp only at read
  split at read
  · rename_i captured
    split at read
    · cases read
    rename_i positive
    cases read
    exact ⟨named, ordered, by simp [captured], by simp [positive]⟩
  · rename_i other
    cases read
    exact ⟨named, ordered, by simp [other], by simp⟩

theorem verifyAndParse_ok {crates : WebhookCrates} {secret : String} {rawBody : List UInt8}
    {header : String} {event : SettlementEvent}
    (accepted : verifyAndParse crates secret rawBody header = .ok event) :
    ∃ envelope, secret ≠ "" ∧ Spells crates.hmacSha256 (asBytes secret) rawBody header ∧
      crates.envelopeFromSlice rawBody = .ok envelope ∧ envelope.event = "payment.captured" ∧
      event.eventId ≠ "" ∧ event.reference ≠ "" ∧
      FollowsStatus event.settled event.amountMinor (envelope.entity.status = "captured") := by
  simp only [verifyAndParse, bind_eq_ok, ensure_eq_ok, mapError_eq_ok, exists_const] at accepted
  obtain ⟨-, -, -, verified, envelope, read, handled, outcome, evaluated, answer⟩ := accepted
  cases answer
  obtain ⟨keyed, spelled⟩ := verifyHmacHex_true verified
  rw [Spells, trim_trim] at spelled
  exact ⟨envelope, ne_empty_of_asBytes keyed, spelled, read, handled, evaluatePayment_ok evaluated⟩

end Razorpay

namespace Flutterwave

inductive FlutterwaveWebhookError where
  | missingSignature
  | invalidSignature
  | malformedResponse (detail : String)
  | unhandledEvent (eventType : String)
deriving DecidableEq

def FlutterwaveWebhookError.toString : FlutterwaveWebhookError → String
  | missingSignature => "payments: flutterwave: missing verif-hash header"
  | invalidSignature => "payments: flutterwave: invalid verif-hash"
  | malformedResponse detail => "payments: flutterwave: malformed API response: " ++ detail
  | unhandledEvent eventType => "payments: unhandled webhook event type: " ++ eventType

structure Envelope where
  event : String
  data : FlutterwaveTransactionPayload

structure WebhookCrates where
  envelopeFromSlice : FromSlice Envelope

def verifyAndParse (crates : WebhookCrates) (configuredHash : String) (rawBody : List UInt8)
    (givenHash : String) : Except FlutterwaveWebhookError SettlementEvent := do
  ensure (trim givenHash ≠ "") .missingSignature
  ensure (PayFast.constantTimeEq (trim givenHash) (trim configuredHash)) .invalidSignature
  let envelope ← (crates.envelopeFromSlice rawBody).mapError .malformedResponse
  ensure (envelope.event = "charge.completed") (.unhandledEvent envelope.event)
  ensure (envelope.data.id ≠ 0)
    (.malformedResponse "no data.id: this delivery carries no id to deduplicate on")
  let outcome ← (evaluateTransaction envelope.data).mapError fun e => .malformedResponse e.toString
  return ⟨outcome.eventId, outcome.reference, outcome.settled, outcome.amountMinor, outcome.currency⟩

theorem toString_ne_empty (id : Int64) : toString id ≠ "" := by
  show id.toInt.repr ≠ ""
  cases id.toInt with
  | ofNat n => exact Nat.repr_ne_empty
  | negSucc n =>
    intro empty
    have chars := congrArg String.toList empty
    simp [Int.repr] at chars

theorem evaluateTransaction_ok {t : FlutterwaveTransactionPayload} {outcome : TransactionOutcome}
    (read : evaluateTransaction t = .ok outcome) :
    outcome.eventId = toString t.id ∧ outcome.reference ≠ "" ∧
      FollowsStatus outcome.settled outcome.amountMinor (t.status = "successful") := by
  unfold evaluateTransaction at read
  split at read
  · cases read
  rename_i named
  obtain ⟨minor, -, read⟩ := bind_eq_ok.mp read
  split at read
  · rename_i successful
    split at read
    · cases read
    rename_i positive
    cases read
    exact ⟨rfl, named, by simp [successful], by simp [positive]⟩
  · rename_i other
    cases read
    exact ⟨rfl, named, by simp [other], by simp⟩

theorem verifyAndParse_ok {crates : WebhookCrates} {hash : String} {rawBody : List UInt8}
    {header : String} {event : SettlementEvent}
    (accepted : verifyAndParse crates hash rawBody header = .ok event) :
    ∃ envelope, hash ≠ "" ∧ trim header = trim hash ∧
      crates.envelopeFromSlice rawBody = .ok envelope ∧ envelope.event = "charge.completed" ∧
      event.eventId ≠ "" ∧ event.reference ≠ "" ∧
      FollowsStatus event.settled event.amountMinor (envelope.data.status = "successful") := by
  simp only [verifyAndParse, bind_eq_ok, ensure_eq_ok, mapError_eq_ok, exists_const,
    PayFast.constantTimeEq_iff] at accepted
  obtain ⟨present, same, envelope, read, handled, numbered, outcome, evaluated, answer⟩ := accepted
  cases answer
  obtain ⟨named, referenced, follows⟩ := evaluateTransaction_ok evaluated
  have configured : hash ≠ "" := by
    rintro rfl
    exact present same
  exact ⟨envelope, configured, same, read, handled, named ▸ toString_ne_empty _, referenced,
    follows⟩

end Flutterwave

namespace CheckoutCom

inductive CheckoutComWebhookError where
  | missingSignature
  | invalidSignature
  | malformedResponse (detail : String)
  | unhandledEvent (eventType : String)
deriving DecidableEq

def CheckoutComWebhookError.toString : CheckoutComWebhookError → String
  | missingSignature => "payments: checkoutcom: missing Cko-Signature header"
  | invalidSignature => "payments: checkoutcom: invalid webhook signature"
  | malformedResponse detail => "payments: checkoutcom: malformed API response: " ++ detail
  | unhandledEvent eventType => "payments: unhandled webhook event type: " ++ eventType

structure Envelope where
  id : String
  eventType : String
  data : PaymentPayload

structure WebhookCrates where
  hmacSha256 : List UInt8 → List UInt8 → List UInt8
  envelopeFromSlice : FromSlice Envelope

def verifyAndParse (crates : WebhookCrates) (webhookSecret : String) (rawBody : List UInt8)
    (signatureHeader : String) : Except CheckoutComWebhookError SettlementEvent := do
  ensure (trim signatureHeader ≠ "") .missingSignature
  ensure (verifyHmacHex crates.hmacSha256 (asBytes webhookSecret) rawBody (trim signatureHeader))
    .invalidSignature
  let envelope ← (crates.envelopeFromSlice rawBody).mapError .malformedResponse
  ensure (envelope.eventType = "payment_captured") (.unhandledEvent envelope.eventType)
  let outcome ← (evaluatePayment envelope.data).mapError fun e => .malformedResponse e.toString
  ensure (outcome.settled = true)
    (.malformedResponse "payment_captured event carried a non-Captured status")
  return {
    eventId := if envelope.id = "" then envelope.data.id else envelope.id
    reference := outcome.reference
    settled := outcome.settled
    amountMinor := outcome.amountMinor
    currency := outcome.currency }

theorem checkOutComAmountToMinor_ne_zero {amount : UInt64} {currency : String} {minor : UInt64}
    (converted : checkOutComAmountToMinor amount currency = .ok minor) (positive : amount ≠ 0) :
    minor ≠ 0 := by
  unfold checkOutComAmountToMinor at converted
  dsimp only at converted
  split at converted
  · split at converted
    · cases converted
    · rename_i exact
      cases converted
      exact div_hundred_ne_zero (not_not.mp exact) positive
  · cases converted
    exact positive

theorem evaluatePayment_ok {p : PaymentPayload} {outcome : Outcome}
    (read : evaluatePayment p = .ok outcome) :
    p.id ≠ "" ∧ (outcome.reference = "" ↔ BlankReference p.reference p.metadata) ∧
      FollowsStatus outcome.settled outcome.amountMinor (p.status = "Captured") := by
  unfold evaluatePayment at read
  split at read
  · cases read
  rename_i named
  have read : withReference p.reference p.metadata _ (settleOn (p.status = "Captured") p.amount _
      (checkOutComAmountToMinor p.amount (toAsciiUppercase (trim p.currency)))
      (toAsciiUppercase (trim p.currency))) = .ok outcome := read
  exact ⟨named, withReference_ok (fun _ => settleOn_ok fun _ => checkOutComAmountToMinor_ne_zero)
    read⟩

theorem verifyAndParse_ok {crates : WebhookCrates} {secret : String} {rawBody : List UInt8}
    {header : String} {event : SettlementEvent}
    (accepted : verifyAndParse crates secret rawBody header = .ok event) :
    ∃ envelope, secret ≠ "" ∧ Spells crates.hmacSha256 (asBytes secret) rawBody header ∧
      crates.envelopeFromSlice rawBody = .ok envelope ∧ envelope.eventType = "payment_captured" ∧
      event.eventId ≠ "" ∧ (event.reference = "" ↔ BlankReference envelope.data.reference envelope.data.metadata) ∧
      FollowsStatus event.settled event.amountMinor (envelope.data.status = "Captured") := by
  simp only [verifyAndParse, bind_eq_ok, ensure_eq_ok, mapError_eq_ok, exists_const] at accepted
  obtain ⟨-, verified, envelope, read, handled, outcome, evaluated, -, answer⟩ := accepted
  cases answer
  obtain ⟨keyed, spelled⟩ := verifyHmacHex_true verified
  rw [Spells, trim_trim] at spelled
  obtain ⟨named, blank, follows⟩ := evaluatePayment_ok evaluated
  refine ⟨envelope, ne_empty_of_asBytes keyed, spelled, read, handled, ?_, blank, follows⟩
  dsimp only
  split
  · exact named
  · rename_i own
    exact own

end CheckoutCom

end Patala.Fiat
