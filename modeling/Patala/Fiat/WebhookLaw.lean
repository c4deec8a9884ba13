import Patala.Fiat.OfflineWebhook
import Patala.Fiat.Webhook

/-! What an accepted delivery of the offline-signed webhooks guarantees: its signature, its ids,
and money exactly where the event and its payload say settled. A reference is only sure to be
there where the payload does not carry an empty one. -/

namespace Patala.Fiat

/-- How each rail reads its deliveries. -/
structure OfflineCrates where
  stripe : Stripe.WebhookCrates
  razorpay : Razorpay.WebhookCrates
  flutterwave : Flutterwave.WebhookCrates
  checkoutcom : CheckoutCom.WebhookCrates

/-- The rails whose webhooks a configured secret is enough to check. -/
inductive OfflineRail where
  | stripe
  | razorpay
  | flutterwave
  | checkoutcom
deriving DecidableEq

namespace OfflineRail

variable (crates : OfflineCrates)

/-- A delivery as the rail answers it, its error in words. -/
def verifyAndParse (rail : OfflineRail) (secret : String) (rawBody : List UInt8) (header : String)
    (nowUnix : UInt64) : Except String SettlementEvent :=
  match rail with
  | stripe => (Stripe.verifyAndParse crates.stripe secret rawBody header nowUnix).mapError
      Stripe.StripeWebhookError.toString
  | razorpay => (Razorpay.verifyAndParse crates.razorpay secret rawBody header).mapError
      Razorpay.RazorpayWebhookError.toString
  | flutterwave => (Flutterwave.verifyAndParse crates.flutterwave secret rawBody header).mapError
      Flutterwave.FlutterwaveWebhookError.toString
  | checkoutcom => (CheckoutCom.verifyAndParse crates.checkoutcom secret rawBody header).mapError
      CheckoutCom.CheckoutComWebhookError.toString

/-- The header signs the body under the secret. -/
def Signed (rail : OfflineRail) (secret : String) (rawBody : List UInt8) (header : String) : Prop :=
  match rail with
  | stripe => ∃ timestamp v1, Stripe.parseSignatureHeader (trim header) = .ok (timestamp, v1) ∧
      Spells crates.stripe.hmacSha256 (asBytes secret)
        (asBytes timestamp ++ asBytes "." ++ rawBody) v1
  | razorpay => Spells crates.razorpay.hmacSha256 (asBytes secret) rawBody header
  | flutterwave => trim header = trim secret
  | checkoutcom => Spells crates.checkoutcom.hmacSha256 (asBytes secret) rawBody header

/-- The body is of the rail's settlement event, and its payload's own status says so. -/
def Settles (rail : OfflineRail) (rawBody : List UInt8) : Prop :=
  match rail with
  | stripe => ∃ envelope session, crates.stripe.envelopeFromSlice rawBody = .ok envelope ∧
      (envelope.eventType = "checkout.session.completed" ∨
        envelope.eventType = "checkout.session.async_payment_succeeded") ∧
      crates.stripe.sessionFromValue envelope.object = .ok session ∧ session.paymentStatus = "paid"
  | razorpay => ∃ envelope, crates.razorpay.envelopeFromSlice rawBody = .ok envelope ∧
      envelope.event = "payment.captured" ∧ envelope.entity.status = "captured"
  | flutterwave => ∃ envelope, crates.flutterwave.envelopeFromSlice rawBody = .ok envelope ∧
      envelope.event = "charge.completed" ∧ envelope.data.status = "successful"
  | checkoutcom => ∃ envelope, crates.checkoutcom.envelopeFromSlice rawBody = .ok envelope ∧
      envelope.eventType = "payment_captured" ∧ envelope.data.status = "Captured"

/-- The law of an accepted delivery. -/
structure Lawful (rail : OfflineRail) (secret : String) (rawBody : List UInt8) (header : String)
    (event : SettlementEvent) : Prop where
  keyed : secret ≠ ""
  signed : rail.Signed crates secret rawBody header
  eventId : event.eventId ≠ ""
  reference : event.reference ≠ ""
  settles : event.settled = true → rail.Settles crates rawBody
  amount : event.settled = true → 0 < event.amountMinor
  noAmount : event.settled = false → event.amountMinor = 0

/-- The body is of a payment without a reference of its own whose metadata has an empty one. -/
def BlankBody (rail : OfflineRail) (rawBody : List UInt8) : Prop :=
  match rail with
  | stripe => ∃ envelope session, crates.stripe.envelopeFromSlice rawBody = .ok envelope ∧
      crates.stripe.sessionFromValue envelope.object = .ok session ∧
      BlankReference session.clientReferenceId session.metadata
  | checkoutcom => ∃ envelope, crates.checkoutcom.envelopeFromSlice rawBody = .ok envelope ∧
      BlankReference envelope.data.reference envelope.data.metadata
  | razorpay | flutterwave => False

/-- The header a rail's deliveries are signed in. -/
def signatureHeader : OfflineRail → String
  | stripe => "Stripe-Signature"
  | razorpay => "X-Razorpay-Signature"
  | flutterwave => "verif-hash"
  | checkoutcom => "Cko-Signature"

/-- The rail's `verify_webhook`, under its configured id and secret. -/
def verifyWebhook (rail : OfflineRail) (id secret : String) (delivery : WebhookDelivery) :
    Except Error WebhookEvent := do
  let event ← (rail.verifyAndParse crates secret delivery.rawBody
    (delivery.headerOrEmpty rail.signatureHeader) delivery.nowUnix).mapError .invalidRequest
  return .settlement id event.eventId event.reference event.settled event.amountMinor event.currency

section Accepted

variable {crates} {rail : OfflineRail} {secret : String} {rawBody : List UInt8} {header : String}
  {nowUnix : UInt64} {event : SettlementEvent}

/-- Every part of the law but the reference, and where that is missing. -/
theorem verifyAndParse_ok
    (accepted : rail.verifyAndParse crates secret rawBody header nowUnix = .ok event) :
    secret ≠ "" ∧ rail.Signed crates secret rawBody header ∧ event.eventId ≠ "" ∧
      (event.reference = "" ↔ rail.BlankBody crates rawBody) ∧
      ∃ positive, FollowsStatus event.settled event.amountMinor positive ∧
        (positive → rail.Settles crates rawBody) := by
  cases rail with
  | stripe =>
    rw [verifyAndParse, Fallible.mapError_eq_ok] at accepted
    obtain ⟨ts, v1, envelope, session, parsed, keyed, spelled, read, handled, decoded, named, blank,
      follows⟩ := Stripe.verifyAndParse_ok accepted
    refine ⟨keyed, ⟨ts, v1, parsed, spelled⟩, named, blank.trans ?_, _, follows, fun paid =>
      ⟨envelope, session, read, by simpa [Stripe.isHandled] using handled, decoded, paid⟩⟩
    constructor
    · intro empty
      exact ⟨envelope, session, read, decoded, empty⟩
    · rintro ⟨envelope', session', read', decoded', empty⟩
      cases read.symm.trans read'
      cases decoded.symm.trans decoded'
      exact empty
  | razorpay =>
    rw [verifyAndParse, Fallible.mapError_eq_ok] at accepted
    obtain ⟨envelope, keyed, spelled, read, handled, named, referenced, follows⟩ :=
      Razorpay.verifyAndParse_ok accepted
    exact ⟨keyed, spelled, named, iff_of_false referenced id, _, follows, fun captured =>
      ⟨envelope, read, handled, captured⟩⟩
  | flutterwave =>
    rw [verifyAndParse, Fallible.mapError_eq_ok] at accepted
    obtain ⟨envelope, keyed, same, read, handled, named, referenced, follows⟩ :=
      Flutterwave.verifyAndParse_ok accepted
    exact ⟨keyed, same, named, iff_of_false referenced id, _, follows, fun successful =>
      ⟨envelope, read, handled, successful⟩⟩
  | checkoutcom =>
    rw [verifyAndParse, Fallible.mapError_eq_ok] at accepted
    obtain ⟨envelope, keyed, spelled, read, handled, named, blank, follows⟩ :=
      CheckoutCom.verifyAndParse_ok accepted
    refine ⟨keyed, spelled, named, blank.trans ?_, _, follows, fun captured =>
      ⟨envelope, read, handled, captured⟩⟩
    constructor
    · intro empty
      exact ⟨envelope, read, empty⟩
    · rintro ⟨envelope', read', empty⟩
      cases read.symm.trans read'
      exact empty

/-- A delivery without the header is not accepted. -/
theorem unsigned_refused : rail.verifyAndParse crates secret rawBody "" nowUnix ≠ .ok event := by
  have blank : trim "" = "" := by decide
  intro accepted
  -- each rail looks for the header first
  cases rail <;> simp [verifyAndParse, Stripe.verifyAndParse, Razorpay.verifyAndParse,
    Flutterwave.verifyAndParse, CheckoutCom.verifyAndParse, Fallible.mapError_eq_ok,
    Fallible.bind_eq_ok, Fallible.ensure_eq_ok, blank] at accepted

theorem verifyWebhook_unsigned {id : String} {delivery : WebhookDelivery} {answer : WebhookEvent}
    (unsigned : delivery.header rail.signatureHeader = none) :
    rail.verifyWebhook crates id secret delivery ≠ .ok answer := by
  intro accepted
  simp only [verifyWebhook, WebhookDelivery.headerOrEmpty, unsigned, Option.getD_none,
    Fallible.bind_eq_ok, Fallible.mapError_eq_ok] at accepted
  obtain ⟨event, verified, -⟩ := accepted
  exact unsigned_refused verified

end Accepted

/-- An accepted delivery obeys the law exactly when its body does not carry an empty reference. -/
theorem accepted_lawful_iff (rail : OfflineRail) (secret : String) (rawBody : List UInt8)
    (header : String) (nowUnix : UInt64) (event : SettlementEvent)
    (accepted : rail.verifyAndParse crates secret rawBody header nowUnix = .ok event) :
    rail.Lawful crates secret rawBody header event ↔ ¬ rail.BlankBody crates rawBody := by
  obtain ⟨keyed, signed, named, blank, positive, follows, settles⟩ := verifyAndParse_ok accepted
  rw [← blank]
  constructor
  · intro lawful
    exact lawful.reference
  · intro referenced
    refine ⟨keyed, signed, named, referenced, ?_, ?_, ?_⟩
    · intro settled
      exact settles (follows.settled_iff.mp settled)
    · intro settled
      exact UInt64.pos_iff_ne_zero.mpr (follows.amount_iff.mp settled)
    · intro unsettled
      by_contra amount
      rw [follows.amount_iff.mpr amount] at unsettled
      cases unsettled

end OfflineRail

section Deliveries

open OfflineRail

/-- Two signed deliveries of Stripe: with a reference, and with an empty one in the metadata. -/
inductive Delivered where
  | named
  | blank

def Delivered.body : Delivered → List UInt8
  | named => asBytes ("\x7b\"id\":\"evt_1\",\"type\":\"checkout.session.completed\",\"data\":\x7b\"object\":" ++
      "\x7b\"id\":\"cs_1\",\"payment_status\":\"paid\",\"amount_total\":5000,\"currency\":\"usd\"," ++
      "\"client_reference_id\":\"ord_1\"\x7d\x7d\x7d")
  | blank => asBytes ("\x7b\"id\":\"evt_1\",\"type\":\"checkout.session.completed\",\"data\":\x7b\"object\":" ++
      "\x7b\"id\":\"cs_1\",\"payment_status\":\"paid\",\"amount_total\":5000,\"currency\":\"usd\"," ++
      "\"metadata\":\x7b\"patala_reference\":\"\"\x7d\x7d\x7d\x7d")

/-- `data.object` of the body. -/
def Delivered.object (delivered : Delivered) : Json.Value :=
  .object ([("id", .string "cs_1"), ("payment_status", .string "paid"),
    ("amount_total", .number "5000"), ("currency", .string "usd")] ++
    match delivered with
    | named => [("client_reference_id", .string "ord_1")]
    | blank => [("metadata", .object [("patala_reference", .string "")])])

def Delivered.session : Delivered → Stripe.StripeSessionPayload
  | named => ⟨"cs_1", "paid", 5000, "usd", "ord_1", [], none⟩
  | blank => ⟨"cs_1", "paid", 5000, "usd", "", [("patala_reference", "")], none⟩

def Delivered.mac : Delivered → List UInt8
  | named => [66, 150, 20, 106, 50, 12, 178, 170, 25, 100, 45, 242, 59, 41, 170, 69,
      177, 50, 23, 128, 116, 76, 192, 5, 82, 230, 157, 125, 227, 100, 200, 160]
  | blank => [7, 59, 38, 237, 126, 12, 99, 150, 8, 131, 24, 241, 234, 61, 115, 172,
      89, 222, 133, 151, 99, 221, 248, 148, 179, 59, 193, 117, 115, 110, 254, 54]

def Delivered.v1 : Delivered → String
  | named => "4296146a320cb2aa19642df23b29aa45b1321780744cc00552e69d7de364c8a0"
  | blank => "073b26ed7e0c6396088318f1ea3d73ac59de859763ddf894b33bc175736efe36"

def Delivered.header (delivered : Delivered) : String := "t=1700000000,v1=" ++ delivered.v1

def Delivered.event (delivered : Delivered) : SettlementEvent where
  eventId := "evt_1"
  reference := delivered.session.clientReferenceId
  settled := true
  amountMinor := 5000
  currency := "USD"

def webhookSecret : String := "whsec_test"

/-- The readers and the MAC on one delivery. -/
def Delivered.stripe (delivered : Delivered) : Stripe.WebhookCrates where
  hmacSha256 key payload :=
    if key = asBytes webhookSecret ∧ payload = Stripe.signedPayload "1700000000" delivered.body then
      delivered.mac
    else []
  envelopeFromSlice bytes :=
    if bytes = delivered.body then .ok ⟨"evt_1", "checkout.session.completed", delivered.object⟩
    else .error "expected value"
  sessionFromValue _ := .ok delivered.session

def Delivered.crates (delivered : Delivered) : OfflineCrates where
  stripe := delivered.stripe
  razorpay := ⟨fun _ _ => [], fun _ => .error "expected value"⟩
  flutterwave := ⟨fun _ => .error "expected value"⟩
  checkoutcom := ⟨fun _ _ => [], fun _ => .error "expected value"⟩

theorem Delivered.v1_decodes (delivered : Delivered) :
    Codec.hexDecode delivered.v1 = some delivered.mac := by
  cases delivered with
  | named => exact Codec.hexDecode_of_chars rfl (by decide)
  | blank => exact Codec.hexDecode_of_chars rfl (by decide)

theorem Delivered.header_parsed (delivered : Delivered) :
    Stripe.parseSignatureHeader (trim delivered.header) = .ok ("1700000000", delivered.v1) := by
  cases delivered <;> decide

theorem Delivered.verified (delivered : Delivered) :
    verifyHmacHex delivered.stripe.hmacSha256 (asBytes webhookSecret)
      (Stripe.signedPayload "1700000000" delivered.body) delivered.v1 = true := by
  have keyed : asBytes webhookSecret ≠ [] := by decide
  have mac : delivered.stripe.hmacSha256 (asBytes webhookSecret)
      (Stripe.signedPayload "1700000000" delivered.body) = delivered.mac := if_pos ⟨rfl, rfl⟩
  have decoded := delivered.v1_decodes
  have written : delivered.v1 ≠ "" := by
    intro empty
    rw [empty] at decoded
    exact absurd decoded (by cases delivered <;> decide)
  rw [verifyHmacHex, trim_of_hexDecode decoded, if_neg (by simp [keyed, written]), decoded]
  exact decide_eq_true mac

theorem Delivered.accepted (delivered : Delivered) :
    OfflineRail.stripe.verifyAndParse delivered.crates webhookSecret delivered.body delivered.header
      1700000000 = .ok delivered.event := by
  have present : trim delivered.header ≠ "" := by
    intro blank
    have parsed := delivered.header_parsed
    rw [blank] at parsed
    exact absurd parsed (by cases delivered <;> decide)
  have nonempty : delivered.body ≠ [] := by cases delivered <;> decide
  have stamped : (parseSigned (-2 ^ 63) (2 ^ 63 - 1) "1700000000").elim
      (.error Stripe.StripeWebhookError.invalidSignature) .ok = Except.ok (1700000000 : Int) := by
    decide
  apply Fallible.mapError_eq_ok.mpr
  simp only [Stripe.verifyAndParse, Fallible.bind_eq_ok, Fallible.ensure_eq_ok,
    Fallible.mapError_eq_ok, exists_const]
  refine ⟨present, nonempty, ("1700000000", delivered.v1), delivered.header_parsed,
    delivered.verified, 1700000000, stamped, by decide, _, if_pos rfl, rfl, delivered.session, rfl,
    ⟨delivered.session.clientReferenceId, true, 5000, "USD"⟩, ?_, rfl⟩
  cases delivered <;> decide

theorem named_delivery_lawful :
    OfflineRail.stripe.Lawful Delivered.named.crates webhookSecret Delivered.named.body
      Delivered.named.header Delivered.named.event := by
  refine (accepted_lawful_iff Delivered.named.crates .stripe webhookSecret Delivered.named.body
    Delivered.named.header 1700000000 Delivered.named.event Delivered.named.accepted).mpr ?_
  rintro ⟨envelope, session, read, decoded, blank⟩
  cases decoded
  exact absurd blank.1 (by decide)

/-- A signed, paid session with an empty reference in its metadata is accepted without one. -/
theorem blank_delivery_accepted :
    OfflineRail.stripe.verifyAndParse Delivered.blank.crates webhookSecret Delivered.blank.body
        Delivered.blank.header 1700000000 = .ok Delivered.blank.event ∧
      ¬ OfflineRail.stripe.Lawful Delivered.blank.crates webhookSecret Delivered.blank.body
        Delivered.blank.header Delivered.blank.event :=
  ⟨Delivered.blank.accepted, fun lawful => lawful.reference rfl⟩

end Deliveries

end Patala.Fiat
