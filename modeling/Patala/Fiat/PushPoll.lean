import Patala.Fiat.Midtrans
import Patala.Fiat.MollieWebhook
import Patala.Fiat.PushLaw
import Patala.Fiat.WebhookLaw
import Patala.Fiat.XenditInvoices

/-! The two ways a payment is heard of. A rail is told of it by a webhook and asks about it when
it verifies a receipt; where both come upon the same payment, what was told decides what the
verifier says. -/

namespace Patala.Fiat

open Fallible

/-- A rail that is told of payments and asks about them. -/
structure ToldAndAsked where
  railId : String
  Payment : Type
  evaluate : Payment → Except Error Outcome
  /-- The delivery is accepted as an event, and it tells of this payment. -/
  Tells : WebhookDelivery → List (Request × Reply) → Payment → WebhookEvent → Prop
  /-- The reply shows this payment, and nothing else that the verifier would look at. -/
  Answers : Reply → Payment → Prop
  lookup : Receipt → Option Request
  verify : Receipt → Talk Bool
  /-- The verifier compares the payment's reference with the receipt's. -/
  byReference : Bool

/-- What an event tells covers the receipt. -/
structure WebhookEvent.Covers (event : WebhookEvent) (receipt : Receipt) : Prop where
  settled : event.isSettled = true
  currency : eqIgnoreAsciiCase event.currency receipt.currency = true
  amount : receipt.amountMinor ≤ event.amountMinor

theorem settlement_covers_iff {railId eventId objectId : String} {outcome : Outcome}
    {receipt : Receipt} :
    WebhookEvent.Covers ((WebhookEvent.settlement railId eventId outcome.reference outcome.settled
      outcome.amountMinor outcome.currency).withObjectId objectId) receipt ↔
      outcome.covers receipt = true := by
  rw [Outcome.covers_iff]
  cases settled : outcome.settled with
  | true =>
    constructor
    · intro ⟨_, currency, amount⟩
      exact ⟨rfl, currency, amount⟩
    · intro ⟨_, currency, amount⟩
      exact ⟨rfl, currency, amount⟩
  | false =>
    constructor
    · intro covers
      cases covers.settled
    · intro ⟨no, _⟩
      cases no

/-- The event of an outcome. -/
def Outcome.event (outcome : Outcome) (railId eventId objectId : String) : WebhookEvent :=
  (WebhookEvent.settlement railId eventId outcome.reference outcome.settled outcome.amountMinor
    outcome.currency).withObjectId objectId

/-- The question a rail asks about its own receipts. -/
def ownLookup (railId : String) (lookup : Receipt → Option Request) (receipt : Receipt) :
    Option Request :=
  if receipt.railId = railId then lookup receipt else none

theorem ownLookup_eq_some {railId : String} {lookup : Receipt → Option Request} {receipt : Receipt}
    {question : Request} : ownLookup railId lookup receipt = some question ↔
      receipt.railId = railId ∧ lookup receipt = some question := by
  unfold ownLookup
  split
  · rename_i own
    simp [own]
  · rename_i other
    simp [other]

theorem map_ok {α β : Type} {result : Except Error α} {value : α} {f : α → β}
    (ok : result = .ok value) : result.map f = .ok (f value) := by
  rw [ok, Except.map]

theorem map_eq_ok {α β : Type} {result : Except Error α} {f : α → β} {value : β}
    (ok : result.map f = .ok value) : ∃ found, result = .ok found ∧ f found = value := by
  cases result with
  | error failure => cases ok
  | ok found =>
    cases ok
    exact ⟨found, rfl, rfl⟩

theorem outcome_of_decoded {α : Type} {fromSlice : FromSlice α}
    {evaluate : α → Except Error Outcome} {reply : Reply} {value : α} {outcome : Outcome}
    (decoded : reply.decoded fromSlice = some value) (evaluated : evaluate value = .ok outcome) :
    reply.outcome fromSlice evaluate = some outcome := by
  obtain ⟨body, accepted, read⟩ := Reply.decoded_eq_some.mp decoded
  exact Reply.outcome_eq_some.mpr ⟨body, value, accepted, read, evaluated⟩

section Judged

variable {receipt : Receipt} {railId : String} {verify : Talk Bool} {question : Request}
  {reply : Reply} {outcome : Outcome}

/-- A verifier that reads one outcome under the id in the proof judges by it. -/
theorem judged_of_proof {lookup : Option Request} {readOutcome : Reply → Option Outcome}
    (yes : ∀ transcript, verify.Yields transcript (.ok true) ↔ receipt.railId = railId ∧
      ∃ question, lookup = some question ∧ ∃ reply outcome, transcript = [(question, reply)] ∧
        readOutcome reply = some outcome ∧ outcome.covers receipt)
    (own : receipt.railId = railId) (asked : lookup = some question)
    (read : readOutcome reply = some outcome) :
    verify.Yields [(question, reply)] (.ok true) ↔ outcome.covers receipt := by
  rw [yes]
  constructor
  · intro ⟨_, _, _, reply', outcome', same, read', covers⟩
    cases same
    cases read.symm.trans read'
    exact covers
  · intro covers
    exact ⟨own, question, asked, reply, outcome, rfl, read, covers⟩

/-- A verifier that reads amounts under the receipt's reference judges by the one it finds. -/
theorem judged_of_reference {lookup : Option Request} {Reports : Reply → UInt64 → Prop}
    (yes : ∀ transcript, verify.Yields transcript (.ok true) ↔ receipt.railId = railId ∧
      ∃ question, lookup = some question ∧ ∃ reply amount, transcript = [(question, reply)] ∧
        Reports reply amount ∧ receipt.amountMinor ≤ amount)
    (own : receipt.railId = railId) (asked : lookup = some question) {property : Prop}
    (reports : (∃ amount, Reports reply amount ∧ receipt.amountMinor ≤ amount) ↔ property) :
    verify.Yields [(question, reply)] (.ok true) ↔ property := by
  rw [yes, ← reports]
  constructor
  · intro ⟨_, _, _, reply', amount, same, found, enough⟩
    cases same
    exact ⟨amount, found, enough⟩
  · intro ⟨amount, found, enough⟩
    exact ⟨own, question, asked, reply, amount, rfl, found, enough⟩

end Judged

theorem reports_of_decoded {α : Type} {fromSlice : FromSlice α} {Reports : α → UInt64 → Prop}
    {reply : Reply} {value : α} {claimed : UInt64} (decoded : reply.decoded fromSlice = some value) :
    (∃ amount, (∃ parsed, reply.decoded fromSlice = some parsed ∧ Reports parsed amount) ∧
      claimed ≤ amount) ↔ ∃ amount, Reports value amount ∧ claimed ≤ amount := by
  simp only [decoded, Option.some.injEq, exists_eq_left']

/-- A verifier that fetches one value says what its verdict on it is. -/
theorem judged_of_lookup {α : Type} {label path : String} {question : Request}
    {classifyError : UInt16 → List UInt8 → Error} {fromSlice : FromSlice α} {verdict : α → Bool}
    {verify : Talk Bool} (fetches : verify = (do
      let value ← fetch label path question classifyError fromSlice
      return verdict value : Talk Bool))
    {reply : Reply} {value : α} (decoded : reply.decoded fromSlice = some value) :
    verify.Yields [(question, reply)] (.ok true) ↔ verdict value = true := by
  rw [fetches, fetch_true]
  constructor
  · intro ⟨answer, found, same, read, yes⟩
    cases same
    cases decoded.symm.trans read
    exact yes
  · intro yes
    exact ⟨reply, value, rfl, decoded, yes⟩

namespace Flutterwave

theorem evaluateTransaction_reference {t : FlutterwaveTransactionPayload}
    {outcome : TransactionOutcome} (evaluated : evaluateTransaction t = .ok outcome) :
    outcome.reference = t.txRef ∧ t.txRef ≠ "" := by
  unfold evaluateTransaction at evaluated
  split at evaluated
  · cases evaluated
  rename_i named
  obtain ⟨minor, -, evaluated⟩ := bind_eq_ok.mp evaluated
  split at evaluated
  · split at evaluated
    · cases evaluated
    · cases evaluated
      exact ⟨rfl, named⟩
  · cases evaluated
    exact ⟨rfl, named⟩

theorem settles_of_evaluated {t : FlutterwaveTransactionPayload} {outcome : TransactionOutcome}
    (evaluated : evaluateTransaction t = .ok outcome) {reference : String} {receipt : Receipt} :
    (VerifyResponse.mk "success" t).settles reference receipt = true ↔
      outcome.reference = reference ∧ outcome.covers receipt = true := by
  obtain ⟨same, named⟩ := evaluateTransaction_reference evaluated
  unfold VerifyResponse.settles
  rw [evaluated, same]
  by_cases own : t.txRef = reference
  · simp [own]
  · simp [own, named]

end Flutterwave

namespace MercadoPago

theorem settles_of_evaluated {p : Payment} {outcome : PaymentOutcome}
    (evaluated : evaluatePayment p = .ok outcome) {receipt : Receipt} :
    (SearchResponse.mk [p]).settles receipt = true ↔
      outcome.reference = receipt.reference.text ∧ outcome.covers receipt = true := by
  obtain ⟨-, same, -⟩ := MercadoPagoRail.evaluatePayment_ok evaluated
  simp only [SearchResponse.settles, Payment.settles, evaluated, same, List.isEmpty_cons,
    List.any_cons, List.any_nil, Bool.or_false]
  by_cases own : p.externalReference = receipt.reference.text
  · simp [own]
  · simp [own]

end MercadoPago

namespace Paystack

/-- What the webhook makes of the data that it and the verifier are both given. -/
def evaluateData (data : VerifyData) : Except Error Outcome :=
  if data.reference = "" ∨ data.amount = 0 then
    .error (malformed "missing reference or non-positive amount")
  else .ok ⟨data.reference, data.status = "success", data.amount, data.currency⟩

theorem settles_of_evaluated {data : VerifyData} {outcome : Outcome}
    (evaluated : evaluateData data = .ok outcome) {reference : String} {receipt : Receipt} :
    (VerifyResponse.mk true data).settles reference receipt = true ↔
      outcome.reference = reference ∧ outcome.covers receipt = true := by
  unfold evaluateData at evaluated
  split at evaluated
  · cases evaluated
  rename_i present
  cases evaluated
  obtain ⟨named, -⟩ := not_or.mp present
  unfold VerifyResponse.settles Outcome.covers isSettledSuccess
  by_cases own : data.reference = reference
  · simp [own]
  · simp [own, named]

end Paystack

namespace Square

theorem SquareRail.verify_payment (rail : SquareRail) {receipt : Receipt} {question : Request}
    (own : receipt.railId = railId) (asked : rail.lookupRequest receipt.proof = some question) :
    ∃ path, rail.verify receipt = (do
      let parsed ← fetch "square" path question rail.classifyError rail.verifyFromSlice
      return matchPayment receipt parsed.payment : Talk Bool) := by
  obtain ⟨proof, paymentId, decoded, safe, rfl⟩ := lookupRequest_eq_some.mp asked
  refine ⟨paymentPath paymentId, ?_⟩
  rw [verify, if_neg (not_not_intro own), decoded]
  dsimp only
  rw [safe]
  rfl

theorem matchPayment_of_evaluated {payment : SquarePaymentPayload}
    {outcome : SquareSettlementOutcome} (evaluated : parseSquarePayment payment = .ok outcome)
    {receipt : Receipt} : matchPayment receipt payment = true ↔
      outcome.reference = receipt.reference.text ∧ outcome.covers receipt = true := by
  unfold matchPayment
  rw [evaluated]
  by_cases own : outcome.reference = receipt.reference.text
  · simp [own]
  · simp [own]

end Square

namespace Midtrans

theorem MidtransRail.verify_status (rail : MidtransRail) {receipt : Receipt} {reference : String}
    (own : receipt.railId = railId) (safe : safePathSegment receipt.reference.text = .ok reference) :
    rail.verify receipt = (do
      let parsed ← fetch "midtrans" (statusPath reference)
        (rail.request rail.coreBaseUrl .get (statusPath reference) none) rail.classifyError
        rail.statusFromSlice
      return parsed.settles reference receipt : Talk Bool) := by
  rw [verify, if_neg (not_not_intro own), safe]
  dsimp only
  rw [getStatus]

theorem settles_of_evaluated {s : MidtransTransactionStatus} {outcome : StatusOutcome}
    (evaluated : evaluateStatus s = .ok outcome) {reference : String} {receipt : Receipt} :
    s.settles reference receipt = true ↔ s.orderId = reference ∧
      (Outcome.mk s.orderId outcome.settled outcome.amountMinor outcome.currency).covers receipt =
        true := by
  obtain ⟨named, -⟩ := evaluateStatus_ok.mp evaluated
  unfold MidtransTransactionStatus.settles Outcome.covers
  rw [evaluated]
  by_cases own : s.orderId = reference
  · simp [own]
  · simp [own, named]

end Midtrans

namespace Xendit

theorem invoiceToOutcome_reference {rail : XenditRail} {inv : XenditInvoice}
    {outcome : InvoiceOutcome} (evaluated : rail.invoiceToOutcome inv = .ok outcome) :
    outcome.reference = inv.externalId := by
  unfold XenditRail.invoiceToOutcome at evaluated
  split at evaluated
  · cases evaluated
  split at evaluated
  · cases evaluated
  split at evaluated
  · cases evaluated
  split at evaluated
  · split at evaluated
    · cases evaluated
    split at evaluated
    · cases evaluated
    cases evaluated
    rfl
  · cases evaluated
    rfl

theorem settles_of_evaluated {rail : XenditRail} {inv : XenditInvoice} {outcome : InvoiceOutcome}
    (evaluated : rail.invoiceToOutcome inv = .ok outcome) (rest : List XenditInvoice)
    {reference : String} {receipt : Receipt} :
    rail.settles (inv :: rest) reference receipt = true ↔ outcome.reference = reference ∧
      (Outcome.mk outcome.reference outcome.settled outcome.amountMinor outcome.currency).covers
        receipt = true := by
  have same := invoiceToOutcome_reference evaluated
  unfold XenditRail.settles Outcome.covers
  rw [List.head?_cons]
  dsimp only
  rw [evaluated, same]
  by_cases own : inv.externalId = reference
  · simp [own]
  · simp [own]

end Xendit

/-- The rails whose webhook and verifier come upon the same object. -/
inductive ToldRail where
  | stripe (rail : Stripe.StripeRail) (crates : OfflineCrates) (secret : String)
  | checkoutCom (rail : CheckoutCom.CheckoutComRail) (crates : OfflineCrates) (secret : String)
  | flutterwave (rail : Flutterwave.FlutterwaveRail) (crates : OfflineCrates) (secret : String)
  | paystack (rail : Paystack.PaystackRail) (webhook : Paystack.Webhook)
  | square (rail : Square.SquareRail) (webhook : Square.Webhook)
  | xendit (rail : Xendit.XenditRail) (webhookToken : String)
  | midtrans (rail : Midtrans.MidtransRail)
  | mollie (rail : Mollie.MollieRail) (utf8Error : List UInt8 → String)
  | mercadoPago (rail : MercadoPago.MercadoPagoRail) (webhook : MercadoPago.Webhook)

namespace ToldRail

/-- What each rail does, in the form they share. -/
def form : ToldRail → ToldAndAsked
  | stripe rail crates secret => {
    railId := Stripe.railId
    Payment := Stripe.StripeSessionPayload
    evaluate := Stripe.evaluateSession
    Tells := fun delivery transcript session event => transcript = [] ∧
      OfflineRail.stripe.verifyWebhook crates Stripe.railId secret delivery = .ok event ∧
      ∃ envelope, crates.stripe.envelopeFromSlice delivery.rawBody = .ok envelope ∧
        crates.stripe.sessionFromValue envelope.object = .ok session
    Answers := fun reply session => reply.decoded rail.sessionFromSlice = some session
    lookup := ownLookup Stripe.railId fun receipt => rail.lookupRequest receipt.proof
    verify := rail.verify
    byReference := false }
  | checkoutCom rail crates secret => {
    railId := CheckoutCom.railId
    Payment := CheckoutCom.PaymentPayload
    evaluate := CheckoutCom.evaluatePayment
    Tells := fun delivery transcript payment event => transcript = [] ∧
      OfflineRail.checkoutcom.verifyWebhook crates CheckoutCom.railId secret delivery = .ok event ∧
      ∃ envelope, crates.checkoutcom.envelopeFromSlice delivery.rawBody = .ok envelope ∧
        envelope.data = payment
    Answers := fun reply payment => reply.decoded rail.paymentFromSlice = some payment
    lookup := ownLookup CheckoutCom.railId fun receipt => rail.lookupRequest receipt.proof
    verify := rail.verify
    byReference := false }
  | flutterwave rail crates secret => {
    railId := Flutterwave.railId
    Payment := Flutterwave.FlutterwaveTransactionPayload
    evaluate := fun payment => (Flutterwave.evaluateTransaction payment).map (·.toOutcome)
    Tells := fun delivery transcript payment event => transcript = [] ∧
      OfflineRail.flutterwave.verifyWebhook crates Flutterwave.railId secret delivery = .ok event ∧
      ∃ envelope, crates.flutterwave.envelopeFromSlice delivery.rawBody = .ok envelope ∧
        envelope.data = payment
    Answers := fun reply payment =>
      reply.decoded rail.verifyFromSlice = some ⟨"success", payment⟩
    lookup := ownLookup Flutterwave.railId fun receipt => rail.lookupRequest receipt.reference.text
    verify := rail.verify
    byReference := true }
  | paystack rail webhook => {
    railId := Paystack.railId
    Payment := Paystack.VerifyData
    evaluate := Paystack.evaluateData
    Tells := fun delivery transcript data event => transcript = [] ∧
      webhook.verifyWebhook delivery = .ok event ∧
      ∃ envelope, webhook.envelopeFromSlice delivery.rawBody = .ok envelope ∧
        data = ⟨envelope.data.status, envelope.data.reference, envelope.data.amount,
          envelope.data.currency⟩
    Answers := fun reply data => reply.decoded rail.verifyFromSlice = some ⟨true, data⟩
    lookup := ownLookup Paystack.railId fun receipt => rail.lookupRequest receipt.reference.text
    verify := rail.verify
    byReference := true }
  | square rail webhook => {
    railId := Square.railId
    Payment := Square.SquarePaymentPayload
    evaluate := fun payment => (Square.parseSquarePayment payment).map (·.toOutcome)
    Tells := fun delivery transcript payment event => transcript = [] ∧
      webhook.verifyWebhook delivery = .ok event ∧
      ∃ envelope, webhook.envelopeFromSlice delivery.rawBody = .ok envelope ∧
        envelope.payment = payment
    Answers := fun reply payment => reply.decoded rail.verifyFromSlice = some ⟨payment⟩
    lookup := ownLookup Square.railId fun receipt => rail.lookupRequest receipt.proof
    verify := rail.verify
    byReference := true }
  | xendit rail token => {
    railId := Xendit.railId
    Payment := Xendit.XenditInvoice
    evaluate := fun inv => (rail.invoiceToOutcome inv).map fun outcome =>
      ⟨outcome.reference, outcome.settled, outcome.amountMinor, outcome.currency⟩
    Tells := fun delivery transcript inv event => transcript = [] ∧
      rail.verifyWebhook token delivery = .ok event ∧
      rail.invoiceFromSlice delivery.rawBody = .ok inv
    Answers := fun reply inv => ∃ rest, reply.decoded rail.invoicesFromSlice = some (inv :: rest)
    lookup := ownLookup Xendit.railId fun receipt =>
      (Xendit.safeQueryValue receipt.reference.text).toOption.map fun reference =>
        rail.jsonRequest .get (Xendit.XenditRail.verifyPath reference) none
    verify := rail.verify
    byReference := true }
  | midtrans rail => {
    railId := Midtrans.railId
    Payment := Midtrans.MidtransTransactionStatus
    evaluate := fun s => (Midtrans.evaluateStatus s).map fun outcome =>
      ⟨s.orderId, outcome.settled, outcome.amountMinor, outcome.currency⟩
    Tells := fun delivery transcript s event => transcript = [] ∧
      rail.verifyWebhook delivery = .ok event ∧ rail.statusFromSlice delivery.rawBody = .ok s
    Answers := fun reply s => reply.decoded rail.statusFromSlice = some s
    lookup := ownLookup Midtrans.railId fun receipt =>
      (Midtrans.safePathSegment receipt.reference.text).toOption.map fun reference =>
        rail.request rail.coreBaseUrl .get (Midtrans.MidtransRail.statusPath reference) none
    verify := rail.verify
    byReference := true }
  | mollie rail utf8Error => {
    railId := Mollie.railId
    Payment := Mollie.PaymentPayload
    evaluate := Mollie.evaluatePayment
    Tells := fun delivery transcript payment event =>
      (rail.verifyWebhook utf8Error delivery).Yields transcript (.ok event) ∧
      ∃ question reply, transcript = [(question, reply)] ∧
        reply.decoded rail.paymentFromSlice = some payment
    Answers := fun reply payment => reply.decoded rail.paymentFromSlice = some payment
    lookup := ownLookup Mollie.railId fun receipt => rail.lookupRequest receipt.proof
    verify := rail.verify
    byReference := false }
  | mercadoPago rail webhook => {
    railId := MercadoPago.railId
    Payment := MercadoPago.Payment
    evaluate := fun payment => (MercadoPago.evaluatePayment payment).map (·.toOutcome)
    Tells := fun delivery transcript payment event =>
      (rail.verifyWebhook webhook delivery).Yields transcript (.ok event) ∧
      ∃ question reply, transcript = [(question, reply)] ∧
        reply.decoded webhook.paymentFromSlice = some payment
    Answers := fun reply payment => reply.decoded rail.searchFromSlice = some ⟨[payment]⟩
    lookup := ownLookup MercadoPago.railId fun receipt => rail.lookupRequest receipt.reference.text
    verify := rail.verify
    byReference := true }

variable {delivery : WebhookDelivery} {transcript : List (Request × Reply)} {event : WebhookEvent}

/-- An accepted delivery says what its payment comes to. -/
theorem told (rail : ToldRail) {payment : rail.form.Payment}
    (tells : rail.form.Tells delivery transcript payment event) :
    ∃ outcome eventId objectId, rail.form.evaluate payment = .ok outcome ∧
      event = outcome.event rail.form.railId eventId objectId := by
  cases rail with
  | stripe rail crates secret =>
    obtain ⟨-, accepted, envelope, read, decoded⟩ := tells
    simp only [OfflineRail.verifyWebhook, OfflineRail.verifyAndParse, Stripe.verifyAndParse,
      bind_eq_ok, mapError_eq_ok, ensure_eq_ok, exists_const] at accepted
    obtain ⟨said, ⟨-, -, _, -, -, _, -, -, envelope', read', -, session, decoded', outcome,
      evaluated, parsed⟩, same⟩ := accepted
    cases read.symm.trans read'
    cases decoded.symm.trans decoded'
    cases parsed
    cases same
    exact ⟨outcome, _, "", evaluated, rfl⟩
  | checkoutCom rail crates secret =>
    obtain ⟨-, accepted, envelope, read, own⟩ := tells
    simp only [OfflineRail.verifyWebhook, OfflineRail.verifyAndParse, CheckoutCom.verifyAndParse,
      bind_eq_ok, mapError_eq_ok, ensure_eq_ok, exists_const] at accepted
    obtain ⟨said, ⟨-, -, envelope', read', -, outcome, evaluated, -, parsed⟩, same⟩ := accepted
    cases read.symm.trans read'
    cases own
    cases parsed
    cases same
    exact ⟨outcome, _, "", evaluated, rfl⟩
  | flutterwave rail crates secret =>
    obtain ⟨-, accepted, envelope, read, own⟩ := tells
    simp only [OfflineRail.verifyWebhook, OfflineRail.verifyAndParse, Flutterwave.verifyAndParse,
      bind_eq_ok, mapError_eq_ok, ensure_eq_ok, exists_const] at accepted
    obtain ⟨said, ⟨-, -, envelope', read', -, -, outcome, evaluated, parsed⟩, same⟩ := accepted
    cases read.symm.trans read'
    cases own
    cases parsed
    cases same
    exact ⟨outcome.toOutcome, _, "", map_ok evaluated, rfl⟩
  | paystack rail webhook =>
    obtain ⟨-, accepted, envelope, read, rfl⟩ := tells
    obtain ⟨-, -, envelope', paid, read', succeeded, rfl, complete, rfl⟩ :=
      Paystack.Webhook.verifyWebhook_ok accepted
    cases read.symm.trans read'
    refine ⟨⟨envelope.data.reference, true, envelope.data.amount, envelope.data.currency⟩, _, "", ?_,
      rfl⟩
    show Paystack.evaluateData _ = _
    rw [Paystack.evaluateData, if_neg (not_or.mpr ⟨complete.reference, complete.amountMinor⟩)]
    simp [succeeded]
  | square rail webhook =>
    obtain ⟨-, accepted, envelope, read, rfl⟩ := tells
    obtain ⟨-, -, envelope', paid, read', -, rfl, -, parsed⟩ :=
      Square.Webhook.verifyWebhook_ok accepted
    cases read.symm.trans read'
    exact ⟨_, _, _, map_ok parsed, rfl⟩
  | xendit rail token =>
    obtain ⟨-, accepted, read⟩ := tells
    obtain ⟨-, -, inv, paid, read', -, rfl, -, -, evaluated⟩ :=
      Xendit.XenditRail.verifyWebhook_ok accepted
    cases read.symm.trans read'
    exact ⟨_, _, "", map_ok evaluated, rfl⟩
  | midtrans rail =>
    obtain ⟨-, accepted, read⟩ := tells
    obtain ⟨parsed, parsing, same⟩ := bind_eq_ok.mp accepted
    have checked := mapError_eq_ok.mp parsing
    simp only [Midtrans.MidtransRail.verifyAndParse, read] at checked
    split at checked
    · cases checked
    split at checked
    · cases checked
    split at checked
    · cases checked
    split at checked
    · cases checked
    rename_i outcome evaluated
    cases checked
    cases same
    exact ⟨_, outcome.eventId, "", map_ok evaluated, rfl⟩
  | mollie rail utf8Error =>
    obtain ⟨accepted, question, reply, asked, decoded⟩ := tells
    obtain ⟨paymentId, segment, reply', payment', outcome, -, -, asked', decoded', evaluated, said⟩ :=
      (rail.verifyWebhook_ok utf8Error).mp accepted
    cases asked.symm.trans asked'
    cases decoded.symm.trans decoded'
    exact ⟨outcome, paymentId, paymentId, evaluated, said⟩
  | mercadoPago rail webhook =>
    obtain ⟨accepted, question, reply, asked, decoded⟩ := tells
    obtain ⟨-, dataId, payment', reply', outcome, -, asked', decoded', -, evaluated, said⟩ :=
      MercadoPago.MercadoPagoRail.verifyWebhook_ok accepted
    cases asked.symm.trans asked'
    cases decoded.symm.trans decoded'
    exact ⟨outcome.toOutcome, dataId, dataId, map_ok evaluated, said⟩

/-- The verifier judges a receipt by the payment that it is answered with. -/
theorem judged (rail : ToldRail) {payment : rail.form.Payment} {receipt : Receipt}
    {question : Request} {reply : Reply} {outcome : Outcome}
    (asked : rail.form.lookup receipt = some question) (answers : rail.form.Answers reply payment)
    (evaluated : rail.form.evaluate payment = .ok outcome) :
    (rail.form.verify receipt).Yields [(question, reply)] (.ok true) ↔
      (rail.form.byReference = true → outcome.reference = receipt.reference.text) ∧
        outcome.covers receipt := by
  cases rail with
  | stripe rail crates secret =>
    simp only [form, ownLookup_eq_some] at asked answers evaluated ⊢
    obtain ⟨own, asked⟩ := asked
    rw [judged_of_proof (fun _ => rail.verify_true) own asked
      (outcome_of_decoded answers evaluated)]
    simp
  | checkoutCom rail crates secret =>
    simp only [form, ownLookup_eq_some] at asked answers evaluated ⊢
    obtain ⟨own, asked⟩ := asked
    rw [judged_of_proof (fun _ => rail.verify_true) own asked
      (outcome_of_decoded answers evaluated)]
    simp
  | flutterwave rail crates secret =>
    simp only [form, ownLookup_eq_some] at asked answers evaluated ⊢
    obtain ⟨own, asked⟩ := asked
    obtain ⟨found, came, rfl⟩ := map_eq_ok evaluated
    rw [judged_of_reference (fun _ => rail.verify_true) own asked Iff.rfl]
    unfold Flutterwave.FlutterwaveRail.Reports
    rw [reports_of_decoded answers, ← Flutterwave.VerifyResponse.settles_iff,
      Flutterwave.settles_of_evaluated came]
    simp
  | paystack rail webhook =>
    simp only [form, ownLookup_eq_some] at asked answers evaluated ⊢
    obtain ⟨own, asked⟩ := asked
    rw [judged_of_reference (fun _ => rail.verify_true) own asked Iff.rfl]
    unfold Paystack.PaystackRail.Reports
    rw [reports_of_decoded answers, ← Paystack.VerifyResponse.settles_iff,
      Paystack.settles_of_evaluated evaluated]
    simp
  | square rail webhook =>
    simp only [form, ownLookup_eq_some] at asked answers evaluated ⊢
    obtain ⟨own, asked⟩ := asked
    obtain ⟨found, came, rfl⟩ := map_eq_ok evaluated
    obtain ⟨path, fetches⟩ := rail.verify_payment own asked
    rw [judged_of_lookup fetches answers, Square.matchPayment_of_evaluated came]
    simp
  | xendit rail token =>
    simp only [form, ownLookup_eq_some] at asked answers evaluated ⊢
    obtain ⟨own, asked⟩ := asked
    obtain ⟨reference, safe, rfl⟩ := Option.map_eq_some_iff.mp asked
    obtain ⟨found, came, rfl⟩ := map_eq_ok evaluated
    obtain ⟨rest, decoded⟩ := answers
    rw [rail.verify_settles_iff own (toOption_eq_some.mp safe) decoded,
      Xendit.settles_of_evaluated came]
    simp
  | midtrans rail =>
    simp only [form, ownLookup_eq_some] at asked answers evaluated ⊢
    obtain ⟨own, asked⟩ := asked
    obtain ⟨reference, safe, rfl⟩ := Option.map_eq_some_iff.mp asked
    obtain ⟨found, came, rfl⟩ := map_eq_ok evaluated
    have same : reference = receipt.reference.text :=
      safePathSegment_ok (toOption_eq_some.mp safe)
    rw [judged_of_lookup (rail.verify_status own (toOption_eq_some.mp safe)) answers,
      Midtrans.settles_of_evaluated came, same]
    simp
  | mollie rail utf8Error =>
    simp only [form, ownLookup_eq_some] at asked answers evaluated ⊢
    obtain ⟨own, asked⟩ := asked
    rw [judged_of_proof (fun _ => rail.verify_true) own asked
      (outcome_of_decoded answers evaluated)]
    simp
  | mercadoPago rail webhook =>
    simp only [form, ownLookup_eq_some] at asked answers evaluated ⊢
    obtain ⟨own, asked⟩ := asked
    obtain ⟨found, came, rfl⟩ := map_eq_ok evaluated
    rw [judged_of_reference (fun _ => rail.verify_true) own asked Iff.rfl]
    unfold MercadoPago.MercadoPagoRail.Reports
    rw [reports_of_decoded answers, ← MercadoPago.SearchResponse.settles_iff,
      MercadoPago.settles_of_evaluated came]
    simp

end ToldRail

/-- Where the rail is told of a payment and asks about the same one, its verifier says yes exactly
when what was told is settled, in the receipt's currency and for no less than its amount, and, at
the rails that compare references, for the receipt's reference. -/
theorem push_poll_agree (rail : ToldRail) (delivery : WebhookDelivery)
    (transcript : List (Request × Reply)) (payment : rail.form.Payment) (event : WebhookEvent)
    (tells : rail.form.Tells delivery transcript payment event) (receipt : Receipt)
    (question : Request) (asked : rail.form.lookup receipt = some question) (reply : Reply)
    (answers : rail.form.Answers reply payment) :
    (rail.form.verify receipt).Yields [(question, reply)] (.ok true) ↔
      (rail.form.byReference = true → event.reference = receipt.reference.text) ∧
        WebhookEvent.Covers event receipt := by
  obtain ⟨outcome, eventId, objectId, evaluated, rfl⟩ := rail.told tells
  rw [rail.judged asked answers evaluated, Outcome.event, settlement_covers_iff]
  rfl

/-- The invoice that was told of, found again under its order. -/
theorem push_poll_agree_invoice : (invoiced.verify Xendit.order1).Yields
    [(invoiced.jsonRequest .get (Xendit.XenditRail.verifyPath "ord_1") none,
      .answered 200 invoicesBody)] (.ok true) := by
  have told : (ToldRail.xendit invoiced "cb_token").form.Tells invoiceDelivery [] invoice
      (.settlement Xendit.railId "inv_1" "ord_1" true 1000000 "IDR") := by
    obtain ⟨none_asked, verified⟩ := PushRail.yields_lift_some.mp invoice_accepted
    exact ⟨none_asked, verified, invoiceDelivery_rawBody ▸ invoice_read⟩
  have safe : Xendit.safeQueryValue Xendit.order1.reference.text = .ok "ord_1" := by decide
  have asked : (ToldRail.xendit invoiced "cb_token").form.lookup Xendit.order1 =
      some (invoiced.jsonRequest .get (Xendit.XenditRail.verifyPath "ord_1") none) := by
    simp only [ToldRail.form, ownLookup_eq_some, safe]
    exact ⟨rfl, rfl⟩
  have answers : (ToldRail.xendit invoiced "cb_token").form.Answers
      (.answered 200 invoicesBody) invoice := by
    have short : invoicesBody.length ≤ defaultMaxBodyBytes := by decide +kernel
    have accepted : (Reply.answered 200 invoicesBody).accepted = some invoicesBody := by
      rw [Reply.accepted, if_pos]
      exact ⟨short, by decide⟩
    refine ⟨[], Reply.decoded_eq_some.mpr ⟨invoicesBody, accepted, ?_⟩⟩
    simp only [invoiced, if_true]
  have agree := push_poll_agree (.xendit invoiced "cb_token") invoiceDelivery [] invoice _ told
    Xendit.order1 _ asked _ answers
  exact agree.mpr ⟨fun _ => rfl, rfl, by decide, by decide⟩

end Patala.Fiat
