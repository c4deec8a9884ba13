import Patala.Fiat.CoinbaseCommerce
import Patala.Fiat.Midtrans
import Patala.Fiat.MollieWebhook
import Patala.Lib.Dedup

/-! What is left of the deliveries about a payment once the repeats of an event id are dropped.
Midtrans, Mollie and Coinbase Commerce take the id of the payment for the id of the delivery, so
the first delivery about a payment is the only one that is processed. -/

namespace Patala

namespace WebhookEvent

variable {railId eventId reference objectId currency currency' : String} {settled settled' : Bool}
  {amountMinor amountMinor' : UInt64}

/-- Two settlements of one payment say the same exactly when they agree on settling and, if they
settle, on the money. -/
theorem settlement_agrees_iff {event event' : WebhookEvent}
    (said : event = (settlement railId eventId reference settled amountMinor
      currency).withObjectId objectId)
    (said' : event' = (settlement railId eventId reference settled' amountMinor'
      currency').withObjectId objectId) :
    event.status = event'.status ∧ (event.status = .settled → event = event') ↔
      settled = settled' ∧ (settled → amountMinor = amountMinor' ∧ currency = currency') := by
  subst said said'
  cases settled <;> cases settled' <;> simp [settlement, withObjectId]

end WebhookEvent

namespace Fiat

namespace Midtrans

/-- The statuses of a payment agree on whether it is settled and, if it is, on the money. -/
structure MidtransTransactionStatus.SameOutcome (s s' : MidtransTransactionStatus) : Prop where
  settling : s.Settling ↔ s'.Settling
  worth : s.Settling → majorStringToMinor s.grossAmount s.currencyOrIdr =
    majorStringToMinor s'.grossAmount s'.currencyOrIdr
  currency : s.Settling → s.currencyOrIdr = s'.currencyOrIdr

end Midtrans

namespace Mollie

/-- The payments agree on whether they are paid and, if they are, on the money. -/
structure PaymentPayload.SameOutcome (p p' : PaymentPayload) : Prop where
  paid : p.status = "paid" ↔ p'.status = "paid"
  worth : p.status = "paid" →
    mollieAmountValueToMinor p.amount.value (toAsciiUppercase (trim p.amount.currency)) =
      mollieAmountValueToMinor p'.amount.value (toAsciiUppercase (trim p'.amount.currency))
  currency : p.status = "paid" → toAsciiUppercase (trim p.amount.currency) =
    toAsciiUppercase (trim p'.amount.currency)

/-- What a payment comes to is what it says. -/
theorem evaluatePayment_ok {p : PaymentPayload} {outcome : Outcome}
    (read : evaluatePayment p = .ok outcome) :
    metadataReference p.metadata = some outcome.reference ∧
      outcome.settled = decide (p.status = "paid") ∧
      outcome.currency = toAsciiUppercase (trim p.amount.currency) ∧
      (p.status = "paid" → mollieAmountValueToMinor p.amount.value
        (toAsciiUppercase (trim p.amount.currency)) = .ok outcome.amountMinor) := by
  unfold evaluatePayment at read
  by_cases unnamed : p.id = ""
  · rw [if_pos unnamed] at read
    cases read
  · rw [if_neg unnamed] at read
    obtain ⟨reference, named, read⟩ := Fallible.bind_eq_ok.mp read
    have found : metadataReference p.metadata = some reference := by
      cases metadata : metadataReference p.metadata with
      | none =>
        rw [metadata] at named
        cases named
      | some value =>
        rw [metadata] at named
        cases named
        rfl
    by_cases paid : p.status = "paid"
    · rw [if_pos paid] at read
      obtain ⟨amountMinor, worth, read⟩ := Fallible.bind_eq_ok.mp read
      by_cases zero : amountMinor = 0
      · rw [if_pos zero] at read
        cases read
      · rw [if_neg zero] at read
        cases read
        exact ⟨found, (decide_eq_true paid).symm, rfl, fun _ => worth⟩
    · rw [if_neg paid] at read
      cases read
      exact ⟨found, (decide_eq_false paid).symm, rfl, fun same => absurd same paid⟩

end Mollie

/-- What a delivery is read as, or what its payment is fetched as. -/
inductive Notice where
  | transaction (s : Midtrans.MidtransTransactionStatus)
  | payment (p : Mollie.PaymentPayload)
  | charge (envelope : CoinbaseCommerce.Envelope)

namespace Notice

/-- The type of event a delivery announces without saying more. -/
def eventType : Notice → Option String
  | transaction _ => none
  | payment _ => none
  | charge envelope => some envelope.event.eventType

/-- The notices report the same of their payment. -/
def SameOutcome : Notice → Notice → Prop
  | transaction s, transaction s' => s.SameOutcome s'
  | payment p, payment p' => p.SameOutcome p'
  | charge envelope, charge envelope' => envelope.event.eventType = envelope'.event.eventType
  | _, _ => False

end Notice

/-- A delivery, what it was read as and the event it was accepted as. -/
structure AcceptedDelivery where
  delivery : WebhookDelivery
  notice : Notice
  event : WebhookEvent

namespace AcceptedDelivery

variable (accepted : AcceptedDelivery)

def eventId : String := accepted.event.eventId

def report : WebhookEvent × Option String := (accepted.event, accepted.notice.eventType)

def status : WebhookStatus × Option String := (accepted.event.status, accepted.notice.eventType)

/-- A status that a payment is settled by: the event says so, or the type of event that is
announced confirms it. -/
def Settles (confirms : String → Prop) (status : WebhookStatus × Option String) : Prop :=
  status.1 = .settled ∨ ∃ eventType, status.2 = some eventType ∧ confirms eventType

/-- A consumer that drops repeats of an event id processes everything that settles, and different
statuses have different ids. -/
def NeverLoses (confirms : String → Prop) (accepted : List AcceptedDelivery) : Prop :=
  Dedup.Lossless eventId report status (Settles confirms) accepted

end AcceptedDelivery

/-- A payment under the processor's id and the merchant's reference. -/
structure Payment where
  id : String
  reference : String

/-- The rails that take the id of a payment for the id of a delivery. -/
inductive PaymentKeyedRail where
  | midtrans (rail : Midtrans.MidtransRail)
  | mollie (rail : Mollie.MollieRail) (utf8Error : List UInt8 → String)
  | coinbaseCommerce (rail : CoinbaseCommerce.CoinbaseCommerceRail)

namespace PaymentKeyedRail

/-- The rail accepted the delivery, and it is about the payment. -/
def Accepts (payment : Payment) (accepted : AcceptedDelivery) : PaymentKeyedRail → Prop
  | midtrans rail => ∃ s, accepted.notice = .transaction s ∧
      rail.verifyWebhook accepted.delivery = .ok accepted.event ∧
      rail.statusFromSlice accepted.delivery.rawBody = .ok s ∧
      s.transactionId = payment.id ∧ s.orderId = payment.reference
  | mollie rail utf8Error => ∃ p question reply, accepted.notice = .payment p ∧
      (rail.verifyWebhook utf8Error accepted.delivery).Yields [(question, reply)]
        (.ok accepted.event) ∧
      reply.decoded rail.paymentFromSlice = some p ∧
      Mollie.extractPaymentId utf8Error accepted.delivery.rawBody = .ok payment.id ∧
      Mollie.metadataReference p.metadata = some payment.reference
  | coinbaseCommerce rail => ∃ envelope, accepted.notice = .charge envelope ∧
      rail.verifyWebhook accepted.delivery = .ok accepted.event ∧
      rail.envelopeFromSlice accepted.delivery.rawBody = .ok envelope ∧
      envelope.event.data.id = payment.id

variable {rail : PaymentKeyedRail} {payment : Payment} {accepted other : AcceptedDelivery}

/-- What an accepted Midtrans notification says. -/
theorem event_of_midtrans {rail : Midtrans.MidtransRail}
    (genuine : (midtrans rail).Accepts payment accepted) :
    ∃ s amountMinor, accepted.notice = .transaction s ∧
      majorStringToMinor s.grossAmount s.currencyOrIdr = .ok amountMinor ∧
      accepted.event = (WebhookEvent.settlement Midtrans.railId payment.id payment.reference
        s.Settling amountMinor s.currencyOrIdr).withObjectId "" := by
  obtain ⟨s, notice, verified, read, id, reference⟩ := genuine
  obtain ⟨t, amountMinor, decoded, -, worth, -, said⟩ := rail.verifyWebhook_ok verified
  cases read.symm.trans decoded
  exact ⟨s, amountMinor, notice, worth, by rw [said, id, reference]; rfl⟩

/-- What an accepted Mollie delivery says once its payment is fetched. -/
theorem event_of_mollie {rail : Mollie.MollieRail} {utf8Error : List UInt8 → String}
    (genuine : (mollie rail utf8Error).Accepts payment accepted) :
    ∃ p amountMinor, accepted.notice = .payment p ∧
      (p.status = "paid" → Mollie.mollieAmountValueToMinor p.amount.value
        (toAsciiUppercase (trim p.amount.currency)) = .ok amountMinor) ∧
      accepted.event = (WebhookEvent.settlement Mollie.railId payment.id payment.reference
        (p.status = "paid") amountMinor
        (toAsciiUppercase (trim p.amount.currency))).withObjectId payment.id := by
  obtain ⟨p, question, reply, notice, run, decoded, named, reference⟩ := genuine
  obtain ⟨paymentId, _, _, _, outcome, named', -, asked, decoded', read, said⟩ :=
    (rail.verifyWebhook_ok utf8Error).mp run
  cases asked
  cases decoded.symm.trans decoded'
  cases named.symm.trans named'
  obtain ⟨found, settled, currency, worth⟩ := Mollie.evaluatePayment_ok read
  have same := Option.some.inj (reference.symm.trans found)
  refine ⟨p, outcome.amountMinor, notice, worth, ?_⟩
  rw [said, Mollie.eventOf, settled, currency, same]

/-- Every delivery about a payment has the payment's id. -/
theorem eventId_eq (genuine : rail.Accepts payment accepted) : accepted.eventId = payment.id := by
  cases rail with
  | midtrans rail =>
    obtain ⟨_, _, -, -, said⟩ := event_of_midtrans genuine
    exact congrArg WebhookEvent.eventId said
  | mollie rail utf8Error =>
    obtain ⟨_, _, -, -, said⟩ := event_of_mollie genuine
    exact congrArg WebhookEvent.eventId said
  | coinbaseCommerce rail =>
    obtain ⟨envelope, -, verified, read, id⟩ := genuine
    obtain ⟨envelope', read', said⟩ := rail.verifyWebhook_ok verified
    cases read.symm.trans read'
    exact (congrArg WebhookEvent.eventId said).trans id

/-- Of two deliveries about a payment, the first stands for the second exactly when they report
the same. -/
theorem stands_for_iff (confirms : String → Prop) (genuine : rail.Accepts payment accepted)
    (genuine' : rail.Accepts payment other) :
    (accepted.status = other.status ∧ (AcceptedDelivery.Settles confirms accepted.status →
      accepted.report = other.report)) ↔ accepted.notice.SameOutcome other.notice := by
  unfold AcceptedDelivery.status AcceptedDelivery.report AcceptedDelivery.Settles
  cases rail with
  | midtrans rail =>
    obtain ⟨s, _, notice, worth, said⟩ := event_of_midtrans genuine
    obtain ⟨s', _, notice', worth', said'⟩ := event_of_midtrans genuine'
    have agrees := WebhookEvent.settlement_agrees_iff said said'
    simp only [decide_eq_decide, decide_eq_true_eq] at agrees
    simp only [notice, notice', Notice.eventType, Prod.mk.injEq, and_true, reduceCtorEq, false_and,
      exists_false, or_false, agrees]
    constructor
    · rintro ⟨settling, money⟩
      refine ⟨settling, fun own => ?_, fun own => (money own).2⟩
      rw [worth, worth', (money own).1]
    · intro same
      refine ⟨same.settling, fun own => ⟨?_, same.currency own⟩⟩
      exact Except.ok.inj (worth.symm.trans ((same.worth own).trans worth'))
  | mollie rail utf8Error =>
    obtain ⟨p, _, notice, worth, said⟩ := event_of_mollie genuine
    obtain ⟨p', _, notice', worth', said'⟩ := event_of_mollie genuine'
    have agrees := WebhookEvent.settlement_agrees_iff said said'
    simp only [decide_eq_decide, decide_eq_true_eq] at agrees
    simp only [notice, notice', Notice.eventType, Prod.mk.injEq, and_true, reduceCtorEq, false_and,
      exists_false, or_false, agrees]
    constructor
    · rintro ⟨paid, money⟩
      refine ⟨paid, fun own => ?_, fun own => (money own).2⟩
      rw [worth own, worth' (paid.mp own), (money own).1]
    · intro same
      refine ⟨same.paid, fun own => ⟨?_, same.currency own⟩⟩
      have sums := (worth own).symm.trans ((same.worth own).trans (worth' (same.paid.mp own)))
      exact Except.ok.inj sums
  | coinbaseCommerce rail =>
    obtain ⟨envelope, notice, verified, read, id⟩ := genuine
    obtain ⟨envelope', notice', verified', read', id'⟩ := genuine'
    obtain ⟨_, decoded, said⟩ := rail.verifyWebhook_ok verified
    obtain ⟨_, decoded', said'⟩ := rail.verifyWebhook_ok verified'
    cases read.symm.trans decoded
    cases read'.symm.trans decoded'
    have same : accepted.event = other.event := by rw [said, said', id, id']
    simp only [notice, notice', Notice.eventType, Notice.SameOutcome, same, Prod.mk.injEq,
      Option.some.injEq, true_and]
    exact ⟨And.left, fun types => ⟨types, fun _ => types⟩⟩

end PaymentKeyedRail

/-- A consumer of the deliveries about a payment loses nothing exactly when they all report the
same. -/
theorem neverLoses_iff (rail : PaymentKeyedRail) (confirms : String → Prop) {payment : Payment}
    {deliveries : List AcceptedDelivery}
    (genuine : ∀ accepted ∈ deliveries, rail.Accepts payment accepted) :
    AcceptedDelivery.NeverLoses confirms deliveries ↔ ∀ accepted ∈ deliveries,
      ∀ other ∈ deliveries, accepted.notice.SameOutcome other.notice := by
  rw [AcceptedDelivery.NeverLoses, Dedup.lossless_iff]
  constructor
  · intro agree accepted member other member'
    have ids := (rail.eventId_eq (genuine accepted member)).trans
      (rail.eventId_eq (genuine other member')).symm
    exact (rail.stands_for_iff confirms (genuine accepted member) (genuine other member')).mp
      (agree accepted member other member' ids)
  · intro same accepted member other member' _
    exact (rail.stands_for_iff confirms (genuine accepted member) (genuine other member')).mpr
      (same accepted member other member')

namespace Sample

def pendingSignature : String :=
  "40493fc9cc3fd0fc2aa3db3077768e8a55742409ca852102f988efe1ab3188aa" ++
    "dc3fb5bf95fdbfac0a7c20e11f841bf70f1d7840be06bfb0ffdc07e7f12a9316"

def settledSignature : String :=
  "148691b8b505ee4fa04bd7a09b4c3a47c7ff8c9c3add7f18b7d93142fa985559" ++
    "3302926ccc0ceeb234bb2829ae861dbba009033c888cde6468089c1834e353d1"

/-- A notification of the order `order-1`. -/
def notification (transactionStatus statusCode signatureKey : String) :
    Midtrans.MidtransTransactionStatus where
  orderId := "order-1"
  transactionId := "tx-1"
  transactionStatus := transactionStatus
  fraudStatus := "accept"
  grossAmount := "10000.00"
  currency := "IDR"
  statusCode := statusCode
  signatureKey := signatureKey

def notificationBody (transactionStatus statusCode signatureKey : String) : List UInt8 := asBytes
  ("\x7b\"order_id\":\"order-1\",\"transaction_id\":\"tx-1\",\"transaction_status\":\"" ++
    transactionStatus ++ "\",\"fraud_status\":\"accept\",\"gross_amount\":\"10000.00\"," ++
    "\"currency\":\"IDR\",\"status_code\":\"" ++ statusCode ++ "\",\"signature_key\":\"" ++
    signatureKey ++ "\"\x7d")

def pendingNotification : Midtrans.MidtransTransactionStatus :=
  notification "pending" "201" pendingSignature

def settledNotification : Midtrans.MidtransTransactionStatus :=
  notification "settlement" "200" settledSignature

def pendingBody : List UInt8 := notificationBody "pending" "201" pendingSignature

def settledBody : List UInt8 := notificationBody "settlement" "200" settledSignature

/-- A rail that knows the hashes of the two notifications. -/
def shopMidtrans : Midtrans.MidtransRail where
  serverKey := "SB-Mid-server-abc"
  snapBaseUrl := Midtrans.snapApiBase
  coreBaseUrl := Midtrans.coreApiBase
  sha512 := fun text =>
    if text = asBytes "order-120110000.00SB-Mid-server-abc" then
      (Codec.hexDecode pendingSignature).getD []
    else if text = asBytes "order-120010000.00SB-Mid-server-abc" then
      (Codec.hexDecode settledSignature).getD []
    else []
  proofToBytes := fun _ => []
  createFromSlice := fun _ => .error "expected value"
  statusFromSlice := fun body =>
    if body = pendingBody then .ok pendingNotification
    else if body = settledBody then .ok settledNotification
    else .error "expected value"
  errorFromSlice := fun _ => .error "expected value"

def accepted (notice : Midtrans.MidtransTransactionStatus) (body : List UInt8)
    (settled : Bool) : AcceptedDelivery where
  delivery := .new body 1700000000
  notice := .transaction notice
  event := .settlement "midtrans" "tx-1" "order-1" settled 1000000 "IDR"

def pendingAccepted : AcceptedDelivery := accepted pendingNotification pendingBody false

def settledAccepted : AcceptedDelivery := accepted settledNotification settledBody true

theorem settledBody_ne : settledBody ≠ pendingBody := by
  intro same
  exact absurd (asBytes_injective same) (by decide)

theorem pending_accepted :
    (PaymentKeyedRail.midtrans shopMidtrans).Accepts ⟨"tx-1", "order-1"⟩ pendingAccepted := by
  have read : shopMidtrans.statusFromSlice pendingBody = .ok pendingNotification := by
    simp only [shopMidtrans, ↓reduceIte]
  have parsed : shopMidtrans.verifyAndParse pendingBody =
      .ok ⟨"tx-1", "order-1", false, 0, "IDR"⟩ := by
    rw [Midtrans.MidtransRail.verifyAndParse, read]
    decide +kernel
  refine ⟨pendingNotification, rfl, ?_, read, rfl, rfl⟩
  show shopMidtrans.verifyWebhook (.new pendingBody 1700000000) = _
  rw [Midtrans.MidtransRail.verifyWebhook, WebhookDelivery.new, parsed]
  rfl

theorem settled_accepted :
    (PaymentKeyedRail.midtrans shopMidtrans).Accepts ⟨"tx-1", "order-1"⟩ settledAccepted := by
  have read : shopMidtrans.statusFromSlice settledBody = .ok settledNotification := by
    simp only [shopMidtrans, settledBody_ne, ↓reduceIte]
  have parsed : shopMidtrans.verifyAndParse settledBody =
      .ok ⟨"tx-1", "order-1", true, 1000000, "IDR"⟩ := by
    rw [Midtrans.MidtransRail.verifyAndParse, read]
    decide +kernel
  refine ⟨settledNotification, rfl, ?_, read, rfl, rfl⟩
  show shopMidtrans.verifyWebhook (.new settledBody 1700000000) = _
  rw [Midtrans.MidtransRail.verifyWebhook, WebhookDelivery.new, parsed]
  rfl

theorem all_accepted : ∀ accepted ∈ [pendingAccepted, settledAccepted],
    (PaymentKeyedRail.midtrans shopMidtrans).Accepts ⟨"tx-1", "order-1"⟩ accepted := by
  intro accepted member
  rcases List.mem_cons.mp member with first | later
  · exact first ▸ pending_accepted
  · exact List.mem_singleton.mp later ▸ settled_accepted

end Sample

theorem neverLoses_iff_two : AcceptedDelivery.NeverLoses (fun _ => False)
      [Sample.pendingAccepted, Sample.settledAccepted] ↔
    ∀ accepted ∈ [Sample.pendingAccepted, Sample.settledAccepted],
      ∀ other ∈ [Sample.pendingAccepted, Sample.settledAccepted],
        accepted.notice.SameOutcome other.notice :=
  neverLoses_iff (.midtrans Sample.shopMidtrans) _ Sample.all_accepted

/-- A payment that is pending and then settles is only ever seen pending. -/
theorem settlement_dropped_as_repeat :
    ¬ ∀ (rail : PaymentKeyedRail) (confirms : String → Prop) (payment : Payment)
        (deliveries : List AcceptedDelivery),
      (∀ accepted ∈ deliveries, rail.Accepts payment accepted) →
        AcceptedDelivery.NeverLoses confirms deliveries := by
  intro claim
  have lossless := claim _ (fun _ => False) _ _ Sample.all_accepted
  obtain ⟨kept, first, -, same⟩ := lossless.processed Sample.settledAccepted
    (List.mem_cons_of_mem _ List.mem_cons_self) (.inl rfl)
  have processed : Dedup.process AcceptedDelivery.eventId
      [Sample.pendingAccepted, Sample.settledAccepted] = [Sample.pendingAccepted] := rfl
  rw [processed, List.mem_singleton] at first
  rw [first] at same
  have events : Sample.pendingAccepted.event = Sample.settledAccepted.event :=
    congrArg Prod.fst same
  exact absurd events (by decide)

end Fiat

end Patala
