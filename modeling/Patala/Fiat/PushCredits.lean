import Patala.Fiat.PushLaw
import Patala.Lib.Credit

/-! What a consumer credits that takes each event id once, at the rails that only tell of settled
payments. Paystack and Xendit name an event by its payment; Square and PayPal name each event
anew, so that a payment which they tell of in two events is credited twice. -/

namespace Patala.Fiat

/-- A delivery with what its webhook was answered, its event, and the payment it tells of. -/
structure PaidDelivery where
  delivery : WebhookDelivery
  transcript : List (Request × Reply)
  event : WebhookEvent
  payment : String

namespace PaidDelivery

def eventId (paid : PaidDelivery) : String := paid.event.eventId

def amount (paid : PaidDelivery) : ℕ := paid.event.amountMinor.toNat

/-- What is credited by a consumer that processes each event id once. -/
def credited (told : List PaidDelivery) : ℕ := ((Dedup.process eventId told).map amount).sum

/-- The event ids that a payment was told of under. -/
def eventIds (told : List PaidDelivery) (about : String) : Finset String :=
  Dedup.keysOf eventId payment told about

/-- The payments that were told of are worth this much together. -/
def totalWorth (worth : String → UInt64) (told : List PaidDelivery) : ℕ :=
  ∑ payment ∈ Dedup.subjects payment told, (worth payment).toNat

end PaidDelivery

namespace PushRail

variable {rail : PushRail} {delivery : WebhookDelivery} {transcript : List (Request × Reply)}
  {event : WebhookEvent} {payment : String}

/-- A delivery shows one payment. -/
theorem Shows.unique {payment' reference reference' currency currency' : String}
    {amountMinor amountMinor' : UInt64}
    (shown : rail.Shows delivery transcript payment reference amountMinor currency)
    (shown' : rail.Shows delivery transcript payment' reference' amountMinor' currency') :
    payment = payment' ∧ amountMinor = amountMinor' := by
  cases rail with
  | paystack webhook =>
    obtain ⟨envelope, read, -, rfl, -, rfl, -⟩ := shown
    obtain ⟨other, again, -, rfl, -, rfl, -⟩ := shown'
    cases read.symm.trans again
    exact ⟨rfl, rfl⟩
  | square webhook =>
    obtain ⟨envelope, read, -, rfl, -, rfl, -⟩ := shown
    obtain ⟨other, again, -, rfl, -, rfl, -⟩ := shown'
    cases read.symm.trans again
    exact ⟨rfl, rfl⟩
  | xendit rail token =>
    obtain ⟨inv, text, read, -, rfl, -, rfl, field, worth⟩ := shown
    obtain ⟨other, text', again, -, rfl, -, rfl, field', worth'⟩ := shown'
    cases read.symm.trans again
    cases field.symm.trans field'
    cases worth.symm.trans worth'
    exact ⟨rfl, rfl⟩
  | btcpay | lnbits | openNode => cases shown
  | mercadoPago rail webhook =>
    obtain ⟨question, reply, pay, asked, decoded, -, rfl, -, rfl, worth⟩ := shown
    obtain ⟨question', reply', pay', asked', decoded', -, rfl, -, rfl, worth'⟩ := shown'
    cases asked.symm.trans asked'
    cases decoded.symm.trans decoded'
    cases worth.symm.trans worth'
    exact ⟨rfl, rfl⟩
  | payPal rail webhook =>
    obtain ⟨capture, eventId, ⟨envelope, read, resource, -⟩, rfl, -, rfl, worth⟩ := shown
    obtain ⟨capture', eventId', ⟨envelope', read', resource', -⟩, rfl, -, rfl, worth'⟩ := shown'
    cases read.symm.trans read'
    cases resource.symm.trans resource'
    cases worth.read.symm.trans worth'.read
    exact ⟨rfl, rfl⟩

/-- Deliveries of a processor at which a payment is worth the same whenever it is told of, as the
rail reads its amount, and an event id is given to the events of one payment only. -/
structure Genuine (rail : PushRail) (worth : String → UInt64) (told : List PaidDelivery) :
    Prop where
  accepted : ∀ paid ∈ told, rail.Accepts paid.delivery paid.transcript paid.event
  shown : ∀ paid ∈ told, ∃ reference currency,
    rail.Shows paid.delivery paid.transcript paid.payment reference (worth paid.payment) currency
  identified : ∀ paid ∈ told, ∀ other ∈ told, paid.eventId = other.eventId →
    paid.payment = other.payment

section Genuine

variable {worth : String → UInt64} {told : List PaidDelivery} {paid : PaidDelivery}

/-- A genuine delivery carries the worth of its payment, which is not nothing, and at some rails
the id of it. -/
theorem Genuine.paid_of_mem (genuine : rail.Genuine worth told) (tells : rail.TellsPaid)
    (member : paid ∈ told) :
    paid.amount = (worth paid.payment).toNat ∧ paid.amount ≠ 0 ∧
      (rail.PaymentKeyed → paid.eventId = paid.payment) := by
  obtain ⟨said, objectId, payment, -, same, complete, shown, keyed⟩ :=
    paid_of_accepts tells (genuine.accepted paid member)
  obtain ⟨reference, currency, told⟩ := genuine.shown paid member
  obtain ⟨rfl, worthy⟩ := shown.unique told
  have amount : paid.amount = said.amountMinor.toNat := congrArg (·.amountMinor.toNat) same
  refine ⟨amount.trans (congrArg UInt64.toNat worthy), ?_, fun payments => ?_⟩
  · rw [amount]
    exact fun nothing => complete.amountMinor (UInt64.toNat_inj.mp nothing)
  · exact (congrArg (·.eventId) same).trans (keyed payments)

/-- The deliveries about each payment have one event id. -/
def NamedOnce (told : List PaidDelivery) : Prop :=
  ∀ paid ∈ told, ∀ other ∈ told, other.payment = paid.payment → other.eventId = paid.eventId

theorem Genuine.namedOnce (genuine : rail.Genuine worth told) (tells : rail.TellsPaid)
    (payments : rail.PaymentKeyed) : NamedOnce told := by
  intro paid member other member' same
  rw [(genuine.paid_of_mem tells member').2.2 payments,
    (genuine.paid_of_mem tells member).2.2 payments, same]

end Genuine

end PushRail

/-- Over any genuine deliveries, in any order and repeated any number of times, the consumer
credits a payment as often as it is told of under different event ids. It credits what the payments
are worth exactly when each has one event id, which is always so at the rails that name events by
their payment. What a payment is worth is its amount as the rail reads it. -/
theorem credited_once_iff (rail : PushRail) (tells : rail.TellsPaid) (worth : String → UInt64)
    (told : List PaidDelivery) (genuine : rail.Genuine worth told) :
    PaidDelivery.credited told = ∑ payment ∈ Dedup.subjects PaidDelivery.payment told,
        (PaidDelivery.eventIds told payment).card * (worth payment).toNat ∧
      (PaidDelivery.credited told = PaidDelivery.totalWorth worth told ↔
        PushRail.NamedOnce told) ∧
      (rail.PaymentKeyed → PaidDelivery.credited told = PaidDelivery.totalWorth worth told) := by
  have amounts : ∀ paid ∈ told, paid.amount = (worth paid.payment).toNat := fun paid member =>
    (genuine.paid_of_mem tells member).1
  have once : PaidDelivery.credited told = PaidDelivery.totalWorth worth told ↔
      PushRail.NamedOnce told := by
    have positive : ∀ paid ∈ told, paid.amount ≠ 0 := fun paid member =>
      (genuine.paid_of_mem tells member).2.1
    exact Dedup.sum_process_once_iff amounts positive genuine.identified
  refine ⟨Dedup.sum_process_card amounts genuine.identified, once, ?_⟩
  intro payments
  exact once.mpr (genuine.namedOnce tells payments)

section Redelivered

def redelivered : PaidDelivery where
  delivery := invoiceDelivery
  transcript := []
  event := .settlement Xendit.railId "inv_1" "ord_1" true 1000000 "IDR"
  payment := "inv_1"

theorem redelivered_genuine : (PushRail.xendit invoiced "cb_token").Genuine (fun _ => 1000000)
    [redelivered, redelivered] where
  accepted := by
    intro paid member
    rw [List.eq_of_mem_replicate (n := 2) member]
    exact invoice_accepted
  shown := by
    intro paid member
    rw [List.eq_of_mem_replicate (n := 2) member]
    exact ⟨"ord_1", "IDR", invoice, "10000", invoice_read, .inl rfl, rfl, rfl, rfl, rfl, by decide⟩
  identified := by
    intro paid member other member' _
    rw [List.eq_of_mem_replicate (n := 2) member, List.eq_of_mem_replicate (n := 2) member']

/-- An invoice that is delivered twice is credited once. -/
theorem credited_once_redelivered :
    PaidDelivery.credited [redelivered, redelivered] =
      PaidDelivery.totalWorth (fun _ => 1000000) [redelivered, redelivered] :=
  (credited_once_iff (.xendit invoiced "cb_token") trivial _ _ redelivered_genuine).2.2 trivial

end Redelivered

end Patala.Fiat
