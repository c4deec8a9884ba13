import Patala.Fiat.Refund
import Patala.Fiat.UnderPayment

/-! What a refund of a charged payment asks for. The receipt of a charge claims no amount, and
nothing writes the amount that was paid into it before it is refunded. -/

namespace Patala.Fiat

/-- The rails that can refund, with how their refunds are read and recorded. -/
inductive RefundingRail where
  | paystack (rail : Paystack.PaystackRail) (refundFromSlice : FromSlice Paystack.RefundResponse)
  | mollie (rail : Mollie.MollieRail) (refundFromSlice : FromSlice Mollie.RefundResponse)
      (toBytes : Mollie.RefundProof → List UInt8)
  | checkoutcom (rail : CheckoutCom.CheckoutComRail)
      (refundFromSlice : FromSlice CheckoutCom.RefundResponse)
      (toBytes : CheckoutCom.RefundProof → List UInt8)
  | paypal (rail : PayPal.PayPalRail) (refundFromSlice : FromSlice PayPal.RefundResponse)
      (toBytes : PayPal.RefundProof → List UInt8)

namespace RefundingRail

def charge (req : PayRequest) : RefundingRail → Talk Receipt
  | paystack rail _ => rail.charge req
  | mollie rail _ _ => rail.charge req
  | checkoutcom rail _ _ => rail.charge req
  | paypal rail _ _ => rail.charge req

/-- The rail verifies the receipt as paid. -/
def Settles (receipt : Receipt) (transcript : List (Request × Reply)) : RefundingRail → Prop
  | paystack rail _ => (rail.verify receipt).Yields transcript (.ok true)
  | mollie rail _ _ => (rail.verify receipt).Yields transcript (.ok true)
  | checkoutcom rail _ _ => (rail.verify receipt).Yields transcript (.ok true)
  | paypal rail _ _ => (rail.verify receipt).Yields transcript (.ok (some true))

/-- Refund a receipt at a time; nothing comes of it when the code panics. -/
def refund (now : UInt64) (receipt : Receipt) : RefundingRail → Talk (Option Receipt)
  | paystack rail refundFromSlice => do return some (← rail.refund refundFromSlice now receipt)
  | mollie rail refundFromSlice toBytes =>
    do return some (← rail.refund refundFromSlice toBytes now receipt)
  | checkoutcom rail refundFromSlice toBytes =>
    do return some (← rail.refund refundFromSlice toBytes receipt)
  | paypal rail refundFromSlice toBytes => rail.refund refundFromSlice toBytes now receipt

/-- The request asks for an amount of a currency to be given back. Paystack and Checkout.com
leave the currency to the payment. -/
def AsksBack (amount : UInt64) (currency : String) (question : Request) : RefundingRail → Prop
  | paystack rail _ => ∃ reference, question = rail.refundRequest reference amount
  | mollie rail _ _ => ∃ paymentId value,
      Mollie.mollieAmountValue amount (toAsciiUppercase (trim currency)) = .ok value ∧
      question = rail.refundRequest paymentId (toAsciiUppercase (trim currency)) value
  | checkoutcom rail _ _ => ∃ paymentId reference asked,
      CheckoutCom.checkOutComAmount amount (toAsciiUppercase (trim currency)) = .ok asked ∧
      question = rail.refundRequest paymentId reference asked
  | paypal rail _ _ => ∃ captureId value token,
      PayPal.paypalAmountValue amount currency = .ok value ∧
      question = rail.refundRequest captureId currency value token

/-- A run of a refund gives the payment of a request back: it asks for a positive amount, of no
more than was paid, and its receipt reports that amount. -/
def GivesBack (rail : RefundingRail) (req : PayRequest) (receipt : Receipt)
    (transcript : List (Request × Reply)) (outcome : Except Error (Option Receipt)) : Prop :=
  ∃ amount, 0 < amount ∧ amount ≤ req.amountMinor ∧
    (∃ entry ∈ transcript, rail.AsksBack amount receipt.currency entry.1) ∧
    ∀ refunded, outcome = .ok (some refunded) → refunded.amountMinor = amount

variable (rail : RefundingRail)

theorem charge_pending {req : PayRequest} :
    (rail.charge req).Ensures fun receipt => receipt.amountMinor = 0 := by
  cases rail with
  | paystack rail _ => exact fun transcript receipt run => (rail.charge_ensures transcript receipt run).2
  | mollie rail _ _ => exact rail.charge_pending
  | checkoutcom rail _ _ => exact rail.charge_pending
  | paypal rail _ _ => exact rail.charge_pending

/-- A refund asks for the amount of its receipt and for no other. -/
theorem refund_amount {now : UInt64} {receipt : Receipt} {question : Request} {amount : UInt64}
    (asked : (rail.refund now receipt).Asks question)
    (back : rail.AsksBack amount receipt.currency question) : amount = receipt.amountMinor := by
  cases rail with
  | paystack rail _ =>
    simp only [refund, Dialogue.asks_bind, Dialogue.asks_pure, and_false, exists_false,
      or_false] at asked
    obtain ⟨_, same⟩ := rail.refund_asks asked
    obtain ⟨_, same'⟩ := back
    exact rail.refundRequest_amount (same'.symm.trans same)
  | mollie rail _ _ =>
    simp only [refund, Dialogue.asks_bind, Dialogue.asks_pure, and_false, exists_false,
      or_false] at asked
    obtain ⟨_, _, written, same⟩ := rail.refund_asks asked
    obtain ⟨_, _, written', same'⟩ := back
    rw [← rail.refundRequest_value (same'.symm.trans same)] at written
    exact Mollie.MollieRail.mollieAmountValue_injective written' written
  | checkoutcom rail _ _ =>
    simp only [refund, Dialogue.asks_bind, Dialogue.asks_pure, and_false, exists_false,
      or_false] at asked
    obtain ⟨_, _, written, same⟩ := rail.refund_asks asked
    obtain ⟨_, _, _, written', same'⟩ := back
    rw [← rail.refundRequest_amount (same'.symm.trans same)] at written
    exact CheckoutCom.CheckoutComRail.checkOutComAmount_injective written' written
  | paypal rail _ _ =>
    obtain ⟨_, _, _, written', same'⟩ := back
    rcases rail.refund_asks asked with token | ⟨_, _, order⟩ | ⟨_, _, _, written, same⟩
    · exact absurd (congrArg Request.basicAuth (same'.symm.trans token))
        (by simp [PayPal.PayPalRail.refundRequest, PayPal.PayPalRail.jsonRequest,
          PayPal.PayPalRail.tokenRequest])
    · exact absurd (congrArg Request.method (same'.symm.trans order))
        (by simp [PayPal.PayPalRail.refundRequest, PayPal.PayPalRail.jsonRequest])
    · rw [← rail.refundRequest_value (same'.symm.trans same)] at written
      exact PayPal.PayPalRail.paypalAmountValue_injective written' written

end RefundingRail

/-- No refund of a charged receipt gives anything back: whatever the processor answers, it asks
for nothing. -/
theorem charged_refund_gives_nothing (rail : RefundingRail) {req : PayRequest} {receipt : Receipt}
    {charging transcript : List (Request × Reply)} {now : UInt64}
    {outcome : Except Error (Option Receipt)}
    (charged : (rail.charge req).Yields charging (.ok receipt))
    (refunded : (rail.refund now receipt).Yields transcript outcome) :
    ¬ rail.GivesBack req receipt transcript outcome := by
  rintro ⟨amount, positive, -, ⟨entry, member, back⟩, -⟩
  have asked := Dialogue.asks_of_yields refunded entry member
  have nothing := rail.charge_pending charging receipt charged
  rw [rail.refund_amount asked back, nothing] at positive
  exact absurd positive (by decide)

namespace Sample

def refusedBody : List UInt8 := asBytes
  "\x7b\"status\":false,\"message\":\"Invalid amount\"\x7d"

/-- The rail of the R10, with the answer that refuses to give back nothing. -/
def tenPaystack : Paystack.PaystackRail :=
  { payPaystack with
    errorFromSlice := fun body =>
      if body = refusedBody then .ok ⟨"Invalid amount"⟩ else .error "expected value" }

def tenRail : RefundingRail := .paystack tenPaystack fun _ => .error "expected value"

/-- R10, asked of a buyer. -/
def tenRequest : PayRequest :=
  ⟨1000, "ZAR", ⟨"buyer@example.com", buyer_fits⟩, orderA⟩

def refusal : Error := .rail "paystack: unexpected API response status: http 400: Invalid amount"

theorem ten_charged : ∃ transcript,
    (tenRail.charge tenRequest).Yields transcript (.ok orderReceipt) := by
  have run : ((tenPaystack.charge tenRequest).replay [.answered 200 initializedBody]).bind
      Except.toOption = some orderReceipt := by
    decide +kernel
  obtain ⟨transcript, -, yields⟩ := Dialogue.exists_yields_of_replay run
  exact ⟨transcript, yields⟩

/-- The processor says the R10 have settled. -/
theorem ten_settled : ∃ transcript, tenRail.Settles orderReceipt transcript := by
  have run : ((tenPaystack.verify orderReceipt).replay [.answered 200 verifiedBody]).bind
      Except.toOption = some true := by
    decide +kernel
  obtain ⟨transcript, -, yields⟩ := Dialogue.exists_yields_of_replay run
  exact ⟨transcript, yields⟩

/-- The processor refuses to give nothing back. -/
theorem ten_refunded : ∃ transcript,
    (tenRail.refund 1700000000 orderReceipt).Yields transcript (.error refusal) := by
  have run : (tenRail.refund 1700000000 orderReceipt).replay [.answered 400 refusedBody] =
      some (.error refusal) := by
    decide
  obtain ⟨transcript, -, yields⟩ := Dialogue.yields_of_replay run
  exact ⟨transcript, yields⟩

end Sample

theorem charged_refund_gives_nothing_ten : ∃ transcript,
    ¬ Sample.tenRail.GivesBack Sample.tenRequest Sample.orderReceipt transcript
      (.error Sample.refusal) := by
  obtain ⟨charging, charged⟩ := Sample.ten_charged
  obtain ⟨transcript, refunded⟩ := Sample.ten_refunded
  exact ⟨transcript, charged_refund_gives_nothing _ charged refunded⟩

/-- R10 that were charged and have settled are asked back as nothing. -/
theorem settled_payment_not_given_back :
    ¬ ∀ rail req receipt charging settling now transcript outcome,
      (RefundingRail.charge req rail).Yields charging (.ok receipt) →
      rail.Settles receipt settling →
      (rail.refund now receipt).Yields transcript outcome →
        rail.GivesBack req receipt transcript outcome := by
  intro claim
  obtain ⟨charging, charged⟩ := Sample.ten_charged
  obtain ⟨settling, settled⟩ := Sample.ten_settled
  obtain ⟨transcript, refunded⟩ := Sample.ten_refunded
  obtain ⟨amount, positive, -, ⟨entry, member, back⟩, -⟩ :=
    claim _ _ _ _ _ _ _ _ charged settled refunded
  have asked := Dialogue.asks_of_yields refunded entry member
  have nothing : amount = 0 := Sample.tenRail.refund_amount asked back
  rw [nothing] at positive
  exact absurd positive (by decide)

end Patala.Fiat
