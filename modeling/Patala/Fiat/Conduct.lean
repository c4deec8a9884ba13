import Patala.Fiat.Wire

/-! How often the calls of a rail act: a charge or a refund at most once, a verification never. The
one exception is PayPal, which captures an approved order when it is verified. -/

namespace Patala.Fiat

open Dialogue (Spends)

variable {costs : Request → Bool}

theorem fetch_spends {label path : String} {request : Request}
    {classifyError : UInt16 → List UInt8 → Error} {fromSlice : FromSlice α}
    (costly : costs request = true) :
    Spends costs 1 1 (fetch label path request classifyError fromSlice) := by
  rw [fetch_eq_once]
  exact .once costly

theorem fetch_free {label path : String} {request : Request}
    {classifyError : UInt16 → List UInt8 → Error} {fromSlice : FromSlice α}
    (free : costs request = false) :
    Spends costs 0 0 (fetch label path request classifyError fromSlice) := by
  rw [fetch_eq_once]
  exact .once_free free

/-- A creation that is checked and recorded asks once. -/
theorem creation_spends {label path : String} {request : Request}
    {classifyError : UInt16 → List UInt8 → Error} {fromSlice : FromSlice α} {wanted : α → Prop}
    [DecidablePred wanted] {complaint : α → Error} {issue : α → Receipt}
    (costly : costs request = true) :
    Spends costs 1 1 (do
      let parsed ← fetch label path request classifyError fromSlice
      insist (wanted parsed) (complaint parsed)
      return issue parsed : Talk Receipt) := by
  apply Spends.then_free (fetch_spends costly)
  intro parsed
  exact .checked fun _ => .value

/-- A look-up whose answer is judged asks nothing that acts. -/
theorem looked_free {label path : String} {request : Request}
    {classifyError : UInt16 → List UInt8 → Error} {fromSlice : FromSlice α}
    {judge : α → Talk Bool} (free : costs request = false)
    (judged : ∀ parsed, Spends costs 0 0 (judge parsed)) :
    Spends costs 0 0 (fetch label path request classifyError fromSlice >>= judge) :=
  (fetch_free free).then_free judged

theorem ne_of_path {base path other : String} (differs : path ≠ other) :
    base ++ path ≠ base ++ other := by
  intro same
  exact differs ((String.append_right_inj base).mp same)

/-- Taking a token lets the rail in, and nothing more. -/
theorem PayPal.PayPalRail.token_free (rail : PayPal.PayPalRail)
    {refundFromSlice : FromSlice PayPal.RefundResponse} {toBytes : PayPal.RefundProof → List UInt8} :
    Spends (WireRail.payPal rail refundFromSlice toBytes).acts 0 0
      rail.fetchAccessToken := by
  apply Spends.once_free
  simp [WireRail.acts, PayPal.PayPalRail.tokenRequest]

/-- A message to another place than the one tokens come from acts. -/
theorem PayPal.PayPalRail.post_acts (rail : PayPal.PayPalRail)
    {refundFromSlice : FromSlice PayPal.RefundResponse} {toBytes : PayPal.RefundProof → List UInt8}
    {path token : String} {body : Option Json.Value} (elsewhere : path ≠ "/v1/oauth2/token") :
    (WireRail.payPal rail refundFromSlice toBytes).acts (rail.jsonRequest .post path body token) := by
  simp [WireRail.acts, PayPal.PayPalRail.jsonRequest, ne_of_path elsewhere]

/-- A text that does not start as another one is not that one and more. -/
theorem ne_of_start {start rest other : String} (differs : ¬ start.toList <+: other.toList) :
    start ++ rest ≠ other := by
  intro same
  apply differs
  rw [← same, String.toList_append]
  exact List.prefix_append _ _

theorem PayPal.PayPalRail.capturePath_ne_token {orderId : String} :
    PayPal.PayPalRail.capturePath orderId ≠ "/v1/oauth2/token" := by
  unfold PayPal.PayPalRail.capturePath
  rw [String.append_assoc]
  exact ne_of_start (by decide)

theorem PayPal.PayPalRail.refundPath_ne_token {captureId : String} :
    PayPal.PayPalRail.refundPath captureId ≠ "/v1/oauth2/token" := by
  unfold PayPal.PayPalRail.refundPath
  rw [String.append_assoc]
  exact ne_of_start (by decide)

theorem PayPal.PayPalRail.settle_free (rail : PayPal.PayPalRail) {order : PayPal.OrderResponse}
    {receipt : Receipt} : Spends costs 0 0 (rail.settle order receipt) := by
  unfold PayPal.PayPalRail.settle
  split
  · exact .value
  · exact .checked fun _ => .value

/-- Only the capture of an approved order acts. -/
theorem PayPal.PayPalRail.checkOrder_spends (rail : PayPal.PayPalRail)
    {refundFromSlice : FromSlice PayPal.RefundResponse} {toBytes : PayPal.RefundProof → List UInt8}
    {orderId token : String} {receipt : Receipt} :
    Spends (WireRail.payPal rail refundFromSlice toBytes).acts 0 1
      (rail.checkOrder orderId token receipt) := by
  apply Spends.free_then (fetch_free (by simp [WireRail.acts, PayPal.PayPalRail.jsonRequest]))
  intro order
  apply Spends.checked
  intro _
  split
  · exact .loosen rail.settle_free le_rfl zero_le_one
  split
  · have captured : Spends (WireRail.payPal rail refundFromSlice toBytes).acts
        1 1 (rail.captureOrder orderId token) := by
      apply Spends.once
      apply rail.post_acts
      exact PayPal.PayPalRail.capturePath_ne_token
    apply Spends.loosen _ zero_le_one le_rfl
    apply captured.then_free
    intro order
    split
    · exact .value
    · exact rail.settle_free
  · exact .loosen .value le_rfl zero_le_one

theorem Iyzico.IyzicoRail.begin_acts (rail : Iyzico.IyzicoRail) {randomKey : String}
    {body : Json.Value} :
    (WireRail.iyzico rail).acts (rail.post randomKey Iyzico.IyzicoRail.beginPath body) := by
  simp [WireRail.acts, Iyzico.IyzicoRail.post,
    ne_of_path (show Iyzico.IyzicoRail.beginPath ≠ Iyzico.IyzicoRail.detailPath by decide)]

namespace WireRail

/-- How often a charge acts. PayU's payer is sent to a form that is filled in without it. -/
def opens : WireRail → Nat
  | payU _ => 0
  | _ => 1

/-- How often a verification may act. -/
def captures : WireRail → Nat
  | payPal _ _ _ => 1
  | _ => 0

variable (rail : WireRail) (moment : Moment)

theorem charge_spends (req : PayRequest) :
    Spends rail.acts rail.opens rail.opens (rail.charge moment req) := by
  cases rail with
  | paystack rail refundFromSlice =>
    exact .checked fun _ => .checked fun _ => .checked fun _ => creation_spends rfl
  | flutterwave rail =>
    exact .checked fun _ => .checked fun _ => .checked fun _ => .checked fun _ => creation_spends rfl
  | mercadoPago rail =>
    exact .checked fun _ => .checked fun _ => .checked fun _ => creation_spends rfl
  | stripe rail refundFromSlice toBytes =>
    exact .checked fun _ => .checked fun _ => .checked fun _ => creation_spends rfl
  | checkoutCom rail refundFromSlice toBytes =>
    exact .checked fun _ => .checked fun _ => .checked fun _ => creation_spends rfl
  | mollie rail refundFromSlice toBytes =>
    exact .checked fun _ => .checked fun _ => .checked fun _ => creation_spends rfl
  | btcPay rail =>
    exact .checked fun _ => .checked fun _ => .checked fun _ => creation_spends rfl
  | square rail refundFromSlice =>
    exact .checked fun _ => .checked fun _ => .checked fun _ => .checked fun _ => creation_spends rfl
  | payPal rail refundFromSlice toBytes =>
    refine .checked fun _ => .checked fun _ => .checked fun _ => ?_
    apply Spends.free_then (rail.token_free)
    intro token
    apply Spends.then_free (fetch_spends (rail.post_acts (by decide)))
    intro parsed
    exact .checked fun _ => .checked fun _ => .value
  | lnBits rail =>
    exact .checked fun _ => .checked fun _ => .checked fun _ => .checked fun _ => creation_spends rfl
  | midtrans rail =>
    exact .checked fun _ => .checked fun _ => .checked fun _ => creation_spends rfl
  | xendit rail =>
    exact .checked fun _ => .checked fun _ => .checked fun _ => creation_spends rfl
  | payU rail =>
    exact .checked fun _ => .checked fun _ => .checked fun _ => .checked fun _ => .value
  | adyen rail =>
    exact .checked fun _ => .checked fun _ => .checked fun _ => creation_spends rfl
  | razorpay rail => exact .checked fun _ => .checked fun _ => creation_spends rfl
  | yoco rail => exact .checked fun _ => .checked fun _ => creation_spends rfl
  | iyzico rail =>
    exact .checked fun _ => .checked fun _ => .checked fun _ => creation_spends (rail.begin_acts)
  | coinbaseCommerce rail =>
    exact .checked fun _ => .checked fun _ => .checked fun _ => creation_spends rfl
  | openNode rail proofFromSlice =>
    exact .checked fun _ => .checked fun _ => .checked fun _ => .checked fun _ => creation_spends rfl
  | hyperswitch rail =>
    refine .checked fun _ => .checked fun _ => .checked fun _ => ?_
    exact Spends.then_free (.once rfl) fun parsed => .value

/-- A verification that does not panic ends as what it wraps does. -/
theorem wrapped_spends {least most : Nat} {check : Talk Bool} (spends : Spends costs least most check) :
    Spends costs least most (do return some (← check) : Talk (Option Bool)) :=
  spends.then_free fun _ => .value

theorem looked_up_free {π α : Type} {lookup : ObjectLookup π α} {receipt : Receipt}
    (free : ∀ id, costs (lookup.request id) = false) : Spends costs 0 0 (lookup.verify receipt) := by
  apply Spends.of_asks
  intro question asked
  obtain ⟨id, -, same⟩ := lookup.verify_asks.mp asked
  rw [same]
  exact free id

theorem verify_spends (receipt : Receipt) :
    Spends rail.acts 0 rail.captures (rail.verify moment receipt) := by
  cases rail with
  | paystack rail refundFromSlice =>
    apply wrapped_spends
    unfold Paystack.PaystackRail.verify
    split
    · exact .value
    split
    · exact .value
    · exact looked_free rfl fun _ => .value
  | flutterwave rail =>
    apply wrapped_spends
    unfold Flutterwave.FlutterwaveRail.verify
    split
    · exact .value
    split
    · exact .value
    · exact looked_free rfl fun _ => .value
  | mercadoPago rail =>
    apply wrapped_spends
    unfold MercadoPago.MercadoPagoRail.verify
    split
    · exact .value
    split
    · exact .value
    · exact looked_free rfl fun _ => .value
  | stripe rail refundFromSlice toBytes =>
    apply wrapped_spends
    unfold Stripe.StripeRail.verify
    split
    · exact .value
    split
    · exact .value
    split
    · exact .value
    · exact looked_free rfl fun _ => .value
  | checkoutCom rail refundFromSlice toBytes =>
    apply wrapped_spends
    unfold CheckoutCom.CheckoutComRail.verify
    split
    · exact .value
    split
    · exact .value
    split
    · exact .value
    · exact looked_free rfl fun _ => .value
  | mollie rail refundFromSlice toBytes =>
    apply wrapped_spends
    unfold Mollie.MollieRail.verify
    split
    · exact .value
    split
    · exact .value
    · rename_i proof decoded
      have fetched : Spends (mollie rail refundFromSlice toBytes).acts 0 0
          (rail.fetchOutcome proof.paymentId) :=
        .checked fun _ => .then_free (fetch_free rfl) fun _ => .lifted
      exact fetched.tried.then_free fun _ => .value
  | btcPay rail =>
    apply wrapped_spends
    unfold BTCPay.BTCPayRail.verify
    split
    · exact .value
    split
    · exact .value
    · refine .then_free (.checked fun _ => ?_) fun _ => .lifted
      exact .then_free (fetch_free rfl) fun _ => .checked fun _ => .value
  | square rail refundFromSlice =>
    apply wrapped_spends
    unfold Square.SquareRail.verify
    split
    · exact .value
    split
    · exact .value
    split
    · exact .value
    · exact looked_free rfl fun _ => .value
  | payPal rail refundFromSlice toBytes =>
    unfold WireRail.verify PayPal.PayPalRail.verify
    dsimp only
    split
    · exact .loosen .value le_rfl zero_le_one
    split
    · exact .loosen .value le_rfl zero_le_one
    · exact .checked fun _ => rail.token_free.free_then fun _ => rail.checkOrder_spends
  | lnBits rail =>
    apply wrapped_spends
    unfold LNbits.LNbitsRail.verify
    split
    · exact .value
    split
    · exact .value
    split
    · exact .value
    split
    · exact .value
    · exact .checked fun _ => looked_free rfl fun _ => .value
  | midtrans rail =>
    apply wrapped_spends
    unfold Midtrans.MidtransRail.verify
    split
    · exact .value
    split
    · exact .value
    · exact looked_free rfl fun _ => .value
  | xendit rail =>
    apply wrapped_spends
    unfold Xendit.XenditRail.verify
    split
    · exact .value
    split
    · exact .value
    · exact looked_free rfl fun _ => .lifted
  | payU rail =>
    apply wrapped_spends
    unfold PayU.PayURail.verify
    split
    · exact .value
    dsimp only
    split
    · exact .value
    · apply Spends.then_free (Spends.once_free _) fun _ => .value
      simp [acts, PayU.PayURail.verifyRequest]
  | adyen rail => exact wrapped_spends .done
  | razorpay rail => exact wrapped_spends (looked_up_free fun _ => rfl)
  | yoco rail => exact wrapped_spends (looked_up_free fun _ => rfl)
  | iyzico rail =>
    apply wrapped_spends
    apply looked_up_free
    intro token
    simp [acts, Iyzico.IyzicoRail.forms, Iyzico.IyzicoRail.retrieveRequest, Iyzico.IyzicoRail.post]
  | coinbaseCommerce rail => exact wrapped_spends (looked_up_free fun _ => rfl)
  | openNode rail proofFromSlice => exact wrapped_spends (looked_up_free fun _ => rfl)
  | hyperswitch rail =>
    unfold WireRail.verify Hyperswitch.HyperswitchRail.verify
    dsimp only
    split
    · exact .value
    split
    · exact .value
    split
    · exact .value
    · exact .then_free (.once_free rfl) fun _ => .value

/-- How often a refund acts. -/
def givesBack : WireRail → Nat
  | paystack _ _ => 1
  | stripe _ _ _ => 1
  | checkoutCom _ _ _ => 1
  | mollie _ _ _ => 1
  | square _ _ => 1
  | payPal _ _ _ => 1
  | adyen _ => 1
  | hyperswitch _ => 1
  | _ => 0

theorem wrapped_refund_spends {least most : Nat} {refund : Talk Receipt}
    (spends : Spends costs least most refund) :
    Spends costs least most (do return some (← refund) : Talk (Option Receipt)) :=
  spends.then_free fun _ => .value

theorem refund_spends (receipt : Receipt) :
    Spends rail.acts rail.givesBack rail.givesBack
      (rail.refund moment receipt) := by
  cases rail with
  | paystack rail refundFromSlice =>
    apply wrapped_refund_spends
    refine .checked fun _ => .checked fun _ => ?_
    exact .then_free (fetch_spends rfl) fun _ => .checked fun _ => .value
  | stripe rail refundFromSlice toBytes =>
    apply wrapped_refund_spends
    refine .checked fun _ => .checked fun _ => .checked fun _ => .free_then (fetch_free rfl) fun _ => ?_
    refine .checked fun _ => .then_free (fetch_spends rfl) fun _ => ?_
    exact .checked fun _ => .value
  | checkoutCom rail refundFromSlice toBytes =>
    apply wrapped_refund_spends
    refine .checked fun _ => .checked fun _ => .checked fun _ => .checked fun _ => ?_
    exact .then_free (.once rfl) fun _ => .value
  | mollie rail refundFromSlice toBytes =>
    apply wrapped_refund_spends
    refine .checked fun _ => .checked fun _ => .checked fun _ => .checked fun _ => ?_
    exact .then_free (fetch_spends rfl) fun _ => .checked fun _ => .value
  | square rail refundFromSlice =>
    apply wrapped_refund_spends
    refine .checked fun _ => .checked fun _ => .checked fun _ => .checked fun _ => ?_
    exact .then_free (fetch_spends rfl) fun _ => .checked fun _ => .value
  | payPal rail refundFromSlice toBytes =>
    refine .checked fun _ => .checked fun _ => .checked fun _ => rail.token_free.free_then fun _ => ?_
    refine .free_then (fetch_free (by simp [acts, PayPal.PayPalRail.jsonRequest])) fun _ => ?_
    refine .checked fun _ => .checked fun _ => .checked fun _ => .checked fun _ => ?_
    refine .then_free (fetch_spends (rail.post_acts PayPal.PayPalRail.refundPath_ne_token)) fun _ => ?_
    dsimp only
    split
    · exact .value
    · exact .checked fun _ => .value
  | adyen rail =>
    apply wrapped_refund_spends
    refine .checked fun _ => .checked fun _ => .checked fun _ => .checked fun _ => .checked fun _ => ?_
    exact .then_free (fetch_spends rfl) fun _ => .value
  | hyperswitch rail =>
    apply wrapped_refund_spends
    refine .checked fun _ => .checked fun _ => .checked fun _ => ?_
    exact .then_free (.once rfl) fun _ => .value
  | flutterwave _ => exact .done
  | mercadoPago _ => exact .done
  | btcPay _ => exact .done
  | lnBits _ => exact .done
  | midtrans _ => exact .done
  | xendit _ => exact .done
  | payU _ => exact .done
  | razorpay _ => exact .done
  | yoco _ => exact .done
  | iyzico _ => exact .done
  | coinbaseCommerce _ => exact .done
  | openNode _ _ => exact .done

end WireRail

end Patala.Fiat
