import Patala.Fiat.LookupRails
import Patala.Fiat.Midtrans
import Patala.Fiat.MercadoPago
import Patala.Fiat.PayU
import Patala.Fiat.RefundRails
import Patala.Fiat.Xendit
import Patala.Hyperswitch.Rail
import Patala.Lib.Spending

/-! Every rail that talks to a processor, as one kind of thing: what its calls ask, and which of the
questions can move money or open something that a payer pays. -/

namespace Patala.Fiat

/-- The clock and the random key a call sees. -/
structure Moment where
  now : UInt64
  randomKey : String

/-- The rails that talk to a processor, with how their refunds are read and recorded. -/
inductive WireRail where
  | paystack (rail : Paystack.PaystackRail) (refundFromSlice : FromSlice Paystack.RefundResponse)
  | flutterwave (rail : Flutterwave.FlutterwaveRail)
  | mercadoPago (rail : MercadoPago.MercadoPagoRail)
  | stripe (rail : Stripe.StripeRail) (refundFromSlice : FromSlice Stripe.RefundResponse)
      (toBytes : Stripe.RefundProof → List UInt8)
  | checkoutCom (rail : CheckoutCom.CheckoutComRail)
      (refundFromSlice : FromSlice CheckoutCom.RefundResponse)
      (toBytes : CheckoutCom.RefundProof → List UInt8)
  | mollie (rail : Mollie.MollieRail) (refundFromSlice : FromSlice Mollie.RefundResponse)
      (toBytes : Mollie.RefundProof → List UInt8)
  | btcPay (rail : BTCPay.BTCPayRail)
  | square (rail : Square.SquareRail) (refundFromSlice : FromSlice Square.RefundResponse)
  | payPal (rail : PayPal.PayPalRail) (refundFromSlice : FromSlice PayPal.RefundResponse)
      (toBytes : PayPal.RefundProof → List UInt8)
  | lnBits (rail : LNbits.LNbitsRail)
  | midtrans (rail : Midtrans.MidtransRail)
  | xendit (rail : Xendit.XenditRail)
  | payU (rail : PayU.PayURail)
  | adyen (rail : Adyen.AdyenRail)
  | razorpay (rail : Razorpay.RazorpayRail)
  | yoco (rail : Yoco.YocoRail)
  | iyzico (rail : Iyzico.IyzicoRail)
  | coinbaseCommerce (rail : CoinbaseCommerce.CoinbaseCommerceCharges)
  | openNode (rail : OpenNode.OpenNodeRail) (proofFromSlice : FromSlice OpenNode.ChargeProof)
  | hyperswitch (rail : Hyperswitch.HyperswitchRail)

namespace WireRail

def charge (moment : Moment) (req : PayRequest) : WireRail → Talk Receipt
  | paystack rail _ => rail.charge req
  | flutterwave rail => rail.charge req
  | mercadoPago rail => rail.charge req
  | stripe rail _ _ => rail.charge req
  | checkoutCom rail _ _ => rail.charge req
  | mollie rail _ _ => rail.charge req
  | btcPay rail => rail.charge req
  | square rail _ => rail.charge req
  | payPal rail _ _ => rail.charge req
  | lnBits rail => rail.charge moment.now req
  | midtrans rail => rail.charge req
  | xendit rail => rail.charge req
  | payU rail => rail.charge req
  | adyen rail => rail.charge req
  | razorpay rail => rail.charge req
  | yoco rail => rail.charge req
  | iyzico rail => rail.charge moment.randomKey req
  | coinbaseCommerce rail => rail.charge req
  | openNode rail _ => rail.charge req
  | hyperswitch rail => rail.charge moment.now req

def verify (moment : Moment) (receipt : Receipt) : WireRail → Talk (Option Bool)
  | paystack rail _ => do return some (← rail.verify receipt)
  | flutterwave rail => do return some (← rail.verify receipt)
  | mercadoPago rail => do return some (← rail.verify receipt)
  | stripe rail _ _ => do return some (← rail.verify receipt)
  | checkoutCom rail _ _ => do return some (← rail.verify receipt)
  | mollie rail _ _ => do return some (← rail.verify receipt)
  | btcPay rail => do return some (← rail.verify receipt)
  | square rail _ => do return some (← rail.verify receipt)
  | payPal rail _ _ => rail.verify receipt
  | lnBits rail => do return some (← rail.verify receipt)
  | midtrans rail => do return some (← rail.verify receipt)
  | xendit rail => do return some (← rail.verify receipt)
  | payU rail => do return some (← rail.verify receipt)
  | adyen _ => do return some (← Adyen.AdyenRail.verify receipt)
  | razorpay rail => do return some (← rail.verify receipt)
  | yoco rail => do return some (← rail.verify receipt)
  | iyzico rail => do return some (← rail.verify moment.randomKey receipt)
  | coinbaseCommerce rail => do return some (← rail.verify receipt)
  | openNode rail proofFromSlice => do return some (← rail.verify proofFromSlice receipt)
  | hyperswitch rail => rail.verify receipt

def noRefund : Talk (Option Receipt) := .done (.error (.unsupported "refund"))

/-- A refund; nothing comes of it where the code panics. -/
def refund (moment : Moment) (receipt : Receipt) : WireRail → Talk (Option Receipt)
  | paystack rail refundFromSlice => do return some (← rail.refund refundFromSlice moment.now receipt)
  | stripe rail refundFromSlice toBytes =>
    do return some (← rail.refund refundFromSlice toBytes moment.now receipt)
  | checkoutCom rail refundFromSlice toBytes =>
    do return some (← rail.refund refundFromSlice toBytes receipt)
  | mollie rail refundFromSlice toBytes =>
    do return some (← rail.refund refundFromSlice toBytes moment.now receipt)
  | square rail refundFromSlice => do return some (← rail.refund refundFromSlice moment.now receipt)
  | payPal rail refundFromSlice toBytes => rail.refund refundFromSlice toBytes moment.now receipt
  | adyen rail => do return some (← rail.refund receipt)
  | hyperswitch rail => do return some (← rail.refund moment.now receipt)
  | _ => noRefund

/-- The question is sent to act, not to look or to be let in. -/
def acts (rail : WireRail) (question : Request) : Bool :=
  match rail with
  | payPal rail _ _ => question.method = .post && question.url ≠ rail.baseUrl ++ "/v1/oauth2/token"
  | payU rail => question.method = .post && question.url ≠ rail.baseUrl
  | iyzico rail =>
    question.method = .post && question.url ≠ rail.baseUrl ++ Iyzico.IyzicoRail.detailPath
  | _ => question.method = .post

end WireRail

end Patala.Fiat
