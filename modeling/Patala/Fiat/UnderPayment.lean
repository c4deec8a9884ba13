import Patala.Fiat.Flutterwave
import Patala.Fiat.MercadoPago
import Patala.Fiat.Paystack
import Patala.Fiat.Reference

/-! The rails that look a payment up by the receipt's reference. A verifier refuses what has
been paid below the amount in the receipt, and a charge leaves no amount there, so its own
receipt verifies on any settled payment. -/

namespace Patala.Fiat

/-- A rail whose verifier asks about the reference of its receipt: `lookup` is its question,
`Reports` what a reply says to be settled for a reference in a currency, and `Admits` the
guard on a reference that only the verifier has. -/
structure ReferenceKeyed where
  railId : String
  charge : PayRequest → Talk Receipt
  verify : Receipt → Talk Bool
  lookup : String → Option Request
  Reports : Reply → String → String → UInt64 → Prop
  Admits : String → Prop
  charge_ensures : ∀ req, (charge req).Ensures fun receipt => receipt.railId = railId ∧
    receipt.amountMinor = 0 ∧
    (Admits receipt.reference.text → ∃ question, lookup receipt.reference.text = some question)
  verify_true : ∀ receipt transcript, (verify receipt).Yields transcript (.ok true) ↔
    receipt.railId = railId ∧ ∃ question, lookup receipt.reference.text = some question ∧
      ∃ reply amount, transcript = [(question, reply)] ∧
        Reports reply receipt.reference.text receipt.currency amount ∧ receipt.amountMinor ≤ amount

namespace ReferenceKeyed

variable (rail : ReferenceKeyed)

/-- The receipt verifies on this reply to this lookup. -/
def Accepts (question : Request) (reply : Reply) (receipt : Receipt) : Prop :=
  (rail.verify receipt).Yields [(question, reply)] (.ok true)

/-- The reply says the receipt's reference is settled for an amount in the receipt's currency. -/
def Settles (reply : Reply) (receipt : Receipt) (amount : UInt64) : Prop :=
  rail.Reports reply receipt.reference.text receipt.currency amount

theorem accepts_iff {question : Request} {reply : Reply} {receipt : Receipt} :
    rail.Accepts question reply receipt ↔ receipt.railId = rail.railId ∧
      rail.lookup receipt.reference.text = some question ∧
      ∃ amount, rail.Settles reply receipt amount ∧ receipt.amountMinor ≤ amount := by
  rw [Accepts, rail.verify_true]
  constructor
  · intro ⟨named, asked, looked, answer, amount, same, settled⟩
    simp only [List.cons.injEq, Prod.mk.injEq, and_true] at same
    obtain ⟨same, same'⟩ := same
    subst same same'
    exact ⟨named, looked, amount, settled⟩
  · intro ⟨named, looked, amount, settled⟩
    exact ⟨named, question, looked, reply, amount, rfl, settled⟩

/-- With an amount written into it, a charge's receipt verifies when as much has settled. -/
theorem claimed_accepts_iff {question : Request} {reply : Reply} {receipt : Receipt}
    (own : receipt.railId = rail.railId)
    (looked : rail.lookup receipt.reference.text = some question) (claimed : UInt64) :
    rail.Accepts question reply { receipt with amountMinor := claimed } ↔
      ∃ amount, rail.Settles reply receipt amount ∧ claimed ≤ amount := by
  rw [accepts_iff]
  constructor
  · intro ⟨_, _, settled⟩
    exact settled
  · intro settled
    exact ⟨own, looked, settled⟩

end ReferenceKeyed

/-- The rails whose processor keeps a payment under the caller's reference. -/
inductive ReferenceKeyedRail where
  | paystack (rail : Paystack.PaystackRail)
  | flutterwave (rail : Flutterwave.FlutterwaveRail)
  | mercadopago (rail : MercadoPago.MercadoPagoRail)

/-- What each rail does, in the form they share. -/
def ReferenceKeyedRail.keyed : ReferenceKeyedRail → ReferenceKeyed
  | paystack rail => {
    railId := Paystack.railId
    charge := rail.charge
    verify := rail.verify
    lookup := rail.lookupRequest
    Reports := rail.Reports
    Admits := fun reference => ∃ segment, Paystack.safePathSegment reference = .ok segment
    charge_ensures := by
      intro req transcript receipt run
      obtain ⟨own, pending⟩ := rail.charge_ensures transcript receipt run
      refine ⟨own, pending, fun ⟨segment, safe⟩ => ?_⟩
      exact ⟨_, by rw [Paystack.PaystackRail.lookupRequest, safe, Except.toOption, Option.map_some]⟩
    verify_true := fun _ _ => rail.verify_true }
  | flutterwave rail => {
    railId := Flutterwave.railId
    charge := rail.charge
    verify := rail.verify
    lookup := rail.lookupRequest
    Reports := rail.Reports
    Admits := fun reference => ∃ txRef, Flutterwave.safeReference reference = .ok txRef
    charge_ensures := by
      intro req transcript receipt run
      obtain ⟨own, pending⟩ := rail.charge_ensures transcript receipt run
      refine ⟨own, pending, fun ⟨txRef, safe⟩ => ?_⟩
      exact ⟨_, by
        rw [Flutterwave.FlutterwaveRail.lookupRequest, safe, Except.toOption, Option.map_some]⟩
    verify_true := fun _ _ => rail.verify_true }
  | mercadopago rail => {
    railId := MercadoPago.railId
    charge := rail.charge
    verify := rail.verify
    lookup := rail.lookupRequest
    Reports := rail.Reports
    Admits := fun _ => True
    charge_ensures := by
      intro req transcript receipt run
      obtain ⟨own, pending, named⟩ := rail.charge_ensures transcript receipt run
      refine ⟨own, pending, fun _ => ?_⟩
      exact ⟨_, by rw [MercadoPago.MercadoPagoRail.lookupRequest, if_neg named]⟩
    verify_true := fun _ _ => rail.verify_true }

/-- The receipt of a charge claims nothing, so it verifies on any settlement of its reference
in its currency; with an amount written into it, it verifies on settlements of no less. -/
theorem charged_receipt_verifies (rail : ReferenceKeyedRail) {req : PayRequest} {receipt : Receipt}
    {transcript : List (Request × Reply)}
    (charged : (rail.keyed.charge req).Yields transcript (.ok receipt))
    (admitted : rail.keyed.Admits receipt.reference.text) :
    receipt.amountMinor = 0 ∧ ∃ question,
      rail.keyed.lookup receipt.reference.text = some question ∧ ∀ reply,
        (rail.keyed.Accepts question reply receipt ↔ ∃ amount,
          rail.keyed.Settles reply receipt amount) ∧
        ∀ claimed, rail.keyed.Accepts question reply { receipt with amountMinor := claimed } ↔
          ∃ amount, rail.keyed.Settles reply receipt amount ∧ claimed ≤ amount := by
  obtain ⟨own, pending, looks⟩ := rail.keyed.charge_ensures req transcript receipt charged
  obtain ⟨question, looked⟩ := looks admitted
  refine ⟨pending, question, looked, fun reply => ⟨?_, fun claimed =>
    rail.keyed.claimed_accepts_iff own looked claimed⟩⟩
  rw [rail.keyed.accepts_iff, pending]
  constructor
  · intro ⟨_, _, amount, settled, _⟩
    exact ⟨amount, settled⟩
  · intro ⟨amount, settled⟩
    exact ⟨own, looked, amount, settled, UInt64.zero_le⟩

namespace Sample

theorem buyer_fits : (asBytes "buyer@example.com").length ≤ isizeMax := by decide

def paystackProof (proof : Paystack.ChargeProof) : List UInt8 :=
  asBytes (Json.stringify (.object [("authorization_url", .string proof.authorizationUrl),
    ("access_code", .string proof.accessCode)]))

def initializedBody : List UInt8 := asBytes ("\x7b\"status\":true,\"message\":\"ok\",\"data\":\x7b" ++
  "\"authorization_url\":\"https://checkout.paystack.com/abc\",\"access_code\":\"abc\"," ++
  "\"reference\":\"order-A\"\x7d\x7d")

def verifiedBody : List UInt8 := asBytes ("\x7b\"status\":true,\"message\":\"ok\",\"data\":\x7b" ++
  "\"status\":\"success\",\"reference\":\"order-A\",\"amount\":1000,\"currency\":\"ZAR\"\x7d\x7d")

/-- A Paystack rail that opens one transaction and reads R10 settled for it. -/
def payPaystack : Paystack.PaystackRail where
  secretKey := "sk_test"
  currencies := ["ZAR"]
  baseUrl := Paystack.paystackApiBase
  proofToBytes := paystackProof
  initializeFromSlice := fun body =>
    if body = initializedBody then
      .ok ⟨true, ⟨"https://checkout.paystack.com/abc", "abc", orderA⟩⟩
    else .error "expected value"
  verifyFromSlice := fun body =>
    if body = verifiedBody then .ok ⟨true, ⟨"success", "order-A", 1000, "ZAR"⟩⟩
    else .error "expected value"
  errorFromSlice := fun _ => .error "expected value"

/-- R1000, asked of a buyer. -/
def orderRequest : PayRequest :=
  ⟨100000, "ZAR", ⟨"buyer@example.com", buyer_fits⟩, orderA⟩

def orderReceipt : Receipt :=
  ⟨"paystack", 0, "ZAR", orderA, paystackProof ⟨"https://checkout.paystack.com/abc", "abc"⟩, 0⟩

theorem order_charged : ∃ transcript,
    (payPaystack.charge orderRequest).Yields transcript (.ok orderReceipt) := by
  have run : ((payPaystack.charge orderRequest).replay [.answered 200 initializedBody]).bind
      Except.toOption = some orderReceipt := by
    decide +kernel
  obtain ⟨transcript, -, yields⟩ := Dialogue.exists_yields_of_replay run
  exact ⟨transcript, yields⟩

theorem order_admitted : (ReferenceKeyedRail.paystack payPaystack).keyed.Admits "order-A" :=
  ⟨"order-A", by decide⟩

/-- The processor says R10 have settled. -/
theorem order_settled :
    (ReferenceKeyedRail.paystack payPaystack).keyed.Settles (.answered 200 verifiedBody)
      orderReceipt 1000 :=
  ⟨⟨true, ⟨"success", "order-A", 1000, "ZAR"⟩⟩, rfl, rfl, .inr rfl, rfl,
    by simp [eqIgnoreAsciiCase, orderReceipt], rfl⟩

end Sample

/-- A receipt of a real charge, on which the rules of the rails hold. -/
theorem charged_receipt_verifies_order : ∃ question,
    (ReferenceKeyedRail.paystack Sample.payPaystack).keyed.Accepts question
      (.answered 200 Sample.verifiedBody) Sample.orderReceipt := by
  obtain ⟨transcript, charged⟩ := Sample.order_charged
  obtain ⟨-, question, -, verdict⟩ :=
    charged_receipt_verifies (.paystack Sample.payPaystack) charged Sample.order_admitted
  exact ⟨question, (verdict _).1.mpr ⟨1000, Sample.order_settled⟩⟩

/-- R10 paid settle a charge of R1000. -/
theorem ten_settle_a_thousand :
    ¬ ∀ rail req receipt transcript, ((ReferenceKeyedRail.keyed rail).charge req).Yields transcript
        (.ok receipt) → rail.keyed.Admits receipt.reference.text → ∀ question reply amount,
      rail.keyed.lookup receipt.reference.text = some question →
      rail.keyed.Settles reply receipt amount →
        (amount < req.amountMinor → ¬ rail.keyed.Accepts question reply receipt) ∧
          (req.amountMinor ≤ amount → rail.keyed.Accepts question reply receipt) := by
  intro claim
  obtain ⟨transcript, charged⟩ := Sample.order_charged
  obtain ⟨own, pending, looks⟩ :=
    (ReferenceKeyedRail.paystack Sample.payPaystack).keyed.charge_ensures _ _ _ charged
  obtain ⟨question, looked⟩ := looks Sample.order_admitted
  have short := (claim (.paystack Sample.payPaystack) _ _ _ charged Sample.order_admitted question
    (.answered 200 Sample.verifiedBody) 1000 looked Sample.order_settled).1 (by decide)
  exact short ((ReferenceKeyed.accepts_iff _).mpr
    ⟨own, looked, 1000, Sample.order_settled, UInt64.zero_le⟩)

end Patala.Fiat
