import Patala.Fiat.CheckoutCom
import Patala.Fiat.Mollie
import Patala.Fiat.Numeral
import Patala.Fiat.PayPal
import Patala.Fiat.Paystack

/-! The rails that give money back through their processor. A refund asks for the amount of the
receipt it is given, and its own receipt reports what the processor says was given back. -/

namespace Patala.Fiat

/-- A receipt is refunded by the rail that issued it. -/
def foreignReceipt (got id : String) : Error :=
  .invalidRequest s!"receipt names rail {debugStr got}, not {debugStr id}"

def notAChargeProof (what : String) : Error :=
  .invalidRequest s!"receipt proof is not a {what} charge proof"

namespace Paystack

structure RefundData where
  amount : UInt64
  currency : String
  status : String

structure RefundResponse where
  status : Bool
  data : RefundData

namespace PaystackRail

variable (rail : PaystackRail)

def refundRequest (reference : String) (amountMinor : UInt64) : Request :=
  rail.jsonRequest .post "/refund" (some (.object [("transaction", .string reference),
    ("amount", .number (toString amountMinor.toNat))]))

/-- Refund a transaction at a time; only `processed` moved money back. -/
def refund (refundFromSlice : FromSlice RefundResponse) (now : UInt64) (receipt : Receipt) :
    Talk Receipt := do
  insist (receipt.railId = railId) (foreignReceipt receipt.railId railId)
  let reference ← safePathSegment receipt.reference.text
  let parsed ← fetch "paystack" "/refund" (rail.refundRequest reference receipt.amountMinor)
    rail.classifyError refundFromSlice
  insist parsed.status (malformed "refund request returned status=false")
  let currency := toAsciiUppercase (trim parsed.data.currency)
  return {
    railId := railId
    amountMinor := if parsed.data.status = "processed" then parsed.data.amount else 0
    currency := if currency = "" then receipt.currency else currency
    reference := receipt.reference
    proof := []
    settledAtUnix := now }

theorem refund_asks {refundFromSlice : FromSlice RefundResponse} {now : UInt64} {receipt : Receipt}
    {question : Request} (asked : (rail.refund refundFromSlice now receipt).Asks question) :
    ∃ reference, question = rail.refundRequest reference receipt.amountMinor := by
  simp only [refund, Dialogue.asks_bind, Dialogue.asks_lift, fetch_asks, Dialogue.asks_pure,
    and_false, exists_false, or_false, false_or] at asked
  obtain ⟨-, -, -, -, reference, -, same⟩ := asked
  exact ⟨reference, same⟩

/-- A request to refund tells its amount. -/
theorem refundRequest_amount {reference reference' : String} {amount amount' : UInt64}
    (same : rail.refundRequest reference amount = rail.refundRequest reference' amount') :
    amount = amount' := by
  simp only [refundRequest, jsonRequest, Option.map_some, Request.mk.injEq, Option.some.injEq,
    Payload.json.injEq, Json.Value.object.injEq, List.cons.injEq, Prod.mk.injEq,
    Json.Value.number.injEq, true_and, and_true] at same
  exact UInt64.toNat_inj.mp (Joined.toString_injective same.2)

end PaystackRail

end Paystack

namespace Mollie

structure RefundResponse where
  id : String
  status : String
  amount : AmountObj

structure RefundProof where
  refundId : String
  statusAtRefund : String

namespace MollieRail

variable (rail : MollieRail)

def refundPath (paymentId : String) : String := s!"/payments/{paymentId}/refunds"

def refundRequest (paymentId currency value : String) : Request :=
  rail.jsonRequest .post (refundPath paymentId) (some (.object [("amount",
    .object [("currency", .string currency), ("value", .string value)])]))

/-- Only `refunded` moved money back. -/
def givenBack (parsed : RefundResponse) (currency : String) : Except Error UInt64 :=
  if parsed.status = "refunded" then mollieAmountValueToMinor parsed.amount.value currency
  else .ok 0

/-- Refund the payment the proof names. -/
def refund (refundFromSlice : FromSlice RefundResponse) (toBytes : RefundProof → List UInt8)
    (now : UInt64) (receipt : Receipt) : Talk Receipt := do
  insist (receipt.railId = railId) (foreignReceipt receipt.railId railId)
  let proof ← okOr (rail.proofFromSlice receipt.proof).toOption (notAChargeProof "mollie")
  let paymentId ← safePathSegment proof.paymentId
  let currency := toAsciiUppercase (trim receipt.currency)
  let value ← mollieAmountValue receipt.amountMinor currency
  let parsed ← fetch "mollie" (refundPath paymentId) (rail.refundRequest paymentId currency value)
    rail.classifyError refundFromSlice
  let amountMinor ← givenBack parsed currency
  return {
    railId := railId
    amountMinor
    currency
    reference := receipt.reference
    proof := toBytes ⟨parsed.id, parsed.status⟩
    settledAtUnix := now }

theorem refund_asks {refundFromSlice : FromSlice RefundResponse}
    {toBytes : RefundProof → List UInt8} {now : UInt64} {receipt : Receipt} {question : Request}
    (asked : (rail.refund refundFromSlice toBytes now receipt).Asks question) :
    ∃ paymentId value, mollieAmountValue receipt.amountMinor
        (toAsciiUppercase (trim receipt.currency)) = .ok value ∧
      question = rail.refundRequest paymentId (toAsciiUppercase (trim receipt.currency)) value := by
  simp only [refund, Dialogue.asks_bind, Dialogue.asks_lift, fetch_asks, Dialogue.asks_pure,
    and_false, exists_false, or_false, false_or, Dialogue.yields_lift] at asked
  obtain ⟨-, -, -, -, proof, -, -, paymentId, -, -, value, ⟨-, written⟩, same⟩ := asked
  exact ⟨paymentId, value, written.symm, same⟩

theorem mollieAmountValue_injective {a b : UInt64} {currency value : String}
    (first : mollieAmountValue a currency = .ok value)
    (second : mollieAmountValue b currency = .ok value) : a = b := by
  obtain ⟨exp, listed, first⟩ := Fallible.bind_eq_ok.mp first
  obtain ⟨exp', listed', second⟩ := Fallible.bind_eq_ok.mp second
  cases listed.symm.trans listed'
  by_cases cents : exp = 2
  · rw [if_neg (not_not_intro cents), Fallible.mapError_eq_ok] at first second
    exact minorToMajorString_injective first second
  · rw [if_pos cents] at first
    cases first

theorem refundRequest_value {paymentId paymentId' currency currency' value value' : String}
    (same : rail.refundRequest paymentId currency value =
      rail.refundRequest paymentId' currency' value') : value = value' := by
  simp only [refundRequest, jsonRequest, Option.map_some, Request.mk.injEq, Option.some.injEq,
    Payload.json.injEq, Json.Value.object.injEq, List.cons.injEq, Prod.mk.injEq,
    Json.Value.string.injEq, true_and, and_true] at same
  exact same.2.2

theorem charge_pending {req : PayRequest} :
    (rail.charge req).Ensures fun receipt => receipt.amountMinor = 0 := by
  refine Dialogue.ensures_rest fun _ => Dialogue.ensures_rest fun _ => ?_
  refine Dialogue.ensures_rest fun _ => Dialogue.ensures_rest fun _ => ?_
  exact Dialogue.ensures_rest fun _ => Dialogue.ensures_pure rfl

end MollieRail

end Mollie

namespace CheckoutCom

structure RefundResponse where
  actionId : String

structure RefundProof where
  actionId : String

namespace CheckoutComRail

variable (rail : CheckoutComRail)

def refundPath (paymentId : String) : String := s!"/payments/{paymentId}/refunds"

def refundRequest (paymentId reference : String) (amount : UInt64) : Request :=
  rail.jsonRequest .post (refundPath paymentId) (some (.object
    [("amount", .number (toString amount.toNat)), ("reference", .string reference)]))

/-- An accepted answer that does not decode is taken for an empty one. -/
def readRefund (refundFromSlice : FromSlice RefundResponse) (path : String) (reply : Reply) :
    Except Error RefundResponse := do
  let answer ← readReply "checkoutcom" path reply
  insist (isSuccess answer.2) (rail.classifyError answer.2 answer.1)
  return (refundFromSlice answer.1).toOption.getD ⟨""⟩

/-- Ask for the payment the proof names to be refunded; whether it is stays open. -/
def refund (refundFromSlice : FromSlice RefundResponse) (toBytes : RefundProof → List UInt8)
    (receipt : Receipt) : Talk Receipt := do
  insist (receipt.railId = railId) (foreignReceipt receipt.railId railId)
  let proof ← okOr (rail.proofFromSlice receipt.proof).toOption (notAChargeProof "checkoutcom")
  let paymentId ← safePathSegment proof.paymentId
  let currency := toAsciiUppercase (trim receipt.currency)
  let amount ← checkOutComAmount receipt.amountMinor currency
  let parsed ← .once (rail.refundRequest paymentId receipt.reference.text amount)
    (rail.readRefund refundFromSlice (refundPath paymentId))
  return {
    railId := railId
    amountMinor := 0
    currency
    reference := receipt.reference
    proof := toBytes ⟨parsed.actionId⟩
    settledAtUnix := 0 }

theorem refund_asks {refundFromSlice : FromSlice RefundResponse}
    {toBytes : RefundProof → List UInt8} {receipt : Receipt} {question : Request}
    (asked : (rail.refund refundFromSlice toBytes receipt).Asks question) :
    ∃ paymentId amount, checkOutComAmount receipt.amountMinor
        (toAsciiUppercase (trim receipt.currency)) = .ok amount ∧
      question = rail.refundRequest paymentId receipt.reference.text amount := by
  simp only [refund, Dialogue.asks_bind, Dialogue.asks_lift, Dialogue.once, Dialogue.asks_ask,
    Dialogue.asks_done, Dialogue.asks_pure, and_false, exists_false, or_false, false_or,
    Dialogue.yields_lift] at asked
  obtain ⟨-, -, -, -, proof, -, -, paymentId, -, -, amount, ⟨-, written⟩, same⟩ := asked
  exact ⟨paymentId, amount, written.symm, same⟩

theorem checkOutComAmount_injective {a b amount : UInt64} {currency : String}
    (first : checkOutComAmount a currency = .ok amount)
    (second : checkOutComAmount b currency = .ok amount) : a = b := by
  unfold checkOutComAmount at first second
  by_cases forced : contains checkoutcomForcedTwoDecimal (toAsciiUppercase (trim currency))
  · have fits : ∀ {c : UInt64}, (if c.toNat * 100 < 2 ^ 64 then (.ok (c * 100) : Except Error UInt64)
        else .error (.invalidRequest s!"checkoutcom: amount {c.toNat} overflows for {
          toAsciiUppercase (trim currency)}")) = .ok amount → c.toNat * 100 = amount.toNat := by
      intro c written
      by_cases small : c.toNat * 100 < 2 ^ 64
      · rw [if_pos small, Except.ok.injEq] at written
        rw [← written, UInt64.toNat_mul]
        exact (Nat.mod_eq_of_lt small).symm
      · rw [if_neg small] at written
        cases written
    simp only [forced, ↓reduceIte] at first second
    exact UInt64.toNat_inj.mp (Nat.eq_of_mul_eq_mul_right (by decide)
      ((fits first).trans (fits second).symm))
  · simp only [forced, Bool.false_eq_true, ↓reduceIte, Except.ok.injEq] at first second
    exact first.trans second.symm

theorem refundRequest_amount {paymentId paymentId' reference reference' : String}
    {amount amount' : UInt64} (same : rail.refundRequest paymentId reference amount =
      rail.refundRequest paymentId' reference' amount') : amount = amount' := by
  simp only [refundRequest, jsonRequest, Option.map_some, Request.mk.injEq, Option.some.injEq,
    Payload.json.injEq, Json.Value.object.injEq, List.cons.injEq, Prod.mk.injEq,
    Json.Value.number.injEq, true_and, and_true] at same
  exact UInt64.toNat_inj.mp (Joined.toString_injective same.2.1)

theorem charge_pending {req : PayRequest} :
    (rail.charge req).Ensures fun receipt => receipt.amountMinor = 0 := by
  refine Dialogue.ensures_rest fun _ => Dialogue.ensures_rest fun _ => ?_
  refine Dialogue.ensures_rest fun _ => Dialogue.ensures_rest fun _ => ?_
  exact Dialogue.ensures_rest fun _ => Dialogue.ensures_pure rfl

end CheckoutComRail

end CheckoutCom

namespace PayPal

structure RefundResponse where
  id : String
  status : String
  amount : CaptureAmount

structure RefundProof where
  refundId : String
  statusAtRefund : String

namespace PayPalRail

variable (rail : PayPalRail)

def refundPath (captureId : String) : String := s!"/v2/payments/captures/{captureId}/refund"

def refundRequest (captureId currency value token : String) : Request :=
  rail.jsonRequest .post (refundPath captureId) (some (.object [("amount",
    .object [("currency_code", .string currency), ("value", .string value)])])) token

/-- Only `COMPLETED` moved money back; nothing when reading the amount panics. -/
def givenBack (parsed : RefundResponse) (currency : String) : Option (Except Error UInt64) :=
  if parsed.status = "COMPLETED" then
    paypalAmountValueToMinor rail.overflowChecks parsed.amount.value currency
  else some (.ok 0)

/-- Refund the completed capture of the order the proof names. -/
def refund (refundFromSlice : FromSlice RefundResponse) (toBytes : RefundProof → List UInt8)
    (now : UInt64) (receipt : Receipt) : Talk (Option Receipt) := do
  insist (receipt.railId = railId) (foreignReceipt receipt.railId railId)
  let proof ← okOr (rail.proofFromSlice receipt.proof).toOption (notAChargeProof "paypal")
  let orderId ← safePathSegment proof.paypalOrderId
  let token ← rail.fetchAccessToken
  let order ← rail.getOrder orderId token
  let found ← okOr (findCompletedCapture order)
    (.rail s!"paypal: order {order.id} has no COMPLETED capture to refund")
  insist (unitReference found.1 = receipt.reference.text) (.rail
    "paypal: order's captured purchase unit does not match this receipt's reference")
  let captureId ← safePathSegment found.2.id
  let value ← paypalAmountValue receipt.amountMinor receipt.currency
  let parsed ← fetch "paypal" (refundPath captureId)
    (rail.refundRequest captureId receipt.currency value token) rail.classifyError refundFromSlice
  let currency := if parsed.amount.currencyCode = "" then receipt.currency
    else toAsciiUppercase parsed.amount.currencyCode
  match rail.givenBack parsed currency with
  | none => return none
  | some given => do
    let amountMinor ← given
    return some {
      railId := railId
      amountMinor
      currency
      reference := receipt.reference
      proof := toBytes ⟨parsed.id, parsed.status⟩
      settledAtUnix := now }

theorem refund_asks {refundFromSlice : FromSlice RefundResponse}
    {toBytes : RefundProof → List UInt8} {now : UInt64} {receipt : Receipt} {question : Request}
    (asked : (rail.refund refundFromSlice toBytes now receipt).Asks question) :
    question = rail.tokenRequest ∨
    (∃ orderId token, question = rail.jsonRequest .get (orderPath orderId) none token) ∨
    ∃ captureId value token, paypalAmountValue receipt.amountMinor receipt.currency = .ok value ∧
      question = rail.refundRequest captureId receipt.currency value token := by
  simp only [refund, fetchAccessToken, getOrder, Dialogue.asks_bind, Dialogue.asks_lift,
    Dialogue.once, Dialogue.asks_ask, Dialogue.asks_done, fetch_asks, exists_false, or_false,
    false_or, Dialogue.yields_lift] at asked
  obtain ⟨-, -, -, -, -, -, -, orderId, -, first | ⟨-, token, -, second | ⟨-, order, -, -, found, -,
    -, -, -, -, captureId, -, -, value, ⟨-, written⟩, third | ⟨-, parsed, -, later⟩⟩⟩⟩ := asked
  · exact .inl first
  · exact .inr (.inl ⟨orderId, token, second⟩)
  · exact .inr (.inr ⟨captureId, value, token, written.symm, third⟩)
  · cases given : rail.givenBack parsed (if parsed.amount.currencyCode = "" then receipt.currency
        else toAsciiUppercase parsed.amount.currencyCode) with
    | none => simp [given] at later
    | some amount => simp [given, Dialogue.asks_bind] at later

theorem paypalAmountValue_injective {a b : UInt64} {currency value : String}
    (first : paypalAmountValue a currency = .ok value)
    (second : paypalAmountValue b currency = .ok value) : a = b := by
  unfold paypalAmountValue at first second
  by_cases three : isThreeDecimal (toAsciiUppercase (trim currency))
  · simp [three] at first
  by_cases zero : isZeroDecimal (toAsciiUppercase (trim currency))
  · simp only [three, zero, Bool.false_eq_true, ↓reduceIte, Except.ok.injEq] at first second
    exact UInt64.toNat_inj.mp (Joined.toString_injective (first.trans second.symm))
  · simp only [three, zero, Bool.false_eq_true, ↓reduceIte, Except.ok.injEq] at first second
    exact UInt64.toNat_inj.mp (decimal_injective (first.trans second.symm))

theorem refundRequest_value {captureId captureId' currency currency' value value' token token' : String}
    (same : rail.refundRequest captureId currency value token =
      rail.refundRequest captureId' currency' value' token') : value = value' := by
  simp only [refundRequest, jsonRequest, Option.map_some, Request.mk.injEq, Option.some.injEq,
    Payload.json.injEq, Json.Value.object.injEq, List.cons.injEq, Prod.mk.injEq,
    Json.Value.string.injEq, true_and, and_true] at same
  exact same.2.2.2

theorem charge_pending {req : PayRequest} :
    (rail.charge req).Ensures fun receipt => receipt.amountMinor = 0 := by
  refine Dialogue.ensures_rest fun _ => Dialogue.ensures_rest fun _ => ?_
  refine Dialogue.ensures_rest fun _ => Dialogue.ensures_rest fun _ => ?_
  refine Dialogue.ensures_rest fun _ => Dialogue.ensures_rest fun _ => ?_
  exact Dialogue.ensures_rest fun _ => Dialogue.ensures_pure rfl

end PayPalRail

end PayPal

end Patala.Fiat
