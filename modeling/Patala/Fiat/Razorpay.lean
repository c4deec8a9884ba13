import Patala.Fiat.ObjectLookup
import Patala.Fiat.OfflineWebhook

/-! The Razorpay rail: `charge` creates an order, and `verify` lists the payments made for it. Of
these the first that was captured decides, whatever comes behind it. -/

namespace Patala.Fiat.Razorpay

structure CreateResponse where
  id : String

structure ListResponse where
  items : List RazorpayPayment

structure ErrorBody where
  description : String

structure ErrorEnvelope where
  error : ErrorBody

structure ChargeProof where
  orderId : String
deriving DecidableEq

/-- The rail, with how its messages are written and read. -/
structure RazorpayRail where
  keyId : String
  keySecret : String
  baseUrl : String
  proofToBytes : ChargeProof → List UInt8
  proofFromSlice : FromSlice ChargeProof
  createFromSlice : FromSlice CreateResponse
  listFromSlice : FromSlice ListResponse
  errorFromSlice : FromSlice ErrorEnvelope

def railId : String := "razorpay"

def razorpayApiBase : String := "https://api.razorpay.com/v1"

/-- Hardcoded, whatever is configured. -/
def currencies : List String := ["INR"]

def safePathSegment (s : String) : Except Error String := Fiat.safePathSegment "a razorpay id" s

def PaymentOutcome.outcome (outcome : PaymentOutcome) : Outcome :=
  ⟨outcome.orderId, outcome.settled, outcome.amountMinor, outcome.currency⟩

/-- The first captured payment of an order; entries of other orders are passed over. -/
def ListResponse.captured (parsed : ListResponse) (orderId : String) : Option RazorpayPayment :=
  (parsed.items.filter fun item => item.orderId = orderId).find? fun item => item.status = "captured"

/-- What `verify` makes of the payments listed for an order. -/
def ListResponse.settles (parsed : ListResponse) (orderId : String) (receipt : Receipt) : Bool :=
  match parsed.captured orderId with
  | none => false
  | some pay => Fiat.settles receipt ((evaluatePayment pay).map PaymentOutcome.outcome)

/-- The payment is the order's, and was captured. -/
def RazorpayPayment.Captured (pay : RazorpayPayment) (orderId : String) : Prop :=
  pay.orderId = orderId ∧ pay.status = "captured"

/-- The payments listed show an order paid for an amount in a currency: the first of them that was
captured for it has an id and is for that amount. -/
def ListResponse.Shows (parsed : ListResponse) (orderId currency : String) (amount : UInt64) : Prop :=
  ∃ before pay after, parsed.items = before ++ pay :: after ∧
    (∀ other ∈ before, ¬ other.Captured orderId) ∧ pay.Captured orderId ∧
      orderId ≠ "" ∧ pay.id ≠ "" ∧ pay.amount = amount ∧ amount ≠ 0 ∧
        eqIgnoreAsciiCase (trim pay.currency) currency

theorem captured_eq_some {parsed : ListResponse} {orderId : String} {pay : RazorpayPayment} :
    parsed.captured orderId = some pay ↔ ∃ before after, parsed.items = before ++ pay :: after ∧
      (∀ other ∈ before, ¬ other.Captured orderId) ∧ pay.Captured orderId := by
  rw [ListResponse.captured, List.find?_filter, List.find?_eq_some_iff_append]
  simp only [RazorpayPayment.Captured, decide_eq_true_eq, Bool.not_eq_true',
    decide_eq_false_iff_not, not_and_or]
  constructor
  · intro ⟨own, before, after, same, passed⟩
    exact ⟨before, after, same, passed, own⟩
  · intro ⟨before, after, same, passed, own⟩
    exact ⟨own, before, after, same, passed⟩

/-- Razorpay's currencies are compared in any case, once trimmed. -/
theorem settles_captured {pay : RazorpayPayment} {receipt : Receipt} (captured : pay.status = "captured") :
    Fiat.settles receipt ((evaluatePayment pay).map PaymentOutcome.outcome) = true ↔
      pay.orderId ≠ "" ∧ pay.id ≠ "" ∧ pay.amount ≠ 0 ∧
        eqIgnoreAsciiCase (trim pay.currency) receipt.currency ∧
          receipt.amountMinor ≤ pay.amount := by
  unfold evaluatePayment
  by_cases ordered : pay.orderId = ""
  · simp [ordered, Fiat.settles, Except.map]
  by_cases named : pay.id = ""
  · simp [ordered, named, Fiat.settles, Except.map]
  by_cases nothing : pay.amount = 0
  · simp [ordered, named, captured, nothing, Fiat.settles, Except.map]
  · simp [ordered, named, captured, nothing, Fiat.settles, Except.map, PaymentOutcome.outcome,
      Outcome.covers_iff]

/-- The verifier is satisfied when the payments show the order paid for enough. -/
theorem ListResponse.settles_iff {parsed : ListResponse} {orderId : String} {receipt : Receipt} :
    parsed.settles orderId receipt = true ↔
      ∃ amount, parsed.Shows orderId receipt.currency amount ∧ receipt.amountMinor ≤ amount := by
  unfold ListResponse.settles
  constructor
  · intro settled
    cases found : parsed.captured orderId with
    | none => simp [found] at settled
    | some pay =>
      rw [found] at settled
      obtain ⟨before, after, same, passed, own⟩ := captured_eq_some.mp found
      obtain ⟨ordered, named, paid, currency, enough⟩ := (settles_captured own.2).mp settled
      exact ⟨pay.amount, ⟨before, pay, after, same, passed, own, own.1 ▸ ordered, named, rfl, paid,
        currency⟩, enough⟩
  · intro ⟨amount, ⟨before, pay, after, same, passed, own, ordered, named, worth, paid, currency⟩,
      enough⟩
    rw [captured_eq_some.mpr ⟨before, after, same, passed, own⟩]
    subst worth
    exact (settles_captured own.2).mpr ⟨own.1.symm ▸ ordered, named, paid, currency, enough⟩

namespace RazorpayRail

variable (rail : RazorpayRail)

def classifyError (status : UInt16) (body : List UInt8) : Error :=
  let message := match rail.errorFromSlice body with
    | .ok env => if env.error.description = "" then "no message" else env.error.description
    | .error _ => "no message"
  unexpectedStatus "razorpay" status message

/-- The request `do_json` sends. -/
def jsonRequest (method : Method) (path : String) (body : Option Json.Value) : Request where
  method := method
  url := rail.baseUrl ++ path
  query := []
  headers := [("Content-Type", "application/json")]
  basicAuth := some (rail.keyId, some rail.keySecret)
  payload := body.map .json

def createBody (req : PayRequest) (currency : String) : Json.Value :=
  .object [("amount", .number (toString req.amountMinor.toNat)), ("currency", .string currency),
    ("receipt", .string req.reference.text)]

/-- Create an order for a request; its receipt claims no amount yet. -/
def charge (req : PayRequest) : Talk Receipt := do
  req.validate
  checkListedCurrency railId currencies req.currency
  let currency := toAsciiUppercase (trim req.currency)
  let parsed ← fetch "razorpay" "/orders"
    (rail.jsonRequest .post "/orders" (some (createBody req currency)))
    rail.classifyError rail.createFromSlice
  insist (parsed.id ≠ "") (malformed "empty order id")
  return {
    railId := railId
    amountMinor := 0
    currency
    reference := req.reference
    proof := rail.proofToBytes ⟨parsed.id⟩
    settledAtUnix := 0 }

def paymentsPath (orderId : String) : String := s!"/orders/{orderId}/payments"

/-- The payments made for the order a proof names. -/
def payments : ObjectLookup ChargeProof ListResponse where
  railId := railId
  proofFromSlice := rail.proofFromSlice
  named := fun proof => orDeclined (safePathSegment proof.orderId)
  path := paymentsPath
  request := fun orderId => rail.jsonRequest .get (paymentsPath orderId) none
  classifyError := rail.classifyError
  fromSlice := rail.listFromSlice
  judge := fun receipt orderId parsed => .ok (parsed.settles orderId receipt)

/-- List the payments for the order the proof names, and compare the captured one. -/
def verify (receipt : Receipt) : Talk Bool := rail.payments.verify receipt

/-- A charge goes well when the order it asks for is created with an id. -/
theorem charge_ok {req : PayRequest} {receipt : Receipt} {transcript : List (Request × Reply)} :
    (rail.charge req).Yields transcript (.ok receipt) ↔
      req.validate = .ok () ∧ contains currencies req.currency ∧ ∃ reply parsed,
        transcript = [(rail.jsonRequest .post "/orders"
          (some (createBody req (toAsciiUppercase (trim req.currency)))), reply)] ∧
        reply.decoded rail.createFromSlice = some parsed ∧ parsed.id ≠ "" ∧
        receipt = ⟨railId, 0, toAsciiUppercase (trim req.currency), req.reference,
          rail.proofToBytes ⟨parsed.id⟩, 0⟩ := by
  unfold charge checkListedCurrency
  simp only [Dialogue.yields_lift_bind_ok, insist_ok_iff, Unique.exists_iff, fetch_created]

end RazorpayRail

end Patala.Fiat.Razorpay
