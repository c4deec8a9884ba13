import Patala.Fiat.ObjectLookup
import Patala.Fiat.Yoco

/-! The Yoco rail: `charge` opens a hosted checkout in rand, and `verify` fetches it under the id
in the proof. A checkout of another id does not count. -/

namespace Patala.Fiat.Yoco

structure CreateResponse where
  id : String
  redirectUrl : String

structure ErrorEnvelope where
  message : String

structure ChargeProof where
  checkoutId : String
  redirectUrl : Option String

/-- The rail, with how its messages are written and read. -/
structure YocoRail where
  secretKey : String
  baseUrl : String
  proofToBytes : ChargeProof → List UInt8
  proofFromSlice : FromSlice ChargeProof
  createFromSlice : FromSlice CreateResponse
  checkoutFromSlice : FromSlice YocoCheckout
  errorFromSlice : FromSlice ErrorEnvelope

def railId : String := "yoco"

def yocoApiBase : String := "https://payments.yoco.com/api"

def safePathSegment (s : String) : Except Error String := Fiat.safePathSegment "a yoco checkout id" s

def unsupportedCurrency (got : String) : Error :=
  .invalidRequest s!"yoco: only ZAR is supported, got {debugStr got}"

/-- The merchant's reference is not among what an outcome keeps. -/
def CheckoutOutcome.outcome (outcome : CheckoutOutcome) : Outcome :=
  ⟨outcome.eventId, outcome.settled, outcome.amountMinor, outcome.currency⟩

/-- What `verify` makes of the checkout found under an id. -/
def YocoCheckout.settles (parsed : YocoCheckout) (checkoutId : String) (receipt : Receipt) : Bool :=
  if parsed.id ≠ "" ∧ parsed.id ≠ checkoutId then false
  else Fiat.settles receipt ((evaluateCheckout parsed).map CheckoutOutcome.outcome)

/-- The status is one of the two that say a checkout was paid. -/
def Paid (status : String) : Prop :=
  toAsciiLowercase status = "completed" ∨ toAsciiLowercase status = "succeeded"

/-- The checkout is the one asked for, and is paid for an amount in a currency. -/
def YocoCheckout.Shows (parsed : YocoCheckout) (checkoutId currency : String) (amount : UInt64) : Prop :=
  parsed.id = checkoutId ∧ checkoutId ≠ "" ∧ Paid parsed.status ∧ parsed.amount = amount ∧
    amount ≠ 0 ∧ eqIgnoreAsciiCase parsed.currency currency

/-- The verifier is satisfied when the checkout shows enough. -/
theorem YocoCheckout.settles_iff {parsed : YocoCheckout} {checkoutId : String} {receipt : Receipt} :
    parsed.settles checkoutId receipt = true ↔
      ∃ amount, parsed.Shows checkoutId receipt.currency amount ∧ receipt.amountMinor ≤ amount := by
  unfold YocoCheckout.settles YocoCheckout.Shows evaluateCheckout
  by_cases missing : parsed.id = ""
  · refine iff_of_false (by simp [missing, Fiat.settles, Except.map]) ?_
    intro shown
    obtain ⟨amount, ⟨same, named, _⟩, _⟩ := shown
    exact named (same.symm.trans missing)
  by_cases other : parsed.id = checkoutId
  · have named : checkoutId ≠ "" := other ▸ missing
    by_cases paid : Paid parsed.status
    · by_cases nothing : parsed.amount = 0
      · simp [other, named, show _ ∨ _ from paid, paid, nothing, Fiat.settles, Except.map]
      · simp [other, named, show _ ∨ _ from paid, paid, nothing, Fiat.settles, Except.map,
          CheckoutOutcome.outcome, Outcome.covers_iff]
    · simp [other, named, show ¬ (_ ∨ _) from paid, paid, Fiat.settles, Except.map,
        CheckoutOutcome.outcome, Outcome.covers_iff]
  · simp [missing, other]

namespace YocoRail

variable (rail : YocoRail)

def classifyError (status : UInt16) (body : List UInt8) : Error :=
  let message := match rail.errorFromSlice body with
    | .ok env => if env.message = "" then "no message" else env.message
    | .error _ => "no message"
  unexpectedStatus "yoco" status message

/-- The request `do_json` sends. -/
def jsonRequest (method : Method) (path : String) (body : Option Json.Value) : Request where
  method := method
  url := rail.baseUrl ++ path
  query := []
  headers := [("Authorization", s!"Bearer {rail.secretKey}"), ("Content-Type", "application/json")]
  basicAuth := none
  payload := body.map .json

def createBody (req : PayRequest) : Json.Value :=
  let callback := trim req.destination.text
  .object [("amount", .number (toString req.amountMinor.toNat)), ("currency", .string "ZAR"),
    ("metadata", .object [("reference", .string req.reference.text)]),
    ("successUrl", .string callback), ("cancelUrl", .string callback),
    ("failureUrl", .string callback)]

/-- Open a checkout for a request; its receipt claims no amount yet. -/
def charge (req : PayRequest) : Talk Receipt := do
  req.validate
  insist (eqIgnoreAsciiCase req.currency "ZAR") (unsupportedCurrency req.currency)
  let parsed ← fetch "yoco" "/checkouts"
    (rail.jsonRequest .post "/checkouts" (some (createBody req)))
    rail.classifyError rail.createFromSlice
  insist (parsed.id ≠ "" ∧ parsed.redirectUrl ≠ "") (malformed "empty id or redirectUrl")
  return {
    railId := railId
    amountMinor := 0
    currency := "ZAR"
    reference := req.reference
    proof := rail.proofToBytes ⟨parsed.id, some parsed.redirectUrl⟩
    settledAtUnix := 0 }

def checkoutPath (checkoutId : String) : String := s!"/checkouts/{checkoutId}"

/-- The checkout a proof names. -/
def checkouts : ObjectLookup ChargeProof YocoCheckout where
  railId := railId
  proofFromSlice := rail.proofFromSlice
  named := fun proof => orDeclined (safePathSegment proof.checkoutId)
  path := checkoutPath
  request := fun checkoutId => rail.jsonRequest .get (checkoutPath checkoutId) none
  classifyError := rail.classifyError
  fromSlice := rail.checkoutFromSlice
  judge := fun receipt checkoutId parsed => .ok (parsed.settles checkoutId receipt)

/-- Fetch the checkout the proof names and compare it with the receipt. -/
def verify (receipt : Receipt) : Talk Bool := rail.checkouts.verify receipt

/-- A charge goes well when the checkout it asks for is opened with an id and a page. -/
theorem charge_ok {req : PayRequest} {receipt : Receipt} {transcript : List (Request × Reply)} :
    (rail.charge req).Yields transcript (.ok receipt) ↔
      req.validate = .ok () ∧ eqIgnoreAsciiCase req.currency "ZAR" ∧ ∃ reply parsed,
        transcript = [(rail.jsonRequest .post "/checkouts" (some (createBody req)), reply)] ∧
        reply.decoded rail.createFromSlice = some parsed ∧
        (parsed.id ≠ "" ∧ parsed.redirectUrl ≠ "") ∧
        receipt = ⟨railId, 0, "ZAR", req.reference,
          rail.proofToBytes ⟨parsed.id, some parsed.redirectUrl⟩, 0⟩ := by
  unfold charge
  simp only [Dialogue.yields_lift_bind_ok, insist_ok_iff, Unique.exists_iff, fetch_created]

end YocoRail

end Patala.Fiat.Yoco
