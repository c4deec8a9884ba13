import Patala.Fiat.Http

/-! The Stripe rail: `charge` opens a Checkout Session and keeps its id in the proof, and
`verify` fetches the session under that id. -/

namespace Patala.Fiat.Stripe

def stripeForcedTwoDecimal : List String := ["ISK", "UGX"]

def stripeThreeDecimal : List String := ["KWD", "BHD", "JOD", "OMR", "TND"]

def unsupportedCurrency (cur : String) : Error :=
  .invalidRequest (s!"stripe: {cur} is a three-decimal ISO-4217 currency, " ++
    "not verified against Stripe's documented amount semantics; refusing rather than guessing")

def malformed (detail : String) : Error := Fiat.malformed "stripe" detail

/-- Stripe's amount for minor units: two more zeros for a forced two-decimal currency. -/
def stripeAmount (amountMinor : UInt64) (currency : String) : Except Error UInt64 :=
  let cur := toAsciiUppercase (trim currency)
  if contains stripeThreeDecimal cur then .error (unsupportedCurrency cur)
  else if contains stripeForcedTwoDecimal cur then
    if amountMinor.toNat * 100 < 2 ^ 64 then .ok (amountMinor * 100)
    else .error (.invalidRequest s!"stripe: amount {amountMinor.toNat} overflows for {cur}")
  else .ok amountMinor

def stripeAmountToMinor (stripeAmt : UInt64) (currency : String) : Except Error UInt64 :=
  let cur := toAsciiUppercase (trim currency)
  if contains stripeThreeDecimal cur then .error (unsupportedCurrency cur)
  else if contains stripeForcedTwoDecimal cur then
    if stripeAmt % 100 ≠ 0 then
      .error (malformed (s!"{cur} amount {stripeAmt.toNat} is not a whole multiple of 100 as " ++
        "Stripe documents"))
    else .ok (stripeAmt / 100)
  else .ok stripeAmt

structure StripeSessionPayload where
  id : String
  paymentStatus : String
  amountTotal : UInt64
  currency : String
  clientReferenceId : String
  metadata : List (String × String)
  paymentIntent : Option String

structure StripeErrorBody where
  message : String
  type : String

structure StripeErrorEnvelope where
  error : StripeErrorBody

structure CreateResponse where
  id : String
  url : String

structure ChargeProof where
  sessionId : String
  statusAtCharge : String
  redirectUrl : Option String

/-- What a session says; only `paid` settles it. -/
def evaluateSession (s : StripeSessionPayload) : Except Error Outcome :=
  if s.id = "" then .error (malformed "missing session id")
  else do
    let reference ←
      if s.clientReferenceId ≠ "" then .ok s.clientReferenceId
      else match s.metadata.lookup "patala_reference" with
        | some r => .ok r
        | none => .error (malformed ("session has no client_reference_id or patala_reference " ++
            "metadata to reconcile against"))
    let currency := toAsciiUppercase (trim s.currency)
    if s.paymentStatus = "paid" then
      if s.amountTotal = 0 then
        .error (malformed "payment_status=paid with non-positive amount_total")
      else
        let amountMinor ← stripeAmountToMinor s.amountTotal currency
        .ok ⟨reference, true, amountMinor, currency⟩
    else .ok ⟨reference, false, 0, currency⟩

/-- The rail, with how its messages are written and read. -/
structure StripeRail where
  secretKey : String
  currencies : List String
  baseUrl : String
  proofToBytes : ChargeProof → List UInt8
  proofFromSlice : FromSlice ChargeProof
  createFromSlice : FromSlice CreateResponse
  sessionFromSlice : FromSlice StripeSessionPayload
  errorFromSlice : FromSlice StripeErrorEnvelope

def railId : String := "stripe"

def stripeApiBase : String := "https://api.stripe.com/v1"

def safePathSegment (s : String) : Except Error String := Fiat.safePathSegment "a stripe id" s

namespace StripeRail

variable (rail : StripeRail)

def classifyError (status : UInt16) (body : List UInt8) : Error :=
  let message := match rail.errorFromSlice body with
    | .ok env => if env.error.message = "" then "no message" else env.error.message
    | .error _ => "no message"
  unexpectedStatus "stripe" status message

/-- The request `do_form` sends. -/
def formRequest (method : Method) (path : String) (form : Option (List (String × String)))
    (idempotencyKey : Option String) : Request where
  method := method
  url := rail.baseUrl ++ path
  query := []
  headers := (idempotencyKey.map fun key => ("Idempotency-Key", key)).toList ++
    [("Accept", "application/json")]
  basicAuth := some (rail.secretKey, none)
  payload := form.map .form

def createForm (req : PayRequest) (currency : String) (amount : UInt64) : List (String × String) :=
  [("mode", "payment"),
    ("client_reference_id", req.reference.text),
    ("line_items[0][quantity]", "1"),
    ("line_items[0][price_data][currency]", toAsciiLowercase currency),
    ("line_items[0][price_data][unit_amount]", toString amount.toNat),
    ("line_items[0][price_data][product_data][name]", s!"patala order {req.reference.text}"),
    ("success_url", req.destination.text),
    ("cancel_url", req.destination.text),
    ("metadata[patala_reference]", req.reference.text)]

/-- Open a session for a request; its receipt claims no amount yet. -/
def charge (req : PayRequest) : Talk Receipt := do
  req.validate
  checkCurrency railId rail.currencies req.currency
  let currency := toAsciiUppercase (trim req.currency)
  let amount ← stripeAmount req.amountMinor currency
  let parsed ← fetch "stripe" "/checkout/sessions"
    (rail.formRequest .post "/checkout/sessions" (some (createForm req currency amount))
      (some s!"begin:{req.reference.text}"))
    rail.classifyError rail.createFromSlice
  insist (parsed.id ≠ "" ∧ parsed.url ≠ "") (malformed "empty session id or url")
  return {
    railId := railId
    amountMinor := 0
    currency
    reference := req.reference
    proof := rail.proofToBytes ⟨parsed.id, "open", some parsed.url⟩
    settledAtUnix := 0 }

def sessionPath (sessionId : String) : String := s!"/checkout/sessions/{sessionId}"

def getSession (sessionId : String) : Talk StripeSessionPayload :=
  fetch "stripe" (sessionPath sessionId) (rail.formRequest .get (sessionPath sessionId) none none)
    rail.classifyError rail.sessionFromSlice

/-- Fetch the session the proof names and compare it with the receipt. -/
def verify (receipt : Receipt) : Talk Bool :=
  if receipt.railId ≠ railId then return false
  else match rail.proofFromSlice receipt.proof with
    | .error _ => return false
    | .ok proof =>
      match safePathSegment proof.sessionId with
      | .error _ => return false
      | .ok sessionId => do
        let session ← rail.getSession sessionId
        return settles receipt (evaluateSession session)

/-- What the rail reads from a reply to its lookup. -/
def readOutcome : Reply → Option Outcome := Reply.outcome rail.sessionFromSlice evaluateSession

/-- The request `verify` sends for a proof. -/
def lookupRequest : List UInt8 → Option Request :=
  Fiat.lookupRequest rail.proofFromSlice (fun proof => (safePathSegment proof.sessionId).toOption)
    fun sessionId =>
    rail.formRequest .get (sessionPath sessionId) none none

theorem verify_true {receipt : Receipt} {transcript : List (Request × Reply)} :
    (rail.verify receipt).Yields transcript (.ok true) ↔ receipt.railId = railId ∧
      ∃ question, rail.lookupRequest receipt.proof = some question ∧ ∃ reply outcome,
        transcript = [(question, reply)] ∧ rail.readOutcome reply = some outcome ∧
        outcome.covers receipt := by
  unfold verify lookupRequest Fiat.lookupRequest
  by_cases named : receipt.railId = railId
  · cases decoded : rail.proofFromSlice receipt.proof with
    | error => simp [named, Except.toOption]
    | ok proof =>
      cases safe : safePathSegment proof.sessionId with
      | error => simp [named, safe, Except.toOption]
      | ok sessionId =>
        simp [named, safe, Except.toOption, getSession, fetch_settles, readOutcome]
  · simp [named]

theorem verify_asks {receipt : Receipt} {question : Request} :
    (rail.verify receipt).Asks question ↔
      receipt.railId = railId ∧ rail.lookupRequest receipt.proof = some question := by
  unfold verify lookupRequest
  simp only [lookupRequest_eq_some]
  by_cases named : receipt.railId = railId
  · cases decoded : rail.proofFromSlice receipt.proof with
    | error => simp [named]
    | ok proof =>
      cases safe : safePathSegment proof.sessionId with
      | error => simp [named, safe, Except.toOption]
      | ok sessionId =>
        simp [named, safe, getSession, Dialogue.asks_bind, Except.toOption, eq_comm]
  · simp [named]

end StripeRail

end Patala.Fiat.Stripe
