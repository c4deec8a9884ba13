import Patala.Fiat.Http

/-! The Checkout.com rail: `charge` opens a hosted payment page and keeps its id in the
proof, and `verify` fetches the payment under that id. -/

namespace Patala.Fiat.CheckoutCom

def checkoutcomForcedTwoDecimal : List String := ["CLP"]

def malformed (detail : String) : Error := Fiat.malformed "checkoutcom" detail

/-- Checkout.com's amount for minor units. -/
def checkOutComAmount (amountMinor : UInt64) (currency : String) : Except Error UInt64 :=
  let cur := toAsciiUppercase (trim currency)
  if contains checkoutcomForcedTwoDecimal cur then
    if amountMinor.toNat * 100 < 2 ^ 64 then .ok (amountMinor * 100)
    else .error (.invalidRequest s!"checkoutcom: amount {amountMinor.toNat} overflows for {cur}")
  else .ok amountMinor

def checkOutComAmountToMinor (amt : UInt64) (currency : String) : Except Error UInt64 :=
  let cur := toAsciiUppercase (trim currency)
  if contains checkoutcomForcedTwoDecimal cur then
    if amt % 100 ≠ 0 then
      .error (malformed (s!"{cur} amount {amt.toNat} is not a whole multiple of 100 as " ++
        "Checkout.com documents"))
    else .ok (amt / 100)
  else .ok amt

structure ErrorEnvelope where
  errorType : String
  errorCodes : List String

structure PaymentPayload where
  id : String
  status : String
  amount : UInt64
  currency : String
  reference : String
  metadata : List (String × String)

structure Redirect where
  href : String

structure Links where
  redirect : Redirect

structure CreateResponse where
  id : String
  links : Links

structure ChargeProof where
  paymentId : String
  statusAtCharge : String
  redirectUrl : Option String

/-- What a payment says; only `Captured` settles it. -/
def evaluatePayment (p : PaymentPayload) : Except Error Outcome :=
  if p.id = "" then .error (malformed "missing payment id")
  else do
    let reference ←
      if p.reference ≠ "" then .ok p.reference
      else match p.metadata.lookup "patala_reference" with
        | some r => .ok r
        | none => .error (malformed
            "payment has no reference or patala_reference metadata to reconcile against")
    let currency := toAsciiUppercase (trim p.currency)
    if p.status = "Captured" then
      if p.amount = 0 then .error (malformed "status=Captured with non-positive amount")
      else
        let amountMinor ← checkOutComAmountToMinor p.amount currency
        .ok ⟨reference, true, amountMinor, currency⟩
    else .ok ⟨reference, false, 0, currency⟩

/-- The rail, with how its messages are written and read. -/
structure CheckoutComRail where
  secretKey : String
  apiBaseUrl : String
  currencies : List String
  proofToBytes : ChargeProof → List UInt8
  proofFromSlice : FromSlice ChargeProof
  createFromSlice : FromSlice CreateResponse
  paymentFromSlice : FromSlice PaymentPayload
  errorFromSlice : FromSlice ErrorEnvelope

def railId : String := "checkoutcom"

def safePathSegment (s : String) : Except Error String :=
  Fiat.safePathSegment "a checkoutcom id" s

namespace CheckoutComRail

variable (rail : CheckoutComRail)

/-- `trim_end_matches('/')` of the configured base. -/
def baseUrl : String :=
  String.ofList (rail.apiBaseUrl.toList.reverse.dropWhile (· = '/')).reverse

def classifyError (status : UInt16) (body : List UInt8) : Error :=
  let env := match rail.errorFromSlice body with
    | .ok env => env
    | .error _ => ⟨"", []⟩
  unexpectedStatus "checkoutcom" status
    (env.errorType ++ " [" ++ ", ".intercalate (env.errorCodes.map debugStr) ++ "]")

/-- The request `do_json` sends. -/
def jsonRequest (method : Method) (path : String) (body : Option Json.Value) : Request where
  method := method
  url := rail.baseUrl ++ path
  query := []
  headers := [("Authorization", s!"Bearer {rail.secretKey}"),
    ("Content-Type", "application/json"), ("Accept", "application/json")]
  basicAuth := none
  payload := body.map .json

def createBody (req : PayRequest) (currency : String) (amount : UInt64) : Json.Value :=
  .object [("amount", .number (toString amount.toNat)),
    ("currency", .string currency),
    ("reference", .string req.reference.text),
    ("success_url", .string req.destination.text),
    ("failure_url", .string req.destination.text),
    ("cancel_url", .string req.destination.text),
    ("metadata", .object [("patala_reference", .string req.reference.text)])]

/-- Open a payment page for a request; its receipt claims no amount yet. -/
def charge (req : PayRequest) : Talk Receipt := do
  req.validate
  checkCurrency railId rail.currencies req.currency
  let currency := toAsciiUppercase (trim req.currency)
  let amount ← checkOutComAmount req.amountMinor currency
  let parsed ← fetch "checkoutcom" "/hosted-payments"
    (rail.jsonRequest .post "/hosted-payments" (some (createBody req currency amount)))
    rail.classifyError rail.createFromSlice
  insist (parsed.id ≠ "" ∧ parsed.links.redirect.href ≠ "")
    (malformed "empty session id or _links.redirect.href")
  return {
    railId := railId
    amountMinor := 0
    currency
    reference := req.reference
    proof := rail.proofToBytes ⟨parsed.id, "pending", some parsed.links.redirect.href⟩
    settledAtUnix := 0 }

def paymentPath (paymentId : String) : String := s!"/payments/{paymentId}"

def getPayment (paymentId : String) : Talk PaymentPayload :=
  fetch "checkoutcom" (paymentPath paymentId) (rail.jsonRequest .get (paymentPath paymentId) none)
    rail.classifyError rail.paymentFromSlice

/-- Fetch the payment the proof names and compare it with the receipt. -/
def verify (receipt : Receipt) : Talk Bool :=
  if receipt.railId ≠ railId then return false
  else match rail.proofFromSlice receipt.proof with
    | .error _ => return false
    | .ok proof =>
      match safePathSegment proof.paymentId with
      | .error _ => return false
      | .ok paymentId => do
        let payload ← rail.getPayment paymentId
        return settles receipt (evaluatePayment payload)

/-- What the rail reads from a reply to its lookup. -/
def readOutcome : Reply → Option Outcome := Reply.outcome rail.paymentFromSlice evaluatePayment

/-- The request `verify` sends for a proof. -/
def lookupRequest : List UInt8 → Option Request :=
  Fiat.lookupRequest rail.proofFromSlice (fun proof => (safePathSegment proof.paymentId).toOption)
    fun paymentId =>
    rail.jsonRequest .get (paymentPath paymentId) none

theorem verify_true {receipt : Receipt} {transcript : List (Request × Reply)} :
    (rail.verify receipt).Yields transcript (.ok true) ↔ receipt.railId = railId ∧
      ∃ question, rail.lookupRequest receipt.proof = some question ∧ ∃ reply outcome,
        transcript = [(question, reply)] ∧ rail.readOutcome reply = some outcome ∧
        outcome.covers receipt := by
  unfold verify lookupRequest Fiat.lookupRequest
  by_cases named : receipt.railId = railId
  · cases decoded : rail.proofFromSlice receipt.proof with
    | error => simp [named, Except.toOption]
    | ok proof =>
      cases safe : safePathSegment proof.paymentId with
      | error => simp [named, safe, Except.toOption]
      | ok paymentId =>
        simp [named, safe, Except.toOption, getPayment, fetch_settles, readOutcome]
  · simp [named]

end CheckoutComRail

end Patala.Fiat.CheckoutCom
