import Patala.Fiat.Http

/-! The Paystack rail: a transaction is kept under the caller's own reference, so `verify`
looks the receipt's reference up and reads nothing from its proof. -/

namespace Patala.Fiat.Paystack

structure InitializeData where
  authorizationUrl : String
  accessCode : String
  reference : Str

structure InitializeResponse where
  status : Bool
  data : InitializeData

structure VerifyData where
  status : String
  reference : String
  amount : UInt64
  currency : String

structure VerifyResponse where
  status : Bool
  data : VerifyData

structure ErrorEnvelope where
  message : String

structure ChargeProof where
  authorizationUrl : String
  accessCode : String

def malformed (detail : String) : Error := Fiat.malformed "paystack" detail

def isSettledSuccess (status : String) : Bool := status = "success"

/-- The rail, with how its messages are written and read. -/
structure PaystackRail where
  secretKey : String
  currencies : List String
  baseUrl : String
  proofToBytes : ChargeProof → List UInt8
  initializeFromSlice : FromSlice InitializeResponse
  verifyFromSlice : FromSlice VerifyResponse
  errorFromSlice : FromSlice ErrorEnvelope

def railId : String := "paystack"

def paystackApiBase : String := "https://api.paystack.co"

def safePathSegment (s : String) : Except Error String :=
  Fiat.safePathSegment "a paystack reference" s

/-- What `verify` makes of an answer about a reference. -/
def VerifyResponse.settles (parsed : VerifyResponse) (reference : String) (receipt : Receipt) :
    Bool :=
  if !parsed.status then false
  else if parsed.data.reference ≠ "" ∧ parsed.data.reference ≠ reference then false
  else if !isSettledSuccess parsed.data.status then false
  else if !eqIgnoreAsciiCase parsed.data.currency receipt.currency then false
  else if parsed.data.amount < receipt.amountMinor then false
  else true

/-- The answer says the reference is settled for an amount in a currency. -/
def VerifyResponse.Reports (parsed : VerifyResponse) (reference currency : String)
    (amount : UInt64) : Prop :=
  parsed.status ∧ (parsed.data.reference = "" ∨ parsed.data.reference = reference) ∧
    parsed.data.status = "success" ∧ eqIgnoreAsciiCase parsed.data.currency currency ∧
    parsed.data.amount = amount

theorem VerifyResponse.settles_iff {parsed : VerifyResponse} {reference : String}
    {receipt : Receipt} :
    parsed.settles reference receipt ↔
      ∃ amount, parsed.Reports reference receipt.currency amount ∧ receipt.amountMinor ≤ amount := by
  unfold VerifyResponse.settles VerifyResponse.Reports isSettledSuccess
  by_cases status : parsed.status
  · by_cases other : parsed.data.reference ≠ "" ∧ parsed.data.reference ≠ reference
    · simp [status, other]
    · have own : parsed.data.reference = "" ∨ parsed.data.reference = reference := by
        by_contra neither
        exact other (not_or.mp neither)
      by_cases settled : parsed.data.status = "success"
      · by_cases currency : eqIgnoreAsciiCase parsed.data.currency receipt.currency
        · simp [status, own, other, settled, currency, UInt64.not_lt]
        · simp [status, settled, currency]
      · simp [status, settled]
  · simp [status]

namespace PaystackRail

variable (rail : PaystackRail)

def classifyError (status : UInt16) (body : List UInt8) : Error :=
  let message := match rail.errorFromSlice body with
    | .ok env => if env.message = "" then "no message" else env.message
    | .error _ => "no message"
  unexpectedStatus "paystack" status message

/-- The request `do_json` sends. -/
def jsonRequest (method : Method) (path : String) (body : Option Json.Value) : Request where
  method := method
  url := rail.baseUrl ++ path
  query := []
  headers := [("Authorization", s!"Bearer {rail.secretKey}"), ("Accept", "application/json")]
  basicAuth := none
  payload := body.map .json

def chargeBody (req : PayRequest) (email currency : String) : Json.Value :=
  .object [("email", .string email), ("amount", .number (toString req.amountMinor.toNat)),
    ("reference", .string req.reference.text), ("currency", .string currency)]

/-- Open a transaction for a request; its receipt claims no amount yet. -/
def charge (req : PayRequest) : Talk Receipt := do
  req.validate
  checkListedCurrency railId rail.currencies req.currency
  let email := trim req.destination.text
  insist (email ≠ "")
    (.invalidRequest "paystack: destination (used as the buyer email) is required")
  let currency := toAsciiUppercase (trim req.currency)
  let parsed ← fetch "paystack" "/transaction/initialize"
    (rail.jsonRequest .post "/transaction/initialize" (some (chargeBody req email currency)))
    rail.classifyError rail.initializeFromSlice
  insist (parsed.status ∧ parsed.data.authorizationUrl ≠ "")
    (malformed "status=false or empty authorization_url")
  return {
    railId := railId
    amountMinor := 0
    currency
    reference := if parsed.data.reference.text = "" then req.reference else parsed.data.reference
    proof := rail.proofToBytes ⟨parsed.data.authorizationUrl, parsed.data.accessCode⟩
    settledAtUnix := 0 }

def verifyPath (reference : String) : String := s!"/transaction/verify/{reference}"

def getTransaction (reference : String) : Talk VerifyResponse :=
  fetch "paystack" (verifyPath reference) (rail.jsonRequest .get (verifyPath reference) none)
    rail.classifyError rail.verifyFromSlice

/-- Look the receipt's reference up and compare what is found with the receipt. -/
def verify (receipt : Receipt) : Talk Bool :=
  if receipt.railId ≠ railId then return false
  else match safePathSegment receipt.reference.text with
    | .error _ => return false
    | .ok reference => do
      let parsed ← rail.getTransaction reference
      return parsed.settles reference receipt

/-- The request `verify` sends for a reference. -/
def lookupRequest (reference : String) : Option Request :=
  (safePathSegment reference).toOption.map fun segment =>
    rail.jsonRequest .get (verifyPath segment) none

/-- The reply says the reference is settled for an amount in a currency. -/
def Reports (reply : Reply) (reference currency : String) (amount : UInt64) : Prop :=
  ∃ parsed, reply.decoded rail.verifyFromSlice = some parsed ∧
    parsed.Reports reference currency amount

theorem charge_ensures {req : PayRequest} :
    (rail.charge req).Ensures fun receipt => receipt.railId = railId ∧ receipt.amountMinor = 0 := by
  refine Dialogue.ensures_rest fun _ => Dialogue.ensures_rest fun _ => ?_
  refine Dialogue.ensures_rest fun _ => Dialogue.ensures_rest fun _ => ?_
  exact Dialogue.ensures_rest fun _ => Dialogue.ensures_pure ⟨rfl, rfl⟩

theorem verify_true {receipt : Receipt} {transcript : List (Request × Reply)} :
    (rail.verify receipt).Yields transcript (.ok true) ↔ receipt.railId = railId ∧
      ∃ question, rail.lookupRequest receipt.reference.text = some question ∧ ∃ reply amount,
        transcript = [(question, reply)] ∧
        rail.Reports reply receipt.reference.text receipt.currency amount ∧
        receipt.amountMinor ≤ amount := by
  unfold verify lookupRequest Reports
  by_cases named : receipt.railId = railId
  · cases safe : safePathSegment receipt.reference.text with
    | error => simp [named, Except.toOption]
    | ok reference =>
      have same := safePathSegment_ok safe
      subst same
      simp only [named, ne_eq, not_true_eq_false, ↓reduceIte, getTransaction,
        fetch_reports fun _ => VerifyResponse.settles_iff, Except.toOption, Option.map_some,
        Option.some.injEq, exists_eq_left', true_and]
  · simp [named]

end PaystackRail

end Patala.Fiat.Paystack
