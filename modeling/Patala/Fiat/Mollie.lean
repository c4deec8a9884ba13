import Patala.Fiat.Http

/-! The Mollie rail: `charge` creates a payment and keeps its id in the proof, and `verify`
fetches the payment under that id. Whatever goes wrong while fetching, `verify` says no. -/

namespace Patala.Fiat.Mollie

def unsupportedCurrency (cur : String) : Error :=
  .invalidRequest (s!"mollie: {cur} is not a 2-decimal ISO-4217 currency; its amount.value " ++
    "decimal-string format is not verified against Mollie's documented semantics, refusing " ++
    "rather than guessing (see models.rs HONESTY note)")

def malformed (detail : String) : Error := Fiat.malformed "mollie" detail

def requestError (e : CurrencyError) : Error := .invalidRequest s!"mollie: {e.toString}"

def answerError (e : CurrencyError) : Error := malformed e.toString

def mollieAmountValue (amountMinor : UInt64) (currency : String) : Except Error String := do
  let cur := toAsciiUppercase (trim currency)
  let exp ← (exponent cur).mapError requestError
  if exp ≠ 2 then .error (unsupportedCurrency cur)
  else (minorToMajorString amountMinor cur).mapError requestError

def mollieAmountValueToMinor (value currency : String) : Except Error UInt64 := do
  let cur := toAsciiUppercase (trim currency)
  let exp ← (exponent cur).mapError answerError
  if exp ≠ 2 then .error (unsupportedCurrency cur)
  else (majorStringToMinor value cur).mapError answerError

structure AmountObj where
  currency : String
  value : String

structure PaymentPayload where
  id : String
  status : String
  amount : AmountObj
  metadata : Option Json.Value

structure ErrorEnvelope where
  title : String
  detail : String

structure Checkout where
  href : String

structure Links where
  checkout : Checkout

structure CreateResponse where
  id : String
  links : Links

structure ChargeProof where
  paymentId : String
  checkoutUrl : Option String

def metadataReference (raw : Option Json.Value) : Option String :=
  raw.bind fun value => value.getStr "patala_reference"

/-- What a payment says; only `paid` settles it. -/
def evaluatePayment (p : PaymentPayload) : Except Error Outcome :=
  if p.id = "" then .error (malformed "missing payment id")
  else do
    let reference ← okOr (metadataReference p.metadata)
      (malformed "payment has no patala_reference metadata to reconcile against")
    let currency := toAsciiUppercase (trim p.amount.currency)
    if p.status = "paid" then
      let amountMinor ← mollieAmountValueToMinor p.amount.value currency
      if amountMinor = 0 then .error (malformed "status=paid with non-positive amount")
      else .ok ⟨reference, true, amountMinor, currency⟩
    else .ok ⟨reference, false, 0, currency⟩

/-- The rail, with how its messages are written and read. -/
structure MollieRail where
  apiKey : String
  webhookUrl : String
  currencies : List String
  baseUrl : String
  proofToBytes : ChargeProof → List UInt8
  proofFromSlice : FromSlice ChargeProof
  createFromSlice : FromSlice CreateResponse
  paymentFromSlice : FromSlice PaymentPayload
  errorFromSlice : FromSlice ErrorEnvelope

def railId : String := "mollie"

def mollieApiBase : String := "https://api.mollie.com/v2"

def safePathSegment (s : String) : Except Error String := Fiat.safePathSegment "a mollie id" s

namespace MollieRail

variable (rail : MollieRail)

def classifyError (status : UInt16) (body : List UInt8) : Error :=
  let message := match rail.errorFromSlice body with
    | .ok env =>
      if env.detail ≠ "" then env.detail else if env.title ≠ "" then env.title else "no message"
    | .error _ => "no message"
  unexpectedStatus "mollie" status message

/-- The request `do_json` sends. -/
def jsonRequest (method : Method) (path : String) (body : Option Json.Value) : Request where
  method := method
  url := rail.baseUrl ++ path
  query := []
  headers := [("Authorization", s!"Bearer {rail.apiKey}"),
    ("Content-Type", "application/json"), ("Accept", "application/json")]
  basicAuth := none
  payload := body.map .json

def paymentPath (paymentId : String) : String := s!"/payments/{paymentId}"

/-- Fetch a payment and evaluate it. -/
def fetchOutcome (paymentId : String) : Talk Outcome := do
  let paymentId ← safePathSegment paymentId
  let payload ← fetch "mollie" (paymentPath paymentId)
    (rail.jsonRequest .get (paymentPath paymentId) none) rail.classifyError rail.paymentFromSlice
  evaluatePayment payload

def createBody (req : PayRequest) (currency value : String) : Json.Value :=
  .object [("amount", .object [("currency", .string currency), ("value", .string value)]),
    ("description", .string s!"patala order {req.reference.text}"),
    ("redirectUrl", .string req.destination.text),
    ("webhookUrl", .string rail.webhookUrl),
    ("metadata", .object [("patala_reference", .string req.reference.text)])]

/-- Create a payment for a request; its receipt claims no amount yet. -/
def charge (req : PayRequest) : Talk Receipt := do
  req.validate
  checkCurrency railId rail.currencies req.currency
  let currency := toAsciiUppercase (trim req.currency)
  let value ← mollieAmountValue req.amountMinor currency
  let parsed ← fetch "mollie" "/payments"
    (rail.jsonRequest .post "/payments" (some (rail.createBody req currency value)))
    rail.classifyError rail.createFromSlice
  insist (parsed.id ≠ "" ∧ parsed.links.checkout.href ≠ "")
    (malformed "empty payment id or _links.checkout.href")
  return {
    railId := railId
    amountMinor := 0
    currency
    reference := req.reference
    proof := rail.proofToBytes ⟨parsed.id, some parsed.links.checkout.href⟩
    settledAtUnix := 0 }

/-- Fetch the payment the proof names and compare it with the receipt. -/
def verify (receipt : Receipt) : Talk Bool :=
  if receipt.railId ≠ railId then return false
  else match rail.proofFromSlice receipt.proof with
    | .error _ => return false
    | .ok proof => do
      let outcome ← (rail.fetchOutcome proof.paymentId).attempt
      return settles receipt outcome

/-- What the rail reads from a reply to its lookup. -/
def readOutcome : Reply → Option Outcome := Reply.outcome rail.paymentFromSlice evaluatePayment

/-- The request `verify` sends for a proof. -/
def lookupRequest : List UInt8 → Option Request :=
  Fiat.lookupRequest rail.proofFromSlice (fun proof => (safePathSegment proof.paymentId).toOption)
    fun paymentId =>
    rail.jsonRequest .get (paymentPath paymentId) none

/-- An outcome is the one the reply under a safe id is read as. -/
theorem fetchOutcome_ok {paymentId : String} {outcome : Outcome}
    {transcript : List (Request × Reply)} :
    (rail.fetchOutcome paymentId).Yields transcript (.ok outcome) ↔
      ∃ segment reply, safePathSegment paymentId = .ok segment ∧
        transcript = [(rail.jsonRequest .get (paymentPath segment) none, reply)] ∧
        rail.readOutcome reply = some outcome := by
  unfold fetchOutcome
  cases safe : safePathSegment paymentId with
  | error => simp
  | ok segment =>
    simp only [Dialogue.yields_bind_ok, Dialogue.yields_lift, fetch_ok, readOutcome,
      Reply.outcome_eq_some, Except.ok.injEq]
    constructor
    · rintro ⟨_, _, _, rfl, ⟨rfl, rfl⟩, payload, _, _, rfl, ⟨reply, body, rfl, accepted, decoded⟩,
        rfl, read⟩
      exact ⟨_, reply, rfl, rfl, body, payload, accepted, decoded, read.symm⟩
    · rintro ⟨_, reply, rfl, rfl, body, payload, accepted, decoded, read⟩
      exact ⟨_, [], _, rfl, ⟨rfl, rfl⟩, payload, _, [], rfl, ⟨reply, body, rfl, accepted, decoded⟩,
        rfl, read.symm⟩

/-- Saying yes after an attempt is saying yes after a success. -/
theorem attempt_settles {paymentId : String} {receipt : Receipt}
    {transcript : List (Request × Reply)} :
    (do let outcome ← (rail.fetchOutcome paymentId).attempt
        return settles receipt outcome : Talk Bool).Yields transcript (.ok true) ↔
      ∃ outcome, (rail.fetchOutcome paymentId).Yields transcript (.ok outcome) ∧
        outcome.covers receipt := by
  simp only [Dialogue.yields_bind_ok, Dialogue.yields_attempt, Dialogue.yields_pure]
  constructor
  · rintro ⟨result, before, _, rfl, ⟨_, run, same⟩, rfl, yes⟩
    cases same
    cases result with
    | error => cases yes
    | ok outcome => exact ⟨outcome, by simpa using run, (Except.ok.inj yes).symm⟩
  · rintro ⟨outcome, run, covers⟩
    exact ⟨_, _, [], (List.append_nil _).symm, ⟨.ok outcome, run, rfl⟩, rfl, by rw [settles, covers]⟩

theorem verify_true {receipt : Receipt} {transcript : List (Request × Reply)} :
    (rail.verify receipt).Yields transcript (.ok true) ↔ receipt.railId = railId ∧
      ∃ question, rail.lookupRequest receipt.proof = some question ∧ ∃ reply outcome,
        transcript = [(question, reply)] ∧ rail.readOutcome reply = some outcome ∧
        outcome.covers receipt := by
  unfold verify lookupRequest Fiat.lookupRequest
  by_cases named : receipt.railId = railId
  · cases decoded : rail.proofFromSlice receipt.proof with
    | error => simp [named, Except.toOption]
    | ok proof =>
      simp only [named, not_true_eq_false, ne_eq, ↓reduceIte, attempt_settles, fetchOutcome_ok,
        true_and]
      cases safe : safePathSegment proof.paymentId with
      | error => simp [safe, Except.toOption]
      | ok paymentId =>
        simp only [safe, Except.toOption, Option.bind_some, Option.map_some, Option.some.injEq,
          Except.ok.injEq, exists_eq_left', exists_and_left]
        constructor
        · rintro ⟨outcome, ⟨reply, asked, read⟩, covers⟩
          exact ⟨reply, asked, outcome, read, covers⟩
        · rintro ⟨reply, asked, outcome, read, covers⟩
          exact ⟨outcome, ⟨reply, asked, read⟩, covers⟩
  · simp [named]

theorem verify_asks {receipt : Receipt} {question : Request} :
    (rail.verify receipt).Asks question ↔
      receipt.railId = railId ∧ rail.lookupRequest receipt.proof = some question := by
  unfold verify lookupRequest
  simp only [lookupRequest_eq_some]
  by_cases named : receipt.railId = railId
  · cases decoded : rail.proofFromSlice receipt.proof with
    | error => simp [named]
    | ok proof =>
      cases safe : safePathSegment proof.paymentId with
      | error => simp [named, safe, fetchOutcome, Dialogue.asks_bind, Except.toOption]
      | ok paymentId =>
        simp [named, safe, fetchOutcome, Dialogue.asks_bind, Except.toOption, eq_comm]
  · simp [named]

end MollieRail

end Patala.Fiat.Mollie
