import Patala.Fiat.Http
import Patala.Fiat.Webhook
import Patala.Lib.Codec

/-! The Midtrans rail: `charge` opens a transaction under the caller's reference, `verify` looks
that reference up, and a notification is vouched for by a hash over some of its fields. -/

namespace Patala.Fiat.Midtrans

/-- What a status answer and a notification hold alike. -/
structure MidtransTransactionStatus where
  orderId : String
  transactionId : String
  transactionStatus : String
  fraudStatus : String
  grossAmount : String
  currency : String
  statusCode : String
  signatureKey : String
deriving DecidableEq

structure CreateResponse where
  redirectUrl : String

structure ErrorEnvelope where
  statusMessage : String

structure ChargeProof where
  redirectUrl : Option String

structure StatusOutcome where
  eventId : String
  settled : Bool
  amountMinor : UInt64
  currency : String
deriving DecidableEq

inductive MidtransWebhookError where
  | missingSignature
  | invalidSignature
  | malformedResponse (detail : String)
deriving DecidableEq

def MidtransWebhookError.toString : MidtransWebhookError → String
  | missingSignature => "payments: midtrans: webhook body has no signature_key"
  | invalidSignature => "payments: midtrans: invalid signature_key"
  | malformedResponse detail => s!"payments: midtrans: malformed API response: {detail}"

structure MidtransWebhookEvent where
  eventId : String
  reference : String
  settled : Bool
  amountMinor : UInt64
  currency : String
deriving DecidableEq

def malformed (detail : String) : Error := Fiat.malformed "midtrans" detail

def unsupportedCurrency (got : String) : Error :=
  .invalidRequest s!"midtrans: only IDR is supported, got {debugStr got}"

namespace MidtransTransactionStatus

variable (s : MidtransTransactionStatus)

def currencyOrIdr : String := if s.currency = "" then "IDR" else s.currency

/-- The status settles a payment: a settlement, or a capture that passed the fraud check. -/
def Settling : Prop :=
  s.transactionStatus = "settlement" ∨ s.transactionStatus = "capture" ∧ s.fraudStatus = "accept"

instance : Decidable s.Settling := by unfold Settling; infer_instance

end MidtransTransactionStatus

/-- What a status says about its payment. -/
def evaluateStatus (s : MidtransTransactionStatus) : Except Error StatusOutcome :=
  if s.orderId = "" then .error (malformed "missing order_id")
  else if s.transactionId = "" then .error (malformed
    "no transaction_id: this notification carries no id to deduplicate on")
  else match majorStringToMinor s.grossAmount s.currencyOrIdr with
    | .error e => .error (malformed s!"gross_amount {debugStr s.grossAmount}: {e.toString}")
    | .ok amountMinor =>
      if s.transactionStatus = "capture" then
        if s.fraudStatus ≠ "accept" then .ok ⟨s.transactionId, false, 0, s.currencyOrIdr⟩
        else if amountMinor = 0 then
          .error (malformed "capture/accept with non-positive amount")
        else .ok ⟨s.transactionId, true, amountMinor, s.currencyOrIdr⟩
      else if s.transactionStatus = "settlement" then
        if amountMinor = 0 then .error (malformed "settlement with non-positive amount")
        else .ok ⟨s.transactionId, true, amountMinor, s.currencyOrIdr⟩
      else .ok ⟨s.transactionId, false, 0, s.currencyOrIdr⟩

/-- A status that can be evaluated has an id and an amount, which is positive if it settles. -/
theorem evaluateStatus_ok {s : MidtransTransactionStatus} {outcome : StatusOutcome} :
    evaluateStatus s = .ok outcome ↔ s.orderId ≠ "" ∧ s.transactionId ≠ "" ∧ ∃ amountMinor,
      majorStringToMinor s.grossAmount s.currencyOrIdr = .ok amountMinor ∧
      (s.Settling → amountMinor ≠ 0) ∧
      outcome = ⟨s.transactionId, s.Settling, if s.Settling then amountMinor else 0,
        s.currencyOrIdr⟩ := by
  unfold evaluateStatus MidtransTransactionStatus.Settling
  by_cases order : s.orderId = ""
  · simp [order]
  by_cases unnamed : s.transactionId = ""
  · simp [order, unnamed]
  cases read : majorStringToMinor s.grossAmount s.currencyOrIdr with
  | error => simp [order, unnamed]
  | ok amountMinor =>
    by_cases capture : s.transactionStatus = "capture"
    · by_cases accept : s.fraudStatus = "accept"
      · by_cases zero : amountMinor = 0
        · simp [order, unnamed, capture, accept, zero]
        · simp [order, unnamed, capture, accept, zero, eq_comm]
      · simp [order, unnamed, capture, accept, eq_comm]
    · by_cases settlement : s.transactionStatus = "settlement"
      · by_cases zero : amountMinor = 0
        · simp [order, unnamed, settlement, zero]
        · simp [order, unnamed, settlement, zero, eq_comm]
      · simp [order, unnamed, capture, settlement, eq_comm]

/-- The rail, with the hash it computes and how its messages are written and read. -/
structure MidtransRail where
  serverKey : String
  snapBaseUrl : String
  coreBaseUrl : String
  sha512 : List UInt8 → List UInt8
  proofToBytes : ChargeProof → List UInt8
  createFromSlice : FromSlice CreateResponse
  statusFromSlice : FromSlice MidtransTransactionStatus
  errorFromSlice : FromSlice ErrorEnvelope

def railId : String := "midtrans"

def snapApiBase : String := "https://app.midtrans.com/snap/v1"

def coreApiBase : String := "https://api.midtrans.com/v2"

def safePathSegment (s : String) : Except Error String :=
  Fiat.safePathSegment "a midtrans order_id" s

/-- What `verify` makes of the status of a reference. -/
def MidtransTransactionStatus.settles (s : MidtransTransactionStatus) (reference : String)
    (receipt : Receipt) : Bool :=
  if s.orderId ≠ "" ∧ s.orderId ≠ reference then false
  else match evaluateStatus s with
    | .error _ => false
    | .ok outcome =>
      if !outcome.settled then false
      else if !eqIgnoreAsciiCase outcome.currency receipt.currency then false
      else if outcome.amountMinor < receipt.amountMinor then false
      else true

namespace MidtransRail

variable (rail : MidtransRail)

def classifyError (status : UInt16) (body : List UInt8) : Error :=
  let message := match rail.errorFromSlice body with
    | .ok env => if env.statusMessage = "" then "no message" else env.statusMessage
    | .error _ => "no message"
  unexpectedStatus "midtrans" status message

/-- The request `do_request` sends. -/
def request (baseUrl : String) (method : Method) (path : String) (body : Option Json.Value) :
    Request where
  method := method
  url := baseUrl ++ path
  query := []
  headers := [("Content-Type", "application/json"), ("Accept", "application/json")]
  basicAuth := some (rail.serverKey, none)
  payload := body.map .json

/-- The amount goes in as the number it prints as. -/
def beginBody (req : PayRequest) (grossAmount email : String) : Json.Value :=
  let customer := if email = "" then [] else [("customer_details",
    Json.Value.object [("email", .string email), ("first_name", .string "")])]
  .object ([("transaction_details", .object [("order_id", .string req.reference.text),
    ("gross_amount", .number grossAmount)])] ++ customer)

/-- Open a transaction for a request; its receipt claims no amount yet. -/
def charge (req : PayRequest) : Talk Receipt := do
  req.validate
  insist (eqIgnoreAsciiCase req.currency "IDR") (unsupportedCurrency req.currency)
  let grossAmount ← (minorToMajorString req.amountMinor "IDR").mapError fun e =>
    Error.invalidRequest e.toString
  let email := trim req.destination.text
  let parsed ← fetch "midtrans" "/transactions"
    (rail.request rail.snapBaseUrl .post "/transactions"
      (some (beginBody req grossAmount email)))
    rail.classifyError rail.createFromSlice
  insist (parsed.redirectUrl ≠ "") (malformed "empty redirect_url")
  return {
    railId := railId
    amountMinor := 0
    currency := "IDR"
    reference := req.reference
    proof := rail.proofToBytes ⟨some parsed.redirectUrl⟩
    settledAtUnix := 0 }

def statusPath (reference : String) : String := s!"/{reference}/status"

def getStatus (reference : String) : Talk MidtransTransactionStatus :=
  fetch "midtrans" (statusPath reference)
    (rail.request rail.coreBaseUrl .get (statusPath reference) none) rail.classifyError
    rail.statusFromSlice

/-- Look the receipt's reference up and compare its status with the receipt. -/
def verify (receipt : Receipt) : Talk Bool :=
  if receipt.railId ≠ railId then return false
  else match safePathSegment receipt.reference.text with
    | .error _ => return false
    | .ok reference => do
      let parsed ← rail.getStatus reference
      return parsed.settles reference receipt

/-- What is hashed for a notification: three fields and the key, with nothing in between. -/
def signedText (s : MidtransTransactionStatus) : List UInt8 :=
  asBytes s.orderId ++ asBytes s.statusCode ++ asBytes s.grossAmount ++ asBytes rail.serverKey

def expectedSignature (s : MidtransTransactionStatus) : String :=
  Codec.hexEncode (rail.sha512 (rail.signedText s))

def verifyAndParse (rawBody : List UInt8) : Except MidtransWebhookError MidtransWebhookEvent :=
  match rail.statusFromSlice rawBody with
  | .error e => .error (.malformedResponse e)
  | .ok parsed =>
    if parsed.signatureKey = "" then .error .missingSignature
    else if parsed.orderId = "" ∨ parsed.statusCode = "" ∨ parsed.grossAmount = "" then
      .error (.malformedResponse "missing order_id/status_code/gross_amount")
    else if rail.expectedSignature parsed ≠ toAsciiLowercase parsed.signatureKey then
      .error .invalidSignature
    else match evaluateStatus parsed with
      | .error e => .error (.malformedResponse e.toString)
      | .ok outcome => .ok ⟨outcome.eventId, parsed.orderId, outcome.settled,
        outcome.amountMinor, outcome.currency⟩

def verifyWebhook (delivery : WebhookDelivery) : Except Error WebhookEvent := do
  let event ← (rail.verifyAndParse delivery.rawBody).mapError fun e =>
    Error.invalidRequest e.toString
  return .settlement railId event.eventId event.reference event.settled event.amountMinor
    event.currency

theorem charge_ensures {req : PayRequest} :
    (rail.charge req).Ensures fun receipt => receipt.railId = railId ∧ receipt.amountMinor = 0 ∧
      receipt.currency = "IDR" ∧ receipt.reference = req.reference := by
  refine Dialogue.ensures_rest fun _ => Dialogue.ensures_rest fun _ => ?_
  refine Dialogue.ensures_rest fun _ => Dialogue.ensures_rest fun _ => ?_
  exact Dialogue.ensures_rest fun _ => Dialogue.ensures_pure ⟨rfl, rfl, rfl, rfl⟩

/-- An accepted delivery is hashed over three of its fields, and its event says what its status
says. -/
theorem verifyWebhook_ok {delivery : WebhookDelivery} {event : WebhookEvent}
    (accepted : rail.verifyWebhook delivery = .ok event) :
    ∃ s amountMinor, rail.statusFromSlice delivery.rawBody = .ok s ∧
      rail.expectedSignature s = toAsciiLowercase s.signatureKey ∧
      majorStringToMinor s.grossAmount s.currencyOrIdr = .ok amountMinor ∧
      (s.Settling → amountMinor ≠ 0) ∧
      event = .settlement railId s.transactionId s.orderId s.Settling amountMinor
        s.currencyOrIdr := by
  obtain ⟨parsed, parsing, written⟩ := Fallible.bind_eq_ok.mp accepted
  have checked := Fallible.mapError_eq_ok.mp parsing
  unfold verifyAndParse at checked
  cases read : rail.statusFromSlice delivery.rawBody with
  | error => simp [read] at checked
  | ok s =>
    by_cases unsigned : s.signatureKey = ""
    · simp [read, unsigned] at checked
    by_cases missing : s.orderId = "" ∨ s.statusCode = "" ∨ s.grossAmount = ""
    · simp [read, unsigned, missing] at checked
    by_cases signed : rail.expectedSignature s = toAsciiLowercase s.signatureKey
    · cases evaluated : evaluateStatus s with
      | error => simp [read, unsigned, missing, signed, evaluated] at checked
      | ok outcome =>
        simp only [read, unsigned, missing, signed, evaluated, ne_eq, not_true_eq_false,
          ↓reduceIte, Except.ok.injEq] at checked
        obtain ⟨-, -, amountMinor, worth, positive, said⟩ := evaluateStatus_ok.mp evaluated
        refine ⟨s, amountMinor, rfl, signed, worth, positive, ?_⟩
        cases written
        rw [← checked, said]
        by_cases settles : s.Settling
        · simp [WebhookEvent.settlement, settles]
        · simp [WebhookEvent.settlement, settles]
    · simp [read, unsigned, missing, signed] at checked

end MidtransRail

end Patala.Fiat.Midtrans
