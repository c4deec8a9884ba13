import Patala.Fiat.Http

/-! The BTCPay rail, a self-hosted server: `charge` creates an invoice in the configured
store and keeps its id in the proof, and `verify` fetches the invoice under that id. -/

namespace Patala.Fiat.BTCPay

def malformed (detail : String) : Error := Fiat.malformed "btcpay" detail

structure BTCPayInvoice where
  id : String
  storeId : String
  amount : String
  currency : String
  status : String
  additionalStatus : String
  checkoutLink : String
  expirationTime : Int64

structure ErrorEnvelope where
  message : String

structure ChargeProof where
  invoiceId : String
  checkoutLink : String

inductive InvoiceState where
  | paid
  | pending
  | failed
  | overpaid
  | inconsistent
deriving DecidableEq

/-- An unrecognised status is never paid. -/
def classifyInvoiceState (status additionalStatus : String) : InvoiceState :=
  if status = "Settled" then
    if ["", "None", "Marked", "PaidLate"].contains additionalStatus then .paid
    else if additionalStatus = "PaidOver" then .overpaid
    else .inconsistent
  else if ["New", "Processing"].contains status then .pending
  else .failed

/-- The rail, with how its messages are written and read. -/
structure BTCPayRail where
  baseUrl : String
  apiKey : String
  storeId : String
  currencies : List String
  proofToBytes : ChargeProof → List UInt8
  proofFromSlice : FromSlice ChargeProof
  invoiceFromSlice : FromSlice BTCPayInvoice
  errorFromSlice : FromSlice ErrorEnvelope

def railId : String := "btcpay"

def safePathSegment (s : String) : Except Error String := Fiat.safePathSegment "a btcpay id" s

/-- The store id goes into the path as it is. -/
def urlencodeSegment (s : String) : String := s

def answerError (e : CurrencyError) : Error := malformed e.toString

def overpaymentError : Error :=
  .rail ("btcpay: invoice reports an overpayment (additionalStatus=PaidOver) -- check the " ++
    "BTCPay dashboard and refund/credit the difference manually; this adapter will not " ++
    "guess the received amount")

def inconsistentError (inv : BTCPayInvoice) : Error :=
  .rail ("btcpay: invoice reported an inconsistent status/additionalStatus combination: " ++
    "status=" ++ debugStr inv.status ++ " additionalStatus=" ++ debugStr inv.additionalStatus)

/-- Compare an invoice with a receipt. The amount is read whatever the status is. -/
def matchInvoice (receipt : Receipt) (inv : BTCPayInvoice) : Except Error Bool := do
  let amountMinor ← (majorStringToMinor inv.amount inv.currency).mapError answerError
  match classifyInvoiceState inv.status inv.additionalStatus with
  | .paid =>
    if !eqIgnoreAsciiCase inv.currency receipt.currency then return false
    else if amountMinor < receipt.amountMinor then return false
    else return true
  | .pending | .failed => return false
  | .overpaid => .error overpaymentError
  | .inconsistent => .error (inconsistentError inv)

namespace BTCPayRail

variable (rail : BTCPayRail)

def classifyError (status : UInt16) (body : List UInt8) : Error :=
  let message := match rail.errorFromSlice body with
    | .ok env => if env.message = "" then "no message" else env.message
    | .error _ => "no message"
  unexpectedStatus "btcpay" status message

/-- The request `do_json` sends. -/
def jsonRequest (method : Method) (path : String) (body : Option Json.Value) : Request where
  method := method
  url := rail.baseUrl ++ path
  query := []
  headers := [("Authorization", s!"token {rail.apiKey}"), ("Accept", "application/json")]
  basicAuth := none
  payload := body.map .json

def invoicesPath : String := s!"/api/v1/stores/{urlencodeSegment rail.storeId}/invoices"

def invoicePath (invoiceId : String) : String := rail.invoicesPath ++ s!"/{invoiceId}"

def getInvoice (invoiceId : String) : Talk BTCPayInvoice :=
  fetch "btcpay" (rail.invoicePath invoiceId) (rail.jsonRequest .get (rail.invoicePath invoiceId) none)
    rail.classifyError rail.invoiceFromSlice

def fetchInvoice (invoiceId : String) : Talk BTCPayInvoice := do
  let invoiceId ← safePathSegment invoiceId
  let inv ← rail.getInvoice invoiceId
  insist (inv.id ≠ "") (malformed "empty invoice id")
  return inv

def createBody (req : PayRequest) (currency amount : String) : Json.Value :=
  .object [("amount", .string amount),
    ("currency", .string currency),
    ("metadata", .object [("orderId", .string req.reference.text)])]

def requestError (e : CurrencyError) : Error := .invalidRequest s!"btcpay: {e.toString}"

/-- Create an invoice for a request; its receipt claims no amount yet. -/
def charge (req : PayRequest) : Talk Receipt := do
  req.validate
  checkCurrency railId rail.currencies req.currency
  let currency := toAsciiUppercase (trim req.currency)
  let amount ← (minorToMajorString req.amountMinor currency).mapError requestError
  let inv ← fetch "btcpay" rail.invoicesPath
    (rail.jsonRequest .post rail.invoicesPath (some (createBody req currency amount)))
    rail.classifyError rail.invoiceFromSlice
  insist (inv.id ≠ "" ∧ inv.checkoutLink ≠ "") (malformed "empty id or checkoutLink")
  return {
    railId := railId
    amountMinor := 0
    currency
    reference := req.reference
    proof := rail.proofToBytes ⟨inv.id, inv.checkoutLink⟩
    settledAtUnix := 0 }

/-- Fetch the invoice the proof names and compare it with the receipt. -/
def verify (receipt : Receipt) : Talk Bool :=
  if receipt.railId ≠ railId then return false
  else match rail.proofFromSlice receipt.proof with
    | .error _ => return false
    | .ok proof => do
      let inv ← rail.fetchInvoice proof.invoiceId
      matchInvoice receipt inv

/-- The invoice a reply holds. -/
def readInvoice (reply : Reply) : Option BTCPayInvoice :=
  (reply.accepted.bind fun body => (rail.invoiceFromSlice body).toOption).filter (·.id ≠ "")

end BTCPayRail

/-- The currency and the amount of an invoice that reads as paid. -/
def BTCPayInvoice.paid (inv : BTCPayInvoice) : Option (String × UInt64) :=
  if classifyInvoiceState inv.status inv.additionalStatus = .paid then
    (majorStringToMinor inv.amount inv.currency).toOption.map fun amount => (inv.currency, amount)
  else none

theorem matchInvoice_true {receipt : Receipt} {inv : BTCPayInvoice} :
    matchInvoice receipt inv = .ok true ↔ ∃ currency amount, inv.paid = some (currency, amount) ∧
      eqIgnoreAsciiCase currency receipt.currency ∧ receipt.amountMinor ≤ amount := by
  unfold matchInvoice BTCPayInvoice.paid
  cases read : majorStringToMinor inv.amount inv.currency with
  | error => simp [Except.mapError, bind, Except.bind, Except.toOption]
  | ok amount =>
    cases classifyInvoiceState inv.status inv.additionalStatus with
    | paid =>
      by_cases currency : eqIgnoreAsciiCase inv.currency receipt.currency <;>
        simp [Except.mapError, bind, Except.bind, Except.toOption, pure, Except.pure, currency,
          UInt64.not_lt]
    | pending => simp [Except.mapError, bind, Except.bind, pure, Except.pure]
    | failed => simp [Except.mapError, bind, Except.bind, pure, Except.pure]
    | overpaid => simp [Except.mapError, bind, Except.bind]
    | inconsistent => simp [Except.mapError, bind, Except.bind]

namespace BTCPayRail

variable (rail : BTCPayRail)

/-- The request `verify` sends for a proof. -/
def lookupRequest : List UInt8 → Option Request :=
  Fiat.lookupRequest rail.proofFromSlice (fun proof => (safePathSegment proof.invoiceId).toOption)
    fun invoiceId =>
    rail.jsonRequest .get (rail.invoicePath invoiceId) none

/-- An invoice is the one the reply under a safe id holds. -/
theorem fetchInvoice_ok {invoiceId : String} {inv : BTCPayInvoice}
    {transcript : List (Request × Reply)} :
    (rail.fetchInvoice invoiceId).Yields transcript (.ok inv) ↔
      ∃ segment reply, safePathSegment invoiceId = .ok segment ∧
        transcript = [(rail.jsonRequest .get (rail.invoicePath segment) none, reply)] ∧
        rail.readInvoice reply = some inv := by
  unfold fetchInvoice
  cases safe : safePathSegment invoiceId with
  | error => simp
  | ok segment =>
    simp only [Dialogue.yields_bind_ok, Dialogue.yields_lift, Dialogue.yields_pure, getInvoice,
      fetch_ok, readInvoice, Option.filter_eq_some_iff, Option.bind_eq_some_iff,
      Fallible.toOption_eq_some, Except.ok.injEq]
    constructor
    · rintro ⟨_, _, _, rfl, ⟨rfl, rfl⟩, _, _, _, rfl, ⟨reply, body, rfl, accepted, decoded⟩, _, _,
        _, rfl, ⟨rfl, named⟩, rfl, rfl⟩
      exact ⟨_, reply, rfl, rfl, ⟨body, accepted, decoded⟩, by simpa using named.symm⟩
    · rintro ⟨_, reply, rfl, rfl, ⟨body, accepted, decoded⟩, named⟩
      exact ⟨_, [], _, rfl, ⟨rfl, rfl⟩, inv, _, [], rfl, ⟨reply, body, rfl, accepted, decoded⟩, (),
        [], [], rfl, ⟨rfl, (insist_ok_iff.mpr (by simpa using named)).symm⟩, rfl, rfl⟩

theorem verify_true {receipt : Receipt} {transcript : List (Request × Reply)} :
    (rail.verify receipt).Yields transcript (.ok true) ↔ receipt.railId = railId ∧
      ∃ question, rail.lookupRequest receipt.proof = some question ∧ ∃ reply currency amount,
        transcript = [(question, reply)] ∧
        (rail.readInvoice reply).bind BTCPayInvoice.paid = some (currency, amount) ∧
        eqIgnoreAsciiCase currency receipt.currency ∧ receipt.amountMinor ≤ amount := by
  unfold verify lookupRequest
  simp only [lookupRequest_eq_some]
  by_cases named : receipt.railId = railId
  · cases decoded : rail.proofFromSlice receipt.proof with
    | error => simp [named]
    | ok proof =>
      simp only [named, not_true_eq_false, ne_eq, ↓reduceIte, Dialogue.yields_bind_ok,
        Dialogue.yields_lift, rail.fetchInvoice_ok, Option.bind_eq_some_iff,
        Fallible.toOption_eq_some, true_and]
      constructor
      · rintro ⟨inv, _, _, rfl, ⟨segment, reply, safe, rfl, read⟩, rfl, yes⟩
        obtain ⟨currency, amount, paid, right, enough⟩ := matchInvoice_true.mp yes.symm
        exact ⟨_, ⟨proof, segment, rfl, safe, rfl⟩, reply, currency, amount, rfl, ⟨inv, read, paid⟩,
          right, enough⟩
      · rintro ⟨_, ⟨_, segment, same, safe, rfl⟩, reply, currency, amount, rfl, ⟨inv, read, paid⟩,
          right, enough⟩
        cases same
        exact ⟨inv, _, [], rfl, ⟨segment, reply, safe, rfl, read⟩, rfl,
          (matchInvoice_true.mpr ⟨currency, amount, paid, right, enough⟩).symm⟩
  · simp [named]

theorem verify_asks {receipt : Receipt} {question : Request} :
    (rail.verify receipt).Asks question ↔
      receipt.railId = railId ∧ rail.lookupRequest receipt.proof = some question := by
  unfold verify lookupRequest
  simp only [lookupRequest_eq_some]
  by_cases named : receipt.railId = railId
  · cases decoded : rail.proofFromSlice receipt.proof with
    | error => simp [named]
    | ok proof =>
      cases safe : safePathSegment proof.invoiceId with
      | error => simp [named, safe, fetchInvoice, Dialogue.asks_bind, Except.toOption]
      | ok invoiceId =>
        simp [named, safe, fetchInvoice, getInvoice, Dialogue.asks_bind, Except.toOption,
          @eq_comm Request]
  · simp [named]

end BTCPayRail

end Patala.Fiat.BTCPay
