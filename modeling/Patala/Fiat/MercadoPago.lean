import Patala.Fiat.Http

/-! The Mercado Pago rail: amounts travel as JSON numbers in major units, and `verify` goes
through the payments found under the receipt's reference. -/

namespace Patala.Fiat.MercadoPago

structure PreferenceResponse where
  id : String
  initPoint : String

/-- A payment; its amount is kept as the printed form of its number. -/
structure Payment where
  id : Int64
  status : String
  transactionAmount : String
  currencyId : String
  externalReference : String

structure SearchResponse where
  results : List Payment

structure ErrorEnvelope where
  message : String

structure ChargeProof where
  preferenceId : String
  initPoint : Option String

structure PaymentOutcome extends Outcome where
  eventId : String

def malformed (detail : String) : Error := Fiat.malformed "mercadopago" detail

def jsonNumberToAmountMinor (n currency : String) : Except Error UInt64 :=
  (majorStringToMinor n currency).mapError fun e =>
    malformed s!"transaction_amount: {e.toString}"

/-- What a payment says; only `approved` settles it. -/
def evaluatePayment (p : Payment) : Except Error PaymentOutcome :=
  if p.externalReference = "" then .error (malformed "missing external_reference")
  else do
    let currency := toAsciiUppercase (trim p.currencyId)
    let amountMinor ← jsonNumberToAmountMinor p.transactionAmount currency
    if p.status = "approved" then
      if amountMinor = 0 ∨ p.id = 0 then
        .error (malformed "approved with non-positive amount or no id")
      else .ok ⟨⟨p.externalReference, true, amountMinor, currency⟩, toString p.id⟩
    else .ok ⟨⟨p.externalReference, false, 0, currency⟩, toString p.id⟩

/-- The rail, with how its messages are written and read. `numberFromStr` parses a JSON
number and prints it back. -/
structure MercadoPagoRail where
  accessToken : String
  currencies : List String
  baseUrl : String
  numberFromStr : String → Except String String
  proofToBytes : ChargeProof → List UInt8
  preferenceFromSlice : FromSlice PreferenceResponse
  searchFromSlice : FromSlice SearchResponse
  errorFromSlice : FromSlice ErrorEnvelope

def railId : String := "mercadopago"

def urlencode (s : String) : String := percentEncode s

/-- The payment is a settled one of the receipt's reference that covers it. -/
def Payment.settles (pay : Payment) (receipt : Receipt) : Bool :=
  if pay.externalReference ≠ receipt.reference.text then false
  else match evaluatePayment pay with
    | .error _ => false
    | .ok outcome => outcome.covers receipt

/-- What `verify` makes of the payments found: the first one that settles decides. -/
def SearchResponse.settles (parsed : SearchResponse) (receipt : Receipt) : Bool :=
  if parsed.results.isEmpty then false else parsed.results.any fun pay => pay.settles receipt

/-- The payment says its reference is settled for an amount in a currency. -/
def Payment.Reports (pay : Payment) (reference currency : String) (amount : UInt64) : Prop :=
  pay.externalReference = reference ∧ reference ≠ "" ∧ pay.status = "approved" ∧ pay.id ≠ 0 ∧
    eqIgnoreAsciiCase (toAsciiUppercase (trim pay.currencyId)) currency ∧
    jsonNumberToAmountMinor pay.transactionAmount (toAsciiUppercase (trim pay.currencyId)) =
      .ok amount ∧ amount ≠ 0

theorem evaluatePayment_covers {p : Payment} {receipt : Receipt} :
    (∃ outcome, evaluatePayment p = .ok outcome ∧ outcome.covers receipt) ↔
      p.externalReference ≠ "" ∧ p.status = "approved" ∧ p.id ≠ 0 ∧
        eqIgnoreAsciiCase (toAsciiUppercase (trim p.currencyId)) receipt.currency ∧
        ∃ amount, jsonNumberToAmountMinor p.transactionAmount
          (toAsciiUppercase (trim p.currencyId)) = .ok amount ∧ amount ≠ 0 ∧
          receipt.amountMinor ≤ amount := by
  unfold evaluatePayment
  by_cases named : p.externalReference = ""
  · simp [named]
  · cases read : jsonNumberToAmountMinor p.transactionAmount
        (toAsciiUppercase (trim p.currencyId)) with
    | error => simp [named, read, bind, Except.bind]
    | ok amount =>
      by_cases settled : p.status = "approved"
      · by_cases empty : amount = 0 ∨ p.id = 0
        · rcases empty with zero | unnamed
          · simp [named, read, settled, zero, bind, Except.bind]
          · simp [named, read, settled, unnamed, bind, Except.bind]
        · obtain ⟨positive, numbered⟩ := not_or.mp empty
          simp [named, read, settled, positive, numbered, bind, Except.bind, Outcome.covers_iff]
      · simp [named, read, settled, bind, Except.bind, Outcome.covers_iff]

theorem Payment.settles_iff {pay : Payment} {receipt : Receipt} :
    pay.settles receipt ↔ ∃ amount,
      pay.Reports receipt.reference.text receipt.currency amount ∧
        receipt.amountMinor ≤ amount := by
  have evaluated : pay.settles receipt ↔ pay.externalReference = receipt.reference.text ∧
      ∃ outcome, evaluatePayment pay = .ok outcome ∧ outcome.covers receipt := by
    unfold Payment.settles
    by_cases own : pay.externalReference = receipt.reference.text
    · rw [if_neg (not_not_intro own)]
      cases evaluatePayment pay with
      | error => simp
      | ok outcome => simp [own]
    · simp [own]
  rw [evaluated, evaluatePayment_covers]
  constructor
  · intro ⟨same, named, settled, numbered, currency, amount, read, positive, enough⟩
    exact ⟨amount, ⟨same, same ▸ named, settled, numbered, currency, read, positive⟩, enough⟩
  · intro ⟨amount, ⟨same, named, settled, numbered, currency, read, positive⟩, enough⟩
    exact ⟨same, same.symm ▸ named, settled, numbered, currency, amount, read, positive, enough⟩

theorem SearchResponse.settles_iff {parsed : SearchResponse} {receipt : Receipt} :
    parsed.settles receipt ↔ ∃ amount,
      (∃ pay ∈ parsed.results, pay.Reports receipt.reference.text receipt.currency amount) ∧
        receipt.amountMinor ≤ amount := by
  have found : parsed.settles receipt ↔ ∃ pay ∈ parsed.results, pay.settles receipt := by
    unfold SearchResponse.settles
    cases parsed.results with
    | nil => simp
    | cons pay rest => simp [List.any_eq_true]
  simp only [found, Payment.settles_iff]
  constructor
  · intro ⟨pay, member, amount, reports, enough⟩
    exact ⟨amount, ⟨pay, member, reports⟩, enough⟩
  · intro ⟨amount, ⟨pay, member, reports⟩, enough⟩
    exact ⟨pay, member, amount, reports, enough⟩

namespace MercadoPagoRail

variable (rail : MercadoPagoRail)

def classifyError (status : UInt16) (body : List UInt8) : Error :=
  let message := match rail.errorFromSlice body with
    | .ok env => if env.message = "" then "no message" else env.message
    | .error _ => "no message"
  unexpectedStatus "mercadopago" status message

/-- The request `do_json` sends. -/
def jsonRequest (method : Method) (path : String) (body : Option Json.Value) : Request where
  method := method
  url := rail.baseUrl ++ path
  query := []
  headers := [("Authorization", s!"Bearer {rail.accessToken}"),
    ("Content-Type", "application/json")]
  basicAuth := none
  payload := body.map .json

def amountMinorToJsonNumber (amountMinor : UInt64) (currency : String) : Except Error String := do
  let major ← (minorToMajorString amountMinor currency).mapError fun e =>
    Error.invalidRequest s!"mercadopago: {e.toString}"
  (rail.numberFromStr major).mapError fun e =>
    Error.invalidRequest s!"mercadopago: unparseable amount {debugStr major}: {e}"

def preferenceBody (req : PayRequest) (currency unitPrice : String) : Json.Value :=
  let item := .object [("title", .string s!"Order {req.reference.text}"),
    ("quantity", .number "1"), ("unit_price", .number unitPrice), ("currency_id", .string currency)]
  let url := .string req.destination.text
  let backUrls := if trim req.destination.text = "" then []
    else [("back_urls", .object [("success", url), ("failure", url), ("pending", url)])]
  .object ([("external_reference", .string req.reference.text), ("items", .array [item])] ++ backUrls)

/-- Create a preference for a request; its receipt claims no amount yet. -/
def charge (req : PayRequest) : Talk Receipt := do
  req.validate
  checkListedCurrency railId rail.currencies req.currency
  let currency := toAsciiUppercase (trim req.currency)
  let unitPrice ← rail.amountMinorToJsonNumber req.amountMinor currency
  let parsed ← fetch "mercadopago" "/checkout/preferences"
    (rail.jsonRequest .post "/checkout/preferences" (some (preferenceBody req currency unitPrice)))
    rail.classifyError rail.preferenceFromSlice
  insist (parsed.initPoint ≠ "") (malformed "empty init_point")
  return {
    railId := railId
    amountMinor := 0
    currency
    reference := req.reference
    proof := rail.proofToBytes ⟨parsed.id, some parsed.initPoint⟩
    settledAtUnix := 0 }

def searchPath (reference : String) : String :=
  s!"/v1/payments/search?external_reference={urlencode reference}"

def searchPayments (reference : String) : Talk SearchResponse :=
  fetch "mercadopago" (searchPath reference) (rail.jsonRequest .get (searchPath reference) none)
    rail.classifyError rail.searchFromSlice

/-- Search the payments of the receipt's reference for one that covers it. -/
def verify (receipt : Receipt) : Talk Bool :=
  if receipt.railId ≠ railId then return false
  else if trim receipt.reference.text = "" then return false
  else do
    let parsed ← rail.searchPayments receipt.reference.text
    return parsed.settles receipt

/-- The request `verify` sends for a reference. -/
def lookupRequest (reference : String) : Option Request :=
  if trim reference = "" then none else some (rail.jsonRequest .get (searchPath reference) none)

/-- The reply says the reference is settled for an amount in a currency. -/
def Reports (reply : Reply) (reference currency : String) (amount : UInt64) : Prop :=
  ∃ parsed, reply.decoded rail.searchFromSlice = some parsed ∧
    ∃ pay ∈ parsed.results, pay.Reports reference currency amount

theorem charge_ensures {req : PayRequest} :
    (rail.charge req).Ensures fun receipt => receipt.railId = railId ∧ receipt.amountMinor = 0 ∧
      trim receipt.reference.text ≠ "" := by
  have valid : (liftM req.validate : Talk Unit).Ensures fun _ => trim req.reference.text ≠ "" := by
    apply Dialogue.ensures_lift
    intro _ accepted
    exact (PayRequest.validate_ok_iff.mp accepted).2.2.2
  refine Dialogue.ensures_bind valid fun _ named => Dialogue.ensures_rest fun _ => ?_
  refine Dialogue.ensures_rest fun _ => Dialogue.ensures_rest fun _ => ?_
  exact Dialogue.ensures_rest fun _ => Dialogue.ensures_pure ⟨rfl, rfl, named⟩

theorem verify_true {receipt : Receipt} {transcript : List (Request × Reply)} :
    (rail.verify receipt).Yields transcript (.ok true) ↔ receipt.railId = railId ∧
      ∃ question, rail.lookupRequest receipt.reference.text = some question ∧ ∃ reply amount,
        transcript = [(question, reply)] ∧
        rail.Reports reply receipt.reference.text receipt.currency amount ∧
        receipt.amountMinor ≤ amount := by
  unfold verify lookupRequest Reports
  by_cases named : receipt.railId = railId
  · by_cases blank : trim receipt.reference.text = ""
    · simp [named, blank]
    · simp only [named, blank, ne_eq, not_true_eq_false, ↓reduceIte, searchPayments,
        fetch_reports fun _ => SearchResponse.settles_iff, Option.some.injEq, exists_eq_left',
        true_and]
  · simp [named]

end MercadoPagoRail

end Patala.Fiat.MercadoPago
