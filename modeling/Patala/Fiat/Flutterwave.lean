import Patala.Fiat.Http

/-! The Flutterwave rail: amounts travel as decimal texts in major units, and `verify` asks
for the transaction under the receipt's reference. -/

namespace Patala.Fiat.Flutterwave

structure CreateData where
  link : String

structure CreateResponse where
  status : String
  data : CreateData

/-- The amount is a text, or the printed form of a number. -/
structure FlutterwaveTransactionPayload where
  id : Int64
  txRef : String
  amount : String
  currency : String
  status : String

structure VerifyResponse where
  status : String
  data : FlutterwaveTransactionPayload

structure ErrorEnvelope where
  message : String

structure ChargeProof where
  redirectUrl : Option String

structure TransactionOutcome extends Outcome where
  eventId : String

def malformed (detail : String) : Error := Fiat.malformed "flutterwave" detail

/-- The amount of a transaction in minor units, zero when there is none. -/
def FlutterwaveTransactionPayload.amountMinor (t : FlutterwaveTransactionPayload)
    (currency : String) : Except Error UInt64 :=
  if t.amount = "" then .ok 0
  else (majorStringToMinor t.amount currency).mapError fun e =>
    malformed s!"amount {debugStr t.amount}: {e.toString}"

/-- What a transaction says; only `successful` settles it. -/
def evaluateTransaction (t : FlutterwaveTransactionPayload) : Except Error TransactionOutcome :=
  if t.txRef = "" then .error (malformed "missing tx_ref")
  else do
    let currency := toAsciiUppercase (trim t.currency)
    let amountMinor ← t.amountMinor currency
    if t.status = "successful" then
      if amountMinor = 0 then .error (malformed "successful status with non-positive amount")
      else .ok ⟨⟨t.txRef, true, amountMinor, currency⟩, toString t.id⟩
    else .ok ⟨⟨t.txRef, false, 0, currency⟩, toString t.id⟩

/-- The rail, with how its messages are written and read. -/
structure FlutterwaveRail where
  secretKey : String
  currencies : List String
  baseUrl : String
  proofToBytes : ChargeProof → List UInt8
  createFromSlice : FromSlice CreateResponse
  verifyFromSlice : FromSlice VerifyResponse
  errorFromSlice : FromSlice ErrorEnvelope

def railId : String := "flutterwave"

/-- A reference that is sent as a query value. -/
def safeReference (s : String) : Except Error String :=
  if s = "" ∨ s.toList.any (['\t', '\n', '\r'].contains ·) then
    .error (.invalidRequest s!"value {debugStr s} is not a safe reference")
  else .ok s

theorem safeReference_ok {s reference : String} (safe : safeReference s = .ok reference) :
    reference = s := by
  unfold safeReference at safe
  split at safe
  · cases safe
  · exact (Except.ok.inj safe).symm

/-- What `verify` makes of an answer about a reference. -/
def VerifyResponse.settles (parsed : VerifyResponse) (reference : String) (receipt : Receipt) :
    Bool :=
  if parsed.status ≠ "success" then false
  else if parsed.data.txRef ≠ "" ∧ parsed.data.txRef ≠ reference then false
  else match evaluateTransaction parsed.data with
    | .error _ => false
    | .ok outcome => outcome.covers receipt

/-- The answer says the reference is settled for an amount in a currency. -/
def VerifyResponse.Reports (parsed : VerifyResponse) (reference currency : String)
    (amount : UInt64) : Prop :=
  parsed.status = "success" ∧ parsed.data.txRef = reference ∧ reference ≠ "" ∧
    parsed.data.status = "successful" ∧
    eqIgnoreAsciiCase (toAsciiUppercase (trim parsed.data.currency)) currency ∧
    parsed.data.amountMinor (toAsciiUppercase (trim parsed.data.currency)) = .ok amount ∧
    amount ≠ 0

theorem evaluateTransaction_covers {t : FlutterwaveTransactionPayload} {receipt : Receipt} :
    (∃ outcome, evaluateTransaction t = .ok outcome ∧ outcome.covers receipt) ↔
      t.txRef ≠ "" ∧ t.status = "successful" ∧
        eqIgnoreAsciiCase (toAsciiUppercase (trim t.currency)) receipt.currency ∧
        ∃ amount, t.amountMinor (toAsciiUppercase (trim t.currency)) = .ok amount ∧ amount ≠ 0 ∧
          receipt.amountMinor ≤ amount := by
  unfold evaluateTransaction
  by_cases named : t.txRef = ""
  · simp [named]
  · cases read : t.amountMinor (toAsciiUppercase (trim t.currency)) with
    | error => simp [named, read, bind, Except.bind]
    | ok amount =>
      by_cases settled : t.status = "successful"
      · by_cases empty : amount = 0
        · simp [named, read, settled, empty, bind, Except.bind]
        · simp [named, read, settled, empty, bind, Except.bind, Outcome.covers_iff]
      · simp [named, read, settled, bind, Except.bind, Outcome.covers_iff]

theorem VerifyResponse.settles_iff {parsed : VerifyResponse} {reference : String}
    {receipt : Receipt} :
    parsed.settles reference receipt ↔
      ∃ amount, parsed.Reports reference receipt.currency amount ∧ receipt.amountMinor ≤ amount := by
  have evaluated : parsed.settles reference receipt ↔ parsed.status = "success" ∧
      (parsed.data.txRef = "" ∨ parsed.data.txRef = reference) ∧
      ∃ outcome, evaluateTransaction parsed.data = .ok outcome ∧ outcome.covers receipt := by
    unfold VerifyResponse.settles
    by_cases success : parsed.status = "success"
    · by_cases other : parsed.data.txRef ≠ "" ∧ parsed.data.txRef ≠ reference
      · simp [success, other]
      · have own : parsed.data.txRef = "" ∨ parsed.data.txRef = reference := by
          by_contra neither
          exact other (not_or.mp neither)
        rw [if_neg (not_not_intro success), if_neg other]
        cases evaluateTransaction parsed.data with
        | error => simp
        | ok outcome => simp [success, own]
    · simp [success]
  rw [evaluated, evaluateTransaction_covers]
  constructor
  · intro ⟨success, own, named, settled, currency, amount, read, positive, enough⟩
    have same := own.resolve_left named
    exact ⟨amount, ⟨success, same, same ▸ named, settled, currency, read, positive⟩, enough⟩
  · intro ⟨amount, ⟨success, same, named, settled, currency, read, positive⟩, enough⟩
    exact ⟨success, .inr same, same.symm ▸ named, settled, currency, amount, read, positive, enough⟩

namespace FlutterwaveRail

variable (rail : FlutterwaveRail)

def classifyError (status : UInt16) (body : List UInt8) : Error :=
  let message := match rail.errorFromSlice body with
    | .ok env => if env.message = "" then "no message" else env.message
    | .error _ => "no message"
  unexpectedStatus "flutterwave" status message

/-- The request `do_json_post` sends. -/
def postRequest (path : String) (body : Json.Value) : Request where
  method := .post
  url := rail.baseUrl ++ path
  query := []
  headers := [("Authorization", s!"Bearer {rail.secretKey}"), ("Content-Type", "application/json")]
  basicAuth := none
  payload := some (.json body)

/-- The request `do_get_query` sends. -/
def getRequest (path : String) (query : List (String × String)) : Request where
  method := .get
  url := rail.baseUrl ++ path
  query := query
  headers := [("Authorization", s!"Bearer {rail.secretKey}")]
  basicAuth := none
  payload := none

def chargeBody (req : PayRequest) (email currency majorAmount : String) : Json.Value :=
  .object [("tx_ref", .string req.reference.text), ("amount", .string majorAmount),
    ("currency", .string currency), ("redirect_url", .string ""),
    ("customer", .object [("email", .string email), ("name", .string "")])]

/-- Open a payment for a request; its receipt claims no amount yet. -/
def charge (req : PayRequest) : Talk Receipt := do
  req.validate
  checkListedCurrency railId rail.currencies req.currency
  let email := trim req.destination.text
  insist (email ≠ "")
    (.invalidRequest "flutterwave: destination (used as the buyer email) is required")
  let currency := toAsciiUppercase (trim req.currency)
  let majorAmount ← (minorToMajorString req.amountMinor currency).mapError fun e =>
    Error.invalidRequest e.toString
  let parsed ← fetch "flutterwave" "/payments"
    (rail.postRequest "/payments" (chargeBody req email currency majorAmount))
    rail.classifyError rail.createFromSlice
  insist (parsed.status = "success" ∧ parsed.data.link ≠ "")
    (malformed s!"status={debugStr parsed.status} or empty link")
  return {
    railId := railId
    amountMinor := 0
    currency
    reference := req.reference
    proof := rail.proofToBytes ⟨some parsed.data.link⟩
    settledAtUnix := 0 }

def verifyPath : String := "/transactions/verify_by_reference"

def getTransaction (reference : String) : Talk VerifyResponse :=
  fetch "flutterwave" verifyPath (rail.getRequest verifyPath [("tx_ref", reference)])
    rail.classifyError rail.verifyFromSlice

/-- Look the receipt's reference up and compare what is found with the receipt. -/
def verify (receipt : Receipt) : Talk Bool :=
  if receipt.railId ≠ railId then return false
  else match safeReference receipt.reference.text with
    | .error _ => return false
    | .ok reference => do
      let parsed ← rail.getTransaction reference
      return parsed.settles reference receipt

/-- The request `verify` sends for a reference. -/
def lookupRequest (reference : String) : Option Request :=
  (safeReference reference).toOption.map fun txRef =>
    rail.getRequest verifyPath [("tx_ref", txRef)]

/-- The reply says the reference is settled for an amount in a currency. -/
def Reports (reply : Reply) (reference currency : String) (amount : UInt64) : Prop :=
  ∃ parsed, reply.decoded rail.verifyFromSlice = some parsed ∧
    parsed.Reports reference currency amount

theorem charge_ensures {req : PayRequest} :
    (rail.charge req).Ensures fun receipt => receipt.railId = railId ∧ receipt.amountMinor = 0 := by
  refine Dialogue.ensures_rest fun _ => Dialogue.ensures_rest fun _ => ?_
  refine Dialogue.ensures_rest fun _ => Dialogue.ensures_rest fun _ => ?_
  refine Dialogue.ensures_rest fun _ => Dialogue.ensures_rest fun _ => ?_
  exact Dialogue.ensures_pure ⟨rfl, rfl⟩

theorem verify_true {receipt : Receipt} {transcript : List (Request × Reply)} :
    (rail.verify receipt).Yields transcript (.ok true) ↔ receipt.railId = railId ∧
      ∃ question, rail.lookupRequest receipt.reference.text = some question ∧ ∃ reply amount,
        transcript = [(question, reply)] ∧
        rail.Reports reply receipt.reference.text receipt.currency amount ∧
        receipt.amountMinor ≤ amount := by
  unfold verify lookupRequest Reports
  by_cases named : receipt.railId = railId
  · cases safe : safeReference receipt.reference.text with
    | error => simp [named, Except.toOption]
    | ok reference =>
      have same := safeReference_ok safe
      subst same
      simp only [named, ne_eq, not_true_eq_false, ↓reduceIte, getTransaction,
        fetch_reports fun _ => VerifyResponse.settles_iff, Except.toOption, Option.map_some,
        Option.some.injEq, exists_eq_left', true_and]
  · simp [named]

end FlutterwaveRail

end Patala.Fiat.Flutterwave
