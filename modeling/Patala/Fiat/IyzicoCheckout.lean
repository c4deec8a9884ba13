import Patala.Fiat.Iyzico
import Patala.Fiat.ObjectLookup
import Patala.Json.Stringify
import Patala.Fiat.Webhook

/-! The iyzico rail: every request is a post signed over a key and its own body, and both `verify`
and the callback retrieve a checkout form by its token. The callback itself is not signed: what it
says is taken from the form that is retrieved. -/

namespace Patala.Fiat.Iyzico

/-- The fields of a retrieved form; a field that is missing is empty. -/
structure IyzicoCheckoutFormResult where
  status : String
  paymentStatus : String
  paymentId : String
  paidPrice : String
  currency : String
  errorMessage : String

structure CheckoutOutcome where
  eventId : String
  settled : Bool
  amountMinor : UInt64
  currency : String

structure CreateResponse where
  status : String
  token : String
  paymentPageUrl : String
  errorMessage : String

structure ErrorEnvelope where
  errorMessage : String

structure ChargeProof where
  token : String
  redirectUrl : Option String

structure IyzicoWebhookOutcome where
  token : String
  settled : Bool
  amountMinor : UInt64
  currency : String

/-- The rail, with the digest it signs with and how its messages are written and read. -/
structure IyzicoRail where
  apiKey : String
  secretKey : String
  currencies : List String
  baseUrl : String
  sha1 : List UInt8 → List UInt8
  base64Encode : List UInt8 → String
  proofToBytes : ChargeProof → List UInt8
  proofFromSlice : FromSlice ChargeProof
  createFromSlice : FromSlice CreateResponse
  formFromSlice : FromSlice IyzicoCheckoutFormResult
  payloadFromSlice : FromSlice String
  errorFromSlice : FromSlice ErrorEnvelope

def railId : String := "iyzico"

def malformed (detail : String) : Error := Fiat.malformed "iyzico" detail

def unexpectedStatusOf (message : String) : Error :=
  .rail s!"iyzico: unexpected API response status: {message}"

/-- `IyzicoWebhookError::MissingToken`. -/
def missingToken : Error := .rail "payments: iyzico: callback carried no token"

/-- A token goes into a body, where only control characters that break lines are refused. -/
def safeReference (s : String) : Except Error String :=
  if s = "" ∨ s.toList.any (['\t', '\n', '\r'].contains ·) then
    .error (.invalidRequest s!"value {debugStr s} is not a safe iyzico token")
  else .ok s

/-- The message of an answer that is not a success. -/
def complaint (status errorMessage : String) : String :=
  if errorMessage = "" then s!"status={debugStr status}" else errorMessage

/-- The amount of a form: nothing when no price is given. -/
def IyzicoCheckoutFormResult.amountMinor (res : IyzicoCheckoutFormResult) : Except Error UInt64 :=
  if res.paidPrice = "" then .ok 0
  else (majorStringToMinor res.paidPrice (toAsciiUppercase (trim res.currency))).mapError fun e =>
    malformed s!"paidPrice {debugStr res.paidPrice}: {e.toString}"

/-- What a form says; only `SUCCESS` settles it, and then with an amount and a payment's id. -/
def evaluateCheckoutForm (res : IyzicoCheckoutFormResult) : Except Error CheckoutOutcome := do
  insist (res.status = "success") (unexpectedStatusOf (complaint res.status res.errorMessage))
  let currency := toAsciiUppercase (trim res.currency)
  let amountMinor ← res.amountMinor
  if res.paymentStatus = "SUCCESS" then
    insist (amountMinor ≠ 0 ∧ res.paymentId ≠ "")
      (malformed "SUCCESS status with non-positive amount or no paymentId")
    return ⟨res.paymentId, true, amountMinor, currency⟩
  else return ⟨res.paymentId, false, 0, currency⟩

/-- The merchant's reference is not among what an outcome keeps. -/
def CheckoutOutcome.outcome (outcome : CheckoutOutcome) : Outcome :=
  ⟨outcome.eventId, outcome.settled, outcome.amountMinor, outcome.currency⟩

/-- The form says it was paid for an amount in a currency. -/
def IyzicoCheckoutFormResult.Shows (res : IyzicoCheckoutFormResult) (currency : String)
    (amount : UInt64) : Prop :=
  res.status = "success" ∧ res.paymentStatus = "SUCCESS" ∧ res.paymentId ≠ "" ∧
    res.amountMinor = .ok amount ∧ amount ≠ 0 ∧ eqIgnoreAsciiCase (trim res.currency) currency

/-- A form that settles is a success with a payment behind it. -/
theorem evaluateCheckoutForm_settled {res : IyzicoCheckoutFormResult} {outcome : CheckoutOutcome} :
    (evaluateCheckoutForm res = .ok outcome ∧ outcome.settled) ↔
      res.status = "success" ∧ res.paymentStatus = "SUCCESS" ∧ res.paymentId ≠ "" ∧
        ∃ amount, res.amountMinor = .ok amount ∧ amount ≠ 0 ∧
          outcome = ⟨res.paymentId, true, amount, toAsciiUppercase (trim res.currency)⟩ := by
  unfold evaluateCheckoutForm
  simp only [Fallible.bind_eq_ok, insist_ok_iff]
  by_cases paid : res.paymentStatus = "SUCCESS"
  · simp only [paid, if_true, Fallible.bind_eq_ok, insist_ok_iff]
    constructor
    · rintro ⟨⟨_, good, amount, worth, _, ⟨money, named⟩, same⟩, settled⟩
      cases same
      exact ⟨good, trivial, named, amount, worth, money, rfl⟩
    · rintro ⟨good, -, named, amount, worth, money, same⟩
      subst same
      exact ⟨⟨(), good, amount, worth, (), ⟨money, named⟩, rfl⟩, rfl⟩
  · simp only [paid, if_false, false_and, and_false, iff_false]
    rintro ⟨⟨_, good, amount, worth, same⟩, settled⟩
    cases same
    cases settled

/-- What cannot be evaluated settles nothing, and what can settles when it shows enough. -/
theorem settles_evaluated {res : IyzicoCheckoutFormResult} {receipt : Receipt} :
    settles receipt ((evaluateCheckoutForm res).map CheckoutOutcome.outcome) = true ↔
      ∃ amount, res.Shows receipt.currency amount ∧ receipt.amountMinor ≤ amount := by
  have covered : settles receipt ((evaluateCheckoutForm res).map CheckoutOutcome.outcome) = true ↔
      ∃ outcome, (evaluateCheckoutForm res = .ok outcome ∧ outcome.settled) ∧
        eqIgnoreAsciiCase outcome.currency receipt.currency ∧
          receipt.amountMinor ≤ outcome.amountMinor := by
    cases evaluateCheckoutForm res with
    | error error => simp [Except.map, settles]
    | ok outcome => simp [Except.map, settles, Outcome.covers_iff, CheckoutOutcome.outcome]
  rw [covered]
  simp only [evaluateCheckoutForm_settled]
  constructor
  · rintro ⟨outcome, ⟨good, paid, named, amount, worth, money, same⟩, currency, enough⟩
    subst same
    exact ⟨amount, ⟨good, paid, named, worth, money, by simpa using currency⟩, enough⟩
  · rintro ⟨amount, ⟨good, paid, named, worth, money, currency⟩, enough⟩
    exact ⟨_, ⟨good, paid, named, amount, worth, money, rfl⟩, by simpa using currency, enough⟩

namespace IyzicoRail

variable (rail : IyzicoRail)

def classifyError (status : UInt16) (body : List UInt8) : Error :=
  let message := match rail.errorFromSlice body with
    | .ok env => if env.errorMessage = "" then "no message" else env.errorMessage
    | .error _ => "no message"
  unexpectedStatus "iyzico" status message

/-- The signature of a body under a key drawn for it. -/
def signature (randomKey : String) (body : List UInt8) : String :=
  rail.base64Encode (rail.sha1 (asBytes rail.apiKey ++ asBytes randomKey ++
    asBytes rail.secretKey ++ body))

/-- The request `do_post` sends; its key is the time in nanoseconds. -/
def post (randomKey path : String) (body : Json.Value) : Request where
  method := .post
  url := rail.baseUrl ++ path
  query := []
  headers := [("Authorization", s!"IYZWS {rail.apiKey}:" ++
      rail.signature randomKey (asBytes (Json.stringify body))),
    ("x-iyzi-rnd", randomKey), ("Content-Type", "application/json")]
  basicAuth := none
  payload := some (.json body)

def beginPath : String := "/payment/iyzipos/checkoutform/initialize/auth/ecom"

def detailPath : String := "/payment/iyzipos/checkoutform/auth/ecom/detail"

def beginBody (req : PayRequest) (price currency : String) : Json.Value :=
  .object [("locale", .string "en"), ("conversationId", .string req.reference.text),
    ("price", .string price), ("paidPrice", .string price), ("currency", .string currency),
    ("basketId", .string req.reference.text), ("paymentGroup", .string "PRODUCT"),
    ("callbackUrl", .string (trim req.destination.text))]

def retrieveBody (token : String) : Json.Value :=
  .object [("locale", .string "en"), ("conversationId", .string token), ("token", .string token)]

/-- Begin a checkout for a request; its receipt claims no amount yet. -/
def charge (randomKey : String) (req : PayRequest) : Talk Receipt := do
  req.validate
  checkListedCurrency railId rail.currencies req.currency
  let currency := toAsciiUppercase (trim req.currency)
  let price ← (minorToMajorString req.amountMinor currency).mapError fun e =>
    Error.invalidRequest e.toString
  let parsed ← fetch "iyzico" beginPath
    (rail.post randomKey beginPath (beginBody req price currency))
    rail.classifyError rail.createFromSlice
  insist (parsed.status = "success" ∧ parsed.token ≠ "" ∧ parsed.paymentPageUrl ≠ "")
    (unexpectedStatusOf (complaint parsed.status parsed.errorMessage))
  return {
    railId := railId
    amountMinor := 0
    currency
    reference := req.reference
    proof := rail.proofToBytes ⟨parsed.token, some parsed.paymentPageUrl⟩
    settledAtUnix := 0 }

def retrieveRequest (randomKey token : String) : Request :=
  rail.post randomKey detailPath (retrieveBody token)

def retrieveCheckoutForm (randomKey token : String) : Talk IyzicoCheckoutFormResult :=
  fetch "iyzico" detailPath (rail.retrieveRequest randomKey token) rail.classifyError
    rail.formFromSlice

/-- The form a proof names. -/
def forms (randomKey : String) : ObjectLookup ChargeProof IyzicoCheckoutFormResult where
  railId := railId
  proofFromSlice := rail.proofFromSlice
  named := fun proof => orDeclined (safeReference proof.token)
  path := fun _ => detailPath
  request := rail.retrieveRequest randomKey
  classifyError := rail.classifyError
  fromSlice := rail.formFromSlice
  judge := fun receipt _ res =>
    .ok (settles receipt ((evaluateCheckoutForm res).map CheckoutOutcome.outcome))

/-- Retrieve the form the proof names and compare it with the receipt. -/
def verify (randomKey : String) (receipt : Receipt) : Talk Bool :=
  (rail.forms randomKey).verify receipt

/-- Retrieve the form a callback names; the program ends when its token cannot be sliced. -/
def handleWebhook (randomKey contentType : String) (rawBody : List UInt8) :
    Talk (Option IyzicoWebhookOutcome) := do
  (boundedLenCheck rawBody defaultMaxBodyBytes).mapError fun e => Error.rail s!"iyzico: {e}"
  match extractToken rail.payloadFromSlice contentType rawBody with
  | .error _ => return none
  | .ok none => .done (.error missingToken)
  | .ok (some token) => do
    let result ← rail.retrieveCheckoutForm randomKey token
    let outcome ← evaluateCheckoutForm result
    return some ⟨token, outcome.settled, outcome.amountMinor, outcome.currency⟩

def verifyWebhook (randomKey : String) (delivery : WebhookDelivery) :
    Talk (Option WebhookEvent) := do
  let handled ← rail.handleWebhook randomKey (delivery.headerOrEmpty "Content-Type") delivery.rawBody
  return handled.map fun outcome =>
    (WebhookEvent.settlement railId outcome.token "" outcome.settled outcome.amountMinor
      outcome.currency).withObjectId outcome.token

/-- A charge goes well when the checkout it begins has a token and a page. -/
theorem charge_ok {randomKey : String} {req : PayRequest} {receipt : Receipt}
    {transcript : List (Request × Reply)} :
    (rail.charge randomKey req).Yields transcript (.ok receipt) ↔
      req.validate = .ok () ∧ contains rail.currencies req.currency ∧ ∃ price,
        minorToMajorString req.amountMinor (toAsciiUppercase (trim req.currency)) = .ok price ∧
        ∃ reply parsed, transcript = [(rail.post randomKey beginPath
          (beginBody req price (toAsciiUppercase (trim req.currency))), reply)] ∧
        reply.decoded rail.createFromSlice = some parsed ∧
        (parsed.status = "success" ∧ parsed.token ≠ "" ∧ parsed.paymentPageUrl ≠ "") ∧
        receipt = ⟨railId, 0, toAsciiUppercase (trim req.currency), req.reference,
          rail.proofToBytes ⟨parsed.token, some parsed.paymentPageUrl⟩, 0⟩ := by
  unfold charge checkListedCurrency
  simp only [Dialogue.yields_lift_bind_ok, insist_ok_iff, Unique.exists_iff, fetch_created,
    Fallible.mapError_eq_ok]

/-- A callback is handled when a token is found in it, and the form retrieved by it evaluates. -/
theorem handleWebhook_ok {randomKey contentType : String} {rawBody : List UInt8}
    {handled : IyzicoWebhookOutcome} {transcript : List (Request × Reply)} :
    (rail.handleWebhook randomKey contentType rawBody).Yields transcript (.ok (some handled)) ↔
      rawBody.length ≤ defaultMaxBodyBytes ∧ ∃ token,
        extractToken rail.payloadFromSlice contentType rawBody = .ok (some token) ∧
        ∃ reply res outcome, transcript = [(rail.retrieveRequest randomKey token, reply)] ∧
          reply.decoded rail.formFromSlice = some res ∧ evaluateCheckoutForm res = .ok outcome ∧
          handled = ⟨token, outcome.settled, outcome.amountMinor, outcome.currency⟩ := by
  rw [handleWebhook, Dialogue.yields_lift_bind_ok]
  simp only [Fallible.mapError_eq_ok, boundedLenCheck_ok, exists_const]
  refine and_congr_right fun _ => ?_
  cases extractToken rail.payloadFromSlice contentType rawBody with
  | error panic => simp
  | ok found =>
    cases found with
    | none => simp
    | some token =>
      simp only [retrieveCheckoutForm, fetch_eq_once, Dialogue.yields_once_bind_ok,
        Dialogue.yields_lift_bind_ok, Reply.read_eq_ok, Dialogue.yields_pure]
      constructor
      · rintro ⟨reply, res, later, asked, decoded, outcome, evaluated, rfl, same⟩
        exact ⟨token, rfl, reply, res, outcome, asked, decoded, evaluated,
          Option.some.inj (Except.ok.inj same)⟩
      · rintro ⟨_, found, reply, res, outcome, asked, decoded, evaluated, same⟩
        cases found
        exact ⟨reply, res, [], asked, decoded, outcome, evaluated, rfl, same ▸ rfl⟩

/-- A callback that settles carries what the form of its token shows paid, and nothing of its own
but the token. -/
theorem verifyWebhook_settled {randomKey : String} {delivery : WebhookDelivery}
    {event : WebhookEvent} {transcript : List (Request × Reply)} :
    ((rail.verifyWebhook randomKey delivery).Yields transcript (.ok (some event)) ∧
        event.isSettled) ↔
      delivery.rawBody.length ≤ defaultMaxBodyBytes ∧ ∃ token,
        extractToken rail.payloadFromSlice (delivery.headerOrEmpty "Content-Type")
          delivery.rawBody = .ok (some token) ∧
        ∃ reply res amount, transcript = [(rail.retrieveRequest randomKey token, reply)] ∧
          reply.decoded rail.formFromSlice = some res ∧ res.Shows (trim res.currency) amount ∧
          event = (WebhookEvent.settlement railId token "" true amount
            (toAsciiUppercase (trim res.currency))).withObjectId token := by
  rw [verifyWebhook, Dialogue.yields_bind_pure]
  constructor
  · rintro ⟨⟨result, handled, same⟩, settled⟩
    cases result with
    | error error => cases same
    | ok result =>
      cases result with
      | none => cases same
      | some outcome =>
        cases same
        obtain ⟨short, token, found, reply, res, outcome, asked, decoded, evaluated, rfl⟩ :=
          rail.handleWebhook_ok.mp handled
        have paid : outcome.settled = true := by
          simpa [WebhookEvent.isSettled, WebhookEvent.withObjectId,
            WebhookEvent.settlement] using settled
        obtain ⟨good, success, named, amount, worth, money, same⟩ :=
          evaluateCheckoutForm_settled.mp ⟨evaluated, paid⟩
        subst same
        exact ⟨short, token, found, reply, res, amount, asked, decoded,
          ⟨good, success, named, worth, money, by simp [eqIgnoreAsciiCase]⟩, rfl⟩
  · rintro ⟨short, token, found, reply, res, amount, asked, decoded,
      ⟨good, success, named, worth, money, -⟩, rfl⟩
    obtain ⟨evaluated, -⟩ := evaluateCheckoutForm_settled.mpr
      ⟨good, success, named, amount, worth, money, rfl⟩
    exact ⟨⟨_, rail.handleWebhook_ok.mpr ⟨short, token, found, reply, res, _, asked, decoded,
      evaluated, rfl⟩, rfl⟩, rfl⟩

end IyzicoRail

end Patala.Fiat.Iyzico
