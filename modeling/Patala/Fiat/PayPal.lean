import Patala.Fiat.Http

/-! The PayPal rail: `charge` opens an order and keeps its id in the proof, and `verify` takes
a token, fetches the order, and captures it once the buyer has approved. -/

namespace Patala.Fiat.PayPal

def zeroDecimalCurrencies : List String := ["JPY", "HUF", "TWD"]

def threeDecimalCurrencies : List String := ["KWD", "BHD", "JOD", "OMR", "TND"]

def isZeroDecimal (cur : String) : Bool := contains zeroDecimalCurrencies cur

def isThreeDecimal (cur : String) : Bool := contains threeDecimalCurrencies cur

def unsupportedCurrency (cur : String) : Error :=
  .invalidRequest (s!"paypal: three-decimal ISO-4217 currency {debugStr cur} is not verified " ++
    "against PayPal's documented amount semantics; refusing rather than guessing")

def malformed (detail : String) : Error := Fiat.malformed "paypal" detail

/-- Minor units as the decimal text PayPal takes. -/
def paypalAmountValue (amountMinor : UInt64) (currency : String) : Except Error String :=
  let cur := toAsciiUppercase (trim currency)
  if isThreeDecimal cur then .error (unsupportedCurrency cur)
  else if isZeroDecimal cur then .ok (toString amountMinor.toNat)
  else .ok (s!"{amountMinor.toNat / 100}." ++ zeroPadded 2 (amountMinor.toNat % 100))

/-- `parse::<u64>`, which takes a plus sign. -/
def parseU64 (text : List Char) : Option UInt64 :=
  let digits := match text with
    | '+' :: digits => digits
    | digits => digits
  (digitsValue digits).bind fun value =>
    if value < 2 ^ 64 then some (UInt64.ofNat value) else none

/-- `String::truncate`; nothing when the length falls inside a character, where it panics. -/
def truncate : Nat → List Char → Option (List Char)
  | 0, _ => some []
  | _, [] => some []
  | length, c :: rest =>
    if c.utf8Size ≤ length then (truncate (length - c.utf8Size) rest).map (c :: ·) else none

/-- The fraction brought to two bytes. -/
def twoPlaces (fraction : List Char) : Option (List Char) :=
  truncate 2 (fraction ++ List.replicate (2 - (String.ofList fraction).utf8ByteSize) '0')

/-- `whole * 100 + frac`: it wraps, or panics where overflow is checked. -/
def hundredfold (overflowChecks : Bool) (whole frac : UInt64) : Option UInt64 :=
  if overflowChecks ∧ 2 ^ 64 ≤ whole.toNat * 100 + frac.toNat then none
  else some (whole * 100 + frac)

/-- The minor units of a decimal text; nothing when the parse panics. -/
def paypalAmountValueToMinor (overflowChecks : Bool) (value currency : String) :
    Option (Except Error UInt64) :=
  let cur := toAsciiUppercase (trim currency)
  if isThreeDecimal cur then some (.error (unsupportedCurrency cur))
  else
    let value := trim value
    if isZeroDecimal cur then
      some (okOr (parseU64 value.toList)
        (malformed s!"zero-decimal amount {debugStr value} is not an integer"))
    else match parseU64 (value.toList.takeWhile (· ≠ '.')) with
      | none => some (.error (malformed s!"amount {debugStr value} has an invalid whole part"))
      | some whole =>
        match value.toList.dropWhile (· ≠ '.') with
        | [] => (hundredfold overflowChecks whole 0).map .ok
        | _ :: fraction => do
          let digits ← twoPlaces fraction
          match parseU64 digits with
          | none =>
            some (.error (malformed s!"amount {debugStr value} has an invalid fractional part"))
          | some frac => (hundredfold overflowChecks whole frac).map .ok

example : paypalAmountValueToMinor false "1.€" "USD" = none := by decide

structure TokenResp where
  accessToken : String

structure Link where
  rel : String
  href : String

structure CreateResp where
  id : String
  links : List Link

structure CaptureAmount where
  currencyCode : String
  value : String

structure Capture where
  id : String
  status : String
  amount : CaptureAmount

structure Payments where
  captures : List Capture

structure PurchaseUnit where
  referenceId : String
  customId : String
  payments : Payments

structure OrderResponse where
  id : String
  status : String
  purchaseUnits : List PurchaseUnit

structure ErrorEnvelope where
  name : String
  message : String

structure ChargeProof where
  paypalOrderId : String
  approveUrl : Option String

/-- The first completed capture of an order, with its unit. -/
def findCompletedCapture (order : OrderResponse) : Option (PurchaseUnit × Capture) :=
  order.purchaseUnits.findSome? fun unit =>
    (unit.payments.captures.find? fun capture => capture.status = "COMPLETED").map (unit, ·)

def unitReference (unit : PurchaseUnit) : String :=
  if unit.customId ≠ "" then unit.customId else unit.referenceId

/-- The rail, with how its messages are written and read. `overflowChecks` tells whether the
build checks arithmetic for overflow. -/
structure PayPalRail where
  clientId : String
  clientSecret : String
  currencies : List String
  baseUrl : String
  overflowChecks : Bool
  proofToBytes : ChargeProof → List UInt8
  proofFromSlice : FromSlice ChargeProof
  tokenFromSlice : FromSlice TokenResp
  createFromSlice : FromSlice CreateResp
  orderFromSlice : FromSlice OrderResponse
  errorFromSlice : FromSlice ErrorEnvelope

def railId : String := "paypal"

def safePathSegment (s : String) : Except Error String := Fiat.safePathSegment "a paypal id" s

namespace PayPalRail

variable (rail : PayPalRail)

def classifyError (status : UInt16) (body : List UInt8) : Error :=
  let message := match rail.errorFromSlice body with
    | .ok env =>
      if env.message ≠ "" then env.message else if env.name ≠ "" then env.name else "no message"
    | .error _ => "no message"
  unexpectedStatus "paypal" status message

/-- The request `fetch_access_token` sends. -/
def tokenRequest : Request where
  method := .post
  url := rail.baseUrl ++ "/v1/oauth2/token"
  query := []
  headers := [("Accept", "application/json")]
  basicAuth := some (rail.clientId, some rail.clientSecret)
  payload := some (.form [("grant_type", "client_credentials")])

/-- The reply to a token request, read with messages of its own. -/
def readTokenResp : Reply → Except Error TokenResp
  | .sendFailed e => .error (.rail s!"paypal: token request failed: {e}")
  | .bodyFailed _ e => .error (.rail s!"paypal: read token response: {e}")
  | .answered status body =>
    match boundedLenCheck body defaultMaxBodyBytes with
    | .error e => .error (.rail s!"paypal: {e}")
    | .ok () =>
      if isSuccess status then (rail.tokenFromSlice body).mapError malformed
      else .error (.rail s!"paypal: token endpoint http {status}")

def readToken (reply : Reply) : Except Error String := do
  let parsed ← rail.readTokenResp reply
  insist (parsed.accessToken ≠ "") (malformed "empty access_token")
  return parsed.accessToken

def fetchAccessToken : Talk String := .once rail.tokenRequest rail.readToken

/-- The request `do_json` sends. -/
def jsonRequest (method : Method) (path : String) (body : Option Json.Value) (accessToken : String) :
    Request where
  method := method
  url := rail.baseUrl ++ path
  query := []
  headers := [("Authorization", s!"Bearer {accessToken}"), ("Accept", "application/json")]
  basicAuth := none
  payload := body.map .json

def chargeBody (req : PayRequest) (currency value : String) : Json.Value :=
  .object [("intent", .string "CAPTURE"),
    ("purchase_units", .array [.object [("reference_id", .string req.reference.text),
      ("custom_id", .string req.reference.text),
      ("amount", .object [("currency_code", .string currency), ("value", .string value)])]]),
    ("application_context", .object [("return_url", .string req.destination.text),
      ("cancel_url", .string req.destination.text)])]

/-- Open an order for a request; its receipt claims no amount yet. -/
def charge (req : PayRequest) : Talk Receipt := do
  req.validate
  checkCurrency railId rail.currencies req.currency
  let currency := toAsciiUppercase (trim req.currency)
  let value ← paypalAmountValue req.amountMinor currency
  let token ← rail.fetchAccessToken
  let parsed ← fetch "paypal" "/v2/checkout/orders"
    (rail.jsonRequest .post "/v2/checkout/orders" (some (chargeBody req currency value)) token)
    rail.classifyError rail.createFromSlice
  insist (parsed.id ≠ "") (malformed "empty order id")
  let approve ← okOr (parsed.links.find? fun l => l.rel = "approve")
    (malformed "no approve link in order response")
  return {
    railId := railId
    amountMinor := 0
    currency
    reference := req.reference
    proof := rail.proofToBytes ⟨parsed.id, some approve.href⟩
    settledAtUnix := 0 }

/-- The completed capture of an order, if it is for the receipt; nothing when reading its
amount panics. -/
def matchCaptureForReceipt (order : OrderResponse) (receipt : Receipt) :
    Option (Except Error (Option (String × UInt64))) :=
  match findCompletedCapture order with
  | none => some (.error (malformed s!"order {order.id} has no COMPLETED capture"))
  | some (unit, capture) =>
    if unitReference unit ≠ receipt.reference.text then some (.ok none)
    else
      let currency := toAsciiUppercase capture.amount.currencyCode
      if !eqIgnoreAsciiCase currency receipt.currency then some (.ok none)
      else match paypalAmountValueToMinor rail.overflowChecks capture.amount.value currency with
        | none => none
        | some (.error e) => some (.error e)
        | some (.ok amountMinor) =>
          if amountMinor = 0 then
            some (.error (malformed "completed capture with non-positive amount"))
          else if amountMinor < receipt.amountMinor then some (.ok none)
          else some (.ok (some (capture.id, amountMinor)))

/-- The answer a completed order gives. -/
def settle (order : OrderResponse) (receipt : Receipt) : Talk (Option Bool) :=
  match rail.matchCaptureForReceipt order receipt with
  | none => return none
  | some found => do
    let found ← found
    return some found.isSome

def orderPath (orderId : String) : String := s!"/v2/checkout/orders/{orderId}"

def capturePath (orderId : String) : String := s!"/v2/checkout/orders/{orderId}/capture"

def getOrder (orderId token : String) : Talk OrderResponse :=
  fetch "paypal" (orderPath orderId) (rail.jsonRequest .get (orderPath orderId) none token)
    rail.classifyError rail.orderFromSlice

/-- A capture says in its message that its body did not decode. -/
def readCapture (path : String) (reply : Reply) : Except Error OrderResponse := do
  let answer ← readReply "paypal" path reply
  if isSuccess answer.2 then
    (rail.orderFromSlice answer.1).mapError fun e => malformed s!"capture response: {e}"
  else .error (rail.classifyError answer.2 answer.1)

def captureOrder (orderId token : String) : Talk OrderResponse :=
  .once (rail.jsonRequest .post (capturePath orderId) (some (.object [])) token)
    (rail.readCapture (capturePath orderId))

/-- Capture an approved order. Money moves here. -/
def captureApproved (orderId token : String) (receipt : Receipt) : Talk (Option Bool) := do
  let captured ← rail.captureOrder orderId token
  if captured.status ≠ "COMPLETED" then return some false
  else rail.settle captured receipt

/-- Fetch an order, and capture it when it is approved. -/
def checkOrder (orderId token : String) (receipt : Receipt) : Talk (Option Bool) := do
  let order ← rail.getOrder orderId token
  insist (order.id ≠ "") (malformed "missing order id")
  if order.status = "COMPLETED" then rail.settle order receipt
  else if order.status = "APPROVED" then rail.captureApproved orderId token receipt
  else return some false

/-- Take a token and check an order with it. -/
def verifyOrder (orderId : String) (receipt : Receipt) : Talk (Option Bool) := do
  let token ← rail.fetchAccessToken
  rail.checkOrder orderId token receipt

/-- Look up the order the proof names; nothing comes of it when the code panics. -/
def verify (receipt : Receipt) : Talk (Option Bool) :=
  if receipt.railId ≠ railId then return some false
  else match rail.proofFromSlice receipt.proof with
    | .error _ => return some false
    | .ok proof => do
      let orderId ← safePathSegment proof.paypalOrderId
      rail.verifyOrder orderId receipt

/-- A completed order can be read for a receipt: it has a completed capture, and one of the
receipt's reference and currency gives a positive amount. -/
def Legible (order : OrderResponse) (receipt : Receipt) : Prop :=
  ∃ unit capture, findCompletedCapture order = some (unit, capture) ∧
    (unitReference unit = receipt.reference.text →
      eqIgnoreAsciiCase (toAsciiUppercase capture.amount.currencyCode) receipt.currency →
      ∃ amount, paypalAmountValueToMinor rail.overflowChecks capture.amount.value
        (toAsciiUppercase capture.amount.currencyCode) = some (.ok amount) ∧ amount ≠ 0)

theorem legible_iff {order : OrderResponse} {receipt : Receipt} :
    rail.Legible order receipt ↔
      ∃ found, rail.matchCaptureForReceipt order receipt = some (.ok found) := by
  unfold Legible matchCaptureForReceipt
  cases completed : findCompletedCapture order with
  | none => simp
  | some found =>
    obtain ⟨unit, capture⟩ := found
    by_cases own : unitReference unit = receipt.reference.text
    · by_cases currency :
          eqIgnoreAsciiCase (toAsciiUppercase capture.amount.currencyCode) receipt.currency
      · cases read : paypalAmountValueToMinor rail.overflowChecks capture.amount.value
            (toAsciiUppercase capture.amount.currencyCode) with
        | none => simp [own, currency, read]
        | some result =>
          cases result with
          | error => simp [own, currency, read]
          | ok amount =>
            by_cases empty : amount = 0
            · simp [own, currency, read, empty]
            · by_cases short : amount < receipt.amountMinor
              · simp [own, currency, read, empty, short]
              · simp [own, currency, read, empty, short]
      · simp [own, currency]
    · simp [own]

/-- A completed order is settled without a question, by an answer when it can be read. -/
theorem settle_run {order : OrderResponse} {receipt : Receipt} {transcript : List (Request × Reply)}
    {outcome : Except Error (Option Bool)}
    (run : (rail.settle order receipt).Yields transcript outcome) :
    transcript = [] ∧ ((rail.Legible order receipt ∧ ∃ answer, outcome = .ok (some answer)) ∨
      (¬ rail.Legible order receipt ∧ (outcome = .ok none ∨ ∃ error, outcome = .error error))) := by
  unfold settle at run
  rw [legible_iff]
  cases found : rail.matchCaptureForReceipt order receipt with
  | none =>
    simp only [found, Dialogue.yields_pure] at run
    exact ⟨run.1, .inr ⟨by simp, .inl run.2⟩⟩
  | some result =>
    cases result with
    | error error =>
      simp only [found, Dialogue.lift_error_bind, Dialogue.yields_done] at run
      exact ⟨run.1, .inr ⟨by simp, .inr ⟨error, run.2⟩⟩⟩
    | ok found' =>
      simp only [found, Dialogue.lift_ok_bind, Dialogue.yields_pure] at run
      exact ⟨run.1, .inl ⟨⟨found', rfl⟩, _, run.2⟩⟩

theorem readTokenResp_eq_ok {reply : Reply} {parsed : TokenResp} :
    rail.readTokenResp reply = .ok parsed ↔ reply.decoded rail.tokenFromSlice = some parsed := by
  rw [Reply.decoded_eq_some]
  cases reply with
  | sendFailed => simp [readTokenResp, Reply.accepted]
  | bodyFailed => simp [readTokenResp, Reply.accepted]
  | answered status body =>
    by_cases long : defaultMaxBodyBytes < body.length
    · simp [readTokenResp, boundedLenCheck, Reply.accepted, long]
    · have short : body.length ≤ defaultMaxBodyBytes := Nat.le_of_not_lt long
      by_cases success : isSuccess status
      · simp [readTokenResp, boundedLenCheck, Reply.accepted, long, short, success,
          Fallible.mapError_eq_ok]
      · simp [readTokenResp, boundedLenCheck, Reply.accepted, long, success]

theorem readCapture_eq_ok {path : String} {reply : Reply} {order : OrderResponse} :
    rail.readCapture path reply = .ok order ↔ reply.decoded rail.orderFromSlice = some order :=
  readReply_decode_eq_ok

theorem readToken_eq_ok {reply : Reply} {token : String} :
    rail.readToken reply = .ok token ↔ ∃ parsed, reply.decoded rail.tokenFromSlice = some parsed ∧
      parsed.accessToken ≠ "" ∧ parsed.accessToken = token := by
  simp only [readToken, Fallible.bind_eq_ok, readTokenResp_eq_ok, insist_ok_iff, exists_const,
    pure, Except.pure, Except.ok.injEq]

end PayPalRail

end Patala.Fiat.PayPal
