import Patala.Fiat.FormBody
import Patala.Fiat.Http
import Patala.Fiat.Webhook

/-! The PayU rail: `charge` only writes a form for the buyer, `verify` asks for a transaction
by the receipt's reference, and a callback is vouched for by a hash over some of its fields. -/

namespace Patala.Fiat.PayU

structure ChargeProof where
  fields : String
  checkoutUrl : String

structure PayUVerifyTransactionDetail where
  mihpayid : String
  status : String
  txnId : String
  amount : String

/-- The transactions of an answer, read by reference. -/
structure PayUVerifyResponse where
  transactionDetails : String → Option PayUVerifyTransactionDetail

inductive PayUWebhookError where
  | missingHash
  | invalidHash
  | malformedResponse (detail : String)
  | responseTooLarge
deriving DecidableEq

def PayUWebhookError.toString : PayUWebhookError → String
  | missingHash => "payments: payu: missing hash field"
  | invalidHash => "payments: payu: invalid response hash"
  | malformedResponse detail => s!"payments: payu: malformed API response: {detail}"
  | responseTooLarge => "payments: payu: response body exceeds size limit"

structure PayUWebhookEvent where
  eventId : String
  reference : String
  settled : Bool
  amountMinor : UInt64
  currency : String
deriving DecidableEq

/-- The rail, with the hash it computes and how its messages are written and read.
`formSerialize` writes pairs as a form and `formParse` reads them back in order. -/
structure PayURail where
  merchantKey : String
  salt : String
  baseUrl : String
  sha512 : List UInt8 → List UInt8
  formSerialize : List (String × String) → String
  formParse : List UInt8 → List (String × String)
  proofToBytes : ChargeProof → List UInt8
  verifyFromSlice : FromSlice PayUVerifyResponse

def railId : String := "payu"

def payuCheckoutUrl : String := "https://secure.payu.in/_payment"

def payuVerifyUrl : String := "https://info.payu.in/merchant/postservice?form=2"

def malformed (detail : String) : Error := Fiat.malformed "payu" detail

def unexpectedStatus (status : UInt16) : Error :=
  .rail s!"payu: unexpected API response status: http {status}"

def isSettledSuccessCi (status : String) : Bool := eqIgnoreAsciiCase status "success"

/-- What `verify` makes of the transaction found under a reference. -/
def PayUVerifyTransactionDetail.settles (detail : PayUVerifyTransactionDetail) (reference : String)
    (receipt : Receipt) : Bool :=
  if detail.txnId ≠ "" ∧ detail.txnId ≠ reference then false
  else if !isSettledSuccessCi detail.status then false
  else if detail.mihpayid = "" then false
  else match majorStringToMinor detail.amount "INR" with
    | .error _ => false
    | .ok amountMinor =>
      if amountMinor = 0 then false
      else if !eqIgnoreAsciiCase receipt.currency "INR" then false
      else if amountMinor < receipt.amountMinor then false
      else true

def PayUVerifyResponse.settles (parsed : PayUVerifyResponse) (reference : String)
    (receipt : Receipt) : Bool :=
  match parsed.transactionDetails reference with
  | none => false
  | some detail => detail.settles reference receipt

/-- The fields of a callback that its event and its hash are made from. -/
structure Callback where
  hash : String
  status : String
  txnid : String
  amount : String
  productinfo : String
  firstname : String
  email : String
  mihpayid : String

/-- The callback in a form; a field that is left out is empty. -/
def Callback.ofPairs (pairs : List (String × String)) : Callback :=
  let field := fun key => (lastValue pairs key).getD ""
  ⟨field "hash", field "status", field "txnid", field "amount", field "productinfo",
    field "firstname", field "email", field "mihpayid"⟩

namespace PayURail

variable (rail : PayURail)

def sha512Hex (data : List UInt8) : String := Codec.hexEncode (rail.sha512 data)

/-- The text hashed for the buyer's form. -/
def requestText (txnid amount productinfo firstname email : String) : String :=
  "|".intercalate [rail.merchantKey, txnid, amount, productinfo, firstname, email,
    "", "", "", "", "", "", "", "", "", "", rail.salt]

def requestHash (txnid amount productinfo firstname email : String) : String :=
  rail.sha512Hex (asBytes (rail.requestText txnid amount productinfo firstname email))

/-- The text hashed for a callback. -/
def responseText (callback : Callback) : String :=
  "|".intercalate [rail.salt, callback.status, "", "", "", "", "", callback.email,
    callback.firstname, callback.productinfo, callback.amount, callback.txnid, rail.merchantKey]

def responseHash (callback : Callback) : String :=
  rail.sha512Hex (asBytes (rail.responseText callback))

/-- Write the buyer's form; nothing is asked of PayU. -/
def charge (req : PayRequest) : Talk Receipt := do
  req.validate
  checkListedCurrency railId ["INR"] req.currency
  let email := trim req.destination.text
  insist (email ≠ "") (.invalidRequest "payu: destination (used as the buyer email) is required")
  let amount ← (minorToMajorString req.amountMinor "INR").mapError fun e =>
    Error.invalidRequest s!"payu: {e.toString}"
  let productinfo := s!"Order {req.reference.text}"
  let firstname := "Customer"
  let hash := rail.requestHash req.reference.text amount productinfo firstname email
  let fields := rail.formSerialize [("key", rail.merchantKey), ("txnid", req.reference.text),
    ("amount", amount), ("productinfo", productinfo), ("firstname", firstname), ("email", email),
    ("hash", hash)]
  return {
    railId := railId
    amountMinor := 0
    currency := "INR"
    reference := req.reference
    proof := rail.proofToBytes ⟨fields, payuCheckoutUrl⟩
    settledAtUnix := 0 }

/-- The request `do_verify_call` sends for a reference. -/
def verifyRequest (reference : String) : Request where
  method := .post
  url := rail.baseUrl
  query := []
  headers := []
  basicAuth := none
  payload := some (.form [("key", rail.merchantKey), ("command", "verify_payment"),
    ("var1", reference), ("hash", rail.sha512Hex (asBytes
      (rail.merchantKey ++ "|verify_payment|" ++ reference ++ "|" ++ rail.salt)))])

/-- What the verifier reads from a reply. -/
def readVerify (reply : Reply) : Except Error PayUVerifyResponse := do
  let answer ← match reply with
    | .sendFailed e => .error (.rail s!"payu: verify request failed: {e}")
    | reply => readReply "payu" "" reply
  if isSuccess answer.2 then (rail.verifyFromSlice answer.1).mapError malformed
  else .error (unexpectedStatus answer.2)

/-- Ask for the receipt's reference, trimmed, and compare what is found with the receipt. -/
def verify (receipt : Receipt) : Talk Bool :=
  if receipt.railId ≠ railId then return false
  else
    let reference := trim receipt.reference.text
    if reference = "" then return false
    else do
      let parsed ← .once (rail.verifyRequest reference) rail.readVerify
      return parsed.settles reference receipt

/-- What a callback comes to once its fields are read. -/
def parseCallback (callback : Callback) : Except PayUWebhookError PayUWebhookEvent :=
  if callback.hash = "" then .error .missingHash
  else if callback.txnid = "" ∨ callback.amount = "" then
    .error (.malformedResponse "missing txnid or amount")
  else if rail.responseHash callback ≠ callback.hash then .error .invalidHash
  else if callback.mihpayid = "" then
    .error (.malformedResponse "no mihpayid: this delivery carries no id to deduplicate on")
  else match majorStringToMinor callback.amount "INR" with
    | .error e => .error (.malformedResponse s!"amount {debugStr callback.amount}: {e.toString}")
    | .ok amountMinor =>
      if callback.status = "success" then
        if amountMinor = 0 then
          .error (.malformedResponse "success status with non-positive amount")
        else .ok ⟨callback.mihpayid, callback.txnid, true, amountMinor, "INR"⟩
      else .ok ⟨callback.mihpayid, callback.txnid, false, 0, "INR"⟩

def verifyAndParse (rawBody : List UInt8) : Except PayUWebhookError PayUWebhookEvent :=
  match boundedLenCheck rawBody defaultMaxBodyBytes with
  | .error _ => .error .responseTooLarge
  | .ok () => rail.parseCallback (Callback.ofPairs (rail.formParse rawBody))

def verifyWebhook (delivery : WebhookDelivery) : Except Error WebhookEvent := do
  let event ← (rail.verifyAndParse delivery.rawBody).mapError fun e =>
    Error.invalidRequest e.toString
  return .settlement railId event.eventId event.reference event.settled event.amountMinor
    event.currency

/-- The callback in a delivery. -/
def callback (delivery : WebhookDelivery) : Callback :=
  Callback.ofPairs (rail.formParse delivery.rawBody)

theorem readVerify_eq_ok {reply : Reply} {parsed : PayUVerifyResponse} :
    rail.readVerify reply = .ok parsed ↔ reply.decoded rail.verifyFromSlice = some parsed := by
  cases reply with
  | sendFailed =>
    simp [readVerify, Reply.decoded, Reply.accepted, Fallible.bind_eq_ok]
  | bodyFailed => exact readReply_decode_eq_ok
  | answered => exact readReply_decode_eq_ok

theorem charge_ensures {req : PayRequest} :
    (rail.charge req).Ensures fun receipt => receipt.railId = railId ∧ receipt.amountMinor = 0 ∧
      receipt.currency = "INR" ∧ receipt.reference = req.reference := by
  refine Dialogue.ensures_rest fun _ => Dialogue.ensures_rest fun _ => ?_
  refine Dialogue.ensures_rest fun _ => Dialogue.ensures_rest fun _ => ?_
  exact Dialogue.ensures_pure ⟨rfl, rfl, rfl, rfl⟩

/-- An accepted callback is hashed over its fields, and its event says what they say. -/
theorem parseCallback_ok {callback : Callback} {event : PayUWebhookEvent}
    (parsed : rail.parseCallback callback = .ok event) :
    callback.hash = rail.responseHash callback ∧ ∃ amountMinor,
      majorStringToMinor callback.amount "INR" = .ok amountMinor ∧
      (callback.status = "success" → amountMinor ≠ 0) ∧
      event = ⟨callback.mihpayid, callback.txnid, callback.status = "success",
        if callback.status = "success" then amountMinor else 0, "INR"⟩ := by
  unfold parseCallback at parsed
  by_cases hash : callback.hash = ""
  · simp [hash] at parsed
  by_cases missing : callback.txnid = "" ∨ callback.amount = ""
  · simp [hash, missing] at parsed
  by_cases signed : rail.responseHash callback = callback.hash
  · by_cases unnamed : callback.mihpayid = ""
    · simp [hash, missing, signed, unnamed] at parsed
    cases read : majorStringToMinor callback.amount "INR" with
    | error => simp [hash, missing, signed, unnamed, read] at parsed
    | ok amountMinor =>
      by_cases success : callback.status = "success"
      · by_cases zero : amountMinor = 0
        · simp [hash, missing, signed, unnamed, read, success, zero] at parsed
        · simp only [hash, missing, signed, unnamed, read, success, zero, ne_eq, not_true_eq_false,
            ↓reduceIte, Except.ok.injEq] at parsed
          exact ⟨signed.symm, amountMinor, rfl, fun _ => zero, by simp [← parsed, success]⟩
      · simp only [hash, missing, signed, unnamed, read, success, ne_eq, not_true_eq_false,
          ↓reduceIte, Except.ok.injEq] at parsed
        exact ⟨signed.symm, amountMinor, rfl, fun own => absurd own success,
          by simp [← parsed, success]⟩
  · simp [hash, missing, signed] at parsed

/-- An accepted delivery says what its callback says. -/
theorem verifyWebhook_ok {delivery : WebhookDelivery} {event : WebhookEvent}
    (accepted : rail.verifyWebhook delivery = .ok event) :
    (rail.callback delivery).hash = rail.responseHash (rail.callback delivery) ∧ ∃ amountMinor,
      majorStringToMinor (rail.callback delivery).amount "INR" = .ok amountMinor ∧
      event = .settlement railId (rail.callback delivery).mihpayid (rail.callback delivery).txnid
        ((rail.callback delivery).status = "success") amountMinor "INR" := by
  obtain ⟨parsed, parsing, written⟩ := Fallible.bind_eq_ok.mp accepted
  have checked := Fallible.mapError_eq_ok.mp parsing
  unfold verifyAndParse at checked
  cases short : boundedLenCheck delivery.rawBody defaultMaxBodyBytes with
  | error => simp [short] at checked
  | ok =>
    simp only [short] at checked
    obtain ⟨signed, amountMinor, read, -, same⟩ := rail.parseCallback_ok checked
    refine ⟨signed, amountMinor, read, ?_⟩
    cases written
    rw [same]
    by_cases success : (rail.callback delivery).status = "success"
    · simp [WebhookEvent.settlement, callback] at success ⊢
      simp [success]
    · simp [WebhookEvent.settlement, callback] at success ⊢
      simp [success]

end PayURail

end Patala.Fiat.PayU
