import Patala.Fiat.Http

/-! The Hyperswitch rail: `charge` creates a payment under the request's reference and keeps
its id in the proof, and `verify` fetches the payment afresh and takes its refunds off. -/

namespace Patala.Hyperswitch

open Fiat

inductive IntentStatus where
  | succeeded
  | failed
  | cancelled
  | cancelledPostCapture
  | processing
  | requiresCustomerAction
  | requiresMerchantAction
  | requiresPaymentMethod
  | requiresConfirmation
  | requiresCapture
  | partiallyCaptured
  | partiallyCapturedAndCapturable
  | partiallyAuthorizedAndRequiresCapture
  | partiallyCapturedAndProcessing
  | conflicted
  | expired
  | review
deriving DecidableEq

/-- The only status that is settled. -/
def IntentStatus.isSettledSuccess : IntentStatus → Bool
  | succeeded => true
  | _ => false

@[simp] theorem IntentStatus.isSettledSuccess_iff {status : IntentStatus} :
    status.isSettledSuccess ↔ status = succeeded := by
  cases status <;> simp [isSettledSuccess]

/-- A status as it is written in a message. -/
def IntentStatus.snakeCase : IntentStatus → String
  | succeeded => "succeeded"
  | failed => "failed"
  | cancelled => "cancelled"
  | cancelledPostCapture => "cancelled_post_capture"
  | processing => "processing"
  | requiresCustomerAction => "requires_customer_action"
  | requiresMerchantAction => "requires_merchant_action"
  | requiresPaymentMethod => "requires_payment_method"
  | requiresConfirmation => "requires_confirmation"
  | requiresCapture => "requires_capture"
  | partiallyCaptured => "partially_captured"
  | partiallyCapturedAndCapturable => "partially_captured_and_capturable"
  | partiallyAuthorizedAndRequiresCapture => "partially_authorized_and_requires_capture"
  | partiallyCapturedAndProcessing => "partially_captured_and_processing"
  | conflicted => "conflicted"
  | expired => "expired"
  | review => "review"

def IntentStatus.all : List IntentStatus :=
  [succeeded, failed, cancelled, cancelledPostCapture, processing, requiresCustomerAction,
    requiresMerchantAction, requiresPaymentMethod, requiresConfirmation, requiresCapture,
    partiallyCaptured, partiallyCapturedAndCapturable, partiallyAuthorizedAndRequiresCapture,
    partiallyCapturedAndProcessing, conflicted, expired, review]

def IntentStatus.parse (text : String) : Option IntentStatus :=
  all.find? fun status => status.snakeCase = text

/-- Every status is read back from its name. -/
theorem IntentStatus.parse_snakeCase (status : IntentStatus) :
    parse status.snakeCase = some status := by
  cases status <;> decide

inductive RefundStatus where
  | succeeded
  | failed
  | pending
  | review
deriving DecidableEq

structure RefundResponse where
  refundId : String
  paymentId : String
  amount : UInt64
  currency : String
  status : RefundStatus

structure NextActionData where
  redirectToUrl : Option String

/-- The answer to creating a payment and to fetching one. -/
structure PaymentsResponse where
  paymentId : String
  status : IntentStatus
  amount : UInt64
  amountReceived : Option UInt64
  currency : String
  nextAction : Option NextActionData
  refunds : Option (List RefundResponse)

structure ErrorResponse where
  errorType : Option String
  message : Option String

structure ChargeProof where
  paymentId : String
  statusAtCharge : IntentStatus
  redirectToUrl : Option String
deriving DecidableEq

structure RefundProof where
  refundId : String
  paymentId : String
  statusAtRefund : RefundStatus

/-- The rail, with how its messages are written and read. A proof that was written reads
back. `statusText` prints a status with its reason, `utf8Lossy` a body that may not be
text, and `overflowChecks` tells whether the build checks arithmetic for overflow. -/
structure HyperswitchRail where
  baseUrl : String
  apiKey : String
  connector : Option String
  currencies : List String
  overflowChecks : Bool
  statusText : UInt16 → String
  utf8Lossy : List UInt8 → String
  proofToBytes : ChargeProof → List UInt8
  proofFromSlice : FromSlice ChargeProof
  proof_roundTrip : ∀ proof, proofFromSlice (proofToBytes proof) = .ok proof
  refundProofToBytes : RefundProof → List UInt8
  paymentFromSlice : FromSlice PaymentsResponse
  refundFromSlice : FromSlice RefundResponse
  errorFromSlice : FromSlice ErrorResponse

def railId : String := "hyperswitch"

def safePathSegment (s : String) : Except Error String :=
  Fiat.safePathSegment "a hyperswitch id" s

/-- The sum of amounts; nothing when it overflows and overflow is checked. -/
def sum (overflowChecks : Bool) (amounts : List UInt64) : Option UInt64 :=
  amounts.foldlM (fun total amount =>
    if overflowChecks ∧ 2 ^ 64 ≤ total.toNat + amount.toNat then none else some (total + amount)) 0

/-- The amounts of the refunds that went through. -/
def PaymentsResponse.refundedAmounts (payment : PaymentsResponse) : List UInt64 :=
  ((payment.refunds.getD []).filter (·.status = .succeeded)).map RefundResponse.amount

/-- What has moved according to the answer to a charge. -/
def PaymentsResponse.movedAtCharge (payment : PaymentsResponse) : UInt64 :=
  if payment.status.isSettledSuccess then payment.amountReceived.getD payment.amount else 0

namespace HyperswitchRail

variable (rail : HyperswitchRail)

/-- The message of a refusal, or the start of its body. -/
def refusal (body : List UInt8) : String :=
  let message := match rail.errorFromSlice body with
    | .ok e => e.message.or e.errorType
    | .error _ => none
  message.getD (String.ofList ((rail.utf8Lossy body).toList.take 300))

/-- A body of any length is read here. -/
def parseResponse (fromSlice : FromSlice α) (path : String) : Reply → Except Error α
  | .sendFailed e => .error (.rail s!"hyperswitch request to {path} failed: {e}")
  | .bodyFailed _ e => .error (.rail s!"failed reading hyperswitch response body: {e}")
  | .answered status body =>
    if !isSuccess status then
      .error (.rail s!"hyperswitch returned HTTP {rail.statusText status}: {rail.refusal body}")
    else (fromSlice body).mapError fun e =>
      .rail s!"failed decoding hyperswitch response ({body.length} bytes): {e}"

def request (method : Method) (path : String) (body : Option Json.Value) : Request where
  method := method
  url := rail.baseUrl ++ path
  query := []
  headers := [("api-key", rail.apiKey)]
  basicAuth := none
  payload := body.map .json

def post (fromSlice : FromSlice α) (path : String) (body : Json.Value) : Talk α :=
  .once (rail.request .post path (some body)) (rail.parseResponse fromSlice path)

def get (fromSlice : FromSlice α) (path : String) : Talk α :=
  .once (rail.request .get path none) (rail.parseResponse fromSlice path)

def createBody (req : PayRequest) : Json.Value :=
  let connector := rail.connector.toList.map fun c => ("connector", .array [.string c])
  .object ([("amount", .number (toString req.amountMinor.toNat)),
    ("currency", .string req.currency), ("confirm", .bool true),
    ("payment_token", .string req.destination.text),
    ("payment_id", .string req.reference.text)] ++ connector)

/-- The receipt for a created payment, with what has moved so far. -/
def chargeReceipt (now : UInt64) (req : PayRequest) (parsed : PaymentsResponse) : Receipt where
  railId := railId
  amountMinor := parsed.movedAtCharge
  currency := parsed.currency
  reference := req.reference
  proof := rail.proofToBytes
    ⟨parsed.paymentId, parsed.status, parsed.nextAction.bind NextActionData.redirectToUrl⟩
  settledAtUnix := now

/-- Create a payment at a time. -/
def charge (now : UInt64) (req : PayRequest) : Talk Receipt := do
  req.validate
  checkListedCurrency railId rail.currencies req.currency
  let _ ← safePathSegment req.reference.text
  let parsed ← rail.post rail.paymentFromSlice "/payments" (rail.createBody req)
  return rail.chargeReceipt now req parsed

def paymentPath (paymentId : String) : String := s!"/payments/{paymentId}?force_sync=true"

/-- What `verify` makes of a payment; nothing when adding up its refunds panics. -/
def judge (parsed : PaymentsResponse) (receipt : Receipt) : Option Bool :=
  if parsed.currency ≠ receipt.currency then some false
  else if !parsed.status.isSettledSuccess then some false
  else if parsed.amountReceived.getD 0 < receipt.amountMinor then some false
  else do
    let refunded ← sum rail.overflowChecks parsed.refundedAmounts
    if receipt.amountMinor ≤ refunded then some false else some true

/-- Fetch the payment the proof names; nothing comes of it when the code panics. -/
def verify (receipt : Receipt) : Talk (Option Bool) :=
  if receipt.railId ≠ railId then return some false
  else match rail.proofFromSlice receipt.proof with
    | .error _ => return some false
    | .ok proof =>
      match safePathSegment proof.paymentId with
      | .error _ => return some false
      | .ok paymentId => do
        let parsed ← rail.get rail.paymentFromSlice (paymentPath paymentId)
        return rail.judge parsed receipt

def refundBody (paymentId : String) (amount : UInt64) : Json.Value :=
  .object [("payment_id", .string paymentId), ("amount", .number (toString amount.toNat))]

/-- Refund what the receipt says, at a time. -/
def refund (now : UInt64) (receipt : Receipt) : Talk Receipt := do
  insist (receipt.railId = railId) (.invalidRequest
    s!"receipt names rail {debugStr receipt.railId}, not {debugStr railId}")
  let proof ← okOr (rail.proofFromSlice receipt.proof).toOption
    (.invalidRequest "receipt proof is not a hyperswitch charge proof")
  let _ ← safePathSegment proof.paymentId
  let parsed ← rail.post rail.refundFromSlice "/refunds"
    (refundBody proof.paymentId receipt.amountMinor)
  return {
    railId := railId
    amountMinor := if parsed.status = .succeeded then parsed.amount else 0
    currency := parsed.currency
    reference := receipt.reference
    proof := rail.refundProofToBytes ⟨parsed.refundId, parsed.paymentId, parsed.status⟩
    settledAtUnix := now }

/-- The payment a reply reports. -/
def reported : Reply → Option PaymentsResponse
  | .answered status body => if isSuccess status then (rail.paymentFromSlice body).toOption else none
  | _ => none

theorem parseResponse_eq_ok {path : String} {reply : Reply} {parsed : PaymentsResponse} :
    rail.parseResponse rail.paymentFromSlice path reply = .ok parsed ↔
      rail.reported reply = some parsed := by
  cases reply with
  | sendFailed => simp [parseResponse, reported]
  | bodyFailed => simp [parseResponse, reported]
  | answered status body =>
    by_cases success : isSuccess status
    · simp [parseResponse, reported, success, Fallible.mapError_eq_ok, Fallible.toOption_eq_some]
    · simp [parseResponse, reported, success]

/-- A charge that succeeds creates one payment and writes its receipt. -/
theorem charge_ok {now : UInt64} {req : PayRequest} {receipt : Receipt}
    {transcript : List (Request × Reply)}
    (run : (rail.charge now req).Yields transcript (.ok receipt)) :
    ∃ reply created,
      transcript = [(rail.request .post "/payments" (some (rail.createBody req)), reply)] ∧
      rail.reported reply = some created ∧ receipt = rail.chargeReceipt now req created := by
  unfold charge at run
  obtain ⟨_, -, listing⟩ := Dialogue.yields_lift_bind_ok.mp run
  obtain ⟨_, -, guarding⟩ := Dialogue.yields_lift_bind_ok.mp listing
  obtain ⟨_, -, creating⟩ := Dialogue.yields_lift_bind_ok.mp guarding
  obtain ⟨reply, created, later, same, read, ended⟩ := Dialogue.yields_once_bind_ok.mp creating
  obtain ⟨nothing, written⟩ := Dialogue.yields_pure.mp ended
  subst nothing
  exact ⟨reply, created, same, rail.parseResponse_eq_ok.mp read, Except.ok.inj written⟩

theorem judge_true {parsed : PaymentsResponse} {receipt : Receipt} :
    rail.judge parsed receipt = some true ↔ parsed.currency = receipt.currency ∧
      parsed.status = .succeeded ∧ receipt.amountMinor ≤ parsed.amountReceived.getD 0 ∧
      ∃ refunded, sum rail.overflowChecks parsed.refundedAmounts = some refunded ∧
        refunded < receipt.amountMinor := by
  unfold judge
  by_cases currency : parsed.currency = receipt.currency
  · by_cases settled : parsed.status = .succeeded
    · by_cases short : parsed.amountReceived.getD 0 < receipt.amountMinor
      · simp [currency, settled, short, UInt64.not_le]
      · have enough := UInt64.not_lt.mp short
        cases sum rail.overflowChecks parsed.refundedAmounts with
        | none => simp [currency, settled, short]
        | some refunded =>
          by_cases returned : receipt.amountMinor ≤ refunded
          · simp [currency, settled, short, returned]
          · simp [currency, settled, short, returned, UInt64.not_le.mp returned, enough]
    · have pending : parsed.status.isSettledSuccess = false :=
        Bool.eq_false_iff.mpr (mt IntentStatus.isSettledSuccess_iff.mp settled)
      simp [currency, settled, pending]
  · simp [currency]

/-- A receipt of the rail that names a safe payment verifies by what the payment is then. -/
theorem verify_true {receipt : Receipt} {transcript : List (Request × Reply)} :
    (rail.verify receipt).Yields transcript (.ok (some true)) ↔ receipt.railId = railId ∧
      ∃ proof paymentId, rail.proofFromSlice receipt.proof = .ok proof ∧
        safePathSegment proof.paymentId = .ok paymentId ∧ ∃ reply parsed,
          transcript = [(rail.request .get (paymentPath paymentId) none, reply)] ∧
          rail.reported reply = some parsed ∧ rail.judge parsed receipt = some true := by
  unfold verify
  by_cases own : receipt.railId = railId
  · cases decoded : rail.proofFromSlice receipt.proof with
    | error => simp [own]
    | ok proof =>
      cases safe : safePathSegment proof.paymentId with
      | error => simp [own, safe]
      | ok paymentId =>
        simp only [own, ne_eq, not_true_eq_false, ↓reduceIte, safe, get, true_and, Except.ok.injEq,
          exists_and_left, exists_eq_left', Dialogue.yields_once_bind_ok, Dialogue.yields_pure]
        constructor
        · rintro ⟨reply, parsed, later, same, read, ended, judged⟩
          subst ended
          exact ⟨reply, same, parsed, rail.parseResponse_eq_ok.mp read, judged.symm⟩
        · rintro ⟨reply, same, parsed, reports, judged⟩
          exact ⟨reply, parsed, [], same, rail.parseResponse_eq_ok.mpr reports, rfl, judged.symm⟩
  · simp [own]

end HyperswitchRail

end Patala.Hyperswitch
