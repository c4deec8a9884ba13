import Patala.Fiat.Http

/-! The Xendit rail: an invoice is kept under the caller's own reference, and `verify` asks for
the invoices with that `external_id` by a query it writes into the URL. -/

namespace Patala.Fiat.Xendit

structure XenditInvoice where
  id : String
  externalId : String
  status : String
  amount : Json.Value
  paidAmount : Json.Value
  currency : String
  invoiceUrl : String

structure ErrorEnvelope where
  message : String
  errorCode : String

structure ChargeProof where
  invoiceUrl : String
  invoiceId : String

structure InvoiceOutcome where
  reference : String
  eventId : String
  settled : Bool
  amountMinor : UInt64
  currency : String
deriving DecidableEq

def malformed (detail : String) : Error := Fiat.malformed "xendit" detail

/-- A text with six decimals without the zeros, and then the points, at its end. -/
def xenditTrimTrailingZeros (fixed : String) : String :=
  String.ofList ((fixed.toList.rdropWhile (· = '0')).rdropWhile (· = '.'))

example : xenditTrimTrailingZeros "10000.000000" = "10000" := by decide

/-- The rail, with how its messages are written and read. `fixed6` prints the double a number
literal is read as with six decimals. -/
structure XenditRail where
  secretKey : String
  currencies : List String
  baseUrl : String
  fixed6 : String → String
  proofToBytes : ChargeProof → List UInt8
  invoiceFromSlice : FromSlice XenditInvoice
  invoicesFromSlice : FromSlice (List XenditInvoice)
  errorFromSlice : FromSlice ErrorEnvelope

def railId : String := "xendit"

def xenditApiBase : String := "https://api.xendit.co"

/-- A value that goes into the query as it is. -/
def safeQueryValue (s : String) : Except Error String :=
  if s = "" ∨ s.toList.any (['/', '?', '#', '&', '=', ' ', '\t', '\n', '\r'].contains ·) ∨
      !s.toList.all (fun c => c.toNat < 128) then
    .error (.invalidRequest
      s!"value {debugStr s} is not a safe query value for a xendit external_id")
  else .ok s

/-- The amount that counts: what was paid, if the status and the field say so. -/
def XenditInvoice.amountField (inv : XenditInvoice) : Json.Value :=
  if inv.status = "PAID" ∧ !inv.paidAmount.isNull then inv.paidAmount else inv.amount

namespace XenditRail

variable (rail : XenditRail)

/-- An amount that comes as a number or a text. -/
def xenditNumberToString : Json.Value → Option String
  | .string s => some s
  | .number literal => some (xenditTrimTrailingZeros (rail.fixed6 literal))
  | _ => none

def invoiceToOutcome (inv : XenditInvoice) : Except Error InvoiceOutcome :=
  if inv.externalId = "" then .error (malformed "missing external_id")
  else match (rail.xenditNumberToString inv.amountField).filter (· ≠ "") with
    | none => .error (malformed "unparseable amount field")
    | some amountStr =>
      match majorStringToMinor amountStr inv.currency with
      | .error e => .error (malformed s!"amount {debugStr amountStr}: {e.toString}")
      | .ok amountMinor =>
        if inv.status = "PAID" ∨ inv.status = "SETTLED" then
          if amountMinor = 0 then .error (malformed "paid status with non-positive amount")
          else if inv.id = "" then
            .error (malformed "paid invoice with no id (cannot dedupe webhooks)")
          else .ok ⟨inv.externalId, inv.id, true, amountMinor, inv.currency⟩
        else .ok ⟨inv.externalId, inv.id, false, 0, inv.currency⟩

/-- What `verify` makes of the invoices found under a reference. -/
def settles (invoices : List XenditInvoice) (reference : String) (receipt : Receipt) : Bool :=
  match invoices.head? with
  | none => false
  | some inv =>
    if inv.externalId ≠ reference then false
    else match rail.invoiceToOutcome inv with
      | .error _ => false
      | .ok outcome =>
        if !outcome.settled then false
        else if !eqIgnoreAsciiCase outcome.currency receipt.currency then false
        else if outcome.amountMinor < receipt.amountMinor then false
        else true

def classifyError (status : UInt16) (body : List UInt8) : Error :=
  let message := match rail.errorFromSlice body with
    | .ok env =>
      if env.message ≠ "" then env.message
      else if env.errorCode ≠ "" then env.errorCode
      else "no message"
    | .error _ => "no message"
  unexpectedStatus "xendit" status message

/-- The request `do_json` sends; the password is empty, not absent. -/
def jsonRequest (method : Method) (path : String) (body : Option Json.Value) : Request where
  method := method
  url := rail.baseUrl ++ path
  query := []
  headers := [("Content-Type", "application/json"), ("Accept", "application/json")]
  basicAuth := some (rail.secretKey, some "")
  payload := body.map .json

def chargeBody (req : PayRequest) (majorAmount currency : String) : Json.Value :=
  .object [("external_id", .string req.reference.text), ("amount", .string majorAmount),
    ("currency", .string currency), ("success_redirect_url", .string req.destination.text)]

/-- Open an invoice for a request; its receipt claims no amount yet. -/
def charge (req : PayRequest) : Talk Receipt := do
  req.validate
  checkListedCurrency railId rail.currencies req.currency
  let currency := toAsciiUppercase (trim req.currency)
  let majorAmount ← (minorToMajorString req.amountMinor currency).mapError fun e =>
    Error.invalidRequest s!"xendit: {e.toString}"
  let inv ← fetch "xendit" "/v2/invoices"
    (rail.jsonRequest .post "/v2/invoices" (some (chargeBody req majorAmount currency)))
    rail.classifyError rail.invoiceFromSlice
  insist (inv.invoiceUrl ≠ "") (malformed "empty invoice_url")
  return {
    railId := railId
    amountMinor := 0
    currency
    reference := req.reference
    proof := rail.proofToBytes ⟨inv.invoiceUrl, inv.id⟩
    settledAtUnix := 0 }

def verifyPath (reference : String) : String := s!"/v2/invoices?external_id={reference}"

def listInvoices (reference : String) : Talk (List XenditInvoice) :=
  fetch "xendit" (verifyPath reference) (rail.jsonRequest .get (verifyPath reference) none)
    rail.classifyError rail.invoicesFromSlice

/-- Look the receipt's reference up and compare the first invoice with the receipt. -/
def verify (receipt : Receipt) : Talk Bool :=
  if receipt.railId ≠ railId then return false
  else match safeQueryValue receipt.reference.text with
    | .error _ => return false
    | .ok reference => do
      let invoices ← rail.listInvoices reference
      return rail.settles invoices reference receipt

theorem charge_ensures {req : PayRequest} :
    (rail.charge req).Ensures fun receipt => receipt.railId = railId ∧ receipt.amountMinor = 0 ∧
      receipt.currency = toAsciiUppercase (trim req.currency) ∧
      receipt.reference = req.reference := by
  refine Dialogue.ensures_rest fun _ => Dialogue.ensures_rest fun _ => ?_
  refine Dialogue.ensures_rest fun _ => Dialogue.ensures_rest fun _ => ?_
  exact Dialogue.ensures_rest fun _ => Dialogue.ensures_pure ⟨rfl, rfl, rfl, rfl⟩

end XenditRail

theorem safeQueryValue_ok {s value : String} (safe : safeQueryValue s = .ok value) :
    value = s ∧ (∀ c ∈ s.toList, c.toNat < 128) ∧
      ∀ c ∈ s.toList, ¬ (['/', '?', '#', '&', '=', ' ', '\t', '\n', '\r'].contains c) := by
  unfold safeQueryValue at safe
  split at safe
  · cases safe
  · rename_i plain
    obtain ⟨-, special, ascii⟩ := not_or.mp plain |>.imp id not_or.mp
    refine ⟨(Except.ok.inj safe).symm, ?_, fun c member held => special ?_⟩
    · simpa using ascii
    · exact List.any_eq_true.mpr ⟨c, member, held⟩

theorem safeQueryValue_nonempty {s value : String} (safe : safeQueryValue s = .ok value) : s ≠ "" := by
  intro empty
  rw [safeQueryValue, if_pos (.inl empty)] at safe
  cases safe

/-- A paid invoice has an id and a positive amount. -/
theorem XenditRail.invoiceToOutcome_settled {rail : XenditRail} {inv : XenditInvoice}
    {outcome : InvoiceOutcome} (read : rail.invoiceToOutcome inv = .ok outcome)
    (settled : outcome.settled) : outcome.eventId ≠ "" ∧ outcome.amountMinor ≠ 0 := by
  unfold XenditRail.invoiceToOutcome at read
  split at read
  · cases read
  split at read
  · cases read
  split at read
  · cases read
  split at read
  · split at read
    · cases read
    · rename_i positive
      split at read
      · cases read
      · rename_i named
        cases read
        exact ⟨named, positive⟩
  · cases read
    cases settled

end Patala.Fiat.Xendit
