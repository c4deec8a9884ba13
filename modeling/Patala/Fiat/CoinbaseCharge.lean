import Patala.Fiat.CoinbaseCommerce
import Patala.Fiat.ObjectLookup

/-! The Coinbase Commerce rail: `charge` creates a hosted charge, and `verify` reads the last entry
of its timeline. An entry that calls for a review, or that is not known, is an error. -/

namespace Patala.Fiat.CoinbaseCommerce

structure TimelineEntry where
  status : String
  context : String

structure LocalPrice where
  amount : String
  currency : String

structure Pricing where
  localPrice : LocalPrice

structure Charge where
  id : String
  hostedUrl : String
  timeline : List TimelineEntry
  pricing : Pricing

structure ChargeEnvelope where
  data : Charge

structure ErrorBody where
  message : String

structure ErrorEnvelope where
  error : ErrorBody

structure ChargeProof where
  chargeId : String
  hostedUrl : String

inductive ChargeState where
  | paid
  | pending
  | failed
  | requiresManualReview (context : Option String)
  | unrecognised (status : String)
deriving DecidableEq

/-- The part of the rail that talks to the processor, with how its messages are written and read. -/
structure CoinbaseCommerceCharges where
  apiKey : String
  baseUrl : String
  currencies : List String
  proofToBytes : ChargeProof → List UInt8
  proofFromSlice : FromSlice ChargeProof
  envelopeFromSlice : FromSlice ChargeEnvelope
  errorFromSlice : FromSlice ErrorEnvelope

def apiVersion : String := "2018-03-22"

def malformed (detail : String) : Error := Fiat.malformed "coinbasecommerce" detail

def safePathSegment (s : String) : Except Error String :=
  Fiat.safePathSegment "a coinbasecommerce charge id" s

/-- What the last entry of a timeline says; a status that is not listed is not guessed at. -/
def classifyChargeState (latest : TimelineEntry) : ChargeState :=
  if latest.status = "COMPLETED" then .paid
  else if latest.status = "NEW" ∨ latest.status = "PENDING" then .pending
  else if latest.status = "EXPIRED" ∨ latest.status = "CANCELED" then .failed
  else if latest.status = "UNRESOLVED" ∨ latest.status = "RESOLVED" then
    .requiresManualReview (if latest.context = "" then none else some latest.context)
  else .unrecognised latest.status

/-- `fetch_charge` refuses a charge without an id. -/
def ChargeEnvelope.charge (envelope : ChargeEnvelope) : Except Error Charge := do
  insist (envelope.data.id ≠ "") (malformed "empty charge id")
  return envelope.data

/-- The price is read before it is compared. -/
def LocalPrice.covers (price : LocalPrice) (receipt : Receipt) : Except Error Bool := do
  let amountMinor ← (majorStringToMinor price.amount price.currency).mapError fun e =>
    malformed e.toString
  if !eqIgnoreAsciiCase price.currency receipt.currency then return false
  else if amountMinor < receipt.amountMinor then return false
  else return true

def needsReview (context : String) : Error :=
  .rail (s!"coinbasecommerce: charge requires manual review in the Coinbase Commerce dashboard " ++
    "(unresolved/resolved timeline state) -- this adapter will not guess whether it was paid in " ++
    s!"full: context={debugStr context}")

def unrecognised (status : String) : Error :=
  .rail s!"coinbasecommerce: unrecognised timeline status {debugStr status}"

/-- What `verify` makes of a charge. -/
def Charge.settles (charge : Charge) (receipt : Receipt) : Except Error Bool :=
  match charge.timeline.getLast? with
  | none => .error (malformed "empty timeline")
  | some latest =>
    match classifyChargeState latest with
    | .paid => charge.pricing.localPrice.covers receipt
    | .pending => .ok false
    | .failed => .ok false
    | .requiresManualReview context => .error (needsReview (context.getD ""))
    | .unrecognised status => .error (unrecognised status)

/-- The charge ended completed, for an amount in a currency. -/
def Charge.Shows (charge : Charge) (currency : String) (amount : UInt64) : Prop :=
  charge.id ≠ "" ∧ (charge.timeline.getLast?.map TimelineEntry.status = some "COMPLETED") ∧
    majorStringToMinor charge.pricing.localPrice.amount charge.pricing.localPrice.currency =
      .ok amount ∧
    eqIgnoreAsciiCase charge.pricing.localPrice.currency currency

theorem LocalPrice.covers_true {price : LocalPrice} {receipt : Receipt} :
    price.covers receipt = .ok true ↔ ∃ amount, majorStringToMinor price.amount price.currency =
      .ok amount ∧ eqIgnoreAsciiCase price.currency receipt.currency ∧
        receipt.amountMinor ≤ amount := by
  unfold LocalPrice.covers
  rw [Fallible.bind_eq_ok]
  simp only [Fallible.mapError_eq_ok]
  refine exists_congr fun amount => and_congr_right fun _ => ?_
  by_cases currency : eqIgnoreAsciiCase price.currency receipt.currency <;>
    by_cases short : amount < receipt.amountMinor <;>
      simp [currency, short, pure, Except.pure, UInt64.not_lt.mp, UInt64.not_le.mpr]

/-- Only a charge whose last entry says completed settles, and then its price has to cover. -/
theorem Charge.settles_true {charge : Charge} {receipt : Receipt} :
    charge.settles receipt = .ok true ↔
      charge.timeline.getLast?.map TimelineEntry.status = some "COMPLETED" ∧
        charge.pricing.localPrice.covers receipt = .ok true := by
  unfold Charge.settles
  cases charge.timeline.getLast? with
  | none => simp
  | some latest =>
    by_cases completed : latest.status = "COMPLETED"
    · simp [classifyChargeState, completed]
    · refine iff_of_false ?_ (by simp [completed])
      cases state : classifyChargeState latest with
      | paid =>
        unfold classifyChargeState at state
        split_ifs at state
      | pending => simp [state]
      | failed => simp [state]
      | requiresManualReview context => simp [state]
      | unrecognised status => simp [state]

/-- The charge has an id, and its timeline ends in an entry that says whether it is paid; when it
is, the price can be read. -/
def Charge.Legible (charge : Charge) : Prop :=
  charge.id ≠ "" ∧ ∃ latest, charge.timeline.getLast? = some latest ∧
    match classifyChargeState latest with
    | .paid => ∃ amount, majorStringToMinor charge.pricing.localPrice.amount
        charge.pricing.localPrice.currency = .ok amount
    | .pending | .failed => True
    | .requiresManualReview _ | .unrecognised _ => False

theorem LocalPrice.covers_ok {price : LocalPrice} {receipt : Receipt} :
    (∃ verdict, price.covers receipt = .ok verdict) ↔
      ∃ amount, majorStringToMinor price.amount price.currency = .ok amount := by
  unfold LocalPrice.covers
  cases majorStringToMinor price.amount price.currency with
  | error e => simp [Except.mapError, bind, Except.bind]
  | ok amount =>
    simp only [Except.mapError, bind, Except.bind, Except.ok.injEq, exists_eq', iff_true]
    split_ifs <;> exact ⟨_, rfl⟩

/-- A charge is judged without an error when it is legible. -/
theorem ChargeEnvelope.judged_ok {envelope : ChargeEnvelope} {receipt : Receipt} :
    (∃ verdict, (envelope.charge >>= fun charge => charge.settles receipt) = .ok verdict) ↔
      envelope.data.Legible := by
  unfold ChargeEnvelope.charge Charge.Legible
  by_cases named : envelope.data.id = ""
  · simp [named, insist, bind, Except.bind]
  · simp only [insist, named, not_false_eq_true, ne_eq, if_true, bind, Except.bind, pure,
      Except.pure, true_and, Charge.settles]
    cases envelope.data.timeline.getLast? with
    | none => simp
    | some latest =>
      simp only [Option.some.injEq, exists_eq_left']
      cases classifyChargeState latest with
      | paid => exact LocalPrice.covers_ok
      | pending => simp
      | failed => simp
      | requiresManualReview context => simp
      | unrecognised status => simp

namespace CoinbaseCommerceCharges

variable (rail : CoinbaseCommerceCharges)

def classifyError (status : UInt16) (body : List UInt8) : Error :=
  let message := match rail.errorFromSlice body with
    | .ok env => if env.error.message = "" then "no message" else env.error.message
    | .error _ => "no message"
  unexpectedStatus "coinbasecommerce" status message

/-- The request `do_json` sends. -/
def jsonRequest (method : Method) (path : String) (body : Option Json.Value) : Request where
  method := method
  url := rail.baseUrl ++ path
  query := []
  headers := [("X-CC-Api-Key", rail.apiKey), ("X-CC-Version", apiVersion),
    ("Accept", "application/json")]
  basicAuth := none
  payload := body.map .json

def createBody (req : PayRequest) (currency amount : String) : Json.Value :=
  .object [("name", .string s!"patala order {req.reference.text}"),
    ("description", .string s!"patala order {req.reference.text}"),
    ("pricing_type", .string "fixed_price"),
    ("local_price", .object [("amount", .string amount), ("currency", .string currency)]),
    ("metadata", .object [("order_id", .string req.reference.text)])]

/-- Create a charge for a request; its receipt claims no amount yet. -/
def charge (req : PayRequest) : Talk Receipt := do
  req.validate
  checkCurrency railId rail.currencies req.currency
  let currency := toAsciiUppercase (trim req.currency)
  let amount ← (minorToMajorString req.amountMinor currency).mapError fun e =>
    Error.invalidRequest s!"coinbasecommerce: {e.toString}"
  let envelope ← fetch "coinbasecommerce" "/charges"
    (rail.jsonRequest .post "/charges" (some (createBody req currency amount)))
    rail.classifyError rail.envelopeFromSlice
  insist (envelope.data.id ≠ "" ∧ envelope.data.hostedUrl ≠ "") (malformed "empty id or hosted_url")
  return {
    railId := railId
    amountMinor := 0
    currency
    reference := req.reference
    proof := rail.proofToBytes ⟨envelope.data.id, envelope.data.hostedUrl⟩
    settledAtUnix := 0 }

def chargePath (chargeId : String) : String := s!"/charges/{chargeId}"

/-- The charge a proof names; an id that is not safe is an error. -/
def charges : ObjectLookup ChargeProof ChargeEnvelope where
  railId := railId
  proofFromSlice := rail.proofFromSlice
  named := fun proof => orFailed (safePathSegment proof.chargeId)
  path := chargePath
  request := fun chargeId => rail.jsonRequest .get (chargePath chargeId) none
  classifyError := rail.classifyError
  fromSlice := rail.envelopeFromSlice
  judge := fun receipt _ envelope => do
    let charge ← envelope.charge
    charge.settles receipt

/-- Fetch the charge the proof names, and read how its timeline ends. -/
def verify (receipt : Receipt) : Talk Bool := rail.charges.verify receipt

/-- The verifier is satisfied when the charge shows enough. -/
theorem judge_true {receipt : Receipt} {chargeId : String} {envelope : ChargeEnvelope} :
    rail.charges.judge receipt chargeId envelope = .ok true ↔
      ∃ amount, envelope.data.Shows receipt.currency amount ∧ receipt.amountMinor ≤ amount := by
  show (envelope.charge >>= fun charge => charge.settles receipt) = .ok true ↔ _
  unfold ChargeEnvelope.charge Charge.Shows
  simp only [Fallible.bind_eq_ok, insist_ok_iff, Charge.settles_true, LocalPrice.covers_true,
    exists_const]
  constructor
  · rintro ⟨charge, ⟨named, same⟩, completed, amount, worth, currency, enough⟩
    cases same
    exact ⟨amount, ⟨named, completed, worth, currency⟩, enough⟩
  · intro ⟨amount, ⟨named, completed, worth, currency⟩, enough⟩
    exact ⟨envelope.data, ⟨named, rfl⟩, completed, amount, worth, currency, enough⟩

/-- A charge goes well when it is created with an id and a page. -/
theorem charge_ok {req : PayRequest} {receipt : Receipt} {transcript : List (Request × Reply)} :
    (rail.charge req).Yields transcript (.ok receipt) ↔
      req.validate = .ok () ∧ (rail.currencies = [] ∨ contains rail.currencies req.currency) ∧
      ∃ amount, minorToMajorString req.amountMinor (toAsciiUppercase (trim req.currency)) =
        .ok amount ∧ ∃ reply envelope, transcript = [(rail.jsonRequest .post "/charges"
          (some (createBody req (toAsciiUppercase (trim req.currency)) amount)), reply)] ∧
        reply.decoded rail.envelopeFromSlice = some envelope ∧
        (envelope.data.id ≠ "" ∧ envelope.data.hostedUrl ≠ "") ∧
        receipt = ⟨railId, 0, toAsciiUppercase (trim req.currency), req.reference,
          rail.proofToBytes ⟨envelope.data.id, envelope.data.hostedUrl⟩, 0⟩ := by
  unfold charge checkCurrency
  simp only [Dialogue.yields_lift_bind_ok, insist_ok_iff, Unique.exists_iff, fetch_created,
    Fallible.mapError_eq_ok]

end CoinbaseCommerceCharges

end Patala.Fiat.CoinbaseCommerce
