import Patala.Fiat.ObjectLookup
import Patala.Fiat.OpenNode
import Patala.Json.Stringify

/-! OpenNode's verifier: the charge the proof names is fetched, and its amount is read before its
status is, so a charge whose amount cannot be read is an error even while it is unpaid. -/

namespace Patala.Fiat.OpenNode

inductive ChargeState where
  | paid
  | pending
  | failed
deriving DecidableEq

def safePathSegment (s : String) : Except Error String :=
  Fiat.safePathSegment "an opennode charge id" s

/-- An amount may come as a number or as a text. -/
def flexibleJsonAmountToString : Json.Value → Except Error String
  | .number literal => .ok literal
  | .string text => .ok text
  | .null => .error (malformed "amount is null")
  | other => .error (malformed
      s!"amount is neither a JSON number nor a JSON string: {Json.stringify other}")

/-- A status that is not listed has failed. -/
def classifyChargeState (status : String) : ChargeState :=
  if status = "paid" then .paid
  else if status = "unpaid" ∨ status = "processing" then .pending
  else .failed

/-- `fetch_charge` refuses a charge without an id. -/
def Envelope.charge (envelope : Envelope) : Except Error OpenNodeCharge := do
  insist (envelope.data.id ≠ "") (malformed "empty charge id")
  return envelope.data

/-- The amount of a charge in minor units. -/
def OpenNodeCharge.amountMinor (charge : OpenNodeCharge) : Except Error UInt64 := do
  let amountStr ← flexibleJsonAmountToString charge.amount
  (majorStringToMinor amountStr charge.currency).mapError fun e => malformed e.toString

/-- What `verify` makes of a charge. -/
def OpenNodeCharge.settles (charge : OpenNodeCharge) (receipt : Receipt) : Except Error Bool := do
  let amountMinor ← charge.amountMinor
  match classifyChargeState charge.status with
  | .paid =>
    if !eqIgnoreAsciiCase charge.currency receipt.currency then return false
    else if amountMinor < receipt.amountMinor then return false
    else return true
  | .pending => return false
  | .failed => return false

/-- The charge is paid, for an amount in a currency. -/
def OpenNodeCharge.Shows (charge : OpenNodeCharge) (currency : String) (amount : UInt64) : Prop :=
  charge.id ≠ "" ∧ charge.status = "paid" ∧ charge.amountMinor = .ok amount ∧
    eqIgnoreAsciiCase charge.currency currency

theorem classifyChargeState_paid {status : String} :
    classifyChargeState status = .paid ↔ status = "paid" := by
  unfold classifyChargeState
  split_ifs <;> simp [*]

theorem OpenNodeCharge.settles_true {charge : OpenNodeCharge} {receipt : Receipt} :
    charge.settles receipt = .ok true ↔ ∃ amount, charge.amountMinor = .ok amount ∧
      charge.status = "paid" ∧ eqIgnoreAsciiCase charge.currency receipt.currency ∧
        receipt.amountMinor ≤ amount := by
  unfold OpenNodeCharge.settles
  rw [Fallible.bind_eq_ok]
  refine exists_congr fun amount => and_congr_right fun _ => ?_
  rw [← classifyChargeState_paid]
  cases classifyChargeState charge.status with
  | paid =>
    by_cases currency : eqIgnoreAsciiCase charge.currency receipt.currency <;>
      by_cases short : amount < receipt.amountMinor <;>
        simp [currency, short, pure, Except.pure, UInt64.not_lt.mp, UInt64.not_le.mpr]
  | pending => simp [pure, Except.pure]
  | failed => simp [pure, Except.pure]

/-- The charge has an id and an amount that can be read, whatever its status. -/
def OpenNodeCharge.Legible (charge : OpenNodeCharge) : Prop :=
  charge.id ≠ "" ∧ ∃ amount, charge.amountMinor = .ok amount

/-- A charge is judged without an error when it is legible. -/
theorem Envelope.judged_ok {envelope : Envelope} {receipt : Receipt} :
    (∃ verdict, (envelope.charge >>= fun charge => charge.settles receipt) = .ok verdict) ↔
      envelope.data.Legible := by
  unfold Envelope.charge OpenNodeCharge.Legible
  by_cases named : envelope.data.id = ""
  · simp [named, insist, bind, Except.bind]
  · simp only [insist, named, not_false_eq_true, ne_eq, if_true, bind, Except.bind, pure,
      Except.pure, true_and, OpenNodeCharge.settles]
    cases envelope.data.amountMinor with
    | error e => simp
    | ok amount =>
      simp only [Except.ok.injEq, exists_eq', iff_true]
      cases classifyChargeState envelope.data.status with
      | paid =>
        dsimp only
        split_ifs <;> exact ⟨_, rfl⟩
      | pending => exact ⟨_, rfl⟩
      | failed => exact ⟨_, rfl⟩

namespace OpenNodeRail

variable (rail : OpenNodeRail) (proofFromSlice : FromSlice ChargeProof)

def chargePath (chargeId : String) : String := s!"/v1/charge/{chargeId}"

/-- The charge a proof names; an id that is not safe is an error. -/
def charges : ObjectLookup ChargeProof Envelope where
  railId := railId
  proofFromSlice := proofFromSlice
  named := fun proof => orFailed (safePathSegment proof.chargeId)
  path := chargePath
  request := fun chargeId => rail.jsonRequest .get (chargePath chargeId) none
  classifyError := rail.classifyError
  fromSlice := rail.envelopeFromSlice
  judge := fun receipt _ envelope => do
    let charge ← envelope.charge
    charge.settles receipt

/-- Fetch the charge the proof names and compare it with the receipt. -/
def verify (receipt : Receipt) : Talk Bool := (rail.charges proofFromSlice).verify receipt

variable {proofFromSlice}

/-- The verifier is satisfied when the charge shows enough. -/
theorem judge_true {receipt : Receipt} {chargeId : String} {envelope : Envelope} :
    (rail.charges proofFromSlice).judge receipt chargeId envelope = .ok true ↔
      ∃ amount, envelope.data.Shows receipt.currency amount ∧ receipt.amountMinor ≤ amount := by
  show (envelope.charge >>= fun charge => charge.settles receipt) = .ok true ↔ _
  unfold Envelope.charge OpenNodeCharge.Shows
  simp only [Fallible.bind_eq_ok, insist_ok_iff, OpenNodeCharge.settles_true, exists_const]
  constructor
  · rintro ⟨charge, ⟨named, same⟩, amount, worth, paid, currency, enough⟩
    cases same
    exact ⟨amount, ⟨named, paid, worth, currency⟩, enough⟩
  · intro ⟨amount, ⟨named, paid, worth, currency⟩, enough⟩
    exact ⟨envelope.data, ⟨named, rfl⟩, amount, worth, paid, currency, enough⟩

/-- A charge goes well when it is created with an id and a page. -/
theorem charge_ok {req : PayRequest} {receipt : Receipt} {transcript : List (Request × Reply)} :
    (rail.charge req).Yields transcript (.ok receipt) ↔
      req.validate = .ok () ∧ (rail.currencies = [] ∨ contains rail.currencies req.currency) ∧
      ∃ amount, minorToMajorString req.amountMinor (toAsciiUppercase (trim req.currency)) =
        .ok amount ∧ isFloat amount ∧ ∃ reply envelope,
        transcript = [(rail.jsonRequest .post "/v1/charges"
          (some (rail.createBody req (toAsciiUppercase (trim req.currency)) amount)), reply)] ∧
        reply.decoded rail.envelopeFromSlice = some envelope ∧
        (envelope.data.id ≠ "" ∧ envelope.data.hostedCheckoutUrl ≠ "") ∧
        receipt = ⟨railId, 0, toAsciiUppercase (trim req.currency), req.reference,
          rail.proofToBytes ⟨envelope.data.id, envelope.data.hostedCheckoutUrl⟩, 0⟩ := by
  unfold charge checkCurrency
  simp only [Dialogue.yields_lift_bind_ok, insist_ok_iff, Unique.exists_iff, fetch_created,
    Fallible.mapError_eq_ok]

end OpenNodeRail

end Patala.Fiat.OpenNode
