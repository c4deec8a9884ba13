import Mathlib.Logic.Function.Basic
import Patala.Fiat.Currency
import Patala.Lib.Fallible
import Patala.Lib.History

/-! The manual rail: an operator marks an order paid or failed, and the rail's own record
is what `verify` checks. Charging a reference again returns what was recorded. -/

namespace Patala.Fiat

def railIdManual : String := "manual"

inductive ManualStatus where
  | pending
  | paid
  | failed
deriving DecidableEq

/-- One manual order, with who marked it and when once it has been marked. -/
structure ManualRecord where
  reference : Str
  amountMinor : UInt64
  currency : String
  status : ManualStatus
  instructions : String
  createdAtUnix : UInt64
  markedBy : String
  markedAtUnix : UInt64
deriving DecidableEq

structure ManualProof where
  instructions : String
deriving DecidableEq

/-- The map of records, by reference. -/
abbrev Records := String → Option ManualRecord

/-- A manual rail: the text shown for a request, which may depend on anything the
caller's closure can see, and the JSON form of the proof. -/
structure ManualRail (ε : Type) where
  instructions : ε → PayRequest → Except Error String
  toVec : ManualProof → List UInt8

def manualError (e : CurrencyError) : Error := .invalidRequest ("manual: " ++ e.toString)

def defaultManualInstructions (req : PayRequest) : Except Error String := do
  let major ← (minorToMajorString req.amountMinor req.currency).mapError manualError
  let currency ← (normalize req.currency).mapError manualError
  return s!"Pay {major} {currency}, quoting order reference {req.reference.text}. " ++
    "Ask the operator to confirm and mark this order paid once they've received it."

namespace ManualRail

variable (rail : ManualRail ε)

/-- Mark a recorded order. Marking a paid order paid again changes nothing. -/
def mark (now : UInt64) (reference markedBy : String) (status : ManualStatus) (records : Records) :
    Except Error ManualRecord × Records :=
  let reference := trim reference
  let markedBy := trim markedBy
  if reference = "" then (.error (.invalidRequest "manual: reference is required"), records)
  else if markedBy = "" then
    (.error (.invalidRequest
      "manual: marked_by is required (this is an auditable action and needs an actor)"), records)
  else match records reference with
    | none =>
      (.error (.invalidRequest ("manual: unknown reference " ++ debugStr reference)), records)
    | some rec =>
      if status = .paid ∧ rec.status = .paid then (.ok rec, records)
      else
        let marked := { rec with status, markedBy, markedAtUnix := now }
        (.ok marked, Function.update records reference (some marked))

def markPaid (now : UInt64) (reference markedBy : String) (records : Records) :
    Except Error ManualRecord × Records :=
  mark now reference markedBy .paid records

def markFailed (now : UInt64) (reference markedBy : String) (records : Records) :
    Except Error ManualRecord × Records :=
  mark now reference markedBy .failed records

def record (reference : String) (records : Records) : Option ManualRecord :=
  records (trim reference)

/-- The receipt of an order that is recorded already: its amount once it is paid. -/
def recordedReceipt (existing : ManualRecord) : Receipt where
  railId := railIdManual
  amountMinor := if existing.status = .paid then existing.amountMinor else 0
  currency := existing.currency
  reference := existing.reference
  proof := rail.toVec ⟨existing.instructions⟩
  settledAtUnix := existing.markedAtUnix

/-- The record and the receipt of a new order. -/
def newOrder (env : ε) (now : UInt64) (req : PayRequest) (currency : String) :
    Except Error (ManualRecord × Receipt) := do
  let text ← rail.instructions env { req with currency }
  insist (trim text ≠ "") (.invalidRequest "manual: instructions must not be empty")
  return (⟨req.reference, req.amountMinor, currency, .pending, text, now, "", 0⟩,
    ⟨railIdManual, 0, currency, req.reference, rail.toVec ⟨text⟩, 0⟩)

def checkRequest (req : PayRequest) : Except Error String := do
  req.validate
  (normalize req.currency).mapError manualError

/-- Record a new order under the caller's reference, or answer with the recorded one. -/
def charge (env : ε) (now : UInt64) (req : PayRequest) (records : Records) :
    Except Error Receipt × Records :=
  match checkRequest req with
  | .error error => (.error error, records)
  | .ok currency =>
    match records req.reference.text with
    | some existing => (.ok (rail.recordedReceipt existing), records)
    | none =>
      match rail.newOrder env now req currency with
      | .error error => (.error error, records)
      | .ok (rec, receipt) =>
        (.ok receipt, Function.update records req.reference.text (some rec))

/-- Only an order marked paid verifies, in its currency and for no more than its amount. -/
def verify (receipt : Receipt) (records : Records) : Except Error Bool :=
  if receipt.railId ≠ railIdManual then .ok false
  else match records receipt.reference.text with
    | none => .ok false
    | some rec =>
      if rec.status ≠ .paid then .ok false
      else if !eqIgnoreAsciiCase rec.currency receipt.currency then .ok false
      else if rec.amountMinor < receipt.amountMinor then .ok false
      else .ok true

end ManualRail

/-- A call on the rail, with the clock it reads and what its closure sees. -/
inductive ManualCall (ε : Type) where
  | charge (env : ε) (now : UInt64) (req : PayRequest)
  | markPaid (now : UInt64) (reference markedBy : String)
  | markFailed (now : UInt64) (reference markedBy : String)
  | verify (receipt : Receipt)

inductive ManualAnswer where
  | charged (answer : Except Error Receipt)
  | marked (answer : Except Error ManualRecord)
  | verified (answer : Except Error Bool)

namespace ManualRail

/-- Answer one call. -/
def answer (rail : ManualRail ε) (call : ManualCall ε) (records : Records) :
    ManualAnswer × Records :=
  match call with
  | .charge env now req =>
    let done := rail.charge env now req records
    (.charged done.1, done.2)
  | .markPaid now reference markedBy =>
    let done := markPaid now reference markedBy records
    (.marked done.1, done.2)
  | .markFailed now reference markedBy =>
    let done := markFailed now reference markedBy records
    (.marked done.1, done.2)
  | .verify receipt => (.verified (verify receipt records), records)

/-- Calls on a fresh rail, in order: what they answered, and the records they left. -/
def runFresh (rail : ManualRail ε) (calls : List (ManualCall ε)) :
    List (ManualCall ε × ManualAnswer) × Records :=
  History.run rail.answer calls fun _ => none

/-- An accepted request has a reference that is not blank. -/
theorem checkRequest_reference {req : PayRequest} (checked : checkRequest req = .ok currency) :
    trim req.reference.text ≠ "" := by
  obtain ⟨_, valid, -⟩ := Fallible.bind_eq_ok.mp checked
  exact (PayRequest.validate_ok_iff.mp valid).2.2.2

/-- A new order is recorded under its own reference, pending, for what was asked. -/
theorem newOrder_ok {rail : ManualRail ε} {env : ε} {now : UInt64} {req : PayRequest}
    {currency : String} {rec : ManualRecord} {receipt : Receipt}
    (created : rail.newOrder env now req currency = .ok (rec, receipt)) :
    rec.reference = req.reference ∧ rec.amountMinor = req.amountMinor ∧ rec.currency = currency ∧
      rec.status = .pending := by
  obtain ⟨text, -, later⟩ := Fallible.bind_eq_ok.mp created
  obtain ⟨_, -, built⟩ := Fallible.bind_eq_ok.mp later
  obtain ⟨rfl, rfl⟩ := Prod.mk.inj (Except.ok.inj built)
  exact ⟨rfl, rfl, rfl, rfl⟩

/-- A charge is refused, finds its order, or records a new one. -/
theorem charge_cases (rail : ManualRail ε) (env : ε) (now : UInt64) (req : PayRequest)
    (records : Records) :
    (∃ error, rail.charge env now req records = (.error error, records)) ∨
    (∃ existing, records req.reference.text = some existing ∧
      rail.charge env now req records = (.ok (rail.recordedReceipt existing), records)) ∨
    (∃ rec receipt, records req.reference.text = none ∧ checkRequest req = .ok rec.currency ∧
      rec.reference = req.reference ∧ rec.amountMinor = req.amountMinor ∧ rec.status = .pending ∧
      rail.charge env now req records =
        (.ok receipt, Function.update records req.reference.text (some rec))) := by
  unfold charge
  cases checked : checkRequest req with
  | error error => exact .inl ⟨error, rfl⟩
  | ok currency =>
    cases found : records req.reference.text with
    | some existing => exact .inr (.inl ⟨existing, rfl, rfl⟩)
    | none =>
      cases created : rail.newOrder env now req currency with
      | error error => exact .inl ⟨error, by simp only [created]⟩
      | ok order =>
        obtain ⟨rec, receipt⟩ := order
        obtain ⟨reference, amount, rfl, pending⟩ := newOrder_ok created
        exact .inr (.inr ⟨rec, receipt, rfl, rfl, reference, amount, pending, by simp only [created]⟩)

/-- The same order, whatever its marks. -/
structure SameOrder (a b : ManualRecord) : Prop where
  reference : b.reference = a.reference
  amountMinor : b.amountMinor = a.amountMinor
  currency : b.currency = a.currency
  instructions : b.instructions = a.instructions
  createdAtUnix : b.createdAtUnix = a.createdAtUnix

/-- A mark by somebody on an order that is recorded under the trimmed reference. -/
theorem mark_found (now : UInt64) {reference markedBy : String} (status : ManualStatus)
    {records : Records} {rec : ManualRecord} (found : records (trim reference) = some rec)
    (nonblank : trim reference ≠ "") (named : trim markedBy ≠ "") :
    ∃ marked, SameOrder rec marked ∧ marked.status = status ∧
      mark now reference markedBy status records =
        (.ok marked, Function.update records (trim reference) (some marked)) := by
  unfold mark
  by_cases again : status = .paid ∧ rec.status = .paid
  · have same : Function.update records (trim reference) (some rec) = records := by
      rw [← found, Function.update_eq_self]
    exact ⟨rec, ⟨rfl, rfl, rfl, rfl, rfl⟩, again.2.trans again.1.symm,
      by simp only [nonblank, named, found, again, same, ↓reduceIte, and_self]⟩
  · exact ⟨{ rec with status, markedBy := trim markedBy, markedAtUnix := now },
      ⟨rfl, rfl, rfl, rfl, rfl⟩, rfl, by simp only [nonblank, named, found, again, ↓reduceIte]⟩

/-- A mark is refused, or is kept by the order under the trimmed reference. -/
theorem mark_cases (now : UInt64) (reference markedBy : String) (status : ManualStatus)
    (records : Records) :
    (∃ error, mark now reference markedBy status records = (.error error, records)) ∨
    (∃ rec marked, records (trim reference) = some rec ∧ SameOrder rec marked ∧
      marked.status = status ∧ mark now reference markedBy status records =
        (.ok marked, Function.update records (trim reference) (some marked))) := by
  by_cases blank : trim reference = ""
  · exact .inl ⟨_, by rw [mark, if_pos blank]⟩
  by_cases anonymous : trim markedBy = ""
  · exact .inl ⟨_, by rw [mark, if_neg blank, if_pos anonymous]⟩
  cases found : records (trim reference) with
  | none =>
    exact .inl ⟨.invalidRequest ("manual: unknown reference " ++ debugStr (trim reference)),
      by simp only [mark, blank, anonymous, found, ↓reduceIte]⟩
  | some rec =>
    obtain ⟨marked, same, status, done⟩ := mark_found now status found blank anonymous
    exact .inr ⟨rec, marked, rfl, same, status, done⟩

end ManualRail

end Patala.Fiat
