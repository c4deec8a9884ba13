import Patala.Core.Text

/-! The seam every rail implements: requests, quotes, receipts, capabilities and
errors. Money is an unsigned count of minor units. -/

namespace Patala

/-- The settlement class of a rail. -/
inductive RailClass where
  | custodialReversible
  | nonCustodialFinal
deriving DecidableEq

inductive Settlement where
  | instant
  | seconds (count : UInt32)
  | days (count : UInt8)
deriving DecidableEq

structure RailCapabilities where
  railClass : RailClass
  reversible : Bool
  requiresKyc : Bool
  holdsFunds : Bool
  currencies : List String
  settlement : Settlement
  atomicMultiParty : Bool
deriving DecidableEq

inductive Error where
  | unsupported (operation : String)
  | rail (message : String)
  | invalidRequest (message : String)
  | crossClassFailover (fromClass toClass : RailClass)
  | allRailsFailed
deriving DecidableEq

/-- `{:?}` of a class. -/
def RailClass.debug : RailClass → String
  | custodialReversible => "CustodialReversible"
  | nonCustodialFinal => "NonCustodialFinal"

def Error.toString : Error → String
  | unsupported operation => s!"{operation} is not supported by this rail"
  | rail message => s!"rail error: {message}"
  | invalidRequest message => s!"invalid request: {message}"
  | crossClassFailover fromClass toClass =>
    s!"failover from a {fromClass.debug} rail to a {toClass.debug} rail would cross the " ++
      "settlement-class boundary; call `.allow_cross_class(true)` on the FailoverRail if this " ++
      "is intentional"
  | allRailsFailed => "no rail satisfied the request"

structure PayRequest where
  amountMinor : UInt64
  currency : String
  destination : Str
  reference : Str
deriving DecidableEq

/-- Reject a zero amount or a blank field before any rail does real work. -/
def PayRequest.validate (req : PayRequest) : Except Error Unit :=
  if req.amountMinor = 0 then .error (.invalidRequest "amount_minor must be nonzero")
  else if trim req.currency = "" then .error (.invalidRequest "currency must not be empty")
  else if trim req.destination.text = "" then
    .error (.invalidRequest "destination must not be empty")
  else if trim req.reference.text = "" then
    .error (.invalidRequest "reference must not be empty")
  else .ok ()

theorem PayRequest.validate_ok_iff {req : PayRequest} :
    req.validate = .ok () ↔ req.amountMinor ≠ 0 ∧ trim req.currency ≠ "" ∧
      trim req.destination.text ≠ "" ∧ trim req.reference.text ≠ "" := by
  unfold PayRequest.validate
  by_cases amount : req.amountMinor = 0
  · simp [amount]
  by_cases currency : trim req.currency = ""
  · simp [amount, currency]
  by_cases destination : trim req.destination.text = ""
  · simp [amount, currency, destination]
  by_cases reference : trim req.reference.text = "" <;>
    simp [amount, currency, destination, reference]

theorem PayRequest.amount_ne_zero {req : PayRequest} (valid : req.validate = .ok ()) :
    req.amountMinor ≠ 0 :=
  (PayRequest.validate_ok_iff.mp valid).1

structure Quote where
  railId : String
  amountMinor : UInt64
  currency : String
  feeMinor : UInt64
  totalMinor : UInt64
  settlement : Settlement
  expiresAtUnix : UInt64
deriving DecidableEq

/-- The entitlement: `proof` is opaque to everything but the rail that issued it. -/
structure Receipt where
  railId : String
  amountMinor : UInt64
  currency : String
  reference : Str
  proof : List UInt8
  settledAtUnix : UInt64
deriving DecidableEq

/-- What a payment attempt leaves: the rail's answer, and whether money moved.
The answer is all the caller sees; a rail may move money and still answer with
an error, as when the reply to a submission is lost. -/
structure Charged where
  result : Except Error Receipt
  moved : Bool

/-- A rail over a world `σ` that its calls read and change. -/
structure PaymentRail (σ : Type) where
  id : String
  capabilities : RailCapabilities
  quote : PayRequest → σ → Except Error Quote × σ
  charge : PayRequest → σ → Charged × σ
  verify : Receipt → σ → Except Error Bool × σ
  refund : Receipt → σ → Except Error Receipt × σ

/-- A check inside a verifier: the first one that fails refuses the receipt. -/
def require (condition : Prop) [Decidable condition] : Option Unit :=
  if condition then some () else none

@[simp] theorem require_eq_some {condition : Prop} [Decidable condition] {answer : Unit} :
    require condition = some answer ↔ condition := by
  unfold require
  split <;> simp [*]

/-- `ok_or_else`. -/
def okOr (found : Option α) (error : Error) : Except Error α :=
  match found with
  | some value => .ok value
  | none => .error error

@[simp] theorem okOr_ok_iff {found : Option α} {error : Error} {value : α} :
    okOr found error = .ok value ↔ found = some value := by
  cases found <;> simp [okOr]

/-- A check that reports why it refuses. -/
def insist (condition : Prop) [Decidable condition] (error : Error) : Except Error Unit :=
  if condition then .ok () else .error error

@[simp] theorem insist_ok_iff {condition : Prop} [Decidable condition] {error : Error}
    {answer : Unit} : insist condition error = .ok answer ↔ condition := by
  unfold insist
  split <;> simp [*]

end Patala
