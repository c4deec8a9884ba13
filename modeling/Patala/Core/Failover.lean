import Patala.Core.Rail
import Patala.Lib.Attempts

/-! Failover across wrapped rails. The settlement-class boundary is enforced when
the attempt order is planned, before any rail is called. -/

namespace Patala

/-- Indices into the rails in the order to try them. A policy is asked with the
rails in hand and may call them, so it may change the world. -/
abbrev RoutingPolicy (σ : Type) := List (PaymentRail σ) → PayRequest → σ → List Nat × σ

def inOrderPolicy : RoutingPolicy σ := fun rails _ world => (List.range rails.length, world)

structure FailoverRail (σ : Type) where
  rails : List (PaymentRail σ)
  policy : RoutingPolicy σ
  allowCrossClass : Bool

namespace FailoverRail

def new (rails : List (PaymentRail σ)) : FailoverRail σ := ⟨rails, inOrderPolicy, false⟩

/-- An index of a wrapped rail. -/
abbrev Idx (f : FailoverRail σ) := Fin f.rails.length

def classOf (f : FailoverRail σ) (idx : f.Idx) : RailClass := f.rails[idx].capabilities.railClass

/-- The eligible attempt order, and the first class boundary the policy order ran into. -/
structure Plan (f : FailoverRail σ) where
  order : List f.Idx
  blocked : Option (RailClass × RailClass)

/-- The locals of the planning loop. -/
structure Planning (f : FailoverRail σ) where
  intended : Option RailClass
  eligible : List f.Idx
  blocked : Option (RailClass × RailClass)

/-- One turn of the planning loop. The first index in range fixes the class; a
later one of another class is skipped unless crossing was opted in. -/
def planStep (f : FailoverRail σ) (acc : f.Planning) (idx : Nat) : f.Planning :=
  if inRange : idx < f.rails.length then
    let railClass := f.classOf ⟨idx, inRange⟩
    match acc.intended with
    | none => { acc with intended := some railClass, eligible := acc.eligible ++ [⟨idx, inRange⟩] }
    | some want =>
      if want = railClass then { acc with eligible := acc.eligible ++ [⟨idx, inRange⟩] }
      else if f.allowCrossClass then { acc with eligible := acc.eligible ++ [⟨idx, inRange⟩] }
      else { acc with blocked := acc.blocked.or (some (want, railClass)) }
  else acc

def planOrder (f : FailoverRail σ) (order : List Nat) : f.Plan :=
  let done := order.foldl f.planStep ⟨none, [], none⟩
  ⟨done.eligible, done.blocked⟩

def plan (f : FailoverRail σ) (req : PayRequest) (world : σ) : f.Plan × σ :=
  let (order, asked) := f.policy f.rails req world
  (f.planOrder order, asked)

/-- A blocked boundary is reported in preference to the last rail's own failure. -/
def terminalError (last : Option Error) (blocked : Option (RailClass × RailClass)) : Error :=
  match blocked with
  | some (fromClass, toClass) => .crossClassFailover fromClass toClass
  | none => last.getD .allRailsFailed

/-- What one call leaves: the value returned, the wrapped calls made with their
answers in order, and the world. -/
structure Dispatch (f : FailoverRail σ) (ω α : Type) where
  result : Except Error α
  calls : List (f.Idx × ω)
  world : σ

/-- Plan, then try the eligible rails in order until one succeeds. -/
def attempt (f : FailoverRail σ) (call : f.Idx → σ → ω × σ) (outcome : ω → Except Error α)
    (req : PayRequest) (world : σ) : f.Dispatch ω α :=
  let (plan, asked) := f.plan req world
  let run := Attempts.run call outcome plan.order none asked
  { result := match run.result with
      | .ok value => .ok value
      | .error last => .error (terminalError last plan.blocked)
    calls := run.calls
    world := run.state }

def quote (f : FailoverRail σ) (req : PayRequest) (world : σ) :
    f.Dispatch (Except Error Quote) Quote :=
  f.attempt (fun idx => f.rails[idx].quote req) id req world

def charge (f : FailoverRail σ) (req : PayRequest) (world : σ) : f.Dispatch Charged Receipt :=
  f.attempt (fun idx => f.rails[idx].charge req) Charged.result req world

/-- Verify on the first wrapped rail of the receipt's id; fail closed without one. -/
def verify (f : FailoverRail σ) (receipt : Receipt) (world : σ) : Except Error Bool × σ :=
  match f.rails.find? fun rail => rail.id = receipt.railId with
  | some rail => rail.verify receipt world
  | none => (.ok false, world)

def refund (f : FailoverRail σ) (receipt : Receipt) (world : σ) : Except Error Receipt × σ :=
  match f.rails.find? fun rail => rail.id = receipt.railId with
  | some rail => rail.refund receipt world
  | none => (.error (.unsupported
      "refund: the rail that issued this receipt is not wrapped by this FailoverRail"), world)

end FailoverRail
end Patala
