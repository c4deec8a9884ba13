import Mathlib.Data.List.FinRange
import Patala.Core.FailoverOrder

/-! Which wrapped rail answers for a receipt. `charge` picks a rail by its index
in the policy's order; `verify` and `refund` pick the first one with the id the
receipt names. -/

namespace Patala.FailoverRail

/-- The first wrapped rail of an id. -/
def issuerOf (f : FailoverRail σ) (railId : String) : Option f.Idx :=
  (List.finRange f.rails.length).find? fun idx => (f.rails.get idx).id = railId

/-- Hand a receipt to the rail it names, keeping which rail was called. -/
def dispatchTo (f : FailoverRail σ) (call : PaymentRail σ → σ → Except Error α × σ)
    (unwrapped : Except Error α) (receipt : Receipt) (world : σ) :
    f.Dispatch (Except Error α) α :=
  match f.issuerOf receipt.railId with
  | some idx =>
    let (answer, next) := call (f.rails.get idx) world
    ⟨answer, [(idx, answer)], next⟩
  | none => ⟨unwrapped, [], world⟩

/-- `verify` with the wrapped calls it makes. -/
def verifyCalls (f : FailoverRail σ) (receipt : Receipt) (world : σ) :
    f.Dispatch (Except Error Bool) Bool :=
  f.dispatchTo (fun rail => rail.verify receipt) (.ok false) receipt world

/-- `refund` with the wrapped calls it makes. -/
def refundCalls (f : FailoverRail σ) (receipt : Receipt) (world : σ) :
    f.Dispatch (Except Error Receipt) Receipt :=
  f.dispatchTo (fun rail => rail.refund receipt) (.error (.unsupported
    "refund: the rail that issued this receipt is not wrapped by this FailoverRail")) receipt world

theorem find?_eq_issuerOf (f : FailoverRail σ) (railId : String) :
    (f.rails.find? fun rail => rail.id = railId) = (f.issuerOf railId).map f.rails.get := by
  have listed : f.rails = (List.finRange f.rails.length).map f.rails.get := by
    rw [← List.ofFn_eq_map, List.ofFn_get]
  conv_lhs => rw [listed, List.find?_map]
  rfl

/-- The traced calls answer as the rail does. -/
theorem verifyCalls_eq (f : FailoverRail σ) (receipt : Receipt) (world : σ) :
    ((f.verifyCalls receipt world).result, (f.verifyCalls receipt world).world) =
      f.verify receipt world := by
  unfold verify verifyCalls dispatchTo
  rw [find?_eq_issuerOf]
  cases f.issuerOf receipt.railId <;> rfl

theorem refundCalls_eq (f : FailoverRail σ) (receipt : Receipt) (world : σ) :
    ((f.refundCalls receipt world).result, (f.refundCalls receipt world).world) =
      f.refund receipt world := by
  unfold refund refundCalls dispatchTo
  rw [find?_eq_issuerOf]
  cases f.issuerOf receipt.railId <;> rfl

theorem issuerOf_eq_none_iff (f : FailoverRail σ) (railId : String) :
    f.issuerOf railId = none ↔ ∀ idx, (f.rails.get idx).id ≠ railId := by
  simp [issuerOf, List.find?_eq_none]

/-- The rail an id names carries it, and no earlier one does. -/
theorem issuerOf_spec {f : FailoverRail σ} {idx : f.Idx} (found : f.issuerOf railId = some idx) :
    (f.rails.get idx).id = railId ∧ ∀ earlier < idx, (f.rails.get earlier).id ≠ railId := by
  obtain ⟨named, front, back, split, skipped⟩ := List.find?_eq_some_iff_append.mp found
  refine ⟨of_decide_eq_true named, ?_⟩
  intro earlier before
  have sorted : (front ++ idx :: back).Pairwise (· < ·) := split ▸ List.pairwise_lt_finRange _
  have listed : earlier ∈ front ++ idx :: back := split ▸ List.mem_finRange earlier
  rcases List.mem_append.mp listed with member | member
  · simpa using skipped earlier member
  · rcases List.mem_cons.mp member with same | member
    · exact absurd before (by simp [same])
    · have after := List.rel_of_pairwise_cons (List.pairwise_append.mp sorted).2.1 member
      exact absurd (before.trans after) (lt_irrefl _)

theorem issuerOf_eq_some_iff (f : FailoverRail σ) (railId : String) (idx : f.Idx) :
    f.issuerOf railId = some idx ↔
      (f.rails.get idx).id = railId ∧ ∀ earlier < idx, (f.rails.get earlier).id ≠ railId := by
  constructor
  · exact issuerOf_spec
  · rintro ⟨named, first⟩
    cases found : f.issuerOf railId with
    | none => exact absurd named ((f.issuerOf_eq_none_iff railId).mp found idx)
    | some other =>
      obtain ⟨named', first'⟩ := issuerOf_spec found
      rcases lt_trichotomy idx other with before | same | after
      · exact absurd named (first' idx before)
      · rw [same]
      · exact absurd named' (first other after)

/-- The receipt `charge` returned, and the wrapped rail whose answer it is. -/
def Issued (f : FailoverRail σ) (req : PayRequest) (world : σ) (idx : f.Idx) (receipt : Receipt) :
    Prop :=
  ∃ answer, (f.charge req world).calls.getLast? = some (idx, answer) ∧
    answer.result = .ok receipt ∧ (f.charge req world).result = .ok receipt

/-- Verification and refund of a receipt each call one rail, this one, whatever
the world has become. -/
def AnsweredBy (f : FailoverRail σ) (receipt : Receipt) (idx : f.Idx) : Prop :=
  ∀ world, (f.verifyCalls receipt world).calls.map Prod.fst = [idx] ∧
    (f.refundCalls receipt world).calls.map Prod.fst = [idx]

theorem dispatchTo_calls (f : FailoverRail σ) (call : PaymentRail σ → σ → Except Error α × σ)
    (unwrapped : Except Error α) (receipt : Receipt) (world : σ) :
    (f.dispatchTo call unwrapped receipt world).calls.map Prod.fst =
      (f.issuerOf receipt.railId).toList := by
  unfold dispatchTo
  cases f.issuerOf receipt.railId <;> rfl

theorem answeredBy_iff (world : σ) (f : FailoverRail σ) (receipt : Receipt) (idx : f.Idx) :
    f.AnsweredBy receipt idx ↔ f.issuerOf receipt.railId = some idx := by
  have inhabited : Nonempty σ := ⟨world⟩
  simp [AnsweredBy, verifyCalls, refundCalls, dispatchTo_calls, Option.toList_eq_singleton_iff]

/-- A policy that asks for one rail only is answered by that rail. -/
theorem issued_alone (f : FailoverRail σ) (req : PayRequest) (world : σ) (idx : f.Idx)
    (alone : f.policy f.rails req world = ([idx.val], world))
    (charged : ((f.rails.get idx).charge req world).1.result = .ok receipt) :
    f.Issued req world idx receipt := by
  have order : f.eligible [idx.val] = [idx] := by
    simp [eligible, candidates, mayCall, intendedClass]
  let call : f.Idx → σ → Charged × σ := fun idx => (f.rails.get idx).charge req
  have answer : call idx world = ((call idx world).1, (call idx world).2) := rfl
  have called : Attempts.run call Charged.result [idx] none world =
      ⟨.ok receipt, [(idx, (call idx world).1)], (call idx world).2⟩ :=
    Attempts.run_cons_ok answer charged [] none
  have answered := attempt_result f call Charged.result req world _ _ alone
  rw [order, called] at answered
  refine ⟨((f.rails.get idx).charge req world).1, ?_, charged, ?_⟩
  · exact congrArg (·.calls.getLast?) answered
  · exact congrArg (·.result) answered

theorem Issued.charged {f : FailoverRail σ} {req : PayRequest} {world : σ} {idx : f.Idx}
    {receipt : Receipt} (issued : f.Issued req world idx receipt) :
    ∃ before, ((f.rails.get idx).charge req before).1.result = .ok receipt := by
  obtain ⟨answer, last, read, -⟩ := issued
  have trace := (attempt_follows_policy f (fun idx => f.rails[idx].charge req) Charged.result
    req world _ _ rfl).genuine
  obtain ⟨before, after, called⟩ := trace.called (List.mem_of_getLast? last)
  exact ⟨before, by rw [← read]; exact congrArg (·.1.result) called⟩

/-- `charge` returns every receipt to its issuer exactly when each wrapped rail puts
its own id on the receipts it issues and no earlier rail carries that id. -/
theorem issuer_answers_iff (rails : List (PaymentRail σ)) :
    (∀ policy allow req world, let f : FailoverRail σ := ⟨rails, policy, allow⟩
      ∀ idx receipt, f.Issued req world idx receipt → f.AnsweredBy receipt idx) ↔
    ∀ (idx : Fin rails.length) req world receipt,
      ((rails.get idx).charge req world).1.result = .ok receipt →
        receipt.railId = (rails.get idx).id ∧
          ∀ earlier < idx, (rails.get earlier).id ≠ (rails.get idx).id := by
  constructor
  · intro answers idx req world receipt charged
    let f : FailoverRail σ := ⟨rails, fun _ _ world => ([idx.val], world), false⟩
    have issued := issued_alone f req world idx rfl charged
    have answered := answers f.policy f.allowCrossClass req world idx receipt issued
    have found := (answeredBy_iff world f receipt idx).mp answered
    obtain ⟨named, first⟩ := issuerOf_spec found
    exact ⟨named.symm, fun earlier before same => first earlier before (same.trans named)⟩
  · intro distinct policy allow req world f idx receipt issued
    obtain ⟨before, charged⟩ := issued.charged
    obtain ⟨named, first⟩ := distinct idx req before receipt charged
    rw [answeredBy_iff world, issuerOf_eq_some_iff]
    exact ⟨named.symm, fun earlier lt same => first earlier lt (same.trans named)⟩

/-- A rail that charges, under an id others may share. -/
private def mock (id : String) (answer : Charged) : PaymentRail Unit where
  id := id
  capabilities := ⟨.nonCustodialFinal, false, false, false, ["USDC"], .seconds 5, false⟩
  quote _ _ := (.error (.rail "no quote"), ())
  charge _ _ := (answer, ())
  verify receipt _ := (.ok (decide (answer.result = .ok receipt)), ())
  refund _ _ := (.error (.unsupported "refund"), ())

/-- Two Solana rails in one chain: the first is down, the second charges, and the
first is asked about the second's receipt. -/
theorem second_issuer_not_asked :
    let down := mock "solana" ⟨.error (.rail "node unreachable"), false⟩
    let order : Str := ⟨"order-1", by decide⟩
    let receipt : Receipt := ⟨"solana", 5, "USDC", order, [1], 0⟩
    let f := FailoverRail.new [down, mock "solana" ⟨.ok receipt, true⟩]
    let second : f.Idx := ⟨1, by decide⟩
    f.Issued ⟨5, "USDC", order, order⟩ () second receipt ∧ ¬ f.AnsweredBy receipt second := by
  refine ⟨⟨⟨.ok _, true⟩, rfl, rfl, rfl⟩, ?_⟩
  intro answered
  have asked := (answered ()).1
  revert asked
  decide

end Patala.FailoverRail
