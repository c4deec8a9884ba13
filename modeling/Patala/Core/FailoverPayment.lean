import Mathlib.Data.Finset.Card
import Patala.Core.FailoverOrder

/-! How much money one failover charge can move. The loop goes on after any
error, and an error does not tell whether the rail moved money. -/

namespace Patala

namespace Charged

def failed (answer : Charged) : Bool :=
  match answer.result with
  | .ok _ => false
  | .error _ => true

/-- Money moved, and the caller was told the charge failed. -/
def ambiguous (answer : Charged) : Bool := answer.moved && answer.failed

theorem failed_of_error {answer : Charged} (read : answer.result = .error error) :
    answer.failed = true := by
  simp [failed, read]

end Charged

namespace FailoverRail

/-- The wrapped calls that moved money, in order. -/
def payments {f : FailoverRail σ} (done : f.Dispatch Charged α) : List (f.Idx × Charged) :=
  done.calls.filter (·.2.moved)

/-- The wrapped rails that moved money. -/
def paidRails {f : FailoverRail σ} (done : f.Dispatch Charged α) : Finset f.Idx :=
  ((payments done).map Prod.fst).toFinset

/-- The calls the loop went on from although money had moved. -/
def passedOver {f : FailoverRail σ} (done : f.Dispatch Charged α) : List (f.Idx × Charged) :=
  done.calls.dropLast.filter (·.2.ambiguous)

theorem paidRails_card_le {f : FailoverRail σ} (done : f.Dispatch Charged α) :
    (paidRails done).card ≤ (payments done).length := by
  have bound := List.toFinset_card_le ((payments done).map Prod.fst)
  simpa [paidRails] using bound

/-- Every payment was passed over as a failure, save one made by the last call. -/
theorem payments_eq {f : FailoverRail σ} (done : f.Dispatch Charged α)
    (stops : ∀ entry ∈ done.calls.dropLast, ∃ error, entry.2.result = .error error) :
    payments done = passedOver done ++ done.calls.getLast?.toList.filter (·.2.moved) := by
  have split : done.calls = done.calls.dropLast ++ done.calls.getLast?.toList := by
    cases calls : done.calls with
    | nil => rfl
    | cons first rest =>
      rw [List.getLast?_eq_some_getLast (List.cons_ne_nil first rest)]
      exact (List.dropLast_append_getLast (List.cons_ne_nil first rest)).symm
  have earlier : done.calls.dropLast.filter (·.2.moved) = passedOver done := by
    apply List.filter_congr
    intro entry member
    obtain ⟨error, read⟩ := stops entry member
    simp [Charged.ambiguous, Charged.failed_of_error read]
  calc payments done
      = (done.calls.dropLast ++ done.calls.getLast?.toList).filter (·.2.moved) := by
        rw [← split]
        rfl
    _ = passedOver done ++ done.calls.getLast?.toList.filter (·.2.moved) := by
        rw [List.filter_append, earlier]

/-- One charge moves money on at most one rail beyond those it went on from after
an ambiguous failure: on at most one when it went on from none. -/
theorem charge_paidRails (f : FailoverRail σ) (req : PayRequest) (world : σ) :
    let done := f.charge req world
    (paidRails done).card ≤ (passedOver done).length + 1 ∧
      payments done = passedOver done ++ done.calls.getLast?.toList.filter (·.2.moved) := by
  intro done
  have follows := attempt_follows_policy f (fun idx => f.rails[idx].charge req) Charged.result
    req world _ _ rfl
  have split := payments_eq done follows.stops
  have last : (done.calls.getLast?.toList.filter (·.2.moved)).length ≤ 1 :=
    (List.length_filter_le _ _).trans (by cases done.calls.getLast? <;> simp)
  refine ⟨?_, split⟩
  calc (paidRails done).card
      ≤ (payments done).length := paidRails_card_le done
    _ = (passedOver done).length + (done.calls.getLast?.toList.filter (·.2.moved)).length := by
        rw [split, List.length_append]
    _ ≤ (passedOver done).length + 1 := Nat.add_le_add_left last _

/-- A rail of one class that answers every charge the same way. -/
private def answering (answer : Charged) : PaymentRail Unit where
  id := "mock"
  capabilities := ⟨.nonCustodialFinal, false, false, false, ["USDC"], .seconds 5, false⟩
  quote _ _ := (.error (.rail "no quote"), ())
  charge _ _ := (answer, ())
  verify _ _ := (.ok false, ())
  refund _ _ := (.error (.unsupported "refund"), ())

private def order : Str := ⟨"order-1", by decide⟩

/-- The first rail submits and loses the reply, so the second one is charged too. -/
theorem lost_reply_pays_twice :
    let lost := answering ⟨.error (.rail "reply lost"), true⟩
    let settled := answering ⟨.ok ⟨"mock", 5, "USDC", order, [], 0⟩, true⟩
    ¬ (paidRails ((FailoverRail.new [lost, settled]).charge ⟨5, "USDC", order, order⟩ ())).card
      ≤ 1 := by
  decide

end FailoverRail
end Patala
