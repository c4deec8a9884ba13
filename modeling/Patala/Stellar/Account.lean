import Patala.Stellar.Recurring

/-! The network's side of a recurring plan: an account with its sequence number, which
executes a submitted transaction or leaves everything as it was. -/

namespace Patala.Stellar

open Machine

/-- A source account on the ledger: its sequence number, and when that last changed. -/
structure Account where
  seqNum : Int64
  seqTime : UInt64
  seqLedger : UInt32
deriving DecidableEq

structure Submission where
  tx : Transaction
  time : UInt64
  ledger : UInt32
deriving DecidableEq

/-- A bump raises the sequence number; no other operation touches it. -/
def bumped (seqNum : Int64) (op : Operation) : Int64 :=
  match op.body with
  | .bumpSequence bumpTo => if seqNum < bumpTo then bumpTo else seqNum
  | _ => seqNum

namespace Account

/-- Without preconditions a transaction needs to be next in sequence; the oracle decides
about all others. -/
def admits (account : Account) (item : Submission) : Bool :=
  match item.tx.cond with
  | .none => account.seqNum = item.tx.seqNum - 1
  | cond => wouldBeValid cond item.tx.seqNum account.seqNum account.seqTime account.seqLedger
      item.time item.ledger

def submit (account : Account) (item : Submission) : Option Account :=
  if account.admits item then
    some ⟨item.tx.operations.val.foldl bumped item.tx.seqNum, item.time, item.ledger⟩
  else none

end Account

section Facts

variable {plan : RecurringPlan} {account next : Account} {item : Submission}

theorem InstalmentOf.submit_eq {index : UInt32} (instalment : InstalmentOf plan index item.tx) :
    account.submit item =
      if wouldBeValid item.tx.cond item.tx.seqNum account.seqNum account.seqTime account.seqLedger
          item.time item.ledger then some ⟨item.tx.seqNum, item.time, item.ledger⟩
      else none := by
  have admitted : account.admits item = wouldBeValid item.tx.cond item.tx.seqNum account.seqNum
      account.seqTime account.seqLedger item.time item.ledger := by
    unfold Account.admits
    rw [instalment.cond]
    rfl
  rw [Account.submit, admitted, instalment.operations]
  rfl

/-- What the oracle asks of an instalment: it is next in sequence, and its age and
gap have passed since the sequence last changed. -/
theorem InstalmentOf.wouldBeValid_iff {index : UInt32} {tx : Transaction} {time : UInt64}
    {ledger : UInt32} (instalment : InstalmentOf plan index tx) :
    wouldBeValid tx.cond tx.seqNum account.seqNum account.seqTime account.seqLedger time ledger =
        true ↔
      tx.seqNum.toInt = account.seqNum.toInt + 1 ∧
      saturatingAdd64 account.seqTime (if index = 1 then 0 else plan.minSeqAgeStepSeconds) ≤ time ∧
      saturatingAdd32 account.seqLedger (if index = 1 then 0 else plan.minSeqLedgerGapStep) ≤
        ledger := by
  have lower := plan.baseSeq.le_toInt
  have first := instalment.first
  have above : -2 ^ 63 < tx.seqNum.toInt := by
    rw [instalment.seqNum]
    omega
  have predecessor : account.seqNum = tx.seqNum - 1 ↔
      tx.seqNum.toInt = account.seqNum.toInt + 1 := by
    rw [← Int64.toInt_inj, toInt_sub_one above]
    omega
  rw [instalment.cond]
  simp only [wouldBeValid, RecurringPlan.instalmentCond, Bool.and_eq_true, decide_eq_true_eq,
    predecessor, and_assoc]

theorem InstalmentOf.executed {index : UInt32} (instalment : InstalmentOf plan index item.tx)
    (executed : account.submit item = some next) :
    item.tx.seqNum.toInt = account.seqNum.toInt + 1 ∧
      saturatingAdd64 account.seqTime (if index = 1 then 0 else plan.minSeqAgeStepSeconds) ≤
        item.time ∧
      saturatingAdd32 account.seqLedger (if index = 1 then 0 else plan.minSeqLedgerGapStep) ≤
        item.ledger ∧
      next = ⟨item.tx.seqNum, item.time, item.ledger⟩ := by
  rw [instalment.submit_eq] at executed
  split at executed
  · rename_i valid
    obtain ⟨sequence, age, gap⟩ := instalment.wouldBeValid_iff.mp valid
    exact ⟨sequence, age, gap, (Option.some.inj executed).symm⟩
  · cases executed

theorem CancellationOf.executed {currentSeq : Int64}
    (cancellation : CancellationOf plan currentSeq item.tx)
    (executed : account.submit item = some next) :
    account.seqNum = currentSeq ∧
      next.seqNum.toInt = max (currentSeq.toInt + 1) (plan.baseSeq.toInt + plan.count.toNat) := by
  obtain ⟨sequence, cond, bumpTo, operations, last⟩ := cancellation
  have lower := currentSeq.le_toInt
  have above : -2 ^ 63 < item.tx.seqNum.toInt := by omega
  unfold Account.submit at executed
  split at executed
  · rename_i admitted
    have same := Option.some.inj executed
    subst next
    have here : account.seqNum = item.tx.seqNum - 1 := by
      simpa [Account.admits, cond] using admitted
    have current : account.seqNum.toInt = currentSeq.toInt := by
      rw [here, toInt_sub_one above, sequence]
      omega
    refine ⟨Int64.toInt_inj.mp current, ?_⟩
    rw [operations, List.foldl_cons, List.foldl_nil, ← sequence, ← last]
    by_cases behind : item.tx.seqNum < bumpTo
    · have less := Int64.lt_iff_toInt_lt.mp behind
      simp only [bumped, if_pos behind]
      exact (max_eq_right less.le).symm
    · have notLess := fun less => behind (Int64.lt_iff_toInt_lt.mpr less)
      simp only [bumped, if_neg behind]
      exact (max_eq_left (not_lt.mp notLess)).symm
  · cases executed

end Facts

end Patala.Stellar
