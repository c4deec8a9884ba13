import Patala.Stellar.Pacing

/-! A cancellation is final: once it has executed, no instalment of its plan ever does,
and it shares its sequence number with at most one executed transaction. -/

namespace Patala.Stellar

open Machine Submissions

section

variable {crates : Crates} {plan : RecurringPlan} {currentSeq : Int64} {fee : UInt32}
  {cancel : Transaction}

def OfPlan (crates : Crates) (plan : RecurringPlan) (cancel : Transaction) (item : Submission) :
    Prop :=
  item.tx = cancel ∨ ∃ index, plan.buildInstalment crates index = .ok item.tx

theorem OfPlan.advances (built : plan.buildCancelTransaction crates currentSeq fee = .ok cancel)
    {item : Submission} (ofPlan : OfPlan crates plan cancel item) {account next : Account}
    (executed : account.submit item = some next) :
    item.tx.seqNum.toInt = account.seqNum.toInt + 1 ∧
      item.tx.seqNum.toInt ≤ next.seqNum.toInt := by
  rcases ofPlan with isCancel | ⟨index, success⟩
  · have cancellation := RecurringPlan.buildCancelTransaction_ok built
    rw [← isCancel] at cancellation
    obtain ⟨standing, reached⟩ := cancellation.executed executed
    rw [standing, reached]
    exact ⟨cancellation.seqNum, by rw [cancellation.seqNum]; exact le_max_left _ _⟩
  · have instalment := RecurringPlan.buildInstalment_ok success
    obtain ⟨sequence, -, -, standing⟩ := instalment.executed executed
    subst next
    exact ⟨sequence, le_refl _⟩

/-- Past the plan's last sequence number no instalment is valid, at any time. -/
theorem InstalmentOf.invalid_past {index : UInt32} {tx : Transaction}
    (instalment : InstalmentOf plan index tx) {account : Account}
    (past : plan.baseSeq.toInt + plan.count.toNat ≤ account.seqNum.toInt) (time : UInt64)
    (ledger : UInt32) :
    wouldBeValid tx.cond tx.seqNum account.seqNum account.seqTime account.seqLedger time ledger =
      false := by
  apply Bool.eq_false_iff.mpr
  intro valid
  obtain ⟨sequence, -, -⟩ := instalment.wouldBeValid_iff.mp valid
  have numbers := instalment.seqNum
  have last := instalment.last
  omega

theorem run_past (built : plan.buildCancelTransaction crates currentSeq fee = .ok cancel)
    {account : Account} (past : plan.baseSeq.toInt + plan.count.toNat ≤ account.seqNum.toInt)
    {items : List Submission} (ofPlan : ∀ item ∈ items, OfPlan crates plan cancel item) :
    ∀ item ∈ (run Account.submit account items).1,
      ¬ ∃ index, plan.buildInstalment crates index = .ok item.tx := by
  apply run_excludes
    (fun account => plan.baseSeq.toInt + plan.count.toNat ≤ account.seqNum.toInt) _ items ?_ past
  intro account item next member past executed
  obtain ⟨sequence, forward⟩ := (ofPlan item member).advances built executed
  refine ⟨by omega, ?_⟩
  rintro ⟨index, success⟩
  have instalment := RecurringPlan.buildInstalment_ok success
  have refused := instalment.invalid_past past item.time item.ledger
  rw [instalment.submit_eq, refused] at executed
  cases executed

def carrying (seqNum : Int64) (executed : List Submission) : List Submission :=
  executed.filter fun item => item.tx.seqNum = seqNum

/-- Every sequence number is used at most once. -/
theorem carrying_le_one (built : plan.buildCancelTransaction crates currentSeq fee = .ok cancel)
    (seqNum : Int64) (account : Account) {items : List Submission}
    (ofPlan : ∀ item ∈ items, OfPlan crates plan cancel item) :
    (carrying seqNum (run Account.submit account items).1).length ≤ 1 := by
  -- A number that has been used lies behind the account for good.
  refine (run_invariant (fun executed account => (carrying seqNum executed).length ≤ 1 ∧
    (carrying seqNum executed ≠ [] → seqNum.toInt ≤ account.seqNum.toInt)) items ?_
    ⟨Nat.zero_le _, fun used => absurd rfl used⟩).1
  intro executed account item next member ⟨once, behind⟩ accepted
  obtain ⟨sequence, forward⟩ := (ofPlan item member).advances built accepted
  by_cases same : item.tx.seqNum = seqNum
  · have unused : carrying seqNum executed = [] := by
      by_contra used
      have reached := behind used
      rw [same] at sequence
      omega
    have now : carrying seqNum (executed ++ [item]) = [item] := by
      unfold carrying at unused ⊢
      rw [List.filter_append, unused]
      simp [same]
    rw [now]
    refine ⟨le_refl 1, ?_⟩
    intro _
    rw [← same]
    exact forward
  · have unchanged : carrying seqNum (executed ++ [item]) = carrying seqNum executed := by
      simp [carrying, List.filter_append, same]
    rw [unchanged]
    refine ⟨once, ?_⟩
    intro used
    have reached := behind used
    omega

/-- Once a cancellation has executed, no instalment is valid on any account that has not
gone back, none executes in any run, and whatever raced with the cancellation for its
sequence number has lost or won alone. -/
theorem cancellation_final (plan : RecurringPlan) (currentSeq : Int64) (fee : UInt32)
    (built : plan.buildCancelTransaction crates currentSeq fee = .ok cancel) :
    (∀ (account next : Account) (time : UInt64) (ledger : UInt32),
      account.submit ⟨cancel, time, ledger⟩ = some next →
      next.seqNum.toInt = max (currentSeq.toInt + 1) (plan.baseSeq.toInt + plan.count.toNat) ∧
      (∀ later : Account, next.seqNum ≤ later.seqNum → ∀ index tx,
        plan.buildInstalment crates index = .ok tx → ∀ nowTime nowLedger,
        wouldBeValid tx.cond tx.seqNum later.seqNum later.seqTime later.seqLedger nowTime
          nowLedger = false) ∧
      ∀ items : List Submission, (∀ item ∈ items, OfPlan crates plan cancel item) →
        ∀ item ∈ (run Account.submit next items).1,
          ¬ ∃ index, plan.buildInstalment crates index = .ok item.tx) ∧
    ∀ (account : Account) (items : List Submission),
      (∀ item ∈ items, OfPlan crates plan cancel item) →
      (carrying cancel.seqNum (run Account.submit account items).1).length ≤ 1 := by
  constructor
  · intro account next time ledger executed
    have cancellation : CancellationOf plan currentSeq (⟨cancel, time, ledger⟩ : Submission).tx :=
      RecurringPlan.buildCancelTransaction_ok built
    obtain ⟨-, reached⟩ := cancellation.executed executed
    have past : plan.baseSeq.toInt + plan.count.toNat ≤ next.seqNum.toInt := by
      rw [reached]
      exact le_max_right _ _
    refine ⟨reached, ?_, ?_⟩
    · intro later notBack index tx success nowTime nowLedger
      have instalment := RecurringPlan.buildInstalment_ok success
      have stillPast := past.trans (Int64.le_iff_toInt_le.mp notBack)
      exact instalment.invalid_past stillPast nowTime nowLedger
    · intro items ofPlan
      exact run_past built past ofPlan
  · intro account items ofPlan
    exact carrying_le_one built cancel.seqNum account ofPlan

end

section Monthly

open Instance

def monthlyCancellation : Submission :=
  ⟨buildBumpSequenceTransaction wallet 102 100 103 cancelMemo, 1702592000, 70⟩

theorem monthlyPlan_cancelled :
    (⟨101, 1700000000, 50⟩ : Account).submit monthlyCancellation = some ⟨103, 1702592000, 70⟩ ∧
    (∀ item ∈ (run Account.submit ⟨103, 1702592000, 70⟩ monthlySubmissions).1,
      ¬ ∃ index, monthlyPlan.buildInstalment Instance.crates index = .ok item.tx) ∧
    (carrying 102 (run Account.submit ⟨101, 1700000000, 50⟩
      (monthlyCancellation :: monthlySubmissions)).1).length ≤ 1 := by
  have built : monthlyPlan.buildCancelTransaction Instance.crates 101 100 =
      .ok monthlyCancellation.tx := by decide
  have executed : (⟨101, 1700000000, 50⟩ : Account).submit monthlyCancellation =
      some ⟨103, 1702592000, 70⟩ := by decide
  have listed : ∀ item ∈ monthlySubmissions, ∃ index ∈ monthlyPlan.indices,
      monthlyPlan.buildInstalment Instance.crates index = .ok item.tx := by decide +kernel
  have ofPlan : ∀ item ∈ monthlyCancellation :: monthlySubmissions,
      OfPlan Instance.crates monthlyPlan monthlyCancellation.tx item := by
    intro item member
    rcases List.mem_cons.mp member with same | later
    · rw [same]
      exact .inl rfl
    · obtain ⟨index, -, success⟩ := listed item later
      exact .inr ⟨index, success⟩
  obtain ⟨final, once⟩ := cancellation_final monthlyPlan 101 100 built
  obtain ⟨-, -, never⟩ := final _ _ _ _ executed
  exact ⟨executed, never monthlySubmissions fun item member => ofPlan item (.tail _ member),
    once _ _ ofPlan⟩

end Monthly

end Patala.Stellar
