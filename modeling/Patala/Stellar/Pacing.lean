import Mathlib.Data.List.Chain
import Patala.Lib.Fallible
import Patala.Stellar.Account
import Patala.Stellar.Instance

/-! However its instalments are submitted, a plan pays them out in order, once each, and
no faster than its steps. -/

namespace Patala.Stellar

open Machine Fallible Submissions

section Plan

variable {crates : Crates} {plan : RecurringPlan} {txs : List Transaction}

/-- A plan's transactions are its instalments `1..=count`, in order. -/
theorem RecurringPlan.buildAllInstalments_ok
    (built : plan.buildAllInstalments crates = .ok txs) :
    txs.length = plan.count.toNat ∧
      ∀ (i : Nat) (inside : i < txs.length), ∃ index : UInt32, index.toNat = i + 1 ∧
        InstalmentOf plan index txs[i] := by
  have each : plan.indices.mapM (plan.buildInstalment crates) = .ok txs := by
    unfold buildAllInstalments at built
    split at built
    · cases built
    · exact built
  obtain ⟨lengths, answers⟩ := List.forall₂_iff_get.mp (mapM_eq_ok.mp each)
  have counted : txs.length = plan.count.toNat := by
    rw [← lengths]
    simp [indices]
  refine ⟨counted, ?_⟩
  intro i inside
  have small := plan.count.toNat_lt
  have listed : i < plan.indices.length := by
    rw [lengths]
    exact inside
  refine ⟨UInt32.ofNat (i + 1), UInt32.toNat_ofNat_of_lt' (by rw [UInt32.size]; omega), ?_⟩
  have success : plan.buildInstalment crates (UInt32.ofNat (i + 1)) = .ok txs[i] := by
    simpa [indices] using answers i listed inside
  exact buildInstalment_ok success

end Plan

/-- Two executions are at least a step apart, in seconds and in ledgers. -/
def Spaced (plan : RecurringPlan) (earlier later : Submission) : Prop :=
  earlier.time.toNat + plan.minSeqAgeStepSeconds.toNat ≤ later.time.toNat ∧
    earlier.ledger.toNat + plan.minSeqLedgerGapStep.toNat ≤ later.ledger.toNat

/-- Adding a step to the submission's time or ledger does not saturate. -/
def Unsaturated (plan : RecurringPlan) (item : Submission) : Prop :=
  item.time.toNat + plan.minSeqAgeStepSeconds.toNat < 2 ^ 64 ∧
    item.ledger.toNat + plan.minSeqLedgerGapStep.toNat < 2 ^ 32

/-- What holds throughout a run: the executed submissions are the first instalments, a
step apart, and the account stands where the last of them left it. -/
structure Paced (plan : RecurringPlan) (txs : List Transaction) (executed : List Submission)
    (account : Account) : Prop where
  inOrder : executed.map Submission.tx = txs.take executed.length
  bounded : executed.length ≤ txs.length
  seqNum : account.seqNum.toInt = plan.baseSeq.toInt + executed.length
  last : ∀ item ∈ executed.getLast?, account.seqTime = item.time ∧
    account.seqLedger = item.ledger ∧ Unsaturated plan item
  spaced : executed.IsChain (Spaced plan)

section Runs

variable {crates : Crates} {plan : RecurringPlan} {txs : List Transaction}

theorem Paced.initial {account : Account} (starts : account.seqNum = plan.baseSeq) :
    Paced plan txs [] account := by
  refine ⟨rfl, Nat.zero_le _, ?_, by simp, List.IsChain.nil⟩
  rw [starts]
  simp

/-- The instalment that executes is the next one. -/
theorem Paced.next_index {executed : List Submission} {account : Account}
    (built : plan.buildAllInstalments crates = .ok txs) (paced : Paced plan txs executed account)
    {item : Submission} (fromPlan : item.tx ∈ txs) {next : Account}
    (accepted : account.submit item = some next) :
    ∃ inside : executed.length < txs.length, item.tx = txs[executed.length] ∧
      ∃ index : UInt32, index.toNat = executed.length + 1 ∧ InstalmentOf plan index item.tx := by
  obtain ⟨-, instalments⟩ := RecurringPlan.buildAllInstalments_ok built
  obtain ⟨i, inside, same⟩ := List.getElem_of_mem fromPlan
  obtain ⟨index, position, instalment⟩ := instalments i inside
  rw [same] at instalment
  obtain ⟨sequence, -, -, -⟩ := instalment.executed accepted
  have here : i = executed.length := by
    have numbers := instalment.seqNum
    rw [paced.seqNum] at sequence
    omega
  subst i
  exact ⟨inside, same.symm, index, position, instalment⟩

/-- The step: an accepted submission keeps the run paced. -/
theorem Paced.step {executed : List Submission} {account : Account}
    (built : plan.buildAllInstalments crates = .ok txs) (paced : Paced plan txs executed account)
    {item : Submission} (fromPlan : item.tx ∈ txs) (unsaturated : Unsaturated plan item)
    {next : Account} (accepted : account.submit item = some next) :
    Paced plan txs (executed ++ [item]) next := by
  obtain ⟨inside, same, index, position, instalment⟩ := paced.next_index built fromPlan accepted
  obtain ⟨sequence, age, gap, standing⟩ := instalment.executed accepted
  subst next
  have spaced : ∀ earlier ∈ executed.getLast?, ∀ later ∈ [item].head?, Spaced plan earlier later := by
    intro earlier isLast later isItem
    have here : item = later := Option.some.inj isItem
    subst later
    obtain ⟨time, ledger, fits⟩ := paced.last earlier isLast
    -- An earlier execution means that this is not the first instalment.
    have notFirst : index ≠ 1 := by
      intro first
      have nonempty := List.length_pos_of_mem (List.mem_of_getLast? isLast)
      rw [first] at position
      have one : (1 : UInt32).toNat = 1 := rfl
      omega
    rw [if_neg notFirst, UInt64.le_iff_toNat_le, toNat_saturatingAdd64, time] at age
    rw [if_neg notFirst, UInt32.le_iff_toNat_le, toNat_saturatingAdd32, ledger] at gap
    obtain ⟨timeFits, ledgerFits⟩ := fits
    constructor <;> omega
  refine ⟨?_, ?_, ?_, ?_, ?_⟩
  · rw [List.map_append, paced.inOrder, List.length_append, List.map_singleton,
      List.length_singleton, same, List.take_append_getElem inside]
  · rw [List.length_append, List.length_singleton]
    exact inside
  · rw [instalment.seqNum, position, List.length_append, List.length_singleton]
  · intro last isLast
    have here : item = last := by simpa using isLast
    subst last
    exact ⟨rfl, rfl, unsaturated⟩
  · exact paced.spaced.append (List.IsChain.singleton item) spaced

theorem Paced.run {items : List Submission} {account : Account}
    (built : plan.buildAllInstalments crates = .ok txs) (starts : account.seqNum = plan.baseSeq)
    (fromPlan : ∀ item ∈ items, item.tx ∈ txs)
    (unsaturated : ∀ item ∈ items, Unsaturated plan item) :
    Paced plan txs (run Account.submit account items).1 (run Account.submit account items).2 := by
  apply run_invariant (Paced plan txs) items ?_ (Paced.initial starts)
  intro executed account item next member paced accepted
  exact paced.step built (fromPlan item member) (unsaturated item member) accepted

/-- The instalments of a plan are pairwise different. -/
theorem RecurringPlan.nodup_of_buildAllInstalments
    (built : plan.buildAllInstalments crates = .ok txs) : txs.Nodup := by
  obtain ⟨-, instalments⟩ := buildAllInstalments_ok built
  apply List.nodup_iff_getElem?_ne_getElem?.mpr
  intro i j before inside same
  obtain ⟨index, position, instalment⟩ := instalments i (before.trans inside)
  obtain ⟨index', position', instalment'⟩ := instalments j inside
  rw [List.getElem?_eq_getElem (before.trans inside), List.getElem?_eq_getElem inside] at same
  have numbers := instalment.seqNum
  rw [Option.some.inj same, instalment'.seqNum] at numbers
  omega

theorem RecurringPlan.totalPaid_instalment (built : plan.buildAllInstalments crates = .ok txs)
    {tx : Transaction} (fromPlan : tx ∈ txs) : totalPaid tx = plan.amount.toInt := by
  obtain ⟨-, instalments⟩ := buildAllInstalments_ok built
  obtain ⟨i, inside, same⟩ := List.getElem_of_mem fromPlan
  obtain ⟨index, -, instalment⟩ := instalments i inside
  rw [same] at instalment
  simp [totalPaid, instalment.operations, opAmount]

/-- Whatever is submitted, as often and in whatever order: what executes is the first
instalments in order, each once, a step apart, and pays their amount each. -/
theorem instalments_paced (plan : RecurringPlan)
    (built : plan.buildAllInstalments crates = .ok txs) (account : Account)
    (starts : account.seqNum = plan.baseSeq) (items : List Submission)
    (fromPlan : ∀ item ∈ items, item.tx ∈ txs)
    (unsaturated : ∀ item ∈ items, Unsaturated plan item) :
    ∃ executed k, executed = (run Account.submit account items).1 ∧ k ≤ plan.count.toNat ∧
      executed.map Submission.tx = txs.take k ∧ (executed.map Submission.tx).Nodup ∧
      executed.IsChain (Spaced plan) ∧
      (executed.map fun item => totalPaid item.tx).sum = k * plan.amount.toInt := by
  have paced := Paced.run built starts fromPlan unsaturated
  obtain ⟨counted, -⟩ := RecurringPlan.buildAllInstalments_ok built
  refine ⟨_, (run Account.submit account items).1.length, rfl, ?_, paced.inOrder, ?_, paced.spaced,
    ?_⟩
  · rw [← counted]
    exact paced.bounded
  · rw [paced.inOrder]
    exact (RecurringPlan.nodup_of_buildAllInstalments built).sublist (List.take_sublist _ _)
  · have each : ∀ item ∈ (run Account.submit account items).1,
        totalPaid item.tx = plan.amount.toInt := by
      intro item member
      apply RecurringPlan.totalPaid_instalment built
      apply List.mem_of_mem_take (i := (run Account.submit account items).1.length)
      rw [← paced.inOrder]
      exact List.mem_map_of_mem member
    rw [List.map_congr_left each, List.map_const', List.sum_replicate, nsmul_eq_mul]

end Runs

section Monthly

open Instance

/-- Three monthly payments from the wallet to the shop. -/
def monthlyPlan : RecurringPlan where
  sourcePk := wallet
  destPk := shop
  asset := usdc issuer
  amount := 12500000
  baseSeq := 100
  count := 3
  baseFeeStroops := 100
  minSeqAgeStepSeconds := 2592000
  minSeqLedgerGapStep := 1
  railId := railId
  sourceStrkey := walletStr
  destStrkey := shopStr
  reference := invoice7

def monthlyInstalments : List Transaction :=
  [(101, instalmentMemo1, 1), (102, instalmentMemo2, 2), (103, instalmentMemo3, 3)].map
    fun (seqNum, memo, index) => buildTransactionWithPreconditions wallet shop (usdc issuer)
      12500000 seqNum 100 memo (monthlyPlan.instalmentCond index)

/-- The second instalment too early, the first twice, then the second and the third. -/
def monthlySubmissions : List Submission :=
  [(1, 1700000000, 50), (0, 1700000000, 50), (0, 1700000005, 51), (1, 1700086400, 60),
    (1, 1702592000, 70), (2, 1705184000, 80)].map
    fun (i, time, ledger) => ⟨monthlyInstalments.getD i (splitTx 200), time, ledger⟩

theorem monthlyPlan_paced :
    (run Account.submit ⟨100, 1699999000, 40⟩ monthlySubmissions).1.length = 3 ∧
    ∃ executed k,
      executed = (run Account.submit ⟨100, 1699999000, 40⟩ monthlySubmissions).1 ∧
      k ≤ monthlyPlan.count.toNat ∧
      executed.map Submission.tx = monthlyInstalments.take k ∧
      (executed.map Submission.tx).Nodup ∧ executed.IsChain (Spaced monthlyPlan) ∧
      (executed.map fun item => totalPaid item.tx).sum = k * monthlyPlan.amount.toInt := by
  have built : monthlyPlan.buildAllInstalments Instance.crates = .ok monthlyInstalments := by
    decide +kernel
  have fromPlan : ∀ item ∈ monthlySubmissions, item.tx ∈ monthlyInstalments := by decide
  have unsaturated : ∀ item ∈ monthlySubmissions, Unsaturated monthlyPlan item := by
    unfold Unsaturated
    decide
  exact ⟨by decide, instalments_paced monthlyPlan built ⟨100, 1699999000, 40⟩ rfl
    monthlySubmissions fromPlan unsaturated⟩

end Monthly

end Patala.Stellar
