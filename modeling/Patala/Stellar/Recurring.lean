import Patala.Lib.Submissions
import Patala.Stellar.TxFacts

/-! Recurring plans: every instalment is a transaction of its own, signed in advance and
held back by its preconditions; a cancellation bumps the sequence past them all. -/

namespace Patala.Stellar

open Machine

/-- An obviously absurd number of instalments is refused above this. -/
def maxInstalments : UInt32 := 3650

structure RecurringPlan where
  sourcePk : PubKey
  destPk : PubKey
  asset : Asset
  amount : Int64
  baseSeq : Int64
  count : UInt32
  baseFeeStroops : UInt32
  minSeqAgeStepSeconds : UInt64
  minSeqLedgerGapStep : UInt32
  railId : Str
  sourceStrkey : Str
  destStrkey : Str
  reference : Str
deriving DecidableEq

/-- `i64::from` on a `u32`. -/
def i64FromU32 (value : UInt32) : Int64 := Int64.ofInt value.toNat

namespace RecurringPlan

variable (crates : Crates) (plan : RecurringPlan)

def validateShape : Except StellarError Unit :=
  let count := plan.count
  let amount := plan.amount.toInt
  if count = 0 then .error (.config "a recurring plan needs at least one instalment")
  else if maxInstalments < count then .error (.config
    (s!"{count} instalments exceeds this crate's sanity cap of {maxInstalments} " ++
      "(not a protocol limit — raise MAX_INSTALMENTS if you genuinely need more)"))
  else if amount ≤ 0 then .error (.config
    s!"instalment amount must be strictly positive, got {amount}")
  else .ok ()

/-- The instalment's preconditions: only the first has no predecessor to wait for. -/
def instalmentCond (index : UInt32) : Preconditions :=
  let age := if index = 1 then 0 else plan.minSeqAgeStepSeconds
  let gap := if index = 1 then 0 else plan.minSeqLedgerGapStep
  .v2 ⟨none, none, none, age, gap, ⟨[], by simp⟩⟩

/-- The unsigned transaction of one instalment, counted from one. -/
def buildInstalment (index : UInt32) : Except StellarError Transaction :=
  let count := plan.count
  let baseSeq := plan.baseSeq.toInt
  match plan.validateShape with
  | .error error => .error error
  | .ok _ =>
    if index = 0 ∨ plan.count < index then .error (.config
      s!"instalment {index} is out of range for a {count}-instalment plan")
    else
      match checkedAdd plan.baseSeq (i64FromU32 index) with
      | none => .error (.config s!"base_seq {baseSeq} + instalment {index} overflows i64")
      | some seqNum =>
        let memo := recurringMemoHash crates plan.railId plan.sourceStrkey plan.destStrkey
          plan.reference plan.baseSeq index plan.count
        .ok (buildTransactionWithPreconditions plan.sourcePk plan.destPk plan.asset plan.amount
          seqNum plan.baseFeeStroops memo (plan.instalmentCond index))

/-- The instalments `1..=count`. -/
def indices : List UInt32 := (List.range plan.count.toNat).map fun i => UInt32.ofNat (i + 1)

/-- Every instalment in order, or the first refusal. -/
def buildAllInstalments : Except StellarError (List Transaction) :=
  match plan.validateShape with
  | .error error => .error error
  | .ok _ => plan.indices.mapM (plan.buildInstalment crates)

/-- The unsigned cancellation for an account at sequence `currentSeq`. -/
def buildCancelTransaction (currentSeq : Int64) (fee : UInt32) :
    Except StellarError Transaction :=
  let count := plan.count
  let baseSeq := plan.baseSeq.toInt
  match plan.validateShape with
  | .error error => .error error
  | .ok _ =>
    match checkedAdd plan.baseSeq (i64FromU32 plan.count) with
    | none => .error (.config s!"base_seq {baseSeq} + count {count} overflows i64")
    | some bumpTo =>
      match checkedAdd currentSeq 1 with
      | none => .error (.config "current_seq + 1 overflows i64")
      | some cancelSeqNum =>
        let memo := cancelMemoHash crates plan.railId plan.sourceStrkey plan.reference plan.baseSeq
        .ok (buildBumpSequenceTransaction plan.sourcePk cancelSeqNum fee bumpTo memo)

end RecurringPlan

/-- May a transaction under these preconditions execute on an account in this state, in
a ledger closing now? Only the preconditions of instalments are in scope. -/
def wouldBeValid (cond : Preconditions) (txSeqNum accountSeq : Int64) (accountSeqTime : UInt64)
    (accountSeqLedger : UInt32) (nowTime : UInt64) (nowLedger : UInt32) : Bool :=
  match cond with
  | .v2 v2 =>
    let seqOk : Bool := match v2.minSeqNum with
      | some least => least ≤ accountSeq && accountSeq < txSeqNum
      | none => accountSeq = txSeqNum - 1
    let ageOk : Bool := saturatingAdd64 accountSeqTime v2.minSeqAge ≤ nowTime
    let gapOk : Bool := saturatingAdd32 accountSeqLedger v2.minSeqLedgerGap ≤ nowLedger
    seqOk && ageOk && gapOk
  | _ => false

section Facts

variable {crates : Crates} {plan : RecurringPlan}

theorem toInt_i64FromU32 (value : UInt32) : (i64FromU32 value).toInt = value.toNat := by
  have small := value.toNat_lt
  exact Int64.toInt_ofInt_of_le (by omega) (by omega)

theorem RecurringPlan.validateShape_ok_iff :
    plan.validateShape = .ok () ↔
      plan.count ≠ 0 ∧ plan.count ≤ maxInstalments ∧ 0 < plan.amount.toInt := by
  unfold validateShape
  by_cases empty : plan.count = 0
  · simp [empty]
  · by_cases long : maxInstalments < plan.count
    · simp [empty, long]
    · by_cases positive : 0 < plan.amount.toInt
      · simp [empty, long, positive, not_le.mpr positive, UInt32.not_lt.mp long]
      · simp [empty, long, positive, not_lt.mp positive]

/-- An instalment: one payment of the plan's amount, `index` after the base sequence. -/
structure InstalmentOf (plan : RecurringPlan) (index : UInt32) (tx : Transaction) : Prop where
  first : 0 < index.toNat
  last : index.toNat ≤ plan.count.toNat
  seqNum : tx.seqNum.toInt = plan.baseSeq.toInt + index.toNat
  cond : tx.cond = plan.instalmentCond index
  operations : tx.operations.val =
    [⟨none, .payment ⟨.ed25519 plan.destPk, plan.asset, plan.amount⟩⟩]

theorem RecurringPlan.buildInstalment_ok {index : UInt32} {tx : Transaction}
    (success : plan.buildInstalment crates index = .ok tx) : InstalmentOf plan index tx := by
  unfold buildInstalment at success
  dsimp only at success
  split at success
  · cases success
  split at success
  · cases success
  rename_i inRange
  split at success
  · cases success
  rename_i seqNum added
  have same := Except.ok.inj success
  subst tx
  obtain ⟨nonzero, bounded⟩ := not_or.mp inRange
  refine ⟨?_, UInt32.le_iff_toNat_le.mp (UInt32.not_lt.mp bounded), ?_, rfl, rfl⟩
  · apply Nat.pos_of_ne_zero
    intro zero
    exact nonzero (UInt32.toNat_inj.mp zero)
  · rw [← toInt_i64FromU32]
    exact checkedAdd_eq_some.mp added

/-- A cancellation: one bump of the sequence to the plan's last, next in sequence. -/
structure CancellationOf (plan : RecurringPlan) (currentSeq : Int64) (tx : Transaction) : Prop where
  seqNum : tx.seqNum.toInt = currentSeq.toInt + 1
  cond : tx.cond = .none
  operations : ∃ bumpTo : Int64, tx.operations.val = [⟨none, .bumpSequence bumpTo⟩] ∧
    bumpTo.toInt = plan.baseSeq.toInt + plan.count.toNat

theorem RecurringPlan.buildCancelTransaction_ok {currentSeq : Int64} {fee : UInt32}
    {tx : Transaction} (success : plan.buildCancelTransaction crates currentSeq fee = .ok tx) :
    CancellationOf plan currentSeq tx := by
  unfold buildCancelTransaction at success
  dsimp only at success
  split at success
  · cases success
  split at success
  · cases success
  rename_i bumpTo added
  split at success
  · cases success
  rename_i cancelSeqNum next
  have same := Except.ok.inj success
  subst tx
  refine ⟨checkedAdd_eq_some.mp next, rfl, bumpTo, rfl, ?_⟩
  rw [← toInt_i64FromU32]
  exact checkedAdd_eq_some.mp added

end Facts

end Patala.Stellar
