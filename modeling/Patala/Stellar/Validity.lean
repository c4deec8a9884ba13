import Patala.Stellar.Recurring

/-! The oracle of the preconditions beside the rule it stands for, in integers without a bound.
The two differ at the ends of the machine's numbers only. -/

namespace Patala.Stellar

open Machine

/-- A transaction under preconditions, the state of its account, and the ledger that closes. -/
structure ValidityCheck where
  cond : PreconditionsV2
  txSeqNum : Int64
  accountSeq : Int64
  accountSeqTime : UInt64
  accountSeqLedger : UInt32
  nowTime : UInt64
  nowLedger : UInt32

namespace ValidityCheck

variable (check : ValidityCheck)

/-- Where overflow is checked the predecessor of the least number is a panic; else it wraps. -/
def answer (overflowChecks : Bool) : Option Bool :=
  if overflowChecks ∧ check.cond.minSeqNum = none ∧ check.txSeqNum = Int64.minValue then none
  else some (wouldBeValid (.v2 check.cond) check.txSeqNum check.accountSeq check.accountSeqTime
    check.accountSeqLedger check.nowTime check.nowLedger)

section Rule

/-- The account's sequence number is the one before the transaction's, or in the window that a
least number opens. -/
def InSequence : Prop :=
  match check.cond.minSeqNum with
  | none => check.accountSeq.toInt = check.txSeqNum.toInt - 1
  | some least => least.toInt ≤ check.accountSeq.toInt ∧
      check.accountSeq.toInt < check.txSeqNum.toInt

def AgePassed : Prop :=
  (check.cond.minSeqAge.toNat : Int) ≤ check.nowTime.toNat - check.accountSeqTime.toNat

def GapPassed : Prop :=
  (check.cond.minSeqLedgerGap.toNat : Int) ≤
    check.nowLedger.toNat - check.accountSeqLedger.toNat

/-- The protocol's rule. -/
def Rule : Prop := check.InSequence ∧ check.AgePassed ∧ check.GapPassed

/-- The time to wait for is later than the last a clock can show, which it shows. -/
def AgeSaturates : Prop :=
  2 ^ 64 ≤ check.accountSeqTime.toNat + check.cond.minSeqAge.toNat ∧
    check.nowTime.toNat = 2 ^ 64 - 1

def GapSaturates : Prop :=
  2 ^ 32 ≤ check.accountSeqLedger.toNat + check.cond.minSeqLedgerGap.toNat ∧
    check.nowLedger.toNat = 2 ^ 32 - 1

end Rule

/-- No number without a predecessor is asked for it, and in sequence no saturated sum is
met together with the other wait. -/
structure InRange : Prop where
  predecessor : check.cond.minSeqNum = none → check.txSeqNum ≠ Int64.minValue
  age : check.InSequence → check.AgeSaturates → ¬ (check.GapPassed ∨ check.GapSaturates)
  gap : check.InSequence → check.GapSaturates → ¬ (check.AgePassed ∨ check.AgeSaturates)

variable {check}

theorem saturatingAdd64_le_iff {a b c : UInt64} :
    saturatingAdd64 a b ≤ c ↔ (b.toNat : Int) ≤ c.toNat - a.toNat ∨
      (2 ^ 64 ≤ a.toNat + b.toNat ∧ c.toNat = 2 ^ 64 - 1) := by
  have bound := c.toNat_lt
  rw [UInt64.le_iff_toNat_le, toNat_saturatingAdd64]
  omega

theorem saturatingAdd32_le_iff {a b c : UInt32} :
    saturatingAdd32 a b ≤ c ↔ (b.toNat : Int) ≤ c.toNat - a.toNat ∨
      (2 ^ 32 ≤ a.toNat + b.toNat ∧ c.toNat = 2 ^ 32 - 1) := by
  have bound := c.toNat_lt
  rw [UInt32.le_iff_toNat_le, toNat_saturatingAdd32]
  omega

/-- With a predecessor to compare with, the oracle asks for the rule up to saturation. -/
theorem wouldBeValid_true_iff
    (predecessor : check.cond.minSeqNum = none → check.txSeqNum ≠ Int64.minValue) :
    wouldBeValid (.v2 check.cond) check.txSeqNum check.accountSeq check.accountSeqTime
      check.accountSeqLedger check.nowTime check.nowLedger = true ↔
        check.InSequence ∧ (check.AgePassed ∨ check.AgeSaturates) ∧
          (check.GapPassed ∨ check.GapSaturates) := by
  unfold InSequence
  cases least : check.cond.minSeqNum with
  | some least =>
    simp only [wouldBeValid, least, Bool.and_eq_true, decide_eq_true_eq, Int64.le_iff_toInt_le,
      Int64.lt_iff_toInt_lt, saturatingAdd64_le_iff, saturatingAdd32_le_iff, AgePassed,
      AgeSaturates, GapPassed, GapSaturates, and_assoc]
  | none =>
    have lower := check.txSeqNum.le_toInt
    have notLeast : check.txSeqNum.toInt ≠ -2 ^ 63 := fun same =>
      predecessor least (Int64.toInt_inj.mp same)
    have before : check.accountSeq = check.txSeqNum - 1 ↔
        check.accountSeq.toInt = check.txSeqNum.toInt - 1 := by
      rw [← Int64.toInt_inj, toInt_sub_one (by omega)]
    simp only [wouldBeValid, least, Bool.and_eq_true, decide_eq_true_eq, before,
      saturatingAdd64_le_iff, saturatingAdd32_le_iff, AgePassed, AgeSaturates, GapPassed,
      GapSaturates, and_assoc]

theorem not_passed_of_ageSaturates (saturates : check.AgeSaturates) : ¬ check.AgePassed := by
  unfold AgeSaturates at saturates
  unfold AgePassed
  omega

theorem not_passed_of_gapSaturates (saturates : check.GapSaturates) : ¬ check.GapPassed := by
  unfold GapSaturates at saturates
  unfold GapPassed
  omega

/-- Built with overflow checks or without, the oracle answers by the rule exactly in range. -/
theorem answer_exact_iff (check : ValidityCheck) :
    (∀ overflowChecks, ∃ valid, check.answer overflowChecks = some valid ∧
      (valid = true ↔ check.Rule)) ↔ check.InRange := by
  constructor
  · intro exact_
    have predecessor : check.cond.minSeqNum = none → check.txSeqNum ≠ Int64.minValue := by
      intro absent least
      obtain ⟨valid, answered, -⟩ := exact_ true
      rw [answer, if_pos ⟨rfl, absent, least⟩] at answered
      cases answered
    obtain ⟨valid, answered, rule⟩ := exact_ false
    rw [answer, if_neg (fun checked => by simp at checked), Option.some.injEq] at answered
    rw [← answered, wouldBeValid_true_iff predecessor, Rule] at rule
    constructor
    · exact predecessor
    · intro sequence age gap
      exact not_passed_of_ageSaturates age (rule.mp ⟨sequence, .inr age, gap⟩).2.1
    · intro sequence gap age
      exact not_passed_of_gapSaturates gap (rule.mp ⟨sequence, age, .inr gap⟩).2.2
  · intro inRange overflowChecks
    refine ⟨_, if_neg fun checked => inRange.predecessor checked.2.1 checked.2.2, ?_⟩
    rw [wouldBeValid_true_iff inRange.predecessor, Rule]
    constructor
    · intro ⟨sequence, age, gap⟩
      refine ⟨sequence, ?_, ?_⟩
      · exact age.resolve_right fun saturates => inRange.age sequence saturates gap
      · exact gap.resolve_right fun saturates => inRange.gap sequence saturates age
    · intro ⟨sequence, age, gap⟩
      exact ⟨sequence, .inl age, .inl gap⟩

/-- An age that ends after the last second there is, in that second. -/
def lastSecond : ValidityCheck where
  cond := ⟨none, none, none, 2, 0, ⟨[], Nat.zero_le 2⟩⟩
  txSeqNum := 105
  accountSeq := 104
  accountSeqTime := 18446744073709551614
  accountSeqLedger := 0
  nowTime := 18446744073709551615
  nowLedger := 0

/-- One second has passed of two. -/
theorem lastSecond_answered : lastSecond.answer true = some true ∧ ¬ lastSecond.Rule ∧
    ¬ ∀ overflowChecks, ∃ valid, lastSecond.answer overflowChecks = some valid ∧
      (valid = true ↔ lastSecond.Rule) := by
  have answered : lastSecond.answer true = some true := by decide
  have early : ¬ lastSecond.Rule := by
    intro rule
    exact absurd rule.2.1 (by unfold AgePassed; decide)
  refine ⟨answered, early, fun exact_ => ?_⟩
  obtain ⟨valid, here, rule⟩ := exact_ true
  rw [answered, Option.some.injEq] at here
  exact early (rule.mp here.symm)

end ValidityCheck

end Patala.Stellar
