import Patala.Core.Text
import Patala.Lib.Decimal

/-! What `str::parse` reads off a run of ASCII digits. -/

namespace Patala

theorem foldlM_digits {digits : List Char} {start value : Nat} :
    digits.foldlM (fun value digit =>
      if '0' ≤ digit ∧ digit ≤ '9' then some (10 * value + (digit.toNat - '0'.toNat)) else none)
        start = some value ↔
      (∀ c ∈ digits, c.isDigit) ∧ Nat.ofDigitChars 10 digits start = value := by
  induction digits generalizing start with
  | nil => simp
  | cons c rest ih =>
    have same : c.isDigit ↔ '0' ≤ c ∧ c ≤ '9' := Char.isDigit_iff_toNat
    rw [List.foldlM_cons, List.forall_mem_cons, same, Nat.ofDigitChars_cons]
    by_cases digit : '0' ≤ c ∧ c ≤ '9'
    · rw [if_pos digit, Option.bind_eq_bind, Option.bind_some, ih]
      simp only [digit, and_self, true_and]
    · rw [if_neg digit]
      simp [digit]

/-- A run of digits is read, and nothing else is. -/
theorem digitsValue_eq_some_iff {digits : List Char} {value : Nat} :
    digitsValue digits = some value ↔
      digits ≠ [] ∧ (∀ c ∈ digits, c.isDigit) ∧ Nat.ofDigitChars 10 digits 0 = value := by
  unfold digitsValue
  by_cases empty : digits = []
  · simp [empty]
  · rw [if_neg empty, foldlM_digits]
    simp [empty]

theorem digitsValue_of_digits {digits : List Char} (nonempty : digits ≠ [])
    (all : ∀ c ∈ digits, c.isDigit) : digitsValue digits = some (Nat.ofDigitChars 10 digits 0) :=
  digitsValue_eq_some_iff.mpr ⟨nonempty, all, rfl⟩

/-- Without a sign in front, a number in range is read as it is. -/
theorem parseSigned_of_digits {least greatest : Int} {digits : List Char} (nonempty : digits ≠ [])
    (all : ∀ c ∈ digits, c.isDigit) : parseSigned least greatest (String.ofList digits) =
      if least ≤ (Nat.ofDigitChars 10 digits 0 : Int) ∧
        (Nat.ofDigitChars 10 digits 0 : Int) ≤ greatest
      then some (Nat.ofDigitChars 10 digits 0 : Int) else none := by
  have read := digitsValue_of_digits nonempty all
  unfold parseSigned
  rw [String.toList_ofList]
  cases digits with
  | nil => exact absurd rfl nonempty
  | cons c rest =>
    have digit := all c List.mem_cons_self
    split
    · rename_i plus
      cases (List.cons.inj plus).1
      cases digit
    · rename_i minus
      cases (List.cons.inj minus).1
      cases digit
    · rw [read]
      rfl

end Patala
