import Patala.Core.Numbers
import Patala.Fiat.Numeral

/-! Minor units and decimal texts: which texts are read as an amount, and that an amount is
printed as the one canonical spelling of its number, which is read back. -/

namespace Patala.Fiat

theorem isAsciiDigit_eq (c : Char) : isAsciiDigit c = c.isDigit := rfl

section Reading

/-- Digits with a point at most, one digit among them. -/
theorem reads_iff_worth {chars : List Char} {exp amount : Nat} :
    Decimal.Reads chars exp amount ↔ chars ≠ [] ∧ chars ≠ ['.'] ∧ Worth chars exp amount := by
  rw [Decimal.reads_iff]
  constructor
  · intro ⟨nonempty, noPoint, whole, fraction, fits, value⟩
    exact ⟨nonempty, noPoint, whole, fraction, fits, value⟩
  · intro ⟨nonempty, noPoint, worth⟩
    exact ⟨nonempty, noPoint, worth.whole, worth.fraction, worth.fits, worth.value⟩

theorem parseDigits_of_small {trimmed : String} {digits : List Char} (nonempty : digits ≠ [])
    (all : ∀ c ∈ digits, isAsciiDigit c) (small : Nat.ofDigitChars 10 digits 0 < 2 ^ 64) :
    parseDigits trimmed digits = .ok (Nat.ofDigitChars 10 digits 0) := by
  unfold parseDigits
  rw [digitsValue_of_digits nonempty all]
  exact if_pos small

theorem fractionDigits_of_digits {trimmed currency : String} {exp : Nat} {chars : List Char}
    {fraction : Option (List Char)} (behind : fraction.getD [] = fractionPart chars)
    (all : ∀ c ∈ fractionPart chars, isAsciiDigit c) (fits : (fractionPart chars).length ≤ exp) :
    fractionDigits trimmed currency exp fraction = .ok (fractionPart chars ++
      List.replicate (exp - (fractionPart chars).length) '0') := by
  rw [← behind] at all fits ⊢
  cases fraction with
  | none => simp [fractionDigits]
  | some fraction =>
    have digits : fraction.all isAsciiDigit := by simpa using all
    have short : ¬ exp < fraction.length := Nat.not_lt.mpr fits
    simp [fractionDigits, digits, short]

/-- An absent whole part is read as a zero. -/
theorem parseDigits_orZero (trimmed : String) {digits : List Char}
    (all : ∀ c ∈ digits, isAsciiDigit c) (small : Nat.ofDigitChars 10 digits 0 < 2 ^ 64) :
    (if digits = [] then ['0'] else digits).all isAsciiDigit ∧
      parseDigits trimmed (if digits = [] then ['0'] else digits) =
        .ok (Nat.ofDigitChars 10 digits 0) := by
  by_cases nothing : digits = []
  · subst nothing
    exact ⟨rfl, rfl⟩
  · rw [if_neg nothing]
    exact ⟨by simpa using all, parseDigits_of_small nothing all small⟩

/-- A text is read as an amount exactly when what is between its blanks is worth that much. -/
theorem majorStringToMinor_ok_iff {text currency : String} {exp : Nat} {amount : UInt64}
    (known : exponent currency = .ok exp) : majorStringToMinor text currency = .ok amount ↔
      (trim text).toList ≠ [] ∧ Worth (trim text).toList exp amount.toNat := by
  constructor
  · intro read
    obtain ⟨exp', known', nonempty, worth⟩ := majorStringToMinor_ok read
    cases known.symm.trans known'
    exact ⟨nonempty, worth⟩
  · intro ⟨nonempty, worth⟩
    have empty : ¬ trim text = "" := fun same => nonempty (by rw [same]; rfl)
    have negative : ¬ (trim text).toList.head? = some '-' := by
      intro minus
      rcases worth.digit_or_point (List.mem_of_mem_head? minus) with digit | point
      · cases digit
      · cases point
    have value := worth.value
    have fits := amount.toNat_lt
    have wholeSmall : Nat.ofDigitChars 10 (wholePart (trim text).toList) 0 < 2 ^ 64 := by
      have power : 0 < 10 ^ exp := Nat.pow_pos (by decide)
      have scaled := Nat.le_mul_of_pos_right
        (Nat.ofDigitChars 10 (wholePart (trim text).toList) 0) power
      omega
    obtain ⟨wholeDigits, wholeRead⟩ := parseDigits_orZero (trim text) worth.whole wholeSmall
    let filled := fractionPart (trim text).toList ++
      List.replicate (exp - (fractionPart (trim text).toList).length) '0'
    have filledValue : Nat.ofDigitChars 10 filled 0 =
        Nat.ofDigitChars 10 (fractionPart (trim text).toList) 0 *
          10 ^ (exp - (fractionPart (trim text).toList).length) := by
      rw [Nat.ofDigitChars_append, Nat.ofDigitChars_replicate_zero, Nat.mul_comm]
    have fractionRead : (if 0 < exp then parseDigits (trim text) filled else .ok 0) =
        .ok (Nat.ofDigitChars 10 filled 0) := by
      by_cases fractional : 0 < exp
      · rw [if_pos fractional]
        refine parseDigits_of_small ?_ ?_ (by omega)
        · apply List.ne_nil_of_length_pos
          simp only [filled, List.length_append, List.length_replicate]
          omega
        · intro c member
          rcases List.mem_append.mp member with digit | zero
          · exact worth.fraction c digit
          · rw [(List.mem_replicate.mp zero).2]
            rfl
      · have short := worth.fits
        have nothing : fractionPart (trim text).toList = [] :=
          List.length_eq_zero_iff.mp (by omega)
        rw [if_neg fractional]
        simp [filled, nothing, Nat.eq_zero_of_not_pos fractional]
    simp only [majorStringToMinor]
    rw [if_neg empty, if_neg negative]
    refine Fallible.bind_eq_ok.mpr ⟨exp, known, ?_⟩
    rw [if_neg (by simpa [wholePart] using wholeDigits)]
    refine Fallible.bind_eq_ok.mpr ⟨filled, ?_, Fallible.bind_eq_ok.mpr ⟨_, wholeRead, ?_⟩⟩
    · refine fractionDigits_of_digits ?_ worth.fraction worth.fits
      unfold fractionPart
      cases (trim text).toList.dropWhile (· ≠ '.') <;> rfl
    · have sum : Nat.ofDigitChars 10 (wholePart (trim text).toList) 0 * 10 ^ exp +
          Nat.ofDigitChars 10 filled 0 = amount.toNat := by rw [filledValue, ← value]
      by_cases fractional : 0 < exp
      · rw [if_pos fractional] at fractionRead ⊢
        refine Fallible.bind_eq_ok.mpr ⟨_, fractionRead, ?_⟩
        rw [sum, if_pos fits, UInt64.ofNat_toNat]
        rfl
      · rw [if_neg fractional] at fractionRead ⊢
        refine Fallible.bind_eq_ok.mpr ⟨_, fractionRead, ?_⟩
        rw [sum, if_pos fits, UInt64.ofNat_toNat]
        rfl

/-- A point alone is read as nothing at all. -/
theorem majorStringToMinor_point {text currency : String} {exp : Nat}
    (known : exponent currency = .ok exp) (point : trim text = ".") :
    majorStringToMinor text currency = .ok 0 := by
  have worth : Worth ['.'] exp (0 : UInt64).toNat := by
    refine ⟨?_, ?_, Nat.zero_le _, ?_⟩ <;> simp [wholePart, fractionPart]
  rw [majorStringToMinor_ok_iff known, point]
  exact ⟨by decide, worth⟩

theorem not_reads_point {exp amount : Nat} : ¬ Decimal.Reads ['.'] exp amount := fun reads =>
  (reads_iff_worth.mp reads).2.1 rfl

/-- A text is read as an amount exactly when it is a plain decimal number worth that amount and
no longer than the currency's fraction. Only a point alone, with no digit on either side, is read
as well. -/
theorem majorStringToMinor_plain_iff {currency : String} {exp : Nat}
    (known : exponent currency = .ok exp) (text : String) :
    (∀ amount : UInt64, majorStringToMinor text currency = .ok amount ↔
      Decimal.Reads (trim text).toList exp amount.toNat) ↔ trim text ≠ "." := by
  constructor
  · intro exact point
    have reads := (exact 0).mp (majorStringToMinor_point known point)
    rw [point] at reads
    exact not_reads_point reads
  · intro noPoint amount
    have notAlone : (trim text).toList ≠ ['.'] := fun same =>
      noPoint (String.toList_inj.mp same)
    rw [majorStringToMinor_ok_iff known, reads_iff_worth]
    simp only [ne_eq, notAlone, not_false_eq_true, true_and]

theorem exponent_usd : exponent "USD" = .ok 2 := by decide

theorem majorStringToMinor_plain_iff_usd :
    exponent "USD" = .ok 2 ∧ ((∀ amount : UInt64, majorStringToMinor " 1.5 " "USD" = .ok amount ↔
      Decimal.Reads (trim " 1.5 ").toList 2 amount.toNat) ↔ trim " 1.5 " ≠ ".") :=
  ⟨exponent_usd, majorStringToMinor_plain_iff exponent_usd " 1.5 "⟩

theorem lone_point_read : exponent "USD" = .ok 2 ∧
    ¬ ∀ amount : UInt64, majorStringToMinor "." "USD" = .ok amount ↔
      Decimal.Reads (trim ".").toList 2 amount.toNat := by
  refine ⟨exponent_usd, fun exact => ?_⟩
  have point : trim "." = "." := by decide
  have reads := (exact 0).mp (majorStringToMinor_point exponent_usd point)
  rw [point] at reads
  exact not_reads_point reads

end Reading

section Printing

theorem zeroPadded_eq (width value : Nat) :
    zeroPadded width value = String.ofList (Decimal.padded width value) := rfl

/-- The canonical spelling as it is formatted. -/
theorem ofList_canonical (exp amount : Nat) :
    String.ofList (Decimal.canonical exp amount).chars =
      if exp = 0 then toString amount
      else toString (amount / 10 ^ exp) ++ "." ++ zeroPadded exp (amount % 10 ^ exp) := by
  rw [Decimal.Plain.chars, Decimal.canonical_whole, Decimal.canonical_fraction]
  by_cases whole : exp = 0
  · rw [if_pos whole, if_pos whole, whole, Nat.pow_zero, Nat.div_one, List.append_nil,
      ← Nat.toString_eq_ofList_toDigits]
  · rw [if_neg whole, if_neg whole]
    refine String.toList_inj.mp ?_
    simp [zeroPadded_eq]

/-- A plain number has no blanks to trim. -/
theorem trim_canonical (exp amount : Nat) :
    trim (String.ofList (Decimal.canonical exp amount).chars) =
      String.ofList (Decimal.canonical exp amount).chars := by
  obtain ⟨-, -, worth⟩ := reads_iff_worth.mp (Decimal.canonical_reads exp amount)
  exact trim_of_plain fun c member =>
    worth.not_isWhitespace (by rwa [String.toList_ofList] at member)

/-- An amount is printed as the canonical spelling of its number. -/
theorem minorToMajorString_eq {currency : String} {exp : Nat} (known : exponent currency = .ok exp)
    (amount : UInt64) : minorToMajorString amount currency =
      .ok (String.ofList (Decimal.canonical exp amount.toNat).chars) := by
  unfold minorToMajorString
  refine Fallible.bind_eq_ok.mpr ⟨exp, known, ?_⟩
  rw [ofList_canonical]
  by_cases whole : exp = 0
  · rw [if_pos whole, if_pos whole]
    rfl
  · rw [if_neg whole, if_neg whole]
    rfl

/-- What is in front of the first point counts ones, and what is behind it parts of one. -/
def decimalValue (chars : List Char) : ℚ :=
  Nat.ofDigitChars 10 (wholePart chars) 0 +
    Nat.ofDigitChars 10 (fractionPart chars) 0 / 10 ^ (fractionPart chars).length

theorem Worth.decimalValue_mul {chars : List Char} {exp amount : Nat}
    (worth : Worth chars exp amount) : decimalValue chars * 10 ^ exp = amount := by
  rw [worth.value]
  exact Decimal.scaled worth.fits _ _

theorem majorStringToMinor_canonical {currency : String} {exp : Nat}
    (known : exponent currency = .ok exp) (amount : UInt64) :
    majorStringToMinor (String.ofList (Decimal.canonical exp amount.toNat).chars) currency =
      .ok amount := by
  obtain ⟨nonempty, -, worth⟩ := reads_iff_worth.mp (Decimal.canonical_reads exp amount.toNat)
  rw [majorStringToMinor_ok_iff known, trim_canonical, String.toList_ofList]
  exact ⟨nonempty, worth⟩

/-- Every amount is read back from how it is printed, and a text that is read as an amount is
printed again as the only canonical spelling of the same number, which is read as that amount. -/
theorem minorToMajorString_round_trip {currency : String} {info : CurrencyInfo}
    (listed : lookup currency = .ok info) :
    (∀ amount : UInt64, ∃ text, minorToMajorString amount currency = .ok text ∧
      majorStringToMinor text currency = .ok amount) ∧
    ∀ (text : String) (amount : UInt64), majorStringToMinor text currency = .ok amount →
      ∃ printed : Decimal.Plain,
        minorToMajorString amount currency = .ok (String.ofList printed.chars) ∧
        (∀ spelling : Decimal.Plain, spelling.Canonical info.exponent ∧
          spelling.value = decimalValue (trim text).toList ↔ spelling = printed) ∧
        majorStringToMinor (String.ofList printed.chars) currency = .ok amount := by
  have known : exponent currency = .ok info.exponent :=
    Fallible.bind_eq_ok.mpr ⟨info, listed, rfl⟩
  constructor
  · intro amount
    exact ⟨_, minorToMajorString_eq known amount, majorStringToMinor_canonical known amount⟩
  · intro text amount read
    obtain ⟨-, worth⟩ := (majorStringToMinor_ok_iff known).mp read
    refine ⟨Decimal.canonical info.exponent amount.toNat, minorToMajorString_eq known amount,
      fun spelling => ?_, majorStringToMinor_canonical known amount⟩
    have power : (10 : ℚ) ^ info.exponent ≠ 0 := by positivity
    constructor
    · intro ⟨canonical, value⟩
      exact canonical.eq_canonical (by rw [value, worth.decimalValue_mul])
    · intro same
      rw [same]
      refine ⟨Decimal.canonical_canonical info.exponent amount.toNat, ?_⟩
      exact mul_right_cancel₀ power
        ((Decimal.canonical_value info.exponent amount.toNat).trans worth.decimalValue_mul.symm)

theorem minorToMajorString_round_trip_zar :
    ∃ printed : Decimal.Plain,
      minorToMajorString 750 " zar\n" = .ok (String.ofList printed.chars) ∧
      (∀ spelling : Decimal.Plain, spelling.Canonical 2 ∧
        spelling.value = decimalValue (trim " 007.5").toList ↔ spelling = printed) ∧
      majorStringToMinor (String.ofList printed.chars) " zar\n" = .ok 750 := by
  have listed : lookup " zar\n" = .ok ⟨"ZAR", 2⟩ := by decide
  exact (minorToMajorString_round_trip listed).2 " 007.5" 750 (by decide)

end Printing

end Patala.Fiat
