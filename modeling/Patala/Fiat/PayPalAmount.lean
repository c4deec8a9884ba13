import Patala.Core.Numbers
import Patala.Fiat.CurrencyDecimal
import Patala.Fiat.PayPal

/-! Which texts of PayPal's are read as an amount, against the plain decimal numbers: the parser
cuts a fraction off, takes a plus sign, and does arithmetic that can overflow. -/

namespace Patala.Fiat.PayPal

section Parsing

/-- A `u64` is read off its digits, which a plus sign may stand in front of. -/
theorem parseU64_eq_some_iff {text : List Char} {number : UInt64} :
    parseU64 text = some number ↔
      ∃ digits, (text = digits ∨ text = '+' :: digits) ∧ digits ≠ [] ∧
        (∀ c ∈ digits, c.isDigit) ∧ Nat.ofDigitChars 10 digits 0 = number.toNat := by
  have read : ∀ digits : List Char, ((digitsValue digits).bind fun value =>
      if value < 2 ^ 64 then some (UInt64.ofNat value) else none) = some number ↔
      digits ≠ [] ∧ (∀ c ∈ digits, c.isDigit) ∧
        Nat.ofDigitChars 10 digits 0 = number.toNat := by
    intro digits
    rw [Option.bind_eq_some_iff]
    constructor
    · intro ⟨value, found, fits⟩
      obtain ⟨nonempty, all, same⟩ := digitsValue_eq_some_iff.mp found
      by_cases small : value < 2 ^ 64
      · rw [if_pos small] at fits
        rw [← Option.some.inj fits, UInt64.toNat_ofNat', Nat.mod_eq_of_lt small]
        exact ⟨nonempty, all, same⟩
      · rw [if_neg small] at fits
        cases fits
    · intro ⟨nonempty, all, same⟩
      refine ⟨number.toNat, digitsValue_eq_some_iff.mpr ⟨nonempty, all, same⟩, ?_⟩
      rw [if_pos number.toNat_lt, UInt64.ofNat_toNat]
  unfold parseU64
  split
  · rename_i digits
    rw [read]
    constructor
    · intro found
      exact ⟨digits, .inr rfl, found⟩
    · rintro ⟨digits', same | same, nonempty, all, value⟩
      · rw [← same] at all
        cases all '+' List.mem_cons_self
      · cases same
        exact ⟨nonempty, all, value⟩
  · rename_i unsigned
    rw [read]
    constructor
    · intro found
      exact ⟨text, .inl rfl, found⟩
    · rintro ⟨digits, same | same, found⟩
      · rwa [same]
      · exact absurd same (unsigned digits)

theorem parseU64_of_digits {digits : List Char} {number : UInt64} (nonempty : digits ≠ [])
    (all : ∀ c ∈ digits, c.isDigit) (value : Nat.ofDigitChars 10 digits 0 = number.toNat) :
    parseU64 digits = some number :=
  parseU64_eq_some_iff.mpr ⟨digits, .inl rfl, nonempty, all, value⟩

theorem utf8ByteSize_cons (c : Char) (rest : List Char) :
    (String.ofList (c :: rest)).utf8ByteSize = c.utf8Size + (String.ofList rest).utf8ByteSize := by
  rw [String.ofList_cons, String.utf8ByteSize_append]
  simp

theorem parseU64_isSome_iff {text : List Char} : (parseU64 text).isSome ↔
    ∃ digits, (text = digits ∨ text = '+' :: digits) ∧ digits ≠ [] ∧
      (∀ c ∈ digits, c.isDigit) ∧ Nat.ofDigitChars 10 digits 0 < 2 ^ 64 := by
  rw [Option.isSome_iff_exists]
  constructor
  · intro ⟨number, read⟩
    obtain ⟨digits, same, nonempty, all, value⟩ := parseU64_eq_some_iff.mp read
    exact ⟨digits, same, nonempty, all, value ▸ number.toNat_lt⟩
  · intro ⟨digits, same, nonempty, all, small⟩
    refine ⟨UInt64.ofNat (Nat.ofDigitChars 10 digits 0),
      parseU64_eq_some_iff.mpr ⟨digits, same, nonempty, all, ?_⟩⟩
    rw [UInt64.toNat_ofNat', Nat.mod_eq_of_lt small]

theorem utf8Size_of_isDigit {c : Char} (digit : c.isDigit) : c.utf8Size = 1 := by
  rw [Char.utf8Size_eq_one_iff, UInt32.le_iff_toNat_le]
  have most := (Char.isDigit_iff_toNat.mp digit).2
  exact most.trans (by decide)

/-- What starts a fraction and is refused: a character of two bytes, or two ASCII characters that
are no number, not even behind a plus sign. A lone character has a zero behind it. -/
def refusedFraction : List Char → Bool
  | [] => false
  | tenth :: rest => tenth.utf8Size = 2 ||
    (tenth.utf8Size = 1 && (rest.headD '0').utf8Size = 1 &&
      !((tenth.isDigit || tenth = '+') && (rest.headD '0').isDigit))

/-- Two bytes are cut off exactly where two ASCII characters end or one character of two bytes. -/
theorem twoPlaces_cons (tenth : Char) (rest : List Char) : twoPlaces (tenth :: rest) =
    if tenth.utf8Size = 2 then some [tenth]
    else if tenth.utf8Size = 1 ∧ (rest.headD '0').utf8Size = 1 then some [tenth, rest.headD '0']
    else none := by
  have positive := tenth.utf8Size_pos
  have zero : '0'.utf8Size = 1 := rfl
  unfold twoPlaces
  rw [utf8ByteSize_cons]
  cases rest with
  | nil =>
    by_cases one : tenth.utf8Size = 1
    · simp [one, truncate, zero]
    · have none : 2 - tenth.utf8Size = 0 := by omega
      by_cases two : tenth.utf8Size = 2
      · simp [two, truncate]
      · have many : ¬ tenth.utf8Size ≤ 2 := by omega
        simp [one, two, none, many, truncate]
  | cons hundredth rest =>
    have positive' := hundredth.utf8Size_pos
    have nothing : 2 - (tenth.utf8Size + (String.ofList (hundredth :: rest)).utf8ByteSize) = 0 := by
      rw [utf8ByteSize_cons]
      omega
    rw [nothing, List.replicate_zero, List.append_nil]
    by_cases two : tenth.utf8Size = 2
    · simp [two, truncate]
    · by_cases one : tenth.utf8Size = 1
      · by_cases one' : hundredth.utf8Size = 1
        · simp [one, one', truncate]
        · have many : ¬ hundredth.utf8Size ≤ 1 := by omega
          simp [one, one', many, truncate]
      · have many : ¬ tenth.utf8Size ≤ 2 := by omega
        simp [one, two, many, truncate]

theorem parseU64_pair (tenth hundredth : Char) : (parseU64 [tenth, hundredth]).isSome ↔
    (tenth.isDigit ∨ tenth = '+') ∧ hundredth.isDigit := by
  rw [parseU64_isSome_iff]
  constructor
  · rintro ⟨digits, same | same, nonempty, all, -⟩
    · rw [← same] at all
      exact ⟨.inl (all _ List.mem_cons_self), all _ (by simp)⟩
    · cases same
      exact ⟨.inr rfl, all _ List.mem_cons_self⟩
  · intro ⟨first, second⟩
    have short : ∀ digits : List Char, (∀ c ∈ digits, c.isDigit) → digits.length ≤ 2 →
        Nat.ofDigitChars 10 digits 0 < 2 ^ 64 := by
      intro digits all length
      have power : 10 ^ digits.length ≤ 10 ^ 2 := Nat.pow_le_pow_right (by decide) length
      exact (Decimal.ofDigitChars_lt all).trans_le (power.trans (by decide))
    rcases first with digit | plus
    · have all : ∀ c ∈ [tenth, hundredth], c.isDigit := by simp [digit, second]
      exact ⟨_, .inl rfl, by simp, all, short _ all (by simp)⟩
    · have all : ∀ c ∈ [hundredth], c.isDigit := by simp [second]
      exact ⟨[hundredth], .inr (by rw [plus]), by simp, all, short _ all (by simp)⟩

/-- A fraction is refused exactly when its first two bytes can be cut off and are no number. -/
theorem refusedFraction_iff (fraction : List Char) : refusedFraction fraction ↔
    ∃ digits, twoPlaces fraction = some digits ∧ parseU64 digits = none := by
  cases fraction with
  | nil =>
    have zeros : twoPlaces [] = some ['0', '0'] := rfl
    refine iff_of_false (by decide) fun ⟨digits, cut, refused⟩ => ?_
    rw [zeros] at cut
    cases cut
    exact absurd refused (by decide)
  | cons tenth rest =>
    rw [twoPlaces_cons, refusedFraction]
    by_cases two : tenth.utf8Size = 2
    · have refused : parseU64 [tenth] = none := by
        rw [← Option.not_isSome_iff_eq_none, parseU64_isSome_iff]
        rintro ⟨digits, same | same, nonempty, all, -⟩
        · rw [← same] at all
          have one := utf8Size_of_isDigit (all _ List.mem_cons_self)
          omega
        · exact nonempty (List.cons.inj same).2.symm
      simp [two, refused]
    · by_cases ascii : tenth.utf8Size = 1 ∧ (rest.headD '0').utf8Size = 1
      · rw [if_neg two, if_pos ascii]
        have pair := parseU64_pair tenth (rest.headD '0')
        simp only [Option.some.injEq, exists_eq_left', ← Option.not_isSome_iff_eq_none, pair]
        generalize rest.headD '0' = hundredth at ascii ⊢
        have one : '+'.utf8Size = 1 := rfl
        by_cases plus : tenth = '+'
        · cases hundredth.isDigit <;> simp [plus, one, ascii]
        · cases tenth.isDigit <;> simp [plus, ascii]
      · rw [if_neg two, if_neg ascii]
        refine iff_of_false (fun refused => ascii ?_) fun ⟨digits, cut, _⟩ => nomatch cut
        simp only [two, decide_false, Bool.false_or, Bool.and_eq_true, decide_eq_true_eq] at refused
        exact refused.1

theorem twoPlaces_of_digits {fraction : List Char} (all : ∀ c ∈ fraction, c.isDigit)
    (short : fraction.length ≤ 2) : ∃ digits hundredths, twoPlaces fraction = some digits ∧
      parseU64 digits = some hundredths ∧
      hundredths.toNat = Nat.ofDigitChars 10 fraction 0 * 10 ^ (2 - fraction.length) := by
  have filled : ∃ digits, twoPlaces fraction = some digits ∧ digits =
      fraction ++ List.replicate (2 - fraction.length) '0' := by
    match fraction, short with
    | [], _ => exact ⟨_, rfl, rfl⟩
    | [tenth], _ =>
      have one := utf8Size_of_isDigit (all tenth (by simp))
      refine ⟨[tenth, '0'], ?_, rfl⟩
      rw [twoPlaces_cons, if_neg (by omega), if_pos ⟨one, rfl⟩]
      rfl
    | [tenth, hundredth], _ =>
      have one := utf8Size_of_isDigit (all tenth (by simp))
      have one' := utf8Size_of_isDigit (all hundredth (by simp))
      refine ⟨[tenth, hundredth], ?_, rfl⟩
      rw [twoPlaces_cons, if_neg (by omega), if_pos ⟨one, one'⟩]
      rfl
  obtain ⟨digits, cut, same⟩ := filled
  have digitsOnly : ∀ c ∈ digits, c.isDigit := by
    intro c member
    rw [same] at member
    rcases List.mem_append.mp member with digit | zero
    · exact all c digit
    · rw [(List.mem_replicate.mp zero).2]
      rfl
  have two : digits.length = 2 := by
    rw [same, List.length_append, List.length_replicate]
    omega
  have small := Decimal.ofDigitChars_lt digitsOnly
  rw [two] at small
  have value : (UInt64.ofNat (Nat.ofDigitChars 10 digits 0)).toNat = Nat.ofDigitChars 10 digits 0 := by
    rw [UInt64.toNat_ofNat', Nat.mod_eq_of_lt (by omega)]
  refine ⟨digits, _, cut,
    parseU64_of_digits (List.ne_nil_of_length_pos (by omega)) digitsOnly value.symm, ?_⟩
  rw [value, same, Nat.ofDigitChars_append, Nat.ofDigitChars_replicate_zero, Nat.mul_comm]

theorem hundredfold_of_fits {overflowChecks : Bool} {whole frac amount : UInt64}
    (sum : amount.toNat = whole.toNat * 100 + frac.toNat) :
    hundredfold overflowChecks whole frac = some amount := by
  have fits := amount.toNat_lt
  have small : ¬ (overflowChecks ∧ 2 ^ 64 ≤ whole.toNat * 100 + frac.toNat) := by omega
  have same : whole * 100 + frac = amount := by
    apply UInt64.toNat_inj.mp
    have hundred : (100 : UInt64).toNat = 100 := rfl
    rw [UInt64.toNat_add, UInt64.toNat_mul, hundred]
    omega
  rw [hundredfold, if_neg small, same]

end Parsing

section Exactness

/-- How many fraction digits PayPal takes. -/
def places (currency : String) : Nat :=
  if isZeroDecimal (toAsciiUppercase (trim currency)) then 0 else 2

/-- Nothing panics, and what is read is a plain decimal number's worth. -/
def ReadExactly (value currency : String) : Prop :=
  ∀ overflowChecks, ∃ result,
    paypalAmountValueToMinor overflowChecks value currency = some result ∧
    ∀ amount : UInt64, result = .ok amount ↔
      Decimal.Reads (trim value).toList (places currency) amount.toNat

/-- The text is a plain number in range. -/
def Plain (exp : Nat) (chars : List Char) : Prop :=
  ∃ amount : UInt64, Decimal.Reads chars exp amount.toNat

/-- A plain number with nothing in front of its point, and a text that is no plain number although
its whole part is a `u64`, where a plus sign counts, and its fraction is not refused. -/
def MisreadCents (chars : List Char) : Prop :=
  (Plain 2 chars ∧ chars.head? = some '.') ∨
    (¬ Plain 2 chars ∧ (parseU64 (chars.takeWhile (· ≠ '.'))).isSome ∧
      ¬ refusedFraction ((chars.dropWhile (· ≠ '.')).drop 1))

/-- A plain number with a point behind it, and a `u64` with a plus sign in front. -/
def MisreadUnits (chars : List Char) : Prop :=
  (Plain 0 chars ∧ chars.getLast? = some '.') ∨
    (¬ Plain 0 chars ∧ (parseU64 chars).isSome)

def Misread (currency : String) (chars : List Char) : Prop :=
  if isZeroDecimal (toAsciiUppercase (trim currency)) then MisreadUnits chars
  else MisreadCents chars

variable {value currency : String}

theorem valueToMinor_refused
    (threeDecimal : isThreeDecimal (toAsciiUppercase (trim currency)) = false)
    (zeroDecimal : isZeroDecimal (toAsciiUppercase (trim currency)) = false)
    (refused : (parseU64 ((trim value).toList.takeWhile (· ≠ '.'))).isSome →
      refusedFraction (((trim value).toList.dropWhile (· ≠ '.')).drop 1)) (overflowChecks : Bool) :
    ∃ e, paypalAmountValueToMinor overflowChecks value currency = some (.error e) := by
  simp only [paypalAmountValueToMinor, threeDecimal, zeroDecimal]
  cases whole : parseU64 ((trim value).toList.takeWhile (· ≠ '.')) with
  | none => exact ⟨_, rfl⟩
  | some number =>
    rw [whole] at refused
    cases rest : (trim value).toList.dropWhile (· ≠ '.') with
    | nil =>
      rw [rest] at refused
      exact nomatch refused rfl
    | cons point fraction =>
      rw [rest] at refused
      obtain ⟨digits, cut, none⟩ := (refusedFraction_iff fraction).mp (refused rfl)
      refine ⟨malformed s!"amount {debugStr (trim value)} has an invalid fractional part", ?_⟩
      simp [cut, none]

theorem valueToMinor_answered
    (threeDecimal : isThreeDecimal (toAsciiUppercase (trim currency)) = false)
    (zeroDecimal : isZeroDecimal (toAsciiUppercase (trim currency)) = false)
    (whole : (parseU64 ((trim value).toList.takeWhile (· ≠ '.'))).isSome)
    (taken : ¬ refusedFraction (((trim value).toList.dropWhile (· ≠ '.')).drop 1))
    {overflowChecks : Bool} {result : Except Error UInt64}
    (read : paypalAmountValueToMinor overflowChecks value currency = some result) :
    ∃ amount, result = .ok amount := by
  have answered : ∀ {whole frac : UInt64},
      (hundredfold overflowChecks whole frac).map Except.ok = some result →
      ∃ amount, result = .ok amount := by
    intro whole frac same
    obtain ⟨amount, -, same⟩ := Option.map_eq_some_iff.mp same
    exact ⟨amount, same.symm⟩
  obtain ⟨number, whole⟩ := Option.isSome_iff_exists.mp whole
  simp only [paypalAmountValueToMinor, threeDecimal, zeroDecimal, whole] at read
  cases rest : (trim value).toList.dropWhile (· ≠ '.') with
  | nil =>
    rw [rest] at read
    exact answered read
  | cons point fraction =>
    rw [rest] at taken read
    obtain ⟨digits, cut, read⟩ := Option.bind_eq_some_iff.mp read
    cases found : parseU64 digits with
    | none => exact absurd ((refusedFraction_iff fraction).mpr ⟨digits, cut, found⟩) taken
    | some frac =>
      rw [found] at read
      exact answered read

theorem valueToMinor_exact
    (threeDecimal : isThreeDecimal (toAsciiUppercase (trim currency)) = false)
    (zeroDecimal : isZeroDecimal (toAsciiUppercase (trim currency)) = false) {amount : UInt64}
    (reads : Decimal.Reads (trim value).toList 2 amount.toNat)
    (digitFirst : (trim value).toList.head? ≠ some '.') (overflowChecks : Bool) :
    paypalAmountValueToMinor overflowChecks value currency = some (.ok amount) := by
  obtain ⟨nonempty, -, whole, fraction, short, sum⟩ := Decimal.reads_iff.mp reads
  have front : (trim value).toList.takeWhile (· ≠ '.') ≠ [] := by
    cases chars : (trim value).toList with
    | nil => exact absurd chars nonempty
    | cons c rest =>
      rw [chars] at digitFirst
      rw [List.takeWhile_cons_of_pos (by simpa using digitFirst)]
      exact List.cons_ne_nil _ _
  have fits := amount.toNat_lt
  let ones := UInt64.ofNat (Nat.ofDigitChars 10 ((trim value).toList.takeWhile (· ≠ '.')) 0)
  have onesValue : ones.toNat =
      Nat.ofDigitChars 10 ((trim value).toList.takeWhile (· ≠ '.')) 0 := by
    rw [UInt64.toNat_ofNat', Nat.mod_eq_of_lt (by omega)]
  have wholeRead := parseU64_of_digits front whole onesValue.symm
  obtain ⟨digits, hundredths, cut, read, value'⟩ := twoPlaces_of_digits fraction short
  rw [← onesValue, ← value'] at sum
  simp only [paypalAmountValueToMinor, threeDecimal, zeroDecimal, wholeRead]
  cases rest : (trim value).toList.dropWhile (· ≠ '.') with
  | nil =>
    rw [rest] at value'
    have nothing : hundredths.toNat = (0 : UInt64).toNat := value'
    rw [nothing] at sum
    exact congrArg (Option.map Except.ok) (hundredfold_of_fits sum)
  | cons point behind =>
    rw [rest] at cut
    have cut' : twoPlaces behind = some digits := cut
    simp only [Bool.false_eq_true, ↓reduceIte, cut', Option.bind_eq_bind, Option.bind_some, read]
    exact congrArg (Option.map Except.ok) (hundredfold_of_fits sum)

theorem amount_unique {chars : List Char} {exp : Nat} {amount other : UInt64}
    (reads : Decimal.Reads chars exp amount.toNat) (reads' : Decimal.Reads chars exp other.toNat) :
    amount = other :=
  UInt64.toNat_inj.mp (Nat.cast_injective (reads.unique reads'))

/-- A plain number without a point is a `u64`. -/
theorem parseU64_of_reads {chars : List Char} {amount : UInt64}
    (reads : Decimal.Reads chars 0 amount.toNat) (noPoint : chars.getLast? ≠ some '.') :
    parseU64 chars = some amount := by
  obtain ⟨number, written, short, value⟩ := reads
  have fractionNil : number.fraction.getD [] = [] := List.length_eq_zero_iff.mp (Nat.le_zero.mp short)
  have fractionNone : number.fraction = none := by
    cases fraction : number.fraction with
    | none => rfl
    | some digits =>
      rw [fraction] at fractionNil
      cases fractionNil
      rw [← written, Decimal.Plain.chars, fraction] at noPoint
      simp at noPoint
  have whole : number.whole = chars := by
    rw [← written, Decimal.Plain.chars, fractionNone, List.append_nil]
  rw [number.value_mul_pow short, fractionNil] at value
  have same := Nat.cast_injective value
  rw [← whole]
  refine parseU64_of_digits ?_ (fun c => number.whole_digits) ?_
  · have nonempty := number.nonempty
    rwa [fractionNil, List.append_nil] at nonempty
  · simpa using same

/-- An amount with a hundredth for its last fraction digit is read exactly unless it is misread. -/
theorem cents_exact_iff (threeDecimal : isThreeDecimal (toAsciiUppercase (trim currency)) = false)
    (zeroDecimal : isZeroDecimal (toAsciiUppercase (trim currency)) = false) :
    ReadExactly value currency ↔ ¬ MisreadCents (trim value).toList := by
  have two : places currency = 2 := by rw [places, zeroDecimal]; rfl
  unfold ReadExactly
  rw [two]
  constructor
  · rintro exact (⟨⟨amount, reads⟩, pointFirst⟩ | ⟨notPlain, whole, taken⟩)
    · obtain ⟨result, read, same⟩ := exact false
      have refused : (parseU64 ((trim value).toList.takeWhile (· ≠ '.'))).isSome →
          refusedFraction (((trim value).toList.dropWhile (· ≠ '.')).drop 1) := by
        have nothing : (trim value).toList.takeWhile (· ≠ '.') = [] := by
          cases chars : (trim value).toList with
          | nil => rfl
          | cons c rest =>
            rw [chars] at pointFirst
            cases pointFirst
            rfl
        rw [nothing]
        exact fun found => nomatch found
      obtain ⟨e, failed⟩ := valueToMinor_refused threeDecimal zeroDecimal refused false
      cases (Option.some.inj (read.symm.trans failed)).symm.trans ((same amount).mpr reads)
    · obtain ⟨result, read, same⟩ := exact false
      obtain ⟨amount, answer⟩ := valueToMinor_answered threeDecimal zeroDecimal whole taken read
      exact notPlain ⟨amount, (same amount).mp answer⟩
  · intro notMisread overflowChecks
    by_cases plain : Plain 2 (trim value).toList
    · obtain ⟨amount, reads⟩ := plain
      have digitFirst : (trim value).toList.head? ≠ some '.' := fun first =>
        notMisread (.inl ⟨⟨amount, reads⟩, first⟩)
      refine ⟨_, valueToMinor_exact threeDecimal zeroDecimal reads digitFirst overflowChecks, ?_⟩
      intro other
      rw [Except.ok.injEq]
      exact ⟨fun same => same ▸ reads, fun reads' => amount_unique reads reads'⟩
    · have refused : (parseU64 ((trim value).toList.takeWhile (· ≠ '.'))).isSome →
          refusedFraction (((trim value).toList.dropWhile (· ≠ '.')).drop 1) := by
        intro whole
        by_contra taken
        exact notMisread (.inr ⟨plain, whole, taken⟩)
      obtain ⟨e, failed⟩ := valueToMinor_refused threeDecimal zeroDecimal refused overflowChecks
      exact ⟨_, failed, fun amount => iff_of_false (fun same => nomatch same) fun reads =>
        plain ⟨amount, reads⟩⟩

/-- An amount in whole units is read exactly unless it is misread. -/
theorem units_exact_iff (threeDecimal : isThreeDecimal (toAsciiUppercase (trim currency)) = false)
    (zeroDecimal : isZeroDecimal (toAsciiUppercase (trim currency)) = true) :
    ReadExactly value currency ↔ ¬ MisreadUnits (trim value).toList := by
  have zero : places currency = 0 := by rw [places, zeroDecimal]; rfl
  have outcome : ∀ overflowChecks, paypalAmountValueToMinor overflowChecks value currency =
      some (okOr (parseU64 (trim value).toList)
        (malformed s!"zero-decimal amount {debugStr (trim value)} is not an integer")) := by
    intro overflowChecks
    simp only [paypalAmountValueToMinor, threeDecimal, zeroDecimal]
    rfl
  have answers : ReadExactly value currency ↔ ∀ amount : UInt64,
      parseU64 (trim value).toList = some amount ↔
        Decimal.Reads (trim value).toList 0 amount.toNat := by
    unfold ReadExactly
    simp only [outcome, Option.some.injEq, exists_eq_left', okOr_ok_iff, zero, forall_const]
  rw [answers]
  constructor
  · rintro exact (⟨⟨amount, reads⟩, pointLast⟩ | ⟨notPlain, read⟩)
    · obtain ⟨digits, same | same, -, all, -⟩ := parseU64_eq_some_iff.mp ((exact amount).mpr reads)
      · rw [same] at pointLast
        cases all '.' (List.mem_of_getLast? pointLast)
      · rw [same] at pointLast
        rcases List.mem_cons.mp (List.mem_of_getLast? pointLast) with plus | digit
        · cases plus
        · cases all '.' digit
    · obtain ⟨amount, read⟩ := Option.isSome_iff_exists.mp read
      exact notPlain ⟨amount, (exact amount).mp read⟩
  · intro notMisread amount
    constructor
    · intro read
      by_cases plain : Plain 0 (trim value).toList
      · obtain ⟨other, reads⟩ := plain
        have noPoint : (trim value).toList.getLast? ≠ some '.' := fun last =>
          notMisread (.inl ⟨⟨other, reads⟩, last⟩)
        cases read.symm.trans (parseU64_of_reads reads noPoint)
        exact reads
      · exact absurd (.inr ⟨plain, Option.isSome_iff_exists.mpr ⟨amount, read⟩⟩) notMisread
    · intro reads
      exact parseU64_of_reads reads fun last => notMisread (.inl ⟨⟨amount, reads⟩, last⟩)

/-- An amount is sent as the canonical spelling of its number. -/
theorem paypalAmountValue_eq
    (threeDecimal : isThreeDecimal (toAsciiUppercase (trim currency)) = false) (amount : UInt64) :
    paypalAmountValue amount currency =
      .ok (String.ofList (Decimal.canonical (places currency) amount.toNat).chars) := by
  rw [ofList_canonical, paypalAmountValue, places]
  cases zeroDecimal : isZeroDecimal (toAsciiUppercase (trim currency)) with
  | false =>
    rw [if_neg (by simp [threeDecimal]), if_neg (by simp), if_neg (by simp), if_neg (by simp)]
    rfl
  | true =>
    rw [if_neg (by simp [threeDecimal]), if_pos rfl, if_pos rfl, if_pos rfl]

theorem not_misread_canonical (currency : String) (amount : UInt64) :
    ¬ Misread currency (Decimal.canonical (places currency) amount.toNat).chars := by
  have reads := Decimal.canonical_reads (places currency) amount.toNat
  unfold Misread
  cases zeroDecimal : isZeroDecimal (toAsciiUppercase (trim currency)) with
  | false =>
    have two : places currency = 2 := by rw [places, zeroDecimal]; rfl
    rw [two] at reads ⊢
    rintro (⟨-, pointFirst⟩ | ⟨notPlain, -⟩)
    · rw [Decimal.Plain.chars, List.head?_append_of_ne_nil _
        (Decimal.canonical_canonical 2 amount.toNat).whole] at pointFirst
      cases Decimal.Plain.whole_digits _ (List.mem_of_mem_head? pointFirst)
    · exact notPlain ⟨amount, reads⟩
  | true =>
    have zero : places currency = 0 := by rw [places, zeroDecimal]; rfl
    rw [zero] at reads ⊢
    rintro (⟨-, pointLast⟩ | ⟨notPlain, -⟩)
    · rw [Decimal.Plain.chars, Decimal.canonical_fraction, if_pos rfl, List.append_nil] at pointLast
      cases Decimal.Plain.whole_digits _ (List.mem_of_getLast? pointLast)
    · exact notPlain ⟨amount, reads⟩

theorem readExactly_iff
    (threeDecimal : isThreeDecimal (toAsciiUppercase (trim currency)) = false) (value : String) :
    ReadExactly value currency ↔ ¬ Misread currency (trim value).toList := by
  unfold Misread
  cases zeroDecimal : isZeroDecimal (toAsciiUppercase (trim currency)) with
  | false => exact cents_exact_iff threeDecimal zeroDecimal
  | true => exact units_exact_iff threeDecimal zeroDecimal

/-- The rail reads a text as so many minor units, which are its worth unless it is misread. -/
structure ReadsAs (overflowChecks : Bool) (value currency : String) (amount : UInt64) : Prop where
  read : paypalAmountValueToMinor overflowChecks value currency = some (.ok amount)
  exact : ¬ Misread currency (trim value).toList →
    Decimal.Reads (trim value).toList (places currency) amount.toNat

theorem readsAs_iff {overflowChecks : Bool} {amount : UInt64} :
    ReadsAs overflowChecks value currency amount ↔
      paypalAmountValueToMinor overflowChecks value currency = some (.ok amount) := by
  constructor
  · exact ReadsAs.read
  · intro read
    have threeDecimal : isThreeDecimal (toAsciiUppercase (trim currency)) = false := by
      by_contra refused
      rw [Bool.not_eq_false] at refused
      simp [paypalAmountValueToMinor, refused] at read
    refine ⟨read, fun plain => ?_⟩
    obtain ⟨result, answered, worth⟩ := (readExactly_iff threeDecimal value).mpr plain overflowChecks
    cases answered.symm.trans read
    exact (worth amount).mp rfl

/-- PayPal's texts are read exactly unless they are misread in one of the ways, and every amount is
read back from how the rail sends it. -/
theorem paypalAmountValueToMinor_exact_iff {currency : String}
    (threeDecimal : isThreeDecimal (toAsciiUppercase (trim currency)) = false) :
    (∀ value, ReadExactly value currency ↔ ¬ Misread currency (trim value).toList) ∧
    ∀ (overflowChecks : Bool) (amount : UInt64), ∃ text,
      paypalAmountValue amount currency = .ok text ∧
      paypalAmountValueToMinor overflowChecks text currency = some (.ok amount) := by
  refine ⟨readExactly_iff threeDecimal, fun overflowChecks amount => ?_⟩
  refine ⟨_, paypalAmountValue_eq threeDecimal amount, ?_⟩
  have exact : ReadExactly (String.ofList
      (Decimal.canonical (places currency) amount.toNat).chars) currency := by
    rw [readExactly_iff threeDecimal, trim_canonical, String.toList_ofList]
    exact not_misread_canonical currency amount
  obtain ⟨result, read, same⟩ := exact overflowChecks
  rw [read]
  refine congrArg some ((same amount).mpr ?_)
  rw [trim_canonical, String.toList_ofList]
  exact Decimal.canonical_reads (places currency) amount.toNat

theorem usd_taken : isThreeDecimal (toAsciiUppercase (trim "USD")) = false := by decide

theorem paypalAmountValueToMinor_exact_iff_usd :
    (∀ value, ReadExactly value "USD" ↔ ¬ Misread "USD" (trim value).toList) ∧
    ∀ (overflowChecks : Bool) (amount : UInt64), ∃ text,
      paypalAmountValue amount "USD" = .ok text ∧
      paypalAmountValueToMinor overflowChecks text "USD" = some (.ok amount) :=
  paypalAmountValueToMinor_exact_iff usd_taken

/-- What stands behind the second fraction digit is dropped. -/
theorem third_digit_dropped :
    (∀ overflowChecks, paypalAmountValueToMinor overflowChecks "10.999" "USD" = some (.ok 1099)) ∧
      ¬ ReadExactly "10.999" "USD" := by
  have read : ∀ overflowChecks,
      paypalAmountValueToMinor overflowChecks "10.999" "USD" = some (.ok 1099) := by
    intro overflowChecks
    cases overflowChecks <;> decide
  refine ⟨read, fun exact => ?_⟩
  obtain ⟨result, read', same⟩ := exact false
  cases (read false).symm.trans read'
  obtain ⟨-, -, -, -, short, -⟩ := Decimal.reads_iff.mp ((same 1099).mp rfl)
  exact absurd short (by decide)

end Exactness

end Patala.Fiat.PayPal
