import Patala.Fiat.Currency
import Patala.Lib.Fallible
import Patala.Lib.Joined

/-! What a decimal text is worth, and which characters in front of it do not matter. -/

namespace Patala.Fiat

section Digits

theorem digitsValue_eq_some {digits : List Char} {value : Nat}
    (read : digitsValue digits = some value) : value = Nat.ofDigitChars 10 digits 0 := by
  have folded : ∀ (rest : List Char) (start : Nat), rest.foldlM (fun value digit =>
      if '0' ≤ digit ∧ digit ≤ '9' then some (10 * value + (digit.toNat - '0'.toNat)) else none)
        start = some value → value = Nat.ofDigitChars 10 rest start := by
    intro rest
    induction rest with
    | nil =>
      intro start same
      exact (Option.some.inj same).symm
    | cons c rest ih =>
      intro start same
      rw [List.foldlM_cons] at same
      by_cases digit : '0' ≤ c ∧ c ≤ '9'
      · rw [if_pos digit, Option.bind_eq_bind, Option.bind_some] at same
        rw [Nat.ofDigitChars_cons]
        exact ih _ same
      · rw [if_neg digit] at same
        cases same
  unfold digitsValue at read
  split at read
  · cases read
  · exact folded digits 0 read

theorem digit_value_lt {c : Char} (digit : isAsciiDigit c) : c.toNat - '0'.toNat < 10 := by
  simp only [isAsciiDigit, Bool.and_eq_true, decide_eq_true_eq] at digit
  have most : c.toNat ≤ '9'.toNat := digit.2
  have nine : '9'.toNat = 57 := rfl
  have zero : '0'.toNat = 48 := rfl
  omega

theorem digit_value_eq_zero {c : Char} (digit : isAsciiDigit c) :
    c.toNat - '0'.toNat = 0 ↔ c = '0' := by
  simp only [isAsciiDigit, Bool.and_eq_true, decide_eq_true_eq] at digit
  have least : '0'.toNat ≤ c.toNat := digit.1
  rw [Nat.sub_eq_zero_iff_le]
  constructor
  · intro most
    exact Char.toNat_inj.mp (Nat.le_antisymm most least)
  · intro same
    rw [same]

theorem ofDigitChars_lt {digits : List Char} (all : ∀ c ∈ digits, isAsciiDigit c) :
    Nat.ofDigitChars 10 digits 0 < 10 ^ digits.length := by
  induction digits with
  | nil => simp
  | cons c rest ih =>
    obtain ⟨digit, later⟩ := List.forall_mem_cons.mp all
    have small := digit_value_lt digit
    have tail := ih later
    rw [Nat.ofDigitChars_cons, Nat.ofDigitChars_eq_ofDigitChars_zero, List.length_cons,
      Nat.pow_succ]
    have head : 10 ^ rest.length * (10 * 0 + (c.toNat - '0'.toNat)) ≤ 10 ^ rest.length * 9 :=
      Nat.mul_le_mul_left _ (by omega)
    omega

theorem ofDigitChars_eq_zero_iff {digits : List Char} (all : ∀ c ∈ digits, isAsciiDigit c) :
    Nat.ofDigitChars 10 digits 0 = 0 ↔ ∀ c ∈ digits, c = '0' := by
  induction digits with
  | nil => simp
  | cons c rest ih =>
    obtain ⟨digit, later⟩ := List.forall_mem_cons.mp all
    rw [Nat.ofDigitChars_cons, Nat.ofDigitChars_eq_ofDigitChars_zero, Nat.mul_zero, Nat.zero_add,
      Nat.add_eq_zero_iff, ih later, List.forall_mem_cons, Nat.mul_eq_zero,
      digit_value_eq_zero digit]
    simp

end Digits

/-- What stands in front of the first point. -/
def wholePart (chars : List Char) : List Char := chars.takeWhile (· ≠ '.')

/-- What stands behind the first point. -/
def fractionPart (chars : List Char) : List Char := (chars.dropWhile (· ≠ '.')).drop 1

theorem parts_of_point {before after : List Char} (noPoint : '.' ∉ before) :
    wholePart (before ++ '.' :: after) = before ∧
      fractionPart (before ++ '.' :: after) = after := by
  have ahead : ∀ c ∈ before, (c ≠ '.') := fun c member same => noPoint (same ▸ member)
  constructor
  · rw [wholePart, List.takeWhile_append_of_pos (by simpa using ahead)]
    simp
  · rw [fractionPart, List.dropWhile_append_of_pos (by simpa using ahead)]
    simp

theorem parts_of_no_point {chars : List Char} (noPoint : '.' ∉ chars) :
    wholePart chars = chars ∧ fractionPart chars = [] := by
  have ahead : ∀ c ∈ chars, (c ≠ '.') := fun c member same => noPoint (same ▸ member)
  constructor
  · rw [wholePart, List.takeWhile_eq_self_iff]
    simpa using ahead
  · rw [fractionPart, List.dropWhile_eq_nil_iff.mpr (by simpa using ahead), List.drop_nil]

/-- The characters are a decimal number, worth so much in units of its last fraction digit. -/
structure Worth (chars : List Char) (exp amount : Nat) : Prop where
  whole : ∀ c ∈ wholePart chars, isAsciiDigit c
  fraction : ∀ c ∈ fractionPart chars, isAsciiDigit c
  fits : (fractionPart chars).length ≤ exp
  value : amount = Nat.ofDigitChars 10 (wholePart chars) 0 * 10 ^ exp +
    Nat.ofDigitChars 10 (fractionPart chars) 0 * 10 ^ (exp - (fractionPart chars).length)

namespace Worth

theorem unique {chars : List Char} {exp amount amount' : Nat} (worth : Worth chars exp amount)
    (worth' : Worth chars exp amount') : amount = amount' :=
  worth.value.trans worth'.value.symm

/-- Only digits and a point. -/
theorem digit_or_point {chars : List Char} {exp amount : Nat} (worth : Worth chars exp amount)
    {c : Char} (member : c ∈ chars) : isAsciiDigit c ∨ c = '.' := by
  rw [← List.takeWhile_append_dropWhile (p := (· ≠ '.')) (l := chars), List.mem_append] at member
  rcases member with before | after
  · exact .inl (worth.whole c before)
  · cases rest : chars.dropWhile (· ≠ '.') with
    | nil =>
      rw [rest] at after
      cases after
    | cons point fraction =>
      have isPoint : point = '.' := by
        have stopped := List.head?_dropWhile_not (· ≠ '.') chars
        rw [rest] at stopped
        simpa using stopped
      rw [rest] at after
      rcases List.mem_cons.mp after with same | later
      · exact .inr (same.trans isPoint)
      · refine .inl (worth.fraction c ?_)
        rw [fractionPart, rest]
        exact later

theorem not_isWhitespace {chars : List Char} {exp amount : Nat} (worth : Worth chars exp amount)
    {c : Char} (member : c ∈ chars) : isWhitespace c = false := by
  rcases worth.digit_or_point member with digit | point
  · simp only [isAsciiDigit, Bool.and_eq_true, decide_eq_true_eq] at digit
    have least : 48 ≤ c.toNat := digit.1
    have most : c.toNat ≤ 57 := digit.2
    simp only [isWhitespace, Bool.or_eq_false_iff, Bool.and_eq_false_iff, decide_eq_false_iff_not,
      beq_eq_false_iff_ne, ne_eq]
    omega
  · subst point
    decide

/-- Characters in front of a number change what it is worth unless they are zeros. -/
theorem append_iff {front chars : List Char} {exp amount amount' : Nat}
    (longer : Worth (front ++ chars) exp amount) (worth : Worth chars exp amount')
    (positive : amount' ≠ 0) : amount = amount' ↔ ∀ c ∈ front, c = '0' := by
  by_cases pointed : '.' ∈ front
  · -- The number behind a point in front is part of a fraction, so it is worth less than one.
    obtain ⟨before, after, split, noPoint⟩ := List.eq_append_cons_of_mem pointed
    obtain ⟨whole, fraction⟩ : wholePart (before ++ '.' :: (after ++ chars)) = before ∧
        fractionPart (before ++ '.' :: (after ++ chars)) = after ++ chars := parts_of_point noPoint
    rw [split, List.append_assoc, List.cons_append] at longer
    have digits := longer.fraction
    have fits := longer.fits
    have value := longer.value
    rw [fraction] at digits fits value
    rw [whole] at value
    have behind : '.' ∉ chars := fun member =>
      absurd (digits '.' (List.mem_append_right _ member)) (by decide)
    have own := worth.value
    rw [(parts_of_no_point behind).1, (parts_of_no_point behind).2, Nat.ofDigitChars_nil,
      Nat.zero_mul, Nat.add_zero] at own
    have tail := Nat.ofDigitChars_append (b := 10) (l := after) (m := chars) 0
    rw [Nat.ofDigitChars_eq_ofDigitChars_zero (l := chars)] at tail
    refine iff_of_false (fun same => ?_) fun zeros => absurd (zeros '.' pointed) (by decide)
    have small := Nat.mul_lt_mul_of_pos_right (ofDigitChars_lt digits)
      (Nat.pow_pos (n := exp - (after ++ chars).length) (show 0 < 10 by decide))
    rw [← Nat.pow_add, Nat.add_sub_cancel' fits] at small
    have remainders := congrArg (· % 10 ^ exp) (value.symm.trans (same.trans own))
    simp only [Nat.mul_add_mod_self_right, Nat.mod_eq_of_lt small, Nat.mul_mod_left] at remainders
    rcases Nat.mul_eq_zero.mp remainders with zero | zero
    · have nothing : Nat.ofDigitChars 10 chars 0 = 0 := by omega
      rw [nothing, Nat.zero_mul] at own
      exact positive own
    · simp [Nat.pow_eq_zero] at zero
  · have ahead : ∀ c ∈ front, (c ≠ '.') := fun c member same => pointed (same ▸ member)
    have whole : wholePart (front ++ chars) = front ++ wholePart chars :=
      List.takeWhile_append_of_pos (by simpa using ahead)
    have fraction : fractionPart (front ++ chars) = fractionPart chars := by
      rw [fractionPart, List.dropWhile_append_of_pos (by simpa using ahead), fractionPart]
    have digits : ∀ c ∈ front, isAsciiDigit c := fun c member =>
      longer.whole c (whole ▸ List.mem_append_left _ member)
    rw [longer.value, worth.value, whole, fraction, Nat.ofDigitChars_append,
      Nat.ofDigitChars_eq_ofDigitChars_zero (l := wholePart chars), Nat.add_mul, Nat.add_assoc,
      ← ofDigitChars_eq_zero_iff digits, Nat.add_eq_right, Nat.mul_eq_zero, Nat.mul_eq_zero]
    simp [Nat.pow_eq_zero]

end Worth

theorem parseDigits_ok {trimmed : String} {digits : List Char} {value : Nat}
    (read : parseDigits trimmed digits = .ok value) : value = Nat.ofDigitChars 10 digits 0 := by
  unfold parseDigits at read
  cases found : digitsValue digits with
  | none =>
    rw [found] at read
    cases read
  | some number =>
    simp only [found] at read
    by_cases fits : number < 2 ^ 64
    · rw [if_pos fits] at read
      cases read
      exact digitsValue_eq_some found
    · rw [if_neg fits] at read
      cases read

theorem fractionDigits_ok {trimmed currency : String} {exp : Nat} {chars digits : List Char}
    {fraction : Option (List Char)} (read : fractionDigits trimmed currency exp fraction = .ok digits)
    (behind : fraction.getD [] = fractionPart chars) :
    (∀ c ∈ fractionPart chars, isAsciiDigit c) ∧ (fractionPart chars).length ≤ exp ∧
      digits = fractionPart chars ++ List.replicate (exp - (fractionPart chars).length) '0' := by
  rw [← behind]
  cases fraction with
  | none =>
    cases read
    simp
  | some fraction =>
    simp only [fractionDigits] at read
    by_cases all : fraction.all isAsciiDigit
    · by_cases long : exp < fraction.length
      · simp [all, long] at read
      · simp only [all, Bool.not_true, Bool.false_eq_true, ↓reduceIte, long, Except.ok.injEq]
          at read
        exact ⟨by simpa using all, Nat.le_of_not_lt long, read.symm⟩
    · simp [all] at read

/-- A text that is read as an amount is a decimal number between blanks. -/
theorem majorStringToMinor_ok {text currency : String} {amount : UInt64}
    (read : majorStringToMinor text currency = .ok amount) :
    ∃ exp, exponent currency = .ok exp ∧ (trim text).toList ≠ [] ∧
      Worth (trim text).toList exp amount.toNat := by
  simp only [majorStringToMinor] at read
  by_cases empty : trim text = ""
  · rw [if_pos empty] at read
    cases read
  rw [if_neg empty] at read
  by_cases negative : (trim text).toList.head? = some '-'
  · rw [if_pos negative] at read
    cases read
  rw [if_neg negative] at read
  obtain ⟨exp, known, read⟩ := Fallible.bind_eq_ok.mp read
  have nonempty : (trim text).toList ≠ [] := fun nil => empty (String.toList_inj.mp nil)
  refine ⟨exp, known, nonempty, ?_⟩
  let whole := wholePart (trim text).toList
  by_cases digits : (if whole = [] then ['0'] else whole).all isAsciiDigit
  · rw [if_neg (by simpa [whole, wholePart] using digits)] at read
    obtain ⟨fracDigits, fractionRead, read⟩ := Fallible.bind_eq_ok.mp read
    obtain ⟨wholeN, wholeRead, read⟩ := Fallible.bind_eq_ok.mp read
    obtain ⟨allFraction, fits, filled⟩ := fractionDigits_ok fractionRead (by
      unfold fractionPart
      cases (trim text).toList.dropWhile (· ≠ '.') <;> rfl)
    have wholeValue : wholeN = Nat.ofDigitChars 10 whole 0 := by
      rw [parseDigits_ok wholeRead]
      by_cases nothing : whole = []
      · have nothing' : (trim text).toList.takeWhile (· ≠ '.') = [] := nothing
        rw [if_pos nothing', nothing]
        rfl
      · have nothing' : ¬ (trim text).toList.takeWhile (· ≠ '.') = [] := nothing
        rw [if_neg nothing']
        rfl
    have allWhole : ∀ c ∈ whole, isAsciiDigit c := by
      by_cases nothing : whole = []
      · simp [nothing]
      · rw [if_neg nothing] at digits
        simpa using digits
    have total : ∃ fracN, fracN = Nat.ofDigitChars 10 fracDigits 0 ∧
        (if wholeN * 10 ^ exp + fracN < 2 ^ 64 then
          pure (UInt64.ofNat (wholeN * 10 ^ exp + fracN))
        else throw (.invalidAmount ("amount string " ++ debugStr (trim text) ++
          " overflows u64")) : Except CurrencyError UInt64) = .ok amount := by
      by_cases fractional : 0 < exp
      · rw [if_pos fractional] at read
        obtain ⟨fracN, fracRead, read⟩ := Fallible.bind_eq_ok.mp read
        exact ⟨fracN, parseDigits_ok fracRead, read⟩
      · rw [if_neg fractional] at read
        obtain ⟨fracN, fracRead, read⟩ := Fallible.bind_eq_ok.mp read
        cases fracRead
        have short : (fractionPart (trim text).toList).length = 0 := by omega
        refine ⟨0, ?_, read⟩
        rw [filled, List.length_eq_zero_iff.mp short, Nat.eq_zero_of_not_pos fractional]
        rfl
    obtain ⟨fracN, fracValue, read⟩ := total
    by_cases small : wholeN * 10 ^ exp + fracN < 2 ^ 64
    · rw [if_pos small] at read
      cases read
      refine ⟨allWhole, allFraction, fits, ?_⟩
      rw [UInt64.toNat_ofNat', Nat.mod_eq_of_lt small, wholeValue, fracValue, filled,
        Nat.ofDigitChars_append, Nat.ofDigitChars_replicate_zero, Nat.mul_comm (10 ^ (exp - _))]
    · rw [if_neg small] at read
      cases read
  · rw [if_pos (by simpa [whole, wholePart] using digits)] at read
    cases read

theorem mem_trim_of_mem {text : String} {c : Char} (member : c ∈ text.toList)
    (visible : isWhitespace c = false) : c ∈ (trim text).toList := by
  have kept : ∀ {chars : List Char}, c ∈ chars → c ∈ chars.dropWhile isWhitespace := by
    intro chars inside
    rw [← List.takeWhile_append_dropWhile (p := isWhitespace) (l := chars), List.mem_append]
      at inside
    refine inside.resolve_left fun before => ?_
    rw [List.mem_takeWhile_imp before] at visible
    cases visible
  rw [trim, String.toList_ofList, List.mem_reverse]
  exact kept (List.mem_reverse.mpr (kept member))

/-- A character that is no blank, no digit and no point is in no amount. -/
theorem not_mem_of_majorStringToMinor {text currency : String} {amount : UInt64} {c : Char}
    (read : majorStringToMinor text currency = .ok amount) (visible : isWhitespace c = false)
    (nonDigit : isAsciiDigit c = false) (noPoint : c ≠ '.') : c ∉ text.toList := by
  intro member
  obtain ⟨exp, -, -, worth⟩ := majorStringToMinor_ok read
  rcases worth.digit_or_point (mem_trim_of_mem member visible) with digit | point
  · rw [nonDigit] at digit
    cases digit
  · exact noPoint point

/-- What is dropped in front of an amount without changing it: zeros and blanks. -/
def numeral (text : String) : List Char :=
  text.toList.dropWhile fun c => c = '0' || isWhitespace c

theorem numeral_append_eq_iff {front text : String} :
    numeral (front ++ text) = numeral text ↔ ∀ c ∈ front.toList, c = '0' ∨ isWhitespace c := by
  have dropped := List.length_dropWhile_le (fun c => c = '0' || isWhitespace c) text.toList
  unfold numeral
  rw [String.toList_append, List.dropWhile_append]
  by_cases all : ∀ c ∈ front.toList, c = '0' ∨ isWhitespace c
  · have nothing : front.toList.dropWhile (fun c => c = '0' || isWhitespace c) = [] :=
      List.dropWhile_eq_nil_iff.mpr (by simpa using all)
    rw [nothing]
    simpa using all
  · have something : front.toList.dropWhile (fun c => c = '0' || isWhitespace c) ≠ [] := by
      rw [Ne, List.dropWhile_eq_nil_iff]
      simpa using all
    rw [if_neg (by simpa using something)]
    refine iff_of_false (fun same => ?_) all
    have lengths := congrArg List.length same
    rw [List.length_append] at lengths
    have positive := List.length_pos_iff.mpr something
    omega

theorem trim_append_of_blank {front text : String} (blank : ∀ c ∈ front.toList, isWhitespace c) :
    trim (front ++ text) = trim text := by
  unfold trim
  rw [String.toList_append, List.dropWhile_append_of_pos blank]

/-- Where no blank is left in between, trimming a text with more in front keeps the two apart. -/
theorem toList_trim_append {front text : String} (kept : front.toList.dropWhile isWhitespace ≠ [])
    (nonempty : (trim text).toList ≠ [])
    (solid : ∀ {c}, c ∈ (trim (front ++ text)).toList → isWhitespace c = false) :
    (trim (front ++ text)).toList = front.toList.dropWhile isWhitespace ++ (trim text).toList := by
  have trimmed : ∀ t : String, (trim t).toList =
      (t.toList.dropWhile isWhitespace).rdropWhile isWhitespace := fun t => String.toList_ofList
  -- The text's own blanks in front are none, since they would be in between.
  have ends : text.toList.rdropWhile isWhitespace ≠ [] := by
    rw [trimmed, Ne, List.rdropWhile_eq_nil_iff] at nonempty
    rw [Ne, List.rdropWhile_eq_nil_iff]
    exact fun blank => nonempty fun c member => blank c ((List.dropWhile_suffix _).mem member)
  have whole : (trim (front ++ text)).toList =
      front.toList.dropWhile isWhitespace ++ text.toList.rdropWhile isWhitespace := by
    have reversed : text.toList.reverse.dropWhile isWhitespace ≠ [] := by
      simpa [List.rdropWhile] using ends
    rw [trimmed, String.toList_append, List.dropWhile_append, if_neg (by simpa using kept),
      List.rdropWhile, List.reverse_append, List.dropWhile_append,
      if_neg (by simpa using reversed), List.reverse_append, List.reverse_reverse, List.rdropWhile]
  have start : text.toList.dropWhile isWhitespace = text.toList := by
    obtain ⟨blanks, split⟩ := List.rdropWhile_prefix isWhitespace text.toList
    cases found : text.toList.rdropWhile isWhitespace with
    | nil => exact absurd found ends
    | cons c rest =>
      have member : c ∈ (trim (front ++ text)).toList := by
        rw [whole, found]
        exact List.mem_append_right _ List.mem_cons_self
      have visible := solid member
      rw [← split, found, List.cons_append, List.dropWhile_cons_of_neg (by simp [visible])]
  rw [whole, trimmed, start]

/-- Characters in front of an amount leave it as it is exactly when they are zeros and blanks. -/
theorem majorStringToMinor_append_iff {front text currency : String} {amount amount' : UInt64}
    (longer : majorStringToMinor (front ++ text) currency = .ok amount)
    (read : majorStringToMinor text currency = .ok amount') (positive : amount' ≠ 0) :
    amount = amount' ↔ numeral (front ++ text) = numeral text := by
  rw [numeral_append_eq_iff]
  obtain ⟨exp, known, -, worth⟩ := majorStringToMinor_ok longer
  obtain ⟨exp', known', nonempty, worth'⟩ := majorStringToMinor_ok read
  cases known.symm.trans known'
  have positive' : amount'.toNat ≠ 0 := fun zero => positive (UInt64.toNat_inj.mp zero)
  cases lead : front.toList.dropWhile isWhitespace with
  | nil =>
    have blank := List.dropWhile_eq_nil_iff.mp lead
    rw [trim_append_of_blank blank] at worth
    have same : amount = amount' := UInt64.toNat_inj.mp (worth.unique worth')
    exact iff_of_true same fun c member => .inr (blank c member)
  | cons first rest =>
    have kept : first :: rest ≠ [] := by simp
    rw [← lead] at kept
    have whole := toList_trim_append kept nonempty worth.not_isWhitespace
    rw [whole] at worth
    rw [← UInt64.toNat_inj, worth.append_iff worth' positive']
    constructor
    · intro zeros c member
      by_cases blank : isWhitespace c
      · exact .inr blank
      · rw [← List.takeWhile_append_dropWhile (p := isWhitespace) (l := front.toList),
          List.mem_append] at member
        rcases member with before | after
        · exact absurd (List.mem_takeWhile_imp before) blank
        · exact .inl (zeros c after)
    · intro fine c member
      rcases fine c ((List.dropWhile_suffix _).mem member) with zero | blank
      · exact zero
      · rw [worth.not_isWhitespace (List.mem_append_left _ member)] at blank
        cases blank

section Printing

/-- Padding a number with zeros keeps its value. -/
theorem zeroPadded_injective (width : Nat) : Function.Injective (zeroPadded width) := by
  intro a b same
  have value : ∀ n : Nat, Nat.ofDigitChars 10 (zeroPadded width n).toList 0 = n := by
    intro n
    rw [zeroPadded, String.toList_ofList, Nat.ofDigitChars_append]
    have zeros : Nat.ofDigitChars 10
        (List.replicate (width - (Nat.toDigits 10 n).length) '0') 0 = 0 := by
      apply (ofDigitChars_eq_zero_iff _).mpr
      · intro c member
        exact (List.mem_replicate.mp member).2
      · intro c member
        rw [(List.mem_replicate.mp member).2]
        decide
    rw [zeros]
    simp
  rw [← value a, ← value b, same]

/-- A number printed with a point in it is told apart by its text. -/
theorem decimal_injective {width div a b : Nat}
    (same : toString (a / div) ++ "." ++ zeroPadded width (a % div) =
      toString (b / div) ++ "." ++ zeroPadded width (b % div)) : a = b := by
  have noPoint : ∀ n : Nat, '.' ∉ (toString n).toList := fun n =>
    List.count_eq_zero.mp (Joined.occurrences_repr (by decide) n)
  have lists := congrArg String.toList same
  have parts : ∀ n : Nat, (toString (n / div) ++ "." ++ zeroPadded width (n % div)).toList =
      (toString (n / div)).toList ++ '.' :: (zeroPadded width (n % div)).toList := by
    intro n
    simp
  rw [parts, parts] at lists
  have counts : (toString (a / div)).toList.count '.' = (toString (b / div)).toList.count '.' := by
    rw [List.count_eq_zero.mpr (noPoint _), List.count_eq_zero.mpr (noPoint _)]
  obtain ⟨wholes, fractions⟩ := Joined.append_cons_inj lists counts
  have quotients := Joined.toString_injective (String.toList_inj.mp wholes)
  have remainders := zeroPadded_injective width (String.toList_inj.mp fractions)
  rw [← Nat.div_add_mod a div, ← Nat.div_add_mod b div, quotients, remainders]

theorem minorToMajorString_injective {a b : UInt64} {currency text : String}
    (first : minorToMajorString a currency = .ok text)
    (second : minorToMajorString b currency = .ok text) : a = b := by
  unfold minorToMajorString at first second
  cases listed : exponent currency with
  | error => simp [listed, bind, Except.bind] at first
  | ok exp =>
    rw [listed] at first second
    by_cases whole : exp = 0
    · simp only [bind, Except.bind, whole, ↓reduceIte, pure, Except.pure, Except.ok.injEq]
        at first second
      exact UInt64.toNat_inj.mp (Joined.toString_injective (first.trans second.symm))
    · simp only [bind, Except.bind, whole, ↓reduceIte, pure, Except.pure, Except.ok.injEq]
        at first second
      exact UInt64.toNat_inj.mp (decimal_injective (first.trans second.symm))

end Printing

end Patala.Fiat
