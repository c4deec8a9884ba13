import Mathlib.Data.List.Induction
import Mathlib.Algebra.Order.Ring.Rat
import Mathlib.Tactic.FieldSimp
import Mathlib.Tactic.Positivity
import Mathlib.Tactic.Ring

/-! Plain decimal numbers: what they are worth, exactly, and the one way in which each is
spelled with so many fraction digits and no superfluous zeros. -/

namespace Decimal

section Digits

theorem digit_value_lt {c : Char} (digit : c.isDigit) : c.toNat - '0'.toNat < 10 := by
  have most := (Char.isDigit_iff_toNat.mp digit).2
  have zero : '0'.toNat = 48 := rfl
  have nine : '9'.toNat = 57 := rfl
  omega

theorem digitChar_value {c : Char} (digit : c.isDigit) :
    Nat.digitChar (c.toNat - '0'.toNat) = c := by
  have table : ∀ code < 58, 48 ≤ code → Nat.digitChar (code - 48) = Char.ofNat code := by
    decide
  obtain ⟨least, most⟩ := Char.isDigit_iff_toNat.mp digit
  have zero : '0'.toNat = 48 := rfl
  have nine : '9'.toNat = 57 := rfl
  have found := table c.toNat (by omega) (by omega)
  rwa [Char.ofNat_toNat] at found

/-- Digits stand for less than the power of ten with as many zeros. -/
theorem ofDigitChars_lt {digits : List Char} (all : ∀ c ∈ digits, c.isDigit) :
    Nat.ofDigitChars 10 digits 0 < 10 ^ digits.length := by
  induction digits with
  | nil => simp
  | cons c rest ih =>
    obtain ⟨digit, later⟩ := List.forall_mem_cons.mp all
    have small := digit_value_lt digit
    have tail := ih later
    rw [Nat.ofDigitChars_cons, Nat.ofDigitChars_eq_ofDigitChars_zero, List.length_cons,
      Nat.pow_succ]
    have head : 10 ^ rest.length * (10 * 0 + (c.toNat - '0'.toNat)) ≤ 10 ^ rest.length * 9 :=
      Nat.mul_le_mul_left _ (by omega)
    omega

theorem ofDigitChars_append_singleton (digits : List Char) (c : Char) :
    Nat.ofDigitChars 10 (digits ++ [c]) 0 =
      10 * Nat.ofDigitChars 10 digits 0 + (c.toNat - '0'.toNat) := by
  rw [Nat.ofDigitChars_append, Nat.ofDigitChars_cons, Nat.ofDigitChars_nil]

/-- As many digits with the same value are the same digits. -/
theorem ofDigitChars_inj {digits digits' : List Char} (all : ∀ c ∈ digits, c.isDigit)
    (all' : ∀ c ∈ digits', c.isDigit) (lengths : digits.length = digits'.length)
    (same : Nat.ofDigitChars 10 digits 0 = Nat.ofDigitChars 10 digits' 0) : digits = digits' := by
  induction digits using List.reverseRecOn generalizing digits' with
  | nil => exact (List.length_eq_zero_iff.mp lengths.symm).symm
  | append_singleton digits c ih =>
    cases digits' using List.reverseRecOn with
    | nil => simp at lengths
    | append_singleton digits' c' =>
      simp only [List.forall_mem_append, List.forall_mem_singleton] at all all'
      have small := digit_value_lt all.2
      have small' := digit_value_lt all'.2
      rw [ofDigitChars_append_singleton, ofDigitChars_append_singleton] at same
      have front := ih all.1 all'.1 (by simpa using lengths) (by omega)
      have last : c.toNat - '0'.toNat = c'.toNat - '0'.toNat := by omega
      rw [front, ← digitChar_value all.2, ← digitChar_value all'.2, last]

/-- Digits that begin with no superfluous zero are those their value is printed with. -/
theorem toDigits_ofDigitChars {digits : List Char} (all : ∀ c ∈ digits, c.isDigit)
    (nonempty : digits ≠ []) (lead : digits.head? = some '0' → digits = ['0']) :
    Nat.toDigits 10 (Nat.ofDigitChars 10 digits 0) = digits := by
  induction digits using List.reverseRecOn with
  | nil => exact absurd rfl nonempty
  | append_singleton digits c ih =>
    simp only [List.forall_mem_append, List.forall_mem_singleton] at all
    have small := digit_value_lt all.2
    rw [ofDigitChars_append_singleton]
    by_cases alone : digits = []
    · rw [alone, Nat.ofDigitChars_nil, Nat.mul_zero, Nat.zero_add,
        Nat.toDigits_of_lt_base small, digitChar_value all.2, List.nil_append]
    · have noZero : digits.head? ≠ some '0' := by
        intro zero
        have single := congrArg List.length (lead (by rw [List.head?_append, zero]; rfl))
        have positive := List.length_pos_iff.mpr alone
        simp only [List.length_append, List.length_singleton] at single
        omega
      have printed := ih all.1 alone fun zero => absurd zero noZero
      have positive : 0 < Nat.ofDigitChars 10 digits 0 := by
        apply Nat.pos_of_ne_zero
        intro zero
        rw [zero, Nat.toDigits_zero] at printed
        exact noZero (by rw [← printed]; rfl)
      rw [← Nat.toDigits_append_toDigits (by decide) positive small, printed,
        Nat.toDigits_of_lt_base small, digitChar_value all.2]

/-- Decimal digits, with zeros in front up to a width. -/
def padded (width value : Nat) : List Char :=
  List.replicate (width - (Nat.toDigits 10 value).length) '0' ++ Nat.toDigits 10 value

theorem isDigit_of_mem_padded {width value : Nat} {c : Char} (member : c ∈ padded width value) :
    c.isDigit := by
  rcases List.mem_append.mp member with zero | digit
  · rw [(List.mem_replicate.mp zero).2]
    rfl
  · exact Nat.isDigit_of_mem_toDigits (by decide) (by decide) digit

@[simp] theorem ofDigitChars_padded (width value : Nat) :
    Nat.ofDigitChars 10 (padded width value) 0 = value := by
  rw [padded, Nat.ofDigitChars_append, Nat.ofDigitChars_replicate_zero, Nat.mul_zero,
    Nat.ofDigitChars_ten_toDigits]

theorem length_padded {width value : Nat} (positive : 0 < width) (fits : value < 10 ^ width) :
    (padded width value).length = width := by
  have short := (Nat.length_toDigits_le_iff (by decide) positive).mpr fits
  rw [padded, List.length_append, List.length_replicate]
  omega

end Digits

/-- Ones and parts of one, counted in units of the last of so many fraction digits. -/
theorem scaled {places exp : Nat} (fits : places ≤ exp) (whole fraction : Nat) :
    ((whole : ℚ) + fraction / 10 ^ places) * 10 ^ exp =
      (whole * 10 ^ exp + fraction * 10 ^ (exp - places) : Nat) := by
  have split : (10 : ℚ) ^ exp = 10 ^ places * 10 ^ (exp - places) := by
    rw [← pow_add, Nat.add_sub_of_le fits]
  push_cast
  rw [split]
  field_simp

/-- A plain decimal number as it is written: digits, at least one of them, with a point in front
of them, among them or behind them, or with none. -/
@[ext] structure Plain where
  whole : List Char
  fraction : Option (List Char)
  digits : ∀ c ∈ whole ++ fraction.getD [], c.isDigit
  nonempty : whole ++ fraction.getD [] ≠ []

namespace Plain

def chars (number : Plain) : List Char :=
  number.whole ++ match number.fraction with
    | none => []
    | some digits => '.' :: digits

def places (number : Plain) : Nat := (number.fraction.getD []).length

/-- What is in front of the point counts ones, and what is behind it parts of one. -/
def value (number : Plain) : ℚ :=
  Nat.ofDigitChars 10 number.whole 0 +
    Nat.ofDigitChars 10 (number.fraction.getD []) 0 / 10 ^ number.places

variable {number : Plain} {exp : Nat}

theorem whole_digits (number : Plain) {c : Char} (member : c ∈ number.whole) : c.isDigit :=
  number.digits c (List.mem_append_left _ member)

theorem fraction_digits (number : Plain) {c : Char} (member : c ∈ number.fraction.getD []) :
    c.isDigit :=
  number.digits c (List.mem_append_right _ member)

theorem ne_point {c : Char} (digit : c.isDigit) : c ≠ '.' := by
  intro same
  subst same
  cases digit

theorem takeWhile_chars (number : Plain) :
    number.chars.takeWhile (· ≠ '.') = number.whole := by
  have ahead : ∀ c ∈ number.whole, decide (c ≠ '.') := fun c member =>
    decide_eq_true (ne_point (number.whole_digits member))
  rw [chars, List.takeWhile_append_of_pos ahead]
  cases number.fraction with
  | none => simp
  | some digits => simp

theorem dropWhile_chars (number : Plain) : number.chars.dropWhile (· ≠ '.') =
    match number.fraction with
    | none => []
    | some digits => '.' :: digits := by
  have ahead : ∀ c ∈ number.whole, decide (c ≠ '.') := fun c member =>
    decide_eq_true (ne_point (number.whole_digits member))
  rw [chars, List.dropWhile_append_of_pos ahead]
  cases number.fraction with
  | none => simp
  | some digits => simp

/-- A number is told by how it is written. -/
theorem chars_injective : Function.Injective chars := by
  intro number other same
  have wholes := congrArg (List.takeWhile (· ≠ '.')) same
  have fractions := congrArg (List.dropWhile (· ≠ '.')) same
  rw [takeWhile_chars, takeWhile_chars] at wholes
  rw [dropWhile_chars, dropWhile_chars] at fractions
  cases number with
  | mk whole fraction digits nonempty =>
    cases other with
    | mk whole' fraction' digits' nonempty' =>
      cases wholes
      cases fraction <;> cases fraction' <;> simp_all

theorem value_nonneg (number : Plain) : 0 ≤ number.value := by
  unfold value
  positivity

/-- In units of the last of so many fraction digits a number is whole. -/
theorem value_mul_pow (fits : number.places ≤ exp) : number.value * 10 ^ exp =
    ((Nat.ofDigitChars 10 number.whole 0 * 10 ^ exp +
      Nat.ofDigitChars 10 (number.fraction.getD []) 0 * 10 ^ (exp - number.places) : Nat) : ℚ) :=
  scaled fits _ _

end Plain

/-- What is written is a plain decimal number of at most so many fraction digits, worth so much
in units of the last of them. -/
def Reads (chars : List Char) (exp : Nat) (amount : ℚ) : Prop :=
  ∃ number : Plain, number.chars = chars ∧ number.places ≤ exp ∧ number.value * 10 ^ exp = amount

namespace Reads

theorem unique {chars : List Char} {exp : Nat} {amount amount' : ℚ}
    (reads : Reads chars exp amount) (reads' : Reads chars exp amount') : amount = amount' := by
  obtain ⟨number, written, -, value⟩ := reads
  obtain ⟨number', written', -, value'⟩ := reads'
  rw [← value, ← value', Plain.chars_injective (written.trans written'.symm)]

theorem nonneg {chars : List Char} {exp : Nat} {amount : ℚ} (reads : Reads chars exp amount) :
    0 ≤ amount := by
  obtain ⟨number, -, -, value⟩ := reads
  rw [← value]
  exact mul_nonneg number.value_nonneg (by positivity)

end Reads

/-- Where the first point is tells whether a plain decimal number is written and what it is worth:
there are digits only on either side of it, and there is one at all. -/
theorem reads_iff {chars : List Char} {exp amount : Nat} : Reads chars exp amount ↔
    chars ≠ [] ∧ chars ≠ ['.'] ∧
    (∀ c ∈ chars.takeWhile (· ≠ '.'), c.isDigit) ∧
    (∀ c ∈ (chars.dropWhile (· ≠ '.')).drop 1, c.isDigit) ∧
    ((chars.dropWhile (· ≠ '.')).drop 1).length ≤ exp ∧
    amount = Nat.ofDigitChars 10 (chars.takeWhile (· ≠ '.')) 0 * 10 ^ exp +
      Nat.ofDigitChars 10 ((chars.dropWhile (· ≠ '.')).drop 1) 0 *
        10 ^ (exp - ((chars.dropWhile (· ≠ '.')).drop 1).length) := by
  constructor
  · rintro ⟨number, written, fits, value⟩
    subst written
    have behind : (number.chars.dropWhile (· ≠ '.')).drop 1 = number.fraction.getD [] := by
      rw [number.dropWhile_chars]
      cases number.fraction <;> rfl
    rw [number.value_mul_pow fits] at value
    rw [number.takeWhile_chars, behind]
    refine ⟨?_, ?_, fun c => number.whole_digits, fun c => number.fraction_digits, fits,
      Nat.cast_injective value.symm⟩
    · intro empty
      have nothing := number.nonempty
      rw [← number.takeWhile_chars, ← behind, empty] at nothing
      exact nothing rfl
    · intro point
      have nothing := number.nonempty
      rw [← number.takeWhile_chars, ← behind, point] at nothing
      exact nothing (by decide)
  · rintro ⟨nonempty, noPoint, whole, fraction, fits, value⟩
    have split := List.takeWhile_append_dropWhile (p := (· ≠ '.')) (l := chars)
    cases rest : chars.dropWhile (· ≠ '.') with
    | nil =>
      rw [rest, List.append_nil] at split
      rw [split] at whole
      rw [rest] at value
      let number : Plain := ⟨chars, none, by simpa using whole, by simpa using nonempty⟩
      refine ⟨number, List.append_nil _, Nat.zero_le _, ?_⟩
      rw [number.value_mul_pow (Nat.zero_le _), value, split]
      rfl
    | cons point digits =>
      have isPoint : point = '.' := by
        have stopped := List.head?_dropWhile_not (· ≠ '.') chars
        rw [rest] at stopped
        simpa using stopped
      subst isPoint
      rw [rest] at split fraction fits value
      simp only [List.drop_succ_cons, List.drop_zero] at fraction fits value
      let number : Plain := ⟨chars.takeWhile (· ≠ '.'), some digits,
        List.forall_mem_append.mpr ⟨whole, fraction⟩, fun nothing => noPoint (by
          obtain ⟨front, behind⟩ := List.append_eq_nil_iff.mp nothing
          rw [← split, front, show digits = [] from behind]
          rfl)⟩
      refine ⟨number, split, fits, ?_⟩
      rw [number.value_mul_pow fits, value]
      rfl

/-- There is a digit unless there is nothing on either side of the point. -/
theorem parts_eq_nil_iff {chars : List Char} :
    chars.takeWhile (· ≠ '.') = [] ∧ (chars.dropWhile (· ≠ '.')).drop 1 = [] ↔
      chars = [] ∨ chars = ['.'] := by
  constructor
  · intro ⟨front, behind⟩
    have split := List.takeWhile_append_dropWhile (p := (· ≠ '.')) (l := chars)
    rw [front, List.nil_append] at split
    have stopped := List.head?_dropWhile_not (· ≠ '.') chars
    rw [split] at behind stopped
    cases chars with
    | nil => exact .inl rfl
    | cons point rest =>
      have isPoint : point = '.' := by simpa using stopped
      rw [isPoint, show rest = [] from behind]
      exact .inr rfl
  · rintro (empty | point)
    · rw [empty]
      exact ⟨rfl, rfl⟩
    · rw [point]
      exact ⟨rfl, rfl⟩

section Canonical

/-- Spelled with exactly so many fraction digits, without a point where there are none, and with
no zero in front but a single one. -/
structure Plain.Canonical (number : Plain) (exp : Nat) : Prop where
  fraction : number.fraction.isSome ↔ 0 < exp
  places : number.places = exp
  whole : number.whole ≠ []
  lead : number.whole.head? = some '0' → number.whole = ['0']

/-- How so many units of the last fraction digit are spelled. -/
def canonical (exp amount : Nat) : Plain where
  whole := Nat.toDigits 10 (amount / 10 ^ exp)
  fraction := if exp = 0 then none else some (padded exp (amount % 10 ^ exp))
  digits := by
    intro c member
    rcases List.mem_append.mp member with whole | fraction
    · exact Nat.isDigit_of_mem_toDigits (by decide) (by decide) whole
    · split at fraction
      · cases fraction
      · exact isDigit_of_mem_padded fraction
  nonempty := by simp

theorem canonical_whole (exp amount : Nat) :
    (canonical exp amount).whole = Nat.toDigits 10 (amount / 10 ^ exp) := rfl

theorem canonical_fraction (exp amount : Nat) : (canonical exp amount).fraction =
    if exp = 0 then none else some (padded exp (amount % 10 ^ exp)) := rfl

theorem canonical_places (exp amount : Nat) : (canonical exp amount).places = exp := by
  rw [Plain.places, canonical_fraction]
  by_cases zero : exp = 0
  · rw [if_pos zero, zero]
    rfl
  · rw [if_neg zero]
    exact length_padded (Nat.pos_of_ne_zero zero) (Nat.mod_lt _ (by positivity))

theorem canonical_value (exp amount : Nat) :
    (canonical exp amount).value * 10 ^ exp = amount := by
  rw [Plain.value_mul_pow (canonical_places exp amount).le, canonical_places]
  congr 1
  rw [canonical_whole, canonical_fraction]
  by_cases zero : exp = 0
  · simp [zero]
  · rw [if_neg zero, Option.getD_some, ofDigitChars_padded, Nat.ofDigitChars_ten_toDigits,
      Nat.sub_self, Nat.pow_zero, Nat.mul_one, Nat.mul_comm, Nat.div_add_mod]

theorem canonical_reads (exp amount : Nat) : Reads (canonical exp amount).chars exp amount :=
  ⟨canonical exp amount, rfl, (canonical_places exp amount).le, canonical_value exp amount⟩

theorem toDigits_lead (value : Nat) (zero : (Nat.toDigits 10 value).head? = some '0') :
    Nat.toDigits 10 value = ['0'] := by
  induction value using Nat.strongRecOn with
  | ind value ih =>
    by_cases small : value < 10
    · rw [Nat.toDigits_of_lt_base small] at zero ⊢
      exact congrArg (· :: []) (Option.some.inj zero)
    · have positive : 0 < value / 10 := Nat.div_pos (Nat.le_of_not_lt small) (by decide)
      have digits := Nat.toDigits_append_toDigits (by decide : 1 < 10) positive
        (Nat.mod_lt value (by decide))
      rw [Nat.div_add_mod] at digits
      rw [← digits, List.head?_append_of_ne_nil _ Nat.toDigits_ne_nil] at zero
      have front := ih (value / 10) (Nat.div_lt_self (by omega) (by decide)) zero
      have nothing : value / 10 = 0 := by
        rw [← Nat.ofDigitChars_ten_toDigits (n := value / 10), front]
        rfl
      omega

theorem canonical_canonical (exp amount : Nat) : (canonical exp amount).Canonical exp where
  fraction := by
    rw [canonical_fraction]
    by_cases zero : exp = 0
    · simp [zero]
    · simp [zero, Nat.pos_of_ne_zero zero]
  places := canonical_places exp amount
  whole := Nat.toDigits_ne_nil
  lead := toDigits_lead _

/-- There is no other such spelling. -/
theorem Plain.Canonical.eq_canonical {number : Plain} {exp amount : Nat}
    (spelled : number.Canonical exp) (value : number.value * 10 ^ exp = amount) :
    number = canonical exp amount := by
  have small : Nat.ofDigitChars 10 (number.fraction.getD []) 0 < 10 ^ exp := by
    have below := ofDigitChars_lt fun c => number.fraction_digits (c := c)
    rwa [show (number.fraction.getD []).length = exp from spelled.places] at below
  rw [number.value_mul_pow spelled.places.le, spelled.places, Nat.sub_self, Nat.pow_zero,
    Nat.mul_one] at value
  have sum := Nat.cast_injective value
  have quotient : amount / 10 ^ exp = Nat.ofDigitChars 10 number.whole 0 := by
    rw [← sum, Nat.mul_comm, Nat.mul_add_div (by positivity), Nat.div_eq_of_lt small,
      Nat.add_zero]
  have remainder : amount % 10 ^ exp = Nat.ofDigitChars 10 (number.fraction.getD []) 0 := by
    rw [← sum, Nat.mul_comm, Nat.mul_add_mod, Nat.mod_eq_of_lt small]
  apply Plain.ext
  · rw [canonical_whole, quotient, toDigits_ofDigitChars (fun c => number.whole_digits)
      spelled.whole spelled.lead]
  · rw [canonical_fraction, remainder]
    by_cases zero : exp = 0
    · rw [if_pos zero, ← Option.not_isSome_iff_eq_none, spelled.fraction, zero]
      exact Nat.lt_irrefl 0
    · have positive := Nat.pos_of_ne_zero zero
      obtain ⟨digits, behind⟩ := Option.isSome_iff_exists.mp (spelled.fraction.mpr positive)
      have length : digits.length = exp := by
        have places := spelled.places
        rwa [Plain.places, behind] at places
      have all : ∀ c ∈ digits, c.isDigit := fun c member =>
        number.fraction_digits (by rwa [behind])
      rw [if_neg zero, behind, Option.getD_some]
      refine congrArg some (ofDigitChars_inj all (fun c => isDigit_of_mem_padded) ?_ ?_)
      · rw [length_padded positive (by rwa [behind, Option.getD_some] at small), length]
      · rw [ofDigitChars_padded]

end Canonical

end Decimal
