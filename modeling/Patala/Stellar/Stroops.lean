import Patala.Core.Numbers
import Patala.Lib.Fallible
import Patala.Stellar.Tx

/-! The decimal amounts Horizon reports, in stroops: an amount is read exactly or refused. -/

namespace Patala.Stellar

open Machine

section Reading

def usdcDecimals : Nat := 7

/-- A part of an amount as an `i128`; an absent part is nothing. -/
def parsePart (bad : StellarError) (digits : List Char) : Except StellarError Int :=
  if digits = [] then .ok 0 else (parseI128 (String.ofList digits)).elim (.error bad) .ok

/-- Ten times as many units for each fraction digit that is not written. -/
def scaleUp : Nat → Int → Int
  | 0, units => units
  | missing + 1, units => scaleUp missing (mul128 units 10)

/-- `i128` arithmetic that is checked for overflow. -/
def checked128 (value : Int) : Option Int :=
  if -2 ^ 127 ≤ value ∧ value < 2 ^ 127 then some value else none

/-- `i64::try_from`. -/
def tryFromI128 (value : Int) : Option Int64 :=
  if -2 ^ 63 ≤ value ∧ value < 2 ^ 63 then some (Int64.ofInt value) else none

def parseStroops (s : String) : Except StellarError Int64 := do
  let bad := StellarError.rpc ("not a stellar decimal amount: " ++ debugStr s)
  let whole := s.toList.takeWhile (· ≠ '.')
  let frac := (s.toList.dropWhile (· ≠ '.')).drop 1
  Fallible.ensure (¬ (whole = [] ∧ frac = [])) bad
  Fallible.ensure (whole.all Char.isDigit ∧ frac.all Char.isDigit) bad
  Fallible.ensure (frac.length ≤ usdcDecimals) bad
  let ones ← parsePart bad whole
  let units ← parsePart bad frac
  let units := scaleUp (usdcDecimals - frac.length) units
  let total ← ((checked128 (ones * 10 ^ usdcDecimals)).bind fun scaled =>
    checked128 (scaled + units)).elim (.error bad) .ok
  (tryFromI128 total).elim (.error bad) .ok

example : (parseStroops "922337203685.4775807").toOption = some Int64.maxValue := by
  decide

theorem parsePart_ok_iff {bad : StellarError} {digits : List Char} {value : Int}
    (all : ∀ c ∈ digits, c.isDigit) : parsePart bad digits = .ok value ↔
      value = Nat.ofDigitChars 10 digits 0 ∧ value < 2 ^ 127 := by
  unfold parsePart
  by_cases nothing : digits = []
  · subst nothing
    simp only [↓reduceIte, Except.ok.injEq, Nat.ofDigitChars_nil, Nat.cast_zero]
    omega
  · rw [if_neg nothing, Fallible.elim_eq_ok, parseI128, parseSigned_of_digits nothing all]
    constructor
    · intro read
      split at read
      · cases read
        omega
      · cases read
    · intro ⟨same, small⟩
      rw [if_pos (by omega), same]

theorem scaleUp_exact {missing : Nat} {units : Int} (positive : 0 ≤ units)
    (fits : units * 10 ^ missing < 2 ^ 127) : scaleUp missing units = units * 10 ^ missing := by
  induction missing generalizing units with
  | zero => simp [scaleUp]
  | succ missing ih =>
    have power : (1 : Int) ≤ 10 ^ missing := Int.add_one_le_iff.mpr (Int.pow_pos (by decide))
    have next : units * 10 * 10 ^ missing = units * 10 ^ (missing + 1) := by ring
    have small : units * 10 ≤ units * 10 * 10 ^ missing :=
      le_mul_of_one_le_right (by omega) power
    have step : mul128 units 10 = units * 10 := wrap128_of_fits (by omega) (by omega)
    rw [scaleUp, step, ih (by omega) (by rwa [next]), next]

theorem checked128_eq_some {value answer : Int} :
    checked128 value = some answer ↔ (-2 ^ 127 ≤ value ∧ value < 2 ^ 127) ∧ value = answer := by
  unfold checked128
  by_cases fits : -2 ^ 127 ≤ value ∧ value < 2 ^ 127
  · rw [if_pos fits, Option.some.injEq, and_iff_right fits]
  · rw [if_neg fits]
    exact iff_of_false (fun found => nomatch found) fun ⟨inside, _⟩ => fits inside

theorem tryFromI128_eq_some {value : Int} {answer : Int64} :
    tryFromI128 value = some answer ↔ answer.toInt = value := by
  unfold tryFromI128
  constructor
  · intro found
    split at found
    · rename_i fits
      rw [← Option.some.inj found]
      exact Int64.toInt_ofInt_of_le fits.1 fits.2
    · cases found
  · intro same
    have lower := answer.le_toInt
    have upper := answer.toInt_lt
    rw [if_pos (by omega), ← same, Int64.ofInt_toInt]

/-- The digits of both parts counted in stroops. -/
def stroopsOf (whole frac : List Char) : Nat :=
  Nat.ofDigitChars 10 whole 0 * 10 ^ usdcDecimals +
    Nat.ofDigitChars 10 frac 0 * 10 ^ (usdcDecimals - frac.length)

theorem scaleUp_frac {frac : List Char} (all : ∀ c ∈ frac, c.isDigit)
    (fits : frac.length ≤ usdcDecimals) :
    scaleUp (usdcDecimals - frac.length) (Nat.ofDigitChars 10 frac 0) =
      (Nat.ofDigitChars 10 frac 0 * 10 ^ (usdcDecimals - frac.length) : Nat) ∧
    Nat.ofDigitChars 10 frac 0 * 10 ^ (usdcDecimals - frac.length) < 10 ^ usdcDecimals := by
  have below : Nat.ofDigitChars 10 frac 0 * 10 ^ (usdcDecimals - frac.length) <
      10 ^ usdcDecimals := by
    calc Nat.ofDigitChars 10 frac 0 * 10 ^ (usdcDecimals - frac.length)
        < 10 ^ frac.length * 10 ^ (usdcDecimals - frac.length) :=
          Nat.mul_lt_mul_of_pos_right (Decimal.ofDigitChars_lt all) (Nat.pow_pos (by decide))
      _ = 10 ^ usdcDecimals := by rw [← Nat.pow_add, Nat.add_sub_of_le fits]
  refine ⟨?_, below⟩
  rw [scaleUp_exact (Int.natCast_nonneg _)]
  · push_cast
    rfl
  · have cast : ((Nat.ofDigitChars 10 frac 0 * 10 ^ (usdcDecimals - frac.length) : Nat) : Int) <
        ((10 ^ usdcDecimals : Nat) : Int) := Int.ofNat_lt.mpr below
    push_cast at cast
    exact cast.trans (by decide)

/-- What is read is what both parts are worth, where the sum of stroops fits an `i64`. -/
theorem parseStroops_ok_iff {s : String} {amount : Int64} : parseStroops s = .ok amount ↔
    ¬ (s.toList.takeWhile (· ≠ '.') = [] ∧ (s.toList.dropWhile (· ≠ '.')).drop 1 = []) ∧
    (∀ c ∈ s.toList.takeWhile (· ≠ '.'), c.isDigit) ∧
    (∀ c ∈ (s.toList.dropWhile (· ≠ '.')).drop 1, c.isDigit) ∧
    ((s.toList.dropWhile (· ≠ '.')).drop 1).length ≤ usdcDecimals ∧
    amount.toInt = stroopsOf (s.toList.takeWhile (· ≠ '.'))
      ((s.toList.dropWhile (· ≠ '.')).drop 1) := by
  constructor
  · intro read
    obtain ⟨_, nonempty, read⟩ := Fallible.bind_eq_ok.mp read
    obtain ⟨_, digits, read⟩ := Fallible.bind_eq_ok.mp read
    obtain ⟨_, short, read⟩ := Fallible.bind_eq_ok.mp read
    obtain ⟨ones, onesRead, read⟩ := Fallible.bind_eq_ok.mp read
    obtain ⟨units, unitsRead, read⟩ := Fallible.bind_eq_ok.mp read
    obtain ⟨total, summed, read⟩ := Fallible.bind_eq_ok.mp read
    obtain ⟨whole, frac⟩ := Fallible.ensure_eq_ok.mp digits
    have whole := List.all_eq_true.mp whole
    have frac := List.all_eq_true.mp frac
    have fits := Fallible.ensure_eq_ok.mp short
    obtain ⟨onesValue, -⟩ := (parsePart_ok_iff whole).mp onesRead
    obtain ⟨unitsValue, -⟩ := (parsePart_ok_iff frac).mp unitsRead
    obtain ⟨scaled, scaledRead, summed⟩ :=
      Option.bind_eq_some_iff.mp (Fallible.elim_eq_ok.mp summed)
    obtain ⟨-, scaledValue⟩ := checked128_eq_some.mp scaledRead
    obtain ⟨-, totalValue⟩ := checked128_eq_some.mp summed
    refine ⟨Fallible.ensure_eq_ok.mp nonempty, whole, frac, fits, ?_⟩
    rw [tryFromI128_eq_some.mp (Fallible.elim_eq_ok.mp read), ← totalValue, ← scaledValue,
      onesValue, unitsValue, (scaleUp_frac frac fits).1, stroopsOf]
    push_cast
    rfl
  · intro ⟨nonempty, whole, frac, fits, value⟩
    have upper := amount.toInt_lt
    obtain ⟨scaled, below⟩ := scaleUp_frac frac fits
    have fewer : Nat.ofDigitChars 10 ((s.toList.dropWhile (· ≠ '.')).drop 1) 0 <
        10 ^ usdcDecimals :=
      (Nat.le_mul_of_pos_right _ (Nat.pow_pos (by decide))).trans_lt below
    rw [stroopsOf] at value
    generalize Nat.ofDigitChars 10 ((s.toList.dropWhile (· ≠ '.')).drop 1) 0 *
      10 ^ (usdcDecimals - ((s.toList.dropWhile (· ≠ '.')).drop 1).length) = units
      at value below fewer scaled
    have power : (10 : Nat) ^ usdcDecimals = 10000000 := rfl
    have power' : (10 : Int) ^ usdcDecimals = 10000000 := rfl
    rw [power] at value below fewer
    push_cast at value
    refine Fallible.bind_eq_ok.mpr ⟨(), Fallible.ensure_eq_ok.mpr nonempty, ?_⟩
    refine Fallible.bind_eq_ok.mpr ⟨(), Fallible.ensure_eq_ok.mpr
      ⟨List.all_eq_true.mpr whole, List.all_eq_true.mpr frac⟩, ?_⟩
    refine Fallible.bind_eq_ok.mpr ⟨(), Fallible.ensure_eq_ok.mpr fits, ?_⟩
    refine Fallible.bind_eq_ok.mpr ⟨_, (parsePart_ok_iff whole).mpr ⟨rfl, by omega⟩, ?_⟩
    refine Fallible.bind_eq_ok.mpr ⟨_, (parsePart_ok_iff frac).mpr ⟨rfl, by omega⟩, ?_⟩
    refine Fallible.bind_eq_ok.mpr ⟨amount.toInt, Fallible.elim_eq_ok.mpr ?_,
      Fallible.elim_eq_ok.mpr (tryFromI128_eq_some.mpr rfl)⟩
    rw [scaled, power']
    refine Option.bind_eq_some_iff.mpr ⟨_, checked128_eq_some.mpr ⟨⟨by omega, by omega⟩, rfl⟩, ?_⟩
    exact checked128_eq_some.mpr ⟨⟨by omega, by omega⟩, value.symm⟩

/-- An amount is read exactly when it is a plain decimal number of stroops that an `i64` holds,
and the canonical spelling of every amount is read as it. -/
theorem parseStroops_iff : (∀ (s : String) (amount : Int64),
      parseStroops s = .ok amount ↔ Decimal.Reads s.toList usdcDecimals amount.toInt) ∧
    ∀ amount : Int64, 0 ≤ amount.toInt →
      parseStroops (String.ofList (Decimal.canonical usdcDecimals amount.toInt.toNat).chars) =
        .ok amount := by
  have exact : ∀ (s : String) (amount : Int64),
      parseStroops s = .ok amount ↔ Decimal.Reads s.toList usdcDecimals amount.toInt := by
    intro s amount
    rw [parseStroops_ok_iff, Decimal.parts_eq_nil_iff, not_or]
    constructor
    · intro ⟨⟨nonempty, noPoint⟩, whole, frac, fits, value⟩
      rw [value]
      exact Decimal.reads_iff.mpr ⟨nonempty, noPoint, whole, frac, fits, rfl⟩
    · intro reads
      obtain ⟨stroops, same⟩ := Int.eq_ofNat_of_zero_le (Int.cast_nonneg_iff.mp reads.nonneg)
      rw [same] at reads ⊢
      obtain ⟨nonempty, noPoint, whole, frac, fits, value⟩ := Decimal.reads_iff.mp reads
      exact ⟨⟨nonempty, noPoint⟩, whole, frac, fits, congrArg Int.ofNat value⟩
  refine ⟨exact, fun amount positive => ?_⟩
  rw [exact, String.toList_ofList]
  have reads := Decimal.canonical_reads usdcDecimals amount.toInt.toNat
  rwa [← Int.cast_natCast, Int.toNat_of_nonneg positive] at reads

end Reading

end Patala.Stellar
