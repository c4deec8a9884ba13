import Mathlib.Data.Nat.Digits.Lemmas
import Mathlib.Data.List.TakeWhile
import Patala.Lib.Codec

/-! Base58 text: a byte string is a number written in base 256, and its text the same
number in base 58, with the leading zeros of one kept as leading zeros of the
other. Every byte string has one text, and every text of the alphabet one byte
string. -/

namespace Base58

section Radix

/-- The digits of a number, most significant first, in another base, behind the
leading zeros they had. -/
def rebase (source target : Nat) (digits : List Nat) : List Nat :=
  digits.takeWhile (· = 0) ++ (Nat.digits target (Nat.ofDigits source digits.reverse)).reverse

theorem ofDigits_zeros (base : Nat) (zeros : List Nat) (zero : ∀ digit ∈ zeros, digit = 0) :
    Nat.ofDigits base zeros = 0 := by
  induction zeros with
  | nil => rfl
  | cons digit rest ih =>
    rw [Nat.ofDigits_cons, zero digit List.mem_cons_self,
      ih fun digit member => zero digit (List.mem_cons_of_mem _ member)]
    rfl

/-- Leading zeros do not change a number. -/
theorem ofDigits_reverse_dropWhile (base : Nat) (digits : List Nat) :
    Nat.ofDigits base digits.reverse =
      Nat.ofDigits base (digits.dropWhile (· = 0)).reverse := by
  have zero : ∀ digit ∈ (digits.takeWhile (· = 0)).reverse, digit = 0 := by
    intro digit member
    simpa using List.mem_takeWhile_imp (List.mem_reverse.mp member)
  conv_lhs => rw [← List.takeWhile_append_dropWhile (p := (· = 0)) (l := digits)]
  rw [List.reverse_append, Nat.ofDigits_append, ofDigits_zeros base _ zero, Nat.mul_zero,
    Nat.add_zero]

/-- What follows the leading zeros does not start with one. -/
theorem getLast_dropWhile_reverse (digits : List Nat)
    (nonempty : (digits.dropWhile (· = 0)).reverse ≠ []) :
    (digits.dropWhile (· = 0)).reverse.getLast nonempty ≠ 0 := by
  rw [List.getLast_reverse]
  have first := List.head_dropWhile_not (· = 0) (l := digits) (by simpa using nonempty)
  simpa using first

/-- The digits of a number do not start with a zero. -/
theorem dropWhile_digits_reverse (base : Nat) (value : Nat) :
    (Nat.digits base value).reverse.dropWhile (· = 0) = (Nat.digits base value).reverse := by
  by_cases zero : value = 0
  · simp [zero]
  · have nonempty : Nat.digits base value ≠ [] := Nat.digits_ne_nil_iff_ne_zero.mpr zero
    have last := Nat.getLast_digit_ne_zero base zero
    rw [List.dropWhile_eq_self_iff]
    intro inside
    simpa [List.getElem_reverse, List.getLast_eq_getElem] using last

theorem takeWhile_eq_nil_of_dropWhile {body : List Nat} (same : body.dropWhile (· = 0) = body) :
    body.takeWhile (· = 0) = [] := by
  have split := List.takeWhile_append_dropWhile (p := (· = 0)) (l := body)
  rw [same] at split
  simpa using split

/-- Written in another base and back, a digit string is what it was. -/
theorem rebase_rebase (oneLtSource : 1 < source) (digits : List Nat)
    (bounded : ∀ digit ∈ digits, digit < source) :
    rebase target source (rebase source target digits) = digits := by
  have zero : ∀ digit ∈ digits.takeWhile (· = 0), decide (digit = 0) = true := by
    intro digit member
    exact List.mem_takeWhile_imp (p := (· = 0)) member
  have body := dropWhile_digits_reverse target (Nat.ofDigits source digits.reverse)
  have zeros : (rebase source target digits).takeWhile (· = 0) = digits.takeWhile (· = 0) := by
    rw [rebase, List.takeWhile_append_of_pos zero, takeWhile_eq_nil_of_dropWhile body,
      List.append_nil]
  have value : Nat.ofDigits target (rebase source target digits).reverse =
      Nat.ofDigits source digits.reverse := by
    rw [ofDigits_reverse_dropWhile, rebase, List.dropWhile_append_of_pos zero, body,
      List.reverse_reverse, Nat.ofDigits_digits]
  have small : ∀ digit ∈ (digits.dropWhile (· = 0)).reverse, digit < source :=
    fun digit member => bounded digit (List.dropWhile_sublist _ |>.subset (List.mem_reverse.mp member))
  have read := Nat.digits_ofDigits source oneLtSource (digits.dropWhile (· = 0)).reverse small
    (getLast_dropWhile_reverse digits)
  calc rebase target source (rebase source target digits)
      = digits.takeWhile (· = 0) ++
          (Nat.digits source (Nat.ofDigits source digits.reverse)).reverse := by
        rw [rebase, zeros, value]
    _ = digits.takeWhile (· = 0) ++ digits.dropWhile (· = 0) := by
        rw [ofDigits_reverse_dropWhile, read, List.reverse_reverse]
    _ = digits := List.takeWhile_append_dropWhile

theorem rebase_lt (oneLtTarget : 1 < target) (digits : List Nat) :
    ∀ digit ∈ rebase source target digits, digit < target := by
  intro digit member
  rcases List.mem_append.mp member with leading | written
  · have zero : digit = 0 := by simpa using List.mem_takeWhile_imp leading
    omega
  · exact Nat.digits_lt_base oneLtTarget (List.mem_reverse.mp written)

end Radix

section Alphabet

/-- The digits in order: no zero, capital O or I, and no small l. -/
def alphabet : List Char :=
  ['1', '2', '3', '4', '5', '6', '7', '8', '9', 'A', 'B', 'C', 'D', 'E', 'F', 'G', 'H', 'J',
    'K', 'L', 'M', 'N', 'P', 'Q', 'R', 'S', 'T', 'U', 'V', 'W', 'X', 'Y', 'Z', 'a', 'b', 'c',
    'd', 'e', 'f', 'g', 'h', 'i', 'j', 'k', 'm', 'n', 'o', 'p', 'q', 'r', 's', 't', 'u', 'v',
    'w', 'x', 'y', 'z']

def digitChar (digit : Nat) : Char := alphabet.getD digit '1'

def charDigit (c : Char) : Option Nat := alphabet.findIdx? (· = c)

theorem digitChar_ascii (digit : Nat) : (digitChar digit).toNat < 128 := by
  have table : ∀ c ∈ alphabet, c.toNat < 128 := by
    simp only [alphabet, List.forall_mem_cons, List.not_mem_nil, false_implies, implies_true, and_true]
    decide
  unfold digitChar
  rw [List.getD_eq_getElem?_getD]
  cases found : alphabet[digit]? with
  | none => decide
  | some c => exact table c (List.mem_of_getElem? found)

theorem charDigit_digitChar {digit : Nat} (small : digit < 58) :
    charDigit (digitChar digit) = some digit := by
  revert digit
  decide

theorem charDigit_eq_some_iff {c : Char} {digit : Nat} :
    charDigit c = some digit ↔ digit < 58 ∧ digitChar digit = c := by
  constructor
  · intro read
    obtain ⟨inside, same, -⟩ := List.findIdx?_eq_some_iff_getElem.mp read
    have inside' : digit < alphabet.length := inside
    refine ⟨inside, ?_⟩
    simpa [digitChar, List.getD, inside'] using same
  · rintro ⟨small, same⟩
    rw [← same]
    exact charDigit_digitChar small

end Alphabet

/-- The text of a byte string. -/
def encode (bytes : List UInt8) : String :=
  String.ofList ((rebase 256 58 (bytes.map UInt8.toNat)).map digitChar)

/-- The byte string of a text; none when a byte of it is no digit. -/
def decode (text : String) : Option (List UInt8) :=
  ((Codec.ascii text).mapM charDigit).map fun digits => (rebase 58 256 digits).map UInt8.ofNat

theorem mapM_charDigit_eq_some {text : List Char} {digits : List Nat} :
    text.mapM charDigit = some digits ↔
      (∀ digit ∈ digits, digit < 58) ∧ digits.map digitChar = text := by
  induction text generalizing digits with
  | nil => cases digits <;> simp
  | cons c rest ih =>
    have step : (c :: rest).mapM charDigit = some digits ↔
        ∃ digit others, charDigit c = some digit ∧ rest.mapM charDigit = some others ∧
          digits = digit :: others := by
      rw [List.mapM_cons]
      cases charDigit c <;> cases rest.mapM charDigit <;> simp [eq_comm]
    rw [step]
    constructor
    · rintro ⟨digit, others, here, later, rfl⟩
      obtain ⟨small, same⟩ := charDigit_eq_some_iff.mp here
      obtain ⟨smalls, sames⟩ := ih.mp later
      exact ⟨List.forall_mem_cons.mpr ⟨small, smalls⟩, by rw [List.map_cons, same, sames]⟩
    · rintro ⟨smalls, spelled⟩
      obtain ⟨digit, others, rfl, here, later⟩ := List.map_eq_cons_iff.mp spelled
      obtain ⟨small, smalls⟩ := List.forall_mem_cons.mp smalls
      exact ⟨digit, others, charDigit_eq_some_iff.mpr ⟨small, here⟩, ih.mpr ⟨smalls, later⟩, rfl⟩

theorem map_ofNat_map_toNat (bytes : List UInt8) :
    (bytes.map UInt8.toNat).map UInt8.ofNat = bytes := by
  simp [List.map_map, Function.comp_def]

theorem map_toNat_map_ofNat {digits : List Nat} (small : ∀ digit ∈ digits, digit < 256) :
    (digits.map UInt8.ofNat).map UInt8.toNat = digits := by
  rw [List.map_map]
  conv_rhs => rw [← List.map_id digits]
  apply List.map_congr_left
  intro digit member
  exact UInt8.toNat_ofNat_of_lt' (small digit member)

theorem decode_encode (bytes : List UInt8) : decode (encode bytes) = some bytes := by
  have small : ∀ digit ∈ rebase 256 58 (bytes.map UInt8.toNat), digit < 58 :=
    rebase_lt (by decide) _
  have bounded : ∀ digit ∈ bytes.map UInt8.toNat, digit < 256 := by
    intro digit member
    obtain ⟨byte, -, same⟩ := List.mem_map.mp member
    exact same ▸ byte.toNat_lt
  have chars : ∀ c ∈ (rebase 256 58 (bytes.map UInt8.toNat)).map digitChar, c.toNat < 128 := by
    intro c member
    obtain ⟨digit, -, same⟩ := List.mem_map.mp member
    exact same ▸ digitChar_ascii digit
  rw [decode, encode, Codec.ascii_ofList chars, mapM_charDigit_eq_some.mpr ⟨small, rfl⟩,
    Option.map_some, rebase_rebase (by decide) _ bounded, map_ofNat_map_toNat]

/-- A byte string is read from its own text only. -/
theorem encode_decode {text : String} {bytes : List UInt8} (read : decode text = some bytes) :
    encode bytes = text := by
  obtain ⟨digits, chars, same⟩ := Option.map_eq_some_iff.mp read
  subst bytes
  obtain ⟨small, spelled⟩ := mapM_charDigit_eq_some.mp chars
  have plain : ∀ c ∈ Codec.ascii text, c.toNat < 128 := by
    intro c member
    rw [← spelled] at member
    obtain ⟨digit, -, same⟩ := List.mem_map.mp member
    exact same ▸ digitChar_ascii digit
  have bounded : ∀ digit ∈ rebase 58 256 digits, digit < 256 := rebase_lt (by decide) _
  rw [encode, map_toNat_map_ofNat bounded, rebase_rebase (by decide) _ small, spelled,
    Codec.ofList_ascii plain]

section Lengths

/-- The leading zeros of a digit string. -/
def zeros (digits : List Nat) : List Nat := digits.takeWhile (· = 0)

/-- A digit string is its leading zeros and its number. -/
theorem length_eq_zeros_add (oneLtBase : 1 < base) {digits : List Nat}
    (small : ∀ digit ∈ digits, digit < base) :
    digits.length =
      (zeros digits).length + (Nat.digits base (Nat.ofDigits base digits.reverse)).length := by
  have bodySmall : ∀ digit ∈ (digits.dropWhile (· = 0)).reverse, digit < base :=
    fun digit member => small digit (List.dropWhile_sublist _ |>.subset (List.mem_reverse.mp member))
  have read := Nat.digits_ofDigits base oneLtBase (digits.dropWhile (· = 0)).reverse bodySmall
    (getLast_dropWhile_reverse digits)
  rw [ofDigits_reverse_dropWhile, read, List.length_reverse, zeros, ← List.length_append,
    List.takeWhile_append_dropWhile]

theorem length_rebase (source target : Nat) (digits : List Nat) :
    (rebase source target digits).length =
      (zeros digits).length + (Nat.digits target (Nat.ofDigits source digits.reverse)).length := by
  rw [rebase, List.length_append, List.length_reverse, zeros]

/-- What a text decodes to, as a number behind the zeros of the text. -/
theorem decode_eq_some {text : String} {bytes : List UInt8} (read : decode text = some bytes) :
    ∃ digits : List Nat, text.toList = digits.map digitChar ∧ (∀ digit ∈ digits, digit < 58) ∧
      bytes.length = (rebase 58 256 digits).length := by
  obtain ⟨digits, chars, same⟩ := Option.map_eq_some_iff.mp read
  obtain ⟨small, spelled⟩ := mapM_charDigit_eq_some.mp chars
  have plain : ∀ c ∈ Codec.ascii text, c.toNat < 128 := by
    intro c member
    rw [← spelled] at member
    obtain ⟨digit, -, same⟩ := List.mem_map.mp member
    exact same ▸ digitChar_ascii digit
  refine ⟨digits, ?_, small, by rw [← same, List.length_map]⟩
  rw [spelled]
  exact Codec.toList_of_ascii plain

/-- A text that decodes is written in the alphabet. -/
theorem mem_alphabet_of_decode {text : String} {bytes : List UInt8}
    (read : decode text = some bytes) : ∀ c ∈ text.toList, c ∈ alphabet := by
  obtain ⟨digits, spelled, small, -⟩ := decode_eq_some read
  intro c member
  rw [spelled] at member
  obtain ⟨digit, listed, rfl⟩ := List.mem_map.mp member
  have inside : digit < alphabet.length := small digit listed
  rw [digitChar, List.getD_eq_getElem?_getD, List.getElem?_eq_getElem inside, Option.getD_some]
  exact List.getElem_mem inside

/-- The bytes of a text are as many as its zeros and the bytes of its number. -/
theorem length_of_decode {text : String} {bytes : List UInt8} (read : decode text = some bytes) :
    ∃ leading value : Nat, text.toList.length = leading + (Nat.digits 58 value).length ∧
      bytes.length = leading + (Nat.digits 256 value).length ∧
      (text.toList.head? ≠ some '1' → leading = 0) := by
  obtain ⟨digits, spelled, small, length⟩ := decode_eq_some read
  refine ⟨(zeros digits).length, Nat.ofDigits 58 digits.reverse, ?_, ?_, ?_⟩
  · rw [spelled, List.length_map]
    exact length_eq_zeros_add (by decide) small
  · rw [length, length_rebase]
  · intro unled
    cases digits with
    | nil => rfl
    | cons digit rest =>
      have nonzero : digit ≠ 0 := by
        rintro rfl
        exact unled (by rw [spelled]; rfl)
      simp [zeros, nonzero]

/-- The text of 32 bytes has 32 to 44 characters. -/
theorem length_of_decode_32 {text : String} {bytes : List UInt8}
    (read : decode text = some bytes) (size : bytes.length = 32) :
    32 ≤ text.toList.length ∧ text.toList.length ≤ 44 := by
  obtain ⟨leading, value, chars, long, -⟩ := length_of_decode read
  have split : 32 = leading + (Nat.digits 256 value).length := by omega
  have below : value < 256 ^ (32 - leading) :=
    (Nat.digits_length_le_iff (by decide) value).mp (by omega)
  constructor
  · have shorter : (Nat.digits 256 value).length ≤ (Nat.digits 58 value).length := by
      apply (Nat.digits_length_le_iff (by decide) value).mpr
      calc value < 58 ^ (Nat.digits 58 value).length := Nat.lt_base_pow_length_digits (by decide)
        _ ≤ 256 ^ (Nat.digits 58 value).length := Nat.pow_le_pow_left (by decide) _
    omega
  · have enough : 256 ^ (32 - leading) * 58 ^ leading ≤ 58 ^ 44 := by
      calc 256 ^ (32 - leading) * 58 ^ leading
          ≤ 256 ^ (32 - leading) * 256 ^ leading :=
            Nat.mul_le_mul_left _ (Nat.pow_le_pow_left (by decide) _)
        _ = 256 ^ 32 := by rw [← Nat.pow_add]; congr 1; omega
        _ ≤ 58 ^ 44 := by decide
    have room : 256 ^ (32 - leading) ≤ 58 ^ (44 - leading) := by
      have whole : 58 ^ (44 - leading) * 58 ^ leading = 58 ^ 44 := by
        rw [← Nat.pow_add]
        congr 1
        omega
      exact Nat.le_of_mul_le_mul_right (whole ▸ enough) (Nat.pow_pos (by decide))
    have bounded : (Nat.digits 58 value).length ≤ 44 - leading :=
      (Nat.digits_length_le_iff (by decide) value).mpr (below.trans_le room)
    omega

/-- A text of 32 bytes that does not start with the digit zero has 43 or 44 characters. -/
theorem length_of_decode_32_unled {text : String} {bytes : List UInt8}
    (read : decode text = some bytes) (size : bytes.length = 32)
    (unled : text.toList.head? ≠ some '1') :
    text.toList.length = 43 ∨ text.toList.length = 44 := by
  have bounded := (length_of_decode_32 read size).2
  obtain ⟨leading, value, chars, long, none⟩ := length_of_decode read
  have zero : leading = 0 := none unled
  have least : 256 ^ 31 ≤ value := (Nat.lt_digits_length_iff (by decide) value).mp (by omega)
  have many : 42 < (Nat.digits 58 value).length := by
    apply (Nat.lt_digits_length_iff (by decide) value).mpr
    exact (by decide : 58 ^ 42 ≤ 256 ^ 31).trans least
  omega

end Lengths

end Base58
