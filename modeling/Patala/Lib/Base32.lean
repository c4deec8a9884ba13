import Patala.Lib.Codec
import Patala.Lib.Fallible

/-! Base32 text, read in either case: five bits a character, most significant first, and
eight bits a byte; what is left of a byte at the end is dropped. -/

namespace Base32

def charValue (c : Char) : Option Nat :=
  if 65 ≤ c.toNat ∧ c.toNat ≤ 90 then some (c.toNat - 65)
  else if 97 ≤ c.toNat ∧ c.toNat ≤ 122 then some (c.toNat - 97)
  else if 50 ≤ c.toNat ∧ c.toNat ≤ 55 then some (c.toNat - 24)
  else none

def bits (digit : Nat) : List Bool :=
  [digit.testBit 4, digit.testBit 3, digit.testBit 2, digit.testBit 1, digit.testBit 0]

def ofBits (bits : List Bool) : Nat := bits.foldl (fun value bit => 2 * value + bit.toNat) 0

def octets : List Bool → List UInt8
  | a :: b :: c :: d :: e :: f :: g :: h :: rest =>
    UInt8.ofNat (ofBits [a, b, c, d, e, f, g, h]) :: octets rest
  | _ => []

/-- The byte string of a text; none when a byte of it is no digit. -/
def decode (text : String) : Option (List UInt8) :=
  ((Codec.ascii text).mapM charValue).map fun digits => octets (digits.flatMap bits)

section Digits

/-- The characters that have a value: letters, and the digits from two to seven. -/
def IsDigit (c : Char) : Prop :=
  (65 ≤ c.toNat ∧ c.toNat ≤ 90) ∨ (97 ≤ c.toNat ∧ c.toNat ≤ 122) ∨ (50 ≤ c.toNat ∧ c.toNat ≤ 55)

theorem charValue_eq_some {c : Char} {value : Nat} (read : charValue c = some value) :
    IsDigit c ∧ value < 32 := by
  unfold charValue at read
  unfold IsDigit
  split at read
  · cases read
    omega
  split at read
  · cases read
    omega
  split at read
  · cases read
    omega
  · cases read

/-- The first values are letters, in either case. -/
theorem charValue_letter {c : Char} {value : Nat} (read : charValue c = some value)
    (letter : value < 26) : c.toNat = 65 + value ∨ c.toNat = 97 + value := by
  unfold charValue at read
  split at read
  · cases read
    omega
  split at read
  · cases read
    omega
  split at read
  · cases read
    omega
  · cases read

theorem IsDigit.ascii {c : Char} (digit : IsDigit c) : c.toNat < 128 := by
  unfold IsDigit at digit
  omega

/-- The first five bits of a byte are the digit they were written with. -/
theorem first_octet : ∀ first < 32, ∀ second < 32,
    (octets (bits first ++ bits second)).head?.map (fun byte => byte.toNat / 8) = some first := by
  decide

end Digits

/-- A text that is read has only digits. -/
theorem isDigit_of_decode {text : String} {bytes : List UInt8} (read : decode text = some bytes) :
    text.toList = Codec.ascii text ∧ ∀ c ∈ text.toList, IsDigit c := by
  obtain ⟨digits, values, -⟩ := Option.map_eq_some_iff.mp read
  have digit : ∀ c ∈ Codec.ascii text, IsDigit c := by
    intro c member
    obtain ⟨value, here⟩ := Fallible.answered_of_mapM values c member
    exact (charValue_eq_some here).1
  have spelled := Codec.toList_of_ascii fun c member => (digit c member).ascii
  exact ⟨spelled, spelled ▸ digit⟩

/-- The first character of a text is the first five bits of its first byte. -/
theorem head_of_decode {text : String} {byte : UInt8} {bytes : List UInt8}
    (read : decode text = some (byte :: bytes)) :
    ∃ c, text.toList.head? = some c ∧ charValue c = some (byte.toNat / 8) := by
  rw [(isDigit_of_decode read).1]
  obtain ⟨digits, values, same⟩ := Option.map_eq_some_iff.mp read
  have paired := Fallible.mapM_eq_some.mp values
  generalize Codec.ascii text = chars at paired
  cases paired with
  | nil => cases same
  | @cons c first _ _ here later =>
    cases later with
    | nil => cases same
    | @cons _ second _ _ there _ =>
      have value := first_octet first (charValue_eq_some here).2 second (charValue_eq_some there).2
      have head : (octets (bits first ++ bits second)).head? = some byte := congrArg List.head? same
      rw [head, Option.map_some] at value
      exact ⟨c, rfl, Option.some.inj value ▸ here⟩

end Base32
