import Patala.Lib.Fallible

/-! Base64 text with padding: four characters for three bytes, six bits each and most significant
first; the last four may stand for two bytes or for one. -/

namespace Base64

def alphabet : List Char :=
  "ABCDEFGHIJKLMNOPQRSTUVWXYZabcdefghijklmnopqrstuvwxyz0123456789+/".toList

def digit (value : Nat) : Char := alphabet.getD value 'A'

def charValue (c : Char) : Option Nat :=
  if 65 ≤ c.toNat ∧ c.toNat ≤ 90 then some (c.toNat - 65)
  else if 97 ≤ c.toNat ∧ c.toNat ≤ 122 then some (c.toNat - 71)
  else if 48 ≤ c.toNat ∧ c.toNat ≤ 57 then some (c.toNat + 4)
  else if c = '+' then some 62
  else if c = '/' then some 63
  else none

/-- The bytes of four characters. Bits that the padding leaves over are zero. -/
def quantum (w x y z : Char) : Option (List UInt8) := do
  let first ← charValue w
  let second ← charValue x
  if y = '=' ∧ z = '=' then
    if second % 16 = 0 then some [UInt8.ofNat (first * 4 + second / 16)] else none
  else
    let third ← charValue y
    if z = '=' then
      if third % 4 = 0 then
        some [UInt8.ofNat (first * 4 + second / 16), UInt8.ofNat (second % 16 * 16 + third / 4)]
      else none
    else
      let fourth ← charValue z
      some [UInt8.ofNat (first * 4 + second / 16), UInt8.ofNat (second % 16 * 16 + third / 4),
        UInt8.ofNat (third % 4 * 64 + fourth)]

/-- The byte string of a text; only its last four characters may be padded. -/
def decode : List Char → Option (List UInt8)
  | [] => some []
  | w :: x :: y :: z :: rest => do
    let bytes ← quantum w x y z
    if z = '=' ∧ rest ≠ [] then none else return bytes ++ (← decode rest)
  | _ => none

section Digits

theorem charValue_digit : ∀ value < 64, charValue (digit value) = some value := by
  decide +kernel

theorem digit_ne_pad : ∀ value < 64, digit value ≠ '=' := by
  decide +kernel

end Digits

section Quantum

variable {first second third fourth : Nat}

theorem quantum_one (one : first < 64) (two : second < 64) (even : second % 16 = 0) :
    quantum (digit first) (digit second) '=' '=' =
      some [UInt8.ofNat (first * 4 + second / 16)] := by
  simp [quantum, charValue_digit first one, charValue_digit second two, even]

theorem quantum_two (one : first < 64) (two : second < 64) (three : third < 64)
    (even : third % 4 = 0) :
    quantum (digit first) (digit second) (digit third) '=' =
      some [UInt8.ofNat (first * 4 + second / 16), UInt8.ofNat (second % 16 * 16 + third / 4)] := by
  simp [quantum, charValue_digit first one, charValue_digit second two,
    charValue_digit third three, digit_ne_pad third three, even]

theorem quantum_three (one : first < 64) (two : second < 64) (three : third < 64)
    (four : fourth < 64) :
    quantum (digit first) (digit second) (digit third) (digit fourth) =
      some [UInt8.ofNat (first * 4 + second / 16), UInt8.ofNat (second % 16 * 16 + third / 4),
        UInt8.ofNat (third % 4 * 64 + fourth)] := by
  simp [quantum, charValue_digit first one, charValue_digit second two,
    charValue_digit third three, charValue_digit fourth four, digit_ne_pad third three,
    digit_ne_pad fourth four]

end Quantum

section Decode

variable {w x y z : Char} {bytes : List UInt8}

theorem decode_last (read : quantum w x y z = some bytes) :
    decode [w, x, y, z] = some bytes := by
  simp [decode, read]

theorem decode_cons {rest : List Char} (read : quantum w x y z = some bytes) (plain : z ≠ '=') :
    decode (w :: x :: y :: z :: rest) = (decode rest).map (bytes ++ ·) := by
  rw [decode, read, Option.bind_eq_bind, Option.bind_some, if_neg fun padded => plain padded.1]
  cases decode rest <;> rfl

end Decode

end Base64
