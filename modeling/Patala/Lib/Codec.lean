import Mathlib.Logic.Equiv.List

/-! Codecs that can be run: lower-case hexadecimal, and a finite table of known
codes extended to every value of an encodable type. -/

namespace Codec

/-- What every item of a list passes, checked item by item. -/
theorem forall_mem_of_all {p : α → Prop} [DecidablePred p] {items : List α}
    (checked : (items.all fun item => decide (p item)) = true) : ∀ item ∈ items, p item := by
  intro item member
  exact of_decide_eq_true (List.all_eq_true.mp checked item member)

section Ascii

/-- What holds of the characters of the codes below 128 holds of every ASCII character. -/
theorem forall_ascii {p : Char → Prop} (table : ∀ code < 128, p (Char.ofNat code)) :
    ∀ c : Char, c.toNat < 128 → p c := by
  intro c small
  have here := table c.toNat small
  rwa [Char.ofNat_toNat] at here

theorem forall_byte {p : UInt8 → Prop} (table : ∀ code < 256, p (UInt8.ofNat code)) :
    ∀ b : UInt8, p b := by
  intro b
  have here := table b.toNat b.toNat_lt
  rwa [UInt8.ofNat_toNat] at here

theorem toNat_byteChar (b : UInt8) : (Char.ofNat b.toNat).toNat = b.toNat := by
  rw [Char.ofNat, dif_pos (Or.inl (b.toNat_lt.trans (by decide)))]
  rfl

theorem byteChar_inj {a b : UInt8} : Char.ofNat a.toNat = Char.ofNat b.toNat ↔ a = b := by
  constructor
  · intro same
    have values := congrArg Char.toNat same
    rw [toNat_byteChar, toNat_byteChar] at values
    exact UInt8.toNat_inj.mp values
  · intro same
    rw [same]

/-- The bytes of a text, each as the character of its value. -/
def ascii (text : String) : List Char :=
  text.toByteArray.data.toList.map fun byte => Char.ofNat byte.toNat

theorem utf8EncodeChar_of_ascii {c : Char} (small : c.toNat < 128) :
    String.utf8EncodeChar c = [UInt8.ofNat c.toNat] := by
  have size : c.utf8Size = 1 := Char.utf8Size_eq_one_iff.mpr (by
    rw [UInt32.le_iff_toNat_le]
    exact Nat.le_of_lt_succ small)
  rw [String.utf8EncodeChar_eq_singleton size]
  congr 1

theorem bytes_ofList {chars : List Char} (small : ∀ c ∈ chars, c.toNat < 128) :
    (String.ofList chars).toByteArray.data.toList = chars.map fun c => UInt8.ofNat c.toNat := by
  have encoded : (String.ofList chars).toByteArray.data.toList =
      chars.flatMap String.utf8EncodeChar := by simp [List.utf8Encode]
  rw [encoded]
  induction chars with
  | nil => rfl
  | cons c rest ih =>
    obtain ⟨here, later⟩ := List.forall_mem_cons.mp small
    have tail := ih later (by simp [List.utf8Encode])
    rw [List.flatMap_cons, utf8EncodeChar_of_ascii here, tail]
    rfl

theorem ascii_ofList {chars : List Char} (small : ∀ c ∈ chars, c.toNat < 128) :
    ascii (String.ofList chars) = chars := by
  rw [ascii, bytes_ofList small, List.map_map]
  conv_rhs => rw [← List.map_id chars]
  apply List.map_congr_left
  intro c member
  have fits : c.toNat < 2 ^ 8 := (small c member).trans (by decide)
  rw [Function.comp_apply, UInt8.toNat_ofNat_of_lt' fits, Char.ofNat_toNat, id_eq]

/-- A text whose bytes are all ASCII is the text of those characters. -/
theorem ofList_ascii {text : String} (small : ∀ c ∈ ascii text, c.toNat < 128) :
    String.ofList (ascii text) = text := by
  have bytes : (ascii text).map (fun c => UInt8.ofNat c.toNat) = text.toByteArray.data.toList := by
    rw [ascii, List.map_map]
    conv_rhs => rw [← List.map_id text.toByteArray.data.toList]
    apply List.map_congr_left
    intro byte _
    rw [Function.comp_apply, toNat_byteChar, UInt8.ofNat_toNat, id_eq]
  apply String.toByteArray_inj.mp
  apply ByteArray.ext
  apply Array.toList_inj.mp
  rw [bytes_ofList small, bytes]

/-- The characters of a text whose bytes are all ASCII. -/
theorem toList_of_ascii {text : String} (small : ∀ c ∈ ascii text, c.toNat < 128) :
    text.toList = ascii text := by
  conv_lhs => rw [← ofList_ascii small]
  exact String.toList_ofList

theorem toLower_of_large {c : Char} (large : ¬ c.toNat < 128) : c.toLower = c := by
  unfold Char.toLower
  rw [dif_neg]
  rintro ⟨-, letter⟩
  exact large (Nat.lt_of_le_of_lt letter (by decide))

/-- What is true of a character's lower case in ASCII is true of every character's. -/
theorem toLower_table (property : Char → Char → Prop) (unchanged : ∀ c, property c c)
    (table : ∀ code < 128, property (Char.ofNat code) (Char.ofNat code).toLower) (c : Char) :
    property c c.toLower := by
  have ascii : ∀ c : Char, c.toNat < 128 → property c c.toLower := forall_ascii table
  by_cases small : c.toNat < 128
  · exact ascii c small
  · rw [toLower_of_large small]
    exact unchanged c

end Ascii

section Hex

def hexDigit (value : Nat) : Char := "0123456789abcdef".toList.getD value '0'

def hexValue (digit : Char) : Option Nat :=
  if '0' ≤ digit ∧ digit ≤ '9' then some (digit.toNat - '0'.toNat)
  else if 'a' ≤ digit ∧ digit ≤ 'f' then some (digit.toNat - 'a'.toNat + 10)
  else if 'A' ≤ digit ∧ digit ≤ 'F' then some (digit.toNat - 'A'.toNat + 10)
  else none

theorem hexValue_hexDigit : ∀ value < 16, hexValue (hexDigit value) = some value := by decide

def hexDigits : List UInt8 → List Char
  | [] => []
  | byte :: rest => hexDigit (byte.toNat / 16) :: hexDigit (byte.toNat % 16) :: hexDigits rest

def hexBytes : List Char → Option (List UInt8)
  | [] => some []
  | [_] => none
  | high :: low :: rest => do
    let high ← hexValue high
    let low ← hexValue low
    let rest ← hexBytes rest
    return UInt8.ofNat (16 * high + low) :: rest

theorem hexBytes_hexDigits (bytes : List UInt8) : hexBytes (hexDigits bytes) = some bytes := by
  induction bytes with
  | nil => rfl
  | cons byte rest ih =>
    have small := byte.toNat_lt
    have high := hexValue_hexDigit (byte.toNat / 16) (by omega)
    have low := hexValue_hexDigit (byte.toNat % 16) (by omega)
    have whole : UInt8.ofNat (16 * (byte.toNat / 16) + byte.toNat % 16) = byte := by
      rw [Nat.div_add_mod, UInt8.ofNat_toNat]
    simp only [hexDigits, hexBytes, high, low, ih, Option.bind_eq_bind, Option.bind_some, whole]
    rfl

theorem hexDigit_ascii : ∀ value < 16, (hexDigit value).toNat < 128 := by decide

theorem hexDigits_ascii (bytes : List UInt8) : ∀ c ∈ hexDigits bytes, c.toNat < 128 := by
  induction bytes with
  | nil => simp [hexDigits]
  | cons byte rest ih =>
    have small := byte.toNat_lt
    have high := hexDigit_ascii (byte.toNat / 16) (by omega)
    have low := hexDigit_ascii (byte.toNat % 16) (by omega)
    exact List.forall_mem_cons.mpr ⟨high, List.forall_mem_cons.mpr ⟨low, ih⟩⟩

theorem length_hexDigits (bytes : List UInt8) : (hexDigits bytes).length = 2 * bytes.length := by
  induction bytes with
  | nil => rfl
  | cons byte rest ih => rw [hexDigits, List.length_cons, List.length_cons, ih, List.length_cons]; rfl

def hexEncode (bytes : List UInt8) : String := String.ofList (hexDigits bytes)

def hexDecode (text : String) : Option (List UInt8) := hexBytes (ascii text)

theorem hexDecode_hexEncode (bytes : List UInt8) : hexDecode (hexEncode bytes) = some bytes := by
  rw [hexDecode, hexEncode, ascii_ofList (hexDigits_ascii bytes), hexBytes_hexDigits]

theorem hexValue_ascii {digit : Char} {value : Nat} (read : hexValue digit = some value) :
    digit.toNat < 128 := by
  have below : digit ≤ '9' ∨ digit ≤ 'f' ∨ digit ≤ 'F' := by
    unfold hexValue at read
    split at read
    · exact .inl (‹_ ∧ _›).2
    · split at read
      · exact .inr (.inl (‹_ ∧ _›).2)
      · split at read
        · exact .inr (.inr (‹_ ∧ _›).2)
        · cases read
  rcases below with small | small | small <;> exact Nat.lt_of_le_of_lt small (by decide)

theorem hexDigit_spelling : ∀ digit : Char, digit.toNat < 128 → ∀ value ∈ hexValue digit,
    digit = if digit.isUpper then (hexDigit value).toUpper else hexDigit value :=
  forall_ascii (by decide)

/-- A digit is its value and its letter case. -/
theorem hexValue_eq_iff {a b : Char} {value : Nat} (readA : hexValue a = some value)
    (readB : hexValue b = some value) : a = b ↔ a.isUpper = b.isUpper := by
  constructor
  · intro same
    rw [same]
  · intro letters
    have spelledA := hexDigit_spelling a (hexValue_ascii readA) value readA
    have spelledB := hexDigit_spelling b (hexValue_ascii readB) value readB
    rw [spelledA, spelledB, letters]

theorem hexBytes_cons_cons {high low : Char} {rest : List Char} {bytes : List UInt8} :
    hexBytes (high :: low :: rest) = some bytes ↔ ∃ upper lower later,
      hexValue high = some upper ∧ hexValue low = some lower ∧ hexBytes rest = some later ∧
        UInt8.ofNat (16 * upper + lower) :: later = bytes := by
  simp only [hexBytes, Option.bind_eq_bind, Option.bind_eq_some_iff, Option.pure_def,
    Option.some.injEq]
  constructor
  · rintro ⟨upper, readHigh, lower, readLow, later, readRest, same⟩
    exact ⟨upper, lower, later, readHigh, readLow, readRest, same⟩
  · rintro ⟨upper, lower, later, readHigh, readLow, readRest, same⟩
    exact ⟨upper, readHigh, lower, readLow, later, readRest, same⟩

theorem hexValue_lt : ∀ {digit : Char} {value : Nat}, hexValue digit = some value → value < 16 := by
  intro digit value read
  have bounded : ∀ c : Char, c.toNat < 128 → ∀ value ∈ hexValue c, value < 16 :=
    forall_ascii (by decide)
  exact bounded digit (hexValue_ascii read) value read

/-- The value of a digit is a byte. -/
theorem toNat_hexValue {digit : Char} {value : Nat} (read : hexValue digit = some value) :
    (UInt8.ofNat value).toNat = value :=
  UInt8.toNat_ofNat_of_lt' ((hexValue_lt read).trans (by decide))

theorem hexValue_of_hexBytes {chars : List Char} {bytes : List UInt8}
    (read : hexBytes chars = some bytes) : ∀ c ∈ chars, ∃ value, hexValue c = some value := by
  induction chars using hexBytes.induct generalizing bytes with
  | case1 => simp
  | case2 => cases read
  | case3 high low rest ih =>
    obtain ⟨upper, lower, later, readHigh, readLow, readRest, -⟩ := hexBytes_cons_cons.mp read
    exact List.forall_mem_cons.mpr ⟨⟨upper, readHigh⟩,
      List.forall_mem_cons.mpr ⟨⟨lower, readLow⟩, ih readRest⟩⟩

theorem hexBytes_ascii {chars : List Char} {bytes : List UInt8} (read : hexBytes chars = some bytes) :
    ∀ c ∈ chars, c.toNat < 128 := by
  intro c member
  obtain ⟨value, digit⟩ := hexValue_of_hexBytes read c member
  exact hexValue_ascii digit

/-- Texts of the same bytes differ in the case of their letters only. -/
theorem hexBytes_eq_iff {a b : List Char} {bytes : List UInt8} (readA : hexBytes a = some bytes)
    (readB : hexBytes b = some bytes) : a = b ↔ a.map Char.isUpper = b.map Char.isUpper := by
  induction a using hexBytes.induct generalizing b bytes with
  | case1 =>
    cases readA
    cases b with
    | nil => simp
    | cons => simp
  | case2 => cases readA
  | case3 high low rest ih =>
    obtain ⟨upper, lower, later, readHigh, readLow, readRest, rfl⟩ := hexBytes_cons_cons.mp readA
    match b, readB with
    | high' :: low' :: rest', readB =>
      obtain ⟨upper', lower', later', readHigh', readLow', readRest', same⟩ :=
        hexBytes_cons_cons.mp readB
      have halves := hexValue_lt readHigh
      have halves' := hexValue_lt readHigh'
      have low16 := hexValue_lt readLow
      have low16' := hexValue_lt readLow'
      have first := congrArg UInt8.toNat (List.cons.inj same).1
      rw [UInt8.toNat_ofNat_of_lt' (by show _ < 256; omega),
        UInt8.toNat_ofNat_of_lt' (by show _ < 256; omega)] at first
      obtain rfl : upper' = upper := by omega
      obtain rfl : lower' = lower := by omega
      obtain rfl := (List.cons.inj same).2
      rw [List.cons.injEq, List.cons.injEq, List.map_cons, List.map_cons, List.map_cons,
        List.map_cons, List.cons.injEq, List.cons.injEq, hexValue_eq_iff readHigh readHigh',
        hexValue_eq_iff readLow readLow', ih readRest readRest']

/-- A text that is read is ASCII, so its bytes are its characters. -/
theorem ascii_of_hexDecode {text : String} {bytes : List UInt8}
    (read : hexDecode text = some bytes) : ascii text = text.toList := by
  have whole := ofList_ascii (hexBytes_ascii read)
  rw [← whole, String.toList_ofList, whole]

/-- A text is read by its characters. -/
theorem hexDecode_ofList {chars : List Char} (small : ∀ c ∈ chars, c.toNat < 128) :
    hexDecode (String.ofList chars) = hexBytes chars := by
  rw [hexDecode, ascii_ofList small]

/-- A hexadecimal text has hexadecimal digits only. -/
theorem forall_of_hexDecode {text : String} {bytes : List UInt8} {p : Char → Prop}
    (digits : ∀ code < 128, ∀ value ∈ hexValue (Char.ofNat code), p (Char.ofNat code))
    (read : hexDecode text = some bytes) : ∀ c ∈ text.toList, p c := by
  rw [← ascii_of_hexDecode read]
  intro c member
  obtain ⟨value, digit⟩ := hexValue_of_hexBytes read c member
  have each : ∀ c : Char, c.toNat < 128 → ∀ value ∈ hexValue c, p c := forall_ascii digits
  exact each c (hexValue_ascii digit) value digit

/-- A text is decoded from what its characters spell. -/
theorem hexDecode_of_chars {text : String} {chars : List Char} {bytes : List UInt8}
    (spelled : text = String.ofList chars) (read : hexBytes chars = some bytes) :
    hexDecode text = some bytes := by
  rw [spelled, hexDecode_ofList (hexBytes_ascii read), read]

theorem hexValue_toUpper (digit : Char) : hexValue digit.toUpper = hexValue digit := by
  have table : ∀ c : Char, c.toNat < 128 → hexValue c.toUpper = hexValue c :=
    forall_ascii (by decide)
  by_cases small : digit.toNat < 128
  · exact table digit small
  · have upper : digit.toUpper = digit := dif_neg fun lower =>
      small (Nat.lt_of_le_of_lt (UInt32.le_iff_toNat_le.mp lower.2) (by decide))
    rw [upper]

/-- Digits in upper case are read the same. -/
theorem hexBytes_map_toUpper (chars : List Char) :
    hexBytes (chars.map Char.toUpper) = hexBytes chars := by
  induction chars using hexBytes.induct with
  | case1 => rfl
  | case2 => rfl
  | case3 high low rest ih =>
    rw [List.map_cons, List.map_cons, hexBytes, hexBytes, hexValue_toUpper, hexValue_toUpper, ih]

theorem hexDecode_eq_iff {a b : String} {bytes : List UInt8} (readA : hexDecode a = some bytes)
    (readB : hexDecode b = some bytes) :
    a = b ↔ a.toList.map Char.isUpper = b.toList.map Char.isUpper := by
  rw [← String.toList_inj, ← ascii_of_hexDecode readA, ← ascii_of_hexDecode readB]
  exact hexBytes_eq_iff readA readB

end Hex

/-- A text put together from texts of known characters. -/
theorem append_of_chars {a b : String} {as bs : List Char} (spelled : a = String.ofList as)
    (spelled' : b = String.ofList bs) : a ++ b = String.ofList (as ++ bs) := by
  rw [spelled, spelled', String.ofList_append]

section Text

instance encodableChar : Encodable Char :=
  Encodable.ofLeftInverse Char.toNat Char.ofNat Char.ofNat_toNat

instance encodableString : Encodable String :=
  Encodable.ofLeftInverse String.toList String.ofList fun _ => String.ofList_toList

instance encodableUInt8 : Encodable UInt8 :=
  Encodable.ofLeftInverse UInt8.toNat UInt8.ofNat fun _ => UInt8.ofNat_toNat

end Text

section Table

/-- Codes set aside for numbers, told apart from all others by reading them back. -/
structure Marking (δ : Type) where
  mark : Nat → δ
  unmark : δ → Option Nat
  unmark_mark : ∀ number, unmark (mark number) = some number

/-- Byte strings that start with a zero byte. -/
def zeroMarking : Marking (List UInt8) where
  mark number := List.replicate (number + 1) 0
  unmark
    | 0 :: rest => some rest.length
    | _ => none
  unmark_mark number := by simp [List.replicate_succ]

/-- Texts that start with an exclamation mark. -/
def bangMarking : Marking String where
  mark number := String.ofList (List.replicate (number + 1) '!')
  unmark text :=
    match ascii text with
    | '!' :: rest => some rest.length
    | _ => none
  unmark_mark number := by
    have small : ∀ c ∈ List.replicate (number + 1) '!', c.toNat < 128 := by
      intro c member
      rw [List.eq_of_mem_replicate member]
      decide
    rw [ascii_ofList small]
    simp [List.replicate_succ]

variable {α δ : Type} [Encodable α] [DecidableEq α] [DecidableEq δ]

/-- The code of a value: its entry in the table, or the mark of its number. -/
def encode (marking : Marking δ) (table : List (α × δ)) (value : α) : δ :=
  match table.find? fun entry => entry.1 = value with
  | some entry => entry.2
  | none => marking.mark (Encodable.encode value)

def decode (marking : Marking δ) (table : List (α × δ)) (code : δ) : Option α :=
  match table.find? fun entry => entry.2 = code with
  | some entry => some entry.1
  | none => (marking.unmark code).bind Encodable.decode

/-- Distinct codes, none of which is a mark. -/
structure WellFormed (marking : Marking δ) (table : List (α × δ)) : Prop where
  distinct : (table.map Prod.snd).Nodup
  unmarked : ∀ entry ∈ table, marking.unmark entry.2 = none

omit [Encodable α] [DecidableEq α] in
theorem find?_code {table : List (α × δ)} (distinct : (table.map Prod.snd).Nodup)
    (member : entry ∈ table) : table.find? (fun other => other.2 = entry.2) = some entry := by
  induction table with
  | nil => simp at member
  | cons first rest ih =>
    obtain ⟨fresh, restDistinct⟩ := List.nodup_cons.mp distinct
    rcases List.mem_cons.mp member with same | later
    · subst entry
      simp
    · have differs : first.2 ≠ entry.2 := by
        intro same
        exact fresh (List.mem_map.mpr ⟨entry, later, same.symm⟩)
      rw [List.find?_cons_of_neg (by simpa using differs)]
      exact ih restDistinct later

theorem decode_encode {marking : Marking δ} {table : List (α × δ)}
    (valid : WellFormed marking table) (value : α) :
    decode marking table (encode marking table value) = some value := by
  cases known : table.find? fun entry => entry.1 = value with
  | some entry =>
    have member := List.mem_of_find?_eq_some known
    have same : entry.1 = value := by simpa using List.find?_some known
    simp only [encode, known, decode, find?_code valid.distinct member, same]
  | none =>
    have absent : table.find? (fun entry =>
        entry.2 = marking.mark (Encodable.encode value)) = none := by
      apply List.find?_eq_none.mpr
      intro entry member same
      have code : entry.2 = marking.mark (Encodable.encode value) := by simpa using same
      have unmarked := valid.unmarked entry member
      rw [code, marking.unmark_mark] at unmarked
      cases unmarked
    simp [encode, known, decode, absent, marking.unmark_mark]

end Table

end Codec
