import Mathlib.Data.List.DropRight
import Patala.Lib.Codec
import Patala.Lib.Framing

/-! Rust text. A `str` is UTF-8 in one allocation, so its byte length fits the
eight-byte length prefixes the bindings hash. -/

namespace Patala

/-- The UTF-8 bytes of a string, `str::as_bytes`. -/
def asBytes (text : String) : List UInt8 := text.toByteArray.data.toList

theorem asBytes_injective : Function.Injective asBytes := by
  intro a b same
  apply String.toByteArray_inj.mp
  exact ByteArray.ext (Array.toList_inj.mp same)

theorem asBytes_append (a b : String) : asBytes (a ++ b) = asBytes a ++ asBytes b := by
  simp [asBytes, String.toByteArray_append]

/-- The bytes are those of the characters. -/
theorem asBytes_eq (text : String) : asBytes text = text.toList.flatMap String.utf8EncodeChar := by
  have encoded (chars : List Char) :
      asBytes (String.ofList chars) = chars.flatMap String.utf8EncodeChar := by
    simp [asBytes, List.utf8Encode]
  have here := encoded text.toList
  rwa [String.ofList_toList] at here

/-- A text of ASCII characters has as many bytes as characters. -/
theorem length_asBytes_of_ascii {text : String} (plain : ∀ c ∈ text.toList, c.toNat < 128) :
    (asBytes text).length = text.toList.length := by
  have bytes := Codec.bytes_ofList plain
  rw [String.ofList_toList] at bytes
  rw [asBytes, bytes, List.length_map]

/-- `String::from_utf8`. -/
def fromUtf8 (bytes : List UInt8) : Option String := String.fromUTF8? ⟨bytes.toArray⟩

@[simp] theorem fromUtf8_asBytes (text : String) : fromUtf8 (asBytes text) = some text := by
  have valid : text.toByteArray.IsValidUTF8 := text.isValidUTF8
  have read : String.fromUTF8? text.toByteArray = some text := dif_pos valid
  simpa [fromUtf8, asBytes] using read

theorem asBytes_of_fromUtf8 {bytes : List UInt8} {text : String}
    (read : fromUtf8 bytes = some text) : asBytes text = bytes := by
  unfold fromUtf8 String.fromUTF8? at read
  split at read
  · rw [← Option.some.inj read]
    rfl
  · cases read

section Lossy

/-- How many bytes the character has that starts with this one. -/
def utf8Width (first : UInt8) : Nat :=
  if 0xC2 ≤ first ∧ first ≤ 0xDF then 2
  else if 0xE0 ≤ first ∧ first ≤ 0xEF then 3
  else if 0xF0 ≤ first ∧ first ≤ 0xF4 then 4
  else 1

/-- The byte may come second in the character that starts with this one. -/
def utf8Second (first second : UInt8) : Bool :=
  if first = 0xE0 then 0xA0 ≤ second && second ≤ 0xBF
  else if first = 0xED then 0x80 ≤ second && second ≤ 0x9F
  else if first = 0xF0 then 0x90 ≤ second && second ≤ 0xBF
  else if first = 0xF4 then 0x80 ≤ second && second ≤ 0x8F
  else 0x80 ≤ second && second ≤ 0xBF

/-- The length of the longest start that is a character or the start of one. -/
def utf8Subpart : List UInt8 → Nat
  | [] => 0
  | first :: rest =>
    match rest.take (utf8Width first - 1) with
    | [] => 1
    | second :: more =>
      if utf8Second first second then
        2 + (more.takeWhile fun byte => 0x80 ≤ byte && byte ≤ 0xBF).length
      else 1

/-- The characters of a text, with a replacement character for each part that is none. -/
def lossyChars : Nat → List UInt8 → List Char
  | 0, _ => []
  | _, [] => []
  | fuel + 1, bytes =>
    let width := utf8Subpart bytes
    match fromUtf8 (bytes.take width) with
    | some text => text.toList ++ lossyChars fuel (bytes.drop width)
    | none => '\uFFFD' :: lossyChars fuel (bytes.drop width)

/-- `String::from_utf8_lossy`. -/
def fromUtf8Lossy (bytes : List UInt8) : String :=
  String.ofList (lossyChars bytes.length bytes)

example : fromUtf8Lossy [0x61, 0xE2, 0x82, 0x62, 0xC3, 0xA9, 0xED, 0xA0] =
    "a\uFFFDbé\uFFFD\uFFFD" := by
  decide

end Lossy

/-- The longest allocation in bytes, `isize::MAX` of a 64-bit target. -/
def isizeMax : Nat := 2 ^ 63 - 1

/-- Rust `String`, where the length of its bytes matters. -/
structure Str where
  text : String
  fits : (asBytes text).length ≤ isizeMax
deriving DecidableEq

namespace Str

def bytes (value : Str) : List UInt8 := asBytes value.text

theorem bytes_injective : Function.Injective bytes := by
  intro a b same
  cases a
  cases b
  have texts := asBytes_injective same
  subst texts
  rfl

theorem length_bytes_lt (value : Str) : value.bytes.length < 2 ^ 64 := by
  have bounded := value.fits
  unfold isizeMax at bounded
  unfold bytes
  omega

/-- A string behind its length: `(field.len() as u64).to_le_bytes()`, then the field. -/
def framed (value : Str) : List UInt8 := Framing.framed value.bytes

theorem framed_prefixFree : Framing.PrefixFree framed := by
  intro a b s t same
  obtain ⟨bytes, rest⟩ := Framing.framed_inj a.length_bytes_lt b.length_bytes_lt same
  exact ⟨bytes_injective bytes, rest⟩

end Str

/-- `char::is_whitespace`, the Unicode `White_Space` property. -/
def isWhitespace (c : Char) : Bool :=
  (9 ≤ c.toNat && c.toNat ≤ 13) || c.toNat == 32 || c.toNat == 0x85 || c.toNat == 0xA0 ||
    c.toNat == 0x1680 || (0x2000 ≤ c.toNat && c.toNat ≤ 0x200A) || c.toNat == 0x2028 ||
    c.toNat == 0x2029 || c.toNat == 0x202F || c.toNat == 0x205F || c.toNat == 0x3000

theorem isWhitespace_toLower (c : Char) : isWhitespace c.toLower = isWhitespace c :=
  Codec.toLower_table (fun c lower => isWhitespace lower = isWhitespace c) (fun _ => rfl)
    (by decide) c

/-- `str::trim`. -/
def trim (text : String) : String :=
  String.ofList ((text.toList.dropWhile isWhitespace).reverse.dropWhile isWhitespace).reverse

/-- Trimming again changes nothing. -/
@[simp] theorem trim_trim (text : String) : trim (trim text) = trim text := by
  have front : ((text.toList.dropWhile isWhitespace).rdropWhile isWhitespace).dropWhile
      isWhitespace = (text.toList.dropWhile isWhitespace).rdropWhile isWhitespace := by
    apply List.dropWhile_eq_self_iff.mpr
    intro nonempty
    have kept := List.rdropWhile_prefix isWhitespace (text.toList.dropWhile isWhitespace)
    rw [kept.getElem]
    exact List.dropWhile_get_zero_not isWhitespace _ (nonempty.trans_le kept.length_le)
  show String.ofList (((String.ofList _).toList.dropWhile isWhitespace).rdropWhile isWhitespace) =
    String.ofList ((text.toList.dropWhile isWhitespace).rdropWhile isWhitespace)
  rw [String.toList_ofList]
  show String.ofList ((((text.toList.dropWhile isWhitespace).rdropWhile isWhitespace).dropWhile
    isWhitespace).rdropWhile isWhitespace) = _
  rw [front, List.rdropWhile_idempotent]

theorem trim_of_plain {text : String} (plain : ∀ c ∈ text.toList, isWhitespace c = false) :
    trim text = text := by
  have kept : ∀ chars : List Char, (∀ c ∈ chars, isWhitespace c = false) →
      chars.dropWhile isWhitespace = chars := by
    intro chars all
    cases chars with
    | nil => rfl
    | cons c rest => rw [List.dropWhile_cons_of_neg (by simp [all c List.mem_cons_self])]
  rw [trim, kept _ plain, kept _ fun c member => plain c (List.mem_reverse.mp member),
    List.reverse_reverse, String.ofList_toList]

/-- A hexadecimal text has nothing to trim. -/
theorem trim_of_hexDecode {text : String} {bytes : List UInt8}
    (read : Codec.hexDecode text = some bytes) : trim text = text :=
  trim_of_plain (Codec.forall_of_hexDecode (by decide) read)

/-- A blank in front is trimmed. -/
theorem trim_blank (text : String) : trim (" " ++ text) = trim text := by
  have blank : isWhitespace ' ' = true := by decide
  rw [trim, String.toList_append, trim]
  show String.ofList (((' ' :: text.toList).dropWhile isWhitespace).reverse.dropWhile
    isWhitespace).reverse = _
  rw [List.dropWhile_cons_of_pos blank]

/-- `str::strip_prefix`. -/
def stripPrefix (start text : String) : Option String :=
  if start.toList <+: text.toList then some (String.ofList (text.toList.drop start.toList.length))
  else none

theorem stripPrefix_eq_some {start text rest : String} :
    stripPrefix start text = some rest ↔ text.toList = start.toList ++ rest.toList := by
  unfold stripPrefix
  constructor
  · intro found
    split at found
    · rename_i begins
      obtain ⟨more, same⟩ := begins
      have equal := Option.some.inj found
      rw [← equal, String.toList_ofList, ← same, List.drop_left]
    · cases found
  · intro same
    rw [if_pos (same ▸ List.prefix_append _ _), same, List.drop_left, String.ofList_toList]

/-- A text that begins otherwise has no such start to strip. -/
theorem stripPrefix_eq_none {start text : String} {first : Char}
    (begins : start.toList.head? = some first) (other : text.toList.head? ≠ some first) :
    stripPrefix start text = none := by
  apply Option.eq_none_iff_forall_ne_some.mpr
  intro rest stripped
  rw [stripPrefix_eq_some.mp stripped, List.head?_append, begins] at other
  exact other rfl

/-- A character as `{:?}` prints it, for characters whose only unprintable forms are the named
escapes and the ASCII controls. -/
def debugChar (c : Char) : String :=
  let printed :=
    if c.toNat = 39 then "\\'"
    else if c = '\\' then "\\\\"
    else if c = '\n' then "\\n"
    else if c = '\r' then "\\r"
    else if c = '\t' then "\\t"
    else if c.toNat = 0 then "\\0"
    else if c.toNat < 32 || c.toNat = 127 then
      "\\u\x7b" ++ String.ofList (Nat.toDigits 16 c.toNat) ++ "\x7d"
    else String.singleton c
  "'" ++ printed ++ "'"

/-- The value of a nonempty run of ASCII digits. -/
def digitsValue (digits : List Char) : Option Nat :=
  if digits = [] then none
  else digits.foldlM (fun value digit =>
    if '0' ≤ digit ∧ digit ≤ '9' then some (10 * value + (digit.toNat - '0'.toNat)) else none) 0

/-- `str::parse` at a signed integer type with the given least and greatest values. -/
def parseSigned (least greatest : Int) (text : String) : Option Int := do
  let value ← match text.toList with
    | '+' :: digits => (digitsValue digits).map Int.ofNat
    | '-' :: digits => (digitsValue digits).map fun value => -(value : Int)
    | digits => (digitsValue digits).map Int.ofNat
  if least ≤ value ∧ value ≤ greatest then some value else none

/-- `parse::<i128>`. -/
def parseI128 (text : String) : Option Int := parseSigned (-2 ^ 127) (2 ^ 127 - 1) text

end Patala
