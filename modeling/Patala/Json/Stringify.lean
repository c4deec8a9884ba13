import Mathlib.Tactic.SplitIfs
import Patala.Core.Text
import Patala.Json.Value
import Patala.Lib.Joined

/-! `JSON.stringify` of a value. What it writes is at least as long as each part of it. -/

namespace Patala.Json

/-- A character of a string literal: two have a backslash, controls an escape. -/
def escapeChar (c : Char) : List Char :=
  if c = '"' then ['\\', '"']
  else if c = '\\' then ['\\', '\\']
  else if c.toNat = 8 then ['\\', 'b']
  else if c.toNat = 12 then ['\\', 'f']
  else if c = '\n' then ['\\', 'n']
  else if c = '\r' then ['\\', 'r']
  else if c = '\t' then ['\\', 't']
  else if c.toNat < 32 then
    ['\\', 'u', '0', '0', Codec.hexDigit (c.toNat / 16), Codec.hexDigit (c.toNat % 16)]
  else [c]

/-- `QuoteJSONString`. -/
def quote (text : String) : List Char := '"' :: text.toList.flatMap escapeChar ++ ['"']

mutual

def written : Value → List Char
  | .null => "null".toList
  | .bool true => "true".toList
  | .bool false => "false".toList
  | .number literal => literal.toList
  | .string text => quote text
  | .array items => '[' :: [','].intercalate (writtenItems items) ++ [']']
  | .object members => '\x7b' :: [','].intercalate (writtenMembers members) ++ ['\x7d']

def writtenItems : List Value → List (List Char)
  | [] => []
  | item :: rest => written item :: writtenItems rest

def writtenMembers : List (String × Value) → List (List Char)
  | [] => []
  | member :: rest => writtenMember member :: writtenMembers rest

def writtenMember : String × Value → List Char
  | (key, value) => quote key ++ ':' :: written value

end

def stringify (value : Value) : String := String.ofList (written value)

/-- How many bytes characters take in UTF-8. -/
def utf8Length (chars : List Char) : Nat := (chars.flatMap String.utf8EncodeChar).length

theorem length_asBytes (text : String) : (asBytes text).length = utf8Length text.toList := by
  rw [utf8Length, asBytes_eq]

@[simp] theorem utf8Length_append (a b : List Char) :
    utf8Length (a ++ b) = utf8Length a + utf8Length b := by
  simp [utf8Length]

@[simp] theorem utf8Length_cons (c : Char) (rest : List Char) :
    utf8Length (c :: rest) = c.utf8Size + utf8Length rest := by
  simp [utf8Length]

@[simp] theorem utf8Length_nil : utf8Length [] = 0 := rfl

theorem utf8Length_pos (c : Char) (rest : List Char) : 0 < utf8Length (c :: rest) := by
  have one := c.utf8Size_pos
  rw [utf8Length_cons]
  omega

theorem utf8Size_le_escapeChar (c : Char) : c.utf8Size ≤ utf8Length (escapeChar c) := by
  have escaped : ∀ rest, c.toNat < 128 → c.utf8Size ≤ utf8Length ('\\' :: rest) := by
    intro rest small
    have size : c.utf8Size = 1 := Char.utf8Size_eq_one_iff.mpr (by
      rw [UInt32.le_iff_toNat_le]
      exact Nat.le_of_lt_succ small)
    rw [size]
    exact utf8Length_pos _ _
  unfold escapeChar
  split_ifs with quoted backslash b f n r t control
  all_goals first
    | exact escaped _ (by subst_vars; decide)
    | exact escaped _ (by omega)
    | simp

/-- A string literal is longer than its text. -/
theorem utf8Length_lt_quote (text : String) : utf8Length text.toList < utf8Length (quote text) := by
  have escaped : ∀ chars : List Char, utf8Length chars ≤ utf8Length (chars.flatMap escapeChar) := by
    intro chars
    induction chars with
    | nil => exact Nat.le_refl _
    | cons c rest ih =>
      have head := utf8Size_le_escapeChar c
      rw [List.flatMap_cons, utf8Length_cons, utf8Length_append]
      omega
  have body := escaped text.toList
  have mark : '"'.utf8Size = 1 := by decide
  rw [quote, List.cons_append, utf8Length_cons, utf8Length_append, mark]
  omega

theorem utf8Length_le_of_mem {parts : List (List Char)} {part separator : List Char}
    (member : part ∈ parts) : utf8Length part ≤ utf8Length (separator.intercalate parts) := by
  induction parts with
  | nil => cases member
  | cons first rest ih =>
    cases rest with
    | nil =>
      rw [List.mem_singleton.mp member, List.intercalate_singleton]
    | cons second more =>
      rw [List.intercalate_cons_cons, utf8Length_append, utf8Length_append]
      rcases List.mem_cons.mp member with here | later
      · subst here
        omega
      · have tail := ih later
        omega

theorem writtenMember_mem {members : List (String × Value)} {member : String × Value}
    (listed : member ∈ members) : writtenMember member ∈ writtenMembers members := by
  induction members with
  | nil => cases listed
  | cons first rest ih =>
    rw [writtenMembers]
    rcases List.mem_cons.mp listed with here | later
    · subst here
      exact List.mem_cons_self
    · exact List.mem_cons_of_mem _ (ih later)

/-- A text in an object is shorter than the object written. -/
theorem length_lt_stringify {members : List (String × Value)} {key text : String}
    (listed : (key, .string text) ∈ members) :
    (asBytes text).length < (asBytes (stringify (.object members))).length := by
  have literal := utf8Length_lt_quote text
  have member : utf8Length (writtenMember (key, .string text)) ≤
      utf8Length ([','].intercalate (writtenMembers members)) :=
    utf8Length_le_of_mem (writtenMember_mem listed)
  rw [writtenMember, written, utf8Length_append, utf8Length_cons] at member
  rw [length_asBytes, length_asBytes, stringify, String.toList_ofList, written, List.cons_append,
    utf8Length_cons, utf8Length_append]
  omega

section Controls

/-- A control character of ASCII: no string literal has one. -/
def IsControl (c : Char) : Prop := c.toNat < 32

mutual

/-- The literals of a value's numbers. -/
def literals : Value → List String
  | .number literal => [literal]
  | .array items => itemLiterals items
  | .object members => memberLiterals members
  | _ => []

def itemLiterals : List Value → List String
  | [] => []
  | item :: rest => literals item ++ itemLiterals rest

def memberLiterals : List (String × Value) → List String
  | [] => []
  | (_, value) :: rest => literals value ++ memberLiterals rest

end

/-- An escape is printable, and so is what needs none. -/
theorem not_isControl_escapeChar {c d : Char} (printed : d ∈ escapeChar c) : ¬ IsControl d := by
  unfold escapeChar at printed
  split_ifs at printed with quoted backslash b f n r t control
  all_goals simp only [List.mem_cons, List.not_mem_nil, or_false] at printed
  all_goals first
    | (rcases printed with rfl | rfl <;> simp [IsControl]; done)
    | skip
  · have digits : ∀ value < 16, 32 ≤ (Codec.hexDigit value).toNat := by decide
    have high := digits (c.toNat / 16) (by omega)
    have low := digits (c.toNat % 16) (by omega)
    rcases printed with rfl | rfl | rfl | rfl | rfl | rfl
    · simp [IsControl]
    · simp [IsControl]
    · simp [IsControl]
    · simp [IsControl]
    · simpa [IsControl] using high
    · simpa [IsControl] using low
  · subst printed
    exact control

theorem not_isControl_quote {text : String} {c : Char} (printed : c ∈ quote text) :
    ¬ IsControl c := by
  simp only [quote, List.cons_append, List.mem_cons, List.mem_append, List.mem_flatMap,
    List.not_mem_nil, or_false] at printed
  rcases printed with rfl | ⟨d, _, escaped⟩ | rfl
  · simp [IsControl]
  · exact not_isControl_escapeChar escaped
  · simp [IsControl]

theorem not_isControl_of_plain {chars : List Char} (plain : ∀ d ∈ chars, 32 ≤ d.toNat) {c : Char}
    (control : IsControl c) : c ∉ chars :=
  fun printed => absurd control (Nat.not_lt.mpr (plain c printed))

mutual

/-- A control character of what is written is one of a number's literal. -/
theorem literal_of_written {c : Char} (control : IsControl c) : ∀ value : Value, c ∈ written value →
    ∃ literal ∈ literals value, c ∈ literal.toList
  | .null, printed => absurd printed (not_isControl_of_plain (Codec.forall_mem_of_all rfl) control)
  | .bool true, printed => absurd printed (not_isControl_of_plain (Codec.forall_mem_of_all rfl) control)
  | .bool false, printed => absurd printed (not_isControl_of_plain (Codec.forall_mem_of_all rfl) control)
  | .number literal, printed => ⟨literal, List.mem_singleton_self _, printed⟩
  | .string _, printed => absurd control (not_isControl_quote printed)
  | .array items, printed => by
    have marks : c ∉ ['[', ',', ']'] := not_isControl_of_plain (by simp) control
    simp only [written, List.cons_append, List.mem_cons, List.mem_append, List.not_mem_nil,
      or_false, not_or] at printed marks
    rcases printed with opening | inner | closing
    · exact absurd opening marks.1
    · rcases Joined.mem_intercalate inner with between | ⟨part, member, there⟩
      · exact absurd between marks.2.1
      · exact literal_of_items control items member there
    · exact absurd closing marks.2.2
  | .object members, printed => by
    have marks : c ∉ ['\x7b', ',', '\x7d'] := not_isControl_of_plain (by simp) control
    simp only [written, List.cons_append, List.mem_cons, List.mem_append, List.not_mem_nil,
      or_false, not_or] at printed marks
    rcases printed with opening | inner | closing
    · exact absurd opening marks.1
    · rcases Joined.mem_intercalate inner with between | ⟨part, member, there⟩
      · exact absurd between marks.2.1
      · exact literal_of_members control members member there
    · exact absurd closing marks.2.2

theorem literal_of_items {c : Char} (control : IsControl c) : ∀ (items : List Value)
    {part : List Char}, part ∈ writtenItems items → c ∈ part →
    ∃ literal ∈ itemLiterals items, c ∈ literal.toList
  | item :: rest, part, member, there => by
    rcases List.mem_cons.mp member with rfl | later
    · obtain ⟨literal, listed, has⟩ := literal_of_written control item there
      exact ⟨literal, List.mem_append_left _ listed, has⟩
    · obtain ⟨literal, listed, has⟩ := literal_of_items control rest later there
      exact ⟨literal, List.mem_append_right _ listed, has⟩

theorem literal_of_members {c : Char} (control : IsControl c) : ∀ (members : List (String × Value))
    {part : List Char}, part ∈ writtenMembers members → c ∈ part →
    ∃ literal ∈ memberLiterals members, c ∈ literal.toList
  | (key, value) :: rest, part, member, there => by
    rcases List.mem_cons.mp member with rfl | later
    · simp only [writtenMember, List.mem_append, List.mem_cons] at there
      rcases there with name | colon | inner
      · exact absurd control (not_isControl_quote name)
      · exact absurd control (by simp [colon, IsControl])
      · obtain ⟨literal, listed, has⟩ := literal_of_written control value inner
        exact ⟨literal, List.mem_append_left _ listed, has⟩
    · obtain ⟨literal, listed, has⟩ := literal_of_members control rest later there
      exact ⟨literal, List.mem_append_right _ listed, has⟩

end

end Controls

end Patala.Json
