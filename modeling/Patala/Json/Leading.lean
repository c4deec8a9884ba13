import Patala.Json.Stringify

/-! The object or array that a JSON text starts with, where a reader of one value stops. It takes
what `JSON.stringify` wrote off the front of any longer text. -/

namespace Patala.Json

/-- Up to the bracket that closes the first one; the brackets in string literals do not count. -/
def takeValue : Nat → Bool → List Char → List Char
  | _, _, [] => []
  | depth, true, '\\' :: c :: rest => '\\' :: c :: takeValue depth true rest
  | depth, quoted, c :: rest =>
    if c = '"' then c :: takeValue depth (!quoted) rest
    else if quoted then c :: takeValue depth quoted rest
    else if c ∈ ['\x7b', '['] then c :: takeValue (depth + 1) quoted rest
    else if c ∈ ['\x7d', ']'] then
      if depth ≤ 1 then [c] else c :: takeValue (depth - 1) quoted rest
    else c :: takeValue depth quoted rest

def leadingValue (text : String) : String := String.ofList (takeValue 0 false text.toList)

example : leadingValue "[\"\\\"]\", [1]] ]" = "[\"\\\"]\", [1]]" := by decide

section Written

variable {depth : Nat} {c : Char} {chars more rest : List Char}

theorem takeValue_quoted (mark : c ≠ '"') (escape : c ≠ '\\') :
    takeValue depth true (c :: rest) = c :: takeValue depth true rest := by
  rw [takeValue]
  · simp [mark]
  · intro _ _ _ same
    exact absurd same escape

theorem takeValue_escaped (c : Char) :
    takeValue depth true (escapeChar c ++ rest) = escapeChar c ++ takeValue depth true rest := by
  have digits : ∀ value < 16, Codec.hexDigit value ≠ '"' ∧ Codec.hexDigit value ≠ '\\' := by decide
  unfold escapeChar
  split_ifs with quoted backslash b f n r t control
  all_goals first
    | rfl
    | skip
  · have high := digits (c.toNat / 16) (by omega)
    have low := digits (c.toNat % 16) (by omega)
    simp [takeValue, takeValue_quoted, high, low]
  · exact takeValue_quoted quoted backslash

theorem takeValue_literal :
    takeValue depth true (chars.flatMap escapeChar ++ '"' :: rest) =
      chars.flatMap escapeChar ++ '"' :: takeValue depth false rest := by
  induction chars with
  | nil => simp [takeValue]
  | cons c chars ih =>
    rw [List.flatMap_cons, List.append_assoc, takeValue_escaped, ih, List.append_assoc]

/-- Inside of brackets, the characters are gone through without leaving these. -/
def Nested (chars : List Char) : Prop :=
  ∀ depth rest, takeValue (depth + 1) false (chars ++ rest) =
    chars ++ takeValue (depth + 1) false rest

theorem Nested.append (first : Nested chars) (second : Nested more) : Nested (chars ++ more) := by
  intro depth rest
  rw [List.append_assoc, first, second, List.append_assoc]

theorem nested_of_plain (plain : ∀ c ∈ chars, c ∉ ['"', '\x7b', '[', '\x7d', ']']) :
    Nested chars := by
  intro depth rest
  induction chars with
  | nil => rfl
  | cons c chars ih =>
    obtain ⟨here, later⟩ := List.forall_mem_cons.mp plain
    simp only [List.mem_cons, List.not_mem_nil, or_false, not_or] at here
    rw [List.cons_append, takeValue]
    · simp [here, ih later]
    · simp

theorem nested_quote (text : String) : Nested (quote text) := by
  intro depth rest
  rw [quote, List.append_assoc, List.cons_append, takeValue]
  · simp [takeValue_literal]
  · simp

theorem nested_intercalate {parts : List (List Char)} (each : ∀ part ∈ parts, Nested part) :
    Nested ([','].intercalate parts) := by
  induction parts with
  | nil => exact nested_of_plain (by simp)
  | cons first rest ih =>
    obtain ⟨here, later⟩ := List.forall_mem_cons.mp each
    cases rest with
    | nil => rwa [List.intercalate_singleton]
    | cons second more =>
      rw [List.intercalate_cons_cons]
      exact (here.append (nested_of_plain (by simp))).append (ih later)

/-- A pair of brackets with something nested inside. -/
theorem takeValue_closed {opening closing : Char} (opens : opening ∈ ['\x7b', '['])
    (closes : closing ∈ ['\x7d', ']']) (inside : Nested chars) :
    takeValue depth false (opening :: chars ++ [closing] ++ rest) =
      opening :: chars ++ [closing] ++ if depth = 0 then [] else takeValue depth false rest := by
  have opened : takeValue depth false (opening :: (chars ++ closing :: rest)) =
      opening :: takeValue (depth + 1) false (chars ++ closing :: rest) := by
    rw [takeValue]
    · rcases List.mem_pair.mp opens with same | same <;> simp [same]
    · simp
  have closed : takeValue (depth + 1) false (closing :: rest) =
      closing :: if depth = 0 then [] else takeValue depth false rest := by
    rw [takeValue]
    · rcases List.mem_pair.mp closes with same | same <;> by_cases last : depth = 0 <;>
        simp [same, last]
    · simp
  simp only [List.cons_append, List.append_assoc, List.nil_append]
  rw [opened, inside, closed]

theorem nested_closed {opening closing : Char} (opens : opening ∈ ['\x7b', '['])
    (closes : closing ∈ ['\x7d', ']']) (inside : Nested chars) :
    Nested (opening :: chars ++ [closing]) := by
  intro depth rest
  rw [takeValue_closed opens closes inside, if_neg (Nat.succ_ne_zero depth)]

/-- The literal of a number, as far as a scan for brackets and string literals goes. -/
def Unmarked (literal : String) : Prop :=
  ∀ c ∈ literal.toList, c ∉ ['"', '\x7b', '[', '\x7d', ']']

mutual

theorem nested_written : ∀ value : Value, (∀ literal ∈ literals value, Unmarked literal) →
    Nested (written value)
  | .null, _ => nested_of_plain (Codec.forall_mem_of_all (by decide))
  | .bool true, _ => nested_of_plain (Codec.forall_mem_of_all (by decide))
  | .bool false, _ => nested_of_plain (Codec.forall_mem_of_all (by decide))
  | .number literal, unmarked => nested_of_plain (unmarked literal (List.mem_singleton_self _))
  | .string text, _ => nested_quote text
  | .array items, unmarked => by
    rw [written]
    exact nested_closed (by simp) (by simp) (nested_intercalate (nested_items items unmarked))
  | .object members, unmarked => by
    rw [written]
    exact nested_closed (by simp) (by simp) (nested_intercalate (nested_members members unmarked))

theorem nested_items : ∀ items : List Value, (∀ literal ∈ itemLiterals items, Unmarked literal) →
    ∀ part ∈ writtenItems items, Nested part
  | item :: rest, unmarked, part, member => by
    obtain ⟨here, later⟩ := List.forall_mem_append.mp unmarked
    rcases List.mem_cons.mp member with same | tail
    · exact same ▸ nested_written item here
    · exact nested_items rest later part tail

theorem nested_members : ∀ members : List (String × Value),
    (∀ literal ∈ memberLiterals members, Unmarked literal) →
    ∀ part ∈ writtenMembers members, Nested part
  | (key, value) :: rest, unmarked, part, member => by
    obtain ⟨here, later⟩ := List.forall_mem_append.mp unmarked
    rcases List.mem_cons.mp member with same | tail
    · subst same
      exact (nested_quote key).append
        ((nested_of_plain (by simp) : Nested [':']).append (nested_written value here))
    · exact nested_members rest later part tail

end

/-- An object that was written is what a longer text with it in front starts with. -/
theorem leadingValue_stringify {members : List (String × Value)} (behind : String)
    (unmarked : ∀ literal ∈ literals (.object members), Unmarked literal) :
    leadingValue (stringify (.object members) ++ behind) = stringify (.object members) := by
  have inside := nested_intercalate (nested_members members unmarked)
  rw [leadingValue, stringify, String.toList_append, String.toList_ofList, written,
    takeValue_closed (by simp) (by simp) inside, if_pos rfl, List.append_nil]

end Written

end Patala.Json
