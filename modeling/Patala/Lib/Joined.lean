import Mathlib.Data.List.Basic

/-! Fields joined by a delimiter that they may contain. The joined text tells the fields apart
exactly as far as it is known how many delimiters each of them holds. -/

namespace Joined

variable {α : Type} [DecidableEq α] {delimiter : α}

/-- A delimiter splits a list once it is known how many come before it. -/
theorem append_cons_inj {a b s t : List α} (same : a ++ delimiter :: s = b ++ delimiter :: t)
    (counts : a.count delimiter = b.count delimiter) : a = b ∧ s = t := by
  induction a generalizing b with
  | nil =>
    cases b with
    | nil => exact ⟨rfl, (List.cons.inj same).2⟩
    | cons first rest =>
      obtain ⟨head, -⟩ := List.cons.inj same
      subst head
      simp at counts
  | cons first rest ih =>
    cases b with
    | nil =>
      obtain ⟨head, -⟩ := List.cons.inj same
      subst head
      simp at counts
    | cons first' rest' =>
      obtain ⟨head, tails⟩ := List.cons.inj same
      subst head
      have restCounts : rest.count delimiter = rest'.count delimiter := by
        simpa [List.count_cons] using counts
      obtain ⟨rests, ends⟩ := ih tails restCounts
      exact ⟨by rw [rests], ends⟩

/-- A delimiter splits a list once it is known how many come behind it. -/
theorem append_cons_inj_right {a b s t : List α} (same : a ++ delimiter :: s = b ++ delimiter :: t)
    (counts : s.count delimiter = t.count delimiter) : a = b ∧ s = t := by
  have totals := congrArg (List.count delimiter) same
  simp only [List.count_append, List.count_cons_self, counts] at totals
  exact append_cons_inj same (by omega)

omit [DecidableEq α] in
theorem mem_intercalate {member : α} {fields : List (List α)}
    (joined : member ∈ [delimiter].intercalate fields) :
    member = delimiter ∨ ∃ field ∈ fields, member ∈ field := by
  induction fields with
  | nil => simp at joined
  | cons first rest ih =>
    cases rest with
    | nil => exact .inr ⟨first, List.mem_cons_self, by simpa using joined⟩
    | cons next rest =>
      rw [List.intercalate_cons_cons, List.append_assoc, List.mem_append, List.mem_append,
        List.mem_singleton] at joined
      obtain inside | between | later := joined
      · exact .inr ⟨first, List.mem_cons_self, inside⟩
      · exact .inl between
      · obtain same | ⟨field, listed, inside⟩ := ih later
        · exact .inl same
        · exact .inr ⟨field, List.mem_cons_of_mem _ listed, inside⟩

omit [DecidableEq α] in
theorem mem_intercalate_of_mem {member : α} {fields : List (List α)} {field : List α}
    (listed : field ∈ fields) (inside : member ∈ field) :
    member ∈ [delimiter].intercalate fields := by
  induction fields with
  | nil => cases listed
  | cons first rest ih =>
    cases rest with
    | nil =>
      rw [List.mem_singleton.mp listed] at inside
      rwa [List.intercalate_singleton]
    | cons next rest =>
      rw [List.intercalate_cons_cons, List.mem_append, List.mem_append]
      rcases List.mem_cons.mp listed with rfl | later
      · exact .inl (.inl inside)
      · exact .inr (ih later)

/-- Fields that join to the same list are the same when they hold equally many delimiters. -/
theorem eq_iff_counts {fields fields' : List (List α)}
    (joined : [delimiter].intercalate fields = [delimiter].intercalate fields') :
    fields = fields' ↔
      fields.map (List.count delimiter) = fields'.map (List.count delimiter) := by
  constructor
  · intro same
    rw [same]
  · intro counts
    induction fields generalizing fields' with
    | nil => exact (List.map_eq_nil_iff.mp counts.symm).symm
    | cons first rest ih =>
      cases fields' with
      | nil => cases counts
      | cons first' rest' =>
        obtain ⟨firsts, rests⟩ := List.cons.inj counts
        cases rest with
        | nil =>
          obtain rfl := List.map_eq_nil_iff.mp rests.symm
          simpa using joined
        | cons second later =>
          cases rest' with
          | nil => cases rests
          | cons second' later' =>
            simp only [List.intercalate_cons_cons, List.append_assoc, List.singleton_append]
              at joined
            obtain ⟨heads, tails⟩ := append_cons_inj joined firsts
            rw [heads, ih tails rests]

section Text

def occurrences (c : Char) (text : String) : Nat := text.toList.count c

/-- Texts that join to the same text are the same when they hold equally many delimiters. -/
theorem texts_eq_iff {c : Char} {fields fields' : List String}
    (joined : (String.singleton c).intercalate fields =
      (String.singleton c).intercalate fields') :
    fields = fields' ↔ fields.map (occurrences c) = fields'.map (occurrences c) := by
  have lists := congrArg String.toList joined
  rw [String.toList_intercalate, String.toList_intercalate, String.toList_singleton] at lists
  have counted : ∀ texts : List String,
      texts.map (occurrences c) = (texts.map String.toList).map (List.count c) := by
    intro texts
    rw [List.map_map]
    rfl
  rw [counted, counted, ← eq_iff_counts lists]
  exact (List.map_injective_iff.mpr fun _ _ => String.toList_inj.mp).eq_iff.symm

/-- A number holds no delimiter but a digit. -/
theorem occurrences_repr {c : Char} (nonDigit : c.isDigit = false) (value : Nat) :
    occurrences c (toString value) = 0 := by
  apply List.count_eq_zero.mpr
  intro member
  rw [Nat.toString_eq_repr, Nat.toList_repr] at member
  have digit := Nat.isDigit_of_mem_toDigits (by decide) (by decide) member
  rw [nonDigit] at digit
  cases digit

theorem toString_injective : Function.Injective (toString : Nat → String) := by
  intro a b same
  have digits : Nat.toDigits 10 a = Nat.toDigits 10 b := by
    rw [← Nat.toList_repr, ← Nat.toList_repr, ← Nat.toString_eq_repr, ← Nat.toString_eq_repr, same]
  have values := congrArg (Nat.ofDigitChars 10 · 0) digits
  simpa using values

end Text

theorem not_mem_of_splitOn_length {list : List α} (one : (list.splitOn delimiter).length = 1) :
    delimiter ∉ list := by
  intro member
  obtain ⟨front, back, same⟩ := List.append_of_mem member
  rw [same, List.splitOn_append_cons_self, List.length_append] at one
  have fronts := List.length_pos_of_ne_nil (List.splitOn_ne_nil delimiter front)
  have backs := List.length_pos_of_ne_nil (List.splitOn_ne_nil delimiter back)
  omega

/-- A list splits into two parts when it has one delimiter, between them. -/
theorem splitOn_eq_pair_iff {list a b : List α} :
    list.splitOn delimiter = [a, b] ↔
      list = a ++ delimiter :: b ∧ delimiter ∉ a ∧ delimiter ∉ b := by
  constructor
  · intro split
    have joined : [delimiter].intercalate (list.splitOn delimiter) = list :=
      List.intercalate_splitOn delimiter
    rw [split, List.intercalate_cons_cons, List.intercalate_singleton] at joined
    have whole : list = a ++ delimiter :: b := by
      rw [← joined, List.append_assoc]
      rfl
    rw [whole, List.splitOn_append_cons_self] at split
    have lengths := congrArg List.length split
    rw [List.length_append] at lengths
    have fronts := List.length_pos_of_ne_nil (List.splitOn_ne_nil delimiter a)
    have backs := List.length_pos_of_ne_nil (List.splitOn_ne_nil delimiter b)
    simp only [List.length_cons, List.length_nil] at lengths
    exact ⟨whole, not_mem_of_splitOn_length (by omega), not_mem_of_splitOn_length (by omega)⟩
  · rintro ⟨whole, first, last⟩
    rw [whole, List.splitOn_append_cons_self_of_not_mem first, List.splitOn_eq_singleton last]

end Joined
