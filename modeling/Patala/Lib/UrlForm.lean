import Patala.Lib.UrlName

/-! Form decoding byte by byte. An ASCII byte is never part of another character, so a text may be
cut at one. -/

namespace UrlPath

section Text

/-- The bytes are those of a text. -/
def IsText (bytes : List UInt8) : Prop := ∃ text, utf8 text = bytes

theorem isText_nil : IsText [] := ⟨[], rfl⟩

theorem IsText.append {front back : List UInt8} (first : IsText front) (second : IsText back) :
    IsText (front ++ back) := by
  obtain ⟨text, rfl⟩ := first
  obtain ⟨more, rfl⟩ := second
  exact ⟨text ++ more, List.flatMap_append⟩

theorem isText_singleton {b : UInt8} (ascii : b.toNat < 128) : IsText [b] := by
  have table : ∀ code < 128, utf8 [Char.ofNat code] = [UInt8.ofNat code] := by
    decide
  refine ⟨[Char.ofNat b.toNat], ?_⟩
  rw [table b.toNat ascii, UInt8.ofNat_toNat]

/-- No byte of a character beyond ASCII is an ASCII byte. -/
theorem utf8EncodeChar_high {c : Char} (large : 128 ≤ c.toNat) :
    ∀ b ∈ String.utf8EncodeChar c, 128 ≤ b.toNat := by
  have high : ∀ n, 128 ≤ n → n < 256 → 128 ≤ (UInt8.ofNat n).toNat := by
    intro n lower upper
    rw [UInt8.toNat_ofNat_of_lt' upper]
    exact lower
  have notAscii : ¬ c.val.toNat ≤ 0x7F := by
    have same : c.val.toNat = c.toNat := rfl
    omega
  unfold String.utf8EncodeChar
  rw [if_neg notAscii]
  split
  · simp only [List.forall_mem_cons]
    exact ⟨high _ (by omega) (by omega), high _ (by omega) (by omega), by simp⟩
  split
  · simp only [List.forall_mem_cons]
    exact ⟨high _ (by omega) (by omega), high _ (by omega) (by omega),
      high _ (by omega) (by omega), by simp⟩
  · simp only [List.forall_mem_cons]
    exact ⟨high _ (by omega) (by omega), high _ (by omega) (by omega),
      high _ (by omega) (by omega), high _ (by omega) (by omega), by simp⟩

/-- What comes before an ASCII byte of a text is a text, and so is what comes behind it. -/
theorem split_at_ascii {text : List Char} {front back : List UInt8} {b : UInt8}
    (ascii : b.toNat < 128) (same : utf8 text = front ++ b :: back) :
    IsText front ∧ IsText back := by
  induction text generalizing front with
  | nil => simp [utf8] at same
  | cons c rest ih =>
    rw [utf8, List.flatMap_cons, ← utf8] at same
    obtain ⟨more, rfl, later⟩ | ⟨more, here, later⟩ := List.append_eq_append_iff.mp same
    · obtain ⟨before, after⟩ := ih later
      exact ⟨IsText.append ⟨[c], by simp [utf8]⟩ before, after⟩
    · cases more with
      | nil =>
        have behind : utf8 rest = [] ++ b :: back := later.symm
        obtain ⟨-, after⟩ := ih behind
        rw [List.append_nil] at here
        exact ⟨⟨[c], by simp [utf8, here]⟩, after⟩
      | cons b' more =>
        obtain ⟨rfl, rfl⟩ := List.cons.inj later
        have small : c.toNat < 128 := by
          by_contra large
          have high := utf8EncodeChar_high (not_lt.mp large) b (by simp [here])
          omega
        rw [Codec.utf8EncodeChar_of_ascii small] at here
        obtain ⟨rfl, rfl⟩ : front = [] ∧ more = [] := by
          cases front with
          | nil => exact ⟨rfl, (List.cons.inj here).2.symm⟩
          | cons first others => simp at here
        exact ⟨isText_nil, rest, rfl⟩

/-- Bytes around an ASCII byte are a text exactly when they are texts on both sides. -/
theorem isText_ascii_iff {front back : List UInt8} {b : UInt8} (ascii : b.toNat < 128) :
    IsText (front ++ b :: back) ↔ IsText front ∧ IsText back := by
  constructor
  · intro ⟨text, same⟩
    exact split_at_ascii ascii same
  · intro ⟨before, after⟩
    exact before.append ((isText_singleton ascii).append after)

end Text

section Form

/-- The byte two digits stand for, each as its byte. -/
def hexByte (high low : UInt8) : Option UInt8 :=
  byteOf (Char.ofNat high.toNat) (Char.ofNat low.toNat)

/-- Form decoding of bytes: a plus sign is a space, a percent sign with two digits behind it is the
byte they stand for, and everything else is itself. -/
def formDecodeBytes : List UInt8 → List UInt8
  | [] => []
  | 0x2B :: rest => 0x20 :: formDecodeBytes rest
  | 0x25 :: high :: low :: rest =>
    match hexByte high low with
    | some byte => byte :: formDecodeBytes rest
    | none => 0x25 :: formDecodeBytes (high :: low :: rest)
  | byte :: rest => byte :: formDecodeBytes rest

/-- The byte a percent sign and the bytes behind it stand for. -/
def escapedByte : List UInt8 → Option UInt8
  | high :: low :: _ => hexByte high low
  | _ => none

theorem hexByte_high {high low : UInt8} (large : 128 ≤ high.toNat ∨ 128 ≤ low.toNat) :
    hexByte high low = none := by
  have digit (b : UInt8) (beyond : 128 ≤ b.toNat) : Codec.hexValue (Char.ofNat b.toNat) = none := by
    refine Option.eq_none_iff_forall_ne_some.mpr fun value read => ?_
    have small := Codec.hexValue_ascii read
    rw [Codec.toNat_byteChar] at small
    omega
  obtain large | large := large
  · rw [hexByte, byteOf, digit high large]
    rfl
  · rw [hexByte, byteOf, digit low large]
    cases Codec.hexValue (Char.ofNat high.toNat) <;> rfl

theorem formDecodeBytes_cons {b : UInt8} {rest : List UInt8} (notPlus : b ≠ 0x2B)
    (plain : b = 0x25 → escapedByte rest = none) :
    formDecodeBytes (b :: rest) = b :: formDecodeBytes rest := by
  by_cases percent : b = 0x25
  · subst percent
    match rest with
    | [] => rfl
    | [_] => rfl
    | high :: low :: more =>
      have none : hexByte high low = none := plain rfl
      rw [formDecodeBytes, none]
  · rw [formDecodeBytes]
    · exact notPlus
    · exact fun _ _ _ same _ => percent same

theorem formDecodeBytes_ne_nil {bytes : List UInt8} (some : bytes ≠ []) :
    formDecodeBytes bytes ≠ [] := by
  unfold formDecodeBytes
  split
  · exact absurd rfl some
  · exact List.cons_ne_nil _ _
  · split <;> exact List.cons_ne_nil _ _
  · exact List.cons_ne_nil _ _

theorem formDecodeBytes_escaped {high low byte : UInt8} {rest : List UInt8}
    (read : hexByte high low = some byte) :
    formDecodeBytes (0x25 :: high :: low :: rest) = byte :: formDecodeBytes rest := by
  rw [formDecodeBytes, read]

theorem formDecodeBytes_append {front back : List UInt8} (large : ∀ b ∈ front, 128 ≤ b.toNat) :
    formDecodeBytes (front ++ back) = front ++ formDecodeBytes back := by
  induction front with
  | nil => rfl
  | cons b front ih =>
    obtain ⟨here, later⟩ := List.forall_mem_cons.mp large
    have notPlus : b ≠ 0x2B := by
      rintro rfl
      exact absurd here (by decide)
    have notPercent : b ≠ 0x25 := by
      rintro rfl
      exact absurd here (by decide)
    rw [List.cons_append, formDecodeBytes_cons notPlus fun same => absurd same notPercent, ih later,
      List.cons_append]

theorem hexValue_plusToSpace (c : Char) : Codec.hexValue (plusToSpace c) = Codec.hexValue c := by
  unfold plusToSpace
  split
  · rename_i plus
    rw [plus]
    decide
  · rfl

theorem utf8_cons_ascii {c : Char} {rest : List Char} (small : c.toNat < 128) :
    utf8 (c :: rest) = UInt8.ofNat c.toNat :: utf8 rest := by
  rw [utf8, List.flatMap_cons, Codec.utf8EncodeChar_of_ascii small]
  rfl

theorem toNat_ofNat_ascii {c : Char} (small : c.toNat < 128) :
    Char.ofNat (UInt8.ofNat c.toNat).toNat = c := by
  rw [UInt8.toNat_ofNat_of_lt' (small.trans (by decide)), Char.ofNat_toNat]

/-- The first byte of a character beyond ASCII. -/
theorem utf8_cons_high {c : Char} (rest : List Char) (large : 128 ≤ c.toNat) :
    ∃ first more, 128 ≤ first.toNat ∧ utf8 (c :: rest) = first :: more := by
  obtain ⟨first, more, spelled⟩ := List.exists_cons_of_ne_nil (String.utf8EncodeChar_ne_nil (c := c))
  refine ⟨first, more ++ utf8 rest, utf8EncodeChar_high large first (by simp [spelled]), ?_⟩
  rw [utf8, List.flatMap_cons, spelled]
  rfl

theorem byteOf_high {high low : Char} (large : 128 ≤ high.toNat ∨ 128 ≤ low.toNat) :
    byteOf high low = none := by
  have digit : ∀ c : Char, 128 ≤ c.toNat → Codec.hexValue c = none := by
    intro c beyond
    cases found : Codec.hexValue c with
    | none => rfl
    | some value => exact absurd (Codec.hexValue_ascii found) (by omega)
  obtain large | large := large
  · rw [byteOf, digit high large]
    rfl
  · rw [byteOf, digit low large]
    cases Codec.hexValue high <;> rfl

theorem byteOf_plusToSpace (high low : Char) :
    byteOf (plusToSpace high) (plusToSpace low) = byteOf high low := by
  rw [byteOf, hexValue_plusToSpace, hexValue_plusToSpace, byteOf]

/-- The bytes of a text are escaped as the text is. -/
theorem escapedByte_utf8 (text : List Char) :
    escapedByte (utf8 text) = escaped (text.map plusToSpace) := by
  match text with
  | [] => rfl
  | [high] =>
    by_cases small : high.toNat < 128
    · rw [utf8_cons_ascii small]
      rfl
    · obtain ⟨first, more, large, spelled⟩ := utf8_cons_high [] (not_lt.mp small)
      rw [spelled]
      cases more with
      | nil => rfl
      | cons second more => exact hexByte_high (.inl large)
  | high :: low :: rest =>
    rw [List.map_cons, List.map_cons, escaped, byteOf_plusToSpace]
    by_cases small : high.toNat < 128
    · rw [utf8_cons_ascii small]
      by_cases small' : low.toNat < 128
      · rw [utf8_cons_ascii small', escapedByte, hexByte, toNat_ofNat_ascii small,
          toNat_ofNat_ascii small']
      · obtain ⟨first, more, large, spelled⟩ := utf8_cons_high rest (not_lt.mp small')
        rw [spelled, byteOf_high (.inr (not_lt.mp small'))]
        exact hexByte_high (.inr large)
    · obtain ⟨first, more, large, spelled⟩ := utf8_cons_high (low :: rest) (not_lt.mp small)
      rw [spelled, byteOf_high (.inl (not_lt.mp small))]
      cases more with
      | nil => rfl
      | cons second more => exact hexByte_high (.inl large)

theorem formDecode_cons {c : Char} {rest : List Char} (notPlus : c ≠ '+')
    (plain : c = '%' → escaped (rest.map plusToSpace) = none) :
    formDecode (c :: rest) = String.utf8EncodeChar c ++ formDecode rest := by
  have kept : plusToSpace c = c := if_neg notPlus
  rw [formDecode, List.map_cons, kept, percentDecode_cons plain, formDecode]

/-- A text is form-decoded as its bytes are. -/
theorem formDecode_eq (text : List Char) : formDecode text = formDecodeBytes (utf8 text) := by
  induction length : text.length using Nat.strong_induction_on generalizing text with
  | _ n ih =>
  match text with
  | [] => rfl
  | c :: rest =>
    have restSame : formDecode rest = formDecodeBytes (utf8 rest) :=
      ih rest.length (by rw [← length]; simp) rest rfl
    by_cases plus : c = '+'
    · subst plus
      have spaced : formDecode ('+' :: rest) = 0x20 :: formDecode rest :=
        percentDecode_cons fun same => absurd same (by decide)
      rw [spaced, restSame, utf8_cons_ascii (by decide)]
      rfl
    by_cases small : c.toNat < 128
    · have code {d : Char} (same : UInt8.ofNat c.toNat = UInt8.ofNat d.toNat)
          (ascii : d.toNat < 128) : c = d := by
        rw [← toNat_ofNat_ascii small, same, toNat_ofNat_ascii ascii]
      have notPlus : UInt8.ofNat c.toNat ≠ 0x2B := fun same => plus (code same (by decide))
      by_cases escape : c = '%' ∧ ∃ byte, escaped (rest.map plusToSpace) = some byte
      · obtain ⟨rfl, byte, found⟩ := escape
        match rest with
        | [] => cases found
        | [_] => cases found
        | high :: low :: others =>
          have othersSame : formDecode others = formDecodeBytes (utf8 others) :=
            ih others.length (by rw [← length]; simp; omega) others rfl
          have read : byteOf high low = some byte := (byteOf_plusToSpace high low).symm.trans found
          have small' : high.toNat < 128 ∧ low.toNat < 128 := by
            by_contra large
            rw [byteOf_high (by omega)] at read
            cases read
          have bytes : hexByte (UInt8.ofNat high.toNat) (UInt8.ofNat low.toNat) = some byte := by
            rw [hexByte, toNat_ofNat_ascii small'.1, toNat_ofNat_ascii small'.2, read]
          have decoded : formDecode ('%' :: high :: low :: others) = byte :: formDecode others :=
            percentDecode_escaped found
          rw [decoded, othersSame, utf8_cons_ascii (by decide), utf8_cons_ascii small'.1,
            utf8_cons_ascii small'.2]
          exact (formDecodeBytes_escaped bytes).symm
      · have none : c = '%' → escaped (rest.map plusToSpace) = none := by
          intro percent
          exact Option.eq_none_iff_forall_ne_some.mpr fun byte found =>
            escape ⟨percent, byte, found⟩
        rw [formDecode_cons plus none, restSame, Codec.utf8EncodeChar_of_ascii small,
          utf8_cons_ascii small, formDecodeBytes_cons notPlus fun same =>
            (escapedByte_utf8 rest).trans (none (code same (by decide)))]
        rfl
    · have high := utf8EncodeChar_high (not_lt.mp small)
      have notPercent : c ≠ '%' := by
        rintro rfl
        exact small (by decide)
      have bytes : utf8 (c :: rest) = String.utf8EncodeChar c ++ utf8 rest := List.flatMap_cons
      rw [formDecode_cons plus fun same => absurd same notPercent, restSame, bytes,
        formDecodeBytes_append high]

end Form

end UrlPath
