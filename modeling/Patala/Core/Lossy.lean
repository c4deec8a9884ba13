import Patala.Core.Text

/-! Text read from bytes that may spell none. An ASCII byte is never within a part that is
replaced, so the bytes may be cut at one. -/

namespace Patala

/-- The characters of a text, where what is none is replaced. -/
def lossyText (bytes : List UInt8) : List Char := lossyChars bytes.length bytes

theorem fromUtf8Lossy_eq_iff {a b : List UInt8} :
    fromUtf8Lossy a = fromUtf8Lossy b ↔ lossyText a = lossyText b :=
  String.ofList_inj

/-- The characters the first part of the bytes is read as. -/
def lossyPart (bytes : List UInt8) : List Char :=
  ((fromUtf8 (bytes.take (utf8Subpart bytes))).map String.toList).getD ['\uFFFD']

theorem lossyChars_cons (fuel : Nat) (b : UInt8) (rest : List UInt8) :
    lossyChars (fuel + 1) (b :: rest) = lossyPart (b :: rest) ++
      lossyChars fuel ((b :: rest).drop (utf8Subpart (b :: rest))) := by
  rw [lossyChars, lossyPart]
  · cases fromUtf8 ((b :: rest).take (utf8Subpart (b :: rest))) <;> rfl
  · simp

theorem lossyChars_nil (fuel : Nat) : lossyChars fuel [] = [] := by
  cases fuel <;> rfl

theorem utf8Subpart_pos (b : UInt8) (rest : List UInt8) : 0 < utf8Subpart (b :: rest) := by
  rw [utf8Subpart]
  split
  · exact Nat.one_pos
  · split <;> omega

/-- Fuel for every byte is enough. -/
theorem lossyChars_of_le {fuel : Nat} {bytes : List UInt8} (enough : bytes.length ≤ fuel) :
    lossyChars fuel bytes = lossyChars bytes.length bytes := by
  induction length : bytes.length using Nat.strong_induction_on generalizing fuel bytes with
  | _ n ih =>
  cases bytes with
  | nil => rw [lossyChars_nil, lossyChars_nil]
  | cons b rest =>
    have advances := utf8Subpart_pos b rest
    obtain ⟨fuel, rfl⟩ : ∃ less, fuel = less + 1 :=
      Nat.exists_eq_succ_of_ne_zero (by rintro rfl; simp at enough)
    obtain ⟨n, rfl⟩ : ∃ less, n = less + 1 := ⟨rest.length, by rw [← length]; rfl⟩
    have shorter : ((b :: rest).drop (utf8Subpart (b :: rest))).length ≤ n := by
      rw [List.length_drop, length]
      omega
    have more : ((b :: rest).drop (utf8Subpart (b :: rest))).length ≤ fuel :=
      shorter.trans (by omega)
    rw [lossyChars_cons, lossyChars_cons, ih _ (by omega) more rfl, ih _ (by omega) shorter rfl]

/-- The characters of some bytes are those of the first part and those of the others. -/
theorem lossyText_cons (b : UInt8) (rest : List UInt8) :
    lossyText (b :: rest) = lossyPart (b :: rest) ++
      lossyText ((b :: rest).drop (utf8Subpart (b :: rest))) := by
  have advances := utf8Subpart_pos b rest
  rw [lossyText, List.length_cons, lossyChars_cons, lossyChars_of_le]
  · rfl
  · rw [List.length_drop, List.length_cons]
    omega

section Ascii

variable {a : UInt8} (ascii : a.toNat < 128)
include ascii

/-- An ASCII byte does not continue a character. -/
theorem not_continues : ¬ 0x80 ≤ a := by
  rw [UInt8.le_iff_toNat_le]
  exact not_le.mpr ascii

theorem utf8Second_ascii (first : UInt8) : utf8Second first a = false := by
  have beyond (least : UInt8) (large : 0x80 ≤ least) : decide (least ≤ a) = false :=
    decide_eq_false fun within => not_continues ascii (UInt8.le_trans large within)
  unfold utf8Second
  split
  · rw [beyond _ (by decide), Bool.false_and]
  split
  · rw [beyond _ (by decide), Bool.false_and]
  split
  · rw [beyond _ (by decide), Bool.false_and]
  split
  · rw [beyond _ (by decide), Bool.false_and]
  · rw [beyond _ (by decide), Bool.false_and]

theorem utf8Width_ascii : utf8Width a = 1 := by
  have beyond (least : UInt8) (large : 0x80 ≤ least) : ¬ least ≤ a :=
    fun within => not_continues ascii (UInt8.le_trans large within)
  unfold utf8Width
  rw [if_neg fun within => beyond _ (by decide) within.1,
    if_neg fun within => beyond _ (by decide) within.1,
    if_neg fun within => beyond _ (by decide) within.1]

theorem utf8Subpart_ascii (rest : List UInt8) : utf8Subpart (a :: rest) = 1 := by
  rw [utf8Subpart, utf8Width_ascii ascii]
  rfl

/-- The bytes that continue a character come before the ASCII byte. -/
theorem takeWhile_continues (bytes rest : List UInt8) (width : Nat) :
    ((bytes ++ a :: rest).take width).takeWhile (fun byte => 0x80 ≤ byte && byte ≤ 0xBF) =
      (bytes.take width).takeWhile fun byte => 0x80 ≤ byte && byte ≤ 0xBF := by
  have stops (k : Nat) : ((a :: rest).take k).takeWhile (fun byte => 0x80 ≤ byte && byte ≤ 0xBF) =
      [] := by
    cases k with
    | zero => rfl
    | succ k => simp [not_continues ascii]
  rw [List.take_append, List.takeWhile_append, stops, List.append_nil]
  split
  · rename_i whole
    exact (List.IsPrefix.eq_of_length (List.takeWhile_prefix _) whole).symm
  · rfl

/-- The first part of some bytes ends before the ASCII byte behind them. -/
theorem utf8Subpart_append (b : UInt8) (bytes rest : List UInt8) :
    utf8Subpart (b :: bytes ++ a :: rest) = utf8Subpart (b :: bytes) := by
  rw [List.cons_append, utf8Subpart, utf8Subpart]
  obtain ⟨width, wide⟩ : ∃ width, utf8Width b - 1 = width := ⟨_, rfl⟩
  rw [wide]
  cases width with
  | zero => rfl
  | succ width =>
    cases bytes with
    | nil =>
      rw [List.nil_append, List.take_succ_cons, List.take_nil]
      simp only [utf8Second_ascii ascii, Bool.false_eq_true, ↓reduceIte]
    | cons second bytes =>
      rw [List.cons_append, List.take_succ_cons, List.take_succ_cons]
      simp only [takeWhile_continues ascii]

end Ascii

theorem utf8Subpart_le (bytes : List UInt8) : utf8Subpart bytes ≤ bytes.length := by
  cases bytes with
  | nil => exact Nat.le_refl 0
  | cons b rest =>
    rw [utf8Subpart]
    cases taken : rest.take (utf8Width b - 1) with
    | nil => simp
    | cons second more =>
      have bounded := congrArg List.length taken
      have whole := (List.takeWhile_prefix (l := more) fun byte => 0x80 ≤ byte && byte ≤ 0xBF).length_le
      rw [List.length_take, List.length_cons] at bounded
      simp only [List.length_cons]
      split <;> omega

/-- An ASCII byte is read as its character. -/
theorem lossyPart_ascii {a : UInt8} (ascii : a.toNat < 128) (rest : List UInt8) :
    lossyPart (a :: rest) = [Char.ofNat a.toNat] := by
  have bytes : asBytes (String.ofList [Char.ofNat a.toNat]) = [a] := by
    rw [asBytes_eq, String.toList_ofList, List.flatMap_singleton,
      Codec.utf8EncodeChar_of_ascii (by rwa [Codec.toNat_byteChar]), Codec.toNat_byteChar,
      UInt8.ofNat_toNat]
  have taken : (a :: rest).take 1 = [a] := by simp
  rw [lossyPart, utf8Subpart_ascii ascii, taken, ← bytes, fromUtf8_asBytes, Option.map_some,
    Option.getD_some, String.toList_ofList]

theorem lossyText_ascii {a : UInt8} (ascii : a.toNat < 128) (rest : List UInt8) :
    lossyText (a :: rest) = Char.ofNat a.toNat :: lossyText rest := by
  rw [lossyText_cons, lossyPart_ascii ascii, utf8Subpart_ascii ascii]
  rfl

/-- Bytes are read apart in front of an ASCII byte and behind it. -/
theorem lossyText_append {a : UInt8} (ascii : a.toNat < 128) (front back : List UInt8) :
    lossyText (front ++ a :: back) =
      lossyText front ++ Char.ofNat a.toNat :: lossyText back := by
  induction length : front.length using Nat.strong_induction_on generalizing front with
  | _ n ih =>
  cases front with
  | nil => exact lossyText_ascii ascii back
  | cons b rest =>
    have advances := utf8Subpart_pos b rest
    have within := utf8Subpart_le (b :: rest)
    have parts := lossyText_cons b (rest ++ a :: back)
    rw [← List.cons_append, lossyPart, utf8Subpart_append ascii, List.take_append_of_le_length within,
      List.drop_append_of_le_length within, ← lossyPart] at parts
    have shorter : ((b :: rest).drop (utf8Subpart (b :: rest))).length < n := by
      rw [List.length_drop, length]
      omega
    rw [parts, ih _ shorter _ rfl, lossyText_cons b rest, List.append_assoc]

/-- An ASCII character is read from its byte only. -/
theorem mem_of_mem_lossyChars {a : UInt8} (ascii : a.toNat < 128) {fuel : Nat} {bytes : List UInt8}
    (read : Char.ofNat a.toNat ∈ lossyChars fuel bytes) : a ∈ bytes := by
  induction fuel generalizing bytes with
  | zero => cases read
  | succ fuel ih =>
    cases bytes with
    | nil => cases read
    | cons b rest =>
      rw [lossyChars_cons, List.mem_append] at read
      rcases read with first | later
      · rw [lossyPart] at first
        cases spelled : fromUtf8 ((b :: rest).take (utf8Subpart (b :: rest))) with
        | none =>
          rw [spelled, Option.map_none, Option.getD_none, List.mem_singleton] at first
          have value := congrArg Char.toNat first
          rw [Codec.toNat_byteChar] at value
          exact absurd ascii (by rw [value]; decide)
        | some text =>
          rw [spelled] at first
          have member : a ∈ asBytes text := by
            rw [asBytes_eq]
            refine List.mem_flatMap.mpr ⟨_, first, ?_⟩
            rw [Codec.utf8EncodeChar_of_ascii (by rwa [Codec.toNat_byteChar]), Codec.toNat_byteChar,
              UInt8.ofNat_toNat]
            exact List.mem_singleton_self a
          rw [asBytes_of_fromUtf8 spelled] at member
          exact List.mem_of_mem_take member
      · exact List.mem_of_mem_drop (ih later)

/-- The first character read behind no ASCII byte is no ASCII character. -/
theorem lossyText_high {b : UInt8} (large : 128 ≤ b.toNat) (rest : List UInt8) :
    ∃ c more, 128 ≤ c.toNat ∧ lossyText (b :: rest) = c :: more := by
  have advances := utf8Subpart_pos b rest
  rw [lossyText_cons, lossyPart]
  cases spelled : fromUtf8 ((b :: rest).take (utf8Subpart (b :: rest))) with
  | none => exact ⟨_, _, by decide, rfl⟩
  | some text =>
    have bytes := asBytes_of_fromUtf8 spelled
    obtain ⟨width, wide⟩ := Nat.exists_eq_succ_of_ne_zero advances.ne'
    rw [wide, List.take_succ_cons, asBytes_eq] at bytes
    rw [Option.map_some, Option.getD_some]
    cases chars : text.toList with
    | nil =>
      rw [chars] at bytes
      cases bytes
    | cons c more =>
      refine ⟨c, _, ?_, rfl⟩
      by_contra small
      rw [chars, List.flatMap_cons, Codec.utf8EncodeChar_of_ascii (not_le.mp small)] at bytes
      obtain rfl := (List.cons.inj bytes).1
      rw [UInt8.toNat_ofNat_of_lt' ((not_le.mp small).trans (by decide))] at large
      exact small large

section Cut

variable {a : UInt8} (ascii : a.toNat < 128)
include ascii

theorem not_mem_lossyText {bytes : List UInt8} (absent : a ∉ bytes) :
    Char.ofNat a.toNat ∉ lossyText bytes :=
  mt (mem_of_mem_lossyChars ascii) absent

/-- An ASCII character is read as often as its byte stands there. -/
theorem count_lossyText (bytes : List UInt8) :
    (lossyText bytes).count (Char.ofNat a.toNat) = bytes.count a := by
  induction length : bytes.length using Nat.strong_induction_on generalizing bytes with
  | _ n ih =>
  by_cases member : a ∈ bytes
  · obtain ⟨front, back, rfl, absent⟩ := List.eq_append_cons_of_mem member
    have shorter : back.length < n := by
      rw [← length, List.length_append, List.length_cons]
      omega
    rw [lossyText_append ascii, List.count_append, List.count_cons_self,
      List.count_eq_zero.mpr (not_mem_lossyText ascii absent), ih _ shorter back rfl,
      List.count_append, List.count_cons_self, List.count_eq_zero.mpr absent]
  · rw [List.count_eq_zero.mpr member,
      List.count_eq_zero.mpr (not_mem_lossyText ascii member)]

/-- What comes before the first of an ASCII character is read from what comes before its byte. -/
theorem takeWhile_lossyText (bytes : List UInt8) :
    (lossyText bytes).takeWhile (· ≠ Char.ofNat a.toNat) =
      lossyText (bytes.takeWhile (· ≠ a)) := by
  have others {α : Type} [DecidableEq α] {x : α} {items : List α} (absent : x ∉ items) :
      ∀ y ∈ items, decide (y ≠ x) = true :=
    fun y listed => decide_eq_true fun same => absent (same ▸ listed)
  by_cases member : a ∈ bytes
  · obtain ⟨front, back, rfl, absent⟩ := List.eq_append_cons_of_mem member
    rw [lossyText_append ascii, List.takeWhile_append_of_pos (others absent),
      List.takeWhile_append_of_pos (others (not_mem_lossyText ascii absent))]
    simp
  · rw [List.takeWhile_eq_self_iff.mpr (others member),
      List.takeWhile_eq_self_iff.mpr (others (not_mem_lossyText ascii member))]

end Cut

end Patala
