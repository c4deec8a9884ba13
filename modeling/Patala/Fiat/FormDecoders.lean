import Patala.Core.Lossy
import Patala.Fiat.PayFastCharge

/-! Forms decoded by hand: OpenNode's loop takes two bytes behind every percent sign, Mollie's
takes them where they are a number. Form decoding takes two digits only. -/

namespace Patala.Fiat

open UrlPath

namespace OpenNode

/-- The loop over the bytes. Behind a percent sign the next two are taken, whatever they are. -/
def decodeBytes : List UInt8 → List UInt8
  | [] => []
  | 0x25 :: high :: low :: rest =>
    match fromStrRadix16 high low with
    | some byte => byte :: decodeBytes rest
    | none => 0x25 :: decodeBytes rest
  | [0x25, _] => [0x25]
  | byte :: rest => byte :: decodeBytes rest

/-- `str::replace('+', " ")`. -/
def replacePlus (s : String) : String := String.ofList (s.toList.map plusToSpace)

def decode (s : String) : String := fromUtf8Lossy (decodeBytes (asBytes (replacePlus s)))

/-- What is inserted into the map, pair by pair. -/
def formInserts (body : String) : List (String × String) :=
  (rawPairs body).map fun pair => (decode pair.1, decode pair.2)

def parseFormBody (body : String) : String → Option String := lastValue (formInserts body)

example : parseFormBody "id=a%2Fb+c&x=50%" "id" = some "a/b c" := by decide

end OpenNode

namespace FormDecoders

open Iyzico PayFast OpenNode

/-- A name or a value as form decoding reads it. -/
def formUrlDecode (s : String) : String := fromUtf8Lossy (formDecodeBytes (asBytes s))

/-- The pairs of a body as form decoding reads them. -/
def formUrlPairs (body : String) : List (String × String) :=
  (rawPairs body).map fun pair => (formUrlDecode pair.1, formUrlDecode pair.2)

section OpenNode

/-- An ASCII byte that is no plus sign. -/
def Plain (b : UInt8) : Prop := b.toNat < 128 ∧ b ≠ 0x2B

/-- Bytes as the loop goes through them. -/
inductive Walked : List UInt8 → Prop where
  | nil : Walked []
  | last : Walked [0x25]
  | cut {b : UInt8} (plain : Plain b) : Walked [0x25, b]
  | escaped {high low byte : UInt8} {rest : List UInt8} (read : hexByte high low = some byte)
      (behind : Walked rest) : Walked (0x25 :: high :: low :: rest)
  | dropped {high low : UInt8} {rest : List UInt8} (unread : hexByte high low = none)
      (first : Plain high) (second : Plain low) (behind : Walked rest) :
      Walked (0x25 :: high :: low :: rest)
  | kept {b : UInt8} {rest : List UInt8} (other : b ≠ 0x25) (plain : Plain b)
      (behind : Walked rest) : Walked (b :: rest)

theorem walked_of_plain {bytes : List UInt8} (plain : ∀ b ∈ bytes, Plain b) : Walked bytes := by
  induction bytes using decodeBytes.induct with
  | case1 => exact .nil
  | case2 high low rest byte _ ih =>
    simp only [List.forall_mem_cons] at plain
    obtain ⟨-, first, second, behind⟩ := plain
    cases read : hexByte high low with
    | none => exact .dropped read first second (ih behind)
    | some byte => exact .escaped read (ih behind)
  | case3 high low rest _ ih =>
    simp only [List.forall_mem_cons] at plain
    obtain ⟨-, first, second, behind⟩ := plain
    cases read : hexByte high low with
    | none => exact .dropped read first second (ih behind)
    | some byte => exact .escaped read (ih behind)
  | case4 b => exact .cut (plain b (by simp))
  | case5 b rest notEscape notCut ih =>
    obtain ⟨here, behind⟩ := List.forall_mem_cons.mp plain
    by_cases percent : b = 0x25
    · rcases rest with _ | ⟨high, _ | ⟨low, more⟩⟩
      · exact percent ▸ .last
      · exact absurd rfl (notCut high percent)
      · exact absurd rfl (notEscape high low more percent)
    · exact .kept percent here (ih behind)

/-- Digits are ASCII bytes, and neither a percent sign nor a plus sign. -/
theorem plain_of_hexByte {high low byte : UInt8} (read : hexByte high low = some byte) :
    (Plain high ∧ high ≠ 0x25) ∧ Plain low ∧ low ≠ 0x25 := by
  have plus : Codec.hexValue (Char.ofNat (0x2B : UInt8).toNat) = none := by decide
  have percent : Codec.hexValue (Char.ofNat (0x25 : UInt8).toNat) = none := by decide
  have each {b : UInt8} {value : Nat} (found : Codec.hexValue (Char.ofNat b.toNat) = some value) :
      Plain b ∧ b ≠ 0x25 := by
    have small := Codec.hexValue_ascii found
    rw [Codec.toNat_byteChar] at small
    refine ⟨⟨small, ?_⟩, ?_⟩
    · rintro rfl
      rw [plus] at found
      cases found
    · rintro rfl
      rw [percent] at found
      cases found
  simp only [hexByte, byteOf, Option.bind_eq_bind, Option.bind_eq_some_iff] at read
  obtain ⟨upper, first, lower, second, -⟩ := read
  exact ⟨each first, each second⟩

theorem decodeBytes_escaped {high low byte : UInt8} {rest : List UInt8}
    (read : hexByte high low = some byte) :
    decodeBytes (0x25 :: high :: low :: rest) = byte :: decodeBytes rest := by
  rw [decodeBytes, fromStrRadix16_eq_some.mpr (.inl read)]

/-- Two bytes that are no digits are dropped. -/
theorem decodeBytes_dropped {high low : UInt8} {rest : List UInt8} (notPlus : high ≠ 0x2B)
    (unread : hexByte high low = none) :
    decodeBytes (0x25 :: high :: low :: rest) = 0x25 :: decodeBytes rest := by
  have unread' : fromStrRadix16 high low = none := by
    apply Option.eq_none_iff_forall_ne_some.mpr
    intro byte read
    rcases fromStrRadix16_eq_some.mp read with strict | ⟨plus, -⟩
    · rw [unread] at strict
      cases strict
    · exact notPlus plus
  rw [decodeBytes, unread']

theorem decodeBytes_cons {b : UInt8} {rest : List UInt8} (other : b ≠ 0x25) :
    decodeBytes (b :: rest) = b :: decodeBytes rest := by
  rw [decodeBytes]
  · exact fun _ _ _ same _ => other same
  · exact fun _ same _ => other same

theorem formDecodeBytes_plain {b : UInt8} {rest : List UInt8} (other : b ≠ 0x25) (plain : Plain b) :
    formDecodeBytes (b :: rest) = b :: formDecodeBytes rest :=
  formDecodeBytes_cons plain.2 fun same => absurd same other

theorem formDecodeBytes_percent {rest : List UInt8} (unread : escapedByte rest = none) :
    formDecodeBytes (0x25 :: rest) = 0x25 :: formDecodeBytes rest :=
  formDecodeBytes_cons (by decide) fun _ => unread

theorem formDecodeBytes_dropped {high low : UInt8} {rest : List UInt8}
    (unread : hexByte high low = none) : formDecodeBytes (0x25 :: high :: low :: rest) =
      0x25 :: formDecodeBytes (high :: low :: rest) :=
  formDecodeBytes_percent unread

/-- A byte in front adds percent signs to what is decoded, if any. -/
theorem count_formDecodeBytes_cons (b : UInt8) (rest : List UInt8) :
    (formDecodeBytes rest).count 0x25 ≤ (formDecodeBytes (b :: rest)).count 0x25 := by
  by_cases plus : b = 0x2B
  · rw [plus, formDecodeBytes, List.count_cons_of_ne (by decide)]
  cases read : escapedByte rest with
  | none =>
    rw [formDecodeBytes_cons plus fun _ => read]
    exact (List.sublist_cons_self b _).count_le _
  | some byte =>
    by_cases percent : b = 0x25
    · rcases rest with _ | ⟨high, _ | ⟨low, more⟩⟩
      · cases read
      · cases read
      · have strict : hexByte high low = some byte := read
        obtain ⟨⟨first, notFirst⟩, second, notSecond⟩ := plain_of_hexByte strict
        rw [percent, formDecodeBytes_escaped strict, formDecodeBytes_plain notFirst first,
          formDecodeBytes_plain notSecond second, List.count_cons_of_ne notFirst,
          List.count_cons_of_ne notSecond]
        exact (List.sublist_cons_self byte _).count_le _
    · rw [formDecodeBytes_cons plus fun same => absurd same percent]
      exact (List.sublist_cons_self b _).count_le _

/-- The loop makes no percent sign that form decoding does not make. -/
theorem count_decodeBytes_le {bytes : List UInt8} (walked : Walked bytes) :
    (decodeBytes bytes).count 0x25 ≤ (formDecodeBytes bytes).count 0x25 := by
  induction walked with
  | nil => exact Nat.le_refl _
  | last => exact Nat.le_refl _
  | cut plain =>
    rw [formDecodeBytes_percent rfl, List.count_cons_self]
    exact Nat.le_add_left 1 _
  | escaped read _ ih =>
    rw [decodeBytes_escaped read, formDecodeBytes_escaped read, List.count_cons, List.count_cons]
    omega
  | dropped unread first _ _ ih =>
    rw [decodeBytes_dropped first.2 unread, formDecodeBytes_dropped unread, List.count_cons_self,
      List.count_cons_self]
    apply Nat.succ_le_succ
    exact (ih.trans (count_formDecodeBytes_cons _ _)).trans (count_formDecodeBytes_cons _ _)
  | kept other plain _ ih =>
    rw [decodeBytes_cons other, formDecodeBytes_plain other plain, List.count_cons, List.count_cons]
    omega

/-- The two agree up to the first percent sign they make. -/
theorem takeWhile_decodeBytes {bytes : List UInt8} (walked : Walked bytes) :
    (decodeBytes bytes).takeWhile (· ≠ 0x25) = (formDecodeBytes bytes).takeWhile (· ≠ 0x25) := by
  induction walked with
  | nil => rfl
  | last => rfl
  | cut plain => rw [formDecodeBytes_percent rfl]; rfl
  | escaped read _ ih =>
    rw [decodeBytes_escaped read, formDecodeBytes_escaped read, List.takeWhile_cons,
      List.takeWhile_cons, ih]
  | dropped unread first _ _ _ =>
    rw [decodeBytes_dropped first.2 unread, formDecodeBytes_dropped unread]
    simp
  | kept other plain _ ih =>
    rw [decodeBytes_cons other, formDecodeBytes_plain other plain, List.takeWhile_cons,
      List.takeWhile_cons, ih]

/-- A digit from zero to nine. -/
def Decimal (b : UInt8) : Prop := 0x30 ≤ b ∧ b ≤ 0x39

/-- What may stand behind a percent sign: nothing, two digits, or the escape of a decimal digit
where the bytes that are dropped are those that stand for nothing else. -/
def Harmless (behind : List UInt8) : Prop :=
  behind = [] ∨ escapedByte behind ≠ none ∨
    (∃ d rest, Decimal d ∧ behind = 0x25 :: 0x33 :: d :: rest) ∨
    ∃ d rest, Decimal d ∧ behind = 0x33 :: 0x25 :: 0x33 :: d :: rest

/-- Two digits stand for the second of them when they are a decimal digit's. -/
theorem hexByte_eq_low_iff {high low byte : UInt8} (read : hexByte high low = some byte) :
    low = byte ↔ high = 0x33 ∧ Decimal low := by
  have three : ∀ code < 256, ∀ value ∈ Codec.hexValue (Char.ofNat code),
      value < 16 ∧ (value = 3 ↔ code = 0x33) := by
    decide +kernel
  have table : ∀ code < 128, ∀ lower ∈ Codec.hexValue (Char.ofNat code), ∀ upper < 16,
      (UInt8.ofNat code = UInt8.ofNat (16 * upper + lower) ↔
        upper = 3 ∧ 0x30 ≤ UInt8.ofNat code ∧ UInt8.ofNat code ≤ 0x39) := by
    decide +kernel
  have small := (plain_of_hexByte read).2.1.1
  simp only [hexByte, byteOf, Option.bind_eq_bind, Option.bind_eq_some_iff] at read
  obtain ⟨upper, first, lower, second, same⟩ := read
  obtain ⟨bound, isThree⟩ := three high.toNat high.toNat_lt upper first
  have here := table low.toNat small lower second upper bound
  rw [UInt8.ofNat_toNat] at here
  rw [← Option.some.inj same, here, isThree, Decimal, ← UInt8.toNat_inj]
  rfl

/-- The loop makes the text that form decoding makes. -/
def Agrees (bytes : List UInt8) : Prop :=
  lossyText (decodeBytes bytes) = lossyText (formDecodeBytes bytes)

theorem agrees_cons {b : UInt8} {rest : List UInt8} (other : b ≠ 0x25) (plain : Plain b) :
    Agrees (b :: rest) ↔ Agrees rest := by
  rw [Agrees, decodeBytes_cons other, formDecodeBytes_plain other plain, lossyText_ascii plain.1,
    lossyText_ascii plain.1, List.cons.injEq, and_iff_right rfl, Agrees]

theorem everyPercent_plain {p : List UInt8 → Prop} {b : UInt8} {rest : List UInt8}
    (other : b ≠ 0x25) : EveryPercent p (b :: rest) ↔ EveryPercent p rest := by
  rw [everyPercent_cons, and_iff_right fun same => absurd same other]

/-- A digit that is kept in the place of the byte it was half of the escape of. -/
theorem digit_iff {high low byte : UInt8} (read : hexByte high low = some byte)
    (more : List UInt8) :
    lossyText (low :: decodeBytes more) = lossyText (byte :: formDecodeBytes more) ↔
      (high = 0x33 ∧ Decimal low) ∧ Agrees more := by
  have small := (plain_of_hexByte read).2.1.1
  rw [← hexByte_eq_low_iff read, lossyText_ascii small]
  by_cases ascii : byte.toNat < 128
  · rw [lossyText_ascii ascii, List.cons.injEq, Codec.byteChar_inj, Agrees]
  · obtain ⟨c, others, large, made⟩ := lossyText_high (not_lt.mp ascii) (formDecodeBytes more)
    rw [made]
    refine iff_of_false (fun same => ?_) fun same => ascii (same.1 ▸ small)
    have first := congrArg Char.toNat (List.cons.inj same).1
    rw [Codec.toNat_byteChar] at first
    omega

theorem unread_percent (b : UInt8) : hexByte 0x25 b = none ∧ hexByte b 0x25 = none := by
  constructor
  · refine Option.eq_none_iff_forall_ne_some.mpr fun byte read => ?_
    exact (plain_of_hexByte read).1.2 rfl
  · refine Option.eq_none_iff_forall_ne_some.mpr fun byte read => ?_
    exact (plain_of_hexByte read).2.2 rfl

theorem harmless_percent_iff {low : UInt8} {rest : List UInt8} :
    Harmless (0x25 :: low :: rest) ↔ low = 0x33 ∧ ∃ d more, Decimal d ∧ rest = d :: more := by
  constructor
  · rintro (empty | read | ⟨d, more, decimal, same⟩ | ⟨d, more, -, same⟩)
    · cases empty
    · exact absurd (unread_percent low).1 read
    · simp only [List.cons.injEq, true_and] at same
      exact ⟨same.1, d, more, decimal, same.2⟩
    · exact absurd (List.cons.inj same).1 (by decide)
  · rintro ⟨rfl, d, more, decimal, rfl⟩
    exact .inr (.inr (.inl ⟨d, more, decimal, rfl⟩))

theorem harmless_before_percent_iff {high : UInt8} {rest : List UInt8} (other : high ≠ 0x25) :
    Harmless (high :: 0x25 :: rest) ↔
      high = 0x33 ∧ ∃ d more, Decimal d ∧ rest = 0x33 :: d :: more := by
  constructor
  · rintro (empty | read | ⟨d, more, -, same⟩ | ⟨d, more, decimal, same⟩)
    · cases empty
    · exact absurd (unread_percent high).2 read
    · exact absurd (List.cons.inj same).1 other
    · simp only [List.cons.injEq, true_and] at same
      exact ⟨same.1, d, more, decimal, same.2⟩
  · rintro ⟨rfl, d, more, decimal, rfl⟩
    exact .inr (.inr (.inr ⟨d, more, decimal, rfl⟩))

/-- Two bytes that are neither digits nor percent signs are not harmless. -/
theorem not_harmless {high low : UInt8} {rest : List UInt8} (unread : hexByte high low = none)
    (first : high ≠ 0x25) (second : low ≠ 0x25) : ¬ Harmless (high :: low :: rest) := by
  rintro (empty | read | ⟨d, more, -, same⟩ | ⟨d, more, -, same⟩)
  · cases empty
  · exact read unread
  · exact first (List.cons.inj same).1
  · exact second (List.cons.inj (List.cons.inj same).2).1

theorem hexByte_decimal {d : UInt8} (decimal : Decimal d) : hexByte 0x33 d ≠ none := by
  have table : ∀ code < 58, 48 ≤ code → Codec.hexValue (Char.ofNat code) ≠ none := by
    decide
  have digit := table d.toNat (Nat.lt_succ_of_le (UInt8.le_iff_toNat_le.mp decimal.2))
    (UInt8.le_iff_toNat_le.mp decimal.1)
  obtain ⟨value, found⟩ := Option.ne_none_iff_exists'.mp digit
  have three : Codec.hexValue (Char.ofNat (0x33 : UInt8).toNat) = some 3 := by decide
  rw [hexByte, byteOf, three, found]
  exact Option.some_ne_none _

/-- Where form decoding makes more percent signs, the loop makes another text. -/
theorem lossyText_ne {rest bytes : List UInt8} (walked : Walked rest)
    (more : (formDecodeBytes rest).count 0x25 < bytes.count 0x25) :
    lossyText (decodeBytes rest) ≠ lossyText bytes := by
  intro same
  have percent : (0x25 : UInt8).toNat < 128 := by decide
  have counted := congrArg (List.count (Char.ofNat (0x25 : UInt8).toNat)) same
  rw [count_lossyText percent, count_lossyText percent] at counted
  have fewer := count_decodeBytes_le walked
  omega

section Dropped

variable {high low : UInt8} {rest : List UInt8} (walked : Walked rest)
  (later : Agrees rest ↔ EveryPercent Harmless rest)
include walked later

/-- A percent sign and another byte are dropped. -/
theorem droppedPercent_iff :
    lossyText (decodeBytes rest) = lossyText (formDecodeBytes (0x25 :: low :: rest)) ↔
      Harmless (0x25 :: low :: rest) ∧ EveryPercent Harmless (0x25 :: low :: rest) := by
  cases read : escapedByte (low :: rest) with
  | none =>
    refine iff_of_false (lossyText_ne walked ?_) ?_
    · rw [formDecodeBytes_percent read, List.count_cons_self]
      exact Nat.lt_succ_of_le (count_formDecodeBytes_cons low rest)
    · rintro ⟨harmless, -⟩
      obtain ⟨rfl, d, more, decimal, rfl⟩ := harmless_percent_iff.mp harmless
      exact hexByte_decimal decimal read
  | some byte =>
    cases rest with
    | nil => cases read
    | cons d more =>
      have strict : hexByte low d = some byte := read
      obtain ⟨⟨-, first⟩, plain, second⟩ := plain_of_hexByte strict
      rw [agrees_cons second plain, everyPercent_plain second] at later
      have behind : Harmless (low :: d :: more) :=
        .inr (.inl (by rw [read]; exact Option.some_ne_none byte))
      rw [decodeBytes_cons second, formDecodeBytes_escaped strict, digit_iff strict, later,
        harmless_percent_iff, everyPercent_cons, everyPercent_plain first,
        everyPercent_plain second, and_iff_right fun _ => behind]
      simp

/-- A byte and a percent sign are dropped. -/
theorem droppedBeforePercent_iff (plain : Plain high) (other : high ≠ 0x25) :
    lossyText (decodeBytes rest) = lossyText (formDecodeBytes (high :: 0x25 :: rest)) ↔
      Harmless (high :: 0x25 :: rest) ∧ EveryPercent Harmless (high :: 0x25 :: rest) := by
  cases read : escapedByte rest with
  | none =>
    refine iff_of_false (lossyText_ne walked ?_) ?_
    · rw [formDecodeBytes_plain other plain, formDecodeBytes_percent read,
        List.count_cons_of_ne other, List.count_cons_self]
      exact Nat.lt_succ_self _
    · rintro ⟨harmless, -⟩
      obtain ⟨-, d, more, decimal, rfl⟩ := (harmless_before_percent_iff other).mp harmless
      exact hexByte_decimal decimal read
  | some byte =>
    rcases rest with _ | ⟨a, _ | ⟨b, more⟩⟩
    · cases read
    · cases read
    · have strict : hexByte a b = some byte := read
      obtain ⟨⟨plainA, first⟩, plainB, second⟩ := plain_of_hexByte strict
      rw [agrees_cons first plainA, agrees_cons second plainB, everyPercent_plain first,
        everyPercent_plain second] at later
      have behind : Harmless (a :: b :: more) :=
        .inr (.inl (by rw [read]; exact Option.some_ne_none byte))
      rw [decodeBytes_cons first, decodeBytes_cons second, formDecodeBytes_plain other plain,
        formDecodeBytes_escaped strict, lossyText_ascii plainA.1, lossyText_ascii plain.1,
        List.cons.injEq, Codec.byteChar_inj, digit_iff strict, later, harmless_before_percent_iff other,
        everyPercent_plain other, everyPercent_cons, everyPercent_plain first,
        everyPercent_plain second, and_iff_right fun _ => behind]
      constructor
      · rintro ⟨rfl, ⟨rfl, decimal⟩, every⟩
        exact ⟨⟨rfl, b, more, decimal, rfl⟩, every⟩
      · rintro ⟨⟨rfl, _, _, decimal, same⟩, every⟩
        obtain ⟨rfl, rest⟩ := List.cons.inj same
        obtain ⟨rfl, -⟩ := List.cons.inj rest
        exact ⟨rfl, ⟨rfl, decimal⟩, every⟩

/-- Two bytes that are no digits are dropped. -/
theorem dropped_iff (unread : hexByte high low = none) (first : Plain high) (second : Plain low) :
    lossyText (decodeBytes rest) = lossyText (formDecodeBytes (high :: low :: rest)) ↔
      Harmless (high :: low :: rest) ∧ EveryPercent Harmless (high :: low :: rest) := by
  by_cases firstPercent : high = 0x25
  · subst firstPercent
    exact droppedPercent_iff walked later
  by_cases secondPercent : low = 0x25
  · subst secondPercent
    exact droppedBeforePercent_iff walked later first firstPercent
  refine iff_of_false (fun same => ?_) fun both =>
    not_harmless unread firstPercent secondPercent both.1
  -- what comes before the next percent sign is longer by the two
  have percent : (0x25 : UInt8).toNat < 128 := by decide
  have cut := congrArg (List.takeWhile (· ≠ Char.ofNat (0x25 : UInt8).toNat)) same
  rw [takeWhile_lossyText percent, takeWhile_lossyText percent, takeWhile_decodeBytes walked,
    formDecodeBytes_plain firstPercent first, formDecodeBytes_plain secondPercent second,
    List.takeWhile_cons_of_pos (by simpa using firstPercent),
    List.takeWhile_cons_of_pos (by simpa using secondPercent), lossyText_ascii first.1,
    lossyText_ascii second.1] at cut
  have lengths := congrArg List.length cut
  rw [List.length_cons, List.length_cons] at lengths
  omega

end Dropped

/-- The loop decodes bytes as form decoding does, whatever comes before them, exactly when nothing
stands behind a percent sign that it drops. -/
theorem lossyText_decode_iff {bytes : List UInt8} (walked : Walked bytes) (front : List UInt8) :
    lossyText (front ++ decodeBytes bytes) = lossyText (front ++ formDecodeBytes bytes) ↔
      EveryPercent Harmless bytes := by
  have percent : (0x25 : UInt8).toNat < 128 := by decide
  induction walked generalizing front with
  | nil => exact iff_of_true rfl everyPercent_nil
  | last =>
    rw [everyPercent_cons]
    exact iff_of_true rfl ⟨fun _ => .inl rfl, everyPercent_nil⟩
  | @cut b plain =>
    have written : formDecodeBytes [b] = [b] := formDecodeBytes_cons plain.2 fun _ => rfl
    have behind : ¬ Harmless [b] := by
      rintro (empty | read | ⟨_, _, -, same⟩ | ⟨_, _, -, same⟩)
      · cases empty
      · exact read rfl
      · cases same
      · cases same
    rw [formDecodeBytes_percent rfl, written, decodeBytes, lossyText_append percent,
      lossyText_append percent, List.append_cancel_left_eq, lossyText_ascii plain.1,
      everyPercent_cons]
    refine iff_of_false (fun same => ?_) fun both => behind (both.1 rfl)
    cases (List.cons.inj same).2
  | @escaped high low byte rest read _ ih =>
    have behind : Harmless (high :: low :: rest) :=
      .inr (.inl (by rw [escapedByte, read]; exact Option.some_ne_none byte))
    rw [decodeBytes_escaped read, formDecodeBytes_escaped read,
      everyPercent_digits (fromStrRadix16_eq_some.mpr (.inl read)), and_iff_right behind,
      List.append_cons, List.append_cons front byte (formDecodeBytes rest)]
    exact ih (front ++ [byte])
  | dropped unread first second walked ih =>
    rw [decodeBytes_dropped first.2 unread, formDecodeBytes_dropped unread, everyPercent_cons,
      lossyText_append percent, lossyText_append percent, List.append_cancel_left_eq,
      List.cons.injEq, and_iff_right rfl, dropped_iff walked (ih []) unread first second]
    simp
  | @kept b rest other plain _ ih =>
    rw [decodeBytes_cons other, formDecodeBytes_plain other plain, everyPercent_plain other,
      List.append_cons, List.append_cons front b (formDecodeBytes rest)]
    exact ih (front ++ [b])

section Plus

def plusByte (b : UInt8) : UInt8 := if b = 0x2B then 0x20 else b

theorem plusByte_eq_iff {b c : UInt8} (notPlus : c ≠ 0x2B) (notBlank : c ≠ 0x20) :
    plusByte b = c ↔ b = c := by
  unfold plusByte
  split
  · rename_i plus
    rw [plus]
    exact iff_of_false notBlank.symm notPlus.symm
  · exact Iff.rfl

theorem asBytes_replacePlus {s : String} (ascii : ∀ c ∈ s.toList, c.toNat < 128) :
    asBytes (replacePlus s) = (asBytes s).map plusByte := by
  have table : ∀ c : Char, c.toNat < 128 → (plusToSpace c).toNat < 128 ∧
      UInt8.ofNat (plusToSpace c).toNat = plusByte (UInt8.ofNat c.toNat) :=
    Codec.forall_ascii (by decide)
  have each {c : Char} (member : c ∈ s.toList) := table c (ascii c member)
  have small : ∀ c ∈ s.toList.map plusToSpace, c.toNat < 128 := by
    intro c member
    obtain ⟨d, listed, rfl⟩ := List.mem_map.mp member
    exact (each listed).1
  have bytes := Codec.bytes_ofList ascii
  rw [String.ofList_toList] at bytes
  rw [replacePlus, asBytes, Codec.bytes_ofList small, asBytes, bytes, List.map_map, List.map_map]
  exact List.map_congr_left fun c listed => (each listed).2

/-- Form decoding takes a plus sign for a blank itself. -/
theorem formDecodeBytes_replacePlus (s : String) :
    formDecodeBytes (asBytes (replacePlus s)) = formDecodeBytes (asBytes s) := by
  have once (c : Char) : plusToSpace (plusToSpace c) = plusToSpace c := by
    unfold plusToSpace
    split <;> simp_all
  rw [asBytes_eq_utf8, asBytes_eq_utf8, ← formDecode_eq, ← formDecode_eq, replacePlus,
    String.toList_ofList, formDecode, List.map_map, formDecode]
  congr 1
  exact List.map_congr_left fun c _ => once c

theorem everyPercent_map_plusByte {p : List UInt8 → Prop} {bytes : List UInt8} :
    EveryPercent p (bytes.map plusByte) ↔
      EveryPercent (fun behind => p (behind.map plusByte)) bytes := by
  induction bytes with
  | nil => exact iff_of_true everyPercent_nil everyPercent_nil
  | cons b rest ih =>
    rw [List.map_cons, everyPercent_cons, everyPercent_cons, ih,
      plusByte_eq_iff (by decide) (by decide)]

theorem escapedByte_map_plusByte (behind : List UInt8) :
    escapedByte (behind.map plusByte) = escapedByte behind := by
  have digit (b : UInt8) : Codec.hexValue (Char.ofNat (plusByte b).toNat) =
      Codec.hexValue (Char.ofNat b.toNat) := by
    unfold plusByte
    split
    · rename_i plus
      rw [plus]
      decide
    · rfl
  rcases behind with _ | ⟨high, _ | ⟨low, rest⟩⟩
  · rfl
  · rfl
  · rw [List.map_cons, List.map_cons, escapedByte, escapedByte, hexByte, byteOf, digit, digit,
      hexByte, byteOf]

theorem decimal_plusByte {b : UInt8} : Decimal (plusByte b) ↔ Decimal b := by
  unfold plusByte
  split
  · rename_i plus
    rw [plus]
    unfold Decimal
    decide
  · exact Iff.rfl

theorem harmless_map_plusByte {behind : List UInt8} :
    Harmless (behind.map plusByte) ↔ Harmless behind := by
  have percent {b : UInt8} : plusByte b = 0x25 ↔ b = 0x25 :=
    plusByte_eq_iff (by decide) (by decide)
  have three {b : UInt8} : plusByte b = 0x33 ↔ b = 0x33 :=
    plusByte_eq_iff (by decide) (by decide)
  unfold Harmless
  rw [List.map_eq_nil_iff, escapedByte_map_plusByte]
  refine or_congr_right (or_congr_right (or_congr ?_ ?_))
  · constructor
    · rintro ⟨d, rest, decimal, same⟩
      simp only [List.map_eq_cons_iff] at same
      obtain ⟨b, _, rfl, first, c, _, rfl, second, d, more, rfl, rfl, -⟩ := same
      rw [percent.mp first, three.mp second]
      exact ⟨d, more, decimal_plusByte.mp decimal, rfl⟩
    · rintro ⟨d, rest, decimal, rfl⟩
      exact ⟨plusByte d, rest.map plusByte, decimal_plusByte.mpr decimal, rfl⟩
  · constructor
    · rintro ⟨d, rest, decimal, same⟩
      simp only [List.map_eq_cons_iff] at same
      obtain ⟨a, _, rfl, zeroth, b, _, rfl, first, c, _, rfl, second, d, more, rfl, rfl, -⟩ := same
      rw [three.mp zeroth, percent.mp first, three.mp second]
      exact ⟨d, more, decimal_plusByte.mp decimal, rfl⟩
    · rintro ⟨d, rest, decimal, rfl⟩
      exact ⟨plusByte d, rest.map plusByte, decimal_plusByte.mpr decimal, rfl⟩

end Plus

/-- A name or a value of which nothing is dropped. -/
def Undropped (s : String) : Prop := EveryPercent Harmless (asBytes s)

theorem decode_eq_iff {s : String} (ascii : ∀ c ∈ s.toList, c.toNat < 128) :
    decode s = formUrlDecode s ↔ Undropped s := by
  have plain : ∀ b ∈ asBytes (replacePlus s), Plain b := by
    have bytes := Codec.bytes_ofList ascii
    rw [String.ofList_toList] at bytes
    rw [asBytes_replacePlus ascii, asBytes, bytes, List.map_map]
    intro b member
    obtain ⟨c, listed, rfl⟩ := List.mem_map.mp member
    have small : (UInt8.ofNat c.toNat).toNat < 128 := by
      have fits : c.toNat < 2 ^ 8 := (ascii c listed).trans (by decide)
      rw [UInt8.toNat_ofNat_of_lt' fits]
      exact ascii c listed
    rw [Function.comp_apply, plusByte]
    split
    · exact ⟨by decide, by decide⟩
    · exact ⟨small, ‹_›⟩
  have exact := lossyText_decode_iff (walked_of_plain plain) []
  rw [decode, formUrlDecode, fromUtf8Lossy_eq_iff, ← formDecodeBytes_replacePlus]
  rw [List.nil_append, List.nil_append, asBytes_replacePlus ascii, everyPercent_map_plusByte] at exact
  simp only [harmless_map_plusByte] at exact
  rw [asBytes_replacePlus ascii, exact, Undropped]

end OpenNode

section Mollie

/-- Reading a plus sign and a digit as a number takes a percent sign away, and only that makes the
bytes others. -/
theorem count_percentDecodeBytes (bytes : List UInt8) :
    (Mollie.percentDecodeBytes bytes).count 0x25 ≤ (formDecodeBytes bytes).count 0x25 ∧
      ((Mollie.percentDecodeBytes bytes).count 0x25 = (formDecodeBytes bytes).count 0x25 →
        Mollie.percentDecodeBytes bytes = formDecodeBytes bytes) := by
  have push {b : UInt8} {x y : List UInt8}
      (behind : x.count 0x25 ≤ y.count 0x25 ∧ (x.count 0x25 = y.count 0x25 → x = y)) :
      (b :: x).count 0x25 ≤ (b :: y).count 0x25 ∧
        ((b :: x).count 0x25 = (b :: y).count 0x25 → b :: x = b :: y) := by
    rw [List.count_cons, List.count_cons]
    refine ⟨Nat.add_le_add_right behind.1 _, fun equal => ?_⟩
    rw [behind.2 (Nat.add_right_cancel equal)]
  induction radix bytes with
  | nil => exact ⟨Nat.le_refl _, fun _ => rfl⟩
  | blank _ ih =>
    rw [Mollie.percentDecodeBytes, formDecodeBytes]
    exact push ih
  | escaped strict _ ih =>
    rw [percentDecodeBytes_read (fromStrRadix16_eq_some.mpr (.inl strict)),
      formDecodeBytes_escaped strict]
    exact push ih
  | @signed low value rest digit _ ih =>
    have small : UInt8.ofNat value ≠ 0x25 := by
      intro same
      have value := congrArg UInt8.toNat same
      rw [Codec.toNat_hexValue digit] at value
      exact absurd (value ▸ Codec.hexValue_lt digit) (by decide)
    have shorter : (formDecodeBytes rest).count 0x25 + 1 ≤
        (0x25 :: 0x20 :: low :: formDecodeBytes rest).count 0x25 := by
      rw [List.count_cons_self]
      apply Nat.succ_le_succ
      exact ((List.sublist_cons_self low _).trans (List.sublist_cons_self 0x20 _)).count_le _
    rw [percentDecodeBytes_read (fromStrRadix16_eq_some.mpr (.inr ⟨rfl, value, digit, rfl⟩)),
      formDecodeBytes_signed digit, List.count_cons_of_ne small]
    exact ⟨by omega, fun equal => by omega⟩
  | kept notPlus unread _ ih =>
    rw [percentDecodeBytes_kept notPlus unread,
      formDecodeBytes_cons notPlus fun percent => (unread percent).2]
    exact push ih

/-- A name or a value without a plus sign and a digit behind a percent sign. -/
def Unsigned (s : String) : Prop := EveryPercent (fun behind => plusDigit behind = false) (asBytes s)

theorem percentDecode_eq_iff {s : String} :
    Mollie.percentDecode s = formUrlDecode s ↔ Unsigned s := by
  rw [Mollie.percentDecode, formUrlDecode, fromUtf8Lossy_eq_iff, Unsigned,
    ← (percentDecodeBytes_follows (asBytes s)).same]
  constructor
  · intro same
    have percent : (0x25 : UInt8).toNat < 128 := by decide
    have counted := congrArg (List.count (Char.ofNat (0x25 : UInt8).toNat)) same
    rw [count_lossyText percent, count_lossyText percent] at counted
    exact (count_percentDecodeBytes (asBytes s)).2 counted
  · intro same
    rw [same]

end Mollie
section Body

/-- OpenNode's decoder takes the pairs of a body to those of form decoding exactly when nothing is
dropped of a name or a value, and Mollie's exactly when none has a signed escape. Where nothing is
dropped of a name, OpenNode's map is that of form decoding exactly when nothing is dropped of the
last value of each name. -/
theorem decoders_exact_iff {body : String} (ascii : ∀ c ∈ body.toList, c.toNat < 128) :
    (formInserts body = formUrlPairs body ↔
      ∀ pair ∈ rawPairs body, Undropped pair.1 ∧ Undropped pair.2) ∧
    (Mollie.formParse body = formUrlPairs body ↔
      ∀ pair ∈ rawPairs body, Unsigned pair.1 ∧ Unsigned pair.2) ∧
    ((∀ pair ∈ rawPairs body, Undropped pair.1) →
      (parseFormBody body = lastValue (formUrlPairs body) ↔
        ∀ front pair back, rawPairs body = front ++ pair :: back →
          (∀ later ∈ back, formUrlDecode later.1 ≠ formUrlDecode pair.1) → Undropped pair.2)) := by
  have name {pair : String × String} (listed : pair ∈ rawPairs body) :
      decode pair.1 = formUrlDecode pair.1 ↔ Undropped pair.1 :=
    decode_eq_iff fun c member => ascii c ((mem_of_rawPairs listed).1 c member)
  have value {pair : String × String} (listed : pair ∈ rawPairs body) :
      decode pair.2 = formUrlDecode pair.2 ↔ Undropped pair.2 :=
    decode_eq_iff fun c member => ascii c ((mem_of_rawPairs listed).2 c member)
  refine ⟨?_, ?_, fun names => ?_⟩
  · rw [formInserts, formUrlPairs, List.map_inj_left]
    refine forall₂_congr fun pair listed => ?_
    rw [Prod.mk.injEq, name listed, value listed]
  · rw [Mollie.formParse, formUrlPairs, List.map_inj_left]
    refine forall₂_congr fun pair listed => ?_
    rw [Prod.mk.injEq, percentDecode_eq_iff, percentDecode_eq_iff]
  · have named : formInserts body =
        (rawPairs body).map fun pair => (formUrlDecode pair.1, decode pair.2) := by
      refine List.map_congr_left fun pair listed => ?_
      rw [(name listed).mpr (names pair listed)]
    rw [parseFormBody, named, formUrlPairs, lastValue_map_eq_iff]
    refine forall₃_congr fun front pair back => forall_congr' fun split => ?_
    have listed : pair ∈ rawPairs body := by
      rw [split]
      exact List.mem_append_right front List.mem_cons_self
    rw [value listed]

theorem decoders_exact_iff_escape : (∀ c ∈ "id=a%2Fb".toList, c.toNat < 128) ∧
    formInserts "id=a%2Fb" = formUrlPairs "id=a%2Fb" := by
  have ascii : ∀ c ∈ "id=a%2Fb".toList, c.toNat < 128 := Codec.forall_mem_of_all (by decide)
  have pairs : rawPairs "id=a%2Fb" = [("id", "a%2Fb")] := by decide
  have name : Undropped "id" := by
    have bytes : asBytes "id" = [0x69, 0x64] := by decide
    rw [Undropped, bytes]
    simp [everyPercent_cons, everyPercent_nil]
  have value : Undropped "a%2Fb" := by
    have bytes : asBytes "a%2Fb" = [0x61, 0x25, 0x32, 0x46, 0x62] := by decide
    have read : escapedByte [0x32, 0x46, 0x62] ≠ none := by decide
    rw [Undropped, bytes]
    simp [everyPercent_cons, everyPercent_nil, Harmless, read]
  refine ⟨ascii, (decoders_exact_iff ascii).1.mpr ?_⟩
  rw [pairs]
  simpa using ⟨name, value⟩

/-- Two characters behind a percent sign are dropped. -/
theorem discount_not_exact : ¬ ∀ body : String, (∀ c ∈ body.toList, c.toNat < 128) →
    parseFormBody body = lastValue (formUrlPairs body) ∧
      Mollie.formParse body = formUrlPairs body := by
  intro exact
  have ascii : ∀ c ∈ "id=50%off".toList, c.toNat < 128 := Codec.forall_mem_of_all (by decide)
  have same := congrFun (exact "id=50%off" ascii).1 "id"
  have dropped : parseFormBody "id=50%off" "id" = some "50%f" := by decide
  have kept : lastValue (formUrlPairs "id=50%off") "id" = some "50%off" := by decide
  rw [dropped, kept] at same
  exact absurd same (by decide)

end Body

end FormDecoders

end Patala.Fiat
