import Patala.Lib.Codec
import Patala.Lib.UrlPath

/-! A name that is put into a URL as it is, and the name a server reads there. The parser spells
some characters by percent triples, and the server takes every triple for a byte: only a name
that percent-decodes to itself and that the parser leaves in its place is read back. -/

namespace UrlPath

def utf8 (text : List Char) : List UInt8 := text.flatMap String.utf8EncodeChar

/-- The byte two digits behind a percent sign stand for. -/
def byteOf (high low : Char) : Option UInt8 := do
  let highValue ← Codec.hexValue high
  let lowValue ← Codec.hexValue low
  return UInt8.ofNat (16 * highValue + lowValue)

/-- Percent-decode a text to bytes; a percent sign without two digits behind it stays. -/
def percentDecode : List Char → List UInt8
  | [] => []
  | [c] => String.utf8EncodeChar c
  | [c, d] => String.utf8EncodeChar c ++ percentDecode [d]
  | c :: high :: low :: rest =>
    match if c = '%' then byteOf high low else none with
    | some byte => byte :: percentDecode rest
    | none => String.utf8EncodeChar c ++ percentDecode (high :: low :: rest)

def plusToSpace (c : Char) : Char := if c = '+' then ' ' else c

/-- Form decoding takes plus signs for spaces first. -/
def formDecode (text : List Char) : List UInt8 := percentDecode (text.map plusToSpace)

example : percentDecode "a%2Fb%".toList = utf8 "a/b%".toList := by decide

section Decode

theorem utf8_ascii {text : List Char} (ascii : ∀ c ∈ text, c.toNat < 128) :
    utf8 text = text.map fun c => UInt8.ofNat c.toNat := by
  induction text with
  | nil => rfl
  | cons c rest ih =>
    obtain ⟨small, later⟩ := List.forall_mem_cons.mp ascii
    rw [utf8, List.flatMap_cons, Codec.utf8EncodeChar_of_ascii small, ← utf8, ih later]
    rfl

theorem length_utf8 {text : List Char} (ascii : ∀ c ∈ text, c.toNat < 128) :
    (utf8 text).length = text.length := by
  rw [utf8_ascii ascii, List.length_map]

/-- The byte a percent sign and the text behind it stand for. -/
def escaped : List Char → Option UInt8
  | high :: low :: _ => byteOf high low
  | _ => none

/-- What is no percent sign in front of two digits stands for itself. -/
theorem percentDecode_cons {c : Char} {rest : List Char} (plain : c = '%' → escaped rest = none) :
    percentDecode (c :: rest) = String.utf8EncodeChar c ++ percentDecode rest := by
  match rest with
  | [] => simp [percentDecode]
  | [d] => rfl
  | high :: low :: rest =>
    have none : (if c = '%' then byteOf high low else none) = none := by
      by_cases percent : c = '%'
      · rw [if_pos percent]
        exact plain percent
      · rw [if_neg percent]
    rw [percentDecode, none]

theorem percentDecode_escaped {high low : Char} {rest : List Char} {byte : UInt8}
    (read : byteOf high low = some byte) :
    percentDecode ('%' :: high :: low :: rest) = byte :: percentDecode rest := by
  rw [percentDecode, if_pos rfl, read]

theorem length_percentDecode_le {text : List Char} (ascii : ∀ c ∈ text, c.toNat < 128) :
    (percentDecode text).length ≤ text.length := by
  induction text using percentDecode.induct with
  | case1 => simp [percentDecode]
  | case2 c => simp [percentDecode, Codec.utf8EncodeChar_of_ascii (ascii c List.mem_cons_self)]
  | case3 c d ih =>
    obtain ⟨small, later⟩ := List.forall_mem_cons.mp ascii
    have rest := ih later
    simp only [percentDecode, Codec.utf8EncodeChar_of_ascii small, List.length_append,
      List.length_cons, List.length_nil] at rest ⊢
    omega
  | case4 c high low rest byte read ih =>
    have later := ih fun c member => ascii c (by simp [member])
    rw [percentDecode, read]
    simp only [List.length_cons]
    omega
  | case5 c high low rest read ih =>
    obtain ⟨small, later⟩ := List.forall_mem_cons.mp ascii
    have rest := ih later
    rw [percentDecode, read]
    simp only [Codec.utf8EncodeChar_of_ascii small, List.length_append, List.length_cons,
      List.length_nil] at rest ⊢
    omega

/-- The percent triple of an ASCII character. -/
def triple (c : Char) : List Char := ['%', hexDigit (c.toNat / 16), hexDigit (c.toNat % 16)]

/-- A spelling writes a character as another, or as the percent triple of itself, which it is
not if it means something inside a triple. -/
def Spells (spell : Char → List Char) (meant : Char → Char) : Prop :=
  ∀ c, c.toNat < 128 → spell c = [meant c] ∨
    (meant c = c ∧ spell c = triple c ∧ c ≠ '%' ∧ Codec.hexValue c = none)

theorem byteOf_triple {c : Char} (small : c.toNat < 128) :
    byteOf (hexDigit (c.toNat / 16)) (hexDigit (c.toNat % 16)) = some (UInt8.ofNat c.toNat) := by
  have table : ∀ code < 128, byteOf (hexDigit (code / 16)) (hexDigit (code % 16)) =
      some (UInt8.ofNat code) := by
    decide
  exact table c.toNat small

/-- A spelled text decodes to what was meant. -/
theorem percentDecode_spelled {spell : Char → List Char} {meant : Char → Char}
    (spells : Spells spell meant) {text : List Char} (ascii : ∀ c ∈ text, c.toNat < 128) :
    percentDecode (text.flatMap spell) = percentDecode (text.map meant) := by
  induction length : text.length using Nat.strong_induction_on generalizing text with
  | _ n ih =>
  match text with
  | [] => rfl
  | c :: rest =>
    obtain ⟨small, later⟩ := List.forall_mem_cons.mp ascii
    have restSame := ih rest.length (by rw [← length]; simp) later rfl
    rw [List.flatMap_cons, List.map_cons]
    rcases spells c small with own | ⟨same, escape, notPercent, -⟩
    · rw [own, List.singleton_append]
      have percentNone : Codec.hexValue '%' = none := by decide
      have byteNone : ∀ high, byteOf high '%' = none := by
        intro high
        simp only [byteOf, percentNone]
        cases Codec.hexValue high <;> rfl
      -- The digits behind a percent sign are not spelled by triples.
      have sameEscape : escaped (rest.flatMap spell) = escaped (rest.map meant) := by
        match rest with
        | [] => rfl
        | [high] =>
          rcases spells high (later high List.mem_cons_self) with plain | ⟨-, spelled, -, -⟩
          · simp [plain, escaped]
          · simp [spelled, triple, escaped, byteOf, percentNone]
        | high :: low :: others =>
          rcases spells high (later high List.mem_cons_self) with
            plain | ⟨stays, spelled, -, noDigit⟩
          · rcases spells low (later low (by simp)) with plain' | ⟨stays', spelled', -, noDigit'⟩
            · simp [plain, plain', escaped]
            · simp only [List.flatMap_cons, plain, spelled', triple, List.map_cons, stays', escaped,
                List.cons_append, List.nil_append, byteNone]
              simp only [byteOf, noDigit']
              cases Codec.hexValue (meant high) <;> rfl
          · simp [spelled, triple, escaped, byteOf, percentNone, stays, noDigit]
      cases found : escaped (rest.map meant) with
      | none =>
        rw [percentDecode_cons fun _ => sameEscape.trans found, percentDecode_cons fun _ => found,
          restSame]
      | some byte =>
        by_cases percent : meant c = '%'
        · match rest with
          | [] => cases found
          | [_] => cases found
          | high :: low :: others =>
            have plain : spell high = [meant high] := by
              rcases spells high (later high List.mem_cons_self) with plain | ⟨stays, -, -, noDigit⟩
              · exact plain
              · simp [escaped, byteOf, stays, noDigit] at found
            have plain' : spell low = [meant low] := by
              rcases spells low (later low (by simp)) with plain' | ⟨stays, -, -, noDigit⟩
              · exact plain'
              · simp [escaped, byteOf, stays, noDigit] at found
            have othersSame := ih others.length (by rw [← length]; simp; omega)
              (fun c member => later c (by simp [member])) rfl
            rw [percent, List.flatMap_cons, List.flatMap_cons, plain, plain', List.map_cons,
              List.map_cons, List.singleton_append, List.singleton_append]
            rw [percentDecode_escaped found, percentDecode_escaped found, othersSame]
        · rw [percentDecode_cons fun same => absurd same percent,
            percentDecode_cons fun same => absurd same percent, restSame]
    · rw [escape, same, triple, List.cons_append, List.cons_append, List.cons_append,
        List.nil_append, percentDecode_escaped (byteOf_triple small),
        percentDecode_cons fun percent => absurd percent notPercent, restSame,
        Codec.utf8EncodeChar_of_ascii small, List.singleton_append]

end Decode

section Dots

theorem eq_of_toLower {c d : Char} (same : c.toLower = d) (fixed : d.isLower = false) : c = d := by
  have kept := Codec.toLower_table (fun c lower => c = lower ∨ lower.isLower)
    (fun _ => .inl rfl) (by decide) c
  rcases kept with own | letter
  · exact own.trans same
  · rw [same, fixed] at letter
    cases letter

theorem byteOf_toLower (high low : Char) : byteOf high.toLower low.toLower = byteOf high low := by
  have digit : ∀ c : Char, Codec.hexValue c.toLower = Codec.hexValue c :=
    Codec.toLower_table (fun c lower => Codec.hexValue lower = Codec.hexValue c) (fun _ => rfl)
      (by decide)
  rw [byteOf, digit, digit, byteOf]

theorem percentDecode_plainDot {c : Char} {rest : List Char} (dot : c.toLower = '.') :
    percentDecode (c :: rest) = 0x2E :: percentDecode rest := by
  have same := eq_of_toLower dot (by decide)
  subst same
  rw [percentDecode_cons fun percent => absurd percent (by decide)]
  rfl

/-- A percent-spelled dot decodes to a dot. -/
theorem percentDecode_dot {percent high low : Char} {rest : List Char}
    (first : percent.toLower = '%') (second : high.toLower = '2') (third : low.toLower = 'e') :
    percentDecode (percent :: high :: low :: rest) = 0x2E :: percentDecode rest := by
  rw [eq_of_toLower first (by decide)]
  refine percentDecode_escaped ?_
  rw [← byteOf_toLower, second, third]
  decide

/-- A dot segment decodes to one dot or two, however it is spelled. -/
theorem percentDecode_of_dots {piece : Segment} (dots : isSingleDot piece ∨ isDoubleDot piece) :
    percentDecode piece = [0x2E] ∨ percentDecode piece = [0x2E, 0x2E] := by
  simp only [isSingleDot, isDoubleDot, List.contains_iff_mem, List.mem_cons, List.not_mem_nil,
    or_false, List.map_eq_cons_iff, List.map_eq_nil_iff] at dots
  have nothing : percentDecode [] = [] := rfl
  rcases dots with (⟨a, _, rfl, dot, rfl⟩ | ⟨a, _, rfl, percent, b, _, rfl, high, c, _, rfl, low, rfl⟩) |
    ⟨a, _, rfl, dot, b, _, rfl, dot', rfl⟩ |
    ⟨a, _, rfl, dot, b, _, rfl, percent, c, _, rfl, high, d, _, rfl, low, rfl⟩ |
    ⟨a, _, rfl, percent, b, _, rfl, high, c, _, rfl, low, d, _, rfl, dot, rfl⟩ |
    ⟨a, _, rfl, percent, b, _, rfl, high, c, _, rfl, low, d, _, rfl, percent', e, _, rfl, high',
      f, _, rfl, low', rfl⟩
  · exact .inl (by rw [percentDecode_plainDot dot, nothing])
  · exact .inl (by rw [percentDecode_dot percent high low, nothing])
  · exact .inr (by rw [percentDecode_plainDot dot, percentDecode_plainDot dot', nothing])
  · exact .inr (by rw [percentDecode_plainDot dot, percentDecode_dot percent high low, nothing])
  · exact .inr (by rw [percentDecode_dot percent high low, percentDecode_plainDot dot, nothing])
  · exact .inr (by rw [percentDecode_dot percent high low, percentDecode_dot percent' high' low',
      nothing])

end Dots

section Path

/-- The path percent-encode set spells what it holds by triples. -/
theorem percentEncode_spells : Spells percentEncode id := by
  intro c small
  have table : ∀ c : Char, c.toNat < 128 → percentEncode c = [c] ∨
      percentEncode c = triple c ∧ c ≠ '%' ∧ Codec.hexValue c = none :=
    Codec.forall_ascii (by decide)
  exact (table c small).imp id fun spelled => ⟨rfl, spelled⟩

theorem percentDecode_encoded {text : List Char} (ascii : ∀ c ∈ text, c.toNat < 128) :
    percentDecode (text.flatMap percentEncode) = percentDecode text := by
  rw [percentDecode_spelled percentEncode_spells ascii, List.map_id]

/-- A name that a server reads back from the segment the parser makes of it. -/
structure ReadsBack (name : List Char) : Prop where
  backslash : '\\' ∉ name
  dot : name ≠ ['.']
  dots : name ≠ ['.', '.']
  decoded : percentDecode name = utf8 name

theorem mem_splitOnP {p : Char → Bool} {text piece : List Char} (member : piece ∈ text.splitOnP p) :
    piece.length ≤ text.length ∧ ∀ c ∈ piece, c ∈ text := by
  induction text generalizing piece with
  | nil =>
    rw [List.splitOnP_nil, List.mem_singleton] at member
    rw [member]
    simp
  | cons c rest ih =>
    rw [List.splitOnP_cons_eq_if_modifyHead] at member
    split at member
    · rcases List.mem_cons.mp member with same | later
      · rw [same]
        simp
      · obtain ⟨shorter, inside⟩ := ih later
        exact ⟨shorter.trans (by simp), fun c held => List.mem_cons_of_mem _ (inside c held)⟩
    · obtain ⟨head, tail, same⟩ := List.exists_cons_of_ne_nil (List.splitOnP_ne_nil p rest)
      rw [same, List.modifyHead_cons] at member
      rcases List.mem_cons.mp member with first | later
      · have held : head ∈ rest.splitOnP p := by
          rw [same]
          exact List.mem_cons_self
        obtain ⟨shorter, inside⟩ := ih held
        rw [first]
        refine ⟨by simpa using shorter, fun d held => ?_⟩
        rcases List.mem_cons.mp held with own | within
        · exact own ▸ List.mem_cons_self
        · exact List.mem_cons_of_mem _ (inside d within)
      · have held : piece ∈ rest.splitOnP p := by
          rw [same]
          exact List.mem_cons_of_mem _ later
        obtain ⟨shorter, inside⟩ := ih held
        exact ⟨shorter.trans (by simp), fun d held => List.mem_cons_of_mem _ (inside d held)⟩

/-- A piece that is as long as the text is the whole text, which has no slash in it. -/
theorem no_slash_of_piece {text piece : List Char} (member : piece ∈ text.splitOnP isSlash)
    (whole : text.length ≤ piece.length) : ∀ c ∈ text, isSlash c = false := by
  intro c held
  by_contra slash
  have slash : isSlash c := by simpa using slash
  obtain ⟨front, rest, split⟩ := List.append_of_mem held
  rw [split, List.splitOnP_append_cons front rest slash, List.mem_append] at member
  have lengths := congrArg List.length split
  rw [List.length_append, List.length_cons] at lengths
  rcases member with before | after
  · have shorter := (mem_splitOnP before).1
    omega
  · have shorter := (mem_splitOnP after).1
    omega

/-- A path that grows ends in one of the pieces it was walked along. -/
theorem mem_of_walk {path pieces more : List Segment} {segment : Segment}
    (walked : walk path pieces = path ++ segment :: more) : segment ∈ pieces := by
  induction pieces using List.reverseRecOn generalizing more with
  | nil =>
    have lengths := congrArg List.length walked
    simp [walk] at lengths
  | append_singleton front last ih =>
    have stepped : step (walk path front) last = path ++ segment :: more := by
      rw [← walked, walk, walk, List.foldl_append]
      rfl
    unfold step at stepped
    split at stepped
    · have kept : walk path front ≠ [] := by
        intro empty
        rw [empty] at stepped
        simp at stepped
      have grown : walk path front =
          path ++ segment :: (more ++ [(walk path front).getLast kept]) := by
        conv_lhs => rw [← List.dropLast_concat_getLast kept, stepped]
        simp
      exact List.mem_append_left _ (ih grown)
    split at stepped
    · exact List.mem_append_left _ (ih stepped)
    · rcases List.eq_nil_or_concat' more with empty | ⟨others, final, same⟩
      · rw [empty] at stepped
        have lasts := List.append_inj_right' stepped rfl
        rw [← (List.cons.inj lasts).1]
        simp
      · have split : walk path front ++ [last] = (path ++ segment :: others) ++ [final] := by
          rw [stepped, same]
          simp
        exact List.mem_append_left _ (ih (List.append_inj_left' split rfl))

section Names

variable {path : List Segment} {name : List Char}

/-- A piece of a name, or of its front, that decodes to the name is all of it. -/
theorem whole_of_piece (ascii : ∀ c ∈ name, c.toNat < 128) {text piece : List Char}
    (front : text <+: name) (held : piece ∈ text.splitOnP isSlash)
    (decoded : percentDecode (piece.flatMap percentEncode) = utf8 name) :
    text = name ∧ piece = name ∧ (∀ c ∈ name, isSlash c = false) ∧
      percentDecode name = utf8 name := by
  obtain ⟨shorter, inside⟩ := mem_splitOnP held
  have asciiPiece : ∀ c ∈ piece, c.toNat < 128 := fun c member =>
    ascii c (front.subset (inside c member))
  rw [percentDecode_encoded asciiPiece] at decoded
  have long : name.length ≤ piece.length := by
    rw [← length_utf8 ascii, ← decoded]
    exact length_percentDecode_le asciiPiece
  have same : text = name := front.eq_of_length (Nat.le_antisymm front.length_le (long.trans shorter))
  subst same
  have slashless := no_slash_of_piece held long
  rw [List.splitOnP_eq_singleton slashless, List.mem_singleton] at held
  subst held
  exact ⟨rfl, rfl, slashless, decoded⟩

theorem readsBack_of_decoded (slashless : ∀ c ∈ name, isSlash c = false)
    (decoded : percentDecode name = utf8 name) (dot : name ≠ ['.']) (dots : name ≠ ['.', '.']) :
    ReadsBack name := by
  refine ⟨fun member => ?_, dot, dots, decoded⟩
  have slash := slashless '\\' member
  cases slash

/-- A name that reads back is one piece, and no dot segment. -/
theorem pieces_of_readsBack (ascii : ∀ c ∈ name, c.toNat < 128) (plain : '/' ∉ name)
    (back : ReadsBack name) :
    pieces name = [name.flatMap percentEncode] ∧ ¬ isSingleDot (name.flatMap percentEncode) ∧
      ¬ isDoubleDot (name.flatMap percentEncode) := by
  have slashless : ∀ c ∈ name, isSlash c = false := by
    intro c member
    simp only [isSlash, Bool.or_eq_false_iff, decide_eq_false_iff_not]
    exact ⟨fun slash => plain (slash ▸ member), fun slash => back.backslash (slash ▸ member)⟩
  have dotOf : ∀ c : Char, c.toNat < 128 → UInt8.ofNat c.toNat = 0x2E → c = '.' :=
    Codec.forall_ascii (by decide)
  have notDots : ¬ (isSingleDot (name.flatMap percentEncode) ∨
      isDoubleDot (name.flatMap percentEncode)) := by
    intro dots
    have decoded := percentDecode_of_dots dots
    rw [percentDecode_encoded ascii, back.decoded, utf8_ascii ascii] at decoded
    rcases decoded with one | two
    · obtain ⟨c, same, byte⟩ := List.map_eq_singleton_iff.mp one
      rw [dotOf c (ascii c (same ▸ List.mem_cons_self)) byte] at same
      exact back.dot same
    · obtain ⟨c, rest, same, byte, later⟩ := List.map_eq_cons_iff.mp two
      obtain ⟨d, same', byte'⟩ := List.map_eq_singleton_iff.mp later
      subst same same'
      rw [dotOf c (ascii c (by simp)) byte, dotOf d (ascii d (by simp)) byte'] at back
      exact back.dots rfl
  obtain ⟨single, double⟩ := not_or.mp notDots
  exact ⟨by rw [pieces, List.splitOnP_eq_singleton slashless]; rfl, single, double⟩

theorem pieces_dot : pieces ['.'] = [['.']] := by decide

theorem pieces_dots : pieces ['.', '.'] = [['.', '.']] := by decide

/-- A name between slashes is read back from behind a path exactly when it reads back. -/
theorem walk_name_iff (ascii : ∀ c ∈ name, c.toNat < 128) (plain : '/' ∉ name) :
    (∃ segment, walk path (pieces name) = path ++ [segment] ∧
      percentDecode segment = utf8 name) ↔ ReadsBack name := by
  constructor
  · rintro ⟨segment, walked, decoded⟩
    obtain ⟨piece, held, spelled⟩ := List.mem_map.mp (mem_of_walk walked)
    rw [← spelled] at decoded
    obtain ⟨-, -, slashless, own⟩ := whole_of_piece ascii List.prefix_rfl held decoded
    refine readsBack_of_decoded slashless own (fun dot => ?_) fun dots => ?_
    · rw [dot, pieces_dot] at walked
      have lengths := congrArg List.length walked
      simp [walk, step, isSingleDot, isDoubleDot] at lengths
    · rw [dots, pieces_dots] at walked
      have lengths := congrArg List.length walked
      simp [walk, step, isDoubleDot] at lengths
  · intro back
    obtain ⟨one, single, double⟩ := pieces_of_readsBack ascii plain back
    refine ⟨name.flatMap percentEncode, ?_, (percentDecode_encoded ascii).trans back.decoded⟩
    rw [one]
    show step path _ = _
    rw [step, if_neg double, if_neg single]

/-- A name at the end of a URL is read back from behind a path exactly when it reads back and
nothing is trimmed from it. -/
theorem resolve_name_iff (ascii : ∀ c ∈ name, c.toNat < 128) (plain : '/' ∉ name)
    (named : name ≠ []) :
    (∃ segment, resolve path (pieces (name.rdropWhile isC0OrSpace)) = path ++ [segment] ∧
      percentDecode segment = utf8 name) ↔
      ReadsBack name ∧ name.rdropWhile isC0OrSpace = name := by
  constructor
  · rintro ⟨segment, resolved, decoded⟩
    have kept : segment ≠ [] := by
      intro empty
      rw [empty] at decoded
      have lengths := congrArg List.length decoded
      rw [length_utf8 ascii] at lengths
      exact named (List.length_eq_zero_iff.mp lengths.symm)
    obtain ⟨front, last, split, -, single, double, -⟩ :=
      stays_iff.mpr ⟨segment, kept, resolved⟩
    have same : segment = last := by
      rw [split, resolve_concat, finish, if_neg double, if_neg single] at resolved
      exact (List.cons.inj (List.append_inj_right' resolved rfl)).1.symm
    have member : last ∈ pieces (name.rdropWhile isC0OrSpace) := by
      rw [split]
      simp
    obtain ⟨piece, held, spelled⟩ := List.mem_map.mp member
    rw [same, ← spelled] at decoded
    obtain ⟨whole, all, slashless, own⟩ :=
      whole_of_piece ascii (List.rdropWhile_prefix _ _) held decoded
    refine ⟨readsBack_of_decoded slashless own (fun dot => ?_) fun dots => ?_, whole⟩
    · rw [← spelled, all, dot] at single
      exact single (by decide)
    · rw [← spelled, all, dots] at double
      exact double (by decide)
  · rintro ⟨back, whole⟩
    obtain ⟨one, single, double⟩ := pieces_of_readsBack ascii plain back
    refine ⟨name.flatMap percentEncode, ?_, (percentDecode_encoded ascii).trans back.decoded⟩
    rw [whole, one]
    show finish path _ = _
    rw [finish, if_neg double, if_neg single]

theorem filter_plain {text : List Char} {p : Char → Bool} (plain : ∀ c ∈ text, p c = false) :
    text.filter (!p ·) = text := by
  rw [List.filter_eq_self]
  intro c member
  rw [plain c member]
  rfl

/-- What is left of a text without a query, tabs and newlines: its end is trimmed. -/
theorem remainder_plain {text : List Char} (plain : ∀ c ∈ text, endsPath c = false)
    (visible : ∀ c ∈ text, isTabOrNewline c = false) :
    remainder text = text.rdropWhile isC0OrSpace := by
  have inside : ∀ c ∈ text.rdropWhile isC0OrSpace, c ∈ text := fun c member =>
    (List.rdropWhile_prefix _ _).subset member
  rw [remainder, filter_plain fun c member => visible c (inside c member), cut,
    List.takeWhile_eq_self_iff]
  intro c member
  rw [plain c (inside c member)]
  rfl

section Behind

variable {hostOk : List Char → Bool} {base fixed : List Char} {segments : List Segment}

/-- A name behind a base and in front of a fixed part is read back from its own segment exactly
when it reads back. -/
theorem parse_name_before_iff (plainBase : ∀ c ∈ base, ¬ endsPath c)
    (parsed : parse hostOk (base ++ ['/']) = some (path ++ [[]]))
    (plain : ∀ c ∈ name ++ '/' :: fixed, endsPath c = false)
    (visible : ∀ c ∈ name ++ '/' :: fixed, isTabOrNewline c = false)
    (whole : fixed.rdropWhile isC0OrSpace = fixed)
    (stays : ∀ path, resolve path (pieces fixed) = path ++ segments)
    (ascii : ∀ c ∈ name, c.toNat < 128) (slashless : '/' ∉ name) :
    (∃ segment, parse hostOk (base ++ '/' :: (name ++ '/' :: fixed)) =
      some (path ++ [segment] ++ segments) ∧ percentDecode segment = utf8 name) ↔
      ReadsBack name := by
  obtain ⟨path', same, onward⟩ := parse_append plainBase parsed
  have equal := List.append_inj_left' same rfl
  subst equal
  rw [onward, remainder_plain plain visible, rdropWhile_append_stop (by decide), whole,
    pieces_append_slash, resolve_append path _ (pieces_ne_nil fixed), stays, ← walk_name_iff ascii
    slashless]
  refine exists_congr fun segment => and_congr_left fun _ => ?_
  rw [Option.some_inj, List.append_left_inj]

/-- A name at the end of a URL, behind a fixed part, is read back from its own segment exactly
when it reads back and nothing is trimmed from it. -/
theorem parse_name_behind_iff (plainBase : ∀ c ∈ base, ¬ endsPath c)
    (parsed : parse hostOk (base ++ ['/']) = some (path ++ [[]]))
    (plain : ∀ c ∈ fixed ++ '/' :: name, endsPath c = false)
    (visible : ∀ c ∈ fixed ++ '/' :: name, isTabOrNewline c = false)
    (stays : ∀ path, walk path (pieces fixed) = path ++ segments)
    (ascii : ∀ c ∈ name, c.toNat < 128) (slashless : '/' ∉ name) (named : name ≠ []) :
    (∃ segment, parse hostOk (base ++ '/' :: (fixed ++ '/' :: name)) =
      some (path ++ segments ++ [segment]) ∧ percentDecode segment = utf8 name) ↔
      ReadsBack name ∧ name.rdropWhile isC0OrSpace = name := by
  obtain ⟨path', same, onward⟩ := parse_append plainBase parsed
  have equal := List.append_inj_left' same rfl
  subst equal
  rw [onward, remainder_plain plain visible, rdropWhile_append_stop (by decide),
    pieces_append_slash, resolve_append path _ (pieces_ne_nil _), stays,
    ← resolve_name_iff ascii slashless named]
  refine exists_congr fun segment => and_congr_left fun _ => ?_
  rw [Option.some_inj]

end Behind

end Names

end Path

section Query

/-- The percent-encode set of a query of an `http` or `https` URL. -/
def inQuerySet (c : Char) : Bool :=
  c.toNat < 32 || 126 < c.toNat || [' ', '"', '#', '<', '>', '\''].contains c

def queryEncode (c : Char) : List Char :=
  if inQuerySet c then
    (String.utf8EncodeChar c).flatMap fun b => ['%', hexDigit (b.toNat / 16), hexDigit (b.toNat % 16)]
  else [c]

/-- The query the URL parser gives. -/
def queryOf (url : List Char) : List Char :=
  ((((strip url).takeWhile (· ≠ '#')).dropWhile (· ≠ '?')).drop 1).flatMap queryEncode

/-- The value a server reads for a key of a query. -/
def queryValue (key url : List Char) : Option (List UInt8) :=
  ((queryOf url).splitOn '&').findSome? fun pair =>
    if formDecode (pair.takeWhile (· ≠ '=')) = utf8 key then
      some (formDecode ((pair.dropWhile (· ≠ '=')).drop 1))
    else none

example : queryValue "id".toList "https://h.example/a?x=1&id=b+%2Bc#d".toList =
    some (utf8 "b +c".toList) := by decide

/-- Encoding a query and reading plus signs as spaces spells what form decoding means. -/
theorem queryEncode_spells : Spells (fun c => (queryEncode c).map plusToSpace) plusToSpace := by
  apply Codec.forall_ascii
  decide

theorem formDecode_encoded {text : List Char} (ascii : ∀ c ∈ text, c.toNat < 128) :
    formDecode (text.flatMap queryEncode) = formDecode text := by
  rw [formDecode, List.map_flatMap, percentDecode_spelled queryEncode_spells ascii, formDecode]

/-- An ASCII letter, digit or underscore, which no encoding touches. -/
def isWord (c : Char) : Bool := c.toNat < 128 && (c.isAlphanum || c = '_')

theorem word_table {c : Char} (word : isWord c) :
    queryEncode c = [c] ∧ plusToSpace c = c ∧ c ≠ '%' ∧ c ≠ '=' ∧ c ≠ '&' ∧ c ≠ '#' ∧
      isTabOrNewline c = false := by
  have small : c.toNat < 128 := by
    simp only [isWord, Bool.and_eq_true, decide_eq_true_eq] at word
    exact word.1
  have table : ∀ c : Char, c.toNat < 128 → isWord c → queryEncode c = [c] ∧ plusToSpace c = c ∧
      c ≠ '%' ∧ c ≠ '=' ∧ c ≠ '&' ∧ c ≠ '#' ∧ isTabOrNewline c = false :=
    Codec.forall_ascii (by decide)
  exact table c small word

theorem formDecode_word {key : List Char} (word : ∀ c ∈ key, isWord c) :
    formDecode key = utf8 key := by
  rw [formDecode]
  induction key with
  | nil => rfl
  | cons c rest ih =>
    obtain ⟨first, later⟩ := List.forall_mem_cons.mp word
    obtain ⟨-, same, notPercent, -⟩ := word_table first
    rw [List.map_cons, same, percentDecode_cons fun percent => absurd percent notPercent, ih later]
    rfl

theorem flatMap_word {key : List Char} (word : ∀ c ∈ key, isWord c) :
    key.flatMap queryEncode = key := by
  induction key with
  | nil => rfl
  | cons c rest ih =>
    obtain ⟨first, later⟩ := List.forall_mem_cons.mp word
    rw [List.flatMap_cons, (word_table first).1, ih later]
    rfl

/-- A character that a value in a query must not hold to be the whole value. -/
def endsValue (c : Char) : Bool := c = '&' || c = '#' || isTabOrNewline c

/-- Encoding a character of a query adds no ampersand. -/
theorem ampersand_of_queryEncode {c : Char} (small : c.toNat < 128) (plain : endsValue c = false) :
    '&' ∉ queryEncode c := by
  have table : ∀ c : Char, c.toNat < 128 → endsValue c = false → '&' ∉ queryEncode c :=
    Codec.forall_ascii (by decide)
  exact table c small plain

section Append

variable {base page key name : List Char}

/-- What is left of a page with a query behind it is the page. -/
theorem remainder_query (page : List Char) (plain : ∀ c ∈ page, endsPath c = false)
    (visible : ∀ c ∈ page, isTabOrNewline c = false) (rest : List Char) :
    remainder (page ++ '?' :: rest) = page := by
  rw [remainder, rdropWhile_append_stop (by decide), List.filter_append, filter_plain visible, cut,
    List.takeWhile_append_of_pos (by simpa using plain), List.filter_cons_of_pos (by decide),
    List.takeWhile_cons_of_neg (by decide), List.append_nil]

/-- The query of a URL that ends in a key and a value. -/
theorem queryOf_append (plainBase : ∀ c ∈ base, ¬ endsPath c)
    (plainPage : ∀ c ∈ page, endsPath c = false) (word : ∀ c ∈ key, isWord c)
    (plain : ∀ c ∈ name, endsValue c = false) :
    queryOf (base ++ '/' :: (page ++ '?' :: (key ++ '=' :: name))) =
      key ++ '=' :: (name.rdropWhile isC0OrSpace).flatMap queryEncode := by
  obtain ⟨front, members, stripped⟩ := strip_append base
  have inName : ∀ c ∈ name.rdropWhile isC0OrSpace, endsValue c = false := fun c member =>
    plain c ((List.rdropWhile_prefix _ _).subset member)
  have visibleKey : ∀ c ∈ key, isTabOrNewline c = false := fun c member =>
    (word_table (word c member)).2.2.2.2.2.2
  have visibleName : ∀ c ∈ name.rdropWhile isC0OrSpace, isTabOrNewline c = false := by
    intro c member
    have kept := inName c member
    simp only [endsValue, Bool.or_eq_false_iff] at kept
    exact kept.2
  have whole : strip (base ++ '/' :: (page ++ '?' :: (key ++ '=' :: name))) =
      (front ++ '/' :: page.filter (!isTabOrNewline ·)) ++
        '?' :: (key ++ '=' :: name.rdropWhile isC0OrSpace) := by
    have apart : page ++ '?' :: (key ++ '=' :: name) = (page ++ '?' :: key) ++ '=' :: name := by
      simp
    rw [stripped, apart, rdropWhile_append_stop (by decide), List.filter_append, List.filter_append,
      List.filter_cons_of_pos (by decide), List.filter_cons_of_pos (by decide),
      filter_plain visibleKey, filter_plain visibleName]
    simp
  have before : ∀ c ∈ front ++ '/' :: page.filter (!isTabOrNewline ·), endsPath c = false := by
    intro c member
    rcases List.mem_append.mp member with member | member
    · by_contra special
      have special : endsPath c := by simpa using special
      exact plainBase c ((members c special).mp member) special
    · rcases List.mem_cons.mp member with slash | member
      · rw [slash]
        rfl
      · exact plainPage c (List.mem_filter.mp member).1
  have noHash : ∀ c ∈ strip (base ++ '/' :: (page ++ '?' :: (key ++ '=' :: name))),
      decide (c ≠ '#') = true := by
    rw [whole]
    intro c member
    rw [decide_eq_true_eq]
    intro hash
    subst hash
    rcases List.mem_append.mp member with member | member
    · have kept := before '#' member
      cases kept
    · rcases List.mem_cons.mp member with same | member
      · cases same
      rcases List.mem_append.mp member with member | member
      · exact (word_table (word '#' member)).2.2.2.2.2.1 rfl
      · rcases List.mem_cons.mp member with same | member
        · cases same
        · have kept := inName '#' member
          cases kept
  have noMark : ∀ c ∈ front ++ '/' :: page.filter (!isTabOrNewline ·), decide (c ≠ '?') = true := by
    intro c member
    rw [decide_eq_true_eq]
    intro mark
    subst mark
    have kept := before '?' member
    cases kept
  rw [queryOf, List.takeWhile_eq_self_iff.mpr noHash, whole, List.dropWhile_append_of_pos noMark,
    List.dropWhile_cons_of_neg (by decide), List.drop_one, List.tail_cons, List.flatMap_append,
    flatMap_word word, List.flatMap_cons]
  rfl

/-- The value read for the key at the end of a URL. -/
theorem queryValue_append (plainBase : ∀ c ∈ base, ¬ endsPath c)
    (plainPage : ∀ c ∈ page, endsPath c = false) (word : ∀ c ∈ key, isWord c)
    (ascii : ∀ c ∈ name, c.toNat < 128) (plain : ∀ c ∈ name, endsValue c = false) :
    queryValue key (base ++ '/' :: (page ++ '?' :: (key ++ '=' :: name))) =
      some (formDecode (name.rdropWhile isC0OrSpace)) := by
  have inName : ∀ c ∈ name.rdropWhile isC0OrSpace, c ∈ name := fun c member =>
    (List.rdropWhile_prefix _ _).subset member
  have single : '&' ∉ key ++ '=' :: (name.rdropWhile isC0OrSpace).flatMap queryEncode := by
    intro member
    rcases List.mem_append.mp member with member | member
    · exact (word_table (word '&' member)).2.2.2.2.1 rfl
    · rcases List.mem_cons.mp member with same | member
      · cases same
      · obtain ⟨c, held, encoded⟩ := List.mem_flatMap.mp member
        exact ampersand_of_queryEncode (ascii c (inName c held)) (plain c (inName c held)) encoded
  have noEquals : ∀ c ∈ key, decide (c ≠ '=') = true := by
    intro c member
    rw [decide_eq_true_eq]
    exact (word_table (word c member)).2.2.2.1
  rw [queryValue, queryOf_append plainBase plainPage word plain, List.splitOn_eq_singleton single,
    List.findSome?_cons, List.takeWhile_append_of_pos noEquals,
    List.takeWhile_cons_of_neg (by decide), List.append_nil, if_pos (formDecode_word word),
    List.dropWhile_append_of_pos noEquals, List.dropWhile_cons_of_neg (by decide), List.drop_one,
    List.tail_cons, formDecode_encoded fun c member => ascii c (inName c member)]

/-- A name behind a key is read back exactly when form decoding keeps it and nothing is trimmed
from it. -/
theorem queryValue_name_iff (plainBase : ∀ c ∈ base, ¬ endsPath c)
    (plainPage : ∀ c ∈ page, endsPath c = false) (word : ∀ c ∈ key, isWord c)
    (ascii : ∀ c ∈ name, c.toNat < 128) (plain : ∀ c ∈ name, endsValue c = false) :
    queryValue key (base ++ '/' :: (page ++ '?' :: (key ++ '=' :: name))) = some (utf8 name) ↔
      formDecode name = utf8 name ∧ name.rdropWhile isC0OrSpace = name := by
  rw [queryValue_append plainBase plainPage word ascii plain, Option.some_inj]
  constructor
  · intro decoded
    have inName : ∀ c ∈ name.rdropWhile isC0OrSpace, c.toNat < 128 := fun c member =>
      ascii c ((List.rdropWhile_prefix _ _).subset member)
    have asciiSpaced : ∀ c ∈ (name.rdropWhile isC0OrSpace).map plusToSpace, c.toNat < 128 := by
      intro c member
      obtain ⟨d, held, same⟩ := List.mem_map.mp member
      subst same
      unfold plusToSpace
      split
      · decide
      · exact inName d held
    have long : name.length ≤ (name.rdropWhile isC0OrSpace).length := by
      rw [← length_utf8 ascii, ← decoded, formDecode]
      exact (length_percentDecode_le asciiSpaced).trans_eq (List.length_map _)
    have whole := (List.rdropWhile_prefix isC0OrSpace name).eq_of_length_le long
    rw [whole] at decoded
    exact ⟨decoded, whole⟩
  · rintro ⟨decoded, whole⟩
    rw [whole]
    exact decoded

end Append

end Query

end UrlPath
