import Patala.Fiat.MollieWebhook
import Patala.Fiat.OfflineWebhook
import Patala.Lib.UrlForm

/-! iyzico's callback: an unsigned form with a token, by which the payment is looked up. Its value
is decoded by hand, on slices of a text that must not cut a character. -/

namespace Patala.Fiat.Iyzico

open Fallible Stripe

/-- A text was sliced inside a character, which ends the program. -/
inductive Panic where
  | notCharBoundary
deriving DecidableEq

/-- `str::is_char_boundary` in front of the bytes: the next one does not continue a character. -/
def isCharBoundary : List UInt8 → Bool
  | [] => true
  | b :: _ => b < 0x80 || 0xC0 ≤ b

/-- The next two bytes, where there are two, are a slice. -/
def sliceable : List UInt8 → Bool
  | high :: low :: rest => isCharBoundary (high :: low :: rest) && isCharBoundary rest
  | _ => true

def percentDecodeBytes : List UInt8 → Except Panic (List UInt8)
  | [] => .ok []
  | 0x2B :: rest => do return 0x20 :: (← percentDecodeBytes rest)
  | 0x25 :: high :: low :: rest => do
    ensure (sliceable (high :: low :: rest)) .notCharBoundary
    match fromStrRadix16 high low with
    | some byte => return byte :: (← percentDecodeBytes rest)
    | none => return 0x25 :: (← percentDecodeBytes (high :: low :: rest))
  | byte :: rest => do return byte :: (← percentDecodeBytes rest)

/-- Bytes that are no text are not decoded. -/
def percentDecodeFormValue (v : String) : Except Panic String := do
  let out ← percentDecodeBytes (asBytes v)
  return (fromUtf8 out).getD v

/-- The loop over the pairs; a pair without an equals sign ends it. -/
def findToken : List String → Except Panic (Option String)
  | [] => .ok none
  | pair :: rest =>
    match splitOnce pair with
    | none => .ok none
    | some (k, v) => if k = "token" then (percentDecodeFormValue v).map some else findToken rest

def isJson (contentType : String) : Bool := "application/json".toList <:+: contentType.toList

/-- `str::split('&')`. -/
def pairs (body : String) : List String := (body.toList.splitOn '&').map String.ofList

/-- The token of a callback; `payloadFromSlice` reads that of a JSON payload. -/
def extractToken (payloadFromSlice : FromSlice String) (contentType : String)
    (rawBody : List UInt8) : Except Panic (Option String) :=
  if isJson contentType then
    match payloadFromSlice rawBody with
    | .error _ => .ok none
    | .ok token => .ok (if token = "" then none else some token)
  else match fromUtf8 rawBody with
    | none => .ok none
    | some body => findToken (pairs body)

example : extractToken (fun _ => .error "expected value") "application/x-www-form-urlencoded"
    (asBytes "status=ok&token=tok%5Fabc") = .ok (some "tok_abc") := by decide

section Decode

open UrlPath

/-- What stands behind every percent sign is of a kind. -/
def EveryPercent (p : List UInt8 → Prop) (bytes : List UInt8) : Prop :=
  ∀ behind, 0x25 :: behind <:+ bytes → p behind

variable {p : List UInt8 → Prop}

theorem everyPercent_nil : EveryPercent p [] := by
  intro behind within
  cases List.suffix_nil.mp within

theorem everyPercent_cons {b : UInt8} {rest : List UInt8} :
    EveryPercent p (b :: rest) ↔ (b = 0x25 → p rest) ∧ EveryPercent p rest := by
  constructor
  · intro every
    constructor
    · rintro rfl
      exact every rest List.suffix_rfl
    · exact fun behind within => every behind (within.trans (List.suffix_cons b rest))
  · intro ⟨here, later⟩ behind within
    obtain same | within := List.suffix_cons_iff.mp within
    · obtain ⟨rfl, rfl⟩ := List.cons.inj same
      exact here rfl
    · exact later behind within

/-- Behind a plus sign comes a digit, which a number in base sixteen may be written as. -/
def plusDigit : List UInt8 → Bool
  | high :: low :: _ => high = 0x2B && (Codec.hexValue (Char.ofNat low.toNat)).isSome
  | _ => false

/-- Two digits are read as their byte, and a plus sign in front of one as that digit. -/
theorem fromStrRadix16_eq_some {high low byte : UInt8} :
    fromStrRadix16 high low = some byte ↔ hexByte high low = some byte ∨
      (high = 0x2B ∧ ∃ value, Codec.hexValue (Char.ofNat low.toNat) = some value ∧
        UInt8.ofNat value = byte) := by
  have sign : Char.ofNat high.toNat = '+' ↔ high = 0x2B := Codec.byteChar_inj (b := 0x2B)
  have noDigit : Codec.hexValue '+' = none := by decide
  unfold fromStrRadix16 hexByte byteOf
  cases digit : Codec.hexValue (Char.ofNat low.toNat) with
  | none => cases Codec.hexValue (Char.ofNat high.toNat) <;> simp
  | some value =>
    by_cases plus : high = 0x2B
    · simp [noDigit, plus]
    · cases Codec.hexValue (Char.ofNat high.toNat) <;> simp [mt sign.mp plus, plus]

/-- The digits a number is read from are no percent signs. -/
theorem not_percent_of_radix {high low byte : UInt8} (read : fromStrRadix16 high low = some byte) :
    high ≠ 0x25 ∧ low ≠ 0x25 := by
  have percent : Codec.hexValue (Char.ofNat 0x25) = none := by decide
  constructor
  · rintro rfl
    simp [fromStrRadix16, percent] at read
  · rintro rfl
    simp [fromStrRadix16, percent] at read

theorem everyPercent_digits {high low byte : UInt8} {rest : List UInt8}
    (read : fromStrRadix16 high low = some byte) :
    EveryPercent p (0x25 :: high :: low :: rest) ↔ p (high :: low :: rest) ∧ EveryPercent p rest := by
  obtain ⟨notHigh, notLow⟩ := not_percent_of_radix read
  simp [everyPercent_cons, notHigh, notLow]

/-- A byte in front of what is decoded behind it. -/
theorem push_ok_iff {b : UInt8} {rest : Except Panic (List UInt8)} {decoded out : List UInt8}
    {every : Prop} (behind : ∀ out, rest = .ok out ↔ every ∧ decoded = out) :
    (rest >>= fun more => pure (b :: more)) = .ok out ↔ every ∧ b :: decoded = out := by
  simp only [bind_eq_ok, behind, pure, Except.pure, Except.ok.injEq]
  constructor
  · intro ⟨_, ⟨holds, here⟩, same⟩
    exact ⟨holds, here ▸ same⟩
  · intro ⟨holds, same⟩
    exact ⟨decoded, ⟨holds, rfl⟩, same⟩

/-- Decoding comes to an end exactly when what is sliced behind the percent signs is a slice. -/
theorem percentDecodeBytes_ok_iff {bytes out : List UInt8} :
    percentDecodeBytes bytes = .ok out ↔
      EveryPercent (sliceable ·) bytes ∧ Mollie.percentDecodeBytes bytes = out := by
  induction bytes using Mollie.percentDecodeBytes.induct generalizing out with
  | case1 => simp [percentDecodeBytes, Mollie.percentDecodeBytes, everyPercent_nil]
  | case2 rest ih =>
    rw [percentDecodeBytes, everyPercent_cons, Mollie.percentDecodeBytes, push_ok_iff fun _ => ih]
    simp
  | case3 high low rest byte read ih =>
    rw [percentDecodeBytes, everyPercent_digits read, Mollie.percentDecodeBytes, read]
    simp only [bind_eq_ok, ensure_eq_ok, exists_const, and_assoc]
    rw [← bind_eq_ok, push_ok_iff fun _ => ih]
  | case4 high low rest read ih =>
    rw [percentDecodeBytes, everyPercent_cons, Mollie.percentDecodeBytes, read]
    simp only [bind_eq_ok, ensure_eq_ok, exists_const, and_assoc]
    rw [← bind_eq_ok, push_ok_iff fun _ => ih]
    simp
  | case5 b rest notPlus notEscape ih =>
    have last : b = 0x25 → sliceable rest := by
      intro percent
      match rest with
      | [] => rfl
      | [_] => rfl
      | high :: low :: more => exact absurd rfl (notEscape high low more percent)
    rw [percentDecodeBytes, everyPercent_cons, Mollie.percentDecodeBytes, push_ok_iff fun _ => ih,
      and_iff_right last]
    all_goals first | exact notPlus | exact notEscape

/-- What a decoder makes of bytes is a text where form decoding makes one, and is the same where
that is wanted. -/
structure Follows (decoded formDecoded : List UInt8) (wanted : Prop) : Prop where
  text : ∀ front, IsText (front ++ decoded) ↔ IsText (front ++ formDecoded)
  same : decoded = formDecoded ↔ wanted

namespace Follows

variable {decoded formDecoded : List UInt8} {wanted : Prop}

theorem push (b : UInt8) (follows : Follows decoded formDecoded wanted) :
    Follows (b :: decoded) (b :: formDecoded) wanted := by
  refine ⟨fun front => ?_, by rw [List.cons.injEq, and_iff_right rfl, follows.same]⟩
  rw [List.append_cons, List.append_cons front b formDecoded]
  exact follows.text (front ++ [b])

/-- A digit that is read behind a plus sign is an ASCII byte where there should be three. -/
theorem digit {low : UInt8} {value : Nat} (follows : Follows decoded formDecoded wanted)
    (read : Codec.hexValue (Char.ofNat low.toNat) = some value) :
    Follows (UInt8.ofNat value :: decoded) (0x25 :: 0x20 :: low :: formDecoded) False := by
  have ascii := Codec.hexValue_ascii read
  rw [Codec.toNat_byteChar] at ascii
  have small : (UInt8.ofNat value).toNat < 0x25 := by
    rw [Codec.toNat_hexValue read]
    exact (Codec.hexValue_lt read).trans (by decide)
  constructor
  · intro front
    have behind : IsText decoded ↔ IsText formDecoded := follows.text []
    have three : front ++ 0x25 :: 0x20 :: low :: formDecoded =
        (front ++ [0x25, 0x20]) ++ low :: formDecoded := by simp
    have two : front ++ [0x25, 0x20] = (front ++ [0x25]) ++ 0x20 :: [] := by simp
    rw [isText_ascii_iff (by omega), three, isText_ascii_iff ascii, two,
      isText_ascii_iff (by decide), isText_ascii_iff (by decide), behind]
    simp [isText_nil]
  · refine iff_of_false (fun same => ?_) not_false
    rw [(List.cons.inj same).1] at small
    exact absurd small (by decide)

end Follows

/-- A plus sign before a digit is a blank to form decoding, and the percent sign stays. -/
theorem formDecodeBytes_signed {low : UInt8} {value : Nat} {rest : List UInt8}
    (digit : Codec.hexValue (Char.ofNat low.toNat) = some value) :
    formDecodeBytes (0x25 :: 0x2B :: low :: rest) = 0x25 :: 0x20 :: low :: formDecodeBytes rest := by
  have percent : Codec.hexValue (Char.ofNat 0x25) = none := by decide
  have plus : Codec.hexValue (Char.ofNat 0x2B) = none := by decide
  have notPercent : low ≠ 0x25 := by
    rintro rfl
    simp [percent] at digit
  have notPlus : low ≠ 0x2B := by
    rintro rfl
    simp [plus] at digit
  have unread : escapedByte (0x2B :: low :: rest) = none := by
    simp [escapedByte, hexByte, byteOf, plus]
  rw [formDecodeBytes_cons (by decide) fun _ => unread, formDecodeBytes,
    formDecodeBytes_cons notPlus fun same => absurd same notPercent]

/-- Bytes as they are gone through where digits are read as a number in base sixteen. -/
inductive Radix : List UInt8 → Prop where
  | nil : Radix []
  | blank {rest : List UInt8} (behind : Radix rest) : Radix (0x2B :: rest)
  | escaped {high low byte : UInt8} {rest : List UInt8} (read : hexByte high low = some byte)
      (behind : Radix rest) : Radix (0x25 :: high :: low :: rest)
  | signed {low : UInt8} {value : Nat} {rest : List UInt8}
      (digit : Codec.hexValue (Char.ofNat low.toNat) = some value) (behind : Radix rest) :
      Radix (0x25 :: 0x2B :: low :: rest)
  | kept {b : UInt8} {rest : List UInt8} (notPlus : b ≠ 0x2B)
      (unread : b = 0x25 → plusDigit rest = false ∧ escapedByte rest = none)
      (behind : Radix rest) : Radix (b :: rest)

theorem radix (bytes : List UInt8) : Radix bytes := by
  induction bytes using Mollie.percentDecodeBytes.induct with
  | case1 => exact .nil
  | case2 rest ih => exact .blank ih
  | case3 high low rest byte read ih =>
    obtain strict | ⟨rfl, value, digit, -⟩ := fromStrRadix16_eq_some.mp read
    · exact .escaped strict ih
    · exact .signed digit ih
  | case4 high low rest read ih =>
    refine .kept (by decide) (fun _ => ⟨?_, ?_⟩) ih
    · by_contra plus
      obtain ⟨sign, digit⟩ := Bool.and_eq_true_iff.mp (eq_true_of_ne_false plus)
      obtain ⟨value, digit⟩ := Option.isSome_iff_exists.mp digit
      rw [fromStrRadix16_eq_some.mpr (.inr ⟨of_decide_eq_true sign, value, digit, rfl⟩)] at read
      cases read
    · refine Option.eq_none_iff_forall_ne_some.mpr fun byte strict => ?_
      rw [fromStrRadix16_eq_some.mpr (.inl strict)] at read
      cases read
  | case5 b rest notPlus notEscape ih =>
    refine .kept notPlus (fun percent => ?_) ih
    rcases rest with _ | ⟨high, _ | ⟨low, more⟩⟩
    · exact ⟨rfl, rfl⟩
    · exact ⟨rfl, rfl⟩
    · exact absurd rfl (notEscape high low more percent)

theorem percentDecodeBytes_read {high low byte : UInt8} {rest : List UInt8}
    (read : fromStrRadix16 high low = some byte) :
    Mollie.percentDecodeBytes (0x25 :: high :: low :: rest) =
      byte :: Mollie.percentDecodeBytes rest := by
  rw [Mollie.percentDecodeBytes, read]

theorem percentDecodeBytes_kept {b : UInt8} {rest : List UInt8} (notPlus : b ≠ 0x2B)
    (unread : b = 0x25 → plusDigit rest = false ∧ escapedByte rest = none) :
    Mollie.percentDecodeBytes (b :: rest) = b :: Mollie.percentDecodeBytes rest := by
  by_cases percent : b = 0x25
  · subst percent
    rcases rest with _ | ⟨high, _ | ⟨low, more⟩⟩
    · rfl
    · rfl
    · have none : fromStrRadix16 high low = none := by
        refine Option.eq_none_iff_forall_ne_some.mpr fun byte read => ?_
        obtain ⟨plain, loose⟩ := unread rfl
        obtain strict | ⟨sign, value, digit, -⟩ := fromStrRadix16_eq_some.mp read
        · rw [escapedByte, strict] at loose
          cases loose
        · simp [plusDigit, sign, digit] at plain
      rw [Mollie.percentDecodeBytes, none]
  · rw [Mollie.percentDecodeBytes]
    · exact notPlus
    · exact fun _ _ _ same _ => percent same

/-- Reading the digits as a number in base sixteen differs from form decoding where one of them
is a plus sign. -/
theorem percentDecodeBytes_follows (bytes : List UInt8) :
    Follows (Mollie.percentDecodeBytes bytes) (formDecodeBytes bytes)
      (EveryPercent (fun behind => plusDigit behind = false) bytes) := by
  induction radix bytes with
  | nil => exact ⟨fun front => Iff.rfl, iff_of_true rfl everyPercent_nil⟩
  | blank _ ih =>
    rw [Mollie.percentDecodeBytes, formDecodeBytes, everyPercent_cons,
      and_iff_right fun percent => absurd percent (by decide)]
    exact ih.push 0x20
  | @escaped high low byte rest strict _ ih =>
    have read := fromStrRadix16_eq_some.mpr (.inl strict)
    have plain : plusDigit (high :: low :: rest) = false := by
      have noDigit : Codec.hexValue (Char.ofNat 0x2B) = none := by decide
      have notPlus : high ≠ 0x2B := by
        rintro rfl
        simp [hexByte, byteOf, noDigit] at strict
      simp [plusDigit, notPlus]
    rw [percentDecodeBytes_read read, formDecodeBytes_escaped strict, everyPercent_digits read,
      and_iff_right plain]
    exact ih.push byte
  | @signed low value rest digit _ ih =>
    have read := fromStrRadix16_eq_some.mpr (.inr ⟨rfl, value, digit, rfl⟩)
    have never : ¬ (plusDigit (0x2B :: low :: rest) = false ∧
        EveryPercent (fun behind => plusDigit behind = false) rest) := by
      simp [plusDigit, digit]
    rw [percentDecodeBytes_read read, formDecodeBytes_signed digit, everyPercent_digits read,
      eq_false never]
    exact ih.digit digit
  | @kept b rest notPlus unread _ ih =>
    rw [percentDecodeBytes_kept notPlus unread, everyPercent_cons,
      formDecodeBytes_cons notPlus fun percent => (unread percent).2,
      and_iff_right fun percent => (unread percent).1]
    exact ih.push b

/-- The value of a form field; bytes that are no text are not decoded. -/
def formDecoded (v : String) : String := (fromUtf8 (formDecode v.toList)).getD v

/-- A value whose percent signs are in front of slices of it and of no plus sign before a digit,
except where no text is decoded. -/
def Safe (v : String) : Prop :=
  EveryPercent (sliceable ·) (asBytes v) ∧
    (EveryPercent (fun behind => plusDigit behind = false) (asBytes v) ∨
      fromUtf8 (formDecode v.toList) = none)

theorem asBytes_eq_utf8 (text : String) : asBytes text = utf8 text.toList := asBytes_eq text

theorem isText_iff {bytes : List UInt8} : IsText bytes ↔ ∃ text, fromUtf8 bytes = some text := by
  constructor
  · intro ⟨text, same⟩
    refine ⟨String.ofList text, ?_⟩
    rw [← same, ← String.toList_ofList (l := text), ← asBytes_eq_utf8, fromUtf8_asBytes,
      String.toList_ofList]
  · intro ⟨text, read⟩
    exact ⟨text.toList, by rw [← asBytes_eq_utf8, asBytes_of_fromUtf8 read]⟩

theorem percentDecodeFormValue_ok_iff {v decoded : String} :
    percentDecodeFormValue v = .ok decoded ↔ EveryPercent (sliceable ·) (asBytes v) ∧
      (fromUtf8 (Mollie.percentDecodeBytes (asBytes v))).getD v = decoded := by
  simp only [percentDecodeFormValue, bind_eq_ok, percentDecodeBytes_ok_iff, pure, Except.pure,
    Except.ok.injEq]
  constructor
  · intro ⟨_, ⟨slices, here⟩, same⟩
    exact ⟨slices, here ▸ same⟩
  · intro ⟨slices, same⟩
    exact ⟨_, ⟨slices, rfl⟩, same⟩

/-- A value is form-decoded exactly when it is safe. -/
theorem percentDecodeFormValue_eq_iff {v : String} :
    percentDecodeFormValue v = .ok (formDecoded v) ↔ Safe v := by
  have follows := percentDecodeBytes_follows (asBytes v)
  have texts : IsText (Mollie.percentDecodeBytes (asBytes v)) ↔
      IsText (formDecodeBytes (asBytes v)) := follows.text []
  rw [isText_iff, isText_iff] at texts
  rw [percentDecodeFormValue_ok_iff, Safe, formDecoded, formDecode_eq, ← asBytes_eq_utf8,
    ← follows.same]
  refine and_congr_right fun _ => ?_
  cases read : fromUtf8 (formDecodeBytes (asBytes v)) with
  | none =>
    have unread : fromUtf8 (Mollie.percentDecodeBytes (asBytes v)) = none := by
      rw [read] at texts
      exact Option.eq_none_iff_forall_ne_some.mpr fun text read' =>
        nomatch texts.mp ⟨text, read'⟩
    simp [unread]
  | some text =>
    obtain ⟨text', read'⟩ := texts.mpr ⟨text, read⟩
    rw [read', ← asBytes_of_fromUtf8 read, ← asBytes_of_fromUtf8 read', asBytes_injective.eq_iff]
    simp

theorem formDecoded_ne_empty {v : String} (written : v ≠ "") : formDecoded v ≠ "" := by
  have bytes : asBytes v ≠ [] := fun empty => written (asBytes_injective (empty.trans (by rfl)))
  rw [formDecoded, formDecode_eq, ← asBytes_eq_utf8]
  cases read : fromUtf8 (formDecodeBytes (asBytes v)) with
  | none => exact written
  | some text =>
    rintro rfl
    exact formDecodeBytes_ne_nil bytes (asBytes_of_fromUtf8 read).symm

end Decode

/-- The name and the value of a pair; without an equals sign it has a name only. -/
def nameValue (pair : String) : String × String := (splitOnce pair).getD (pair, "")

/-- The value of the first field of the name `token`, unless it is empty. -/
def formToken (form : List String) : Option String :=
  (form.find? fun pair => (nameValue pair).1 = "token").bind fun pair =>
    if (nameValue pair).2 = "" then none else some (formDecoded (nameValue pair).2)

/-- The extraction ends, finds no empty token, and of a form it finds the token. -/
def Extracts (payloadFromSlice : FromSlice String) (contentType : String) (rawBody : List UInt8) :
    Prop :=
  ∃ token, extractToken payloadFromSlice contentType rawBody = .ok token ∧ token ≠ some "" ∧
    (isJson contentType = false → ∀ body, fromUtf8 rawBody = some body →
      token = formToken (pairs body))

/-- The pair is the first of the name `token`, behind these others. -/
structure FirstToken (form before : List String) (pair : String) : Prop where
  split : ∃ after, form = before ++ pair :: after
  named : (nameValue pair).1 = "token"
  others : ∀ other ∈ before, (nameValue other).1 ≠ "token"

/-- A token with a value stands behind pairs with an equals sign only, and its value is safe; one
without a value has no equals sign or stands behind a pair that has none. -/
structure Ordinary (form : List String) : Prop where
  valued : ∀ before pair, FirstToken form before pair → (nameValue pair).2 ≠ "" →
    (∀ other ∈ before, splitOnce other ≠ none) ∧ Safe (nameValue pair).2
  empty : ∀ before pair, FirstToken form before pair → (nameValue pair).2 = "" →
    splitOnce pair = none ∨ ∃ other ∈ before, splitOnce other = none

variable {before form : List String} {pair : String}

/-- The loop goes past pairs of other names, as long as they have an equals sign. -/
theorem findToken_append (others : ∀ other ∈ before, (nameValue other).1 ≠ "token")
    (rest : List String) : findToken (before ++ rest) =
      if ∀ other ∈ before, splitOnce other ≠ none then findToken rest else .ok none := by
  induction before with
  | nil => simp
  | cons first before ih =>
    obtain ⟨here, later⟩ := List.forall_mem_cons.mp others
    rw [List.cons_append, findToken]
    cases split : splitOnce first with
    | none => simp [split]
    | some field =>
      have named : field.1 ≠ "token" := by
        simpa [nameValue, split] using here
      simp only [named, ↓reduceIte, ih later]
      simp [split]

/-- A body without a token has none to be found. -/
theorem findToken_of_absent (others : ∀ pair ∈ form, (nameValue pair).1 ≠ "token") :
    findToken form = .ok none := by
  have walked := findToken_append others []
  rw [List.append_nil] at walked
  rw [walked]
  split <;> rfl

theorem formToken_of_absent (others : ∀ pair ∈ form, (nameValue pair).1 ≠ "token") :
    formToken form = none := by
  have none : (form.find? fun pair => (nameValue pair).1 = "token") = none :=
    List.find?_eq_none.mpr fun pair member => by simpa using others pair member
  rw [formToken, none]
  rfl

theorem FirstToken.formToken_eq (first : FirstToken form before pair) :
    formToken form =
      if (nameValue pair).2 = "" then none else some (formDecoded (nameValue pair).2) := by
  obtain ⟨after, split⟩ := first.split
  have found : (form.find? fun pair => (nameValue pair).1 = "token") = some pair :=
    List.find?_eq_some_iff_append.mpr ⟨by simp [first.named], before, after, split,
      fun other member => by simpa using first.others other member⟩
  rw [formToken, found]
  rfl

theorem formToken_ne_empty : formToken form ≠ some "" := by
  intro found
  obtain ⟨pair, -, valued⟩ := Option.bind_eq_some_iff.mp found
  split at valued
  · cases valued
  · rename_i written
    exact formDecoded_ne_empty written (Option.some.inj valued)

theorem FirstToken.findToken_eq (first : FirstToken form before pair) : findToken form =
    if ∀ other ∈ before, splitOnce other ≠ none then
      (splitOnce pair).elim (.ok none) fun field => (percentDecodeFormValue field.2).map some
    else .ok none := by
  obtain ⟨after, split⟩ := first.split
  have here : findToken (pair :: after) =
      (splitOnce pair).elim (.ok none) fun field => (percentDecodeFormValue field.2).map some := by
    rw [findToken]
    cases found : splitOnce pair with
    | none => rfl
    | some field =>
      have named : field.1 = "token" := by
        simpa [nameValue, found] using first.named
      exact if_pos named
  rw [split, findToken_append first.others, here]

/-- The first field of the name is read as form decoding reads it exactly when what stands in front
of it and its value allow. -/
theorem FirstToken.exact_iff (first : FirstToken form before pair) :
    findToken form = .ok (formToken form) ↔
      ((nameValue pair).2 ≠ "" →
        (∀ other ∈ before, splitOnce other ≠ none) ∧ Safe (nameValue pair).2) ∧
      ((nameValue pair).2 = "" →
        splitOnce pair = none ∨ ∃ other ∈ before, splitOnce other = none) := by
  rw [first.findToken_eq, first.formToken_eq]
  by_cases paired : ∀ other ∈ before, splitOnce other ≠ none
  · have noBare : ¬ ∃ other ∈ before, splitOnce other = none := by
      simpa using paired
    rw [if_pos paired]
    cases found : splitOnce pair with
    | none => simp [nameValue, found]
    | some field =>
      have value : (nameValue pair).2 = field.2 := by
        rw [nameValue, found]
        rfl
      have mapped {decoded : String} : (percentDecodeFormValue field.2).map some =
          .ok (some decoded) ↔ percentDecodeFormValue field.2 = .ok decoded := by
        cases percentDecodeFormValue field.2 <;> simp [Except.map]
      rw [value, Option.elim_some]
      by_cases written : field.2 = ""
      · have read : percentDecodeFormValue field.2 = .ok "" := by
          rw [written]
          rfl
        rw [mapped.mpr read, if_pos written]
        exact iff_of_false (by simp) fun ⟨_, absent⟩ => by simpa [noBare] using absent written
      · rw [if_neg written, mapped, percentDecodeFormValue_eq_iff]
        exact ⟨fun safe => ⟨fun _ => ⟨paired, safe⟩, fun empty => absurd empty written⟩,
          fun ⟨valued, _⟩ => (valued written).2⟩
  · have bare : ∃ other ∈ before, splitOnce other = none := by
      simpa using paired
    rw [if_neg paired]
    by_cases written : (nameValue pair).2 = ""
    · simp [written, bare]
    · simp [written, paired]

/-- A body's token is found exactly when the body is an ordinary one. -/
theorem findToken_exact_iff : findToken form = .ok (formToken form) ↔ Ordinary form := by
  constructor
  · intro exact
    exact ⟨fun before pair first => (first.exact_iff.mp exact).1,
      fun before pair first => (first.exact_iff.mp exact).2⟩
  · intro ordinary
    cases found : form.find? fun pair => (nameValue pair).1 = "token" with
    | none =>
      have others : ∀ pair ∈ form, (nameValue pair).1 ≠ "token" := fun pair member => by
        simpa using List.find?_eq_none.mp found pair member
      rw [findToken_of_absent others, formToken_of_absent others]
    | some pair =>
      obtain ⟨named, before, after, split, others⟩ := List.find?_eq_some_iff_append.mp found
      have first : FirstToken form before pair :=
        ⟨⟨after, split⟩, by simpa using named, fun other member => by simpa using others other member⟩
      exact first.exact_iff.mpr ⟨ordinary.valued before pair first, ordinary.empty before pair first⟩

/-- The extraction is total and exact for every content type and body but for a form that is not an
ordinary one. -/
theorem extractToken_extracts_iff (payloadFromSlice : FromSlice String) (contentType : String)
    (rawBody : List UInt8) : Extracts payloadFromSlice contentType rawBody ↔
      (isJson contentType = false → ∀ body, fromUtf8 rawBody = some body →
        Ordinary (pairs body)) := by
  unfold Extracts extractToken
  cases json : isJson contentType with
  | true =>
    refine iff_of_true ?_ (fun never => nomatch never)
    cases payloadFromSlice rawBody with
    | error e => exact ⟨none, rfl, by simp, fun never => nomatch never⟩
    | ok token =>
      refine ⟨_, rfl, ?_, fun never => nomatch never⟩
      split
      · simp
      · simpa using ‹token ≠ ""›
  | false =>
    cases read : fromUtf8 rawBody with
    | none => exact iff_of_true ⟨none, rfl, by simp, by simp⟩ (by simp)
    | some body =>
      have exact : (∃ token, findToken (pairs body) = .ok token ∧ token ≠ some "" ∧
          token = formToken (pairs body)) ↔ findToken (pairs body) = .ok (formToken (pairs body)) :=
        ⟨fun ⟨_, found, _, same⟩ => same ▸ found, fun found => ⟨_, found, formToken_ne_empty, rfl⟩⟩
      simpa [findToken_exact_iff] using exact

def formType : String := "application/x-www-form-urlencoded"

/-- A token behind a pair without an equals sign is missed, a token without a value is found, and a
character of three bytes behind a percent sign ends the program. -/
theorem extraction_not_exact :
    ¬ Extracts (fun _ => .error "expected value") formType (asBytes "flag&token=tok_abc") ∧
    ¬ Extracts (fun _ => .error "expected value") formType (asBytes "token=") ∧
    ¬ Extracts (fun _ => .error "expected value") formType (asBytes "token=%€") := by
  have plain : isJson formType = false := by decide
  refine ⟨?_, ?_, ?_⟩
  · intro ⟨token, found, _, exact⟩
    have missed : extractToken (fun _ => .error "expected value") formType
        (asBytes "flag&token=tok_abc") = .ok none := by
      decide
    have present : formToken (pairs "flag&token=tok_abc") = some "tok_abc" := by
      decide
    have same := exact plain _ (fromUtf8_asBytes _)
    rw [Except.ok.inj (found.symm.trans missed), present] at same
    cases same
  · intro ⟨token, found, written, _⟩
    have empty : extractToken (fun _ => .error "expected value") formType (asBytes "token=") =
        .ok (some "") := by
      decide
    exact written (Except.ok.inj (found.symm.trans empty))
  · intro ⟨token, found, _, _⟩
    have stopped : extractToken (fun _ => .error "expected value") formType (asBytes "token=%€") =
        .error .notCharBoundary := by
      decide
    exact nomatch found.symm.trans stopped

end Patala.Fiat.Iyzico
