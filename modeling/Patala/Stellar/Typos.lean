import Patala.Stellar.Checksum
import Patala.Stellar.Destination

/-! A slip in copying an account's address is refused: no one slip leads to another account. -/

namespace Patala.Stellar

open Machine

/-- One slip of a hand that copies a text: a character is left out or added, or two neighbours are
taken for others. These are each other where two were swapped, and one of them stays where one was
mistyped. -/
inductive Slip : List Char → List Char → Prop where
  | leftOut (front back : List Char) (c : Char) : Slip (front ++ c :: back) (front ++ back)
  | added (front back : List Char) (c : Char) : Slip (front ++ back) (front ++ c :: back)
  | mistyped (front back : List Char) (a b c d : Char) :
      Slip (front ++ a :: b :: back) (front ++ c :: d :: back)

/-- Texts that differ in case at most. -/
def SameLetters (text text' : String) : Prop :=
  text'.toList.map Char.toUpper = text.toList.map Char.toUpper

namespace StrKey

/-- The letter or digit of a value, as it is written in upper case. -/
def upperDigit (value : Nat) : Char := Char.ofNat (if value < 26 then 65 + value else 24 + value)

theorem toUpper_of_charValue {c : Char} {value : Nat} (read : Base32.charValue c = some value) :
    c.toUpper = upperDigit value := by
  have all : ∀ c : Char, c.toNat < 128 →
      ∀ value ∈ Base32.charValue c, c.toUpper = upperDigit value := by
    apply Codec.forall_ascii
    decide
  exact all c (Base32.charValue_eq_some read).1.ascii value read

theorem map_toUpper_of_digits {chars : List Char} {digits : List Nat}
    (read : chars.mapM Base32.charValue = some digits) :
    chars.map Char.toUpper = digits.map upperDigit := by
  have paired := Fallible.mapM_eq_some.mp read
  clear read
  induction paired with
  | nil => rfl
  | cons here _ ih => rw [List.map_cons, List.map_cons, toUpper_of_charValue here, ih]

/-- What the decoder makes of a text of digits. -/
theorem decode_of_digits {text : String} {digits : List Nat}
    (read : text.toList.mapM Base32.charValue = some digits) :
    Base32.decode text = some (Base32.octets (digits.flatMap Base32.bits)) ∧
      (asBytes text).length = digits.length := by
  have plain : ∀ c ∈ text.toList, c.toNat < 128 := by
    intro c member
    obtain ⟨value, here⟩ := Fallible.answered_of_mapM read c member
    exact (Base32.charValue_eq_some here).1.ascii
  have ascii : Codec.ascii text = text.toList := by
    have back := Codec.ascii_ofList plain
    rwa [String.ofList_toList] at back
  refine ⟨by rw [Base32.decode, ascii, read, Option.map_some], ?_⟩
  rw [length_asBytes_of_ascii plain, (Fallible.mapM_eq_some.mp read).length_eq]

/-- Texts of the same digits are the same account's, and differ in case at most. -/
theorem account_of_digits {text text' : String} {digits : List Nat}
    (read : text.toList.mapM Base32.charValue = some digits)
    (read' : text'.toList.mapM Base32.charValue = some digits) :
    SameLetters text text' ∧ account text' = account text := by
  obtain ⟨decoded, length⟩ := decode_of_digits read
  obtain ⟨decoded', length'⟩ := decode_of_digits read'
  refine ⟨(map_toUpper_of_digits read').trans (map_toUpper_of_digits read).symm, ?_⟩
  rw [account, account, unframe, unframe, decoded, decoded', length, length']

theorem charValue_toUpper (c : Char) : Base32.charValue c.toUpper = Base32.charValue c := by
  by_cases plain : c.toNat < 128
  · revert c
    apply Codec.forall_ascii
    decide
  · have kept : c.toUpper = c :=
      dif_neg fun letter => plain (Nat.lt_of_le_of_lt letter.2 (by decide))
    rw [kept]

theorem account_of_letters {text text' : String} {key : Bytes 32} (same : SameLetters text text')
    (read : account text = some key) : account text' = some key := by
  obtain ⟨digits, values, -, -⟩ := account_codeword read
  have upper : ∀ chars : List Char,
      (chars.map Char.toUpper).mapM Base32.charValue = chars.mapM Base32.charValue := by
    intro chars
    induction chars with
    | nil => rfl
    | cons c chars ih => rw [List.map_cons, List.mapM_cons, List.mapM_cons, charValue_toUpper, ih]
  have values' : text'.toList.mapM Base32.charValue = some digits := by
    rw [← upper, same, upper, values]
  rw [(account_of_digits values values').2, read]

/-- A slip between two accounts' addresses is one of case. -/
theorem account_of_slip {text text' : String} {key key' : Bytes 32}
    (slip : Slip text.toList text'.toList) (read : account text = some key)
    (read' : account text' = some key') :
    SameLetters text text' ∧ key' = key := by
  obtain ⟨digits, values, count, codeword⟩ := account_codeword read
  obtain ⟨digits', values', count', codeword'⟩ := account_codeword read'
  have length := (Fallible.mapM_eq_some.mp values).length_eq
  have length' := (Fallible.mapM_eq_some.mp values').length_eq
  have same : digits = digits' := by
    generalize text.toList = chars at slip values length
    generalize text'.toList = chars' at slip values' length'
    cases slip with
    | leftOut front back c => simp [count, count'] at length length'; omega
    | added front back c => simp [count, count'] at length length'; omega
    | mistyped front back a b c d =>
      simp only [List.mapM_append, List.mapM_cons, Option.bind_eq_bind, Option.bind_eq_some_iff,
        Option.pure_def, Option.some.injEq] at values values'
      obtain ⟨front', before, _, ⟨x, first, _, ⟨y, second, back', after, rfl⟩, rfl⟩, rfl⟩ := values
      obtain ⟨_, before', _, ⟨z, third, _, ⟨w, fourth, _, after', rfl⟩, rfl⟩, rfl⟩ := values'
      cases before.symm.trans before'
      cases after.symm.trans after'
      have room : front'.length + back'.length = 54 := by
        rw [List.length_append, List.length_cons, List.length_cons] at count
        omega
      obtain ⟨rfl, rfl⟩ := digits_of_codewords
        ⟨(Base32.charValue_eq_some first).2, (Base32.charValue_eq_some second).2⟩
        ⟨(Base32.charValue_eq_some third).2, (Base32.charValue_eq_some fourth).2⟩ room codeword
        codeword'
      rfl
  rw [← same] at values'
  obtain ⟨upper, accounts⟩ := account_of_digits values values'
  exact ⟨upper, Option.some.inj (read'.symm.trans (accounts.trans read))⟩

end StrKey

section Verdict

variable {crates : Crates} {crate : StrkeyCrate}

/-- What the decoder does not read is refused. -/
theorem refused_of_unread (documented : Documented crates crate) {dest : String}
    (unread : StrKey.account dest = none) : (validate crate dest).isRefusal = true := by
  apply (validate_decided dest).resolve_right
  intro valid
  obtain ⟨key, parsed, -⟩ := validate_structurallyValid valid
  rw [(documented.fromString dest key).mp parsed] at unread
  cases unread

/-- A slip in an account's address is refused, and is no address that a charge could pay to. A slip
of case is none: it is the same account's address. -/
theorem slip_refused (documented : Documented crates crate) {dest dest' : String} {key : PubKey}
    (read : fromStrkey crates dest = .ok key) (slip : Slip dest.toList dest'.toList) :
    (SameLetters dest dest' → fromStrkey crates dest' = .ok key) ∧
      (¬ SameLetters dest dest' → (validate crate dest').isRefusal = true ∧
        ∀ other, fromStrkey crates dest' ≠ .ok other) := by
  simp only [ne_eq, fromStrkey_ok_iff, documented.account] at read ⊢
  constructor
  · intro same
    exact StrKey.account_of_letters same read
  · intro differ
    have unread : ∀ other, StrKey.account dest' ≠ some other := by
      intro other read'
      exact differ (StrKey.account_of_slip slip read read').1
    exact ⟨refused_of_unread documented (Option.eq_none_iff_forall_ne_some.mpr unread), unread⟩

end Verdict

/-- The address with its last two characters swapped. -/
def swappedText : String := "GAAZI4TCR3TY5OJHCTJC2A4QSY6CJWJH5IAJTGKIN2ER7LBNVKOCCW7N"

theorem slip_refused_swapped :
    (SameLetters accountText swappedText → fromStrkey strkeyCrates swappedText = .ok accountKey) ∧
      (¬ SameLetters accountText swappedText →
        (validate accountCrate swappedText).isRefusal = true ∧
          ∀ other, fromStrkey strkeyCrates swappedText ≠ .ok other) := by
  apply slip_refused strkeyCrates_documented account_read
  exact Slip.mistyped (accountText.toList.take 54) [] 'N' '7' '7' 'N'

end Patala.Stellar
