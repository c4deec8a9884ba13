import Patala.Core.Destination
import Patala.Fiat.Currency
import Patala.Lib.Fallible
import Patala.Lib.Joined

/-! What a fiat rail says of a destination, which is the page a buyer returns to or the buyer's
mail address. Keys and wallet addresses that were pasted into the field are recognized by their
shape before its own form is looked at. -/

namespace Patala.Fiat.Destination

open Fallible

section Shapes

def base58Alphabet : String := "123456789ABCDEFGHJKLMNPQRSTUVWXYZabcdefghijkmnopqrstuvwxyz"

def allBase58 (s : String) : Bool := s.toList.all fun c => base58Alphabet.toList.contains c

/-- `char::is_ascii_alphabetic`. -/
def isAsciiAlphabetic (c : Char) : Bool :=
  (65 ≤ c.toNat && c.toNat ≤ 90) || (97 ≤ c.toNat && c.toNat ≤ 122)

/-- In the alphabet of StrKey, in either case. -/
def isBase32 (s : String) : Bool :=
  s.toList.all fun c => isAsciiAlphabetic c || (50 ≤ c.toNat && c.toNat ≤ 55)

/-- A Stellar secret seed. -/
def looksLikeASecretKey (dest : String) : Bool :=
  (asBytes dest).length = 56 &&
    (dest.toList.head? = some 'S' || dest.toList.head? = some 's') && isBase32 dest

def stellarAddress (dest : String) : Option String :=
  if isBase32 dest then
    match dest.toList.head?.map Char.toUpper, (asBytes dest).length with
    | some 'G', 56 => some "a Stellar account address (G…)"
    | some 'C', 56 => some "a Stellar contract address (C…)"
    | some 'M', 69 => some "a Stellar muxed account address (M…)"
    | _, _ => none
  else none

def hexAddress (dest : String) : Option String :=
  match (stripPrefix "0x" dest).or (stripPrefix "0X" dest) with
  | some hex =>
    if !(asBytes hex).all isHexDigit then none
    else if (asBytes hex).length = 40 then some "an Ethereum/EVM address"
    else if (asBytes hex).length = 64 then some "a Sui or Aptos address"
    else none
  | none => none

def legacyBitcoinAddress (dest : String) : Option String :=
  if (26 ≤ (asBytes dest).length ∧ (asBytes dest).length ≤ 35) ∧
      (dest.toList.head? = some '1' ∨ dest.toList.head? = some '3') ∧ allBase58 dest then
    some "a legacy Bitcoin address"
  else none

/-- Whose wallet address a text has the length and the alphabet of, if any. -/
def looksLikeAWalletAddress (dest : String) : Option String :=
  if ((asBytes dest).length = 43 ∨ (asBytes dest).length = 44) ∧ allBase58 dest then
    some "a Solana wallet address"
  else
    (stellarAddress dest).or ((hexAddress dest).or
      ((legacyBitcoinAddress dest).or (bech32Format dest)))

/-- What every rail refuses before it looks at its own form; `field` is what the destination is to
it. -/
def commonRefusals (railId dest field : String) : Option DestinationVerdict :=
  if trim dest = "" then
    some (.malformed railId (s!"an empty destination is not usable on any rail; on the {railId} " ++
      s!"rail this field is {field}"))
  else if looksLikeASecretKey dest then
    some (.malformed railId
      ("STOP — this is not a destination, it is a Stellar SECRET SEED (S…). You have just " ++
        "pasted a PRIVATE KEY into a payment field. Treat it as disclosed: create a new " ++
        "account, move everything the old key controls to it, and never use the old key " ++
        "again. patala has not logged the value and this message does not repeat it, but " ++
        "wherever you copied it from may have. Nothing on this rail ever wants a key or an " ++
        "address of any kind."))
  else (looksLikeAWalletAddress dest).map fun what =>
    .wrongNetwork railId
      (s!"this looks like {what}, and the {railId} rail does not pay to wallet addresses " ++
        s!"at all — it is a custodial fiat rail, and its `destination` is {field}. Nothing " ++
        "sent through this rail arrives at a blockchain address. If you meant to pay " ++
        "someone on-chain, use a crypto rail (patala-solana, patala-stellar); if you " ++
        "meant to give a customer their money back on THIS rail, that is `refund`, which " ++
        "sends it back the way it came and needs no destination.")

end Shapes

section Forms

/-- `char::is_control`. -/
def isControl (c : Char) : Bool := c.toNat < 32 || (127 ≤ c.toNat && c.toNat < 160)

/-- Whether a URL is a plain `http` one, and what stands behind its scheme. -/
def splitScheme (s : String) : Except String (Bool × String) :=
  match stripPrefix "https://" s with
  | some rest => .ok (false, rest)
  | none =>
    match stripPrefix "http://" s with
    | some rest => .ok (true, rest)
    | none =>
      if "://".toList <:+: s.toList then
        .error "its scheme is neither http nor https; a browser cannot be redirected to it"
      else .error "it has no scheme at all, so it is not an absolute URL"

/-- What stands before path, query and fragment, without the user information. -/
def hostPort (rest : List Char) : List Char :=
  ((rest.takeWhile fun c => c ≠ '/' ∧ c ≠ '?' ∧ c ≠ '#').reverse.takeWhile (· ≠ '@')).reverse

def parseAbsoluteHttpUrl (s : String) : Except String Bool := do
  let (isHttp, rest) ← splitScheme s
  ensure (!s.toList.any fun c => isWhitespace c || isControl c)
    "it contains whitespace, so it is not a single URL"
  ensure (hostPort rest.toList ≠ []) "it has a scheme but no host"
  return isHttp

def checkEmailShape (s : String) : Except String Unit := do
  ensure (!s.toList.any fun c => isWhitespace c || isControl c) "it contains whitespace"
  match s.toList.splitOn '@' with
  | [user, domain] =>
    ensure (user ≠ []) "there is nothing before the `@`"
    ensure (domain ≠ []) "there is nothing after the `@`"
    ensure ('.' ∈ domain ∧ domain.head? ≠ some '.' ∧ domain.getLast? ≠ some '.')
      "the part after the `@` is not a domain name"
  | _ => .error "an email address has exactly one `@` and this does not"

/-- The tail every verdict ends with. -/
def processorOwnsThis (railId : String) : String :=
  "Beyond that nothing more can be checked offline: what this string means is the " ++
    s!"{railId} processor's to decide, not patala's, and this rail can neither accept nor " ++
    "reject it on the processor's behalf. A human must confirm it."

def redirectField : String := "the URL the buyer's browser returns to after checkout"

def securityNote (insecure : Bool) : String :=
  if insecure then
    " Note that this is a plain `http://` URL: processors generally accept one only in test " ++
      "mode, and a buyer returning from a payment over http is a real exposure — use https in " ++
      "production."
  else ""

/-- The verdict of a rail that has a form for the field: at best there is nothing to say. -/
def fieldVerdict (railId dest field : String) (check : String → Except String α)
    (refused : String → String) (passed : α → String) : DestinationVerdict :=
  match commonRefusals railId dest field with
  | some refusal => refusal
  | none =>
    match check (trim dest) with
    | .error why => .malformed railId (refused why)
    | .ok found => .unknown railId (passed found)

/-- The page the buyer's browser returns to. -/
def redirectUrl (railId dest : String) : DestinationVerdict :=
  fieldVerdict railId dest redirectField parseAbsoluteHttpUrl
    (fun why =>
      s!"the {railId} rail uses `destination` as {redirectField}, and every processor in " ++
        s!"this crate documents that field as an absolute URL — but {why}. Pass the " ++
        "full URL the buyer should land on, scheme and all, e.g. " ++
        "`https://shop.example.com/orders/1234/thanks`.")
    (fun insecure =>
      s!"this is a well-formed absolute URL, which is what the {railId} rail sends this " ++
        "field as — it is where the BUYER'S BROWSER lands after checkout, not an address " ++
        "money is sent to, so there is no payout destination here for a verdict to be about." ++
        s!"{securityNote insecure} {processorOwnsThis railId}")

def emailField : String := "the buyer's email address"

/-- The buyer's mail address. -/
def buyerEmail (railId dest : String) : DestinationVerdict :=
  fieldVerdict railId dest emailField checkEmailShape
    (fun why =>
      s!"the {railId} rail uses `destination` as {emailField}, which its processor requires " ++
        s!"to open a transaction — but {why}. Pass the address the buyer's receipt should " ++
        "go to, e.g. `buyer@example.com`.")
    (fun _ =>
      s!"this has the shape of an email address, which is what the {railId} rail sends this " ++
        "field as — it identifies the BUYER, it is not an address money is sent to, so there " ++
        "is no payout destination here for a verdict to be about. Whether the mailbox exists " ++
        "or belongs to the right person is not decidable offline either. " ++
        processorOwnsThis railId)

end Forms

section Recognized

/-- An ASCII letter or digit. -/
def IsAlphanum (c : Char) : Prop := isAsciiAlphabetic c = true ∨ (48 ≤ c.toNat ∧ c.toNat ≤ 57)

instance (c : Char) : Decidable (IsAlphanum c) := inferInstanceAs (Decidable (_ ∨ _))

theorem IsAlphanum.bounds {c : Char} (letter : IsAlphanum c) :
    (48 ≤ c.toNat ∧ c.toNat ≤ 57) ∨ (65 ≤ c.toNat ∧ c.toNat ≤ 90) ∨
      (97 ≤ c.toNat ∧ c.toNat ≤ 122) := by
  simp only [IsAlphanum, isAsciiAlphabetic, Bool.or_eq_true, Bool.and_eq_true,
    decide_eq_true_eq] at letter
  omega

theorem alphanum_of_allBase58 {s : String} (all : allBase58 s) : ∀ c ∈ s.toList, IsAlphanum c := by
  have table : ∀ d ∈ base58Alphabet.toList, IsAlphanum d := Codec.forall_mem_of_all rfl
  intro c member
  exact table c (List.contains_iff_mem.mp (List.all_eq_true.mp all c member))

theorem alphanum_of_isBase32 {s : String} (all : isBase32 s) : ∀ c ∈ s.toList, IsAlphanum c := by
  intro c member
  have digit := List.all_eq_true.mp all c member
  simp only [Bool.or_eq_true, Bool.and_eq_true, decide_eq_true_eq] at digit
  rcases digit with letter | ⟨least, most⟩
  · exact .inl letter
  · exact .inr ⟨by omega, by omega⟩

/-- A text of ASCII letters and digits, by its bytes. -/
theorem alphanum_of_bytes (digit : UInt8 → Bool) (small : ∀ byte, digit byte → byte.toNat < 128)
    (table : ∀ code < 128, digit (UInt8.ofNat code) = true → IsAlphanum (Char.ofNat code))
    {s : String} (all : (asBytes s).all digit) : ∀ c ∈ s.toList, IsAlphanum c := by
  have each := List.all_eq_true.mp all
  have ascii : ∀ c ∈ Codec.ascii s, c.toNat < 128 := by
    intro c member
    obtain ⟨byte, listed, rfl⟩ := List.mem_map.mp member
    rw [Codec.toNat_byteChar]
    exact small byte (each byte listed)
  intro c member
  rw [Codec.toList_of_ascii ascii] at member
  obtain ⟨byte, listed, rfl⟩ := List.mem_map.mp member
  refine table _ (small byte (each byte listed)) ?_
  rw [UInt8.ofNat_toNat]
  exact each byte listed

theorem alphanum_of_hex {s : String} (all : (asBytes s).all isHexDigit) :
    ∀ c ∈ s.toList, IsAlphanum c := by
  refine alphanum_of_bytes isHexDigit (fun byte digit => ?_) (by decide) all
  simp only [isHexDigit, Bool.or_eq_true, Bool.and_eq_true, decide_eq_true_eq,
    UInt8.le_iff_toNat_le, UInt8.reduceToNat] at digit
  omega

theorem alphanum_of_lowercase {s : String} (all : (asBytes s).all isLowercaseOrDigit) :
    ∀ c ∈ s.toList, IsAlphanum c := by
  refine alphanum_of_bytes isLowercaseOrDigit (fun byte digit => ?_) (by decide) all
  simp only [isLowercaseOrDigit, Bool.or_eq_true, Bool.and_eq_true, decide_eq_true_eq,
    UInt8.le_iff_toNat_le, UInt8.reduceToNat] at digit
  omega

theorem alphanum_of_stripPrefix {start s rest : String} (stripped : stripPrefix start s = some rest)
    (starts : ∀ c ∈ start.toList, IsAlphanum c) (rests : ∀ c ∈ rest.toList, IsAlphanum c) :
    ∀ c ∈ s.toList, IsAlphanum c := by
  rw [stripPrefix_eq_some.mp stripped]
  exact List.forall_mem_append.mpr ⟨starts, rests⟩

theorem alphanum_of_hexAddress {dest what : String} (found : hexAddress dest = some what) :
    ∀ c ∈ dest.toList, IsAlphanum c := by
  unfold hexAddress at found
  cases stripped : (stripPrefix "0x" dest).or (stripPrefix "0X" dest) with
  | none => simp [stripped] at found
  | some hex =>
    simp only [stripped] at found
    split_ifs at found with other
    all_goals
      have digits := alphanum_of_hex (by simpa using other)
      rcases Option.or_eq_some_iff.mp stripped with lower | ⟨-, upper⟩
      · exact alphanum_of_stripPrefix lower (Codec.forall_mem_of_all rfl) digits
      · exact alphanum_of_stripPrefix upper (Codec.forall_mem_of_all rfl) digits

theorem alphanum_of_bech32Format {dest what : String} (found : bech32Format dest = some what) :
    ∀ c ∈ dest.toList, IsAlphanum c := by
  unfold bech32Format at found
  cases stripped : ((stripPrefix "bc1" dest).or (stripPrefix "tb1" dest)).or
      (stripPrefix "bcrt1" dest) with
  | none => simp [stripped] at found
  | some rest =>
    simp only [stripped] at found
    split_ifs at found with written
    have digits := alphanum_of_lowercase written.2
    simp only [Option.or_eq_some_iff] at stripped
    rcases stripped with (main | ⟨-, test⟩) | ⟨-, regtest⟩
    · exact alphanum_of_stripPrefix main (Codec.forall_mem_of_all rfl) digits
    · exact alphanum_of_stripPrefix test (Codec.forall_mem_of_all rfl) digits
    · exact alphanum_of_stripPrefix regtest (Codec.forall_mem_of_all rfl) digits

/-- A key or an address was recognized by its shape. -/
def Recognized (dest : String) : Prop :=
  looksLikeASecretKey dest = true ∨ ∃ what, looksLikeAWalletAddress dest = some what

/-- Whatever is recognized is spelled in ASCII letters and digits. -/
theorem alphanum_of_recognized {dest : String} (recognized : Recognized dest) :
    ∀ c ∈ dest.toList, IsAlphanum c := by
  rcases recognized with key | ⟨what, address⟩
  · simp only [looksLikeASecretKey, Bool.and_eq_true] at key
    exact alphanum_of_isBase32 key.2
  · unfold looksLikeAWalletAddress at address
    split_ifs at address with solana
    · exact alphanum_of_allBase58 solana.2
    · simp only [Option.or_eq_some_iff] at address
      rcases address with stellar | ⟨-, hex | ⟨-, bitcoin | ⟨-, segwit⟩⟩⟩
      · unfold stellarAddress at stellar
        split_ifs at stellar with digits
        exact alphanum_of_isBase32 digits
      · exact alphanum_of_hexAddress hex
      · unfold legacyBitcoinAddress at bitcoin
        split_ifs at bitcoin with shape
        exact alphanum_of_allBase58 shape.2.2
      · exact alphanum_of_bech32Format segwit

/-- What is recognized has nothing to trim. -/
theorem trim_of_recognized {dest : String} (recognized : Recognized dest) : trim dest = dest := by
  refine trim_of_plain fun c member => ?_
  have letter := (alphanum_of_recognized recognized c member).bounds
  simp only [isWhitespace, Bool.or_eq_false_iff, Bool.and_eq_false_iff, decide_eq_false_iff_not,
    beq_eq_false_iff_ne]
  omega

/-- What is recognized has no mark in it. -/
theorem not_mem_of_recognized {dest : String} {mark : Char} (recognized : Recognized dest)
    (noLetter : ¬ IsAlphanum mark) : mark ∉ dest.toList :=
  fun member => noLetter (alphanum_of_recognized recognized mark member)

end Recognized

section Verdicts

variable {railId dest : String}

theorem commonRefusals_eq_none {field : String} :
    commonRefusals railId dest field = none ↔ trim dest ≠ "" ∧ ¬ Recognized dest := by
  unfold commonRefusals Recognized
  split_ifs with blank key
  · simp [blank]
  · simp [key]
  · simp [blank, key, Option.eq_none_iff_forall_ne_some]

/-- What is refused before the field's own form is looked at is a refusal. -/
theorem commonRefusals_isRefusal {field : String} {verdict : DestinationVerdict}
    (refused : commonRefusals railId dest field = some verdict) : verdict.isRefusal = true := by
  unfold commonRefusals at refused
  split_ifs at refused
  · cases refused
    rfl
  · cases refused
    rfl
  · obtain ⟨what, -, rfl⟩ := Option.map_eq_some_iff.mp refused
    rfl

section Field

variable {field : String} {check : String → Except String α} {refused : String → String}
  {passed : α → String}

/-- A blank field, a key or an address is refused, and what is not of the field's form. -/
theorem fieldVerdict_isRefusal_iff :
    (fieldVerdict railId dest field check refused passed).isRefusal = true ↔
      (trim dest = "" ∨ Recognized dest) ∨ ¬ ∃ found, check (trim dest) = .ok found := by
  unfold fieldVerdict
  by_cases common : trim dest = "" ∨ Recognized dest
  · have present : commonRefusals railId dest field ≠ none := by
      rw [ne_eq, commonRefusals_eq_none, not_and_or, not_not, not_not]
      exact common
    obtain ⟨refusal, first⟩ := Option.ne_none_iff_exists'.mp present
    rw [first]
    exact iff_of_true (commonRefusals_isRefusal first) (.inl common)
  · rw [commonRefusals_eq_none.mpr (not_or.mp common), or_iff_right common]
    cases checked : check (trim dest) with
    | error why => exact iff_of_true rfl (by simp)
    | ok found => exact iff_of_false Bool.false_ne_true (not_not_intro ⟨found, rfl⟩)

theorem fieldVerdict_status_ne :
    (fieldVerdict railId dest field check refused passed).status ≠ .structurallyValid := by
  intro valid
  unfold fieldVerdict at valid
  split at valid
  · rename_i refusal first
    have certain := commonRefusals_isRefusal first
    rw [DestinationVerdict.isRefusal, valid] at certain
    cases certain
  · split at valid <;> cases valid

/-- Where the same is recognized, the verdict is that on the trimmed text. -/
theorem fieldVerdict_trim (same : commonRefusals railId dest field =
      commonRefusals railId (trim dest) field) :
    fieldVerdict railId dest field check refused passed =
      fieldVerdict railId (trim dest) field check refused passed := by
  rw [fieldVerdict, fieldVerdict, same, trim_trim]

end Field

theorem not_recognized_empty : ¬ Recognized "" := by
  rintro (key | ⟨what, address⟩)
  · exact absurd key (by decide)
  · exact absurd (show some what = none from address.symm.trans (by decide)) nofun

/-- Recognition disregards the blanks around a text when there are none, or nothing to recognize. -/
theorem commonRefusals_trim_iff {field : String} :
    commonRefusals railId dest field = commonRefusals railId (trim dest) field ↔
      trim dest = dest ∨ ¬ Recognized (trim dest) := by
  constructor
  · intro same
    by_contra altered
    obtain ⟨untrimmed, recognized⟩ := not_or.mp altered
    have shaped := not_not.mp recognized
    have filled : trim dest ≠ "" := by
      intro blank
      rw [blank] at shaped
      exact not_recognized_empty shaped
    have passed : commonRefusals railId dest field = none :=
      commonRefusals_eq_none.mpr ⟨filled, fun other => untrimmed (trim_of_recognized other)⟩
    rw [same, commonRefusals_eq_none] at passed
    exact passed.2 shaped
  · rintro (plain | unshaped)
    · rw [plain]
    · by_cases blank : trim dest = ""
      · have again : trim (trim dest) = "" := by rw [trim_trim, blank]
        unfold commonRefusals
        rw [if_pos blank, if_pos again]
      · have unknown : ¬ Recognized dest := by
          intro shaped
          rw [trim_of_recognized shaped] at unshaped
          exact unshaped shaped
        rw [commonRefusals_eq_none.mpr ⟨blank, unknown⟩, eq_comm, commonRefusals_eq_none, trim_trim]
        exact ⟨blank, unshaped⟩

end Verdicts

section Exactness

/-- A text of the form `scheme://rest` with a scheme that is `http` or `https` in some case. -/
structure Spelled (scheme rest s : String) : Prop where
  text : s = scheme ++ "://" ++ rest
  known : toAsciiLowercase scheme = "http" ∨ toAsciiLowercase scheme = "https"
  plain : ∀ c ∈ s.toList, isWhitespace c = false ∧ isControl c = false

/-- The host of a URL: what stands before the port, or from an opening bracket to its end. The
bracket is kept, so that `[]`, which names no address, still counts as a host. -/
def host (rest : List Char) : List Char :=
  match hostPort rest with
  | '[' :: address => '[' :: address.takeWhile (· ≠ ']')
  | named => named.takeWhile (· ≠ ':')

/-- An absolute `http` or `https` URL. -/
def AbsoluteHttpUrl (s : String) : Prop := ∃ scheme rest, Spelled scheme rest s ∧ host rest.toList ≠ []

/-- A mail address: a mailbox, and a domain with a dot inside. -/
def EmailAddress (s : String) : Prop :=
  ∃ user domain, s.toList = user ++ '@' :: domain ∧ user ≠ [] ∧ '@' ∉ user ∧ '@' ∉ domain ∧
    ('.' ∈ domain ∧ domain.head? ≠ some '.' ∧ domain.getLast? ≠ some '.') ∧
    ∀ c ∈ s.toList, isWhitespace c = false ∧ isControl c = false

theorem splitScheme_ok_iff {s rest : String} :
    (∃ isHttp, splitScheme s = .ok (isHttp, rest)) ↔
      s = "http" ++ "://" ++ rest ∨ s = "https" ++ "://" ++ rest := by
  have secure : stripPrefix "https://" s = some rest ↔ s = "https" ++ "://" ++ rest := by
    rw [stripPrefix_eq_some, ← String.toList_inj, String.toList_append]
    rfl
  have plain : stripPrefix "http://" s = some rest ↔ s = "http" ++ "://" ++ rest := by
    rw [stripPrefix_eq_some, ← String.toList_inj, String.toList_append]
    rfl
  rw [← secure, ← plain]
  unfold splitScheme
  cases https : stripPrefix "https://" s with
  | some other =>
    have differs : stripPrefix "http://" s ≠ some rest := by
      intro http
      have texts := stripPrefix_eq_some.mp https
      rw [stripPrefix_eq_some.mp http] at texts
      simp at texts
    simp [differs]
  | none =>
    cases http : stripPrefix "http://" s with
    | some other => simp
    | none =>
      simp only
      split_ifs <;> simp

theorem not_any_iff {s : String} :
    (!s.toList.any fun c => isWhitespace c || isControl c) = true ↔
      ∀ c ∈ s.toList, isWhitespace c = false ∧ isControl c = false := by
  simp

theorem parseAbsoluteHttpUrl_answers_iff {s : String} :
    (∃ isHttp, parseAbsoluteHttpUrl s = .ok isHttp) ↔
      ∃ scheme rest, Spelled scheme rest s ∧ toAsciiLowercase scheme = scheme ∧
        hostPort rest.toList ≠ [] := by
  simp only [parseAbsoluteHttpUrl, bind_eq_ok, ensure_eq_ok, not_any_iff]
  constructor
  · rintro ⟨_, ⟨isHttp, rest⟩, split, _, plain, _, present, _⟩
    rcases splitScheme_ok_iff.mp ⟨isHttp, split⟩ with http | https
    · exact ⟨"http", rest, ⟨http, .inl (by decide), plain⟩, by decide, present⟩
    · exact ⟨"https", rest, ⟨https, .inr (by decide), plain⟩, by decide, present⟩
  · rintro ⟨scheme, rest, ⟨text, known, plain⟩, lower, present⟩
    rw [lower] at known
    have split : ∃ isHttp, splitScheme s = .ok (isHttp, rest) := by
      rw [splitScheme_ok_iff, text]
      rcases known with rfl | rfl
      · exact .inl rfl
      · exact .inr rfl
    obtain ⟨isHttp, read⟩ := split
    exact ⟨isHttp, (isHttp, rest), read, (), plain, (), present, rfl⟩

theorem checkEmailShape_answers_iff {s : String} :
    (∃ answer, checkEmailShape s = .ok answer) ↔ EmailAddress s := by
  simp only [checkEmailShape, bind_eq_ok, ensure_eq_ok, not_any_iff]
  constructor
  · rintro ⟨_, _, plain, checked⟩
    split at checked
    · rename_i user domain parts
      simp only [bind_eq_ok, ensure_eq_ok] at checked
      obtain ⟨_, present, _, _, dotted⟩ := checked
      obtain ⟨text, first, last⟩ := Joined.splitOn_eq_pair_iff.mp parts
      exact ⟨user, domain, text, present, first, last, dotted, plain⟩
    · cases checked
  · rintro ⟨user, domain, text, present, first, last, dotted, plain⟩
    refine ⟨(), (), plain, ?_⟩
    have filled : domain ≠ [] := List.ne_nil_of_mem dotted.1
    rw [Joined.splitOn_eq_pair_iff.mpr ⟨text, first, last⟩]
    simp only [bind_eq_ok, ensure_eq_ok]
    exact ⟨(), present, (), filled, dotted⟩

theorem Spelled.inj {scheme rest scheme' rest' s : String} (a : Spelled scheme rest s)
    (b : Spelled scheme' rest' s) : scheme = scheme' ∧ rest = rest' := by
  have noColon : ∀ {name : String}, toAsciiLowercase name = "http" ∨ toAsciiLowercase name = "https" →
      ':' ∉ name.toList := by
    intro name known member
    have kept : ':' ∈ (toAsciiLowercase name).toList := by
      rw [toAsciiLowercase, String.toList_ofList]
      exact List.mem_map.mpr ⟨':', member, rfl⟩
    rcases known with http | https
    · rw [http] at kept
      exact absurd kept (by decide)
    · rw [https] at kept
      exact absurd kept (by decide)
  have texts : scheme.toList ++ ':' :: ("//".toList ++ rest.toList) =
      scheme'.toList ++ ':' :: ("//".toList ++ rest'.toList) := by
    have same := congrArg String.toList (a.text.symm.trans b.text)
    simpa using same
  obtain ⟨schemes, rests⟩ := Joined.append_cons_inj texts (by
    rw [List.count_eq_zero.mpr (noColon a.known), List.count_eq_zero.mpr (noColon b.known)])
  exact ⟨String.toList_inj.mp schemes, String.toList_inj.mp (List.append_cancel_left rests)⟩

/-- The verdicts on a destination are exact and disregard the blanks around it. -/
structure Exact (railId s : String) : Prop where
  redirect : (redirectUrl railId s).isRefusal = true ↔ ¬ AbsoluteHttpUrl (trim s)
  email : (buyerEmail railId s).isRefusal = true ↔ ¬ EmailAddress (trim s)
  urlPasses : AbsoluteHttpUrl (trim s) → commonRefusals railId s redirectField = none
  emailPasses : EmailAddress (trim s) → commonRefusals railId s emailField = none
  never : (redirectUrl railId s).status ≠ .structurallyValid ∧
    (buyerEmail railId s).status ≠ .structurallyValid
  status : (redirectUrl railId s).status = (redirectUrl railId (trim s)).status ∧
    (buyerEmail railId s).status = (buyerEmail railId (trim s)).status
  diagnosis : ∀ field, commonRefusals railId s field = commonRefusals railId (trim s) field

/-- What the parser and the shapes read as it is meant. -/
structure Ordinary (s : String) : Prop where
  scheme : ∀ scheme rest, Spelled scheme rest (trim s) → host rest.toList ≠ [] →
    toAsciiLowercase scheme = scheme
  host : ∀ scheme rest, Spelled scheme rest (trim s) → toAsciiLowercase scheme = scheme →
    (hostPort rest.toList).head? ≠ some ':'
  trimmed : trim s = s ∨ ¬ Recognized (trim s)

theorem host_eq_nil_iff {rest : List Char} :
    host rest = [] ↔ hostPort rest = [] ∨ (hostPort rest).head? = some ':' := by
  unfold host
  split
  · rename_i address bracket
    simp [bracket]
  · cases hostPort rest with
    | nil => simp
    | cons first more => by_cases colon : first = ':' <;> simp [colon]

/-- A text with a mark in it is not blank, and none that is recognized. -/
theorem passes {s : String} {mark : Char} (noLetter : ¬ IsAlphanum mark)
    (member : mark ∈ (trim s).toList) : trim s ≠ "" ∧ ¬ Recognized s := by
  constructor
  · intro blank
    rw [blank] at member
    cases member
  · intro shaped
    rw [trim_of_recognized shaped] at member
    exact not_mem_of_recognized shaped noLetter member

theorem AbsoluteHttpUrl.colon {s : String} (url : AbsoluteHttpUrl s) : ':' ∈ s.toList := by
  obtain ⟨scheme, rest, spelled, -⟩ := url
  rw [spelled.text]
  simp

theorem EmailAddress.mark {s : String} (address : EmailAddress s) : '@' ∈ s.toList := by
  obtain ⟨user, domain, text, -⟩ := address
  rw [text]
  simp

theorem EmailAddress.passes {s : String} (address : EmailAddress (trim s)) :
    trim s ≠ "" ∧ ¬ Recognized s :=
  Destination.passes (by decide) address.mark

theorem AbsoluteHttpUrl.passes {s : String} (url : AbsoluteHttpUrl (trim s)) :
    trim s ≠ "" ∧ ¬ Recognized s :=
  Destination.passes (by decide) url.colon

/-- A refusal of the mail address is exact. -/
theorem buyerEmail_isRefusal_iff {railId s : String} :
    (buyerEmail railId s).isRefusal = true ↔ ¬ EmailAddress (trim s) := by
  rw [buyerEmail, fieldVerdict_isRefusal_iff, checkEmailShape_answers_iff]
  constructor
  · rintro (common | other) address
    · obtain ⟨filled, unshaped⟩ := address.passes
      exact common.elim filled unshaped
    · exact other address
  · exact .inr

/-- A URL that the parser takes: its scheme is in lower case, and something stands where the host
is to be. -/
def Taken (s : String) : Prop :=
  ∃ scheme rest, Spelled scheme rest s ∧ toAsciiLowercase scheme = scheme ∧ hostPort rest.toList ≠ []

theorem redirectUrl_isRefusal_iff {railId s : String} :
    (redirectUrl railId s).isRefusal = true ↔ ¬ Taken (trim s) := by
  rw [redirectUrl, fieldVerdict_isRefusal_iff, parseAbsoluteHttpUrl_answers_iff]
  constructor
  · rintro (common | other) ⟨scheme, rest, spelled, lower, present⟩
    · have colon : ':' ∈ (trim s).toList := by simp [spelled.text]
      obtain ⟨filled, unshaped⟩ := Destination.passes (by decide) colon
      exact common.elim filled unshaped
    · exact other ⟨scheme, rest, spelled, lower, present⟩
  · exact .inr

/-- The parser takes the absolute URLs exactly when the text is not one with a capital letter in
its scheme, and has no port without a host. -/
theorem taken_iff_absolute {s : String} :
    (Taken s ↔ AbsoluteHttpUrl s) ↔
      (∀ scheme rest, Spelled scheme rest s → host rest.toList ≠ [] →
        toAsciiLowercase scheme = scheme) ∧
      (∀ scheme rest, Spelled scheme rest s → toAsciiLowercase scheme = scheme →
        (hostPort rest.toList).head? ≠ some ':') := by
  constructor
  · intro same
    constructor
    · intro scheme rest spelled named
      obtain ⟨scheme', rest', spelled', lower, -⟩ := same.mpr ⟨scheme, rest, spelled, named⟩
      rwa [(spelled.inj spelled').1]
    · intro scheme rest spelled lower port
      have present : hostPort rest.toList ≠ [] := by
        intro nothing
        rw [nothing] at port
        cases port
      obtain ⟨scheme', rest', spelled', named⟩ := same.mp ⟨scheme, rest, spelled, lower, present⟩
      rw [← (spelled.inj spelled').2] at named
      exact named (host_eq_nil_iff.mpr (.inr port))
  · rintro ⟨lowercase, noPort⟩
    constructor
    · rintro ⟨scheme, rest, spelled, lower, present⟩
      refine ⟨scheme, rest, spelled, fun nothing => ?_⟩
      exact (host_eq_nil_iff.mp nothing).elim present (noPort scheme rest spelled lower)
    · rintro ⟨scheme, rest, spelled, named⟩
      refine ⟨scheme, rest, spelled, lowercase scheme rest spelled named, fun nothing => ?_⟩
      exact named (host_eq_nil_iff.mpr (.inl nothing))

/-- The verdicts are exact for what the parser and the shapes read as it is meant. -/
theorem verdicts_exact_iff (railId s : String) : Exact railId s ↔ Ordinary s := by
  constructor
  · intro claimed
    have refusals : (redirectUrl railId s).isRefusal = true ↔ ¬ Taken (trim s) :=
      redirectUrl_isRefusal_iff
    have taken : Taken (trim s) ↔ AbsoluteHttpUrl (trim s) :=
      not_iff_not.mp (refusals.symm.trans claimed.redirect)
    obtain ⟨lowercase, noPort⟩ := taken_iff_absolute.mp taken
    exact ⟨lowercase, noPort, commonRefusals_trim_iff.mp (claimed.diagnosis redirectField)⟩
  · intro ordinary
    have taken := taken_iff_absolute.mpr ⟨ordinary.scheme, ordinary.host⟩
    have diagnosis : ∀ field, commonRefusals railId s field = commonRefusals railId (trim s) field :=
      fun _ => commonRefusals_trim_iff.mpr ordinary.trimmed
    refine ⟨redirectUrl_isRefusal_iff.trans (not_congr taken), buyerEmail_isRefusal_iff, ?_, ?_,
      ⟨fieldVerdict_status_ne, fieldVerdict_status_ne⟩, ⟨?_, ?_⟩, diagnosis⟩
    · exact fun url => commonRefusals_eq_none.mpr url.passes
    · exact fun address => commonRefusals_eq_none.mpr address.passes
    · exact congrArg _ (fieldVerdict_trim (diagnosis redirectField))
    · exact congrArg _ (fieldVerdict_trim (diagnosis emailField))

/-- A secret seed as it is copied with the end of its line. -/
def seedLine : String := "SBFZCHU5645DOKRWYBXVOXY2ELGJKFRX6VGGPRYUWHQ7PMXNMYPOYKUB\n"

/-- The seed is not recognized as the disclosure it is. -/
theorem seedLine_not_exact : ¬ Exact "stripe" seedLine := by
  have trimmed : trim seedLine = "SBFZCHU5645DOKRWYBXVOXY2ELGJKFRX6VGGPRYUWHQ7PMXNMYPOYKUB" := by
    decide
  intro claimed
  rcases commonRefusals_trim_iff.mp (claimed.diagnosis redirectField) with plain | unshaped
  · rw [trimmed] at plain
    exact absurd plain (by decide)
  · rw [trimmed] at unshaped
    exact unshaped (.inl (by decide))

end Exactness

end Patala.Fiat.Destination
