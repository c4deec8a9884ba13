import Patala.Core.Rail

/-! The ISO-4217 minor-unit table shared by the fiat rails, and conversion between minor
units and decimal texts. An unknown code is an error, never a default exponent. -/

namespace Patala.Fiat

/-- `{:?}` of a string. Outside ASCII every character is taken to be printable. -/
def debugStr (text : String) : String :=
  "\"" ++ String.ofList (text.toList.flatMap fun c =>
    match c with
    | '"' => ['\\', '"']
    | '\\' => ['\\', '\\']
    | '\n' => ['\\', 'n']
    | '\r' => ['\\', 'r']
    | '\t' => ['\\', 't']
    | c =>
      if c.toNat = 0 then ['\\', '0']
      else if c.toNat < 32 || c.toNat = 127 then
        "\\u\x7b".toList ++ Nat.toDigits 16 c.toNat ++ ['\x7d']
      else [c]) ++ "\""

/-- `str::to_ascii_uppercase`. -/
def toAsciiUppercase (text : String) : String := String.ofList (text.toList.map Char.toUpper)

/-- `str::to_ascii_lowercase`. -/
def toAsciiLowercase (text : String) : String := String.ofList (text.toList.map Char.toLower)

/-- `str::eq_ignore_ascii_case`. -/
def eqIgnoreAsciiCase (a b : String) : Bool := toAsciiLowercase a = toAsciiLowercase b

theorem toUpper_of_large {c : Char} (large : 128 ≤ c.toNat) : c.toUpper = c :=
  dif_neg fun letter => not_lt.mpr large (Nat.lt_of_le_of_lt letter.2 (by decide))

theorem toLower_toUpper (c : Char) : c.toUpper.toLower = c.toLower := by
  have ascii : ∀ c : Char, c.toNat < 128 → c.toUpper.toLower = c.toLower :=
    Codec.forall_ascii (by decide)
  by_cases small : c.toNat < 128
  · exact ascii c small
  · rw [toUpper_of_large (not_lt.mp small)]

@[simp] theorem toAsciiLowercase_toAsciiUppercase (text : String) :
    toAsciiLowercase (toAsciiUppercase text) = toAsciiLowercase text := by
  rw [toAsciiLowercase, toAsciiUppercase, String.toList_ofList, List.map_map, toAsciiLowercase]
  exact congrArg String.ofList (List.map_congr_left fun c _ => toLower_toUpper c)

theorem isWhitespace_toUpper (c : Char) : isWhitespace c.toUpper = isWhitespace c := by
  rw [← isWhitespace_toLower c.toUpper, toLower_toUpper, isWhitespace_toLower]

theorem trim_toAsciiUppercase (text : String) :
    trim (toAsciiUppercase text) = toAsciiUppercase (trim text) := by
  have blank : isWhitespace ∘ Char.toUpper = isWhitespace := funext isWhitespace_toUpper
  simp [trim, toAsciiUppercase, List.dropWhile_map, ← List.map_reverse, blank]

theorem toAsciiUppercase_idem (text : String) :
    toAsciiUppercase (toAsciiUppercase text) = toAsciiUppercase text := by
  have twice : ∀ c : Char, c.toUpper.toUpper = c.toUpper := by
    intro c
    have ascii : ∀ c : Char, c.toNat < 128 → c.toUpper.toUpper = c.toUpper :=
      Codec.forall_ascii (by decide)
    by_cases small : c.toNat < 128
    · exact ascii c small
    · rw [toUpper_of_large (not_lt.mp small), toUpper_of_large (not_lt.mp small)]
  rw [toAsciiUppercase, toAsciiUppercase, String.toList_ofList, List.map_map]
  exact congrArg String.ofList (List.map_congr_left fun c _ => twice c)

inductive CurrencyError where
  | invalidCurrency (code : String)
  | unknownCurrency (code : String)
  | invalidAmount (message : String)
deriving DecidableEq

def CurrencyError.toString : CurrencyError → String
  | invalidCurrency code =>
    "invalid currency code " ++ debugStr code ++ " (must be a 3-letter ISO-4217 code)"
  | unknownCurrency code => "unknown currency code " ++ debugStr code
  | invalidAmount message => "invalid amount: " ++ message

/-- A code and how many digits follow the point of its major unit. -/
structure CurrencyInfo where
  code : String
  exponent : Nat
deriving DecidableEq

def currencyDefs : List CurrencyInfo :=
  [⟨"AED", 2⟩, ⟨"AFN", 2⟩, ⟨"ALL", 2⟩, ⟨"AMD", 2⟩, ⟨"ANG", 2⟩, ⟨"AOA", 2⟩, ⟨"ARS", 2⟩,
    ⟨"AUD", 2⟩, ⟨"AWG", 2⟩, ⟨"AZN", 2⟩, ⟨"BAM", 2⟩, ⟨"BBD", 2⟩, ⟨"BDT", 2⟩, ⟨"BGN", 2⟩,
    ⟨"BHD", 3⟩, ⟨"BIF", 0⟩, ⟨"BMD", 2⟩, ⟨"BND", 2⟩, ⟨"BOB", 2⟩, ⟨"BRL", 2⟩, ⟨"BSD", 2⟩,
    ⟨"BTN", 2⟩, ⟨"BWP", 2⟩, ⟨"BYN", 2⟩, ⟨"BZD", 2⟩, ⟨"CAD", 2⟩, ⟨"CDF", 2⟩, ⟨"CHF", 2⟩,
    ⟨"CLP", 0⟩, ⟨"CNY", 2⟩, ⟨"COP", 2⟩, ⟨"CRC", 2⟩, ⟨"CUP", 2⟩, ⟨"CVE", 2⟩, ⟨"CZK", 2⟩,
    ⟨"DJF", 0⟩, ⟨"DKK", 2⟩, ⟨"DOP", 2⟩, ⟨"DZD", 2⟩, ⟨"EGP", 2⟩, ⟨"ETB", 2⟩, ⟨"EUR", 2⟩,
    ⟨"FJD", 2⟩, ⟨"GBP", 2⟩, ⟨"GEL", 2⟩, ⟨"GHS", 2⟩, ⟨"GMD", 2⟩, ⟨"GNF", 0⟩, ⟨"GTQ", 2⟩,
    ⟨"GYD", 2⟩, ⟨"HKD", 2⟩, ⟨"HNL", 2⟩, ⟨"HTG", 2⟩, ⟨"HUF", 2⟩, ⟨"IDR", 2⟩, ⟨"ILS", 2⟩,
    ⟨"INR", 2⟩, ⟨"IQD", 3⟩, ⟨"IRR", 2⟩, ⟨"ISK", 0⟩, ⟨"JMD", 2⟩, ⟨"JOD", 3⟩, ⟨"JPY", 0⟩,
    ⟨"KES", 2⟩, ⟨"KGS", 2⟩, ⟨"KHR", 2⟩, ⟨"KMF", 0⟩, ⟨"KRW", 0⟩, ⟨"KWD", 3⟩, ⟨"KYD", 2⟩,
    ⟨"KZT", 2⟩, ⟨"LAK", 2⟩, ⟨"LBP", 2⟩, ⟨"LKR", 2⟩, ⟨"LRD", 2⟩, ⟨"LSL", 2⟩, ⟨"LYD", 3⟩,
    ⟨"MAD", 2⟩, ⟨"MDL", 2⟩, ⟨"MGA", 2⟩, ⟨"MKD", 2⟩, ⟨"MMK", 2⟩, ⟨"MNT", 2⟩, ⟨"MOP", 2⟩,
    ⟨"MRU", 2⟩, ⟨"MUR", 2⟩, ⟨"MVR", 2⟩, ⟨"MWK", 2⟩, ⟨"MXN", 2⟩, ⟨"MYR", 2⟩, ⟨"MZN", 2⟩,
    ⟨"NAD", 2⟩, ⟨"NGN", 2⟩, ⟨"NIO", 2⟩, ⟨"NOK", 2⟩, ⟨"NPR", 2⟩, ⟨"NZD", 2⟩, ⟨"OMR", 3⟩,
    ⟨"PAB", 2⟩, ⟨"PEN", 2⟩, ⟨"PGK", 2⟩, ⟨"PHP", 2⟩, ⟨"PKR", 2⟩, ⟨"PLN", 2⟩, ⟨"PYG", 0⟩,
    ⟨"QAR", 2⟩, ⟨"RON", 2⟩, ⟨"RSD", 2⟩, ⟨"RUB", 2⟩, ⟨"RWF", 0⟩, ⟨"SAR", 2⟩, ⟨"SBD", 2⟩,
    ⟨"SCR", 2⟩, ⟨"SDG", 2⟩, ⟨"SEK", 2⟩, ⟨"SGD", 2⟩, ⟨"SLE", 2⟩, ⟨"SOS", 2⟩, ⟨"SRD", 2⟩,
    ⟨"SSP", 2⟩, ⟨"STN", 2⟩, ⟨"SZL", 2⟩, ⟨"THB", 2⟩, ⟨"TJS", 2⟩, ⟨"TMT", 2⟩, ⟨"TND", 3⟩,
    ⟨"TOP", 2⟩, ⟨"TRY", 2⟩, ⟨"TTD", 2⟩, ⟨"TWD", 2⟩, ⟨"TZS", 2⟩, ⟨"UAH", 2⟩, ⟨"UGX", 0⟩,
    ⟨"USD", 2⟩, ⟨"UYU", 2⟩, ⟨"UZS", 2⟩, ⟨"VES", 2⟩, ⟨"VND", 0⟩, ⟨"VUV", 0⟩, ⟨"WST", 2⟩,
    ⟨"XAF", 0⟩, ⟨"XCD", 2⟩, ⟨"XOF", 0⟩, ⟨"XPF", 0⟩, ⟨"YER", 2⟩, ⟨"ZAR", 2⟩, ⟨"ZMW", 2⟩]

/-- Trim and upper-case, then insist on three letters. -/
def normalizeCode (code : String) : Except CurrencyError String :=
  let upper := toAsciiUppercase (trim code)
  if upper.utf8ByteSize = 3 ∧ upper.toList.all (fun c => 'A' ≤ c && c ≤ 'Z') then .ok upper
  else .error (.invalidCurrency code)

def lookup (code : String) : Except CurrencyError CurrencyInfo := do
  let norm ← normalizeCode code
  match currencyDefs.find? fun info => info.code = norm with
  | some info => .ok info
  | none => .error (.unknownCurrency norm)

def exponent (code : String) : Except CurrencyError Nat := return (← lookup code).exponent

def normalize (code : String) : Except CurrencyError String := return (← lookup code).code

/-- Decimal digits, with zeros in front up to a width. -/
def zeroPadded (width value : Nat) : String :=
  let digits := Nat.toDigits 10 value
  String.ofList (List.replicate (width - digits.length) '0' ++ digits)

def minorToMajorString (amountMinor : UInt64) (currency : String) : Except CurrencyError String := do
  let exp ← exponent currency
  if exp = 0 then return toString amountMinor.toNat
  let div := 10 ^ exp
  return toString (amountMinor.toNat / div) ++ "." ++ zeroPadded exp (amountMinor.toNat % div)

def isAsciiDigit (c : Char) : Bool := '0' ≤ c && c ≤ '9'

/-- The fraction's digits filled up to the exponent with zeros. -/
def fractionDigits (trimmed currency : String) (exp : Nat) :
    Option (List Char) → Except CurrencyError (List Char)
  | none => .ok (List.replicate exp '0')
  | some fraction =>
    if !fraction.all isAsciiDigit then
      .error (.invalidAmount ("malformed amount string " ++ debugStr trimmed))
    else if exp < fraction.length then
      .error (.invalidAmount ("amount string " ++ debugStr trimmed ++
        " has more fractional digits than " ++ toAsciiUppercase (trim currency) ++
        s!"'s {exp}-decimal exponent"))
    else .ok (fraction ++ List.replicate (exp - fraction.length) '0')

/-- `parse::<u64>` of a run of digits. -/
def parseDigits (trimmed : String) (digits : List Char) : Except CurrencyError Nat :=
  match digitsValue digits with
  | some value =>
    if value < 2 ^ 64 then .ok value
    else .error (.invalidAmount ("malformed amount string " ++ debugStr trimmed))
  | none => .error (.invalidAmount ("malformed amount string " ++ debugStr trimmed))

/-- A plain decimal number of at most the currency's fractional digits. -/
def majorStringToMinor (text currency : String) : Except CurrencyError UInt64 := do
  let trimmed := trim text
  if trimmed = "" then throw (.invalidAmount "empty amount string")
  if trimmed.toList.head? = some '-' then
    throw (.invalidAmount ("negative amount " ++ debugStr trimmed ++ " is not valid"))
  let exp ← exponent currency
  let whole := trimmed.toList.takeWhile (· ≠ '.')
  let fraction := match trimmed.toList.dropWhile (· ≠ '.') with
    | [] => none
    | _ :: digits => some digits
  let whole := if whole = [] then ['0'] else whole
  if !whole.all isAsciiDigit then
    throw (.invalidAmount ("malformed amount string " ++ debugStr trimmed))
  let fracDigits ← fractionDigits trimmed currency exp fraction
  let wholeN ← parseDigits trimmed whole
  let fracN ← if 0 < exp then parseDigits trimmed fracDigits else .ok 0
  let total := wholeN * 10 ^ exp + fracN
  if total < 2 ^ 64 then return UInt64.ofNat total
  else throw (.invalidAmount ("amount string " ++ debugStr trimmed ++ " overflows u64"))

example : majorStringToMinor "12.3" "zar" = .ok 1230 := by decide

end Patala.Fiat
