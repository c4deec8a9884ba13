import Mathlib.Data.List.Forall2
import Patala.Fiat.Currency
import Patala.Fiat.FormBody

/-! PayFast's notifications: a form with an MD5 over its own fields in it. The body is read twice,
in order for the signature and as a map for the fields. -/

namespace Patala.Fiat.PayFast

/-- One field of what is signed. -/
structure Kv where
  key : String
  value : String
deriving DecidableEq

/-- What a byte is escaped as: itself, a plus sign for a blank, or a percent sign and two digits. -/
def escapeByte (b : UInt8) : List Char :=
  let c := Char.ofNat b.toNat
  if b.toNat < 128 ∧ (c.isAlphanum ∨ c = '-' ∨ c = '_' ∨ c = '.' ∨ c = '~') then [c]
  else if b = 0x20 then ['+']
  else ['%', (Nat.digitChar (b.toNat / 16)).toUpper, (Nat.digitChar (b.toNat % 16)).toUpper]

def queryEscape (s : String) : String := String.ofList ((asBytes s).flatMap escapeByte)

/-- A percent sign must have two digits behind it. -/
def unescapeBytes : List UInt8 → Option (List UInt8)
  | [] => some []
  | b :: rest =>
    if b = 0x2B then (unescapeBytes rest).map (0x20 :: ·)
    else if b = 0x25 then
      match rest with
      | high :: low :: more =>
        (fromStrRadix16 high low).bind fun byte => (unescapeBytes more).map (byte :: ·)
      | _ => none
    else (unescapeBytes rest).map (b :: ·)

def queryUnescape (s : String) : Option String := (unescapeBytes (asBytes s)).bind fromUtf8

example : queryUnescape "a%2Fb+%C3%A9" = some "a/b é" := by decide

section Codec

/-- The bytes of a text of ASCII characters. -/
def charBytes (chars : List Char) : List UInt8 := chars.map fun c => UInt8.ofNat c.toNat

/-- A byte is escaped as one character that stays, as a plus sign, or as two digits of it. -/
theorem escapeByte_cases (b : UInt8) :
    (∃ c, escapeByte b = [c] ∧ UInt8.ofNat c.toNat = b ∧ b ≠ 0x2B ∧ b ≠ 0x25) ∨
      (escapeByte b = ['+'] ∧ b = 0x20) ∨
      ∃ high low, escapeByte b = ['%', high, low] ∧
        fromStrRadix16 (UInt8.ofNat high.toNat) (UInt8.ofNat low.toNat) = some b := by
  have table : ∀ code < 256,
      (escapeByte (UInt8.ofNat code) = [Char.ofNat code] ∧
        UInt8.ofNat (Char.ofNat code).toNat = UInt8.ofNat code ∧
        UInt8.ofNat code ≠ 0x2B ∧ UInt8.ofNat code ≠ 0x25) ∨
      (escapeByte (UInt8.ofNat code) = ['+'] ∧ UInt8.ofNat code = 0x20) ∨
      (escapeByte (UInt8.ofNat code) = ['%', (Nat.digitChar (code / 16)).toUpper,
          (Nat.digitChar (code % 16)).toUpper] ∧
        fromStrRadix16 (UInt8.ofNat (Nat.digitChar (code / 16)).toUpper.toNat)
          (UInt8.ofNat (Nat.digitChar (code % 16)).toUpper.toNat) = some (UInt8.ofNat code)) := by
    decide +kernel
  have here := table b.toNat b.toNat_lt
  rw [UInt8.ofNat_toNat] at here
  rcases here with own | blank | triple
  · exact .inl ⟨_, own⟩
  · exact .inr (.inl blank)
  · exact .inr (.inr ⟨_, _, triple⟩)

/-- An escaped text is ASCII and holds no separator. -/
theorem escapeByte_plain (b : UInt8) :
    ∀ c ∈ escapeByte b, c.toNat < 128 ∧ c ≠ '&' ∧ c ≠ '=' := by
  have table : ∀ b : UInt8, ((escapeByte b).all fun c =>
      decide (c.toNat < 128 ∧ c ≠ '&' ∧ c ≠ '=')) = true :=
    Codec.forall_byte (by decide +kernel)
  exact Codec.forall_mem_of_all (table b)

theorem escaped_plain (s : String) :
    ∀ c ∈ (queryEscape s).toList, c.toNat < 128 ∧ c ≠ '&' ∧ c ≠ '=' := by
  intro c member
  rw [queryEscape, String.toList_ofList] at member
  obtain ⟨b, -, escaped⟩ := List.mem_flatMap.mp member
  exact escapeByte_plain b c escaped

theorem unescapeBytes_cons {b : UInt8} {rest : List UInt8} (notPlus : b ≠ 0x2B)
    (notPercent : b ≠ 0x25) : unescapeBytes (b :: rest) = (unescapeBytes rest).map (b :: ·) := by
  rcases rest with _ | ⟨high, _ | ⟨low, more⟩⟩
  · simp [unescapeBytes, notPlus, notPercent]
  · simp [unescapeBytes, notPlus, notPercent]
  · simp [unescapeBytes, notPlus, notPercent]

theorem unescapeBytes_plus {rest : List UInt8} :
    unescapeBytes (0x2B :: rest) = (unescapeBytes rest).map (0x20 :: ·) := by
  rcases rest with _ | ⟨high, _ | ⟨low, more⟩⟩
  · rfl
  · rfl
  · rfl

theorem unescapeBytes_escaped (bytes : List UInt8) :
    unescapeBytes (charBytes (bytes.flatMap escapeByte)) = some bytes := by
  induction bytes with
  | nil => rfl
  | cons b rest ih =>
    rw [List.flatMap_cons, charBytes, List.map_append, ← charBytes, ← charBytes]
    rcases escapeByte_cases b with ⟨c, own, same, notPlus, notPercent⟩ | ⟨plus, blank⟩ |
      ⟨high, low, triple, read⟩
    · rw [own]
      simp only [charBytes, List.map_cons, List.map_nil, same, List.cons_append, List.nil_append]
      rw [← charBytes, unescapeBytes_cons notPlus notPercent, ih]
      rfl
    · rw [plus, blank]
      show unescapeBytes (0x2B :: charBytes (rest.flatMap escapeByte)) = _
      rw [unescapeBytes_plus, ih]
      rfl
    · rw [triple]
      show unescapeBytes (0x25 :: UInt8.ofNat high.toNat :: UInt8.ofNat low.toNat ::
        charBytes (rest.flatMap escapeByte)) = _
      rw [unescapeBytes, if_neg (by decide), if_pos rfl, read, ih]
      rfl

/-- What is escaped unescapes to itself. -/
theorem queryUnescape_queryEscape (s : String) : queryUnescape (queryEscape s) = some s := by
  have ascii : ∀ c ∈ (asBytes s).flatMap escapeByte, c.toNat < 128 := by
    intro c member
    obtain ⟨b, -, escaped⟩ := List.mem_flatMap.mp member
    exact (escapeByte_plain b c escaped).1
  have bytes : asBytes (queryEscape s) = charBytes ((asBytes s).flatMap escapeByte) :=
    Codec.bytes_ofList ascii
  rw [queryUnescape, bytes, unescapeBytes_escaped, Option.bind_some, fromUtf8_asBytes]

theorem queryEscape_injective : Function.Injective queryEscape := by
  intro a b same
  have read := congrArg queryUnescape same
  rw [queryUnescape_queryEscape, queryUnescape_queryEscape] at read
  exact Option.some.inj read

end Codec

/-- A field as it is signed: the value is escaped, the key is not. -/
def Kv.part (kv : Kv) : String := kv.key ++ "=" ++ queryEscape kv.value

/-- The fields with a value, in order, and the passphrase behind them. -/
def signedText (fields : List Kv) (passphrase : String) : String :=
  "&".intercalate ((fields.filter (·.value ≠ "")).map Kv.part ++
    if passphrase = "" then [] else ["passphrase=" ++ queryEscape passphrase])

def computeSignature (md5 : List UInt8 → List UInt8) (fields : List Kv) (passphrase : String) :
    String :=
  Codec.hexEncode (md5 (asBytes (signedText fields passphrase)))

/-- Compare without stopping at the first difference. -/
def constantTimeEq (a b : String) : Bool :=
  if (asBytes a).length ≠ (asBytes b).length then false
  else ((asBytes a).zip (asBytes b)).foldl (fun diff pair => diff ||| (pair.1 ^^^ pair.2)) 0 = 0

/-- A pair whose key and value can be decoded. -/
def decodePair (pair : String × String) : Option Kv := do
  let key ← queryUnescape pair.1
  let value ← queryUnescape pair.2
  return ⟨key, value⟩

/-- The decoded pairs in the order of the body, without the signature. -/
def orderedFields (body : String) : List Kv :=
  ((rawPairs body).filter (·.1 ≠ "signature")).filterMap decodePair

def verifySignature (md5 : List UInt8 → List UInt8) (rawBody : List UInt8)
    (given passphrase : String) : Bool :=
  if given = "" then false
  else match fromUtf8 rawBody with
    | none => false
    | some body => constantTimeEq (computeSignature md5 (orderedFields body) passphrase) given

def malformed (detail : String) : Error := .rail s!"payfast: malformed ITN payload: {detail}"

/-- The decoded pairs of a body, to be read as a map. -/
def parseQueryMap (rawBody : List UInt8) : Except Error (List (String × String)) :=
  match fromUtf8 rawBody with
  | none => .error (malformed "notification body is not valid UTF-8")
  | some body =>
    .ok (((rawPairs body).filterMap decodePair).map fun kv => (kv.key, kv.value))

structure NotificationOutcome where
  reference : String
  eventId : String
  settled : Bool
  amountMinor : UInt64
deriving DecidableEq

def evaluateNotification (values : List (String × String)) : Except Error NotificationOutcome :=
  let get := fun key => (lastValue values key).getD ""
  let reference := get "m_payment_id"
  let amountStr := get "amount_gross"
  let pfPaymentId := get "pf_payment_id"
  let paymentStatus := get "payment_status"
  if reference = "" ∨ amountStr = "" then
    .error (malformed "missing m_payment_id or amount_gross")
  else if pfPaymentId = "" then
    .error (malformed "no pf_payment_id: this notification carries no id to deduplicate on")
  else match majorStringToMinor amountStr "ZAR" with
    | .error e => .error (malformed s!"amount_gross {debugStr amountStr}: {e.toString}")
    | .ok amountMinor =>
      if paymentStatus = "COMPLETE" then
        if amountMinor = 0 then .error (malformed "COMPLETE status with non-positive amount")
        else .ok ⟨reference, pfPaymentId, true, amountMinor⟩
      else .ok ⟨reference, pfPaymentId, false, 0⟩

inductive PayFastWebhookError where
  | missingSignature
  | invalidSignature
  | malformedNotification (detail : String)
deriving DecidableEq

def PayFastWebhookError.toString : PayFastWebhookError → String
  | missingSignature => "payments: payfast: missing signature field"
  | invalidSignature => "payments: payfast: invalid signature"
  | malformedNotification detail => s!"payments: payfast: malformed ITN payload: {detail}"

structure PayFastNotificationEvent where
  reference : String
  eventId : String
  settled : Bool
  amountMinor : UInt64
deriving DecidableEq

/-- Check the signature a body carries, then read its fields. -/
def verifyAndParse (md5 : List UInt8 → List UInt8) (passphrase : String) (rawBody : List UInt8) :
    Except PayFastWebhookError PayFastNotificationEvent :=
  match parseQueryMap rawBody with
  | .error e => .error (.malformedNotification e.toString)
  | .ok values =>
    let givenSig := (lastValue values "signature").getD ""
    if givenSig = "" then .error .missingSignature
    else if !verifySignature md5 rawBody givenSig passphrase then .error .invalidSignature
    else match evaluateNotification values with
      | .error e => .error (.malformedNotification e.toString)
      | .ok outcome => .ok ⟨outcome.reference, outcome.eventId, outcome.settled,
        outcome.amountMinor⟩

/-- An or of differences is zero when all of them are. -/
theorem foldl_differences (pairs : List (UInt8 × UInt8)) (diff : UInt8) :
    pairs.foldl (fun diff pair => diff ||| (pair.1 ^^^ pair.2)) diff = 0 ↔
      diff = 0 ∧ ∀ pair ∈ pairs, pair.1 = pair.2 := by
  induction pairs generalizing diff with
  | nil => simp
  | cons pair rest ih =>
    rw [List.foldl_cons, ih, List.forall_mem_cons, UInt8.or_eq_zero_iff, UInt8.xor_eq_zero_iff,
      and_assoc]

/-- Bytes of one length are the same when all differences are zero. -/
theorem differences_eq_zero_iff {a b : List UInt8} (lengths : a.length = b.length) :
    (a.zip b).foldl (fun diff pair => diff ||| (pair.1 ^^^ pair.2)) 0 = 0 ↔ a = b := by
  rw [foldl_differences, and_iff_right rfl, ← congrFun₂ List.forall₂_eq_eq_eq a b,
    List.forall₂_iff_zip]
  exact ⟨fun all => ⟨lengths, fun member => all _ member⟩, fun all _ member => all.2 member⟩

theorem constantTimeEq_iff {a b : String} : constantTimeEq a b ↔ a = b := by
  unfold constantTimeEq
  by_cases lengths : (asBytes a).length = (asBytes b).length
  · rw [if_neg (not_not.mpr lengths), decide_eq_true_iff, differences_eq_zero_iff lengths,
      asBytes_injective.eq_iff]
  · rw [if_pos lengths]
    constructor
    · intro impossible
      cases impossible
    · intro same
      exact absurd (by rw [same]) lengths

end Patala.Fiat.PayFast
