import Patala.Core.Rail
import Patala.Fiat.Webhook
import Patala.Lib.Fallible

/-! The `webhook` call of the C library: the delivery arrives as JSON text, and its body is
unwrapped before the rail is handed the delivery. -/

namespace Patala

/-- A rail's `verify_webhook`. -/
abbrev VerifyWebhook := WebhookDelivery → Except Error WebhookEvent

namespace Ffi

open Fallible

/-- The request of a call. The maps list their entries in the order they are iterated. -/
structure WebhookRequest where
  body : Option String
  bodyHex : Option String
  headers : List (String × String)
  query : List (String × String)
  nowUnix : UInt64

def nibble (c : UInt8) (position : Nat) : Except String UInt8 :=
  if 48 ≤ c ∧ c ≤ 57 then .ok (c - 48)
  else if 97 ≤ c ∧ c ≤ 102 then .ok (c - 97 + 10)
  else if 65 ≤ c ∧ c ≤ 70 then .ok (c - 65 + 10)
  else .error (s!"the character at position {position} is not a hex digit (it is not quoted " ++
    "back here: this is a private key)")

def decodePairs (position : Nat) : List UInt8 → Except String (List UInt8)
  | high :: low :: rest => do
    let highNibble ← nibble high position
    let lowNibble ← nibble low (position + 1)
    let bytes ← decodePairs (position + 2) rest
    return ((highNibble <<< 4) ||| lowNibble) :: bytes
  | _ => .ok []

def decodeHex (s : String) : Except String (List UInt8) := do
  ensure ((asBytes s).length % 2 = 0) s!"odd number of hex digits ({(asBytes s).length})"
  decodePairs 0 (asBytes s)

/-- The bytes the request says the processor sent: exactly one of its two spellings. -/
def WebhookRequest.rawBody (request : WebhookRequest) : Except String (List UInt8) :=
  match request.body, request.bodyHex with
  | some _, some _ => .error ("patala: webhook: give exactly one of \"body\" or \"body_hex\", " ++
      "not both — they would disagree about what the processor signed")
  | some text, none => .ok (asBytes text)
  | none, some hex =>
    (decodeHex hex).mapError ("patala: webhook: body_hex is not valid hex: " ++ ·)
  | none, none => .error "patala: webhook: one of \"body\" or \"body_hex\" is required"

section Call

variable (fromStr : String → Except String WebhookRequest)

/-- What the rail is handed for a request's text. -/
def handed (requestJson : String) : Except String WebhookDelivery := do
  let request ← (fromStr requestJson).mapError ("patala: webhook: invalid request JSON: " ++ ·)
  let rawBody ← request.rawBody
  return ((WebhookDelivery.new rawBody request.nowUnix).withHeaders request.headers).withQuery
    request.query

/-- The `webhook` arm of `call`. -/
def webhook (verifyWebhook : VerifyWebhook) (requestJson : String) : Except String WebhookEvent := do
  let delivery ← handed fromStr requestJson
  (verifyWebhook delivery).mapError fun e => "patala: " ++ e.toString

end Call

theorem length_decodePairs_le {position : Nat} {text bytes : List UInt8}
    (read : decodePairs position text = .ok bytes) : bytes.length ≤ text.length := by
  induction position, text using decodePairs.induct generalizing bytes with
  | case1 position high low rest ih =>
    simp only [decodePairs, bind_eq_ok] at read
    obtain ⟨_, _, _, _, tail, decoded, same⟩ := read
    cases same
    have shorter := ih decoded
    simp only [List.length_cons]
    omega
  | case2 text position short =>
    rw [decodePairs.eq_2 position text short] at read
    cases read
    exact Nat.zero_le _

/-- The raw body is no longer than the text it is spelled in. -/
theorem rawBody_spelled {request : WebhookRequest} {bytes : List UInt8}
    (read : request.rawBody = .ok bytes) :
    ∃ text, (request.body = some text ∨ request.bodyHex = some text) ∧
      bytes.length ≤ (asBytes text).length := by
  cases plain : request.body with
  | some text =>
    cases hex : request.bodyHex with
    | some other => simp [WebhookRequest.rawBody, plain, hex] at read
    | none =>
      simp only [WebhookRequest.rawBody, plain, hex] at read
      cases read
      exact ⟨text, .inl rfl, Nat.le_refl _⟩
  | none =>
    cases hex : request.bodyHex with
    | none => simp [WebhookRequest.rawBody, plain, hex] at read
    | some text =>
      simp only [WebhookRequest.rawBody, plain, hex, mapError_eq_ok, decodeHex,
        bind_eq_ok] at read
      obtain ⟨_, -, decoded⟩ := read
      exact ⟨text, .inr rfl, length_decodePairs_le decoded⟩

/-- The rail is handed the raw body of the request that was read. -/
theorem handed_ok {fromStr : String → Except String WebhookRequest} {requestJson : String}
    {delivery : WebhookDelivery} (given : handed fromStr requestJson = .ok delivery) :
    ∃ request, fromStr requestJson = .ok request ∧ request.rawBody = .ok delivery.rawBody := by
  simp only [handed, bind_eq_ok, mapError_eq_ok] at given
  obtain ⟨request, read, rawBody, unwrapped, same⟩ := given
  cases same
  exact ⟨request, read, by simpa [WebhookDelivery.new] using unwrapped⟩

end Ffi
end Patala
