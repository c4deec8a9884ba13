import Patala.Fiat.OfflineWebhook

/-! Yoco's webhook: a delivery is signed with its id and a timestamp, which is checked before any
signature is. -/

namespace Patala.Fiat.Yoco

open Fallible

/-- The fields of a checkout that are read; a field that is missing is empty or zero. -/
structure YocoCheckout where
  id : String
  status : String
  amount : UInt64
  currency : String

structure CheckoutOutcome where
  eventId : String
  settled : Bool
  amountMinor : UInt64
  currency : String

def malformed (detail : String) : Error := .rail s!"yoco: malformed API response: {detail}"

/-- What a checkout says; only `completed` and `succeeded` settle it. -/
def evaluateCheckout (c : YocoCheckout) : Except Error CheckoutOutcome :=
  if c.id = "" then .error (malformed "missing id")
  else if toAsciiLowercase c.status = "completed" ∨ toAsciiLowercase c.status = "succeeded" then
    if c.amount = 0 then .error (malformed "completed status with non-positive amount")
    else .ok ⟨c.id, true, c.amount, c.currency⟩
  else .ok ⟨c.id, false, 0, c.currency⟩

inductive YocoWebhookError where
  | missingSignature
  | invalidSignature
  | staleTimestamp
  | malformedResponse (detail : String)
  | unhandledEvent (eventType : String)
deriving DecidableEq

def YocoWebhookError.toString : YocoWebhookError → String
  | missingSignature =>
    "payments: yoco: missing webhook-id/webhook-timestamp/webhook-signature headers"
  | invalidSignature => "payments: yoco: invalid webhook signature"
  | staleTimestamp => "payments: yoco: webhook timestamp outside tolerance window"
  | malformedResponse detail => "payments: yoco: malformed API response: " ++ detail
  | unhandledEvent eventType => "payments: unhandled webhook event type: " ++ eventType

structure YocoWebhookEvent where
  eventId : String
  checkoutId : String
  settled : Bool
  amountMinor : UInt64
  currency : String
deriving DecidableEq

structure Envelope where
  eventType : String
  payload : YocoCheckout

/-- The MAC, the standard Base64 decoder, and how an event is read. -/
structure WebhookCrates where
  hmacSha256 : List UInt8 → List UInt8 → List UInt8
  base64Decode : String → Option (List UInt8)
  envelopeFromSlice : FromSlice Envelope

def signatureToleranceSecs : Nat := 5 * 60

/-- Equal lengths, and no bit that differs. -/
def constantTimeEq (a b : List UInt8) : Bool :=
  if a.length ≠ b.length then false
  else (a.zip b).foldl (fun diff pair => diff ||| (pair.1 ^^^ pair.2)) 0 = 0

/-- The bytes a delivery is signed as. -/
def signedContent (id timestamp : String) (rawBody : List UInt8) : List UInt8 :=
  asBytes id ++ asBytes "." ++ asBytes timestamp ++ asBytes "." ++ rawBody

/-- The entries of a signature header, `str::split_whitespace`. -/
def entries (header : String) : List (List Char) :=
  (header.toList.splitOnP isWhitespace).filter (· ≠ [])

/-- The entry is of the current version and holds the expected MAC. -/
def entryMatches (crates : WebhookCrates) (expected : List UInt8) (entry : List Char) : Bool :=
  match entry.dropWhile (· ≠ ',') with
  | [] => false
  | _ :: sig =>
    if entry.takeWhile (· ≠ ',') ≠ "v1".toList then false
    else match crates.base64Decode (String.ofList sig) with
      | some given => constantTimeEq expected given
      | none => false

/-- The timestamp as the number it is compared as, once all three headers are there. -/
def readTimestamp (id timestamp sigHeader : String) : Except YocoWebhookError Int := do
  ensure (¬ (id = "" ∨ timestamp = "" ∨ sigHeader = "")) .missingSignature
  (parseSigned (-2 ^ 63) (2 ^ 63 - 1) timestamp).elim (.error .invalidSignature) .ok

/-- The MAC of a delivery's id, its timestamp and its body. -/
def expectedMac (crates : WebhookCrates) (webhookSecret rawBody : List UInt8)
    (idHeader timestampHeader : String) : List UInt8 :=
  crates.hmacSha256 webhookSecret (signedContent (trim idHeader) (trim timestampHeader) rawBody)

/-- The replay check, then the signature check. -/
def checkDelivery (crates : WebhookCrates) (webhookSecret rawBody : List UInt8)
    (idHeader timestampHeader signatureHeader : String) (nowUnix : UInt64) :
    Except YocoWebhookError Unit := do
  let ts ← readTimestamp (trim idHeader) (trim timestampHeader) (trim signatureHeader)
  ensure (Stripe.age nowUnix ts ≤ signatureToleranceSecs) .staleTimestamp
  ensure ((entries (trim signatureHeader)).any (entryMatches crates
    (expectedMac crates webhookSecret rawBody idHeader timestampHeader))) .invalidSignature

def parseEvent (crates : WebhookCrates) (rawBody : List UInt8) :
    Except YocoWebhookError YocoWebhookEvent := do
  let envelope ← (crates.envelopeFromSlice rawBody).mapError .malformedResponse
  ensure (envelope.eventType = "payment.succeeded") (.unhandledEvent envelope.eventType)
  let outcome ← (evaluateCheckout envelope.payload).mapError fun e =>
    .malformedResponse e.toString
  return ⟨outcome.eventId, envelope.payload.id, outcome.settled, outcome.amountMinor,
    outcome.currency⟩

def verifyAndParse (crates : WebhookCrates) (webhookSecret rawBody : List UInt8)
    (idHeader timestampHeader signatureHeader : String) (nowUnix : UInt64) :
    Except YocoWebhookError YocoWebhookEvent := do
  checkDelivery crates webhookSecret rawBody idHeader timestampHeader signatureHeader nowUnix
  parseEvent crates rawBody

theorem constantTimeEq_iff {a b : List UInt8} : constantTimeEq a b = true ↔ a = b := by
  unfold constantTimeEq
  by_cases lengths : a.length = b.length
  · rw [if_neg (not_not.mpr lengths), decide_eq_true_iff, PayFast.differences_eq_zero_iff lengths]
  · rw [if_pos lengths]
    exact iff_of_false Bool.false_ne_true fun same => lengths (congrArg List.length same)

/-- An entry matches when the signature behind its version and its comma is the expected MAC. -/
theorem entryMatches_iff {crates : WebhookCrates} {expected : List UInt8} {entry : List Char} :
    entryMatches crates expected entry = true ↔
      ∃ sig, entry = "v1,".toList ++ sig ∧
        crates.base64Decode (String.ofList sig) = some expected := by
  have versioned : "v1,".toList = ['v', '1', ','] := rfl
  constructor
  · intro found
    have split := List.takeWhile_append_dropWhile (p := (· ≠ ',')) (l := entry)
    unfold entryMatches at found
    cases rest : entry.dropWhile (· ≠ ',') with
    | nil =>
      rw [rest] at found
      cases found
    | cons comma sig =>
      have isComma : comma = ',' := by
        have stopped := List.head?_dropWhile_not (· ≠ ',') entry
        rw [rest] at stopped
        simpa using stopped
      rw [rest] at split found
      by_cases version : entry.takeWhile (· ≠ ',') = "v1".toList
      · rw [version, isComma] at split
        simp only [version, ne_eq, not_true_eq_false, ↓reduceIte] at found
        cases decoded : crates.base64Decode (String.ofList sig) with
        | none =>
          rw [decoded] at found
          cases found
        | some given =>
          rw [decoded] at found
          exact ⟨sig, split.symm, by rw [decoded, constantTimeEq_iff.mp found]⟩
      · simp only [ne_eq, version, not_false_eq_true, ↓reduceIte] at found
        cases found
  · intro ⟨sig, same, decoded⟩
    rw [same, versioned]
    simp [entryMatches, decoded, constantTimeEq_iff]

end Patala.Fiat.Yoco
