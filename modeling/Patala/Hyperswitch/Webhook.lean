import Patala.Fiat.Webhook
import Patala.Hyperswitch.Rail
import Patala.Lib.Codec

/-! The Hyperswitch webhook: an HMAC over the body, and its header as the key to drop repeats
by. The header is hexadecimal, which has more than one spelling. -/

namespace Patala.Hyperswitch

open Fiat Codec

section Verify

variable (hmacSha512 : List UInt8 → List UInt8 → List UInt8)

/-- The header decodes to the digest of the body under the secret. -/
def verifyWebhookSignature (secret rawBody : List UInt8) (signatureHeader : String) : Bool :=
  if secret = [] ∨ trim signatureHeader = "" then false
  else match hexDecode (trim signatureHeader) with
    | none => false
    | some expected => hmacSha512 secret rawBody = expected

/-- The signature of a delivery, as it is spelled. -/
def signature (delivery : WebhookDelivery) : String :=
  trim (delivery.headerOrEmpty "X-Webhook-Signature-512")

def verifyWebhook (webhookSecret : Option String) (delivery : WebhookDelivery) :
    Except Error WebhookEvent :=
  match webhookSecret.filter (· ≠ "") with
  | none => .error (.unsupported "verify_webhook (no HYPERSWITCH_WEBHOOK_SECRET configured)")
  | some secret =>
    if !verifyWebhookSignature hmacSha512 (asBytes secret) delivery.rawBody (signature delivery) then
      .error (.invalidRequest "hyperswitch: webhook signature did not verify")
    else .ok (.unconfirmed railId (signature delivery) "")

theorem verifyWebhookSignature_true {secret rawBody : List UInt8} {signatureHeader : String} :
    verifyWebhookSignature hmacSha512 secret rawBody signatureHeader ↔
      secret ≠ [] ∧ trim signatureHeader ≠ "" ∧
        hexDecode (trim signatureHeader) = some (hmacSha512 secret rawBody) := by
  unfold verifyWebhookSignature
  by_cases given : secret = [] ∨ trim signatureHeader = ""
  · rcases given with missing | missing <;> simp [missing]
  · obtain ⟨secretGiven, headerGiven⟩ := not_or.mp given
    rw [if_neg given]
    cases hexDecode (trim signatureHeader) with
    | none => simp
    | some expected => simp [secretGiven, headerGiven, eq_comm]

/-- An accepted delivery is signed, and its event asserts nothing but its signature. -/
theorem verifyWebhook_ok {webhookSecret : Option String} {delivery : WebhookDelivery}
    {event : WebhookEvent} (accepted : verifyWebhook hmacSha512 webhookSecret delivery = .ok event) :
    ∃ secret, webhookSecret = some secret ∧
      hexDecode (signature delivery) = some (hmacSha512 (asBytes secret) delivery.rawBody) ∧
      event = .unconfirmed railId (signature delivery) "" := by
  unfold verifyWebhook at accepted
  cases configured : webhookSecret.filter (· ≠ "") with
  | none =>
    rw [configured] at accepted
    cases accepted
  | some secret =>
    rw [configured] at accepted
    have given := (Option.filter_eq_some_iff.mp configured).1
    by_cases signed : verifyWebhookSignature hmacSha512 (asBytes secret) delivery.rawBody
        (signature delivery)
    · have decoded := ((verifyWebhookSignature_true hmacSha512).mp signed).2.2
      rw [signature, trim_trim] at decoded
      simp only [signed, Bool.not_true, Bool.false_eq_true, ↓reduceIte] at accepted
      exact ⟨secret, given, decoded, (Except.ok.inj accepted).symm⟩
    · simp only [signed, Bool.not_false, ↓reduceIte] at accepted
      cases accepted

/-- A delivery whose header decodes to the digest is accepted. -/
theorem verifyWebhook_of_signed {secret : String} {delivery : WebhookDelivery}
    (given : secret ≠ "") (present : signature delivery ≠ "")
    (signed : hexDecode (signature delivery) =
      some (hmacSha512 (asBytes secret) delivery.rawBody)) :
    verifyWebhook hmacSha512 (some secret) delivery =
      .ok (.unconfirmed railId (signature delivery) "") := by
  have configured : (some secret).filter (· ≠ "") = some secret :=
    Option.filter_eq_some_iff.mpr ⟨rfl, decide_eq_true given⟩
  have keyed : asBytes secret ≠ [] := fun empty =>
    given (asBytes_injective (empty.trans (by decide : asBytes "" = []).symm))
  have trimmed : trim (signature delivery) = signature delivery := trim_trim _
  have verified : verifyWebhookSignature hmacSha512 (asBytes secret) delivery.rawBody
      (signature delivery) = true := by
    rw [verifyWebhookSignature_true, trimmed]
    exact ⟨keyed, present, signed⟩
  simp only [verifyWebhook, configured, verified, Bool.not_true, Bool.false_eq_true, ↓reduceIte]

end Verify

/-- The positions of a signature that hold upper-case letters. -/
def letterCase (delivery : WebhookDelivery) : List Bool :=
  (signature delivery).toList.map Char.isUpper

/-- Accepted deliveries are told apart by their bodies exactly when one body is not signed in
two letter cases. -/
theorem eventId_names_body_iff {hmacSha512 : List UInt8 → List UInt8 → List UInt8} {secret : String}
    {delivery delivery' : WebhookDelivery} {event event' : WebhookEvent}
    (accepted : verifyWebhook hmacSha512 (some secret) delivery = .ok event)
    (accepted' : verifyWebhook hmacSha512 (some secret) delivery' = .ok event')
    (collisionFree : hmacSha512 (asBytes secret) delivery.rawBody =
      hmacSha512 (asBytes secret) delivery'.rawBody → delivery.rawBody = delivery'.rawBody) :
    (event.eventId = event'.eventId ↔ delivery.rawBody = delivery'.rawBody) ↔
      (delivery.rawBody = delivery'.rawBody → letterCase delivery = letterCase delivery') := by
  obtain ⟨_, configured, signed, said⟩ := verifyWebhook_ok hmacSha512 accepted
  obtain ⟨_, configured', signed', said'⟩ := verifyWebhook_ok hmacSha512 accepted'
  cases configured
  cases configured'
  have ids : event.eventId = event'.eventId ↔ signature delivery = signature delivery' := by
    rw [said, said']
    rfl
  have named : signature delivery = signature delivery' → delivery.rawBody = delivery'.rawBody := by
    intro same
    rw [← same, signed, Option.some.injEq] at signed'
    exact collisionFree signed'
  rw [ids]
  constructor
  · intro keyed body
    rw [letterCase, letterCase, keyed.mpr body]
  · intro spelled
    refine ⟨named, fun body => ?_⟩
    rw [← body] at signed'
    exact (hexDecode_eq_iff signed signed').mpr (spelled body)

namespace Sample

def webhookSecret : String := "payment_response_hash_key_example"

def succeededBody : List UInt8 := asBytes
  "\x7b\"event_type\":\"payment_succeeded\",\"payment_id\":\"pay_abc\"\x7d"

def failedBody : List UInt8 := asBytes
  "\x7b\"event_type\":\"payment_failed\",\"payment_id\":\"pay_xyz\"\x7d"

def succeededDigest : String :=
  "e80f0807545ad759b5c6c44e6900541fed0585d2fa2d5a3087e349c5c34d48d9" ++
    "c1bbcf7721dc8b9d412eee1e8a7f651de3f2e522ed7b712c10cb77169c9a6756"

def failedDigest : String :=
  "af246725cf3aa909f5b6f3c64c9d2814d213cfa5ceb3f6c01188c6af39b4d4cc" ++
    "d28b35ceeb59df67c6495ab5852b8e12fbfbcdd2fc08cc6d574eec3f7f5d116b"

/-- The digests of the two bodies. -/
def hmacSha512 (key body : List UInt8) : List UInt8 :=
  if key = asBytes webhookSecret then
    if body = succeededBody then (hexDecode succeededDigest).getD []
    else if body = failedBody then (hexDecode failedDigest).getD []
    else []
  else []

def delivered (body : List UInt8) (signatureHeader : String) : WebhookDelivery :=
  (WebhookDelivery.new body 1700000000).withHeader "x-webhook-signature-512" signatureHeader

/-- One delivery of the first body, and one whose header spells the digest in upper case. -/
def succeededDelivery : WebhookDelivery := delivered succeededBody (" " ++ succeededDigest)

def shoutedDelivery : WebhookDelivery :=
  delivered succeededBody (toAsciiUppercase succeededDigest)

def failedDelivery : WebhookDelivery := delivered failedBody failedDigest

theorem decodes_of_chars {digest : String} {chars : List Char}
    (spelled : digest = String.ofList chars)
    (hexadecimal : (hexBytes chars).any (· ≠ []) = true) :
    ∃ bytes, hexDecode digest = some bytes ∧ bytes ≠ [] := by
  cases read : hexBytes chars with
  | none => simp [read] at hexadecimal
  | some bytes =>
    exact ⟨bytes, hexDecode_of_chars spelled read, by simpa [read] using hexadecimal⟩

theorem succeeded_decodes : ∃ bytes, hexDecode succeededDigest = some bytes ∧ bytes ≠ [] :=
  decodes_of_chars (append_of_chars rfl rfl) (by decide +kernel)

theorem failed_decodes : ∃ bytes, hexDecode failedDigest = some bytes ∧ bytes ≠ [] :=
  decodes_of_chars (append_of_chars rfl rfl) (by decide +kernel)

theorem hexDecode_toAsciiUppercase {text : String} {bytes : List UInt8}
    (read : hexDecode text = some bytes) : hexDecode (toAsciiUppercase text) = some bytes := by
  have chars : hexBytes (text.toList.map Char.toUpper) = some bytes := by
    rw [hexBytes_map_toUpper, ← ascii_of_hexDecode read]
    exact read
  rw [toAsciiUppercase, hexDecode_ofList (hexBytes_ascii chars), chars]

/-- A body is accepted under any header that trims to a spelling of its digest. -/
theorem accepted_of_signed {body bytes : List UInt8} {header digest : String}
    (spelled : trim header = trim digest) (read : hexDecode digest = some bytes)
    (nonempty : bytes ≠ []) (signed : hmacSha512 (asBytes webhookSecret) body = bytes) :
    verifyWebhook hmacSha512 (some webhookSecret) (delivered body header) =
      .ok (.unconfirmed "hyperswitch" digest "") := by
  have sent : signature (delivered body header) = digest := by
    have found : (delivered body header).header "X-Webhook-Signature-512" = some header := by
      rw [delivered, WebhookDelivery.header_withHeader, if_pos (by decide)]
    rw [signature, WebhookDelivery.headerOrEmpty, found, Option.getD_some, spelled,
      trim_of_hexDecode read]
  have present : digest ≠ "" := by
    rintro rfl
    exact nonempty (Option.some.inj (read.symm.trans (by decide)))
  subst sent
  exact verifyWebhook_of_signed hmacSha512 (by decide) present
    (read.trans (congrArg some signed.symm))

theorem succeeded_signed {bytes : List UInt8} (read : hexDecode succeededDigest = some bytes) :
    hmacSha512 (asBytes webhookSecret) succeededBody = bytes := by
  rw [hmacSha512, if_pos rfl, if_pos rfl, read, Option.getD_some]

theorem succeeded_accepted : verifyWebhook hmacSha512 (some webhookSecret) succeededDelivery =
    .ok (.unconfirmed "hyperswitch" succeededDigest "") := by
  obtain ⟨bytes, read, nonempty⟩ := succeeded_decodes
  exact accepted_of_signed (trim_blank _) read nonempty (succeeded_signed read)

theorem shouted_accepted : verifyWebhook hmacSha512 (some webhookSecret) shoutedDelivery =
    .ok (.unconfirmed "hyperswitch" (toAsciiUppercase succeededDigest) "") := by
  obtain ⟨bytes, read, nonempty⟩ := succeeded_decodes
  exact accepted_of_signed rfl (hexDecode_toAsciiUppercase read) nonempty (succeeded_signed read)

theorem failed_accepted : verifyWebhook hmacSha512 (some webhookSecret) failedDelivery =
    .ok (.unconfirmed "hyperswitch" failedDigest "") := by
  obtain ⟨bytes, read, nonempty⟩ := failed_decodes
  have other : failedBody ≠ succeededBody := by decide
  refine accepted_of_signed rfl read nonempty ?_
  rw [hmacSha512, if_pos rfl, if_neg other, if_pos rfl, read, Option.getD_some]

end Sample

/-- Two bodies, each signed with its digest, have two keys. -/
theorem eventId_names_body_two :
    (WebhookEvent.unconfirmed "hyperswitch" Sample.succeededDigest "").eventId =
        (WebhookEvent.unconfirmed "hyperswitch" Sample.failedDigest "").eventId ↔
      Sample.succeededBody = Sample.failedBody :=
  (eventId_names_body_iff Sample.succeeded_accepted Sample.failed_accepted
    (fun same => absurd same (by decide +kernel))).mpr
    fun same => absurd same (by decide)

/-- A delivery sent again with its signature in upper case has another key. -/
theorem respelled_signature_replays :
    ¬ ∀ (hmacSha512 : List UInt8 → List UInt8 → List UInt8) (secret : String)
        (delivery delivery' : WebhookDelivery) (event event' : WebhookEvent),
      verifyWebhook hmacSha512 (some secret) delivery = .ok event →
        verifyWebhook hmacSha512 (some secret) delivery' = .ok event' →
          (hmacSha512 (asBytes secret) delivery.rawBody =
            hmacSha512 (asBytes secret) delivery'.rawBody → delivery.rawBody = delivery'.rawBody) →
            (event.eventId = event'.eventId ↔ delivery.rawBody = delivery'.rawBody) := by
  intro claim
  have body : Sample.succeededDelivery.rawBody = Sample.shoutedDelivery.rawBody := by
    simp only [Sample.succeededDelivery, Sample.shoutedDelivery, Sample.delivered,
      WebhookDelivery.withHeader_rawBody]
  have keyed := (claim _ _ _ _ _ _ Sample.succeeded_accepted Sample.shouted_accepted fun _ => body).mpr body
  exact absurd keyed (by decide +kernel)

end Patala.Hyperswitch
