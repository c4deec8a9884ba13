import Patala.Fiat.Http
import Patala.Fiat.Webhook
import Patala.Lib.Codec
import Patala.Lib.Joined

/-! The Adyen webhook. A notification item is signed by an HMAC over its fields joined by
colons, which the fields may contain. -/

namespace Patala.Fiat.Adyen

structure AmountObj where
  value : UInt64
  currency : String
deriving DecidableEq

structure AdditionalData where
  hmacSignature : String
deriving DecidableEq

structure NotificationRequestItem where
  additionalData : AdditionalData
  amount : AmountObj
  eventCode : String
  merchantReference : String
  originalReference : String
  pspReference : String
  success : String
deriving DecidableEq

structure NotificationEnvelope where
  notificationItems : List NotificationRequestItem

inductive AdyenWebhookError where
  | missingSignature
  | invalidSignature
  | malformedResponse (detail : String)
  | unhandledEvent (eventType : String)
deriving DecidableEq

def AdyenWebhookError.toString : AdyenWebhookError → String
  | missingSignature => "payments: adyen: notification item has no additionalData.hmacSignature"
  | invalidSignature => "payments: adyen: invalid HMAC signature"
  | malformedResponse detail => s!"payments: adyen: malformed API response: {detail}"
  | unhandledEvent eventType => s!"payments: unhandled webhook event type: {eventType}"

structure AdyenWebhookEvent where
  eventId : String
  reference : String
  settled : Bool
  amountMinor : UInt64
  currency : String
  pspReference : String
deriving DecidableEq

/-- The webhook's key, with what it calls on. -/
structure AdyenWebhook where
  hmacKey : List UInt8
  hmacSha256 : List UInt8 → List UInt8 → List UInt8
  base64Decode : String → Option (List UInt8)
  envelopeFromSlice : FromSlice NotificationEnvelope

def railId : String := "adyen"

namespace NotificationRequestItem

variable (item : NotificationRequestItem)

/-- The signed fields. The merchant account's code is not read from the payload. -/
def signingFields : List String :=
  [item.pspReference, item.originalReference, "", item.merchantReference,
    toString item.amount.value.toNat, item.amount.currency, item.eventCode, item.success]

def signingString : String := ":".intercalate item.signingFields

/-- The signed fields that are texts of the payload. -/
def textFields : List (NotificationRequestItem → String) :=
  [pspReference, originalReference, merchantReference, fun item => item.amount.currency, eventCode,
    success]

/-- The items say the same of a payment. -/
structure Agrees (item item' : NotificationRequestItem) : Prop where
  pspReference : item.pspReference = item'.pspReference
  originalReference : item.originalReference = item'.originalReference
  merchantReference : item.merchantReference = item'.merchantReference
  value : item.amount.value = item'.amount.value
  currency : item.amount.currency = item'.amount.currency
  eventCode : item.eventCode = item'.eventCode
  success : item.success = item'.success

/-- Each text field of one item holds as many colons as the other's. -/
def SameColons (item item' : NotificationRequestItem) : Prop :=
  ∀ field ∈ textFields,
    Joined.occurrences ':' (field item) = Joined.occurrences ':' (field item')

theorem agrees_iff_signingFields {item item' : NotificationRequestItem} :
    item.Agrees item' ↔ item.signingFields = item'.signingFields := by
  simp only [signingFields, List.cons.injEq, Joined.toString_injective.eq_iff, UInt64.toNat_inj,
    true_and, and_true]
  constructor
  · intro agrees
    exact ⟨agrees.pspReference, agrees.originalReference, agrees.merchantReference, agrees.value,
      agrees.currency, agrees.eventCode, agrees.success⟩
  · intro ⟨psp, original, merchant, value, currency, code, success⟩
    exact ⟨psp, original, merchant, value, currency, code, success⟩

/-- The empty field and the amount hold no colons. -/
theorem sameColons_iff_signingFields {item item' : NotificationRequestItem} :
    item.SameColons item' ↔ item.signingFields.map (Joined.occurrences ':') =
      item'.signingFields.map (Joined.occurrences ':') := by
  have digits := Joined.occurrences_repr (show (':').isDigit = false by decide)
  simp only [SameColons, textFields, List.forall_mem_cons, signingFields, List.map_cons,
    List.map_nil, List.cons.injEq, digits, true_and, and_true, List.not_mem_nil, false_implies,
    implies_true]

/-- Items signed alike agree exactly when their fields hold equally many colons. -/
theorem agrees_iff_sameColons {item item' : NotificationRequestItem}
    (signed : item.signingString = item'.signingString) :
    item.Agrees item' ↔ item.SameColons item' := by
  rw [agrees_iff_signingFields, sameColons_iff_signingFields]
  exact Joined.texts_eq_iff signed

end NotificationRequestItem

/-- What is reported of an item; one that failed is reported with no amount. -/
def NotificationRequestItem.report (item : NotificationRequestItem) : AdyenWebhookEvent where
  eventId := item.pspReference
  reference := item.merchantReference
  settled := item.success = "true"
  amountMinor := if item.success = "true" then item.amount.value else 0
  currency := toAsciiUppercase (trim item.amount.currency)
  pspReference := item.pspReference

namespace AdyenWebhook

variable (webhook : AdyenWebhook)

def verifyHmacSha256Base64 (secret signedPayload : List UInt8) (base64Signature : String) : Bool :=
  if secret = [] ∨ trim base64Signature = "" then false
  else match webhook.base64Decode (trim base64Signature) with
    | none => false
    | some expected => webhook.hmacSha256 secret signedPayload = expected

def verifyItemHmac (item : NotificationRequestItem) : Except AdyenWebhookError Unit :=
  let given := trim item.additionalData.hmacSignature
  if given = "" then .error .missingSignature
  else if webhook.verifyHmacSha256Base64 webhook.hmacKey (asBytes item.signingString) given then
    .ok ()
  else .error .invalidSignature

/-- What one item comes to. -/
def parseItem (item : NotificationRequestItem) : Except AdyenWebhookError AdyenWebhookEvent := do
  webhook.verifyItemHmac item
  let currency := toAsciiUppercase (trim item.amount.currency)
  if item.eventCode ≠ "AUTHORISATION" then .error (.unhandledEvent item.eventCode)
  else if item.merchantReference = "" then .error (.malformedResponse "missing merchantReference")
  else if item.pspReference = "" then .error (.malformedResponse
    "no pspReference: this notificationItem carries no id to deduplicate on")
  else if item.success = "true" then
    if item.amount.value = 0 then
      .error (.malformedResponse "success=true with non-positive amount")
    else .ok ⟨item.pspReference, item.merchantReference, true, item.amount.value, currency,
      item.pspReference⟩
  else .ok ⟨item.pspReference, item.merchantReference, false, 0, currency, item.pspReference⟩

/-- The first item that comes to an event, or the last error. -/
def scanItems (lastErr : AdyenWebhookError) :
    List NotificationRequestItem → Except AdyenWebhookError AdyenWebhookEvent
  | [] => .error lastErr
  | item :: rest =>
    match webhook.parseItem item with
    | .ok event => .ok event
    | .error e => scanItems e rest

def verifyAndParse (rawBody : List UInt8) : Except AdyenWebhookError AdyenWebhookEvent := do
  let envelope ← (webhook.envelopeFromSlice rawBody).mapError .malformedResponse
  if envelope.notificationItems = [] then .error (.malformedResponse "no notificationItems")
  else
    let lastErr := .malformedResponse "no notificationItems produced a settlement result"
    webhook.scanItems lastErr envelope.notificationItems

def verifyWebhook (delivery : WebhookDelivery) : Except Error WebhookEvent := do
  let event ← (webhook.verifyAndParse delivery.rawBody).mapError fun e =>
    Error.invalidRequest e.toString
  return (WebhookEvent.settlement railId event.eventId event.reference event.settled
    event.amountMinor event.currency).withObjectId event.pspReference

/-- The item verifies and qualifies as the report of an authorisation, settled or failed. -/
structure Reports (webhook : AdyenWebhook) (item : NotificationRequestItem) : Prop where
  verifies : webhook.verifyItemHmac item = .ok ()
  authorisation : item.eventCode = "AUTHORISATION"
  referenced : item.merchantReference ≠ ""
  named : item.pspReference ≠ ""
  positive : item.success = "true" → item.amount.value ≠ 0

/-- An item passes when its signature decodes to the digest of its signing string. -/
theorem verifyItemHmac_ok {item : NotificationRequestItem}
    (passes : webhook.verifyItemHmac item = .ok ()) :
    webhook.base64Decode (trim item.additionalData.hmacSignature) =
      some (webhook.hmacSha256 webhook.hmacKey (asBytes item.signingString)) := by
  simp only [verifyItemHmac, verifyHmacSha256Base64, trim_trim] at passes
  by_cases missing : trim item.additionalData.hmacSignature = ""
  · simp [missing] at passes
  · cases decoded : webhook.base64Decode (trim item.additionalData.hmacSignature) with
    | none => simp [missing, decoded] at passes
    | some expected =>
      by_cases keyed : webhook.hmacKey = []
      · simp [missing, keyed] at passes
      · by_cases same : webhook.hmacSha256 webhook.hmacKey (asBytes item.signingString) = expected
        · rw [same]
        · simp [missing, keyed, decoded, same] at passes

section Parse

variable {webhook} {item : NotificationRequestItem}
  {items : List NotificationRequestItem} {lastErr : AdyenWebhookError} {event : AdyenWebhookEvent}

theorem parseItem_of_reports (reports : webhook.Reports item) :
    webhook.parseItem item = .ok item.report := by
  unfold parseItem
  rw [reports.verifies]
  show (if _ then _ else _) = _
  rw [if_neg (not_not.mpr reports.authorisation), if_neg reports.referenced, if_neg reports.named]
  by_cases success : item.success = "true"
  · rw [if_pos success, if_neg (reports.positive success)]
    simp [NotificationRequestItem.report, success]
  · rw [if_neg success]
    simp [NotificationRequestItem.report, success]

theorem reports_of_parseItem (parsed : webhook.parseItem item = .ok event) :
    webhook.Reports item := by
  obtain ⟨_, verifies, checked⟩ := Fallible.bind_eq_ok.mp parsed
  by_cases code : item.eventCode = "AUTHORISATION"
  · rw [if_neg (not_not.mpr code)] at checked
    by_cases reference : item.merchantReference = ""
    · rw [if_pos reference] at checked
      cases checked
    · by_cases unnamed : item.pspReference = ""
      · rw [if_neg reference, if_pos unnamed] at checked
        cases checked
      · refine ⟨verifies, code, reference, unnamed, fun success zero => ?_⟩
        rw [if_neg reference, if_neg unnamed, if_pos success, if_pos zero] at checked
        cases checked
  · rw [if_pos code] at checked
    cases checked

/-- An item comes to an event exactly when it reports it. -/
theorem parseItem_ok_iff :
    webhook.parseItem item = .ok event ↔ webhook.Reports item ∧ item.report = event := by
  constructor
  · intro parsed
    have reports := reports_of_parseItem parsed
    rw [parseItem_of_reports reports] at parsed
    exact ⟨reports, Except.ok.inj parsed⟩
  · intro ⟨reports, same⟩
    rw [parseItem_of_reports reports, same]

theorem toOption_parseItem_eq_none :
    (webhook.parseItem item).toOption = none ↔ ¬ webhook.Reports item := by
  constructor
  · intro nothing reports
    rw [parseItem_of_reports reports] at nothing
    cases nothing
  · intro silent
    cases parsed : webhook.parseItem item with
    | ok event => exact absurd (reports_of_parseItem parsed) silent
    | error e => rfl

/-- The loop over the items is a search. -/
theorem toOption_scanItems : (webhook.scanItems lastErr items).toOption =
    items.findSome? fun item => (webhook.parseItem item).toOption := by
  induction items generalizing lastErr with
  | nil => rfl
  | cons item rest ih =>
    rw [scanItems, List.findSome?_cons]
    cases webhook.parseItem item with
    | ok event => rfl
    | error e => exact ih

/-- The item that is reported is the first that reports anything. -/
theorem scanItems_ok_iff : webhook.scanItems lastErr items = .ok event ↔
    ∃ before item after, items = before ++ item :: after ∧
      (webhook.Reports item ∧ item.report = event) ∧
      ∀ other ∈ before, ¬ webhook.Reports other := by
  rw [← Fallible.toOption_eq_some, toOption_scanItems, List.findSome?_eq_some_iff]
  simp only [toOption_parseItem_eq_none, Fallible.toOption_eq_some, parseItem_ok_iff]

end Parse

/-- What is reported is what an item says that passed the signature check. -/
theorem parseItem_ok {item : NotificationRequestItem} {event : AdyenWebhookEvent}
    (parsed : webhook.parseItem item = .ok event) :
    webhook.verifyItemHmac item = .ok () ∧ event.eventId = item.pspReference ∧
      event.reference = item.merchantReference ∧ (event.settled ↔ item.success = "true") ∧
      (event.settled → event.amountMinor = item.amount.value) := by
  obtain ⟨reports, rfl⟩ := parseItem_ok_iff.mp parsed
  refine ⟨reports.verifies, rfl, rfl, decide_eq_true_iff, fun settled => ?_⟩
  exact if_pos (decide_eq_true_iff.mp settled)

/-- What a delivery reports is what an item in it says that passed the signature check. -/
theorem verifyWebhook_ok {delivery : WebhookDelivery} {event : WebhookEvent}
    (accepted : webhook.verifyWebhook delivery = .ok event) :
    ∃ envelope item, webhook.envelopeFromSlice delivery.rawBody = .ok envelope ∧
      item ∈ envelope.notificationItems ∧ webhook.verifyItemHmac item = .ok () ∧
      event.eventId = item.pspReference ∧ event.reference = item.merchantReference ∧
      (event.isSettled ↔ item.success = "true") := by
  obtain ⟨parsed, parsing, written⟩ := Fallible.bind_eq_ok.mp accepted
  obtain ⟨envelope, read, checked⟩ := Fallible.bind_eq_ok.mp (Fallible.mapError_eq_ok.mp parsing)
  by_cases nothing : envelope.notificationItems = []
  · simp [nothing] at checked
  · rw [if_neg nothing] at checked
    obtain ⟨before, item, after, split, ⟨reports, same⟩, -⟩ := scanItems_ok_iff.mp checked
    have member : item ∈ envelope.notificationItems := by
      rw [split]
      exact List.mem_append_right before List.mem_cons_self
    obtain ⟨passes, eventId, reference, success, -⟩ :=
      webhook.parseItem_ok (parseItem_ok_iff.mpr ⟨reports, same⟩)
    cases written
    refine ⟨envelope, item, Fallible.mapError_eq_ok.mp read, member, passes, eventId, reference, ?_⟩
    rw [← success]
    cases parsed.settled <;>
      simp [WebhookEvent.isSettled, WebhookEvent.settlement, WebhookEvent.withObjectId]

end AdyenWebhook

/-- Items that pass with one signature agree on every field of the signing string exactly when
no colon moves from one field to another. -/
theorem verifyItemHmac_covers_iff (webhook : AdyenWebhook) {item item' : NotificationRequestItem}
    (passes : webhook.verifyItemHmac item = .ok ())
    (passes' : webhook.verifyItemHmac item' = .ok ())
    (sameSignature : item.additionalData.hmacSignature = item'.additionalData.hmacSignature)
    (collisionFree : webhook.hmacSha256 webhook.hmacKey (asBytes item.signingString) =
        webhook.hmacSha256 webhook.hmacKey (asBytes item'.signingString) →
      asBytes item.signingString = asBytes item'.signingString) :
    item.Agrees item' ↔ item.SameColons item' := by
  have digest := webhook.verifyItemHmac_ok passes
  have digest' := webhook.verifyItemHmac_ok passes'
  rw [← sameSignature, digest, Option.some.injEq] at digest'
  exact NotificationRequestItem.agrees_iff_sameColons (asBytes_injective (collisionFree digest'))

namespace Sample

def hmacKey : List UInt8 := asBytes "test-adyen-hmac-key-32-bytes!!!!"

def signature : String := "ol3vMxyorAllZqUQ8KcqrLdXBhBj2lIhXEPaNvrWdVY="

def digest : List UInt8 :=
  (Codec.hexDecode "a25def331ca8ac096566a510f0a72aacb757061063da52215c43da36fad67556").getD []

/-- An item of the order `::order-B`, as it is sent. -/
def genuineItem : NotificationRequestItem :=
  ⟨⟨signature⟩, ⟨5000, "EUR"⟩, "AUTHORISATION", "::order-B", "", "8835551234567890", "true"⟩

/-- The same text with the order's colons in the reference before it. -/
def resplitItem : NotificationRequestItem :=
  { genuineItem with merchantReference := "order-B", pspReference := "8835551234567890::" }

/-- A webhook that knows the digest and the signature of that text. -/
def shopWebhook : AdyenWebhook where
  hmacKey := hmacKey
  hmacSha256 := fun key text =>
    if key = hmacKey ∧ text = asBytes genuineItem.signingString then digest else []
  base64Decode := fun text => if text = signature then some digest else none
  envelopeFromSlice := fun _ => .error "expected value"

theorem genuine_passes : shopWebhook.verifyItemHmac genuineItem = .ok () := by decide

theorem resplit_passes : shopWebhook.verifyItemHmac resplitItem = .ok () := by decide

theorem same_text : genuineItem.signingString = resplitItem.signingString := by decide

end Sample

theorem verifyItemHmac_covers_iff_resplit :
    Sample.genuineItem.Agrees Sample.resplitItem ↔
      Sample.genuineItem.SameColons Sample.resplitItem :=
  verifyItemHmac_covers_iff Sample.shopWebhook Sample.genuine_passes Sample.resplit_passes rfl
    fun _ => congrArg asBytes Sample.same_text

/-- An item of one order passes as an item of another. -/
theorem resplit_item_passes :
    ¬ ∀ (webhook : AdyenWebhook) (item item' : NotificationRequestItem),
      webhook.verifyItemHmac item = .ok () → webhook.verifyItemHmac item' = .ok () →
      item.additionalData.hmacSignature = item'.additionalData.hmacSignature →
      (webhook.hmacSha256 webhook.hmacKey (asBytes item.signingString) =
          webhook.hmacSha256 webhook.hmacKey (asBytes item'.signingString) →
        asBytes item.signingString = asBytes item'.signingString) →
      item.Agrees item' := by
  intro claim
  have agrees := claim Sample.shopWebhook _ _ Sample.genuine_passes Sample.resplit_passes rfl
    fun _ => congrArg asBytes Sample.same_text
  exact absurd agrees.merchantReference (by decide)

end Patala.Fiat.Adyen
