import Patala.Fiat.Adyen

/-! A delivery of several items: which of them is reported, and whether a settlement among them
is. -/

namespace Patala.Fiat.Adyen

namespace AdyenWebhook

/-- The item verifies and says that a payment settled. -/
structure Settles (webhook : AdyenWebhook) (item : NotificationRequestItem) : Prop where
  verifies : webhook.verifyItemHmac item = .ok ()
  authorisation : item.eventCode = "AUTHORISATION"
  success : item.success = "true"
  positive : item.amount.value ≠ 0
  referenced : item.merchantReference ≠ ""
  named : item.pspReference ≠ ""

variable {webhook : AdyenWebhook} {item : NotificationRequestItem}
  {items : List NotificationRequestItem} {lastErr : AdyenWebhookError} {event : AdyenWebhookEvent}

theorem settles_iff : webhook.Settles item ↔ webhook.Reports item ∧ item.success = "true" := by
  constructor
  · intro settles
    exact ⟨⟨settles.verifies, settles.authorisation, settles.referenced, settles.named,
      fun _ => settles.positive⟩, settles.success⟩
  · intro ⟨reports, success⟩
    exact ⟨reports.verifies, reports.authorisation, success, reports.positive success,
      reports.referenced, reports.named⟩

theorem scanItems_error {e : AdyenWebhookError} (failed : webhook.scanItems lastErr items = .error e)
    (member : item ∈ items) : ¬ webhook.Reports item := by
  have nothing : (webhook.scanItems lastErr items).toOption = none := by
    rw [failed]
    rfl
  rw [toOption_scanItems, List.findSome?_eq_none_iff] at nothing
  exact toOption_parseItem_eq_none.mp (nothing item member)

theorem verifyAndParse_of_item {rawBody : List UInt8} {envelope : NotificationEnvelope}
    (read : webhook.envelopeFromSlice rawBody = .ok envelope)
    (member : item ∈ envelope.notificationItems) : webhook.verifyAndParse rawBody =
      webhook.scanItems (.malformedResponse "no notificationItems produced a settlement result")
        envelope.notificationItems := by
  unfold verifyAndParse
  rw [read]
  exact if_neg (List.ne_nil_of_mem member)

/-- A settlement is reported where there is one, and an error only where nothing reports. -/
def KeepsSettlements (webhook : AdyenWebhook) (rawBody : List UInt8)
    (items : List NotificationRequestItem) : Prop :=
  ((∃ item ∈ items, webhook.Settles item) →
    ∃ item ∈ items, webhook.Settles item ∧ webhook.verifyAndParse rawBody = .ok item.report) ∧
  ∀ e, webhook.verifyAndParse rawBody = .error e → ∀ item ∈ items, ¬ webhook.Reports item

/-- A settled item stands before all others that report anything. -/
def SettledFirst (webhook : AdyenWebhook) (items : List NotificationRequestItem) : Prop :=
  ∃ before item after, items = before ++ item :: after ∧ webhook.Settles item ∧
    ∀ other ∈ before, ¬ webhook.Reports other

end AdyenWebhook

/-- A delivery keeps its settlements exactly when one of them, if there are any, comes before every
failed authorisation. -/
theorem batch_keepsSettlements_iff (webhook : AdyenWebhook) {rawBody : List UInt8}
    {envelope : NotificationEnvelope} (read : webhook.envelopeFromSlice rawBody = .ok envelope) :
    webhook.KeepsSettlements rawBody envelope.notificationItems ↔
      ((∃ item ∈ envelope.notificationItems, webhook.Settles item) →
        webhook.SettledFirst envelope.notificationItems) := by
  constructor
  · intro ⟨kept, _⟩ settling
    obtain ⟨item, member, settles, parsed⟩ := kept settling
    rw [AdyenWebhook.verifyAndParse_of_item read member] at parsed
    obtain ⟨before, first, after, split, ⟨reports, same⟩, silent⟩ :=
      AdyenWebhook.scanItems_ok_iff.mp parsed
    have success : first.success = "true" := by
      have settled := congrArg AdyenWebhookEvent.settled same
      simpa [NotificationRequestItem.report, settles.success] using settled
    exact ⟨before, first, after, split, AdyenWebhook.settles_iff.mpr ⟨reports, success⟩, silent⟩
  · intro ordered
    constructor
    · intro settling
      obtain ⟨before, first, after, split, settles, silent⟩ := ordered settling
      have member : first ∈ envelope.notificationItems := by
        rw [split]
        exact List.mem_append_right before List.mem_cons_self
      refine ⟨first, member, settles, ?_⟩
      rw [AdyenWebhook.verifyAndParse_of_item read member]
      exact AdyenWebhook.scanItems_ok_iff.mpr ⟨before, first, after, split,
        ⟨(AdyenWebhook.settles_iff.mp settles).1, rfl⟩, silent⟩
    · intro e failed item member
      rw [AdyenWebhook.verifyAndParse_of_item read member] at failed
      exact AdyenWebhook.scanItems_error failed member

namespace Retried

/-- The first attempt at an order, which failed. -/
def failedItem : NotificationRequestItem :=
  ⟨⟨"VYz4dlnzgrgqcLIXK6upqHTd077VISYw5pnx4TQ6L6w="⟩, ⟨5000, "EUR"⟩, "AUTHORISATION", "ord_1", "",
    "psp_1", "false"⟩

/-- The second attempt, which settled. -/
def settledItem : NotificationRequestItem :=
  ⟨⟨"E90+6jxTVkfmzL8Gq0Xro+tRSf9nXTuu2xK2beD+5GY="⟩, ⟨5000, "EUR"⟩, "AUTHORISATION", "ord_1", "",
    "psp_2", "true"⟩

def failedDigest : List UInt8 :=
  [85, 140, 248, 118, 89, 243, 130, 184, 42, 112, 178, 23, 43, 171, 169, 168, 116, 221, 211, 190,
    213, 33, 38, 48, 230, 153, 241, 225, 52, 58, 47, 172]

def settledDigest : List UInt8 :=
  [19, 221, 62, 234, 60, 83, 86, 71, 230, 204, 191, 6, 171, 69, 235, 163, 235, 81, 73, 255, 103,
    93, 59, 174, 219, 18, 182, 109, 224, 254, 228, 102]

/-- An item as it is sent. -/
def wrapper (item : NotificationRequestItem) : String :=
  "\x7b\"NotificationRequestItem\":\x7b\"additionalData\":\x7b\"hmacSignature\":\"" ++
    item.additionalData.hmacSignature ++ "\"\x7d,\"amount\":\x7b\"value\":" ++
    toString item.amount.value.toNat ++ ",\"currency\":\"" ++ item.amount.currency ++
    "\"\x7d,\"eventCode\":\"" ++ item.eventCode ++ "\",\"merchantReference\":\"" ++
    item.merchantReference ++ "\",\"pspReference\":\"" ++ item.pspReference ++
    "\",\"success\":\"" ++ item.success ++ "\"\x7d\x7d"

def items : List NotificationRequestItem := [failedItem, settledItem]

/-- Both attempts in one delivery. -/
def rawBody : List UInt8 :=
  asBytes ("\x7b\"live\":\"false\",\"notificationItems\":[" ++
    ",".intercalate (items.map wrapper) ++ "]\x7d")

def batchWebhook : AdyenWebhook where
  hmacKey := Sample.hmacKey
  hmacSha256 key text :=
    if key = Sample.hmacKey ∧ text = asBytes failedItem.signingString then failedDigest
    else if key = Sample.hmacKey ∧ text = asBytes settledItem.signingString then settledDigest
    else List.replicate 32 0
  base64Decode text :=
    if text = failedItem.additionalData.hmacSignature then some failedDigest
    else if text = settledItem.additionalData.hmacSignature then some settledDigest
    else none
  envelopeFromSlice body := if body = rawBody then .ok ⟨items⟩ else .error "expected value"

theorem envelope_read : batchWebhook.envelopeFromSlice rawBody = .ok ⟨items⟩ := by
  simp [batchWebhook]

theorem failed_reports : batchWebhook.Reports failedItem :=
  ⟨by decide, rfl, by decide, by decide, by decide⟩

theorem settled_settles : batchWebhook.Settles settledItem :=
  ⟨by decide, rfl, rfl, by decide, by decide, by decide⟩

end Retried

theorem batch_keepsSettlements_iff_retried :
    Retried.batchWebhook.KeepsSettlements Retried.rawBody Retried.items ↔
      ((∃ item ∈ Retried.items, Retried.batchWebhook.Settles item) →
        Retried.batchWebhook.SettledFirst Retried.items) :=
  batch_keepsSettlements_iff Retried.batchWebhook Retried.envelope_read

/-- A settlement behind a failed attempt is lost. -/
theorem settlement_behind_failure_lost :
    (∃ item ∈ Retried.items, Retried.batchWebhook.Settles item) ∧
      ¬ Retried.batchWebhook.KeepsSettlements Retried.rawBody Retried.items := by
  have settling : ∃ item ∈ Retried.items, Retried.batchWebhook.Settles item :=
    ⟨_, List.mem_cons_of_mem _ List.mem_cons_self, Retried.settled_settles⟩
  refine ⟨settling, fun ⟨kept, _⟩ => ?_⟩
  obtain ⟨item, _, settles, parsed⟩ := kept settling
  rw [AdyenWebhook.verifyAndParse_of_item Retried.envelope_read List.mem_cons_self, Retried.items,
    AdyenWebhook.scanItems, AdyenWebhook.parseItem_of_reports Retried.failed_reports] at parsed
  have settled := congrArg AdyenWebhookEvent.settled (Except.ok.inj parsed)
  simp [NotificationRequestItem.report, settles.success, Retried.failedItem] at settled

end Patala.Fiat.Adyen
