import Patala.Fiat.Midtrans
import Patala.Fiat.MollieWebhook
import Patala.Fiat.Numeral
import Patala.Fiat.PayU
import Patala.Lib.Joined

/-! What one credential vouches for. PayU and Midtrans hash some of the fields they report, run
together, and Mollie reports the id it was sent, so that a credential may vouch for two events. -/

namespace Patala.Fiat

namespace PayU

/-- The callbacks report the same under one hash: the id that is not hashed is the same, no bar
moves into or out of the transaction's id, and none into the status. -/
structure Callback.SameReport (callback callback' : Callback) : Prop where
  mihpayid : callback.mihpayid = callback'.mihpayid
  txnid : Joined.occurrences '|' callback.txnid = Joined.occurrences '|' callback'.txnid
  success : callback.status = "success" → Joined.occurrences '|' callback'.status = 0
  success' : callback'.status = "success" → Joined.occurrences '|' callback.status = 0

/-- The hashed text between salt and key, as the status, the middle, the amount and the id. -/
theorem responseText_toList (rail : PayURail) (callback : Callback) : ∃ middle : List Char,
    (rail.responseText callback).toList = rail.salt.toList ++ '|' ::
      (((callback.status.toList ++ '|' :: middle) ++ '|' :: callback.amount.toList) ++
        '|' :: callback.txnid.toList) ++ '|' :: rail.merchantKey.toList := by
  refine ⟨['|', '|', '|', '|', '|'] ++ callback.email.toList ++ '|' :: callback.firstname.toList ++
    '|' :: callback.productinfo.toList, ?_⟩
  simp [PayURail.responseText]

/-- Accepted callbacks of one hash come to one event exactly when they report the same. -/
theorem events_eq_iff (rail : PayURail) {callback callback' : Callback}
    {amountMinor amountMinor' : UInt64}
    (hashed : rail.responseText callback = rail.responseText callback')
    (worth : majorStringToMinor callback.amount "INR" = .ok amountMinor)
    (worth' : majorStringToMinor callback'.amount "INR" = .ok amountMinor') :
    WebhookEvent.settlement railId callback.mihpayid callback.txnid (callback.status = "success")
        amountMinor "INR" =
      WebhookEvent.settlement railId callback'.mihpayid callback'.txnid
        (callback'.status = "success") amountMinor' "INR" ↔ callback.SameReport callback' := by
  obtain ⟨middle, text⟩ := responseText_toList rail callback
  obtain ⟨middle', text'⟩ := responseText_toList rail callback'
  rw [hashed] at text
  have keyed := List.append_cancel_right (text.symm.trans text')
  have same := (List.cons.inj (List.append_cancel_left keyed)).2
  have bar : ∀ {text : String} {amount : UInt64}, majorStringToMinor text "INR" = .ok amount →
      text.toList.count '|' = 0 := fun read =>
    List.count_eq_zero.mpr (not_mem_of_majorStringToMinor read (by decide) (by decide) (by decide))
  rw [WebhookEvent.settlement_eq_iff]
  constructor
  · rintro ⟨mihpayid, txnid, settled, -⟩
    have agree : callback.status = "success" ↔ callback'.status = "success" := by
      simpa using settled
    refine ⟨mihpayid, by rw [txnid], fun success => ?_, fun success => ?_⟩
    · rw [agree.mp success]
      decide
    · rw [agree.mpr success]
      decide
  · intro report
    obtain ⟨paid, txnid⟩ := Joined.append_cons_inj_right same report.txnid
    obtain ⟨fronts, amount⟩ :=
      Joined.append_cons_inj_right paid ((bar worth).trans (bar worth').symm)
    rw [String.toList_inj.mp amount, worth', Except.ok.injEq] at worth
    have settled : callback.status = "success" ↔ callback'.status = "success" := by
      have plain : Joined.occurrences '|' "success" = 0 := by decide
      constructor
      · intro success
        have counts := report.success success
        rw [success] at fronts
        exact (String.toList_inj.mp
          (Joined.append_cons_inj fronts (plain.trans counts.symm)).1).symm
      · intro success
        have counts := report.success' success
        rw [success] at fronts
        exact String.toList_inj.mp (Joined.append_cons_inj fronts (counts.trans plain.symm)).1
    exact ⟨report.mihpayid, String.toList_inj.mp txnid, decide_eq_decide.mpr settled,
      fun _ => ⟨worth.symm, rfl⟩⟩

end PayU

namespace Midtrans

/-- The notifications report the same under one signature: what is not hashed is the same as far
as it is reported, and of the hashed run no character moves between the order's id and the status
code, and only zeros and blanks into the amount. -/
structure MidtransTransactionStatus.SameReport (s s' : MidtransTransactionStatus) : Prop where
  transactionId : s.transactionId = s'.transactionId
  order : s.orderId.length = s'.orderId.length
  settling : s.Settling ↔ s'.Settling
  currency : s.Settling → s.currencyOrIdr = s'.currencyOrIdr
  amount : s.Settling → numeral s.grossAmount = numeral s'.grossAmount

/-- Two amounts behind one run of characters are the same when their texts are, but for zeros
and blanks in front. -/
theorem amounts_eq_iff {code gross code' gross' currency : String} {amount amount' : UInt64}
    (same : code ++ gross = code' ++ gross') (worth : majorStringToMinor gross currency = .ok amount)
    (worth' : majorStringToMinor gross' currency = .ok amount') (positive : amount ≠ 0)
    (positive' : amount' ≠ 0) : amount = amount' ↔ numeral gross = numeral gross' := by
  have lists := congrArg String.toList same
  rw [String.toList_append, String.toList_append, List.append_eq_append_iff] at lists
  have rebuild : ∀ {front : List Char} {a b : String}, a.toList = front ++ b.toList →
      a = String.ofList front ++ b := by
    intro front a b joined
    apply String.toList_inj.mp
    rw [joined, String.toList_append, String.toList_ofList]
  rcases lists with ⟨front, -, rest⟩ | ⟨front, -, rest⟩
  · rw [rebuild rest] at worth ⊢
    exact majorStringToMinor_append_iff worth worth' positive'
  · rw [rebuild rest] at worth' ⊢
    rw [eq_comm, majorStringToMinor_append_iff worth' worth positive, eq_comm]

theorem events_eq_iff (rail : MidtransRail) {s s' : MidtransTransactionStatus}
    {amountMinor amountMinor' : UInt64} (hashed : rail.signedText s = rail.signedText s')
    (worth : majorStringToMinor s.grossAmount s.currencyOrIdr = .ok amountMinor)
    (worth' : majorStringToMinor s'.grossAmount s'.currencyOrIdr = .ok amountMinor')
    (positive : s.Settling → amountMinor ≠ 0) (positive' : s'.Settling → amountMinor' ≠ 0) :
    WebhookEvent.settlement railId s.transactionId s.orderId s.Settling amountMinor
        s.currencyOrIdr =
      WebhookEvent.settlement railId s'.transactionId s'.orderId s'.Settling amountMinor'
        s'.currencyOrIdr ↔ s.SameReport s' := by
  have texts : s.orderId ++ (s.statusCode ++ s.grossAmount) =
      s'.orderId ++ (s'.statusCode ++ s'.grossAmount) := by
    apply asBytes_injective
    simp only [asBytes_append, ← List.append_assoc]
    exact List.append_cancel_right hashed
  have lists : s.orderId.toList ++ (s.statusCode ++ s.grossAmount).toList =
      s'.orderId.toList ++ (s'.statusCode ++ s'.grossAmount).toList := by
    rw [← String.toList_append, ← String.toList_append, texts]
  rw [WebhookEvent.settlement_eq_iff, decide_eq_decide, decide_eq_true_eq]
  constructor
  · rintro ⟨transactionId, order, settling, money⟩
    rw [order, List.append_cancel_left_eq] at lists
    refine ⟨transactionId, by rw [order], settling, fun own => (money own).2, fun own => ?_⟩
    rw [← (money own).2] at worth'
    exact (amounts_eq_iff (String.toList_inj.mp lists) worth worth' (positive own)
      (positive' (settling.mp own))).mp (money own).1
  · intro report
    have lengths : s.orderId.toList.length = s'.orderId.toList.length := by
      rw [String.length_toList, String.length_toList, report.order]
    obtain ⟨order, rest⟩ := List.append_inj lists lengths
    refine ⟨report.transactionId, String.toList_inj.mp order, report.settling, fun own => ?_⟩
    rw [← report.currency own] at worth'
    refine ⟨?_, report.currency own⟩
    exact (amounts_eq_iff (String.toList_inj.mp rest) worth worth' (positive own)
      (positive' (report.settling.mp own))).mpr (report.amount own)

end Midtrans

namespace Mollie

/-- Ids that fetch one payment come to one event only when they are the same. -/
theorem events_eq_iff {paymentId paymentId' : String} {outcome : Outcome} :
    eventOf paymentId outcome = eventOf paymentId' outcome ↔ paymentId = paymentId' := by
  constructor
  · intro same
    exact congrArg WebhookEvent.eventId same
  · intro same
    rw [same]

end Mollie

/-- What a delivery is believed for. -/
inductive Credential where
  | hash (value : String)
  | signatureKey (value : String)
  | payment (payload : Mollie.PaymentPayload)

/-- The rails whose webhooks are vouched for by a hash in the body or by a payment that is
fetched. -/
inductive VouchedRail where
  | payu (rail : PayU.PayURail)
  | midtrans (rail : Midtrans.MidtransRail)
  | mollie (rail : Mollie.MollieRail) (utf8Error : List UInt8 → String)

namespace VouchedRail

/-- The rail accepts a delivery as an event because of a credential. -/
def Accepts (delivery : WebhookDelivery) (credential : Credential) (event : WebhookEvent) :
    VouchedRail → Prop
  | payu rail => rail.verifyWebhook delivery = .ok event ∧
      credential = .hash (rail.callback delivery).hash
  | midtrans rail => rail.verifyWebhook delivery = .ok event ∧
      ∃ s, rail.statusFromSlice delivery.rawBody = .ok s ∧ credential = .signatureKey s.signatureKey
  | mollie rail utf8Error => ∃ question reply payload,
      (rail.verifyWebhook utf8Error delivery).Yields [(question, reply)] (.ok event) ∧
      reply.decoded rail.paymentFromSlice = some payload ∧ credential = .payment payload

/-- The texts hashed for the deliveries differ in their hashes if they differ. -/
def CollisionFree (delivery delivery' : WebhookDelivery) : VouchedRail → Prop
  | payu rail =>
    let text := fun delivery => asBytes (rail.responseText (rail.callback delivery))
    rail.sha512 (text delivery) = rail.sha512 (text delivery') → text delivery = text delivery'
  | midtrans rail => ∀ s s', rail.statusFromSlice delivery.rawBody = .ok s →
      rail.statusFromSlice delivery'.rawBody = .ok s' →
      rail.sha512 (rail.signedText s) = rail.sha512 (rail.signedText s') →
        rail.signedText s = rail.signedText s'
  | mollie _ _ => True

/-- The deliveries report the same where one credential vouches for both. -/
def SameReport (delivery delivery' : WebhookDelivery) : VouchedRail → Prop
  | payu rail => (rail.callback delivery).SameReport (rail.callback delivery')
  | midtrans rail => ∀ s s', rail.statusFromSlice delivery.rawBody = .ok s →
      rail.statusFromSlice delivery'.rawBody = .ok s' → s.SameReport s'
  | mollie _ utf8Error => Mollie.extractPaymentId utf8Error delivery.rawBody =
      Mollie.extractPaymentId utf8Error delivery'.rawBody

end VouchedRail

theorem hexEncode_injective : Function.Injective Codec.hexEncode := by
  intro a b same
  have read := Codec.hexDecode_hexEncode a
  rw [same, Codec.hexDecode_hexEncode] at read
  exact (Option.some.inj read).symm

/-- Deliveries accepted for one credential come to the same event exactly when what is not
vouched for in them is the same. -/
theorem vouched_events_eq_iff (rail : VouchedRail) {delivery delivery' : WebhookDelivery}
    {credential : Credential} {event event' : WebhookEvent}
    (accepted : rail.Accepts delivery credential event)
    (accepted' : rail.Accepts delivery' credential event')
    (collisionFree : rail.CollisionFree delivery delivery') :
    event = event' ↔ rail.SameReport delivery delivery' := by
  cases rail with
  | payu rail =>
    obtain ⟨verified, vouched⟩ := accepted
    obtain ⟨verified', vouched'⟩ := accepted'
    obtain ⟨signed, _, worth, said⟩ := rail.verifyWebhook_ok verified
    obtain ⟨signed', _, worth', said'⟩ := rail.verifyWebhook_ok verified'
    have hashes := Credential.hash.inj (vouched.symm.trans vouched')
    rw [signed, signed'] at hashes
    have texts := collisionFree (hexEncode_injective hashes)
    rw [said, said']
    exact PayU.events_eq_iff rail (asBytes_injective texts) worth worth'
  | midtrans rail =>
    obtain ⟨verified, s, read, vouched⟩ := accepted
    obtain ⟨verified', s', read', vouched'⟩ := accepted'
    obtain ⟨t, _, decoded, signed, worth, positive, said⟩ := rail.verifyWebhook_ok verified
    obtain ⟨t', _, decoded', signed', worth', positive', said'⟩ := rail.verifyWebhook_ok verified'
    cases read.symm.trans decoded
    cases read'.symm.trans decoded'
    have keys := Credential.signatureKey.inj (vouched.symm.trans vouched')
    have texts := collisionFree s s' read read'
      (hexEncode_injective (signed.trans ((congrArg toAsciiLowercase keys).trans signed'.symm)))
    rw [said, said', Midtrans.events_eq_iff rail texts worth worth' positive positive']
    constructor
    · intro report t t' decoded decoded'
      cases read.symm.trans decoded
      cases read'.symm.trans decoded'
      exact report
    · intro report
      exact report s s' read read'
  | mollie rail utf8Error =>
    obtain ⟨question, reply, payload, run, fetched, vouched⟩ := accepted
    obtain ⟨question', reply', payload', run', fetched', vouched'⟩ := accepted'
    cases Credential.payment.inj (vouched.symm.trans vouched')
    obtain ⟨paymentId, _, _, _, outcome, named, -, asked, decoded, read, said⟩ :=
      (rail.verifyWebhook_ok utf8Error).mp run
    obtain ⟨paymentId', _, _, _, outcome', named', -, asked', decoded', read', said'⟩ :=
      (rail.verifyWebhook_ok utf8Error).mp run'
    cases asked
    cases asked'
    cases fetched.symm.trans decoded
    cases fetched'.symm.trans decoded'
    cases read.symm.trans read'
    rw [said, said', Mollie.events_eq_iff]
    show _ ↔ Mollie.extractPaymentId utf8Error delivery.rawBody =
      Mollie.extractPaymentId utf8Error delivery'.rawBody
    rw [named, named', Except.ok.injEq]

namespace Sample

/-- The hash of a settled callback of the order `100.00|order-B`. -/
def callbackHash : String :=
  "c5945f2557643a66e8cfcf3bd0e252dd66f983caf173a59f3395c747216b2afb" ++
    "36dca1f969924e247de5d23e8b35d97ae41d3fa7a2a80755d9ddd0498ed26fe8"

def callbackText : String :=
  "eCwWELxi|success||||||a@b.example|Customer|Order 100.00|orde" ++
    "r-B|100.00|100.00|order-B|gtKFFx"

/-- A rail that knows that hash. -/
def shopPayU : PayU.PayURail where
  merchantKey := "gtKFFx"
  salt := "eCwWELxi"
  baseUrl := PayU.payuVerifyUrl
  sha512 := fun text =>
    if text = asBytes callbackText then (Codec.hexDecode callbackHash).getD [] else []
  formSerialize := fun _ => ""
  formParse := fun bytes => ((fromUtf8 bytes).map Mollie.formParse).getD []
  proofToBytes := fun _ => []
  verifyFromSlice := fun _ => .error "expected value"

/-- The callback with these fields under that hash. -/
def callbackDelivery (productinfo txnid : String) : WebhookDelivery :=
  .new (asBytes ("mihpayid=403993715521&status=success&txnid=" ++ txnid ++
    "&amount=100.00&productinfo=" ++ productinfo ++
    "&firstname=Customer&email=a%40b.example&hash=" ++ callbackHash)) 1700000000

/-- The callback as PayU sends it. -/
def genuineCallback : WebhookDelivery :=
  callbackDelivery "Order+100.00%7Corder-B" "100.00%7Corder-B"

/-- The same run of characters with the order's first part in the product's description. -/
def resplitCallback : WebhookDelivery := callbackDelivery "Order+100.00%7Corder-B%7C100.00" "order-B"

def callbackEvent (reference : String) : WebhookEvent :=
  .settlement "payu" "403993715521" reference true 10000 "INR"

/-- The fields of a callback under that hash. -/
def callback (productinfo txnid : String) : PayU.Callback where
  hash := callbackHash
  status := "success"
  txnid := txnid
  amount := "100.00"
  productinfo := productinfo
  firstname := "Customer"
  email := "a@b.example"
  mihpayid := "403993715521"

theorem callback_of_form {form productinfo txnid : String} {chars : List Char}
    (spelled : form = String.ofList chars)
    (parsed : (((chars.splitOn '&').filter (· ≠ [])).map fun pair =>
        (Mollie.percentDecode (String.ofList (pair.takeWhile (· ≠ '='))),
          Mollie.percentDecode (String.ofList ((pair.dropWhile (· ≠ '=')).drop 1)))) =
      [("mihpayid", "403993715521"), ("status", "success"), ("txnid", txnid),
        ("amount", "100.00"), ("productinfo", productinfo), ("firstname", "Customer"),
        ("email", "a@b.example"), ("hash", callbackHash)]) :
    shopPayU.callback (.new (asBytes form) 1700000000) = callback productinfo txnid := by
  show PayU.Callback.ofPairs (((fromUtf8 (asBytes form)).map Mollie.formParse).getD []) = _
  rw [fromUtf8_asBytes, Option.map_some, Option.getD_some, Mollie.formParse,
    rawPairs_of_chars spelled, List.map_map]
  refine (congrArg PayU.Callback.ofPairs parsed).trans ?_
  simp [PayU.Callback.ofPairs, lastValue, callback]

theorem callbacks_read :
    shopPayU.callback genuineCallback = callback "Order 100.00|order-B" "100.00|order-B" ∧
    shopPayU.callback resplitCallback = callback "Order 100.00|order-B|100.00" "order-B" := by
  constructor
  · exact callback_of_form (Codec.append_of_chars (Codec.append_of_chars (Codec.append_of_chars
      (Codec.append_of_chars (Codec.append_of_chars rfl rfl) rfl) rfl) rfl)
      (Codec.append_of_chars rfl rfl)) (by decide +kernel)
  · exact callback_of_form (Codec.append_of_chars (Codec.append_of_chars (Codec.append_of_chars
      (Codec.append_of_chars (Codec.append_of_chars rfl rfl) rfl) rfl) rfl)
      (Codec.append_of_chars rfl rfl)) (by decide +kernel)

/-- A delivery of the callback is accepted if its hash is right. -/
theorem accepted_of_callback {delivery : WebhookDelivery} {productinfo txnid : String}
    (fields : shopPayU.callback delivery = callback productinfo txnid)
    (fits : boundedLenCheck delivery.rawBody defaultMaxBodyBytes = .ok ())
    (checked : shopPayU.parseCallback (callback productinfo txnid) =
      .ok ⟨"403993715521", txnid, true, 10000, "INR"⟩) :
    (VouchedRail.payu shopPayU).Accepts delivery (.hash callbackHash) (callbackEvent txnid) := by
  refine ⟨?_, by rw [fields]; rfl⟩
  rw [← fields] at checked
  have parsed : shopPayU.verifyAndParse delivery.rawBody =
      .ok ⟨"403993715521", txnid, true, 10000, "INR"⟩ := by
    rw [PayU.PayURail.verifyAndParse, fits]
    exact checked
  rw [PayU.PayURail.verifyWebhook, parsed]
  rfl

theorem callbacks_accepted :
    (VouchedRail.payu shopPayU).Accepts genuineCallback (.hash callbackHash)
      (callbackEvent "100.00|order-B") ∧
    (VouchedRail.payu shopPayU).Accepts resplitCallback (.hash callbackHash)
      (callbackEvent "order-B") :=
  ⟨accepted_of_callback callbacks_read.1 (by decide +kernel) (by decide +kernel),
    accepted_of_callback callbacks_read.2 (by decide +kernel) (by decide +kernel)⟩

theorem resplit_collisionFree :
    (VouchedRail.payu shopPayU).CollisionFree genuineCallback resplitCallback := by
  have texts : shopPayU.responseText (shopPayU.callback genuineCallback) =
      shopPayU.responseText (shopPayU.callback resplitCallback) := by
    rw [callbacks_read.1, callbacks_read.2]
    decide
  exact fun _ => congrArg asBytes texts

end Sample

theorem vouched_events_eq_iff_resplit :
    Sample.callbackEvent "100.00|order-B" = Sample.callbackEvent "order-B" ↔
      (VouchedRail.payu Sample.shopPayU).SameReport Sample.genuineCallback
        Sample.resplitCallback :=
  vouched_events_eq_iff _ Sample.callbacks_accepted.1 Sample.callbacks_accepted.2
    Sample.resplit_collisionFree

/-- One hash vouches for the payments of two orders. -/
theorem resplit_callback_settles :
    ¬ ∀ (rail : VouchedRail) (delivery delivery' : WebhookDelivery) (credential : Credential)
        (event event' : WebhookEvent), rail.Accepts delivery credential event →
      rail.Accepts delivery' credential event' → rail.CollisionFree delivery delivery' →
        event = event' := by
  intro claim
  have same := claim _ _ _ _ _ _ Sample.callbacks_accepted.1 Sample.callbacks_accepted.2
    Sample.resplit_collisionFree
  exact absurd same (by decide)

end Patala.Fiat
