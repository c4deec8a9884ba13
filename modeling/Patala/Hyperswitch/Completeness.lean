import Patala.Fiat.Reference
import Patala.Hyperswitch.Rail
import Patala.Lib.Codec

/-! A payment that is created and later settles should verify on the receipt of its charge.
The receipt keeps what had moved when it was created, and `verify` refuses a payment whose
refunds, none included, are no less than that; a settled amount that was left out counts in
full when the receipt is written and as nothing when it is verified. -/

namespace Patala.Hyperswitch

open Fiat

/-- The payment is reported as settled for a request: for its amount, which may be left out of
what was received, in its currency, with no refund that went through. -/
structure PaymentsResponse.Settles (report : PaymentsResponse) (req : PayRequest) : Prop where
  status : report.status = .succeeded
  currency : eqIgnoreAsciiCase report.currency req.currency
  amount : report.amount = req.amountMinor
  received : report.amountReceived = some req.amountMinor ∨ report.amountReceived = none
  refunds : ∀ refund ∈ report.refunds.getD [], refund.status ≠ .succeeded

/-- The created payment had settled already, for an amount above zero that the later report
says was received, in the currency of the report, under a safe id. -/
structure Settled (req : PayRequest) (created report : PaymentsResponse) : Prop where
  safe : ∃ segment, safePathSegment created.paymentId = .ok segment
  currency : created.currency = report.currency
  status : created.status = .succeeded
  positive : 0 < created.amountReceived.getD created.amount
  covered : created.amountReceived.getD created.amount ≤ req.amountMinor
  received : report.amountReceived = some req.amountMinor

namespace HyperswitchRail

variable (rail : HyperswitchRail)

/-- The receipt verifies when its payment is fetched with this reply. -/
def Accepts (reply : Reply) (receipt : Receipt) : Prop :=
  ∃ question, (rail.verify receipt).Yields [(question, reply)] (.ok (some true))

/-- Without refunds there is nothing to add up. -/
theorem sum_refundedAmounts {report : PaymentsResponse} (overflowChecks : Bool)
    (none_settled : ∀ refund ∈ report.refunds.getD [], refund.status ≠ .succeeded) :
    sum overflowChecks report.refundedAmounts = some 0 := by
  have empty : (report.refunds.getD []).filter (·.status = .succeeded) = [] := by
    rw [List.filter_eq_nil_iff]
    intro refund member
    simpa using none_settled refund member
  rw [PaymentsResponse.refundedAmounts, empty]
  rfl

/-- A charge's receipt verifies on a report of its payment by what the report says. -/
theorem accepts_chargeReceipt {now : UInt64} {req : PayRequest} {created report : PaymentsResponse}
    {reply : Reply} (reports : rail.reported reply = some report) :
    rail.Accepts reply (rail.chargeReceipt now req created) ↔
      (∃ segment, safePathSegment created.paymentId = .ok segment) ∧
        rail.judge report (rail.chargeReceipt now req created) = some true := by
  simp only [Accepts, verify_true]
  constructor
  · intro ⟨question, _, proof, segment, decoded, safe, reply', report', same, reports', judged⟩
    rw [chargeReceipt, rail.proof_roundTrip] at decoded
    cases decoded
    cases same
    cases Option.some.inj (reports.symm.trans reports')
    exact ⟨⟨segment, safe⟩, judged⟩
  · intro ⟨⟨segment, safe⟩, judged⟩
    exact ⟨_, rfl, _, segment, rail.proof_roundTrip _, safe, reply, report, rfl, reports, judged⟩

/-- A report that settles the request is judged by the receipt's amount. -/
theorem judge_settles {now : UInt64} {req : PayRequest} {created report : PaymentsResponse}
    (settles : report.Settles req) :
    rail.judge report (rail.chargeReceipt now req created) = some true ↔
      created.currency = report.currency ∧ 0 < created.movedAtCharge ∧
        created.movedAtCharge ≤ req.amountMinor ∧ report.amountReceived = some req.amountMinor := by
  rw [judge_true, sum_refundedAmounts rail.overflowChecks settles.refunds]
  simp only [chargeReceipt, settles.status, true_and, Option.some.injEq, exists_eq_left',
    eq_comm (a := report.currency)]
  refine and_congr_right fun _ => ?_
  rcases settles.received with received | missing
  · simp [received, and_comm]
  · simp only [missing, Option.getD_none]
    refine iff_of_false (fun ⟨nothing, moved⟩ => ?_) (by simp)
    exact absurd moved (UInt64.not_lt.mpr nothing)

end HyperswitchRail

/-- When a charge's payment is reported as settled for the request, the charge's receipt
verifies exactly if the payment had settled when it was created, for no more than what was
received, and the report says what that was. -/
theorem settled_charge_verifies_iff (rail : HyperswitchRail) (now : UInt64) {req : PayRequest}
    {receipt : Receipt} {transcript : List (Request × Reply)}
    (charged : (rail.charge now req).Yields transcript (.ok receipt)) :
    ∃ question answer created, transcript = [(question, answer)] ∧
      rail.reported answer = some created ∧
      ∀ reply report, rail.reported reply = some report → report.Settles req →
        (rail.Accepts reply receipt ↔ Settled req created report) := by
  obtain ⟨answer, created, asked, reports, written⟩ := rail.charge_ok charged
  refine ⟨_, answer, created, asked, reports, fun reply report later settles => ?_⟩
  rw [written, rail.accepts_chargeReceipt later, rail.judge_settles settles]
  unfold PaymentsResponse.movedAtCharge
  by_cases settled : created.status = .succeeded
  · rw [if_pos (IntentStatus.isSettledSuccess_iff.mpr settled)]
    constructor
    · intro ⟨safe, currency, positive, covered, received⟩
      exact ⟨safe, currency, settled, positive, covered, received⟩
    · intro ⟨safe, currency, _, positive, covered, received⟩
      exact ⟨safe, currency, positive, covered, received⟩
  · rw [if_neg (mt IntentStatus.isSettledSuccess_iff.mp settled)]
    refine iff_of_false (fun ⟨_, _, positive, _⟩ => ?_) fun same => settled same.status
    exact absurd positive (UInt64.lt_irrefl 0)

namespace Sample

/-- The JSON of a proof whose texts need no escapes. -/
def proofJson (proof : ChargeProof) : List UInt8 :=
  let redirect := match proof.redirectToUrl with
    | some url => asBytes ",\"redirect_to_url\":\"" ++ (asBytes url ++ asBytes "\"")
    | none => []
  asBytes "\x7b\"payment_id\":\"" ++ (asBytes proof.paymentId ++
    (asBytes "\",\"status_at_charge\":\"" ++ (asBytes proof.statusAtCharge.snakeCase ++
    (asBytes "\"" ++ (redirect ++ asBytes "\x7d")))))

/-- The payment as it is created, waiting for the buyer. -/
def pending : PaymentsResponse :=
  ⟨"pay_pending1", .requiresCustomerAction, 1000, none, "NGN",
    some ⟨some "https://hs.example/redirect/abc"⟩, none⟩

/-- The same payment once the buyer has paid. -/
def paid : PaymentsResponse := ⟨"pay_pending1", .succeeded, 1000, some 1000, "NGN", none, none⟩

def pendingProof : ChargeProof :=
  ⟨"pay_pending1", .requiresCustomerAction, some "https://hs.example/redirect/abc"⟩

def proofTable : List (ChargeProof × List UInt8) := [(pendingProof, proofJson pendingProof)]

instance encodableIntentStatus : Encodable IntentStatus :=
  Encodable.ofLeftInjection IntentStatus.snakeCase IntentStatus.parse IntentStatus.parse_snakeCase

instance encodableChargeProof : Encodable ChargeProof :=
  Encodable.ofLeftInverse
    (fun proof => (proof.paymentId, proof.statusAtCharge, proof.redirectToUrl))
    (fun (paymentId, statusAtCharge, redirectToUrl) => ⟨paymentId, statusAtCharge, redirectToUrl⟩)
    fun _ => rfl

theorem proofTable_valid : Codec.WellFormed Codec.zeroMarking proofTable where
  distinct := by decide
  unmarked := by decide

def pendingBody : List UInt8 := asBytes ("\x7b\"payment_id\":\"pay_pending1\"," ++
  "\"status\":\"requires_customer_action\",\"amount\":1000,\"currency\":\"NGN\"," ++
  "\"next_action\":\x7b\"redirect_to_url\":\"https://hs.example/redirect/abc\"\x7d\x7d")

def paidBody : List UInt8 := asBytes ("\x7b\"payment_id\":\"pay_pending1\"," ++
  "\"status\":\"succeeded\",\"amount\":1000,\"amount_received\":1000,\"currency\":\"NGN\"\x7d")

/-- A rail that reads the payment while it is pending, and once it is paid. -/
def shopHyperswitch : HyperswitchRail where
  baseUrl := "https://hs.example"
  apiKey := "snd_test"
  connector := none
  currencies := ["NGN"]
  overflowChecks := true
  statusText := fun status => toString status.toNat
  utf8Lossy := fun _ => ""
  proofToBytes := Codec.encode Codec.zeroMarking proofTable
  proofFromSlice := fun bytes =>
    match Codec.decode Codec.zeroMarking proofTable bytes with
    | some proof => .ok proof
    | none => .error "expected value"
  proof_roundTrip := fun proof => by rw [Codec.decode_encode proofTable_valid proof]
  refundProofToBytes := fun _ => []
  paymentFromSlice := fun bytes =>
    if bytes = pendingBody then .ok pending
    else if bytes = paidBody then .ok paid
    else .error "expected value"
  refundFromSlice := fun _ => .error "expected value"
  errorFromSlice := fun _ => .error "expected value"

def orderRequest : PayRequest := ⟨1000, "NGN", ⟨"pm_tok_2", by decide⟩, orderA⟩

def orderReceipt : Receipt := shopHyperswitch.chargeReceipt 1700000000 orderRequest pending

theorem order_charged : ∃ transcript, transcript.map Prod.snd = [.answered 200 pendingBody] ∧
    (shopHyperswitch.charge 1700000000 orderRequest).Yields transcript (.ok orderReceipt) := by
  have run : ((shopHyperswitch.charge 1700000000 orderRequest).replay
      [.answered 200 pendingBody]).bind Except.toOption = some orderReceipt := by
    decide +kernel
  exact Dialogue.exists_yields_of_replay run

theorem paid_settles : paid.Settles orderRequest where
  status := rfl
  currency := by simp [paid, orderRequest, eqIgnoreAsciiCase]
  amount := rfl
  received := .inl rfl
  refunds := by simp [paid]

end Sample

/-- The rule on the payment that was pending when its charge returned. -/
theorem settled_charge_verifies_iff_order :
    ∃ created, Sample.shopHyperswitch.Accepts (.answered 200 Sample.paidBody)
      Sample.orderReceipt ↔ Settled Sample.orderRequest created Sample.paid := by
  obtain ⟨transcript, -, charged⟩ := Sample.order_charged
  obtain ⟨question, answer, created, -, -, verdict⟩ :=
    settled_charge_verifies_iff Sample.shopHyperswitch 1700000000 charged
  exact ⟨created, verdict _ _ rfl Sample.paid_settles⟩

/-- A payment that settles after its charge returned does not verify on the charge's receipt. -/
theorem pending_charge_never_verifies :
    ¬ ∀ rail now req receipt transcript,
      (HyperswitchRail.charge rail now req).Yields transcript (.ok receipt) →
      ∀ reply report, rail.reported reply = some report → report.Settles req →
        rail.Accepts reply receipt := by
  intro claim
  obtain ⟨transcript, answers, charged⟩ := Sample.order_charged
  have accepted := claim _ _ _ _ _ charged (.answered 200 Sample.paidBody) Sample.paid rfl Sample.paid_settles
  obtain ⟨-, judged⟩ := (Sample.shopHyperswitch.accepts_chargeReceipt rfl).mp accepted
  have positive := ((Sample.shopHyperswitch.judge_settles Sample.paid_settles).mp judged).2.1
  exact absurd positive (by decide)

end Patala.Hyperswitch
