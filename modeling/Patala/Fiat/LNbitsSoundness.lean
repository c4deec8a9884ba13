import Patala.Fiat.LNbits

/-! What the LNbits verifier's yes is worth. It compares the receipt with its own proof, which
nobody signs, and asks LNbits about nothing but whether the invoice is paid. -/

namespace Patala.Fiat.LNbits

namespace LNbitsRail

variable (rail : LNbitsRail)

/-- The request that asks about an invoice. -/
def lookup (paymentHash : String) : Request :=
  rail.jsonRequest .get (paymentPath paymentHash) none

/-- A reply that says that the invoice it was asked about is paid. -/
def SaysPaid (reply : Reply) : Prop :=
  ∃ status, reply.decoded rail.statusFromSlice = some status ∧ status.paid

theorem verify_true {receipt : Receipt} {transcript : List (Request × Reply)} :
    (rail.verify receipt).Yields transcript (.ok true) ↔ receipt.railId = railId ∧
      ∃ proof, rail.proofFromSlice receipt.proof = .ok proof ∧
        eqIgnoreAsciiCase proof.currency receipt.currency ∧
        receipt.amountMinor ≤ proof.amountMinor ∧
        safePathSegment proof.paymentHash = .ok proof.paymentHash ∧
        ∃ reply, transcript = [(rail.lookup proof.paymentHash, reply)] ∧ rail.SaysPaid reply := by
  unfold verify
  by_cases own : receipt.railId = railId
  · cases decoded : rail.proofFromSlice receipt.proof with
    | error => simp [own]
    | ok proof =>
      by_cases currency : eqIgnoreAsciiCase proof.currency receipt.currency
      · by_cases short : proof.amountMinor < receipt.amountMinor
        · simp [own, currency, short, UInt64.not_le]
        · have enough := UInt64.not_lt.mp short
          cases safe : safePathSegment proof.paymentHash with
          | error => simp [own, currency, short, safe]
          | ok paymentHash =>
            have same := safePathSegment_ok safe
            subst same
            simp only [own, ne_eq, not_true_eq_false, ↓reduceIte, currency, Bool.not_true,
              Bool.false_eq_true, short, safe, Dialogue.lift_ok_bind, getPayment, fetch_true,
              verifyPaidWinsOverExpiry, Bool.if_true_left, Bool.or_false, Bool.decide_eq_true,
              true_and, Except.ok.injEq, exists_eq_left', enough]
            constructor
            · rintro ⟨reply, status, asked, decoded, paid⟩
              exact ⟨reply, asked, status, decoded, paid⟩
            · rintro ⟨reply, asked, status, decoded, paid⟩
              exact ⟨reply, status, asked, decoded, paid⟩
      · simp [own, currency]
  · simp [own]

/-- A charge that succeeds creates one invoice, and its receipt's proof names it. -/
theorem charge_ok {now : UInt64} {req : PayRequest} {receipt : Receipt}
    {transcript : List (Request × Reply)}
    (run : (rail.charge now req).Yields transcript (.ok receipt)) :
    ∃ amount reply created,
      transcript = [(rail.jsonRequest .post "/api/v1/payments"
        (some (rail.chargeBody req (toAsciiUppercase (trim req.currency)) amount)), reply)] ∧
      reply.decoded rail.createFromSlice = some created ∧
      receipt.proof = rail.proofToBytes ⟨created.paymentHash, created.paymentRequest,
        req.amountMinor, toAsciiUppercase (trim req.currency), now⟩ := by
  unfold charge at run
  obtain ⟨_, -, checking⟩ := Dialogue.yields_lift_bind_ok.mp run
  obtain ⟨_, -, printing⟩ := Dialogue.yields_lift_bind_ok.mp checking
  obtain ⟨_, -, floating⟩ := Dialogue.yields_lift_bind_ok.mp printing
  obtain ⟨amount, -, creating⟩ := Dialogue.yields_lift_bind_ok.mp floating
  rw [fetch_eq_once] at creating
  obtain ⟨reply, created, later, same, read, insisting⟩ := Dialogue.yields_once_bind_ok.mp creating
  obtain ⟨_, -, written⟩ := Dialogue.yields_lift_bind_ok.mp insisting
  obtain ⟨nothing, ended⟩ := Dialogue.yields_pure.mp written
  subst nothing
  exact ⟨amount, reply, created, same, Reply.read_eq_ok.mp read, by cases ended; rfl⟩

/-- A charge that went through. -/
structure Charged where
  now : UInt64
  req : PayRequest
  transcript : List (Request × Reply)
  receipt : Receipt
  run : (rail.charge now req).Yields transcript (.ok receipt)

variable {rail} in
/-- The invoice that LNbits answered a charge with. -/
def Charged.invoice (charged : rail.Charged) : Option CreatePaymentResponse :=
  charged.transcript.head?.bind fun entry => entry.2.decoded rail.createFromSlice

variable {rail} in
/-- The charge created the invoice of a payment hash, for no less than an amount of a
currency. -/
structure Charged.Backs (charged : rail.Charged) (paymentHash currency : String)
    (amount : UInt64) : Prop where
  created : charged.invoice.map CreatePaymentResponse.paymentHash = some paymentHash
  amount : amount ≤ charged.req.amountMinor
  currency : eqIgnoreAsciiCase (trim charged.req.currency) currency

/-- Every receipt that carries the proof and verifies is for an invoice that is paid and that
a charge created for the receipt's currency and no less than its amount. -/
def SoundProof (charges : List rail.Charged) (bytes : List UInt8) : Prop :=
  ∀ receipt transcript, receipt.proof = bytes →
    (rail.verify receipt).Yields transcript (.ok true) →
      ∃ proof reply, rail.proofFromSlice bytes = .ok proof ∧
        transcript = [(rail.lookup proof.paymentHash, reply)] ∧ rail.SaysPaid reply ∧
        ∃ charged ∈ charges,
          charged.Backs proof.paymentHash receipt.currency receipt.amountMinor

/-- The proof names an invoice that can be looked up and found paid. -/
def Payable (proof : ChargeProof) : Prop :=
  safePathSegment proof.paymentHash = .ok proof.paymentHash ∧ ∃ reply, rail.SaysPaid reply

/-- The proof says no more of its invoice than a charge that created it. -/
def Honest (charges : List rail.Charged) (proof : ChargeProof) : Prop :=
  ∃ charged ∈ charges, charged.Backs proof.paymentHash proof.currency proof.amountMinor

/-- What is edited into a proof is believed: its receipts are sound exactly when it says no
more than a charge that created its invoice. -/
theorem soundProof_iff (charges : List rail.Charged) (bytes : List UInt8) :
    rail.SoundProof charges bytes ↔ ∀ proof, rail.proofFromSlice bytes = .ok proof →
      rail.Payable proof → rail.Honest charges proof := by
  constructor
  · intro sound proof decoded ⟨safe, reply, paid⟩
    -- The receipt that claims everything the proof says.
    let receipt : Receipt := ⟨railId, proof.amountMinor, proof.currency, ⟨"", by decide⟩, bytes, 0⟩
    have accepted : (rail.verify receipt).Yields [(rail.lookup proof.paymentHash, reply)]
        (.ok true) :=
      rail.verify_true.mpr ⟨rfl, proof, decoded, by simp [receipt, eqIgnoreAsciiCase],
        UInt64.le_refl _, safe, reply, rfl, paid⟩
    obtain ⟨proof', _, decoded', -, -, charged, member, backs⟩ := sound receipt _ rfl accepted
    cases decoded.symm.trans decoded'
    exact ⟨charged, member, backs⟩
  · intro honest receipt transcript carries run
    subst carries
    obtain ⟨-, proof, decoded, currency, amount, safe, reply, asked, paid⟩ :=
      rail.verify_true.mp run
    obtain ⟨charged, member, backs⟩ := honest proof decoded ⟨safe, reply, paid⟩
    have sameCurrency : eqIgnoreAsciiCase (trim charged.req.currency) receipt.currency := by
      have own := of_decide_eq_true backs.currency
      have claimed := of_decide_eq_true currency
      exact decide_eq_true (own.trans claimed)
    exact ⟨proof, reply, decoded, asked, paid, charged, member, backs.created,
      UInt64.le_trans amount backs.amount, sameCurrency⟩

/-- Where a written proof reads back, the proof a charge wrote is sound. -/
theorem soundProof_of_charged {charges : List rail.Charged} {charged : rail.Charged}
    (member : charged ∈ charges)
    (roundTrip : ∀ proof, rail.proofFromSlice (rail.proofToBytes proof) = .ok proof) :
    rail.SoundProof charges charged.receipt.proof := by
  obtain ⟨amount, reply, created, asked, decoded, written⟩ := rail.charge_ok charged.run
  rw [soundProof_iff, written]
  intro proof read _
  rw [roundTrip] at read
  cases read
  refine ⟨charged, member, ?_, UInt64.le_refl _, ?_⟩
  · rw [Charged.invoice, asked, List.head?_cons, Option.bind_some, decoded, Option.map_some]
  · exact decide_eq_true (toAsciiLowercase_toAsciiUppercase _).symm

end LNbitsRail

namespace Sample

/-- The JSON of a proof whose texts need no escapes. -/
def proofJson (proof : ChargeProof) : List UInt8 :=
  asBytes ("\x7b\"payment_hash\":\"" ++ proof.paymentHash ++ "\",\"payment_request\":\"" ++
    proof.paymentRequest ++ "\",\"amount_minor\":" ++ toString proof.amountMinor.toNat ++
    ",\"currency\":\"" ++ proof.currency ++ "\",\"created_at_unix\":" ++
    toString proof.createdAtUnix.toNat ++ "\x7d")

/-- What the charge of one dollar writes, and the same with a thousand dollars put in. -/
def chargedProof : ChargeProof := ⟨"a1b2", "lnbc1", 100, "USD", 1700000000⟩

def editedProof : ChargeProof := { chargedProof with amountMinor := 100000 }

def createdBody : List UInt8 :=
  asBytes "\x7b\"payment_hash\":\"a1b2\",\"payment_request\":\"lnbc1\"\x7d"

def paidBody : List UInt8 := asBytes "\x7b\"paid\":true\x7d"

def shopLNbits : LNbitsRail where
  baseUrl := "https://lnbits.example"
  apiKey := "inkey"
  webhookUrl := none
  webhookSecret := ""
  quoteTtlSecs := 600
  currencies := ["USD"]
  jsonFloat := fun text => if text = "1.00" then some "1.0" else none
  proofToBytes := proofJson
  proofFromSlice := fun bytes =>
    if bytes = proofJson chargedProof then .ok chargedProof
    else if bytes = proofJson editedProof then .ok editedProof
    else .error "expected value"
  createFromSlice := fun bytes =>
    if bytes = createdBody then .ok ⟨"a1b2", "lnbc1"⟩ else .error "expected value"
  statusFromSlice := fun bytes =>
    if bytes = paidBody then .ok ⟨true⟩ else .error "expected value"
  errorFromSlice := fun _ => .error "expected value"

def dollarRequest : PayRequest :=
  ⟨100, "USD", ⟨"unused", by decide⟩, ⟨"order-A", by decide⟩⟩

/-- The receipt with a thousand dollars in it and in its proof. -/
def editedReceipt : Receipt :=
  ⟨"lnbits", 100000, "USD", ⟨"order-A", by decide⟩, proofJson editedProof, 0⟩

end Sample

/-- A paid invoice of one dollar verifies a receipt of a thousand. -/
theorem edited_amount_verifies :
    ¬ ∀ (rail : LNbitsRail) (charges : List rail.Charged) (bytes : List UInt8),
      rail.SoundProof charges bytes := by
  intro claim
  have charging : ((Sample.shopLNbits.charge 1700000000 Sample.dollarRequest).replay
      [.answered 200 Sample.createdBody]).bind Except.toOption =
        some ⟨"lnbits", 0, "USD", Sample.dollarRequest.reference,
          Sample.proofJson Sample.chargedProof, 0⟩ := by
    decide
  have verifying : ((Sample.shopLNbits.verify Sample.editedReceipt).replay
      [.answered 200 Sample.paidBody]).bind Except.toOption = some true := by
    decide
  obtain ⟨charge, -, run⟩ := Dialogue.exists_yields_of_replay charging
  obtain ⟨transcript, -, accepted⟩ := Dialogue.exists_yields_of_replay verifying
  obtain ⟨_, _, -, -, -, charged, member, backs⟩ :=
    claim Sample.shopLNbits [⟨1700000000, Sample.dollarRequest, charge, _, run⟩] _
      Sample.editedReceipt transcript rfl accepted
  cases List.mem_singleton.mp member
  exact absurd backs.amount (show ¬ (100000 : UInt64) ≤ 100 by decide)

end Patala.Fiat.LNbits
