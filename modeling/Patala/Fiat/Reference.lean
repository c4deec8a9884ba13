import Patala.Fiat.BTCPay
import Patala.Fiat.CheckoutCom
import Patala.Fiat.Mollie
import Patala.Fiat.Stripe
import Patala.Json.Stringify

/-! The rails that look a payment up by the id in the receipt's proof. None of them compares
the reference of what it finds with the receipt's, so every settled object that can be looked
up vouches for receipts of any reference. -/

namespace Patala.Fiat

/-- The currency and the amount of what has settled. -/
def Outcome.settlement (outcome : Outcome) : Option (String × UInt64) :=
  if outcome.settled then some (outcome.currency, outcome.amountMinor) else none

theorem Outcome.covers_iff_settlement {outcome : Outcome} {receipt : Receipt} :
    outcome.covers receipt ↔ ∃ currency amount, outcome.settlement = some (currency, amount) ∧
      eqIgnoreAsciiCase currency receipt.currency ∧ receipt.amountMinor ≤ amount := by
  rw [Outcome.covers_iff, Outcome.settlement]
  by_cases settled : outcome.settled
  · simp [settled]
  · simp [settled]

theorem orderA_fits : (asBytes "order-A").length ≤ isizeMax := by decide

theorem orderB_fits : (asBytes "order-B").length ≤ isizeMax := by decide

/-- Two references that differ. -/
def orderA : Str := ⟨"order-A", orderA_fits⟩

def orderB : Str := ⟨"order-B", orderB_fits⟩

theorem orderA_ne_orderB : orderA ≠ orderB := by decide

/-- A verifier that decides by the object its proof names: `asks` is its lookup for a proof,
`settlement` what it reads from a reply, and `reference` the merchant reference `charge` put
on the object in the reply. -/
structure ProofKeyed where
  railId : String
  verify : Receipt → Talk Bool
  asks : List UInt8 → Option Request
  settlement : Reply → Option (String × UInt64)
  reference : Reply → Option String
  verify_true : ∀ receipt transcript, (verify receipt).Yields transcript (.ok true) ↔
    receipt.railId = railId ∧ ∃ question, asks receipt.proof = some question ∧
      ∃ reply currency amount, transcript = [(question, reply)] ∧
        settlement reply = some (currency, amount) ∧
        eqIgnoreAsciiCase currency receipt.currency ∧ receipt.amountMinor ≤ amount

namespace ProofKeyed

variable (rail : ProofKeyed)

/-- The receipt verifies on this reply to this lookup. -/
def Accepts (question : Request) (reply : Reply) (receipt : Receipt) : Prop :=
  (rail.verify receipt).Yields [(question, reply)] (.ok true)

/-- Every receipt an object vouches for carries the object's reference. -/
def BindsReference (question : Request) (reply : Reply) : Prop :=
  ∀ receipt, rail.Accepts question reply receipt →
    rail.reference reply = some receipt.reference.text

/-- An object vouches for receipts of one reference only. -/
def OneOrder (question : Request) (reply : Reply) : Prop :=
  ∀ first second, rail.Accepts question reply first → rail.Accepts question reply second →
    first.reference = second.reference

/-- No proof leads to the question, or its reply is not read as settled. -/
def Vacant (question : Request) (reply : Reply) : Prop :=
  (∀ proof, rail.asks proof ≠ some question) ∨ rail.settlement reply = none

theorem accepts_iff {question : Request} {reply : Reply} {receipt : Receipt} :
    rail.Accepts question reply receipt ↔ receipt.railId = rail.railId ∧
      rail.asks receipt.proof = some question ∧ ∃ currency amount,
        rail.settlement reply = some (currency, amount) ∧
        eqIgnoreAsciiCase currency receipt.currency ∧ receipt.amountMinor ≤ amount := by
  rw [Accepts, rail.verify_true]
  constructor
  · rintro ⟨named, question', asked, reply', currency, amount, same, settled⟩
    simp only [List.cons.injEq, Prod.mk.injEq, and_true] at same
    obtain ⟨rfl, rfl⟩ := same
    exact ⟨named, asked, currency, amount, settled⟩
  · rintro ⟨named, asked, currency, amount, settled⟩
    exact ⟨named, question, asked, reply, currency, amount, rfl, settled⟩

/-- Where nothing is looked up or settled, nothing is accepted. -/
theorem not_accepts_of_vacant {question : Request} {reply : Reply} {receipt : Receipt}
    (vacant : rail.Vacant question reply) : ¬ rail.Accepts question reply receipt := by
  intro accepted
  obtain ⟨-, asked, currency, amount, settled, -⟩ := rail.accepts_iff.mp accepted
  rcases vacant with unasked | unsettled
  · exact unasked receipt.proof asked
  · rw [unsettled] at settled
    cases settled

/-- An object that is looked up and settled vouches for every reference. -/
theorem accepts_any_reference {question : Request} {reply : Reply}
    (occupied : ¬ rail.Vacant question reply) (reference : Str) :
    ∃ receipt, rail.Accepts question reply receipt ∧ receipt.reference = reference := by
  obtain ⟨asked, settled⟩ := not_or.mp occupied
  push Not at asked
  obtain ⟨proof, asked⟩ := asked
  obtain ⟨⟨currency, amount⟩, settled⟩ := Option.ne_none_iff_exists'.mp settled
  refine ⟨⟨rail.railId, 0, currency, reference, proof, 0⟩, ?_, rfl⟩
  exact rail.accepts_iff.mpr ⟨rfl, asked, currency, amount, settled, by simp [eqIgnoreAsciiCase],
    UInt64.zero_le⟩

theorem bindsReference_iff {question : Request} {reply : Reply} :
    rail.BindsReference question reply ↔ rail.Vacant question reply := by
  constructor
  · intro binds
    by_contra occupied
    obtain ⟨first, accepted, same⟩ := rail.accepts_any_reference occupied orderA
    obtain ⟨second, accepted', same'⟩ := rail.accepts_any_reference occupied orderB
    have texts := (binds first accepted).symm.trans (binds second accepted')
    rw [same, same'] at texts
    exact absurd (Option.some.inj texts) (by decide)
  · intro vacant receipt accepted
    exact absurd accepted (rail.not_accepts_of_vacant vacant)

theorem oneOrder_iff {question : Request} {reply : Reply} :
    rail.OneOrder question reply ↔ rail.Vacant question reply := by
  constructor
  · intro one
    by_contra occupied
    obtain ⟨first, accepted, same⟩ := rail.accepts_any_reference occupied orderA
    obtain ⟨second, accepted', same'⟩ := rail.accepts_any_reference occupied orderB
    exact orderA_ne_orderB (same.symm.trans ((one first second accepted accepted').trans same'))
  · intro vacant first _ accepted
    exact absurd accepted (rail.not_accepts_of_vacant vacant)

end ProofKeyed

/-- A verifier that reads its reply as an outcome, whose reference is the object's. -/
def ProofKeyed.ofOutcome (railId : String) (verify : Receipt → Talk Bool)
    (asks : List UInt8 → Option Request) (readOutcome : Reply → Option Outcome)
    (verify_true : ∀ receipt transcript, (verify receipt).Yields transcript (.ok true) ↔
      receipt.railId = railId ∧ ∃ question, asks receipt.proof = some question ∧
        ∃ reply outcome, transcript = [(question, reply)] ∧ readOutcome reply = some outcome ∧
          outcome.covers receipt) : ProofKeyed where
  railId := railId
  verify := verify
  asks := asks
  settlement := fun reply => (readOutcome reply).bind Outcome.settlement
  reference := fun reply => (readOutcome reply).map Outcome.reference
  verify_true := by
    intro receipt transcript
    simp only [verify_true, Outcome.covers_iff_settlement, Option.bind_eq_some_iff]
    constructor
    · rintro ⟨named, question, asked, reply, outcome, same, read, currency, amount, settled⟩
      exact ⟨named, question, asked, reply, currency, amount, same, ⟨outcome, read, settled.1⟩,
        settled.2⟩
    · rintro ⟨named, question, asked, reply, currency, amount, same, ⟨outcome, read, settled⟩, rest⟩
      exact ⟨named, question, asked, reply, outcome, same, read, currency, amount, settled, rest⟩

/-- The rails whose proof holds the id of a payment. BTCPay's own reader leaves the order id
out, so a reader of `metadata.orderId` comes beside it. -/
inductive ProofKeyedRail where
  | stripe (rail : Stripe.StripeRail)
  | checkoutCom (rail : CheckoutCom.CheckoutComRail)
  | mollie (rail : Mollie.MollieRail)
  | btcpay (rail : BTCPay.BTCPayRail) (orderId : List UInt8 → Option String)

/-- What each rail checks, in the form they share. -/
def ProofKeyedRail.keyed : ProofKeyedRail → ProofKeyed
  | stripe rail => .ofOutcome Stripe.railId rail.verify rail.lookupRequest rail.readOutcome
      fun _ _ => rail.verify_true
  | checkoutCom rail => .ofOutcome CheckoutCom.railId rail.verify rail.lookupRequest
      rail.readOutcome fun _ _ => rail.verify_true
  | mollie rail => .ofOutcome Mollie.railId rail.verify rail.lookupRequest rail.readOutcome
      fun _ _ => rail.verify_true
  | btcpay rail orderId => {
    railId := BTCPay.railId
    verify := rail.verify
    asks := rail.lookupRequest
    settlement := fun reply => (rail.readInvoice reply).bind BTCPay.BTCPayInvoice.paid
    reference := fun reply => reply.accepted.bind orderId
    verify_true := fun _ _ => rail.verify_true }

/-- On each rail the receipts an object vouches for carry its reference, or carry one
reference, exactly when no receipt can settle on it at all. -/
theorem reference_bound_iff (rail : ProofKeyedRail) (question : Request) (reply : Reply) :
    (rail.keyed.BindsReference question reply ↔ rail.keyed.Vacant question reply) ∧
      (rail.keyed.OneOrder question reply ↔ rail.keyed.Vacant question reply) :=
  ⟨rail.keyed.bindsReference_iff, rail.keyed.oneOrder_iff⟩

namespace Sample

/-- A paid session of the first order. -/
def paidSession : Stripe.StripeSessionPayload :=
  ⟨"cs_1", "paid", 5000, "usd", "order-A", [], none⟩

def stripeProof (proof : Stripe.ChargeProof) : List UInt8 :=
  asBytes (Json.stringify (.object ([("session_id", .string proof.sessionId),
    ("status_at_charge", .string proof.statusAtCharge)] ++
      (proof.redirectUrl.map fun url => ("redirect_url", .string url)).toList)))

def createdProof : Stripe.ChargeProof := ⟨"cs_1", "open", some "https://checkout.stripe.com/c/cs_1"⟩

def sessionCreated : List UInt8 := asBytes ("\x7b\"id\":\"cs_1\",\"object\":\"checkout.session\"," ++
  "\"url\":\"https://checkout.stripe.com/c/cs_1\"\x7d")

def sessionPaid : List UInt8 := asBytes ("\x7b\"id\":\"cs_1\",\"payment_status\":\"paid\"," ++
  "\"amount_total\":5000,\"currency\":\"usd\",\"client_reference_id\":\"order-A\"\x7d")

/-- A Stripe rail that reads one proof, and what is answered about one session. -/
def shopStripe : Stripe.StripeRail where
  secretKey := "sk_test"
  currencies := []
  baseUrl := Stripe.stripeApiBase
  proofToBytes := stripeProof
  proofFromSlice := fun bytes =>
    if bytes = stripeProof createdProof then .ok createdProof else .error "expected value"
  createFromSlice := fun bytes =>
    if bytes = sessionCreated then .ok ⟨"cs_1", "https://checkout.stripe.com/c/cs_1"⟩
    else .error "expected value"
  sessionFromSlice := fun bytes =>
    if bytes = sessionPaid then .ok paidSession else .error "expected value"
  errorFromSlice := fun _ => .error "expected value"

/-- A receipt for an order, with the proof of the paid session. -/
def sessionReceipt (reference : Str) : Receipt :=
  ⟨"stripe", 5000, "USD", reference, stripeProof createdProof, 0⟩

def sessionQuestion : Request :=
  shopStripe.formRequest .get (Stripe.StripeRail.sessionPath "cs_1") none none

theorem session_accepted (reference : Str) :
    (ProofKeyedRail.stripe shopStripe).keyed.Accepts sessionQuestion (.answered 200 sessionPaid)
      (sessionReceipt reference) := by
  have asked : shopStripe.lookupRequest (stripeProof createdProof) = some sessionQuestion :=
    lookupRequest_eq_some.mpr ⟨createdProof, "cs_1", by simp [shopStripe], by decide, rfl⟩
  have settled : (shopStripe.readOutcome (.answered 200 sessionPaid)).bind Outcome.settlement =
      some ("USD", 5000) := by
    decide +kernel
  exact (ProofKeyed.accepts_iff _).mpr ⟨rfl, asked, "USD", 5000, settled,
    by simp [eqIgnoreAsciiCase, sessionReceipt], UInt64.le_refl 5000⟩

end Sample

/-- One paid session vouches for two orders. -/
theorem paid_session_pays_two_orders :
    ¬ ∀ rail question reply, (ProofKeyedRail.keyed rail).BindsReference question reply ∧
      (ProofKeyedRail.keyed rail).OneOrder question reply := by
  intro claim
  have one := (claim (.stripe Sample.shopStripe) Sample.sessionQuestion
    (.answered 200 Sample.sessionPaid)).2
  exact orderA_ne_orderB (one _ _ (Sample.session_accepted orderA) (Sample.session_accepted orderB))

end Patala.Fiat
