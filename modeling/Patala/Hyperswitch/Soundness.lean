import Mathlib.Algebra.BigOperators.Group.List.Basic
import Mathlib.Algebra.GroupWithZero.Nat
import Patala.Hyperswitch.Completeness

/-! What `verify` says yes to. It adds refunds up in 64 bits and never compares the payment it
fetched with the reference of the receipt, under which `charge` had created one. -/

namespace Patala.Hyperswitch

open Fiat

/-- Adding amounts up is exact below `2^64`; from there on it wraps, or panics where overflow is
checked. -/
theorem foldlM_add (overflowChecks : Bool) (amounts : List UInt64) (start : UInt64) :
    amounts.foldlM (fun total amount =>
        if overflowChecks ∧ 2 ^ 64 ≤ total.toNat + amount.toNat then none
        else some (total + amount)) start =
      if overflowChecks ∧ 2 ^ 64 ≤ start.toNat + (amounts.map UInt64.toNat).sum then none
      else some (UInt64.ofNat (start.toNat + (amounts.map UInt64.toNat).sum)) := by
  induction amounts generalizing start with
  | nil =>
    have small := start.toNat_lt
    have fits : ¬ (overflowChecks ∧ 2 ^ 64 ≤ start.toNat) := fun ⟨_, large⟩ => by omega
    rw [List.map_nil, List.sum_nil, Nat.add_zero, if_neg fits, UInt64.ofNat_toNat]
    rfl
  | cons amount rest ih =>
    rw [List.foldlM_cons, List.map_cons, List.sum_cons, ← Nat.add_assoc]
    by_cases checked : overflowChecks
    · by_cases large : 2 ^ 64 ≤ start.toNat + amount.toNat
      · have total : 2 ^ 64 ≤ start.toNat + amount.toNat + (rest.map UInt64.toNat).sum := by omega
        rw [if_pos ⟨checked, large⟩, if_pos ⟨checked, total⟩]
        rfl
      · have exact_ : (start + amount).toNat = start.toNat + amount.toNat := by
          rw [UInt64.toNat_add, Nat.mod_eq_of_lt (by omega)]
        rw [if_neg (fun ⟨_, bad⟩ => large bad), Option.bind_eq_bind, Option.bind_some, ih, exact_]
    · rw [if_neg (fun ⟨bad, _⟩ => checked bad), Option.bind_eq_bind, Option.bind_some, ih,
        if_neg (fun ⟨bad, _⟩ => checked bad), if_neg (fun ⟨bad, _⟩ => checked bad)]
      congr 1
      apply UInt64.toNat_inj.mp
      simp only [UInt64.toNat_ofNat', UInt64.toNat_add]
      omega

/-- The refunds of a payment that went through, without a bound. -/
def PaymentsResponse.refundTotal (payment : PaymentsResponse) : Nat :=
  (payment.refundedAmounts.map UInt64.toNat).sum

/-- The payment is settled in the receipt's currency for no less than its amount. -/
structure PaymentsResponse.Covers (payment : PaymentsResponse) (receipt : Receipt) : Prop where
  currency : payment.currency = receipt.currency
  status : payment.status = .succeeded
  amount : receipt.amountMinor ≤ payment.amountReceived.getD 0

namespace HyperswitchRail

variable (rail : HyperswitchRail)

/-- The machine's sum of a payment's refunds is their total. -/
def AddsUp (payment : PaymentsResponse) : Prop :=
  (sum rail.overflowChecks payment.refundedAmounts).map UInt64.toNat = some payment.refundTotal

theorem addsUp_iff {payment : PaymentsResponse} :
    rail.AddsUp payment ↔ payment.refundTotal < 2 ^ 64 := by
  have whole := foldlM_add rail.overflowChecks payment.refundedAmounts 0
  rw [show (0 : UInt64).toNat = 0 from rfl, Nat.zero_add] at whole
  unfold AddsUp sum
  rw [whole, PaymentsResponse.refundTotal]
  constructor
  · intro exact_
    by_contra large
    by_cases checked : rail.overflowChecks
    · rw [if_pos ⟨checked, Nat.le_of_not_lt large⟩] at exact_
      cases exact_
    · rw [if_neg (fun ⟨bad, _⟩ => checked bad), Option.map_some, Option.some.injEq,
        UInt64.toNat_ofNat'] at exact_
      omega
  · intro small
    rw [if_neg (fun ⟨_, large⟩ => absurd small (Nat.not_lt_of_le large)), Option.map_some,
      UInt64.toNat_ofNat', Nat.mod_eq_of_lt small]

theorem sum_of_small {payment : PaymentsResponse} (small : payment.refundTotal < 2 ^ 64) :
    sum rail.overflowChecks payment.refundedAmounts = some (UInt64.ofNat payment.refundTotal) := by
  obtain ⟨total, added, same⟩ := Option.map_eq_some_iff.mp (rail.addsUp_iff.mpr small)
  rw [added, ← same, UInt64.ofNat_toNat]

/-- The receipt leads to a lookup: it is the rail's, and its proof names a safe payment. -/
def LooksUp (receipt : Receipt) : Prop :=
  receipt.railId = railId ∧ ∃ proof paymentId, rail.proofFromSlice receipt.proof = .ok proof ∧
    safePathSegment proof.paymentId = .ok paymentId

/-- `charge` creates the payment of a reference under this payment's id. -/
def CreatesFor (reference : Str) (payment : PaymentsResponse) : Prop :=
  ∀ req : PayRequest, req.reference = reference →
    (rail.createBody req).getStr "payment_id" = some payment.paymentId

theorem createsFor_iff {reference : Str} {payment : PaymentsResponse} :
    rail.CreatesFor reference payment ↔ payment.paymentId = reference.text := by
  have sent : ∀ req, (rail.createBody req).getStr "payment_id" = some req.reference.text :=
    fun _ => rfl
  constructor
  · intro creates
    have own := creates ⟨1, "", reference, reference⟩ rfl
    rw [sent] at own
    exact (Option.some.inj own).symm
  · intro same req own
    rw [sent, own, same]

/-- Where refunds add up, a lookup accepts what is settled and not fully refunded. -/
theorem accepts_iff {receipt : Receipt} {reply : Reply} {payment : PaymentsResponse}
    (reports : rail.reported reply = some payment) (small : payment.refundTotal < 2 ^ 64) :
    rail.Accepts reply receipt ↔ rail.LooksUp receipt ∧ payment.Covers receipt ∧
      payment.refundTotal < receipt.amountMinor.toNat := by
  have machine : UInt64.ofNat payment.refundTotal < receipt.amountMinor ↔
      payment.refundTotal < receipt.amountMinor.toNat := by
    rw [UInt64.lt_iff_toNat_lt, UInt64.toNat_ofNat', Nat.mod_eq_of_lt small]
  simp only [Accepts, verify_true, judge_true, LooksUp]
  constructor
  · rintro ⟨question, own, proof, paymentId, decoded, safe, reply', payment', same, reports',
      judged⟩
    cases same
    cases Option.some.inj (reports.symm.trans reports')
    obtain ⟨currency, status, amount, total, added, less⟩ := judged
    rw [rail.sum_of_small small] at added
    cases added
    exact ⟨⟨own, proof, paymentId, decoded, safe⟩, ⟨currency, status, amount⟩, machine.mp less⟩
  · rintro ⟨⟨own, proof, paymentId, decoded, safe⟩, covers, less⟩
    exact ⟨_, own, proof, paymentId, decoded, safe, reply, payment, rfl, reports, covers.currency,
      covers.status, covers.amount, _, rail.sum_of_small small, machine.mpr less⟩

/-- What is promised of a verification with this reply: refunds that are added up add up, and
a yes means that the payment is the one `charge` created for the reference, settled for the
receipt and not refunded to its full amount. -/
structure SoundOn (receipt : Receipt) (reply : Reply) : Prop where
  exact : ∀ payment, rail.LooksUp receipt → rail.reported reply = some payment →
    payment.Covers receipt → rail.AddsUp payment
  sound : rail.Accepts reply receipt → ∃ payment, rail.reported reply = some payment ∧
    rail.CreatesFor receipt.reference payment ∧ payment.Covers receipt ∧
    payment.refundTotal < receipt.amountMinor.toNat

end HyperswitchRail

/-- A verification is sound exactly when a payment that is looked up and covers the receipt has
refunds below `2^64` and, unless they reach the receipt's amount, the reference as its id. -/
theorem verify_sound_iff (rail : HyperswitchRail) (receipt : Receipt) (reply : Reply) :
    rail.SoundOn receipt reply ↔ ∀ payment, rail.LooksUp receipt →
      rail.reported reply = some payment → payment.Covers receipt →
        payment.refundTotal < 2 ^ 64 ∧ (payment.refundTotal < receipt.amountMinor.toNat →
          payment.paymentId = receipt.reference.text) := by
  constructor
  · intro holds payment looked reports covers
    have small := rail.addsUp_iff.mp (holds.exact payment looked reports covers)
    refine ⟨small, fun less => ?_⟩
    obtain ⟨payment', reports', creates, -, -⟩ :=
      holds.sound ((rail.accepts_iff reports small).mpr ⟨looked, covers, less⟩)
    cases Option.some.inj (reports.symm.trans reports')
    exact rail.createsFor_iff.mp creates
  · intro condition
    refine ⟨fun payment looked reports covers =>
      rail.addsUp_iff.mpr (condition payment looked reports covers).1, fun accepted => ?_⟩
    obtain ⟨question, run⟩ := id accepted
    obtain ⟨own, proof, paymentId, decoded, safe, reply', payment, same, reports, judged⟩ :=
      rail.verify_true.mp run
    cases same
    obtain ⟨currency, status, amount, -⟩ := rail.judge_true.mp judged
    have looked : rail.LooksUp receipt := ⟨own, proof, paymentId, decoded, safe⟩
    have covers : payment.Covers receipt := ⟨currency, status, amount⟩
    obtain ⟨small, named⟩ := condition payment looked reports covers
    have less := ((rail.accepts_iff reports small).mp accepted).2.2
    exact ⟨payment, reports, rail.createsFor_iff.mpr (named less), covers, less⟩

namespace Sample

/-- Order A's payment, settled under its reference. -/
def settledPayment : PaymentsResponse := ⟨"order-A", .succeeded, 1000, some 1000, "NGN", none, none⟩

def settledProof : ChargeProof := ⟨"order-A", .succeeded, none⟩

def settledTable : List (ChargeProof × List UInt8) := [(settledProof, proofJson settledProof)]

theorem settledTable_valid : Codec.WellFormed Codec.zeroMarking settledTable where
  distinct := by decide
  unmarked := by decide

def settledBody : List UInt8 := asBytes ("\x7b\"payment_id\":\"order-A\"," ++
  "\"status\":\"succeeded\",\"amount\":1000,\"amount_received\":1000,\"currency\":\"NGN\"\x7d")

/-- A rail whose Hyperswitch answers with order A's payment. -/
def settledHyperswitch : HyperswitchRail :=
  { shopHyperswitch with
    proofToBytes := Codec.encode Codec.zeroMarking settledTable
    proofFromSlice := fun bytes =>
      match Codec.decode Codec.zeroMarking settledTable bytes with
      | some proof => .ok proof
      | none => .error "expected value"
    proof_roundTrip := fun proof => by rw [Codec.decode_encode settledTable_valid proof]
    paymentFromSlice := fun bytes =>
      if bytes = settledBody then .ok settledPayment else .error "expected value" }

/-- A receipt of order B with the proof that was written for order A's payment. -/
def borrowedReceipt : Receipt :=
  ⟨"hyperswitch", 1000, "NGN", orderB, settledHyperswitch.proofToBytes settledProof, 1700000000⟩

theorem borrowed_accepted :
    settledHyperswitch.Accepts (.answered 200 settledBody) borrowedReceipt := by
  have reports : settledHyperswitch.reported (.answered 200 settledBody) = some settledPayment := rfl
  refine (settledHyperswitch.accepts_iff reports (by decide)).mpr
    ⟨⟨rfl, settledProof, "order-A", settledHyperswitch.proof_roundTrip settledProof, ?_⟩,
      ⟨rfl, rfl, by decide⟩, by decide⟩
  decide

end Sample

/-- The payment of one order verifies the receipt of another. -/
theorem borrowed_payment_verifies :
    ¬ ∀ rail receipt reply, HyperswitchRail.SoundOn rail receipt reply := by
  intro claim
  obtain ⟨payment, reports, creates, -⟩ :=
    (claim Sample.settledHyperswitch Sample.borrowedReceipt _).sound Sample.borrowed_accepted
  have own := (HyperswitchRail.createsFor_iff _).mp creates
  cases reports
  exact absurd own (by decide)

end Patala.Hyperswitch
