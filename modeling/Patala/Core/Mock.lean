import Patala.Core.Rail
import Patala.Lib.Fallible
import Patala.Lib.Machine

/-! The offline default rail. Its proof is a keyed digest of the receipt's fields, one behind the
other without their lengths. -/

namespace Patala

open Framing Machine

section Digest

/-- FNV-1a over the key and then the message. -/
def fnv1aRound (salt : UInt8) (key msg : List UInt8) : UInt64 :=
  (key ++ msg).foldl (fun h byte => (h ^^^ byte.toUInt64) * 0x100000001b3)
    (0xcbf29ce484222325 ^^^ salt.toUInt64)

/-- Four rounds of eight bytes each. -/
def keyedDigest (key msg : List UInt8) : List.Vector UInt8 32 :=
  ⟨([0, 1, 2, 3] : List UInt8).flatMap fun round => leBytes 8 (fnv1aRound round key msg).toNat, by
    simp⟩

/-- The bytes a mock receipt's proof covers. -/
def signingBytes (railId : String) (receipt : Receipt) : List UInt8 :=
  asBytes railId ++ leBytes 8 receipt.amountMinor.toNat ++ asBytes receipt.currency ++
    receipt.reference.bytes ++ leBytes 8 receipt.settledAtUnix.toNat

end Digest

structure MockRail where
  id : String
  capabilities : RailCapabilities
  key : List.Vector UInt8 16
  feeMinor : UInt64
  fail : Bool

namespace MockRail

/-- What real rails of a class look like. -/
def classCapabilities (railClass : RailClass) (currencies : List String) : RailCapabilities where
  railClass := railClass
  reversible := railClass = .custodialReversible
  requiresKyc := railClass = .custodialReversible
  holdsFunds := railClass = .custodialReversible
  currencies := currencies
  settlement := if railClass = .custodialReversible then .days 2 else .instant
  atomicMultiParty := false

/-- A rail without a fee that never fails; rails of the same id sign with the same key. -/
def new (id : String) (railClass : RailClass) (currencies : List String) : MockRail where
  id := id
  capabilities := classCapabilities railClass currencies
  key := (keyedDigest (asBytes "patala-core/mock-rail-key/v1") (asBytes id)).take 16
  feeMinor := 0
  fail := false

variable (rail : MockRail)

def withFeeMinor (feeMinor : UInt64) : MockRail := { rail with feeMinor := feeMinor }

def failing : MockRail := { rail with fail := true }

def currencySupported (currency : String) : Bool := rail.capabilities.currencies.contains currency

def unsupportedCurrency (currency : String) : Error :=
  .invalidRequest s!"rail {rail.id} does not support currency {currency}"

def quote (req : PayRequest) (nowUnix : UInt64) : Except Error Quote := do
  req.validate
  insist (rail.currencySupported req.currency) (rail.unsupportedCurrency req.currency)
  return ⟨rail.id, req.amountMinor, req.currency, rail.feeMinor,
    saturatingAdd64 req.amountMinor rail.feeMinor, rail.capabilities.settlement,
    saturatingAdd64 nowUnix 300⟩

/-- The receipt `charge` signs, before it is signed. -/
def unsigned (req : PayRequest) (nowUnix : UInt64) : Receipt :=
  ⟨rail.id, req.amountMinor, req.currency, req.reference, [], nowUnix⟩

def charge (req : PayRequest) (nowUnix : UInt64) : Except Error Receipt := do
  req.validate
  insist (!rail.fail) (.rail s!"mock rail {rail.id} is configured to fail")
  insist (rail.currencySupported req.currency) (rail.unsupportedCurrency req.currency)
  let receipt := rail.unsigned req nowUnix
  return { receipt with
    proof := (keyedDigest rail.key.toList (signingBytes rail.id receipt)).toList }

def verify (receipt : Receipt) : Except Error Bool :=
  if receipt.railId ≠ rail.id then .ok false
  else if receipt.proof.length ≠ 32 then .ok false
  else .ok ((keyedDigest rail.key.toList (signingBytes rail.id receipt)).toList = receipt.proof)

end MockRail

section Evidence

/-- The fields of a receipt that its proof is to cover. -/
def signedFields (receipt : Receipt) : UInt64 × String × Str × UInt64 :=
  (receipt.amountMinor, receipt.currency, receipt.reference, receipt.settledAtUnix)

/-- The same amount at the same time, with the same text where currency and reference are written
one behind the other. -/
def Resplit (receipt other : Receipt) : Prop :=
  receipt.amountMinor = other.amountMinor ∧ receipt.settledAtUnix = other.settledAtUnix ∧
    receipt.currency ++ receipt.reference.text = other.currency ++ other.reference.text

theorem leBytes_toNat_inj {a b : UInt64} (same : leBytes 8 a.toNat = leBytes 8 b.toNat) : a = b :=
  UInt64.toNat_inj.mp (leBytes_inj a.toNat_lt b.toNat_lt same)

/-- Of what it covers, a proof tells apart everything but where the currency ends. -/
theorem signingBytes_eq_iff (railId : String) (receipt other : Receipt) :
    signingBytes railId receipt = signingBytes railId other ↔ Resplit receipt other := by
  have texts : ∀ r : Receipt, signingBytes railId r = asBytes railId ++ (leBytes 8 r.amountMinor.toNat ++
      (asBytes (r.currency ++ r.reference.text) ++ leBytes 8 r.settledAtUnix.toNat)) := by
    intro r
    rw [signingBytes, Str.bytes, asBytes_append]
    simp only [List.append_assoc]
  rw [texts, texts]
  constructor
  · intro same
    obtain ⟨amounts, rest⟩ := List.append_inj (List.append_cancel_left same) (by simp)
    obtain ⟨spelled, times⟩ := List.append_inj' rest (by simp)
    exact ⟨leBytes_toNat_inj amounts, leBytes_toNat_inj times, asBytes_injective spelled⟩
  · intro ⟨amounts, times, spelled⟩
    rw [amounts, times, spelled]

namespace MockRail

variable {rail : MockRail}

theorem charge_ok {req : PayRequest} {nowUnix : UInt64} {receipt : Receipt}
    (charged : rail.charge req nowUnix = .ok receipt) :
    receipt.railId = rail.id ∧
      receipt.proof = (keyedDigest rail.key.toList (signingBytes rail.id receipt)).toList := by
  obtain ⟨_, valid, charged⟩ := Fallible.bind_eq_ok.mp charged
  obtain ⟨_, works, charged⟩ := Fallible.bind_eq_ok.mp charged
  obtain ⟨_, supported, charged⟩ := Fallible.bind_eq_ok.mp charged
  cases charged
  exact ⟨rfl, rfl⟩

/-- A receipt with the proof of an issued one verifies when both cover the same bytes. -/
theorem verify_of_signingBytes_eq {req : PayRequest} {nowUnix : UInt64} {issued altered : Receipt}
    (charged : rail.charge req nowUnix = .ok issued) (sameRail : altered.railId = issued.railId)
    (sameProof : altered.proof = issued.proof)
    (same : signingBytes rail.id altered = signingBytes rail.id issued) :
    rail.verify altered = .ok true := by
  obtain ⟨ownRail, signed⟩ := charge_ok charged
  rw [verify, if_neg (by rw [sameRail, ownRail]; exact not_not_intro rfl), sameProof, signed,
    if_neg (by simp), same, decide_eq_true rfl]

/-- An issued receipt verifies. -/
theorem charge_verifies {req : PayRequest} {nowUnix : UInt64} {receipt : Receipt}
    (charged : rail.charge req nowUnix = .ok receipt) : rail.verify receipt = .ok true :=
  verify_of_signingBytes_eq charged rfl rfl rfl

/-- An altered copy of an issued receipt is digested otherwise unless all that is altered is where
its currency ends and its reference begins; such a copy verifies. -/
theorem altered_receipt_differs_iff {req : PayRequest} {nowUnix : UInt64} {issued altered : Receipt}
    (charged : rail.charge req nowUnix = .ok issued) (sameRail : altered.railId = issued.railId)
    (sameProof : altered.proof = issued.proof) :
    ((signedFields altered ≠ signedFields issued →
      signingBytes rail.id altered ≠ signingBytes rail.id issued) ↔
        (Resplit altered issued → signedFields altered = signedFields issued)) ∧
      (Resplit altered issued → rail.verify altered = .ok true) := by
  have covered := signingBytes_eq_iff rail.id altered issued
  constructor
  · rw [ne_eq, ne_eq, covered, not_imp_not]
  · intro resplit
    exact verify_of_signingBytes_eq charged sameRail sameProof (covered.mpr resplit)

def usdcRail : MockRail := .new "mock" .nonCustodialFinal ["USDC"]

def order : PayRequest := ⟨500, "USDC", ⟨"dest-anything", by decide⟩, ⟨"order-2", by decide⟩⟩

def issued : Receipt where
  railId := "mock"
  amountMinor := 500
  currency := "USDC"
  reference := order.reference
  proof := (keyedDigest usdcRail.key.toList
    (signingBytes "mock" (usdcRail.unsigned order 1700000000))).toList
  settledAtUnix := 1700000000

/-- The first letter of the reference moved to the currency. -/
def borderMoved : Receipt :=
  { issued with currency := "USDCo", reference := ⟨"rder-2", by decide⟩ }

theorem order_charged : usdcRail.charge order 1700000000 = .ok issued := by
  have valid : order.validate = .ok () := PayRequest.validate_ok_iff.mpr (by decide)
  refine Fallible.bind_eq_ok.mpr ⟨(), valid, Fallible.bind_eq_ok.mpr ⟨(), rfl, ?_⟩⟩
  exact Fallible.bind_eq_ok.mpr ⟨(), insist_ok_iff.mpr (by decide), rfl⟩

theorem borderMoved_resplit : Resplit borderMoved issued := ⟨rfl, rfl, by decide⟩

theorem altered_receipt_differs_iff_moved :
    ((signedFields borderMoved ≠ signedFields issued →
      signingBytes "mock" borderMoved ≠ signingBytes "mock" issued) ↔
        (Resplit borderMoved issued → signedFields borderMoved = signedFields issued)) ∧
      (Resplit borderMoved issued → usdcRail.verify borderMoved = .ok true) :=
  altered_receipt_differs_iff order_charged rfl rfl

/-- The receipt that was never issued verifies. -/
theorem moved_border_verifies : usdcRail.charge order 1700000000 = .ok issued ∧
    borderMoved.railId = issued.railId ∧ borderMoved.proof = issued.proof ∧
    usdcRail.verify borderMoved = .ok true ∧
    ¬ (signedFields borderMoved ≠ signedFields issued →
      signingBytes usdcRail.id borderMoved ≠ signingBytes usdcRail.id issued) := by
  have same := (signingBytes_eq_iff usdcRail.id borderMoved issued).mpr borderMoved_resplit
  refine ⟨order_charged, rfl, rfl, verify_of_signingBytes_eq order_charged rfl rfl same, ?_⟩
  intro claimed
  exact claimed (by decide) same

end MockRail

end Evidence

end Patala
