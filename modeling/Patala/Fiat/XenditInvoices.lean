import Patala.Fiat.Xendit
import Patala.Json.Stringify

/-! A list of Xendit invoices against what `verify` says of it. Several invoices may carry one
reference, when a customer tries again; `verify` reads the first of them, and reads its face
value unless the status is PAID. -/

namespace Patala.Fiat.Xendit

/-- The settled amount: what was paid, if that is there. -/
def XenditInvoice.settledField (inv : XenditInvoice) : Json.Value :=
  if inv.paidAmount.isNull then inv.amount else inv.paidAmount

/-- A paid invoice of the receipt's reference, in its currency. -/
structure XenditInvoice.PaidFor (inv : XenditInvoice) (receipt : Receipt) : Prop where
  reference : inv.externalId = receipt.reference.text
  named : inv.id ≠ ""
  paid : inv.status = "PAID" ∨ inv.status = "SETTLED"
  currency : eqIgnoreAsciiCase inv.currency receipt.currency

namespace XenditRail

variable (rail : XenditRail)

/-- An amount field of the invoice is positive and no less than the receipt's amount. -/
def Covers (inv : XenditInvoice) (field : Json.Value) (receipt : Receipt) : Prop :=
  ∃ text amount, rail.xenditNumberToString field = some text ∧ text ≠ "" ∧
    majorStringToMinor text inv.currency = .ok amount ∧ amount ≠ 0 ∧ receipt.amountMinor ≤ amount

/-- The invoice pays for the receipt. -/
def Pays (receipt : Receipt) (inv : XenditInvoice) : Prop :=
  inv.PaidFor receipt ∧ rail.Covers inv inv.settledField receipt

/-- The first invoice is enough to judge the list by: where a later one pays, its own field
covers as well, and where it is SETTLED with a paid amount beside its face value, the face value
covers when the paid amount does, and only when that or a later invoice does. -/
structure FirstSuffices (receipt : Receipt) (first : XenditInvoice) (rest : List XenditInvoice) :
    Prop where
  retried : (∃ inv ∈ rest, rail.Pays receipt inv) →
    first.PaidFor receipt ∧ rail.Covers first first.amountField receipt
  short : first.PaidFor receipt → first.status = "SETTLED" → first.paidAmount.isNull = false →
    rail.Covers first first.paidAmount receipt → rail.Covers first first.amount receipt
  beyond : first.PaidFor receipt → first.status = "SETTLED" → first.paidAmount.isNull = false →
    rail.Covers first first.amount receipt →
      rail.Covers first first.paidAmount receipt ∨ ∃ inv ∈ rest, rail.Pays receipt inv

section FirstInvoice

variable {rail}

/-- Away from SETTLED invoices with a paid amount the field read is the settled amount. -/
theorem amountField_eq {inv : XenditInvoice}
    (plain : inv.status = "PAID" ∨ inv.paidAmount.isNull = true) :
    inv.amountField = inv.settledField := by
  unfold XenditInvoice.amountField XenditInvoice.settledField
  rcases plain with paid | missing
  · cases missing : inv.paidAmount.isNull <;> simp [paid]
  · simp [missing]

/-- The text of an amount field, when it is one that is not empty. -/
theorem filter_eq_some {field : Json.Value} {text : String} :
    (rail.xenditNumberToString field).filter (fun text => decide (text ≠ "")) = some text ↔
      rail.xenditNumberToString field = some text ∧ text ≠ "" := by
  rw [Option.filter_eq_some_iff, decide_eq_true_iff]

/-- An invoice is accepted for what its status and the field read say. -/
theorem invoiceToOutcome_covers {inv : XenditInvoice} {receipt : Receipt}
    (nonempty : inv.externalId ≠ "") :
    (∃ outcome, rail.invoiceToOutcome inv = .ok outcome ∧ outcome.settled = true ∧
      eqIgnoreAsciiCase outcome.currency receipt.currency = true ∧
        receipt.amountMinor ≤ outcome.amountMinor) ↔
      inv.id ≠ "" ∧ (inv.status = "PAID" ∨ inv.status = "SETTLED") ∧
        eqIgnoreAsciiCase inv.currency receipt.currency = true ∧
        rail.Covers inv inv.amountField receipt := by
  unfold invoiceToOutcome Covers
  rw [if_neg nonempty]
  cases found : (rail.xenditNumberToString inv.amountField).filter fun text => decide (text ≠ "") with
  | none =>
    have absent : ∀ text, rail.xenditNumberToString inv.amountField = some text → text = "" := by
      intro text read
      by_contra present
      rw [filter_eq_some.mpr ⟨read, present⟩] at found
      cases found
    constructor
    · rintro ⟨outcome, answered, -⟩
      cases answered
    · rintro ⟨-, -, -, text, -, read, present, -⟩
      exact absurd (absent text read) present
  | some text =>
    obtain ⟨read, present⟩ := filter_eq_some.mp found
    have field : ∀ other, rail.xenditNumberToString inv.amountField = some other ↔ text = other := by
      intro other
      rw [read, Option.some.injEq]
    simp only [field, exists_and_left, exists_eq_left', present, ne_eq, not_false_eq_true, true_and]
    cases parsed : majorStringToMinor text inv.currency with
    | error failure => simp
    | ok amount =>
      by_cases settled : inv.status = "PAID" ∨ inv.status = "SETTLED"
      · by_cases zero : amount = 0
        · simp [settled, zero]
        · by_cases unnamed : inv.id = "" <;> simp [settled, zero, unnamed]
      · simp [settled]

/-- A list is accepted for its first invoice alone. -/
theorem settles_cons {receipt : Receipt} (nonempty : receipt.reference.text ≠ "")
    (first : XenditInvoice) (rest : List XenditInvoice) :
    rail.settles (first :: rest) receipt.reference.text receipt = true ↔
      first.PaidFor receipt ∧ rail.Covers first first.amountField receipt := by
  have judged : rail.settles (first :: rest) receipt.reference.text receipt = true ↔
      first.externalId = receipt.reference.text ∧
        ∃ outcome, rail.invoiceToOutcome first = .ok outcome ∧ outcome.settled = true ∧
          eqIgnoreAsciiCase outcome.currency receipt.currency = true ∧
            receipt.amountMinor ≤ outcome.amountMinor := by
    unfold settles
    rw [List.head?_cons]
    by_cases own : first.externalId = receipt.reference.text
    · cases evaluated : rail.invoiceToOutcome first with
      | error failure => simp [own, evaluated]
      | ok outcome =>
        cases settled : outcome.settled <;>
          cases currency : eqIgnoreAsciiCase outcome.currency receipt.currency <;>
            simp [own, evaluated, settled, currency, UInt64.not_lt]
    · simp [own]
  rw [judged]
  constructor
  · rintro ⟨own, outcome⟩
    obtain ⟨named, paid, currency, covers⟩ :=
      (invoiceToOutcome_covers fun empty => nonempty (own.symm.trans empty)).mp outcome
    exact ⟨⟨own, named, paid, currency⟩, covers⟩
  · rintro ⟨⟨own, named, paid, currency⟩, covers⟩
    exact ⟨own, (invoiceToOutcome_covers fun empty => nonempty (own.symm.trans empty)).mpr
      ⟨named, paid, currency, covers⟩⟩

/-- The first invoice judges the list as all of it does exactly when it is enough. -/
theorem settles_exact_iff {receipt : Receipt} (nonempty : receipt.reference.text ≠ "")
    (first : XenditInvoice) (rest : List XenditInvoice) :
    (rail.settles (first :: rest) receipt.reference.text receipt = true ↔
      ∃ inv ∈ first :: rest, rail.Pays receipt inv) ↔ rail.FirstSuffices receipt first rest := by
  rw [settles_cons nonempty, List.exists_mem_cons_iff]
  -- the only invoices whose field read is not the settled amount
  by_cases mixed : first.status = "SETTLED" ∧ first.paidAmount.isNull = false
  · obtain ⟨settled, present⟩ := mixed
    have settledField : first.settledField = first.paidAmount := by
      simp [XenditInvoice.settledField, present]
    have amountField : first.amountField = first.amount := by
      simp [XenditInvoice.amountField, settled]
    unfold Pays
    rw [settledField, amountField]
    constructor
    · intro exact
      refine ⟨fun later => amountField ▸ exact.mpr (.inr later), ?_, ?_⟩
      · intro paidFor _ _ covers
        exact (exact.mpr (.inl ⟨paidFor, covers⟩)).2
      · intro paidFor _ _ covers
        exact (exact.mp ⟨paidFor, covers⟩).imp And.right id
    · rintro ⟨retried, short, beyond⟩
      rw [amountField] at retried
      constructor
      · rintro ⟨paidFor, covers⟩
        exact (beyond paidFor settled present covers).imp (⟨paidFor, ·⟩) id
      · rintro (⟨paidFor, covers⟩ | later)
        · exact ⟨paidFor, short paidFor settled present covers⟩
        · exact retried later
  · have same : first.PaidFor receipt → first.amountField = first.settledField := by
      intro paidFor
      apply amountField_eq
      by_cases paid : first.status = "PAID"
      · exact .inl paid
      · have settled := paidFor.paid.resolve_left paid
        exact .inr (by simpa [settled] using mixed)
    constructor
    · intro exact
      refine ⟨fun later => exact.mpr (.inr later), ?_, ?_⟩
      · intro _ settled present
        exact absurd ⟨settled, present⟩ mixed
      · intro _ settled present
        exact absurd ⟨settled, present⟩ mixed
    · intro enough
      constructor
      · rintro ⟨paidFor, covers⟩
        exact .inl ⟨paidFor, same paidFor ▸ covers⟩
      · rintro (⟨paidFor, covers⟩ | later)
        · exact ⟨paidFor, (same paidFor).symm ▸ covers⟩
        · exact enough.retried later

end FirstInvoice

theorem verify_settles_iff {receipt : Receipt} (own : receipt.railId = railId) {reference : String}
    (safe : safeQueryValue receipt.reference.text = .ok reference) {reply : Reply}
    {invoices : List XenditInvoice}
    (decoded : reply.decoded rail.invoicesFromSlice = some invoices) :
    (rail.verify receipt).Yields
        [(rail.jsonRequest .get (verifyPath reference) none, reply)] (.ok true) ↔
      rail.settles invoices receipt.reference.text receipt = true := by
  have same := (safeQueryValue_ok safe).1
  unfold verify listInvoices
  rw [if_neg (not_not_intro own), safe]
  dsimp only
  rw [fetch_true, same]
  constructor
  · rintro ⟨answer, found, exchanged, read, accepted⟩
    cases exchanged
    rw [decoded] at read
    cases read
    exact accepted
  · intro accepted
    exact ⟨reply, invoices, rfl, decoded, accepted⟩

/-- Once the processor has answered with a list of invoices, `verify` says yes exactly when one
of them pays for the receipt, if and only if the first is enough to judge the list by. -/
theorem verify_invoices_iff (receipt : Receipt) (own : receipt.railId = railId) (reference : String)
    (safe : safeQueryValue receipt.reference.text = .ok reference) (reply : Reply)
    (invoices : List XenditInvoice)
    (decoded : reply.decoded rail.invoicesFromSlice = some invoices) :
    ((rail.verify receipt).Yields
        [(rail.jsonRequest .get (verifyPath reference) none, reply)] (.ok true) ↔
      ∃ inv ∈ invoices, rail.Pays receipt inv) ↔
    ∀ first rest, invoices = first :: rest → rail.FirstSuffices receipt first rest := by
  have nonempty : receipt.reference.text ≠ "" := safeQueryValue_nonempty safe
  rw [verify_settles_iff rail own safe decoded]
  cases invoices with
  | nil => simp [settles]
  | cons first rest =>
    rw [settles_exact_iff nonempty]
    constructor
    · intro enough first' rest' equal
      cases equal
      exact enough
    · intro enough
      exact enough first rest rfl

end XenditRail

section Retried

/-- An invoice of one order, in rupiah. -/
def invoiceOf (id status face : String) (paidAmount : Json.Value) : XenditInvoice where
  id := id
  externalId := "ord_1"
  status := status
  amount := .string face
  paidAmount := paidAmount
  currency := "IDR"
  invoiceUrl := ""

def expired : XenditInvoice := invoiceOf "inv_1" "EXPIRED" "10000" .null

def paid : XenditInvoice := invoiceOf "inv_2" "PAID" "10000" (.string "10000")

/-- Paid beyond its face value. -/
def overpaid (status : String) : XenditInvoice :=
  invoiceOf "inv_3" status "5000" (.string "10000")

def order1 : Receipt where
  railId := railId
  amountMinor := 1000000
  currency := "IDR"
  reference := ⟨"ord_1", by decide⟩
  proof := []
  settledAtUnix := 0

/-- A listing as the processor writes it. -/
def listingBody (invoices : List XenditInvoice) : List UInt8 :=
  asBytes (Json.stringify (.array (invoices.map fun inv => .object [("id", .string inv.id),
    ("external_id", .string inv.externalId), ("status", .string inv.status),
    ("amount", inv.amount), ("paid_amount", inv.paidAmount), ("currency", .string inv.currency)])))

def listings : List (List XenditInvoice × List UInt8) :=
  [[expired, paid], [paid, expired], [overpaid "PAID"], [overpaid "SETTLED"]].map
    fun invoices => (invoices, listingBody invoices)

theorem listings_distinct : (listings.map Prod.snd).Nodup := by decide +kernel

def shop : XenditRail where
  secretKey := "xnd_development"
  currencies := ["IDR"]
  baseUrl := xenditApiBase
  fixed6 literal := literal ++ ".000000"
  proofToBytes _ := []
  invoiceFromSlice _ := .error "expected value"
  invoicesFromSlice bytes :=
    match listings.find? fun listed => listed.2 = bytes with
    | some listed => .ok listed.1
    | none => .error "expected value"
  errorFromSlice _ := .error "expected value"

/-- The answer with a listing. -/
def listing (invoices : List XenditInvoice) : Reply := .answered 200 (listingBody invoices)

theorem listings_accepted : ∀ listed ∈ listings,
    Reply.accepted (.answered 200 listed.2) = some listed.2 := by decide +kernel

theorem listing_decoded {invoices : List XenditInvoice}
    (member : (invoices, listingBody invoices) ∈ listings) :
    (listing invoices).decoded shop.invoicesFromSlice = some invoices := by
  have found := Codec.find?_code listings_distinct member
  have taken : (listing invoices).accepted = some (listingBody invoices) :=
    listings_accepted _ member
  rw [Reply.decoded_eq_some]
  exact ⟨_, taken, by simp only [shop, found]⟩

def listRequest : Request := shop.jsonRequest .get (XenditRail.verifyPath "ord_1") none

theorem paid_pays : shop.Pays order1 paid where
  left := ⟨rfl, by decide, .inl rfl, by decide⟩
  right := ⟨"10000", 1000000, rfl, by decide, by decide, by decide, by decide⟩

theorem paid_first_accepted :
    (shop.verify order1).Yields [(listRequest, listing [paid, expired])] (.ok true) := by
  refine (shop.verify_invoices_iff order1 rfl "ord_1" (by decide) (listing [paid, expired])
    [paid, expired] (listing_decoded (by simp [listings]))).mpr ?_ |>.mpr
      ⟨paid, List.mem_cons_self, paid_pays⟩
  intro first rest same
  cases same
  refine ⟨fun _ => ⟨paid_pays.1, paid_pays.2⟩, ?_, ?_⟩
  · intro _ settled
    exact absurd settled (by decide)
  · intro _ settled
    exact absurd settled (by decide)

/-- A payment behind an expired attempt is not found, though it is in the other order; and an
invoice accepted while PAID is not once it is SETTLED. -/
theorem retried_payment_not_found :
    ¬ ((shop.verify order1).Yields [(listRequest, listing [expired, paid])] (.ok true) ↔
      ∃ inv ∈ [expired, paid], shop.Pays order1 inv) ∧
    (shop.verify order1).Yields [(listRequest, listing [overpaid "PAID"])] (.ok true) ∧
    ¬ (shop.verify order1).Yields [(listRequest, listing [overpaid "SETTLED"])] (.ok true) := by
  have retried := @listing_decoded [expired, paid] (by simp [listings])
  have before := @listing_decoded [overpaid "PAID"] (by simp [listings])
  have after := @listing_decoded [overpaid "SETTLED"] (by simp [listings])
  have safe : safeQueryValue order1.reference.text = .ok "ord_1" := by decide
  rw [listRequest, shop.verify_settles_iff rfl safe retried, shop.verify_settles_iff rfl safe before,
    shop.verify_settles_iff rfl safe after]
  refine ⟨?_, by decide, by decide⟩
  intro exact
  have accepted := exact.mpr ⟨paid, by simp, paid_pays⟩
  revert accepted
  decide

end Retried

end Patala.Fiat.Xendit
