import Patala.Fiat.BTCPay
import Patala.Fiat.Mollie
import Patala.Fiat.Square
import Patala.Fiat.Stripe
import Patala.Json.Stringify
import Patala.Lib.UrlPath

/-! The identifier of a proof goes into the path of a lookup behind a fixed part. The guard
on it lets backslashes, dot segments and trailing controls through, which the URL parser
then resolves. -/

namespace Patala.Fiat

/-- A verifier that asks for one object, by the safe identifier of a proof at the end of a
path. -/
structure GuardedLookup where
  railId : String
  verify : Receipt → Talk Bool
  safeId : List UInt8 → Option String
  base : List Char
  request : String → Request
  url : ∀ name, (request name).url.toList = base ++ '/' :: name.toList
  asks_iff : ∀ receipt question, (verify receipt).Asks question ↔
    receipt.railId = railId ∧ ∃ name, safeId receipt.proof = some name ∧ request name = question

namespace GuardedLookup

variable (rail : GuardedLookup) (hostOk : List Char → Bool)

/-- What `verify` requests is one segment behind the fixed part, where the URL is taken. -/
def OneSegment (receipt : Receipt) : Prop :=
  ∀ question, (rail.verify receipt).Asks question →
    ∀ path, UrlPath.parse hostOk question.url.toList = some path →
      ∃ segments segment, UrlPath.parse hostOk (rail.base ++ ['/']) = some (segments ++ [[]]) ∧
        segment ≠ [] ∧ path = segments ++ [segment]

/-- The identifier stays in its collection: its URL is not taken, or the fixed part has no
query and the pieces of the identifier lead to one segment behind it. -/
def Confined (name : String) : Prop :=
  UrlPath.parse hostOk (rail.base ++ '/' :: name.toList) = none ∨
    (∀ c ∈ rail.base, ¬ UrlPath.endsPath c) ∧ ∃ segments,
      UrlPath.parse hostOk (rail.base ++ ['/']) = some (segments ++ [[]]) ∧
        UrlPath.Stays segments (UrlPath.pieces (UrlPath.remainder name.toList))

/-- One name is requested as one segment exactly when it is confined. -/
theorem segment_iff (name : String) :
    (∀ path, UrlPath.parse hostOk (rail.base ++ '/' :: name.toList) = some path →
      ∃ segments segment, UrlPath.parse hostOk (rail.base ++ ['/']) = some (segments ++ [[]]) ∧
        segment ≠ [] ∧ path = segments ++ [segment]) ↔ rail.Confined hostOk name := by
  constructor
  · intro one
    cases parsed : UrlPath.parse hostOk (rail.base ++ '/' :: name.toList) with
    | none => exact .inl parsed
    | some path =>
      obtain ⟨segments, segment, fixed, named, same⟩ := one path parsed
      by_cases query : ∃ c ∈ rail.base, UrlPath.endsPath c
      · -- The query swallows the name, so the path is the fixed one.
        rw [UrlPath.parse_append_of_query query, fixed, same] at parsed
        have empty := List.append_inj_right' (Option.some.inj parsed) rfl
        exact absurd (List.cons.inj empty).1.symm named
      · have plain : ∀ c ∈ rail.base, ¬ UrlPath.endsPath c := fun c member special =>
          query ⟨c, member, special⟩
        obtain ⟨segments', same', onward⟩ := UrlPath.parse_append plain fixed
        have equal := List.append_inj_left' same' rfl
        subst equal
        rw [onward, same] at parsed
        exact .inr ⟨plain, segments, fixed,
          UrlPath.stays_iff.mpr ⟨segment, named, Option.some.inj parsed⟩⟩
  · intro confined path parsed
    rcases confined with refused | ⟨plain, segments, fixed, stays⟩
    · rw [refused] at parsed
      cases parsed
    · obtain ⟨segments', same', onward⟩ := UrlPath.parse_append plain fixed
      have equal := List.append_inj_left' same' rfl
      subst equal
      obtain ⟨segment, named, resolved⟩ := UrlPath.stays_iff.mp stays
      rw [onward, resolved] at parsed
      exact ⟨segments, segment, fixed, named, (Option.some.inj parsed).symm⟩

theorem oneSegment_iff (receipt : Receipt) :
    rail.OneSegment hostOk receipt ↔ ∀ name, receipt.railId = rail.railId →
      rail.safeId receipt.proof = some name → rail.Confined hostOk name := by
  simp only [OneSegment, rail.asks_iff]
  constructor
  · intro one name own safe
    have asked := one (rail.request name) ⟨own, name, safe, rfl⟩
    rw [rail.url] at asked
    exact (rail.segment_iff hostOk name).mp asked
  · intro confined question ⟨own, name, safe, same⟩
    subst same
    rw [rail.url]
    exact (rail.segment_iff hostOk name).mpr (confined name own safe)

end GuardedLookup

/-- A verifier whose one request is the lookup of a safe identifier. -/
def GuardedLookup.ofLookup (railId : String) (verify : Receipt → Talk Bool)
    (proofFromSlice : FromSlice α) (segment : α → Option String) (request : String → Request)
    (base : String) (url : ∀ name, (request name).url.toList = base.toList ++ '/' :: name.toList)
    (asks : ∀ receipt question, (verify receipt).Asks question ↔ receipt.railId = railId ∧
      lookupRequest proofFromSlice segment request receipt.proof = some question) :
    GuardedLookup where
  railId := railId
  verify := verify
  safeId := fun proof => (proofFromSlice proof).toOption.bind segment
  base := base.toList
  request := request
  url := url
  asks_iff := by
    intro receipt question
    simp only [asks, lookupRequest_eq_some, Option.bind_eq_some_iff, Fallible.toOption_eq_some]
    constructor
    · intro ⟨own, found, name, decoded, safe, same⟩
      exact ⟨own, name, ⟨found, decoded, safe⟩, same⟩
    · intro ⟨own, name, ⟨found, decoded, safe⟩, same⟩
      exact ⟨own, found, name, decoded, safe, same⟩

/-- A name behind a fixed part and a slash. -/
theorem toList_joined {front fixed head name : String} (same : head = fixed ++ "/") :
    (front ++ (head ++ name)).toList = (front ++ fixed).toList ++ '/' :: name.toList := by
  subst same
  simp only [String.toList_append, List.append_assoc]
  rfl

/-- The rails that put the identifier of a proof into a path. -/
inductive GuardedRail where
  | btcpay (rail : BTCPay.BTCPayRail)
  | square (rail : Square.SquareRail)
  | stripe (rail : Stripe.StripeRail)
  | mollie (rail : Mollie.MollieRail)

/-- The lookup of each rail, in the form they share. -/
def GuardedRail.lookup : GuardedRail → GuardedLookup
  | btcpay rail => .ofLookup BTCPay.railId rail.verify rail.proofFromSlice
      (fun proof => (BTCPay.safePathSegment proof.invoiceId).toOption)
      (fun name => rail.jsonRequest .get (rail.invoicePath name) none)
      (rail.baseUrl ++ rail.invoicesPath)
      (fun name => by
        simp only [BTCPay.BTCPayRail.jsonRequest, BTCPay.BTCPayRail.invoicePath,
          String.toList_append, List.append_assoc]
        rfl)
      fun _ _ => rail.verify_asks
  | square rail => .ofLookup Square.railId rail.verify rail.proofFromSlice
      Square.ChargeProof.segment
      (fun name => rail.jsonRequest .get (Square.SquareRail.paymentPath name) none)
      (rail.apiBaseUrl ++ "/v2/payments")
      (fun _ => toList_joined (by decide)) fun _ _ => rail.verify_asks
  | stripe rail => .ofLookup Stripe.railId rail.verify rail.proofFromSlice
      (fun proof => (Stripe.safePathSegment proof.sessionId).toOption)
      (fun name => rail.formRequest .get (Stripe.StripeRail.sessionPath name) none none)
      (rail.baseUrl ++ "/checkout/sessions")
      (fun _ => toList_joined (by decide)) fun _ _ => rail.verify_asks
  | mollie rail => .ofLookup Mollie.railId rail.verify rail.proofFromSlice
      (fun proof => (Mollie.safePathSegment proof.paymentId).toOption)
      (fun name => rail.jsonRequest .get (Mollie.MollieRail.paymentPath name) none)
      (rail.baseUrl ++ "/payments") (fun _ => toList_joined (by decide))
      fun _ _ => rail.verify_asks

/-- On each rail a receipt's lookup is one segment behind the fixed part exactly when the
identifier its proof gives, if it gives one, is confined. -/
theorem lookup_one_segment_iff (rail : GuardedRail) (hostOk : List Char → Bool)
    (receipt : Receipt) :
    rail.lookup.OneSegment hostOk receipt ↔ ∀ name, receipt.railId = rail.lookup.railId →
      rail.lookup.safeId receipt.proof = some name → rail.lookup.Confined hostOk name :=
  rail.lookup.oneSegment_iff hostOk receipt

namespace Sample

def btcpayProof (proof : BTCPay.ChargeProof) : List UInt8 :=
  asBytes (Json.stringify (.object [("invoice_id", .string proof.invoiceId),
    ("checkout_link", .string proof.checkoutLink)]))

/-- A BTCPay rail of one store that reads one proof. -/
def storeBTCPay (invoiceId : String) : BTCPay.BTCPayRail where
  baseUrl := "https://pay.example"
  apiKey := "key"
  storeId := "mine"
  currencies := []
  proofToBytes := btcpayProof
  proofFromSlice := fun bytes =>
    if bytes = btcpayProof ⟨invoiceId, ""⟩ then .ok ⟨invoiceId, ""⟩ else .error "expected value"
  invoiceFromSlice := fun _ => .error "expected value"
  errorFromSlice := fun _ => .error "expected value"

/-- The id of an invoice of another store. -/
def otherInvoice : String := "..\\..\\other\\invoices\\1"

def storeHost (host : List Char) : Bool := host = "pay.example".toList

def storeReceipt : Receipt :=
  ⟨"btcpay", 0, "USD", ⟨"order", by decide⟩, btcpayProof ⟨otherInvoice, ""⟩, 0⟩

def storeQuestion : Request :=
  (storeBTCPay otherInvoice).jsonRequest .get ((storeBTCPay otherInvoice).invoicePath otherInvoice) none

theorem store_asks : ((storeBTCPay otherInvoice).verify storeReceipt).Asks storeQuestion :=
  BTCPay.BTCPayRail.verify_asks _ |>.mpr ⟨rfl, lookupRequest_eq_some.mpr
    ⟨⟨otherInvoice, ""⟩, otherInvoice, by simp [storeBTCPay, storeReceipt], by decide, rfl⟩⟩

/-- The path of the fixed part, of the configured store. -/
theorem store_path : UrlPath.parse storeHost
    (((storeBTCPay otherInvoice).baseUrl ++ (storeBTCPay otherInvoice).invoicesPath).toList ++ ['/']) =
      some (["api", "v1", "stores", "mine", "invoices"].map String.toList ++ [[]]) := by
  decide

theorem other_path : UrlPath.parse storeHost storeQuestion.url.toList =
    some (["api", "v1", "stores", "other", "invoices", "1"].map String.toList) := by
  decide

end Sample

/-- An identifier with backslashes makes `verify` ask for an invoice of another store. -/
theorem backslashes_leave_store :
    ¬ ∀ rail hostOk receipt, (GuardedRail.lookup rail).OneSegment hostOk receipt := by
  intro claim
  have one := claim (.btcpay (Sample.storeBTCPay Sample.otherInvoice)) Sample.storeHost
    Sample.storeReceipt
  obtain ⟨segments, segment, fixed, -, same⟩ := one _ Sample.store_asks _ Sample.other_path
  have own := List.append_inj_left' (Option.some.inj (fixed.symm.trans Sample.store_path)) rfl
  rw [own] at same
  exact absurd (congrArg (fun path => path.drop 3 |>.head?) same) (by simp)

end Patala.Fiat
