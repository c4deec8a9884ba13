import Patala.Fiat.Midtrans
import Patala.Fiat.PayU
import Patala.Fiat.Paystack
import Patala.Fiat.XenditInvoices
import Patala.Lib.UrlName

/-! The rails that keep a transaction under the caller's reference: `charge` sends it in a body
or a form, `verify` puts it into a URL or trims it. A receipt of `charge` verifies once its
transaction is settled exactly when what `verify` asks for names the reference `charge` sent, and
`verify` finds the settled transaction in the answer. -/

namespace Patala.Fiat

section Codes

theorem toUpper_toLower (c : Char) : c.toLower.toUpper = c.toUpper :=
  Codec.toLower_table (fun c lower => lower.toUpper = c.toUpper) (fun _ => rfl)
    (by decide) c

/-- A currency that is a code in some case is sent as the code. -/
theorem toAsciiUppercase_trim {text code : String} (same : eqIgnoreAsciiCase text code)
    (plain : ∀ c ∈ code.toList, isWhitespace c = false) :
    toAsciiUppercase (trim text) = toAsciiUppercase code := by
  have lowers : text.toList.map Char.toLower = code.toList.map Char.toLower :=
    String.ofList_injective (of_decide_eq_true same)
  have visible : ∀ c ∈ text.toList, isWhitespace c = false := by
    intro c member
    have lower : c.toLower ∈ code.toList.map Char.toLower := by
      rw [← lowers]
      exact List.mem_map_of_mem member
    obtain ⟨d, held, equal⟩ := List.mem_map.mp lower
    rw [← isWhitespace_toLower, ← equal, isWhitespace_toLower]
    exact plain d held
  have uppers : ∀ chars : List Char, (chars.map Char.toLower).map Char.toUpper =
      chars.map Char.toUpper := by
    intro chars
    rw [List.map_map]
    exact List.map_congr_left fun c _ => toUpper_toLower c
  rw [trim_of_plain visible, toAsciiUppercase, ← uppers, lowers, uppers, toAsciiUppercase]

end Codes

/-- The currency a rail sends for a request. -/
def requestedCurrency (req : PayRequest) : String := toAsciiUppercase (trim req.currency)

/-- A rail that keeps a transaction under the caller's reference. `asks` is what `verify` asks
for a reference and `judge` what it makes of the reply; `Keeps` says that a reply to `charge`
names the transaction by the reference it was sent, `Names` that a request names a reference to
the processor, and `Reports` that a reply says it is settled for an amount in a currency. Where
a reply lists several transactions, `Suffices` says that the one `verify` looks at is enough. -/
structure ReferenceLookup where
  railId : String
  charge : PayRequest → Talk Receipt
  verify : Receipt → Talk Bool
  asks : String → Option Request
  judge : Receipt → Reply → Except Error Bool
  Keeps : Reply → Str → Prop
  Names : (List Char → Bool) → Request → String → Prop
  Reports : Reply → String → String → UInt64 → Prop
  Suffices : Receipt → Reply → Prop
  positive : ∀ {req receipt transcript}, (charge req).Yields transcript (.ok receipt) →
    req.amountMinor ≠ 0
  charged : ∀ {req receipt transcript}, (charge req).Yields transcript (.ok receipt) →
    (∀ entry ∈ transcript, Keeps entry.2 req.reference) →
    receipt.railId = railId ∧ receipt.amountMinor = 0 ∧ receipt.reference = req.reference ∧
      receipt.currency = requestedCurrency req
  verify_eq : ∀ {receipt}, receipt.railId = railId → verify receipt =
    match asks receipt.reference.text with
    | none => return false
    | some question => .once question (judge receipt)
  judge_failed : ∀ receipt, judge receipt (.sendFailed "") ≠ .ok true
  judge_reported : ∀ {hostOk receipt question reply amount},
    asks receipt.reference.text = some question →
    Names hostOk question receipt.reference.text →
    Reports reply receipt.reference.text receipt.currency amount → amount ≠ 0 →
    receipt.amountMinor ≤ amount → (judge receipt reply = .ok true ↔ Suffices receipt reply)

namespace ReferenceLookup

variable (rail : ReferenceLookup) (hostOk : List Char → Bool)

/-- Every run of `verify` on the receipt says yes in which each request that names the sent
reference is answered with this reply. -/
def Completes (req : PayRequest) (receipt : Receipt) (reply : Reply) : Prop :=
  ∀ transcript result, (rail.verify receipt).Yields transcript result →
    (∀ entry ∈ transcript, rail.Names hostOk entry.1 req.reference.text → entry.2 = reply) →
    result = .ok true

/-- What `verify` asks for a reference names it. -/
def Asked (reference : String) : Prop :=
  ∃ question, rail.asks reference = some question ∧ rail.Names hostOk question reference

variable {rail} {req : PayRequest} {receipt : Receipt} {reply : Reply}
  {transcript : List (Request × Reply)}

/-- A receipt of `charge` completes with a reply that reports it settled exactly when its lookup
names the reference that was sent, and what `verify` looks at in the reply is enough. -/
theorem completes_iff (run : (rail.charge req).Yields transcript (.ok receipt))
    (kept : ∀ entry ∈ transcript, rail.Keeps entry.2 req.reference)
    (reports : rail.Reports reply req.reference.text (requestedCurrency req) req.amountMinor) :
    rail.Completes hostOk req receipt reply ↔
      rail.Asked hostOk req.reference.text ∧ rail.Suffices receipt reply := by
  have positive := rail.positive run
  obtain ⟨own, free, sent, currency⟩ := rail.charged run kept
  have verifies := rail.verify_eq own
  rw [← currency, ← sent] at reports
  rw [sent] at verifies
  have covered : receipt.amountMinor ≤ req.amountMinor := by
    rw [free]
    exact UInt64.zero_le
  have judged : ∀ {question}, rail.asks req.reference.text = some question →
      rail.Names hostOk question req.reference.text →
      (rail.judge receipt reply = .ok true ↔ rail.Suffices receipt reply) := by
    intro question asked named
    rw [← sent] at asked named
    exact rail.judge_reported asked named reports positive covered
  constructor
  · intro completes
    cases asked : rail.asks req.reference.text with
    | none =>
      rw [asked] at verifies
      have refused := completes [] (.ok false) (by simp [verifies]) (by simp)
      cases refused
    | some question =>
      rw [asked] at verifies
      have run : ∀ reply, (rail.verify receipt).Yields [(question, reply)]
          (rail.judge receipt reply) := by
        intro reply
        rw [verifies]
        exact Dialogue.yields_once.mpr ⟨_, rfl, rfl⟩
      by_cases named : rail.Names hostOk question req.reference.text
      · refine ⟨⟨question, asked, named⟩, (judged asked named).mp (completes _ _ (run reply) ?_)⟩
        intro entry member _
        rw [List.mem_singleton.mp member]
      · -- The processor need not answer a request that names another transaction.
        refine absurd (completes _ _ (run (.sendFailed "")) ?_) (rail.judge_failed receipt)
        intro entry member named'
        rw [List.mem_singleton.mp member] at named'
        exact absurd named' named
  · rintro ⟨⟨question, asked, named⟩, enough⟩ transcript result run answered
    rw [verifies, asked] at run
    obtain ⟨replied, same, ended⟩ := Dialogue.yields_once.mp run
    subst same ended
    have replied_eq : replied = reply := answered _ (List.mem_singleton_self _) named
    rw [replied_eq]
    exact (judged asked named).mpr enough

end ReferenceLookup

/-- The URL names a reference by one segment of its path, between fixed ones. -/
def SegmentNames (hostOk : List Char → Bool) (base : String) (before after : List String)
    (question : Request) (reference : String) : Prop :=
  ∃ path segment, UrlPath.parse hostOk (base.toList ++ ['/']) = some (path ++ [[]]) ∧
    UrlPath.parse hostOk question.url.toList =
      some (path ++ before.map String.toList ++ [segment] ++ after.map String.toList) ∧
    UrlPath.percentDecode segment = UrlPath.utf8 reference.toList

/-- The URL names a reference by the value of a key of its query. -/
def QueryNames (hostOk : List Char → Bool) (base : String) (page : List String) (key : String)
    (question : Request) (reference : String) : Prop :=
  ∃ path, UrlPath.parse hostOk (base.toList ++ ['/']) = some (path ++ [[]]) ∧
    UrlPath.parse hostOk question.url.toList = some (path ++ page.map String.toList) ∧
    UrlPath.queryValue key.toList question.url.toList = some (UrlPath.utf8 reference.toList)

/-- The form names a reference by the value of a key. -/
def FormNames (key : String) (question : Request) (reference : String) : Prop :=
  ∃ fields, question.payload = some (.form fields) ∧ lastValue fields key = some reference

theorem segmentNames_iff {hostOk : List Char → Bool} {base : String} {before after : List String}
    {question : Request} {reference : String} {path : List UrlPath.Segment}
    (based : UrlPath.parse hostOk (base.toList ++ ['/']) = some (path ++ [[]])) :
    SegmentNames hostOk base before after question reference ↔ ∃ segment,
      UrlPath.parse hostOk question.url.toList =
        some (path ++ before.map String.toList ++ [segment] ++ after.map String.toList) ∧
      UrlPath.percentDecode segment = UrlPath.utf8 reference.toList := by
  constructor
  · rintro ⟨path', segment, based', parsed, decoded⟩
    have same := List.append_inj_left' (Option.some.inj (based.symm.trans based')) rfl
    subst same
    exact ⟨segment, parsed, decoded⟩
  · rintro ⟨segment, parsed, decoded⟩
    exact ⟨path, segment, based, parsed, decoded⟩

/-- The base URL has no query or fragment, and the URL parser takes it. -/
def Served (hostOk : List Char → Bool) (base : String) : Prop :=
  (∀ c ∈ base.toList, ¬ UrlPath.endsPath c) ∧
    ∃ path, UrlPath.parse hostOk (base.toList ++ ['/']) = some path

theorem Served.path {hostOk : List Char → Bool} {base : String} (served : Served hostOk base) :
    ∃ path, UrlPath.parse hostOk (base.toList ++ ['/']) = some (path ++ [[]]) := by
  obtain ⟨plain, whole, parsed⟩ := served
  obtain ⟨path, same, -⟩ := UrlPath.parse_append plain parsed
  exact ⟨path, same ▸ parsed⟩

/-- What the path guard lets through. -/
theorem safePathSegment_plain {what s segment : String}
    (safe : safePathSegment what s = .ok segment) :
    s.toList ≠ [] ∧ (∀ c ∈ s.toList, c.toNat < 128) ∧ '/' ∉ s.toList ∧
      ∀ c ∈ s.toList, UrlPath.endsPath c = false ∧ UrlPath.isTabOrNewline c = false := by
  unfold safePathSegment at safe
  split at safe
  · cases safe
  · rename_i plain
    simp only [not_or, List.any_eq_true, Bool.not_eq_true', List.all_eq_false,
      decide_eq_true_eq, not_exists, not_and, not_not] at plain
    obtain ⟨named, special, ascii⟩ := plain
    refine ⟨fun empty => named (String.toList_eq_nil_iff.mp empty), ascii,
      fun slash => special '/' slash (by decide), fun c member => ?_⟩
    constructor
    · by_contra ends
      have ends : UrlPath.endsPath c := by simpa using ends
      rcases (by simpa [UrlPath.endsPath] using ends : c = '?' ∨ c = '#') with mark | mark
      · exact special c member (by rw [mark]; decide)
      · exact special c member (by rw [mark]; decide)
    · by_contra invisible
      have invisible : UrlPath.isTabOrNewline c := by simpa using invisible
      rcases (by simpa [UrlPath.isTabOrNewline, or_assoc] using invisible :
        c = '\t' ∨ c = '\n' ∨ c = '\r') with mark | mark | mark
      · exact special c member (by rw [mark]; decide)
      · exact special c member (by rw [mark]; decide)
      · exact special c member (by rw [mark]; decide)

theorem toList_behind {front head name : String} (fixed : List Char)
    (same : head.toList = '/' :: fixed) :
    (front ++ (head ++ name)).toList = front.toList ++ '/' :: (fixed ++ name.toList) := by
  rw [String.toList_append, String.toList_append, same, List.cons_append]

section Guarded

variable {guard : String → Except Error String} {request : String → Request}
  {reference : String}

/-- What is asked behind a guard names a reference that the guard lets through. -/
theorem asked_guarded {Names : Request → Prop}
    (same : ∀ {s name}, guard s = .ok name → name = s) :
    (∃ question, (guard reference).toOption.map request = some question ∧ Names question) ↔
      (∃ name, guard reference = .ok name) ∧ Names (request reference) := by
  cases safe : guard reference with
  | error => simp [Except.toOption]
  | ok name =>
    rw [same safe]
    simp [Except.toOption]

variable {label : String} {path : String → String} {classifyError : UInt16 → List UInt8 → Error}
  {fromSlice : FromSlice α} {settles : α → String → Bool}

/-- What a verifier behind a guard makes of a reply. -/
def judgement (label : String) (path : String → String)
    (classifyError : UInt16 → List UInt8 → Error) (fromSlice : FromSlice α)
    (settles : α → String → Bool) (reference : String) (reply : Reply) : Except Error Bool :=
  (reply.read label (path reference) classifyError fromSlice).map fun value =>
    settles value reference

/-- A verifier behind a guard asks for what it lets through, and judges the reply. -/
theorem guarded_eq (same : ∀ {s name}, guard s = .ok name → name = s) :
    (match guard reference with
    | .error _ => return false
    | .ok name => do
      let value ← fetch label (path name) (request name) classifyError fromSlice
      return settles value name : Talk Bool) =
    match (guard reference).toOption.map request with
    | none => return false
    | some question =>
      .once question (judgement label path classifyError fromSlice settles reference) := by
  cases safe : guard reference with
  | error => rfl
  | ok name =>
    rw [same safe]
    show (fetch label (path reference) (request reference) classifyError fromSlice >>=
      fun value => pure (settles value reference)) = _
    rw [fetch_eq_once, Dialogue.once_bind_pure]
    rfl

theorem judgement_failed :
    judgement label path classifyError fromSlice settles reference (.sendFailed "") ≠ .ok true := by
  intro judged
  cases judged

theorem judgement_decoded {reply : Reply} {value : α} (decoded : reply.decoded fromSlice = some value) :
    judgement label path classifyError fromSlice settles reference reply = .ok true ↔
      settles value reference = true := by
  rw [judgement, Reply.read_eq_ok.mpr decoded, Except.map, Except.ok.injEq]

/-- A charge that validates its request first is of a positive amount. -/
theorem positive_of_charge {req : PayRequest} {rest : Unit → Talk Receipt} {receipt : Receipt}
    {transcript : List (Request × Reply)}
    (run : (liftM req.validate >>= rest).Yields transcript (.ok receipt)) : req.amountMinor ≠ 0 := by
  obtain ⟨_, valid, -⟩ := Dialogue.yields_lift_bind_ok.mp run
  exact PayRequest.amount_ne_zero valid

end Guarded

namespace Midtrans.MidtransRail

variable (rail : MidtransRail)

/-- The reply says the reference is settled for an amount in a currency. -/
def Reports (reply : Reply) (reference currency : String) (amount : UInt64) : Prop :=
  ∃ s, reply.decoded rail.statusFromSlice = some s ∧ s.orderId = reference ∧
    s.transactionId ≠ "" ∧ s.Settling ∧ eqIgnoreAsciiCase s.currencyOrIdr currency ∧
    majorStringToMinor s.grossAmount s.currencyOrIdr = .ok amount

theorem charge_currency {req : PayRequest} {receipt : Receipt} {transcript : List (Request × Reply)}
    (run : (rail.charge req).Yields transcript (.ok receipt)) :
    receipt.currency = requestedCurrency req := by
  obtain ⟨-, -, currency, -⟩ := rail.charge_ensures transcript receipt run
  obtain ⟨_, -, run⟩ := Dialogue.yields_lift_bind_ok.mp run
  obtain ⟨_, rupiah, -⟩ := Dialogue.yields_lift_bind_ok.mp run
  rw [currency, requestedCurrency, toAsciiUppercase_trim (insist_ok_iff.mp rupiah)
    (Codec.forall_mem_of_all (by decide))]
  decide

def referenceLookup : ReferenceLookup where
  railId := railId
  charge := rail.charge
  verify := rail.verify
  asks := fun reference => (safePathSegment reference).toOption.map fun segment =>
    rail.request rail.coreBaseUrl .get (statusPath segment) none
  judge := fun receipt => judgement "midtrans" statusPath rail.classifyError rail.statusFromSlice
    (fun parsed reference => parsed.settles reference receipt) receipt.reference.text
  Keeps := fun _ _ => True
  Names := fun hostOk => SegmentNames hostOk rail.coreBaseUrl [] ["status"]
  Reports := rail.Reports
  Suffices := fun _ _ => True
  positive := positive_of_charge
  charged := by
    intro req receipt transcript run _
    obtain ⟨own, free, -, sent⟩ := rail.charge_ensures transcript receipt run
    exact ⟨own, free, sent, rail.charge_currency run⟩
  verify_eq := by
    intro receipt own
    unfold verify
    rw [if_neg (not_not.mpr own)]
    exact guarded_eq safePathSegment_ok
  judge_failed := fun _ => judgement_failed
  judge_reported := by
    intro hostOk receipt question reply amount asked _ reports positive enough
    obtain ⟨s, read, order, numbered, settling, currency, worth⟩ := reports
    obtain ⟨segment, safe, -⟩ := Option.map_eq_some_iff.mp asked
    have named : s.orderId ≠ "" := by
      rw [order, ne_eq, ← String.toList_eq_nil_iff]
      exact (safePathSegment_plain (Fallible.toOption_eq_some.mp safe)).1
    have evaluated := evaluateStatus_ok.mpr
      ⟨named, numbered, amount, worth, fun _ => positive, rfl⟩
    rw [judgement_decoded read]
    simp [MidtransTransactionStatus.settles, order, evaluated, settling, currency, enough]

/-- `verify` asks for a sent reference exactly when the guard lets it through and it reads back
from a segment. -/
theorem asked_iff {hostOk : List Char → Bool} (served : Served hostOk rail.coreBaseUrl)
    {reference : String} : rail.referenceLookup.Asked hostOk reference ↔
      (∃ name, safePathSegment reference = .ok name) ∧ UrlPath.ReadsBack reference.toList := by
  obtain ⟨path, based⟩ := served.path
  refine (asked_guarded safePathSegment_ok).trans (and_congr_right fun ⟨name, safe⟩ => ?_)
  obtain ⟨-, ascii, slashless, plain⟩ := safePathSegment_plain safe
  have url : (rail.request rail.coreBaseUrl .get (statusPath reference) none).url.toList =
      rail.coreBaseUrl.toList ++ '/' :: (reference.toList ++ '/' :: "status".toList) := by
    simp only [request, statusPath, String.toList_append, List.append_assoc]
    rfl
  have all : ∀ c ∈ reference.toList ++ '/' :: "status".toList,
      UrlPath.endsPath c = false ∧ UrlPath.isTabOrNewline c = false := by
    intro c member
    rcases List.mem_append.mp member with member | member
    · exact plain c member
    · have fixed : ∀ c ∈ '/' :: "status".toList,
          UrlPath.endsPath c = false ∧ UrlPath.isTabOrNewline c = false :=
        Codec.forall_mem_of_all (by decide)
      exact fixed c member
  have stays : ∀ path, UrlPath.resolve path (UrlPath.pieces "status".toList) =
      path ++ ["status".toList] := by
    intro path
    rw [show UrlPath.pieces "status".toList = ["status".toList] by decide]
    rfl
  refine (segmentNames_iff based).trans ?_
  rw [url, ← UrlPath.parse_name_before_iff served.1 based (fun c member => (all c member).1)
    (fun c member => (all c member).2) (by decide) stays ascii slashless]
  simp

end Midtrans.MidtransRail

namespace Paystack.PaystackRail

variable (rail : PaystackRail)

/-- The reply names the transaction it opens by no other reference. -/
def Keeps (reply : Reply) (reference : Str) : Prop :=
  ∀ parsed, reply.decoded rail.initializeFromSlice = some parsed →
    parsed.data.reference.text = "" ∨ parsed.data.reference = reference

theorem charge_receipt {req : PayRequest} {receipt : Receipt} {transcript : List (Request × Reply)}
    (run : (rail.charge req).Yields transcript (.ok receipt))
    (kept : ∀ entry ∈ transcript, rail.Keeps entry.2 req.reference) :
    receipt.reference = req.reference ∧ receipt.currency = requestedCurrency req := by
  obtain ⟨_, -, run⟩ := Dialogue.yields_lift_bind_ok.mp run
  obtain ⟨_, -, run⟩ := Dialogue.yields_lift_bind_ok.mp run
  obtain ⟨_, -, run⟩ := Dialogue.yields_lift_bind_ok.mp run
  obtain ⟨parsed, before, after, joined, fetched, run⟩ := Dialogue.yields_bind_ok.mp run
  obtain ⟨reply, body, asked, read⟩ := fetch_ok.mp fetched
  obtain ⟨_, -, run⟩ := Dialogue.yields_lift_bind_ok.mp run
  obtain ⟨-, written⟩ := Dialogue.yields_pure.mp run
  have named := kept (_, reply) (by rw [joined, asked]; exact List.mem_cons_self) parsed
    (Reply.decoded_eq_some.mpr ⟨body, read⟩)
  cases written
  refine ⟨?_, rfl⟩
  show (if parsed.data.reference.text = "" then req.reference else parsed.data.reference) = _
  split
  · rfl
  · rename_i other
    exact named.resolve_left other

def referenceLookup : ReferenceLookup where
  railId := railId
  charge := rail.charge
  verify := rail.verify
  asks := rail.lookupRequest
  judge := fun receipt => judgement "paystack" verifyPath rail.classifyError rail.verifyFromSlice
    (fun parsed reference => parsed.settles reference receipt) receipt.reference.text
  Keeps := rail.Keeps
  Names := fun hostOk => SegmentNames hostOk rail.baseUrl ["transaction", "verify"] []
  Reports := rail.Reports
  Suffices := fun _ _ => True
  positive := positive_of_charge
  charged := by
    intro req receipt transcript run kept
    obtain ⟨own, free⟩ := rail.charge_ensures transcript receipt run
    exact ⟨own, free, rail.charge_receipt run kept⟩
  verify_eq := by
    intro receipt own
    unfold verify
    rw [if_neg (not_not.mpr own)]
    exact guarded_eq safePathSegment_ok
  judge_failed := fun _ => judgement_failed
  judge_reported := by
    intro hostOk receipt question reply amount _ _ ⟨parsed, read, reported⟩ _ enough
    rw [judgement_decoded read, iff_true]
    exact VerifyResponse.settles_iff.mpr ⟨amount, reported, enough⟩

/-- `verify` asks for a sent reference exactly when the guard lets it through, it reads back from
a segment, and nothing is trimmed from its end. -/
theorem asked_iff {hostOk : List Char → Bool} (served : Served hostOk rail.baseUrl)
    {reference : String} : rail.referenceLookup.Asked hostOk reference ↔
      (∃ name, safePathSegment reference = .ok name) ∧ UrlPath.ReadsBack reference.toList ∧
        reference.toList.rdropWhile UrlPath.isC0OrSpace = reference.toList := by
  obtain ⟨path, based⟩ := served.path
  refine (asked_guarded safePathSegment_ok).trans (and_congr_right fun ⟨name, safe⟩ => ?_)
  obtain ⟨nonempty, ascii, slashless, plain⟩ := safePathSegment_plain safe
  have url : (rail.jsonRequest .get (verifyPath reference) none).url.toList =
      rail.baseUrl.toList ++ '/' :: ("transaction/verify".toList ++ '/' :: reference.toList) := by
    show (rail.baseUrl ++ ("/transaction/verify/" ++ reference)).toList = _
    rw [toList_behind "transaction/verify/".toList (by decide)]
    simp
  have all : ∀ c ∈ "transaction/verify".toList ++ '/' :: reference.toList,
      UrlPath.endsPath c = false ∧ UrlPath.isTabOrNewline c = false := by
    intro c member
    have split : c ∈ "transaction/verify".toList ++ ['/'] ∨ c ∈ reference.toList := by
      simpa [or_assoc] using member
    rcases split with fixed | own
    · have table : ∀ c ∈ "transaction/verify".toList ++ ['/'],
          UrlPath.endsPath c = false ∧ UrlPath.isTabOrNewline c = false :=
        Codec.forall_mem_of_all (by decide)
      exact table c fixed
    · exact plain c own
  have stays : ∀ path, UrlPath.walk path (UrlPath.pieces "transaction/verify".toList) =
      path ++ ["transaction".toList, "verify".toList] := by
    intro path
    rw [show UrlPath.pieces "transaction/verify".toList =
      ["transaction".toList, "verify".toList] by decide]
    show (path ++ ["transaction".toList]) ++ ["verify".toList] = _
    simp
  refine (segmentNames_iff based).trans ?_
  rw [url, ← UrlPath.parse_name_behind_iff served.1 based (fun c member => (all c member).1)
    (fun c member => (all c member).2) stays ascii slashless nonempty]
  simp

end Paystack.PaystackRail

namespace Xendit.XenditRail

variable (rail : XenditRail)

/-- One of the invoices in the reply says the reference is settled for an amount in a currency. -/
def Reports (reply : Reply) (reference currency : String) (amount : UInt64) : Prop :=
  ∃ invoices inv text, reply.decoded rail.invoicesFromSlice = some invoices ∧ inv ∈ invoices ∧
    inv.externalId = reference ∧ inv.id ≠ "" ∧ (inv.status = "PAID" ∨ inv.status = "SETTLED") ∧
    eqIgnoreAsciiCase inv.currency currency ∧
    rail.xenditNumberToString inv.settledField = some text ∧ text ≠ "" ∧
    majorStringToMinor text inv.currency = .ok amount

/-- The first invoice of the reply is enough to judge it by. -/
def Suffices (receipt : Receipt) (reply : Reply) : Prop :=
  ∀ first rest, reply.decoded rail.invoicesFromSlice = some (first :: rest) →
    rail.FirstSuffices receipt first rest

/-- A reply with a settled invoice is accepted exactly when its first invoice is enough. -/
theorem settles_reported_iff {receipt : Receipt} {reply : Reply} {invoices : List XenditInvoice}
    {inv : XenditInvoice} (nonempty : receipt.reference.text ≠ "")
    (read : reply.decoded rail.invoicesFromSlice = some invoices) (listed : inv ∈ invoices)
    (pays : rail.Pays receipt inv) :
    rail.settles invoices receipt.reference.text receipt = true ↔ rail.Suffices receipt reply := by
  cases invoices with
  | nil => cases listed
  | cons first rest =>
    have first_iff : rail.Suffices receipt reply ↔ rail.FirstSuffices receipt first rest := by
      unfold Suffices
      rw [read]
      constructor
      · intro enough
        exact enough first rest rfl
      · intro enough first' rest' same
        cases same
        exact enough
    rw [first_iff, ← settles_exact_iff nonempty]
    exact (iff_true_right ⟨inv, listed, pays⟩).symm

def referenceLookup : ReferenceLookup where
  railId := railId
  charge := rail.charge
  verify := rail.verify
  asks := fun reference => (safeQueryValue reference).toOption.map fun value =>
    rail.jsonRequest .get (verifyPath value) none
  judge := fun receipt => judgement "xendit" verifyPath rail.classifyError rail.invoicesFromSlice
    (fun invoices reference => rail.settles invoices reference receipt) receipt.reference.text
  Keeps := fun _ _ => True
  Names := fun hostOk => QueryNames hostOk rail.baseUrl ["v2", "invoices"] "external_id"
  Reports := rail.Reports
  Suffices := rail.Suffices
  positive := positive_of_charge
  charged := by
    intro req receipt transcript run _
    obtain ⟨own, free, currency, sent⟩ := rail.charge_ensures transcript receipt run
    exact ⟨own, free, sent, currency⟩
  verify_eq := by
    intro receipt own
    unfold verify
    rw [if_neg (not_not.mpr own)]
    exact guarded_eq fun safe => (safeQueryValue_ok safe).1
  judge_failed := fun _ => judgement_failed
  judge_reported := by
    intro hostOk receipt question reply amount asked _ reports positive enough
    obtain ⟨invoices, inv, text, read, listed, own, named, paid, currency, field, present, worth⟩ :=
      reports
    obtain ⟨value, safe, -⟩ := Option.map_eq_some_iff.mp asked
    have pays : rail.Pays receipt inv :=
      ⟨⟨own, named, paid, currency⟩, text, amount, field, present, worth, positive, enough⟩
    rw [judgement_decoded read]
    exact rail.settles_reported_iff (safeQueryValue_nonempty (Fallible.toOption_eq_some.mp safe))
      read listed pays

/-- `verify` asks for a sent reference exactly when the guard lets it through, form decoding
keeps it, and nothing is trimmed from its end. -/
theorem asked_iff {hostOk : List Char → Bool} (served : Served hostOk rail.baseUrl)
    {reference : String} : rail.referenceLookup.Asked hostOk reference ↔
      (∃ value, safeQueryValue reference = .ok value) ∧
        UrlPath.formDecode reference.toList = UrlPath.utf8 reference.toList ∧
        reference.toList.rdropWhile UrlPath.isC0OrSpace = reference.toList := by
  obtain ⟨path, based⟩ := served.path
  refine (asked_guarded fun safe => (safeQueryValue_ok safe).1).trans
    (and_congr_right fun guarded => ?_)
  obtain ⟨value, safe⟩ := guarded
  obtain ⟨-, ascii, special⟩ := safeQueryValue_ok safe
  have url : (rail.jsonRequest .get (verifyPath reference) none).url.toList =
      rail.baseUrl.toList ++ '/' :: ("v2/invoices".toList ++ '?' ::
        ("external_id".toList ++ '=' :: reference.toList)) := by
    show (rail.baseUrl ++ ("/v2/invoices?external_id=" ++ reference)).toList = _
    rw [toList_behind "v2/invoices?external_id=".toList (by decide)]
    simp
  have plain : ∀ c ∈ reference.toList, UrlPath.endsValue c = false := by
    intro c member
    by_contra ends
    have ends : UrlPath.endsValue c := by simpa using ends
    apply special c member
    rcases (by simpa [UrlPath.endsValue, UrlPath.isTabOrNewline, or_assoc] using ends :
      c = '&' ∨ c = '#' ∨ c = '\t' ∨ c = '\n' ∨ c = '\r') with mark | mark | mark | mark | mark
    all_goals rw [mark]; decide
  have word : ∀ c ∈ "external_id".toList, UrlPath.isWord c :=
    Codec.forall_mem_of_all (by decide)
  have page : ∀ c ∈ "v2/invoices".toList, UrlPath.endsPath c = false :=
    Codec.forall_mem_of_all (by decide)
  have visible : ∀ c ∈ "v2/invoices".toList, UrlPath.isTabOrNewline c = false :=
    Codec.forall_mem_of_all (by decide)
  obtain ⟨path', same, onward⟩ := UrlPath.parse_append served.1 based
  have equal := List.append_inj_left' same rfl
  subst equal
  have parsed : UrlPath.parse hostOk (rail.jsonRequest .get (verifyPath reference) none).url.toList =
      some (path ++ ["v2", "invoices"].map String.toList) := by
    rw [url, onward, UrlPath.remainder_query _ page visible,
      show UrlPath.pieces "v2/invoices".toList = ["v2".toList, "invoices".toList] by decide]
    show some (path ++ ["v2".toList] ++ ["invoices".toList]) = _
    simp
  rw [← UrlPath.queryValue_name_iff served.1 page word ascii plain, ← url]
  constructor
  · rintro ⟨_, _, _, named⟩
    exact named
  · intro named
    exact ⟨path, based, parsed, named⟩

end Xendit.XenditRail

namespace PayU.PayURail

variable (rail : PayURail)

/-- The reply says the reference is settled for an amount in a currency. -/
def Reports (reply : Reply) (reference currency : String) (amount : UInt64) : Prop :=
  ∃ parsed detail, reply.decoded rail.verifyFromSlice = some parsed ∧
    parsed.transactionDetails reference = some detail ∧
    (detail.txnId = "" ∨ detail.txnId = reference) ∧ eqIgnoreAsciiCase detail.status "success" ∧
    detail.mihpayid ≠ "" ∧ majorStringToMinor detail.amount "INR" = .ok amount ∧ amount ≠ 0 ∧
    eqIgnoreAsciiCase currency "INR"

def asks (reference : String) : Option Request :=
  if trim reference = "" then none else some (rail.verifyRequest (trim reference))

/-- What is asked names the trimmed reference. -/
theorem asks_named {reference : String} {question : Request}
    (asked : rail.asks reference = some question) :
    FormNames "var1" question reference ↔ trim reference = reference := by
  unfold asks at asked
  split at asked
  · cases asked
  · cases asked
    have field : ∀ hash, lastValue [("key", rail.merchantKey), ("command", "verify_payment"),
        ("var1", trim reference), ("hash", hash)] "var1" = some (trim reference) := by
      intro hash
      simp [lastValue]
    constructor
    · rintro ⟨fields, sent, named⟩
      cases sent
      exact Option.some.inj ((field _).symm.trans named)
    · intro same
      exact ⟨_, rfl, (field _).trans (congrArg some same)⟩

theorem charge_currency {req : PayRequest} {receipt : Receipt} {transcript : List (Request × Reply)}
    (run : (rail.charge req).Yields transcript (.ok receipt)) :
    receipt.currency = requestedCurrency req := by
  obtain ⟨-, -, currency, -⟩ := rail.charge_ensures transcript receipt run
  obtain ⟨_, -, run⟩ := Dialogue.yields_lift_bind_ok.mp run
  obtain ⟨_, listed, -⟩ := Dialogue.yields_lift_bind_ok.mp run
  have rupee : eqIgnoreAsciiCase req.currency "INR" := by
    simpa [contains, eqIgnoreAsciiCase, eq_comm] using insist_ok_iff.mp listed
  rw [currency, requestedCurrency, toAsciiUppercase_trim rupee (Codec.forall_mem_of_all (by decide))]
  decide

def referenceLookup : ReferenceLookup where
  railId := railId
  charge := rail.charge
  verify := rail.verify
  asks := rail.asks
  judge := fun receipt reply => (rail.readVerify reply).map fun parsed =>
    parsed.settles (trim receipt.reference.text) receipt
  Keeps := fun _ _ => True
  Names := fun _ => FormNames "var1"
  Reports := rail.Reports
  Suffices := fun _ _ => True
  positive := positive_of_charge
  charged := by
    intro req receipt transcript run _
    obtain ⟨own, free, -, sent⟩ := rail.charge_ensures transcript receipt run
    exact ⟨own, free, sent, rail.charge_currency run⟩
  verify_eq := by
    intro receipt own
    unfold verify asks
    by_cases blank : trim receipt.reference.text = ""
    · simp [own, blank]
    · simp only [own, blank, ne_eq, not_true_eq_false, ↓reduceIte]
      exact Dialogue.once_bind_pure
  judge_failed := by
    intro receipt judged
    cases judged
  judge_reported := by
    intro hostOk receipt question reply amount asked named reports _ enough
    obtain ⟨parsed, detail, read, found, own, success, payment, worth, positive, rupee⟩ := reports
    rw [(rail.asks_named asked).mp named, rail.readVerify_eq_ok.mpr read, Except.map]
    simp [PayUVerifyResponse.settles, found, PayUVerifyTransactionDetail.settles,
      isSettledSuccessCi, own, success, payment, worth, positive, rupee, enough]

/-- `verify` asks for a sent reference exactly when it is not blank and trimming keeps it. -/
theorem asked_iff {hostOk : List Char → Bool} {reference : String} :
    rail.referenceLookup.Asked hostOk reference ↔ reference ≠ "" ∧ trim reference = reference := by
  have asks_eq : rail.referenceLookup.asks = rail.asks := rfl
  unfold ReferenceLookup.Asked
  rw [asks_eq]
  constructor
  · rintro ⟨question, asked, named⟩
    have same := (rail.asks_named asked).mp named
    refine ⟨fun empty => ?_, same⟩
    rw [empty] at asked
    cases asked
  · rintro ⟨nonempty, same⟩
    have asked : rail.asks reference = some (rail.verifyRequest reference) := by
      rw [asks, same, if_neg nonempty]
    exact ⟨_, asked, (rail.asks_named asked).mpr same⟩

end PayU.PayURail

/-- The rails whose transactions are kept under the caller's reference. -/
inductive SentReferenceRail where
  | midtrans (rail : Midtrans.MidtransRail)
  | xendit (rail : Xendit.XenditRail)
  | paystack (rail : Paystack.PaystackRail)
  | payu (rail : PayU.PayURail)

namespace SentReferenceRail

/-- The two calls of each rail, in the form they share. -/
def lookup : SentReferenceRail → ReferenceLookup
  | midtrans rail => rail.referenceLookup
  | xendit rail => rail.referenceLookup
  | paystack rail => rail.referenceLookup
  | payu rail => rail.referenceLookup

/-- The URL parser takes the base of a rail's lookups. PayU has one URL for all of them. -/
def Served (hostOk : List Char → Bool) : SentReferenceRail → Prop
  | midtrans rail => Fiat.Served hostOk rail.coreBaseUrl
  | xendit rail => Fiat.Served hostOk rail.baseUrl
  | paystack rail => Fiat.Served hostOk rail.baseUrl
  | payu _ => True

/-- The references that each rail finds again. In a path the guard lets them through and they
percent-decode to themselves, without a backslash and not as a dot segment; in a query they
form-decode to themselves; and what stands at the end of a URL, or in a form, is not trimmed. -/
def Finds (reference : String) : SentReferenceRail → Prop
  | midtrans _ => (∃ name, Midtrans.safePathSegment reference = .ok name) ∧
      UrlPath.ReadsBack reference.toList
  | xendit _ => (∃ value, Xendit.safeQueryValue reference = .ok value) ∧
      UrlPath.formDecode reference.toList = UrlPath.utf8 reference.toList ∧
      reference.toList.rdropWhile UrlPath.isC0OrSpace = reference.toList
  | paystack _ => (∃ name, Paystack.safePathSegment reference = .ok name) ∧
      UrlPath.ReadsBack reference.toList ∧
      reference.toList.rdropWhile UrlPath.isC0OrSpace = reference.toList
  | payu _ => reference ≠ "" ∧ trim reference = reference

/-- What each rail finds the settled transaction in: any reply, but at Xendit, where a reply lists
the invoices of a reference, one whose first invoice is enough. -/
def Suffices (receipt : Receipt) (reply : Reply) : SentReferenceRail → Prop
  | xendit rail => ∀ first rest, reply.decoded rail.invoicesFromSlice = some (first :: rest) →
      rail.FirstSuffices receipt first rest
  | midtrans _ | paystack _ | payu _ => True

theorem suffices_iff {rail : SentReferenceRail} {receipt : Receipt} {reply : Reply} :
    rail.lookup.Suffices receipt reply ↔ rail.Suffices receipt reply := by
  cases rail <;> exact Iff.rfl

theorem asked_iff {hostOk : List Char → Bool} {rail : SentReferenceRail}
    (served : rail.Served hostOk) {reference : String} :
    rail.lookup.Asked hostOk reference ↔ rail.Finds reference := by
  cases rail with
  | midtrans rail => exact rail.asked_iff served
  | xendit rail => exact rail.asked_iff served
  | paystack rail => exact rail.asked_iff served
  | payu rail => exact rail.asked_iff

end SentReferenceRail

/-- On each rail the receipt of a charge verifies with a reply that reports its transaction
settled under the reference that was sent exactly when the rail finds that reference again, and
finds the transaction in the reply. -/
theorem charged_completes_iff (rail : SentReferenceRail) (hostOk : List Char → Bool)
    (served : rail.Served hostOk) {req : PayRequest} {receipt : Receipt}
    {transcript : List (Request × Reply)}
    (run : (rail.lookup.charge req).Yields transcript (.ok receipt))
    (kept : ∀ entry ∈ transcript, rail.lookup.Keeps entry.2 req.reference) {reply : Reply}
    (reports : rail.lookup.Reports reply req.reference.text (requestedCurrency req)
      req.amountMinor) :
    rail.lookup.Completes hostOk req receipt reply ↔
      rail.Finds req.reference.text ∧ rail.Suffices receipt reply :=
  (rail.lookup.completes_iff hostOk run kept reports).trans
    (and_congr (SentReferenceRail.asked_iff served) SentReferenceRail.suffices_iff)

namespace Sample

def createdText : String := "\x7b\"token\":\"66e4fa55\"," ++
  "\"redirect_url\":\"https://app.midtrans.com/snap/v2/vtweb/66e4fa55\"\x7d"

def redirectProof : String :=
  "\x7b\"redirect_url\":\"https://app.midtrans.com/snap/v2/vtweb/66e4fa55\"\x7d"

/-- The answer that an order is settled. -/
def settlementText (order : String) : String := "\x7b\"order_id\":\"" ++ order ++
  "\",\"transaction_id\":\"be03df7d\",\"transaction_status\":\"settlement\"," ++
  "\"gross_amount\":\"50000.00\",\"currency\":\"IDR\",\"status_code\":\"200\"\x7d"

def settlementStatus (order : String) : Midtrans.MidtransTransactionStatus where
  orderId := order
  transactionId := "be03df7d"
  transactionStatus := "settlement"
  fraudStatus := ""
  grossAmount := "50000.00"
  currency := "IDR"
  statusCode := "200"
  signatureKey := ""

/-- A Midtrans rail that reads its answer to `charge`, and the answers for two orders. -/
def snapMidtrans : Midtrans.MidtransRail where
  serverKey := "key"
  snapBaseUrl := Midtrans.snapApiBase
  coreBaseUrl := Midtrans.coreApiBase
  sha512 := fun _ => []
  proofToBytes := fun _ => asBytes redirectProof
  createFromSlice := fun bytes =>
    if bytes = asBytes createdText then
      .ok ⟨"https://app.midtrans.com/snap/v2/vtweb/66e4fa55"⟩
    else .error "expected value"
  statusFromSlice := fun bytes =>
    if bytes = asBytes (settlementText "INV-2024-001") then .ok (settlementStatus "INV-2024-001")
    else if bytes = asBytes (settlementText "INV/2024/001") then
      .ok (settlementStatus "INV/2024/001")
    else .error "expected value"
  errorFromSlice := fun _ => .error "expected value"

def anyHost (_ : List Char) : Bool := true

def rupiahRequest (reference : Str) : PayRequest :=
  ⟨5000000, "IDR", ⟨"buyer@shop.example", by decide⟩, reference⟩

def rupiahReceipt (reference : Str) : Receipt :=
  ⟨"midtrans", 0, "IDR", reference, asBytes redirectProof, 0⟩

/-- A reference of one segment, and one with slashes in it. -/
def plainOrder : Str := ⟨"INV-2024-001", by decide⟩

def slashedOrder : Str := ⟨"INV/2024/001", by decide⟩

def created : Reply := .answered 201 (asBytes createdText)

def settlement (order : String) : Reply := .answered 200 (asBytes (settlementText order))

theorem snap_served : (SentReferenceRail.midtrans snapMidtrans).Served anyHost :=
  ⟨Codec.forall_mem_of_all (by decide), ["v2".toList, []], by decide⟩

end Sample

/-- The order is charged, its receipt completes with the answer that it is settled, and a
verification that is answered so ends in yes. -/
theorem charged_completes_iff_plain : ∃ receipt question,
    (SentReferenceRail.midtrans Sample.snapMidtrans).lookup.Completes Sample.anyHost
      (Sample.rupiahRequest Sample.plainOrder) receipt (Sample.settlement "INV-2024-001") ∧
    (Sample.snapMidtrans.verify receipt).Yields [(question, Sample.settlement "INV-2024-001")]
      (.ok true) := by
  have replayed : ((Sample.snapMidtrans.charge (Sample.rupiahRequest Sample.plainOrder)).replay
      [Sample.created]).bind Except.toOption = some (Sample.rupiahReceipt Sample.plainOrder) := by
    decide +kernel
  obtain ⟨transcript, -, run⟩ := Dialogue.exists_yields_of_replay replayed
  have reports : Sample.snapMidtrans.Reports (Sample.settlement "INV-2024-001") "INV-2024-001"
      (requestedCurrency (Sample.rupiahRequest Sample.plainOrder)) 5000000 := by
    refine ⟨Sample.settlementStatus "INV-2024-001", ?_, rfl, by decide, .inl rfl, by decide, ?_⟩
    · decide +kernel
    · decide
  have completes := (charged_completes_iff (.midtrans Sample.snapMidtrans) Sample.anyHost
    Sample.snap_served run (fun _ _ => trivial) reports).mpr
      ⟨⟨⟨"INV-2024-001", by decide⟩, by decide, by decide, by decide, by decide⟩, trivial⟩
  have verified : ((Sample.snapMidtrans.verify (Sample.rupiahReceipt Sample.plainOrder)).replay
      [Sample.settlement "INV-2024-001"]).bind Except.toOption = some true := by
    decide +kernel
  obtain ⟨asked, answered, accepted⟩ := Dialogue.exists_yields_of_replay verified
  obtain ⟨⟨question, reply⟩, rfl⟩ := List.length_eq_one_iff.mp
    ((List.length_map Prod.snd).symm.trans (congrArg List.length answered))
  cases answered
  exact ⟨_, question, completes, accepted⟩

/-- A charge for an order with slashes goes through, and its receipt does not verify with the
answer that the order is settled. -/
theorem slashed_order_never_verifies :
    ¬ ∀ rail hostOk, SentReferenceRail.Served hostOk rail → ∀ req receipt transcript,
      (rail.lookup.charge req).Yields transcript (.ok receipt) →
      (∀ entry ∈ transcript, rail.lookup.Keeps entry.2 req.reference) →
      ∀ reply, rail.lookup.Reports reply req.reference.text (requestedCurrency req)
        req.amountMinor → rail.lookup.Completes hostOk req receipt reply := by
  intro claim
  have replayed : ((Sample.snapMidtrans.charge (Sample.rupiahRequest Sample.slashedOrder)).replay
      [Sample.created]).bind Except.toOption = some (Sample.rupiahReceipt Sample.slashedOrder) := by
    decide +kernel
  obtain ⟨transcript, -, run⟩ := Dialogue.exists_yields_of_replay replayed
  have reports : Sample.snapMidtrans.Reports (Sample.settlement "INV/2024/001") "INV/2024/001"
      (requestedCurrency (Sample.rupiahRequest Sample.slashedOrder)) 5000000 := by
    refine ⟨Sample.settlementStatus "INV/2024/001", ?_, rfl, by decide, .inl rfl, by decide, ?_⟩
    · decide +kernel
    · decide
  have completes := claim (.midtrans Sample.snapMidtrans) Sample.anyHost Sample.snap_served _ _ _ run
    (fun _ _ => trivial) _ reports
  -- The guard refuses the slashes, so nothing is asked.
  have verified : (SentReferenceRail.midtrans Sample.snapMidtrans).lookup.verify
      (Sample.rupiahReceipt Sample.slashedOrder) = return false := by
    rfl
  have refused := completes [] (.ok false) (by rw [verified]; simp) (by simp)
  cases refused

end Patala.Fiat
