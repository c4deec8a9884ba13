import Patala.Fiat.CoinbaseCharge
import Patala.Fiat.IyzicoCheckout
import Patala.Fiat.OpenNodeLookup
import Patala.Fiat.Razorpay
import Patala.Fiat.YocoCheckout

/-! The rails that look up the object in a receipt's proof, and judge it alone: Razorpay, Yoco,
iyzico, Coinbase Commerce and OpenNode. What their verifiers say yes to, when they fail, and which
receipts of their own they accept. -/

namespace Patala.Fiat

/-- A text that the guards on ids let into a path. -/
def PathText (s : String) : Prop :=
  s ≠ "" ∧ ∀ c ∈ s.toList, c ∉ ['/', '?', '#', ' ', '\t', '\n', '\r'] ∧ c.toNat < 128

theorem safePathSegment_eq_ok {what s segment : String} :
    safePathSegment what s = .ok segment ↔ s = segment ∧ PathText segment := by
  unfold safePathSegment
  split
  · rename_i refused
    refine iff_of_false (by simp) ?_
    intro ⟨same, written, plain⟩
    subst same
    rcases refused with empty | listed | foreign
    · exact written empty
    · obtain ⟨c, member, found⟩ := List.any_eq_true.mp listed
      exact (plain c member).1 (List.contains_iff_mem.mp found)
    · rw [Bool.not_eq_true', List.all_eq_false] at foreign
      obtain ⟨c, member, large⟩ := foreign
      exact large (decide_eq_true (plain c member).2)
  · rename_i passed
    obtain ⟨written, unlisted, ascii⟩ := not_or.mp passed |>.imp id not_or.mp
    rw [Except.ok.injEq]
    refine ⟨fun same => ⟨same, same ▸ ⟨written, fun c member => ⟨?_, ?_⟩⟩⟩, And.left⟩
    · intro found
      exact unlisted (List.any_eq_true.mpr ⟨c, member, List.contains_iff_mem.mpr found⟩)
    · have all := List.all_eq_true.mp (Bool.not_eq_false _ ▸ (Bool.not_eq_true' _ ▸ ascii))
      exact of_decide_eq_true (all c member)

/-- A text that iyzico's guard takes for a token. -/
def TokenText (s : String) : Prop := s ≠ "" ∧ ∀ c ∈ s.toList, c ∉ ['\t', '\n', '\r']

theorem safeReference_eq_ok {s token : String} :
    Iyzico.safeReference s = .ok token ↔ s = token ∧ TokenText token := by
  unfold Iyzico.safeReference
  split
  · rename_i refused
    refine iff_of_false (by simp) ?_
    intro ⟨same, written, plain⟩
    subst same
    rcases refused with empty | listed
    · exact written empty
    · obtain ⟨c, member, found⟩ := List.any_eq_true.mp listed
      exact plain c member (List.contains_iff_mem.mp found)
  · rename_i passed
    obtain ⟨written, unlisted⟩ := not_or.mp passed
    rw [Except.ok.injEq]
    refine ⟨fun same => ⟨same, same ▸ ⟨written, fun c member found => ?_⟩⟩, And.left⟩
    exact unlisted (List.any_eq_true.mpr ⟨c, member, List.contains_iff_mem.mpr found⟩)

section Guards

variable (razorpay : Razorpay.RazorpayRail) (yoco : Yoco.YocoRail) (iyzico : Iyzico.IyzicoRail)
  (randomKey : String) (coinbase : CoinbaseCommerce.CoinbaseCommerceCharges)
  (openNode : OpenNode.OpenNodeRail) (openNodeProof : FromSlice OpenNode.ChargeProof)

theorem Razorpay.guards : razorpay.payments.Guards Razorpay.ChargeProof.orderId PathText := by
  intro proof id
  exact orDeclined_eq_some.trans safePathSegment_eq_ok

theorem Yoco.guards : yoco.checkouts.Guards Yoco.ChargeProof.checkoutId PathText := by
  intro proof id
  exact orDeclined_eq_some.trans safePathSegment_eq_ok

theorem Iyzico.guards : (iyzico.forms randomKey).Guards Iyzico.ChargeProof.token TokenText := by
  intro proof id
  exact orDeclined_eq_some.trans safeReference_eq_ok

theorem CoinbaseCommerce.guards :
    coinbase.charges.Guards CoinbaseCommerce.ChargeProof.chargeId PathText := by
  intro proof id
  exact orFailed_eq_some.trans safePathSegment_eq_ok

theorem OpenNode.guards :
    (openNode.charges openNodeProof).Guards OpenNode.ChargeProof.chargeId PathText := by
  intro proof id
  exact orFailed_eq_some.trans safePathSegment_eq_ok

end Guards

/-- The rails, with the key iyzico signs with and the reader of OpenNode's proofs. -/
inductive LookupRail where
  | razorpay (rail : Razorpay.RazorpayRail)
  | yoco (rail : Yoco.YocoRail)
  | iyzico (rail : Iyzico.IyzicoRail) (randomKey : String)
  | coinbaseCommerce (rail : CoinbaseCommerce.CoinbaseCommerceCharges)
  | openNode (rail : OpenNode.OpenNodeRail) (proofFromSlice : FromSlice OpenNode.ChargeProof)

namespace LookupRail

/-- What each rail does, in the form the guarded ones share. -/
def guarded : LookupRail → GuardedVerify
  | razorpay rail => rail.payments.guarded Razorpay.ChargeProof.orderId PathText
  | yoco rail => rail.checkouts.guarded Yoco.ChargeProof.checkoutId PathText
  | iyzico rail randomKey => (rail.forms randomKey).guarded Iyzico.ChargeProof.token TokenText
  | coinbaseCommerce rail => rail.charges.guarded CoinbaseCommerce.ChargeProof.chargeId PathText
  | openNode rail proofFromSlice =>
    (rail.charges proofFromSlice).guarded OpenNode.ChargeProof.chargeId PathText

def verify (receipt : Receipt) : LookupRail → Talk Bool
  | razorpay rail => rail.verify receipt
  | yoco rail => rail.verify receipt
  | iyzico rail randomKey => rail.verify randomKey receipt
  | coinbaseCommerce rail => rail.verify receipt
  | openNode rail proofFromSlice => rail.verify proofFromSlice receipt

def charge (req : PayRequest) : LookupRail → Talk Receipt
  | razorpay rail => rail.charge req
  | yoco rail => rail.charge req
  | iyzico rail randomKey => rail.charge randomKey req
  | coinbaseCommerce rail => rail.charge req
  | openNode rail _ => rail.charge req

/-- The request that looks an object up. -/
def request (id : String) : LookupRail → Request
  | razorpay rail => rail.payments.request id
  | yoco rail => rail.checkouts.request id
  | iyzico rail randomKey => (rail.forms randomKey).request id
  | coinbaseCommerce rail => rail.charges.request id
  | openNode rail proofFromSlice => (rail.charges proofFromSlice).request id

/-- A reply shows the object paid for an amount in a currency. -/
def Shows (reply : Reply) (id currency : String) (amount : UInt64) : LookupRail → Prop
  | razorpay rail => ∃ parsed, reply.decoded rail.listFromSlice = some parsed ∧
      parsed.Shows id currency amount
  | yoco rail => ∃ parsed, reply.decoded rail.checkoutFromSlice = some parsed ∧
      parsed.Shows id currency amount
  | iyzico rail _ => ∃ res, reply.decoded rail.formFromSlice = some res ∧ res.Shows currency amount
  | coinbaseCommerce rail => ∃ envelope, reply.decoded rail.envelopeFromSlice = some envelope ∧
      envelope.data.Shows currency amount
  | openNode rail _ => ∃ envelope, reply.decoded rail.envelopeFromSlice = some envelope ∧
      envelope.data.Shows currency amount

end LookupRail

theorem judged_yes {verdict : Bool} : (.ok verdict : Except Error Bool) = .ok true ↔ verdict = true :=
  Except.ok.injEq verdict true ▸ Iff.rfl

/-- What a lookup says yes to, where its judgement is that enough is shown. -/
theorem ObjectLookup.verify_true_iff {π α : Type} {lookup : ObjectLookup π α} {named : π → String}
    {Safe : String → Prop} {receipt : Receipt} {transcript : List (Request × Reply)}
    (Shown : α → String → String → UInt64 → Prop) (guards : lookup.Guards named Safe)
    (judged : ∀ receipt id value, lookup.judge receipt id value = .ok true ↔
      ∃ amount, Shown value id receipt.currency amount ∧ receipt.amountMinor ≤ amount) :
    (lookup.verify receipt).Yields transcript (.ok true) ↔
      ∃ id, (receipt.railId = lookup.railId ∧
          (lookup.guarded named Safe).proofId receipt.proof = some id ∧ Safe id) ∧
        ∃ reply amount, transcript = [(lookup.request id, reply)] ∧
          (∃ value, reply.decoded lookup.fromSlice = some value ∧
            Shown value id receipt.currency amount) ∧ receipt.amountMinor ≤ amount := by
  rw [ObjectLookup.verify_true]
  simp only [guards.object_iff, judged]
  refine exists_congr fun id => and_congr_right fun _ => exists_congr fun reply => ?_
  constructor
  · intro ⟨value, asked, decoded, amount, shown, enough⟩
    exact ⟨amount, asked, ⟨value, decoded, shown⟩, enough⟩
  · intro ⟨amount, asked, ⟨value, decoded, shown⟩, enough⟩
    exact ⟨value, asked, decoded, amount, shown, enough⟩

/-- Each rail says yes to a receipt of its own exactly when the one lookup of the object it names,
by an id its guard lets through, is answered with an object paid for enough in its currency. The
receipt's reference is not looked at. -/
theorem lookup_verify_exact (rail : LookupRail) (receipt : Receipt)
    (transcript : List (Request × Reply)) :
    (rail.verify receipt).Yields transcript (.ok true) ↔
      ∃ id, (receipt.railId = rail.guarded.railId ∧
          rail.guarded.proofId receipt.proof = some id ∧ rail.guarded.Safe id) ∧
        ∃ reply amount, transcript = [(rail.request id, reply)] ∧
          rail.Shows reply id receipt.currency amount ∧ receipt.amountMinor ≤ amount := by
  cases rail with
  | razorpay rail =>
    apply ObjectLookup.verify_true_iff Razorpay.ListResponse.Shows (Razorpay.guards rail)
    intro receipt id parsed
    exact judged_yes.trans Razorpay.ListResponse.settles_iff
  | yoco rail =>
    apply ObjectLookup.verify_true_iff Yoco.YocoCheckout.Shows (Yoco.guards rail)
    intro receipt id parsed
    exact judged_yes.trans Yoco.YocoCheckout.settles_iff
  | iyzico rail randomKey =>
    apply ObjectLookup.verify_true_iff (fun res _ => res.Shows) (Iyzico.guards rail randomKey)
    intro receipt id res
    exact judged_yes.trans Iyzico.settles_evaluated
  | coinbaseCommerce rail =>
    apply ObjectLookup.verify_true_iff (fun envelope _ => envelope.data.Shows)
      (CoinbaseCommerce.guards rail)
    intro receipt id envelope
    exact rail.judge_true
  | openNode rail proofFromSlice =>
    apply ObjectLookup.verify_true_iff (fun envelope _ => envelope.data.Shows)
      (OpenNode.guards rail proofFromSlice)
    intro receipt id envelope
    exact rail.judge_true

/-- The answer that settles iyzico's callback makes a receipt for its token verify exactly when that
is in the callback's currency and asks for no more. -/
theorem Iyzico.callback_verifies_iff {rail : Iyzico.IyzicoRail} {randomKey : String}
    {delivery : WebhookDelivery} {event : WebhookEvent} {transcript : List (Request × Reply)}
    {receipt : Receipt}
    (called : (rail.verifyWebhook randomKey delivery).Yields transcript (.ok (some event)))
    (settled : event.isSettled) (own : receipt.railId = Iyzico.railId)
    (named : (LookupRail.iyzico rail randomKey).guarded.proofId receipt.proof = some event.objectId)
    (safe : TokenText event.objectId) :
    (rail.verify randomKey receipt).Yields transcript (.ok true) ↔
      eqIgnoreAsciiCase event.currency receipt.currency ∧ receipt.amountMinor ≤ event.amountMinor := by
  obtain ⟨-, token, -, reply, res, amount, asked, decoded, shown, same⟩ :=
    rail.verifyWebhook_settled.mp ⟨called, settled⟩
  subst same
  rw [show rail.verify randomKey receipt = (LookupRail.iyzico rail randomKey).verify receipt from rfl,
    lookup_verify_exact]
  obtain ⟨good, success, paid, worth, money, -⟩ := shown
  constructor
  · rintro ⟨id, -, reply', amount', asked', ⟨res', decoded', -, -, -, worth', -, currency⟩, enough⟩
    have answered : reply = reply' := (Prod.mk.inj (List.cons.inj (asked.symm.trans asked')).1).2
    subst answered
    cases decoded.symm.trans decoded'
    cases worth.symm.trans worth'
    exact ⟨by simpa [WebhookEvent.settlement, WebhookEvent.withObjectId] using currency, enough⟩
  · rintro ⟨currency, enough⟩
    refine ⟨token, ⟨own, named, safe⟩, reply, amount, asked, ⟨res, decoded, ?_⟩, enough⟩
    exact ⟨good, success, paid, worth, money, by
      simpa [WebhookEvent.settlement, WebhookEvent.withObjectId] using currency⟩

namespace LookupRail

/-- When a run ends as it should: always, but for the two rails whose guard and judgement can fail.
There the proof names no id that the guard refuses, and what is read can be judged. -/
def Usable (receipt : Receipt) (transcript : List (Request × Reply)) : LookupRail → Prop
  | razorpay _ => True
  | yoco _ => True
  | iyzico _ _ => True
  | coinbaseCommerce rail =>
    (receipt.railId = CoinbaseCommerce.railId → ∀ id,
      (coinbaseCommerce rail).guarded.proofId receipt.proof = some id → PathText id) ∧
    ∀ entry ∈ transcript, ∀ envelope, entry.2.decoded rail.envelopeFromSlice = some envelope →
      envelope.data.Legible
  | openNode rail proofFromSlice =>
    (receipt.railId = OpenNode.railId → ∀ id,
      (openNode rail proofFromSlice).guarded.proofId receipt.proof = some id → PathText id) ∧
    ∀ entry ∈ transcript, ∀ envelope, entry.2.decoded rail.envelopeFromSlice = some envelope →
      envelope.data.Legible

end LookupRail

/-- A lookup whose guard and judgement never fail always ends as it should. -/
theorem ObjectLookup.disciplined_of_total {π α : Type} {lookup : ObjectLookup π α}
    {named : π → String} {Safe : String → Prop} {receipt : Receipt}
    {transcript : List (Request × Reply)} {outcome : Except Error (Option Bool)}
    (guards : lookup.Guards named Safe)
    (guarding : ∀ proof error, lookup.named proof ≠ .error error)
    (judging : ∀ receipt id value error, lookup.judge receipt id value ≠ .error error)
    (run : ((lookup.guarded named Safe).verify receipt).Yields transcript outcome) :
    (lookup.guarded named Safe).Disciplined receipt transcript outcome := by
  rw [lookup.disciplined_iff guards run]
  constructor
  · intro error failed
    unfold ObjectLookup.object at failed
    split at failed
    · cases failed
    split at failed
    · cases failed
    · exact guarding _ error failed
  · intro entry _ ⟨id, value, error, _, _, refused⟩
    exact judging receipt id value error refused

theorem fails_iff {guarded : Except Error String} {s : String} {Safe : String → Prop}
    (guards : ∀ segment, guarded = .ok segment ↔ s = segment ∧ Safe segment) :
    (∃ error, orFailed guarded = .error error) ↔ ¬ Safe s := by
  simp only [orFailed_eq_error]
  cases guarded with
  | error error => exact iff_of_true ⟨error, rfl⟩ fun safe => nomatch (guards s).mpr ⟨rfl, safe⟩
  | ok segment =>
    obtain ⟨same, safe⟩ := (guards segment).mp rfl
    exact iff_of_false (by simp) fun refused => refused (same ▸ safe)

/-- A run of each of these verifiers fails exactly on a request that failed, and says no to what is
not its own without a question, exactly when it is usable. -/
theorem lookup_disciplined_iff (rail : LookupRail) {receipt : Receipt}
    {transcript : List (Request × Reply)} {outcome : Except Error (Option Bool)}
    (run : (rail.guarded.verify receipt).Yields transcript outcome) :
    rail.guarded.Disciplined receipt transcript outcome ↔ rail.Usable receipt transcript := by
  cases rail with
  | razorpay rail =>
    refine iff_of_true ?_ trivial
    apply ObjectLookup.disciplined_of_total (Razorpay.guards rail) _ _ run
    · exact fun _ _ => orDeclined_ne_error
    · exact fun _ _ _ _ judged => nomatch judged
  | yoco rail =>
    refine iff_of_true ?_ trivial
    apply ObjectLookup.disciplined_of_total (Yoco.guards rail) _ _ run
    · exact fun _ _ => orDeclined_ne_error
    · exact fun _ _ _ _ judged => nomatch judged
  | iyzico rail randomKey =>
    refine iff_of_true ?_ trivial
    apply ObjectLookup.disciplined_of_total (Iyzico.guards rail randomKey) _ _ run
    · exact fun _ _ => orDeclined_ne_error
    · exact fun _ _ _ _ judged => nomatch judged
  | coinbaseCommerce rail =>
    obtain ⟨result, checked, _⟩ := Dialogue.yields_bind_pure.mp run
    refine (ObjectLookup.disciplined_iff (CoinbaseCommerce.guards rail) run).trans ?_
    refine and_congr (ObjectLookup.usable_iff ?_) (forall₂_congr fun entry member => ?_)
    · intro proof
      exact fails_iff fun segment => safePathSegment_eq_ok
    · apply ObjectLookup.refused_iff_of_mem checked member
      exact fun _ _ => CoinbaseCommerce.ChargeEnvelope.judged_ok
  | openNode rail proofFromSlice =>
    obtain ⟨result, checked, _⟩ := Dialogue.yields_bind_pure.mp run
    refine (ObjectLookup.disciplined_iff (OpenNode.guards rail proofFromSlice) run).trans ?_
    refine and_congr (ObjectLookup.usable_iff ?_) (forall₂_congr fun entry member => ?_)
    · intro proof
      exact fails_iff fun segment => safePathSegment_eq_ok
    · apply ObjectLookup.refused_iff_of_mem checked member
      exact fun _ _ => OpenNode.Envelope.judged_ok

namespace LookupRail

/-- The currency a charge asks for. -/
def currency (req : PayRequest) : LookupRail → String
  | yoco _ => "ZAR"
  | _ => toAsciiUppercase (trim req.currency)

/-- A reply to a creation gives the object created an id. -/
def Creates (reply : Reply) (id : String) : LookupRail → Prop
  | razorpay rail => ∃ parsed, reply.decoded rail.createFromSlice = some parsed ∧ parsed.id = id
  | yoco rail => ∃ parsed, reply.decoded rail.createFromSlice = some parsed ∧ parsed.id = id
  | iyzico rail _ => ∃ parsed, reply.decoded rail.createFromSlice = some parsed ∧ parsed.token = id
  | coinbaseCommerce rail => ∃ envelope, reply.decoded rail.envelopeFromSlice = some envelope ∧
      envelope.data.id = id
  | openNode rail _ => ∃ envelope, reply.decoded rail.envelopeFromSlice = some envelope ∧
      envelope.data.id = id

/-- A proof is read as it was written. -/
def RoundTrips : LookupRail → Prop
  | razorpay rail => ∀ proof, rail.proofFromSlice (rail.proofToBytes proof) = .ok proof
  | yoco rail => ∀ proof, rail.proofFromSlice (rail.proofToBytes proof) = .ok proof
  | iyzico rail _ => ∀ proof, rail.proofFromSlice (rail.proofToBytes proof) = .ok proof
  | coinbaseCommerce rail => ∀ proof, rail.proofFromSlice (rail.proofToBytes proof) = .ok proof
  | openNode rail proofFromSlice => ∀ proof, proofFromSlice (rail.proofToBytes proof) = .ok proof

/-- What a receipt of a charge says: nothing was paid, and the object is the one created. -/
structure Issued (rail : LookupRail) (req : PayRequest) (id : String) (receipt : Receipt) : Prop where
  railId : receipt.railId = rail.guarded.railId
  amountMinor : receipt.amountMinor = 0
  currency : receipt.currency = rail.currency req
  reference : receipt.reference = req.reference
  proof : rail.guarded.proofId receipt.proof = some id

/-- A charge sends one creation, and issues a receipt for what was created. -/
theorem charge_issues {rail : LookupRail} {req : PayRequest} {receipt : Receipt}
    {created : List (Request × Reply)} (roundTrips : rail.RoundTrips)
    (charged : (rail.charge req).Yields created (.ok receipt)) :
    ∃ question reply id, created = [(question, reply)] ∧ rail.Creates reply id ∧
      rail.Issued req id receipt := by
  cases rail with
  | razorpay rail =>
    obtain ⟨_, _, reply, parsed, asked, decoded, named, same⟩ := rail.charge_ok.mp charged
    subst same
    refine ⟨_, reply, parsed.id, asked, ⟨parsed, decoded, rfl⟩, rfl, rfl, rfl, rfl, ?_⟩
    simp [guarded, ObjectLookup.guarded, Razorpay.RazorpayRail.payments, roundTrips _,
      Except.toOption]
  | yoco rail =>
    obtain ⟨_, _, reply, parsed, asked, decoded, named, same⟩ := rail.charge_ok.mp charged
    subst same
    refine ⟨_, reply, parsed.id, asked, ⟨parsed, decoded, rfl⟩, rfl, rfl, rfl, rfl, ?_⟩
    simp [guarded, ObjectLookup.guarded, Yoco.YocoRail.checkouts, roundTrips _, Except.toOption]
  | iyzico rail randomKey =>
    obtain ⟨_, _, price, _, reply, parsed, asked, decoded, named, same⟩ := rail.charge_ok.mp charged
    subst same
    refine ⟨_, reply, parsed.token, asked, ⟨parsed, decoded, rfl⟩, rfl, rfl, rfl, rfl, ?_⟩
    simp [guarded, ObjectLookup.guarded, Iyzico.IyzicoRail.forms, roundTrips _, Except.toOption]
  | coinbaseCommerce rail =>
    obtain ⟨_, _, amount, _, reply, envelope, asked, decoded, named, same⟩ :=
      rail.charge_ok.mp charged
    subst same
    refine ⟨_, reply, envelope.data.id, asked, ⟨envelope, decoded, rfl⟩, rfl, rfl, rfl, rfl, ?_⟩
    simp [guarded, ObjectLookup.guarded, CoinbaseCommerce.CoinbaseCommerceCharges.charges,
      roundTrips _, Except.toOption]
  | openNode rail proofFromSlice =>
    obtain ⟨_, _, amount, _, _, reply, envelope, asked, decoded, named, same⟩ :=
      rail.charge_ok.mp charged
    subst same
    refine ⟨_, reply, envelope.data.id, asked, ⟨envelope, decoded, rfl⟩, rfl, rfl, rfl, rfl, ?_⟩
    simp [guarded, ObjectLookup.guarded, OpenNode.OpenNodeRail.charges, roundTrips _,
      Except.toOption]

end LookupRail

/-- The receipt of a charge verifies exactly when the id the processor gave passes the guard, and
the object is shown paid in the currency that was asked for, for any amount. -/
theorem charged_lookup_iff (rail : LookupRail) {req : PayRequest} {receipt : Receipt}
    {created : List (Request × Reply)} (roundTrips : rail.RoundTrips)
    (charged : (rail.charge req).Yields created (.ok receipt)) :
    ∃ question reply id, created = [(question, reply)] ∧ rail.Creates reply id ∧
      receipt.reference = req.reference ∧ ∀ transcript,
        (rail.verify receipt).Yields transcript (.ok true) ↔ rail.guarded.Safe id ∧
          ∃ looked amount, transcript = [(rail.request id, looked)] ∧
            rail.Shows looked id (rail.currency req) amount := by
  obtain ⟨question, reply, id, asked, creates, issued⟩ := rail.charge_issues roundTrips charged
  refine ⟨question, reply, id, asked, creates, issued.reference, fun transcript => ?_⟩
  rw [lookup_verify_exact, issued.currency]
  constructor
  · intro ⟨other, ⟨_, named, safe⟩, looked, amount, found, shown, _⟩
    cases named.symm.trans issued.proof
    exact ⟨safe, looked, amount, found, shown⟩
  · intro ⟨safe, looked, amount, found, shown⟩
    refine ⟨id, ⟨issued.railId, issued.proof, safe⟩, looked, amount, found, shown, ?_⟩
    rw [issued.amountMinor]
    exact UInt64.zero_le

namespace Sample

instance encodableRazorpayProof : Encodable Razorpay.ChargeProof :=
  Encodable.ofLeftInverse Razorpay.ChargeProof.orderId Razorpay.ChargeProof.mk fun _ => rfl

def rupeeProof : List UInt8 := asBytes "\x7b\"order_id\":\"order_1\"\x7d"

def orderCreated : List UInt8 := asBytes ("\x7b\"id\":\"order_1\",\"entity\":\"order\"," ++
  "\"amount\":5000,\"currency\":\"INR\",\"receipt\":\"order-A\",\"status\":\"created\"\x7d")

/-- The payments listed for the order: one, with this status. -/
def listing (status : String) : List UInt8 := asBytes ("\x7b\"items\":[\x7b\"id\":\"pay_1\"," ++
  "\"order_id\":\"order_1\",\"amount\":5000,\"currency\":\"INR\",\"status\":\"" ++ status ++
  "\"\x7d]\x7d")

def listed (status : String) : Razorpay.ListResponse := ⟨[⟨"pay_1", "order_1", 5000, "INR", status⟩]⟩

def rupeeProofs : List (Razorpay.ChargeProof × List UInt8) := [(⟨"order_1"⟩, rupeeProof)]

theorem rupeeProofs_valid : Codec.WellFormed Codec.zeroMarking rupeeProofs where
  distinct := by decide
  unmarked := by decide

/-- A Razorpay rail that reads what it is sent about one order. -/
def shopRazorpay : Razorpay.RazorpayRail where
  keyId := "rzp_test"
  keySecret := "secret"
  baseUrl := Razorpay.razorpayApiBase
  proofToBytes := Codec.encode Codec.zeroMarking rupeeProofs
  proofFromSlice := fun bytes =>
    match Codec.decode Codec.zeroMarking rupeeProofs bytes with
    | some proof => .ok proof
    | none => .error "expected value"
  createFromSlice := fun bytes =>
    if bytes = orderCreated then .ok ⟨"order_1"⟩ else .error "expected value"
  listFromSlice := fun bytes =>
    if bytes = listing "authorized" then .ok (listed "authorized")
    else if bytes = listing "captured" then .ok (listed "captured")
    else .error "expected value"
  errorFromSlice := fun _ => .error "expected value"

def shop : LookupRail := .razorpay shopRazorpay

theorem shop_roundTrips : shop.RoundTrips := by
  intro proof
  simp [shopRazorpay, Codec.decode_encode rupeeProofs_valid]

def rupeeRequest : PayRequest := ⟨5000, "INR", orderA, orderA⟩

def rupeeReceipt : Receipt := ⟨"razorpay", 0, "INR", orderA, rupeeProof, 0⟩

end Sample

/-- The receipt for an order verifies once the order is shown paid, and then it does. -/
theorem charged_lookup_iff_order : (∃ (created : List (Request × Reply)) (question : Request)
    (reply : Reply) (id : String), created = [(question, reply)] ∧ Sample.shop.Creates reply id ∧
      Sample.rupeeReceipt.reference = Sample.rupeeRequest.reference ∧ ∀ transcript,
        (Sample.shop.verify Sample.rupeeReceipt).Yields transcript (.ok true) ↔
          Sample.shop.guarded.Safe id ∧ ∃ looked amount,
            transcript = [(Sample.shop.request id, looked)] ∧
            Sample.shop.Shows looked id (Sample.shop.currency Sample.rupeeRequest) amount) ∧
    ∃ transcript, transcript.map Prod.snd = [.answered 200 (Sample.listing "captured")] ∧
      (Sample.shop.verify Sample.rupeeReceipt).Yields transcript (.ok true) := by
  have replayed : ((Sample.shop.charge Sample.rupeeRequest).replay
      [.answered 200 Sample.orderCreated]).bind Except.toOption = some Sample.rupeeReceipt := by
    decide +kernel
  have paid : ((Sample.shop.verify Sample.rupeeReceipt).replay
      [.answered 200 (Sample.listing "captured")]).bind Except.toOption = some true := by
    decide +kernel
  obtain ⟨created, -, charged⟩ := Dialogue.exists_yields_of_replay replayed
  exact ⟨⟨created, charged_lookup_iff Sample.shop Sample.shop_roundTrips charged⟩,
    Dialogue.exists_yields_of_replay paid⟩

/-- A payment that is not captured yet is an answer of no. -/
theorem lookup_disciplined_iff_order : ∃ transcript,
    Sample.shop.guarded.Disciplined Sample.rupeeReceipt transcript (.ok (some false)) ↔
      Sample.shop.Usable Sample.rupeeReceipt transcript := by
  have replayed : ((Sample.shop.guarded.verify Sample.rupeeReceipt).replay
      [.answered 200 (Sample.listing "authorized")]).bind Except.toOption = some (some false) := by
    decide +kernel
  obtain ⟨transcript, -, run⟩ := Dialogue.exists_yields_of_replay replayed
  exact ⟨transcript, lookup_disciplined_iff Sample.shop run⟩

end Patala.Fiat
