import Patala.Fiat.Session
import Patala.Lib.Keyed

/-! Charges that are tried again. Three rails send a key made of the order's reference with what
they create, so that a processor that honours it opens one payment for an order however often, and
at however many places at once, the charge is tried. -/

namespace Patala.Fiat

open Dialogue (Spends)

def bodyText (field : String) (question : Request) : Option String :=
  match question.payload with
  | some (.json body) => body.getStr field
  | _ => none

/-- A creation asks for what it creates, and for nothing else. -/
theorem creation_asks {label path : String} {request question : Request}
    {classifyError : UInt16 → List UInt8 → Error} {fromSlice : FromSlice α} {wanted : α → Prop}
    [DecidablePred wanted] {complaint : α → Error} {issue : α → Receipt} :
    (do let parsed ← fetch label path request classifyError fromSlice
        insist (wanted parsed) (complaint parsed)
        return issue parsed : Talk Receipt).Asks question ↔ question = request := by
  simp [Dialogue.asks_bind]

theorem posted_asks {request question : Request} {read : Reply → Except Error α} {issue : α → Receipt} :
    (do let parsed ← .once request read
        return issue parsed : Talk Receipt).Asks question ↔ question = request := by
  simp [Dialogue.asks_bind, Dialogue.once]

inductive KeyedRail where
  | stripe (rail : Stripe.StripeRail) (refundFromSlice : FromSlice Stripe.RefundResponse)
      (toBytes : Stripe.RefundProof → List UInt8)
  | square (rail : Square.SquareRail) (refundFromSlice : FromSlice Square.RefundResponse)
  | hyperswitch (rail : Hyperswitch.HyperswitchRail)

namespace KeyedRail

def wire : KeyedRail → WireRail
  | stripe rail refundFromSlice toBytes => .stripe rail refundFromSlice toBytes
  | square rail refundFromSlice => .square rail refundFromSlice
  | hyperswitch rail => .hyperswitch rail

/-- The key the processor finds in a request: a header for Stripe, a field of what is to be created
for the others. -/
def keyOf (rail : KeyedRail) (question : Request) : Option String :=
  match rail with
  | stripe _ _ _ => question.headers.lookup "Idempotency-Key"
  | square rail _ =>
    if question.url = rail.apiBaseUrl ++ "/v2/online-checkout/payment-links" then
      bodyText "idempotency_key" question
    else none
  | hyperswitch rail =>
    if question.url = rail.baseUrl ++ "/payments" then bodyText "payment_id" question else none

def key (reference : String) : KeyedRail → String
  | stripe _ _ _ => s!"begin:{reference}"
  | square _ _ => reference
  | hyperswitch _ => reference

def told (rail : KeyedRail) (reply : Reply) : Option String :=
  match rail with
  | stripe rail _ _ => (reply.decoded rail.createFromSlice).map Stripe.CreateResponse.id
  | square rail _ => (reply.decoded rail.createFromSlice).map fun parsed => parsed.paymentLink.id
  | hyperswitch rail => (rail.reported reply).map Hyperswitch.PaymentsResponse.paymentId

def Names (receipt : Receipt) (id : String) : KeyedRail → Prop
  | stripe rail _ _ => ∃ status redirectUrl, receipt.proof = rail.proofToBytes ⟨id, status, redirectUrl⟩
  | square rail _ => ∃ orderId paymentId, receipt.proof = rail.proofToBytes ⟨orderId, id, paymentId⟩
  | hyperswitch rail => ∃ status redirect, receipt.proof = rail.proofToBytes ⟨id, status, redirect⟩

variable {rail : KeyedRail} {moment : Moment}

/-- Whatever a charge sends carries the key of its order. -/
theorem charge_carries {req : PayRequest} {question : Request}
    (asked : (rail.wire.charge moment req).Asks question) :
    rail.keyOf question = some (rail.key req.reference.text) := by
  cases rail with
  | stripe rail refundFromSlice toBytes =>
    simp only [wire, WireRail.charge, Stripe.StripeRail.charge, Dialogue.asks_lift_bind,
      creation_asks] at asked
    obtain ⟨-, -, -, -, amount, -, same⟩ := asked
    rw [same]
    rfl
  | square rail refundFromSlice =>
    simp only [wire, WireRail.charge, Square.SquareRail.charge, Dialogue.asks_lift_bind,
      creation_asks] at asked
    obtain ⟨-, -, -, -, amount, -, -, -, same⟩ := asked
    rw [same]
    simp [keyOf, key, Square.SquareRail.jsonRequest, Square.SquareRail.createBody, bodyText,
      Json.Value.getStr, Json.Value.get, Json.Value.asStr]
  | hyperswitch rail =>
    simp only [wire, WireRail.charge, Hyperswitch.HyperswitchRail.charge, Dialogue.asks_lift_bind,
      Hyperswitch.HyperswitchRail.post, posted_asks] at asked
    obtain ⟨-, -, -, -, -, -, same⟩ := asked
    rw [same]
    simp [keyOf, key, Hyperswitch.HyperswitchRail.request, Hyperswitch.HyperswitchRail.createBody,
      bodyText, Json.Value.getStr, Json.Value.get, Json.Value.asStr]

theorem charge_tells {req : PayRequest} {receipt : Receipt} {transcript : List (Request × Reply)}
    (charged : (rail.wire.charge moment req).Yields transcript (.ok receipt)) :
    ∃ exchange ∈ transcript, ∃ id, rail.told exchange.2 = some id ∧ rail.Names receipt id := by
  cases rail with
  | stripe rail refundFromSlice toBytes =>
    obtain ⟨_, -, valid⟩ := Dialogue.yields_lift_bind_ok.mp charged
    obtain ⟨_, -, listed⟩ := Dialogue.yields_lift_bind_ok.mp valid
    obtain ⟨_, -, sized⟩ := Dialogue.yields_lift_bind_ok.mp listed
    obtain ⟨reply, parsed, same, decoded, -, issued⟩ := fetch_created.mp sized
    refine ⟨_, by rw [same]; exact List.mem_singleton_self _, parsed.id, ?_, ?_⟩
    · simp [told, decoded]
    · exact ⟨_, _, by rw [issued]⟩
  | square rail refundFromSlice =>
    obtain ⟨_, -, valid⟩ := Dialogue.yields_lift_bind_ok.mp charged
    obtain ⟨_, -, listed⟩ := Dialogue.yields_lift_bind_ok.mp valid
    obtain ⟨_, -, sized⟩ := Dialogue.yields_lift_bind_ok.mp listed
    obtain ⟨_, -, placed⟩ := Dialogue.yields_lift_bind_ok.mp sized
    obtain ⟨reply, parsed, same, decoded, -, issued⟩ := fetch_created.mp placed
    refine ⟨_, by rw [same]; exact List.mem_singleton_self _, parsed.paymentLink.id, ?_, ?_⟩
    · simp [told, decoded]
    · exact ⟨_, _, by rw [issued]⟩
  | hyperswitch rail =>
    obtain ⟨reply, created, same, reported, issued⟩ := rail.charge_ok charged
    refine ⟨_, by rw [same]; exact List.mem_singleton_self _, created.paymentId, ?_, ?_⟩
    · simp [told, reported]
    · exact ⟨_, _, by rw [issued]; rfl⟩

/-- The requests that carry a key. -/
def carries (rail : KeyedRail) (question : Request) : Bool := (rail.keyOf question).isSome

theorem verify_carries_none (receipt : Receipt) :
    Spends rail.carries 0 0 (rail.wire.verify moment receipt) := by
  cases rail with
  | stripe rail refundFromSlice toBytes =>
    apply WireRail.wrapped_spends
    unfold Stripe.StripeRail.verify
    split
    · exact .value
    split
    · exact .value
    split
    · exact .value
    · exact looked_free rfl fun _ => .value
  | square rail refundFromSlice =>
    apply WireRail.wrapped_spends
    unfold Square.SquareRail.verify
    split
    · exact .value
    split
    · exact .value
    split
    · exact .value
    · exact looked_free (by simp [carries, keyOf, Square.SquareRail.jsonRequest, bodyText]) fun _ => .value
  | hyperswitch rail =>
    unfold wire WireRail.verify Hyperswitch.HyperswitchRail.verify
    dsimp only
    split
    · exact .value
    split
    · exact .value
    split
    · exact .value
    · refine .then_free (.once_free ?_) fun _ => .value
      simp [carries, keyOf, Hyperswitch.HyperswitchRail.request, bodyText]

/-- A refund carries no key of a charge. -/
theorem refund_carries_none (receipt : Receipt) :
    Spends rail.carries 0 0 (rail.wire.refund moment receipt) := by
  cases rail with
  | stripe rail refundFromSlice toBytes =>
    apply WireRail.wrapped_refund_spends
    refine .checked fun _ => .checked fun _ => .checked fun _ => .free_then (fetch_free rfl) fun _ => ?_
    refine .checked fun _ => .then_free (fetch_free rfl) fun _ => ?_
    exact .checked fun _ => .value
  | square rail refundFromSlice =>
    apply WireRail.wrapped_refund_spends
    refine .checked fun _ => .checked fun _ => .checked fun _ => .checked fun _ => ?_
    refine .then_free (fetch_free ?_) fun _ => .checked fun _ => .value
    have elsewhere : rail.apiBaseUrl ++ "/v2/refunds" ≠
        rail.apiBaseUrl ++ "/v2/online-checkout/payment-links" := ne_of_path (by decide)
    simp [carries, keyOf, Square.SquareRail.refundRequest, Square.SquareRail.jsonRequest, elsewhere]
  | hyperswitch rail =>
    apply WireRail.wrapped_refund_spends
    refine .checked fun _ => .checked fun _ => .checked fun _ => ?_
    refine .then_free (.once_free ?_) fun _ => .value
    have elsewhere : rail.baseUrl ++ "/refunds" ≠ rail.baseUrl ++ "/payments" :=
      ne_of_path (by decide)
    simp [carries, keyOf, Hyperswitch.HyperswitchRail.request, elsewhere]

end KeyedRail

namespace Session

variable {rail : KeyedRail} {ι : Type} [DecidableEq ι] (session : Session rail.wire ι)

/-- A key in the log of a session is the key of an order that was charged. -/
theorem key_charged {exchange : Request × Reply} (member : exchange ∈ session.log) {key : String}
    (carried : rail.keyOf exchange.1 = some key) :
    ∃ i moment req, session.calls i = .charge moment req ∧ key = rail.key req.reference.text := by
  obtain ⟨i, inside⟩ := session.merged.mem member
  have ran := session.ran i
  cases called : session.calls i with
  | charge moment req =>
    rw [called] at ran
    obtain ⟨outcome, run⟩ := ran
    have same := KeyedRail.charge_carries (Dialogue.asks_of_yields run exchange inside)
    exact ⟨i, moment, req, called, Option.some.inj (carried.symm.trans same)⟩
  | verify moment receipt =>
    rw [called] at ran
    obtain ⟨outcome, run⟩ := ran
    have none_carried := (KeyedRail.verify_carries_none receipt).atMost run
    have free := Dialogue.spent_eq_zero.mp (Nat.le_zero.mp none_carried) exchange inside
    simp [KeyedRail.carries, carried] at free
  | refund moment receipt =>
    rw [called] at ran
    obtain ⟨outcome, run⟩ := ran
    have none_carried := (KeyedRail.refund_carries_none receipt).atMost run
    have free := Dialogue.spent_eq_zero.mp (Nat.le_zero.mp none_carried) exchange inside
    simp [KeyedRail.carries, carried] at free

/-- What a receipt of a session is for was created under the key of its order. -/
theorem receipt_made {σ : Type} {processor : Keyed σ Request Reply String String}
    (reads : processor.keyOf = rail.keyOf) (honours : processor.Honours)
    (tells : processor.Tells rail.told) {start final : σ}
    (path : processor.system.Path start session.log final) {i : ι} {moment : Moment}
    {req : PayRequest} {receipt : Receipt}
    (charged : (rail.wire.charge moment req).Yields (session.transcripts i) (.ok receipt)) :
    ∃ id, (rail.key req.reference.text, id) ∈ processor.made final ∧ rail.Names receipt id := by
  obtain ⟨exchange, member, id, told, names⟩ := KeyedRail.charge_tells charged
  have carried := KeyedRail.charge_carries (Dialogue.asks_of_yields charged exchange member)
  refine ⟨id, ?_, names⟩
  exact Keyed.told_made honours tells path (session.merged.holds member) (by rw [reads, carried]) told

/-- At a processor that honours its keys, any session of charges, retries among them and whatever
else goes on, creates at most one thing for a reference, and all receipts for it are for that. -/
theorem opens_once {σ : Type} {processor : Keyed σ Request Reply String String}
    (reads : processor.keyOf = rail.keyOf) (honours : processor.Honours)
    (tells : processor.Tells rail.told) {start final : σ}
    (path : processor.system.Path start session.log final)
    (distinct : ((processor.made start).map Prod.fst).Nodup) :
    ((processor.made final).map Prod.fst).Nodup ∧
      (∀ entry ∈ processor.made final, entry ∈ processor.made start ∨
        ∃ i moment req, session.calls i = .charge moment req ∧
          entry.1 = rail.key req.reference.text) ∧
      ∀ reference, ∃ id, ∀ i moment req receipt, session.calls i = .charge moment req →
        req.reference.text = reference →
        (rail.wire.charge moment req).Yields (session.transcripts i) (.ok receipt) →
          rail.Names receipt id := by
  obtain ⟨added, makes⟩ := Keyed.makes honours path
  have once := makes.once distinct
  refine ⟨once, ?_, ?_⟩
  · intro entry member
    rw [makes.kept] at member
    rcases List.mem_append.mp member with old | new
    · exact .inl old
    · obtain ⟨exchange, inside, carried⟩ := makes.asked entry new
      rw [reads] at carried
      exact .inr (session.key_charged inside carried)
  · intro reference
    by_cases known : ∃ id, (rail.key reference, id) ∈ processor.made final
    · obtain ⟨id, first⟩ := known
      refine ⟨id, fun i moment req receipt _ same charged => ?_⟩
      obtain ⟨id', second, names⟩ := session.receipt_made reads honours tells path charged
      rw [same] at second
      rwa [Keyed.thing_unique once first second]
    · refine ⟨"", fun i moment req receipt _ same charged => ?_⟩
      obtain ⟨id, made, names⟩ := session.receipt_made reads honours tells path charged
      rw [same] at made
      exact absurd ⟨id, made⟩ known

end Session

namespace Sample

/-- The Stripe rail of the paid session, which is not asked to refund here. -/
def keyedStripe : KeyedRail := .stripe shopStripe (fun _ => .error "expected value") (fun _ => [])

/-- A processor that keeps what it made under a key, and creates nothing more under it. -/
def honest (rail : KeyedRail) : Keyed (List (String × String)) Request Reply String String where
  system :=
    { Start := fun made => made = []
      Step := fun before exchange after =>
        match rail.keyOf exchange.1 with
        | none => after = before
        | some key => (after = before ∨ key ∉ before.map Prod.fst ∧
            ∃ thing, after = before ++ [(key, thing)]) ∧
            ∀ id, rail.told exchange.2 = some id → (key, id) ∈ after }
  made := fun made => made
  keyOf := rail.keyOf

theorem honest_honours (rail : KeyedRail) : (honest rail).Honours := by
  intro before question answer after step
  cases carried : rail.keyOf question with
  | none =>
    simp only [honest, carried] at step
    exact .inl step
  | some key =>
    simp only [honest, carried] at step
    rcases step.1 with same | ⟨unused, thing, grown⟩
    · exact .inl same
    · exact .inr ⟨key, thing, carried, unused, grown⟩

theorem honest_tells (rail : KeyedRail) : (honest rail).Tells rail.told := by
  intro before question answer after key thing step carried told
  have reads : rail.keyOf question = some key := carried
  simp only [honest, reads] at step
  exact step.2 thing told

/-- What was made under a key stays all there is under it. -/
theorem honest_stays {rail : KeyedRail} {key id : String} {log : List (Request × Reply)}
    (carried : ∀ exchange ∈ log, rail.keyOf exchange.1 = some key)
    (told : ∀ exchange ∈ log, ∀ id', rail.told exchange.2 = some id' → id' = id) :
    (honest rail).system.Path [(key, id)] log [(key, id)] := by
  induction log with
  | nil => exact .here _
  | cons exchange rest ih =>
    have onward := ih (fun later member => carried later (List.mem_cons_of_mem _ member))
      fun later member => told later (List.mem_cons_of_mem _ member)
    refine .next ?_ onward
    simp only [honest, carried exchange (by simp)]
    refine ⟨.inl trivial, fun id' heard => ?_⟩
    rw [told exchange (by simp) id' heard]
    exact List.mem_singleton_self _

def retry (_last : Bool) : WireCall := .charge noon rupeeRequest

theorem exists_retry : ∃ (session : Session keyedStripe.wire Bool) (key : String),
    session.calls = retry ∧
      (honest keyedStripe).system.Path [] session.log [(key, "cs_1")] := by
  have lost : (keyedStripe.wire.charge noon rupeeRequest).replay [.sendFailed "timeout"] =
      some (.error (.rail "stripe: request to /checkout/sessions failed: timeout")) := by
    decide
  have answered : (keyedStripe.wire.charge noon rupeeRequest).replay
      [.answered 200 sessionCreated] =
        some (.ok ⟨"stripe", 0, "INR", orderA, stripeProof createdProof, 0⟩) := by
    decide +kernel
  obtain ⟨first, firstReplies, firstRun⟩ := Dialogue.yields_of_replay lost
  obtain ⟨second, secondReplies, secondRun⟩ := Dialogue.yields_of_replay answered
  let session : Session keyedStripe.wire Bool :=
    { calls := retry
      transcripts := fun last => if last then second else first
      log := first ++ second
      ran := by
        intro last
        cases last with
        | false => exact ⟨_, firstRun⟩
        | true => exact ⟨_, secondRun⟩
      merged := .one_after_another first second }
  let key := keyedStripe.key rupeeRequest.reference.text
  have carried : ∀ exchange ∈ first ++ second, keyedStripe.keyOf exchange.1 = some key := by
    intro exchange member
    have asked : (keyedStripe.wire.charge noon rupeeRequest).Asks exchange.1 := by
      rcases List.mem_append.mp member with early | late
      · exact Dialogue.asks_of_yields firstRun exchange early
      · exact Dialogue.asks_of_yields secondRun exchange late
    exact KeyedRail.charge_carries asked
  have replies : (first ++ second).map Prod.snd =
      [.sendFailed "timeout", .answered 200 sessionCreated] := by
    rw [List.map_append, firstReplies, secondReplies]
    rfl
  have told : ∀ exchange ∈ first ++ second, ∀ id, keyedStripe.told exchange.2 = some id →
      id = "cs_1" := by
    intro exchange member id heard
    have reply := List.mem_map_of_mem (f := Prod.snd) member
    rw [replies] at reply
    rcases List.mem_cons.mp reply with same | rest
    · rw [same] at heard
      cases heard
    · rw [List.mem_singleton.mp rest] at heard
      exact (Option.some.inj heard).symm
  refine ⟨session, key, rfl, ?_⟩
  show (honest keyedStripe).system.Path [] (first ++ second) [(key, "cs_1")]
  cases both : first ++ second with
  | nil =>
    rw [both] at replies
    cases replies
  | cons exchange rest =>
    rw [both] at carried told
    refine .next ?_ (honest_stays (fun later member => carried later (List.mem_cons_of_mem _ member))
      fun later member => told later (List.mem_cons_of_mem _ member))
    simp only [honest, carried exchange (by simp)]
    refine ⟨.inr ⟨by simp, "cs_1", rfl⟩, fun id heard => ?_⟩
    rw [told exchange (by simp) id heard]
    exact List.mem_singleton_self _

end Sample

/-- An order charged twice, once with its answer lost, is one session of the processor. -/
theorem Session.opens_once_retry : ∃ (session : Session Sample.keyedStripe.wire Bool) (key : String),
    ([(key, "cs_1")].map Prod.fst).Nodup ∧
      (∀ entry ∈ [(key, "cs_1")], entry ∈ ([] : List (String × String)) ∨
        ∃ i moment req, session.calls i = .charge moment req ∧
          entry.1 = Sample.keyedStripe.key req.reference.text) ∧
      ∀ reference, ∃ id, ∀ i moment req receipt, session.calls i = .charge moment req →
        req.reference.text = reference →
        (Sample.keyedStripe.wire.charge moment req).Yields (session.transcripts i) (.ok receipt) →
          Sample.keyedStripe.Names receipt id := by
  obtain ⟨session, key, -, path⟩ := Sample.exists_retry
  exact ⟨session, key, session.opens_once rfl (Sample.honest_honours _) (Sample.honest_tells _) path
    List.nodup_nil⟩

end Patala.Fiat
