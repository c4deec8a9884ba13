import Patala.Fiat.LNbits
import Patala.Fiat.Mollie
import Patala.Fiat.PayPal
import Patala.Fiat.Reference

/-! A verifier should fail exactly when its check could not be performed. PayPal and LNbits
also fail on an identifier their guard refuses, PayPal on answers it cannot make sense of,
and Mollie never fails. -/

namespace Patala.Fiat

/-- The request failed, was refused, or was answered with a body that does not decode. -/
def Reply.Unread (fromSlice : FromSlice α) (reply : Reply) : Prop :=
  reply.decoded fromSlice = none

/-- A run goes on from every answer it can use. It stops without an error, or at the first
answer that failed, or at the first it refuses though it was read. -/
inductive Stops (Failed Refused : Request × Reply → Prop) :
    List (Request × Reply) → Except Error (Option Bool) → Prop where
  | answered (answer : Bool) : Stops Failed Refused [] (.ok (some answer))
  | failed (bad : Failed entry) (error : Error) : Stops Failed Refused [entry] (.error error)
  | refused (bad : Refused entry) (error : Error) : Stops Failed Refused [entry] (.error error)
  | panicked (bad : Refused entry) : Stops Failed Refused [entry] (.ok none)
  | next (good : ¬ Failed entry) (usable : ¬ Refused entry)
      (later : Stops Failed Refused transcript outcome) :
      Stops Failed Refused (entry :: transcript) outcome

/-- A run errs exactly on a failed answer when it refuses none that was read. -/
theorem Stops.error_iff {Failed Refused : Request × Reply → Prop}
    {transcript : List (Request × Reply)} {outcome : Except Error (Option Bool)}
    (exclusive : ∀ entry, Failed entry → ¬ Refused entry)
    (run : Stops Failed Refused transcript outcome) :
    (((∃ error, outcome = .error error) ↔ ∃ entry ∈ transcript, Failed entry) ∧
      outcome ≠ .ok none) ↔ ∀ entry ∈ transcript, ¬ Refused entry := by
  induction run with
  | answered answer => simp
  | @failed entry bad error => simp [bad, exclusive entry bad]
  | @refused entry bad error =>
    have good : ¬ Failed entry := fun failed => exclusive entry failed bad
    simp [bad, good]
  | @panicked entry bad => simp [bad]
  | @next entry transcript outcome good usable later ih =>
    rw [List.forall_mem_cons, ← ih]
    simp [good, usable]

/-- A verifier that looks up the identifier in its receipt's proof. `Failed` holds of a
request with a reply that does not let the check be performed. -/
structure GuardedVerify where
  railId : String
  verify : Receipt → Talk (Option Bool)
  proofId : List UInt8 → Option String
  Safe : String → Prop
  Failed : Request × Reply → Prop

namespace GuardedVerify

variable (rail : GuardedVerify)

/-- The receipt is the rail's own, and its proof names a safe identifier. -/
def Named (receipt : Receipt) : Prop :=
  receipt.railId = rail.railId ∧ ∃ id, rail.proofId receipt.proof = some id ∧ rail.Safe id

/-- What a run of the verifier should end in. -/
structure Disciplined (receipt : Receipt) (transcript : List (Request × Reply))
    (outcome : Except Error (Option Bool)) : Prop where
  error_iff : (∃ error, outcome = .error error) ↔ ∃ entry ∈ transcript, rail.Failed entry
  returns : outcome ≠ .ok none
  declined : ¬ rail.Named receipt → outcome = .ok (some false) ∧ transcript = []
  unconfused : (∃ entry ∈ transcript, rail.Failed entry) → outcome ≠ .ok (some false)

/-- For a named receipt the rest follows from when the run errs. -/
theorem disciplined_iff_of_named {receipt : Receipt} {transcript : List (Request × Reply)}
    {outcome : Except Error (Option Bool)} (named : rail.Named receipt) :
    rail.Disciplined receipt transcript outcome ↔
      ((∃ error, outcome = .error error) ↔ ∃ entry ∈ transcript, rail.Failed entry) ∧
        outcome ≠ .ok none := by
  constructor
  · intro disciplined
    exact ⟨disciplined.error_iff, disciplined.returns⟩
  · intro ⟨errs, returns⟩
    refine ⟨errs, returns, fun unnamed => absurd named unnamed, fun failed same => ?_⟩
    obtain ⟨error, found⟩ := errs.mpr failed
    rw [found] at same
    cases same

theorem disciplined_of_declined {receipt : Receipt} :
    rail.Disciplined receipt [] (.ok (some false)) :=
  ⟨by simp, by simp, fun _ => ⟨rfl, rfl⟩, by simp⟩

theorem not_disciplined_of_error {receipt : Receipt} {error : Error} :
    ¬ rail.Disciplined receipt [] (.error error) := by
  intro disciplined
  obtain ⟨entry, member, -⟩ := disciplined.error_iff.mp ⟨error, rfl⟩
  cases member

end GuardedVerify

namespace PayPal.PayPalRail

variable (rail : PayPalRail)

/-- The token request is the one with basic authentication; the others get an order. -/
def Failed (entry : Request × Reply) : Prop :=
  match entry.1.basicAuth with
  | some _ => entry.2.Unread rail.tokenFromSlice
  | none => entry.2.Unread rail.orderFromSlice

/-- A reply that decodes, but to an empty token, an order without an id, or a completed order
that cannot be read. -/
def Refused (receipt : Receipt) (entry : Request × Reply) : Prop :=
  match entry.1.basicAuth with
  | some _ => ∃ parsed, entry.2.decoded rail.tokenFromSlice = some parsed ∧ parsed.accessToken = ""
  | none => ∃ order, entry.2.decoded rail.orderFromSlice = some order ∧
      ((entry.1.method = .get ∧ order.id = "") ∨
        (order.status = "COMPLETED" ∧ ¬ rail.Legible order receipt))

theorem not_refused_of_failed {receipt : Receipt} {entry : Request × Reply}
    (failed : rail.Failed entry) : ¬ rail.Refused receipt entry := by
  obtain ⟨question, reply⟩ := entry
  unfold Failed Reply.Unread at failed
  unfold Refused
  cases auth : question.basicAuth with
  | none =>
    simp only [auth] at failed
    simp [failed]
  | some _ =>
    simp only [auth] at failed
    simp [failed]

section Entries

variable {rail} {receipt : Receipt} {reply : Reply}

theorem token_failed_or_refused {error : Error} (read : rail.readToken reply = .error error) :
    rail.Failed (rail.tokenRequest, reply) ∨ rail.Refused receipt (rail.tokenRequest, reply) := by
  cases decoded : reply.decoded rail.tokenFromSlice with
  | none => exact .inl decoded
  | some parsed =>
    refine .inr ⟨parsed, decoded, ?_⟩
    by_contra present
    have found := rail.readToken_eq_ok.mpr ⟨parsed, decoded, present, rfl⟩
    rw [read] at found
    cases found

theorem token_usable {token : String} (read : rail.readToken reply = .ok token) :
    ¬ rail.Failed (rail.tokenRequest, reply) ∧ ¬ rail.Refused receipt (rail.tokenRequest, reply) := by
  obtain ⟨parsed, decoded, present, -⟩ := rail.readToken_eq_ok.mp read
  constructor
  · intro failed
    exact absurd (decoded.symm.trans failed) (by simp)
  · intro ⟨other, decoded', empty⟩
    cases Option.some.inj (decoded.symm.trans decoded')
    exact present empty

theorem order_failed_iff {method : Method} {path token : String} {body : Option Json.Value} :
    rail.Failed (rail.jsonRequest method path body token, reply) ↔
      reply.decoded rail.orderFromSlice = none :=
  Iff.rfl

theorem order_usable {method : Method} {path token : String} {body : Option Json.Value}
    {order : OrderResponse} (decoded : reply.decoded rail.orderFromSlice = some order) :
    ¬ rail.Failed (rail.jsonRequest method path body token, reply) := by
  rw [order_failed_iff, decoded]
  simp

theorem order_refused_iff {method : Method} {path token : String} {body : Option Json.Value}
    {order : OrderResponse} (decoded : reply.decoded rail.orderFromSlice = some order) :
    rail.Refused receipt (rail.jsonRequest method path body token, reply) ↔
      (method = .get ∧ order.id = "") ∨
        (order.status = "COMPLETED" ∧ ¬ rail.Legible order receipt) := by
  constructor
  · intro ⟨other, decoded', bad⟩
    cases Option.some.inj (decoded.symm.trans decoded')
    exact bad
  · intro bad
    exact ⟨order, decoded, bad⟩

/-- What follows the answer with a completed order stops there, or at its refusal. -/
theorem settle_stops {question : Request} {order : OrderResponse}
    {transcript : List (Request × Reply)} {outcome : Except Error (Option Bool)}
    (good : ¬ rail.Failed (question, reply))
    (refused_iff : rail.Refused receipt (question, reply) ↔ ¬ rail.Legible order receipt)
    (run : (rail.settle order receipt).Yields transcript outcome) :
    Stops rail.Failed (rail.Refused receipt) ((question, reply) :: transcript) outcome := by
  obtain ⟨ended, ⟨legible, answer, same⟩ | ⟨illegible, same | ⟨error, same⟩⟩⟩ := rail.settle_run run
  · subst ended same
    exact .next good (fun refused => refused_iff.mp refused legible) (.answered answer)
  · subst ended same
    exact .panicked (refused_iff.mpr illegible)
  · subst ended same
    exact .refused (refused_iff.mpr illegible) error

theorem captureApproved_stops {orderId token : String} {transcript : List (Request × Reply)}
    {outcome : Except Error (Option Bool)}
    (run : (rail.captureApproved orderId token receipt).Yields transcript outcome) :
    Stops rail.Failed (rail.Refused receipt) transcript outcome := by
  unfold captureApproved captureOrder at run
  obtain ⟨reply, later, same, ⟨error, read, ended, failed⟩ | ⟨captured, read, settling⟩⟩ :=
    Dialogue.yields_once_bind.mp run
  · subst same ended failed
    have unread := Fallible.eq_none_of_error (fun _ => rail.readCapture_eq_ok) read
    exact .failed (order_failed_iff.mpr unread) error
  subst same
  have decoded := rail.readCapture_eq_ok.mp read
  by_cases completed : captured.status = "COMPLETED"
  · rw [if_neg (not_not_intro completed)] at settling
    exact settle_stops (order_usable decoded) (by rw [order_refused_iff decoded]; simp [completed]) settling
  · rw [if_pos completed, Dialogue.yields_pure] at settling
    obtain ⟨ended, answered⟩ := settling
    subst ended answered
    exact .next (order_usable decoded) (by rw [order_refused_iff decoded]; simp [completed]) (.answered false)

/-- Looking an order up with a token stops at the first answer it cannot use. -/
theorem checkOrder_stops {orderId token : String} {transcript : List (Request × Reply)}
    {outcome : Except Error (Option Bool)}
    (run : (rail.checkOrder orderId token receipt).Yields transcript outcome) :
    Stops rail.Failed (rail.Refused receipt) transcript outcome := by
  unfold checkOrder getOrder at run
  rw [fetch_eq_once] at run
  obtain ⟨reply, later, same, ⟨error, read, ended, failed⟩ | ⟨order, read, checking⟩⟩ :=
    Dialogue.yields_once_bind.mp run
  · subst same ended failed
    have unread := Fallible.eq_none_of_error (fun _ => Reply.read_eq_ok) read
    exact .failed (order_failed_iff.mpr unread) error
  subst same
  have decoded := Reply.read_eq_ok.mp read
  by_cases missing : order.id = ""
  · rw [insist, if_neg (not_not_intro missing), Dialogue.lift_error_bind,
      Dialogue.yields_done] at checking
    obtain ⟨ended, failed⟩ := checking
    subst ended failed
    exact .refused ((order_refused_iff decoded).mpr (.inl ⟨rfl, missing⟩)) _
  rw [insist, if_pos missing, Dialogue.lift_ok_bind] at checking
  by_cases completed : order.status = "COMPLETED"
  · rw [if_pos completed] at checking
    exact settle_stops (order_usable decoded) (by rw [order_refused_iff decoded]; simp [completed, missing]) checking
  rw [if_neg completed] at checking
  refine .next (order_usable decoded) (by rw [order_refused_iff decoded]; simp [completed, missing]) ?_
  by_cases approved : order.status = "APPROVED"
  · rw [if_pos approved] at checking
    exact captureApproved_stops checking
  · rw [if_neg approved, Dialogue.yields_pure] at checking
    obtain ⟨ended, answered⟩ := checking
    subst ended answered
    exact .answered false

theorem verifyOrder_stops {orderId : String} {transcript : List (Request × Reply)}
    {outcome : Except Error (Option Bool)}
    (run : (rail.verifyOrder orderId receipt).Yields transcript outcome) :
    Stops rail.Failed (rail.Refused receipt) transcript outcome := by
  unfold verifyOrder fetchAccessToken at run
  obtain ⟨reply, later, same, ⟨error, read, ended, failed⟩ | ⟨token, read, checking⟩⟩ :=
    Dialogue.yields_once_bind.mp run
  · subst same ended failed
    rcases token_failed_or_refused read with bad | bad
    · exact .failed bad error
    · exact .refused bad error
  · subst same
    obtain ⟨good, usable⟩ := token_usable read
    exact .next good usable (checkOrder_stops checking)

end Entries

/-- A receipt of the rail whose proof names an order is checked once its id is safe. -/
theorem verify_own {receipt : Receipt} {proof : ChargeProof} (own : receipt.railId = railId)
    (decoded : rail.proofFromSlice receipt.proof = .ok proof) :
    rail.verify receipt =
      liftM (safePathSegment proof.paypalOrderId) >>= fun id => rail.verifyOrder id receipt := by
  rw [verify, if_neg (not_not_intro own), decoded]

/-- What the rail's verifier looks up, and which of its answers fail. -/
def guarded : GuardedVerify where
  railId := railId
  verify := rail.verify
  proofId := fun proof => (rail.proofFromSlice proof).toOption.map ChargeProof.paypalOrderId
  Safe := fun id => ∃ segment, safePathSegment id = .ok segment
  Failed := rail.Failed

/-- The guard passes what the receipt's proof names, and every answer that was read is of use. -/
def Usable (receipt : Receipt) (transcript : List (Request × Reply)) : Prop :=
  (receipt.railId = railId → ∀ proof, rail.proofFromSlice receipt.proof = .ok proof →
    ∃ segment, safePathSegment proof.paypalOrderId = .ok segment) ∧
  ∀ entry ∈ transcript, ¬ rail.Refused receipt entry

theorem disciplined_iff {receipt : Receipt} {transcript : List (Request × Reply)}
    {outcome : Except Error (Option Bool)}
    (run : (rail.verify receipt).Yields transcript outcome) :
    rail.guarded.Disciplined receipt transcript outcome ↔ rail.Usable receipt transcript := by
  by_cases own : receipt.railId = railId
  · cases decoded : rail.proofFromSlice receipt.proof with
    | error =>
      rw [verify, if_neg (not_not_intro own), decoded, Dialogue.yields_pure] at run
      obtain ⟨ended, answered⟩ := run
      subst ended answered
      exact iff_of_true rail.guarded.disciplined_of_declined ⟨by simp [decoded], by simp⟩
    | ok proof =>
      rw [rail.verify_own own decoded] at run
      cases safe : safePathSegment proof.paypalOrderId with
      | error refusal =>
        rw [safe, Dialogue.lift_error_bind, Dialogue.yields_done] at run
        obtain ⟨ended, failed⟩ := run
        subst ended failed
        refine iff_of_false rail.guarded.not_disciplined_of_error fun usable => ?_
        obtain ⟨segment, passed⟩ := usable.1 own proof decoded
        rw [safe] at passed
        cases passed
      | ok segment =>
        rw [safe, Dialogue.lift_ok_bind] at run
        have named : rail.guarded.Named receipt :=
          ⟨own, proof.paypalOrderId, by simp [guarded, decoded, Except.toOption], segment, safe⟩
        have stops := verifyOrder_stops run
        rw [rail.guarded.disciplined_iff_of_named named]
        refine (stops.error_iff fun _ => rail.not_refused_of_failed).trans ⟨fun usable => ?_, And.right⟩
        refine ⟨fun _ other same => ?_, usable⟩
        cases decoded.symm.trans same
        exact ⟨segment, safe⟩
  · rw [verify, if_pos own, Dialogue.yields_pure] at run
    obtain ⟨ended, answered⟩ := run
    subst ended answered
    exact iff_of_true rail.guarded.disciplined_of_declined ⟨fun same => absurd same own, by simp⟩

end PayPal.PayPalRail

namespace LNbits.LNbitsRail

variable (rail : LNbitsRail)

/-- What the rail's verifier looks up; it does not panic. -/
def guarded : GuardedVerify where
  railId := railId
  verify := fun receipt => do return some (← rail.verify receipt)
  proofId := fun proof => (rail.proofFromSlice proof).toOption.map ChargeProof.paymentHash
  Safe := fun id => ∃ segment, safePathSegment id = .ok segment
  Failed := fun entry => entry.2.Unread rail.statusFromSlice

/-- Where the proof covers the receipt, the guard passes the hash it names. -/
def Usable (receipt : Receipt) : Prop :=
  receipt.railId = railId → ∀ proof, rail.proofFromSlice receipt.proof = .ok proof →
    eqIgnoreAsciiCase proof.currency receipt.currency →
    receipt.amountMinor ≤ proof.amountMinor →
    ∃ segment, safePathSegment proof.paymentHash = .ok segment

theorem getPayment_stops {paymentHash : String} {transcript : List (Request × Reply)}
    {outcome : Except Error Bool}
    (run : (do let parsed ← rail.getPayment paymentHash
               return verifyPaidWinsOverExpiry parsed.paid : Talk Bool).Yields transcript outcome) :
    Stops rail.guarded.Failed (fun _ => False) transcript (outcome.map some) := by
  unfold getPayment at run
  rw [fetch_eq_once] at run
  obtain ⟨reply, later, same, ⟨error, read, ended, failed⟩ | ⟨parsed, read, answering⟩⟩ :=
    Dialogue.yields_once_bind.mp run
  · subst same ended failed
    exact .failed (Fallible.eq_none_of_error (fun _ => Reply.read_eq_ok) read) error
  · subst same
    obtain ⟨ended, answered⟩ := Dialogue.yields_pure.mp answering
    subst ended answered
    have decoded := Reply.read_eq_ok.mp read
    have good : ¬ Reply.Unread rail.statusFromSlice reply := by
      rw [Reply.Unread, decoded]
      simp
    exact .next good id (.answered _)

theorem disciplined_iff {receipt : Receipt} {transcript : List (Request × Reply)}
    {outcome : Except Error (Option Bool)}
    (run : (rail.guarded.verify receipt).Yields transcript outcome) :
    rail.guarded.Disciplined receipt transcript outcome ↔ rail.Usable receipt := by
  obtain ⟨result, checked, same⟩ := Dialogue.yields_bind_pure.mp run
  subst same
  by_cases covered : ∃ proof, receipt.railId = railId ∧
      rail.proofFromSlice receipt.proof = .ok proof ∧
      eqIgnoreAsciiCase proof.currency receipt.currency ∧ receipt.amountMinor ≤ proof.amountMinor
  · obtain ⟨proof, own, decoded, currency, enough⟩ := covered
    have asks : rail.verify receipt = liftM (safePathSegment proof.paymentHash) >>= fun hash =>
        rail.getPayment hash >>= fun parsed => pure (verifyPaidWinsOverExpiry parsed.paid) := by
      rw [verify, if_neg (not_not_intro own), decoded]
      simp [currency, UInt64.not_lt.mpr enough]
    rw [asks] at checked
    cases safe : safePathSegment proof.paymentHash with
    | error refusal =>
      rw [safe, Dialogue.lift_error_bind, Dialogue.yields_done] at checked
      obtain ⟨ended, failed⟩ := checked
      subst ended failed
      refine iff_of_false rail.guarded.not_disciplined_of_error fun usable => ?_
      obtain ⟨segment, passed⟩ := usable own proof decoded currency enough
      rw [safe] at passed
      cases passed
    | ok segment =>
      rw [safe, Dialogue.lift_ok_bind] at checked
      have named : rail.guarded.Named receipt :=
        ⟨own, proof.paymentHash, by simp [guarded, decoded, Except.toOption], segment, safe⟩
      rw [rail.guarded.disciplined_iff_of_named named,
        (rail.getPayment_stops checked).error_iff fun _ _ => id]
      refine iff_of_true (fun _ _ => id) fun _ other same _ _ => ?_
      cases decoded.symm.trans same
      exact ⟨segment, safe⟩
  · have declines : rail.verify receipt = pure false := by
      unfold verify
      by_cases own : receipt.railId = railId
      · cases decoded : rail.proofFromSlice receipt.proof with
        | error => simp [own]
        | ok proof =>
          by_cases currency : eqIgnoreAsciiCase proof.currency receipt.currency
          · have short : proof.amountMinor < receipt.amountMinor := by
              by_contra enough
              exact covered ⟨proof, own, decoded, currency, UInt64.not_lt.mp enough⟩
            simp [own, currency, short]
          · simp [own, currency]
      · simp [own]
    rw [declines, Dialogue.yields_pure] at checked
    obtain ⟨ended, answered⟩ := checked
    subst ended answered
    refine iff_of_true rail.guarded.disciplined_of_declined fun own proof decoded currency enough => ?_
    exact absurd ⟨proof, own, decoded, currency, enough⟩ covered

end LNbits.LNbitsRail

namespace Mollie.MollieRail

variable (rail : MollieRail)

/-- What the rail's verifier looks up; it does not panic. -/
def guarded : GuardedVerify where
  railId := railId
  verify := fun receipt => do return some (← rail.verify receipt)
  proofId := fun proof => (rail.proofFromSlice proof).toOption.map ChargeProof.paymentId
  Safe := fun id => ∃ segment, safePathSegment id = .ok segment
  Failed := fun entry => entry.2.Unread rail.paymentFromSlice

/-- Mollie's verifier always answers, and without a question when nothing is named. -/
theorem verify_answers {receipt : Receipt} {transcript : List (Request × Reply)}
    {outcome : Except Error Bool} (run : (rail.verify receipt).Yields transcript outcome) :
    (∃ answer, outcome = .ok answer) ∧
      (¬ rail.guarded.Named receipt → transcript = [] ∧ outcome = .ok false) := by
  unfold verify at run
  by_cases own : receipt.railId = railId
  · rw [if_neg (not_not_intro own)] at run
    cases decoded : rail.proofFromSlice receipt.proof with
    | error =>
      rw [decoded, Dialogue.yields_pure] at run
      exact ⟨⟨false, run.2⟩, fun _ => run⟩
    | ok proof =>
      rw [decoded] at run
      obtain ⟨tried, attempted, answered⟩ := Dialogue.yields_bind_pure.mp run
      obtain ⟨result, fetched, same⟩ := Dialogue.yields_attempt.mp attempted
      subst same answered
      refine ⟨⟨settles receipt result, rfl⟩, fun unnamed => ?_⟩
      unfold fetchOutcome at fetched
      cases safe : safePathSegment proof.paymentId with
      | error refusal =>
        rw [safe, Dialogue.lift_error_bind, Dialogue.yields_done] at fetched
        obtain ⟨ended, failed⟩ := fetched
        subst ended failed
        exact ⟨rfl, rfl⟩
      | ok segment =>
        refine absurd ⟨own, proof.paymentId, ?_, segment, safe⟩ unnamed
        simp [guarded, decoded, Except.toOption]
  · rw [if_pos own, Dialogue.yields_pure] at run
    exact ⟨⟨false, run.2⟩, fun _ => run⟩

theorem disciplined_iff {receipt : Receipt} {transcript : List (Request × Reply)}
    {outcome : Except Error (Option Bool)}
    (run : (rail.guarded.verify receipt).Yields transcript outcome) :
    rail.guarded.Disciplined receipt transcript outcome ↔
      ∀ entry ∈ transcript, ¬ rail.guarded.Failed entry := by
  obtain ⟨result, checked, same⟩ := Dialogue.yields_bind_pure.mp run
  subst same
  obtain ⟨⟨answer, answered⟩, declines⟩ := rail.verify_answers checked
  subst answered
  by_cases named : rail.guarded.Named receipt
  · rw [rail.guarded.disciplined_iff_of_named named]
    simp [Except.map]
  · obtain ⟨ended, answered⟩ := declines named
    cases answered
    subst ended
    exact iff_of_true rail.guarded.disciplined_of_declined (by simp)

end Mollie.MollieRail

/-- The rails that look a payment up behind a guard on its id. -/
inductive GuardedVerifyRail where
  | paypal (rail : PayPal.PayPalRail)
  | lnbits (rail : LNbits.LNbitsRail)
  | mollie (rail : Mollie.MollieRail)

def GuardedVerifyRail.guarded : GuardedVerifyRail → GuardedVerify
  | paypal rail => rail.guarded
  | lnbits rail => rail.guarded
  | mollie rail => rail.guarded

/-- When a run of each rail ends as it should: PayPal's and LNbits' when their guard is not
reached by an id it refuses, PayPal's when no answer it reads is refused besides, and Mollie's
when no answer failed. -/
def GuardedVerifyRail.Usable (receipt : Receipt) (transcript : List (Request × Reply)) :
    GuardedVerifyRail → Prop
  | paypal rail => rail.Usable receipt transcript
  | lnbits rail => rail.Usable receipt
  | mollie rail => ∀ entry ∈ transcript, ¬ rail.guarded.Failed entry

/-- A run of a verifier ends as it should exactly when its answers are usable. -/
theorem verify_disciplined_iff (rail : GuardedVerifyRail) {receipt : Receipt}
    {transcript : List (Request × Reply)} {outcome : Except Error (Option Bool)}
    (run : (rail.guarded.verify receipt).Yields transcript outcome) :
    rail.guarded.Disciplined receipt transcript outcome ↔ rail.Usable receipt transcript := by
  cases rail with
  | paypal rail => exact rail.disciplined_iff run
  | lnbits rail => exact rail.disciplined_iff run
  | mollie rail => exact rail.disciplined_iff run

namespace Sample

def mollieProof (proof : Mollie.ChargeProof) : List UInt8 :=
  asBytes (Json.stringify (.object ([("payment_id", .string proof.paymentId)] ++
    (proof.checkoutUrl.map fun url => ("checkout_url", .string url)).toList)))

def openedProof : Mollie.ChargeProof := ⟨"tr_1", some "https://www.mollie.com/checkout/select/1"⟩

def downMollie : Mollie.MollieRail where
  apiKey := "test_key"
  webhookUrl := "https://shop.example/hook"
  currencies := []
  baseUrl := Mollie.mollieApiBase
  proofToBytes := mollieProof
  proofFromSlice := fun bytes =>
    if bytes = mollieProof openedProof then .ok openedProof else .error "expected value"
  createFromSlice := fun _ => .error "expected value"
  paymentFromSlice := fun _ => .error "expected value"
  errorFromSlice := fun _ => .error "expected value"

def mollieReceipt : Receipt := ⟨"mollie", 0, "EUR", orderA, mollieProof openedProof, 0⟩

theorem down_says_no : ∃ transcript, transcript.map Prod.snd = [.sendFailed "timeout"] ∧
    (downMollie.guarded.verify mollieReceipt).Yields transcript (.ok (some false)) := by
  have run : ((downMollie.guarded.verify mollieReceipt).replay [.sendFailed "timeout"]).bind
      Except.toOption = some (some false) := by
    decide +kernel
  exact Dialogue.exists_yields_of_replay run

end Sample

/-- The verdict on that run, which is on the failed request alone. -/
theorem verify_disciplined_iff_down : ∃ transcript,
    (Sample.downMollie.guarded.Disciplined Sample.mollieReceipt transcript (.ok (some false)) ↔
      ∀ entry ∈ transcript, ¬ Sample.downMollie.guarded.Failed entry) := by
  obtain ⟨transcript, -, run⟩ := Sample.down_says_no
  exact ⟨transcript, verify_disciplined_iff (.mollie Sample.downMollie) run⟩

/-- A request that failed is taken for a payment that did not settle. -/
theorem failed_request_says_no :
    ¬ ∀ rail receipt transcript outcome,
      ((GuardedVerifyRail.guarded rail).verify receipt).Yields transcript outcome →
        rail.guarded.Disciplined receipt transcript outcome := by
  intro claim
  obtain ⟨transcript, answers, run⟩ := Sample.down_says_no
  have disciplined := claim (.mollie Sample.downMollie) _ _ _ run
  obtain ⟨entry, member, same⟩ := List.mem_map.mp
    (answers ▸ List.mem_singleton_self (Reply.sendFailed "timeout"))
  refine disciplined.unconfused ⟨entry, member, ?_⟩ rfl
  show entry.2.Unread Sample.downMollie.paymentFromSlice
  rw [same]
  rfl

end Patala.Fiat
