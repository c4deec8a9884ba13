import Patala.Fiat.FormBody
import Patala.Fiat.Mollie
import Patala.Fiat.Webhook

/-! Mollie's webhook: a form that names a payment, which is then fetched. Nothing is signed; the
answer to the fetch is all that is believed. -/

namespace Patala.Fiat.Mollie

inductive MollieWebhookError where
  | missingId
  | malformedForm (detail : String)
deriving DecidableEq

def MollieWebhookError.toString : MollieWebhookError → String
  | missingId => "payments: mollie: webhook body has no id parameter"
  | malformedForm detail => s!"payments: mollie: body is not valid form encoding: {detail}"

/-- Plus signs become blanks; a percent sign without two digits behind it stays. -/
def percentDecodeBytes : List UInt8 → List UInt8
  | [] => []
  | 0x2B :: rest => 0x20 :: percentDecodeBytes rest
  | 0x25 :: high :: low :: rest =>
    match fromStrRadix16 high low with
    | some byte => byte :: percentDecodeBytes rest
    | none => 0x25 :: percentDecodeBytes (high :: low :: rest)
  | byte :: rest => byte :: percentDecodeBytes rest

def percentDecode (s : String) : String := fromUtf8Lossy (percentDecodeBytes (asBytes s))

def formParse (body : String) : List (String × String) :=
  (rawPairs body).map fun pair => (percentDecode pair.1, percentDecode pair.2)

/-- The id a form names; `utf8Error` says what is wrong with bytes that are no text. -/
def extractPaymentId (utf8Error : List UInt8 → String) (rawBody : List UInt8) :
    Except MollieWebhookError String :=
  match fromUtf8 rawBody with
  | none => .error (.malformedForm (utf8Error rawBody))
  | some body =>
    let id := (((formParse body).find? fun pair => pair.1 = "id").map fun pair =>
      trim pair.2).getD ""
    if id = "" then .error .missingId else .ok id

example : extractPaymentId (fun _ => "") (asBytes "id=tr%5F7") = .ok "tr_7" := by decide

/-- The event of a delivery that names a payment with an outcome. -/
def eventOf (paymentId : String) (outcome : Outcome) : WebhookEvent :=
  (WebhookEvent.settlement railId paymentId outcome.reference outcome.settled
    outcome.amountMinor outcome.currency).withObjectId paymentId

namespace MollieRail

variable (rail : MollieRail) (utf8Error : List UInt8 → String)

/-- Fetch the payment a delivery names and say what it comes to under that id. -/
def verifyWebhook (delivery : WebhookDelivery) : Talk WebhookEvent := do
  let paymentId ← (extractPaymentId utf8Error delivery.rawBody).mapError fun e =>
    Error.invalidRequest e.toString
  let outcome ← rail.fetchOutcome paymentId
  return eventOf paymentId outcome

theorem verifyWebhook_ok {delivery : WebhookDelivery} {event : WebhookEvent}
    {transcript : List (Request × Reply)} :
    (rail.verifyWebhook utf8Error delivery).Yields transcript (.ok event) ↔
      ∃ paymentId segment reply payload outcome,
        extractPaymentId utf8Error delivery.rawBody = .ok paymentId ∧
        safePathSegment paymentId = .ok segment ∧
        transcript = [(rail.jsonRequest .get (paymentPath segment) none, reply)] ∧
        reply.decoded rail.paymentFromSlice = some payload ∧
        evaluatePayment payload = .ok outcome ∧ event = eventOf paymentId outcome := by
  unfold verifyWebhook
  rw [Dialogue.yields_lift_bind_ok]
  simp only [Fallible.mapError_eq_ok, Dialogue.yields_bind_ok, fetchOutcome_ok, readOutcome,
    Reply.outcome_eq_some, Reply.decoded_eq_some, Dialogue.yields_pure, Except.ok.injEq]
  constructor
  · rintro ⟨paymentId, named, outcome, before, after, joined, ⟨segment, reply, safe, asked, body,
      payload, accepted, decoded, read⟩, ended, said⟩
    subst ended
    rw [List.append_nil] at joined
    exact ⟨paymentId, segment, reply, payload, outcome, named, safe, joined.trans asked,
      ⟨body, accepted, decoded⟩, read, said⟩
  · rintro ⟨paymentId, segment, reply, payload, outcome, named, safe, asked,
      ⟨body, accepted, decoded⟩, read, said⟩
    exact ⟨paymentId, named, outcome, transcript, [], (List.append_nil _).symm,
      ⟨segment, reply, safe, asked, body, payload, accepted, decoded, read⟩, rfl, said⟩

end MollieRail

end Patala.Fiat.Mollie
