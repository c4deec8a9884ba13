import Patala.Ffi.Call

/-! The methods of the C library on any rail. The rail reads and changes a world, and an answer is
what the rail answers, encoded as JSON. -/

namespace Patala

/-- A rail as the transports reach it, behind `dyn PaymentRail`. -/
structure ServedRail (σ : Type) extends PaymentRail σ where
  validateDestination : String → DestinationVerdict
  verifyWebhook : WebhookDelivery → σ → Except Error WebhookEvent × σ

def ServedRail.charged {σ : Type} (rail : ServedRail σ) (req : PayRequest) (world : σ) :
    Except Error Receipt × σ :=
  let (charged, next) := rail.charge req world
  (charged.result, next)

/-- `validate_destination` has no way to fail. -/
def ServedRail.verdict {σ : Type} (rail : ServedRail σ) (destination : String) (world : σ) :
    Except Error DestinationVerdict × σ :=
  (.ok (rail.validateDestination destination), world)

namespace Ffi

open Json

variable {σ α β : Type}

def unary (read : Except String α) (operation : α → σ → Except Error β × σ) (body : β → Value)
    (world : σ) : Except String String × σ :=
  match read with
  | .error message => (.error message, world)
  | .ok request =>
    let (answered, next) := operation request world
    match answered with
    | .error e => (.error (railError e), next)
    | .ok value => (encode (body value), next)

section Serve

variable (printable : Char → Bool) (readers : Readers) (fiatProviders : Option (List String))

def serve (rail : ServedRail σ) (requestJson : String) (world : σ) :
    Method → Except String String × σ
  | .id => (encode (idResponse rail.id), world)
  | .capabilities => (encode (capabilitiesBody rail.capabilities), world)
  | .quote =>
    unary ((readers.payRequest requestJson).mapError (badRequest .quote ·.val)) rail.quote quoteBody
      world
  | .charge =>
    unary ((readers.payRequest requestJson).mapError (badRequest .charge ·.val)) rail.charged
      receiptBody world
  | .verify =>
    unary ((readers.receipt requestJson).mapError (badRequest .verify ·.val)) rail.verify
      verifyResponse world
  | .validateDestination =>
    unary ((readers.validateDestination requestJson).mapError fun why =>
        badRequest .validateDestination (why.toString validateDestinationFields))
      rail.verdict validateDestinationResponse world
  | .webhook =>
    unary (handed (fun text => (readers.webhook text).mapError (·.toString webhookFields))
      requestJson) rail.verifyWebhook eventBody world
  | .caveat => (encode caveatResponse, world)
  | .providers =>
    match fiatProviders with
    | some providers => (encode (providersResponse providers), world)
    | none => (.error (notCompiledIn printable "fiat" "fiat"), world)

/-- The offline rail changes nothing, and of the world it reads the clock. -/
def Instance.served (inst : Instance) : ServedRail UInt64 where
  id := inst.rail.id
  capabilities := inst.rail.capabilities
  quote := fun req nowUnix => (inst.rail.quote req nowUnix, nowUnix)
  charge := fun req nowUnix => (⟨inst.rail.charge req nowUnix, false⟩, nowUnix)
  verify := fun receipt nowUnix => (inst.rail.verify receipt, nowUnix)
  refund := fun _ nowUnix => (.error (.unsupported "refund"), nowUnix)
  validateDestination := inst.rail.validateDestination printable inst.checksDestinations
  verifyWebhook := fun delivery nowUnix => (unsupportedWebhook delivery, nowUnix)

end Serve

variable {printable : Char → Bool} {readers : Readers} {fiatProviders : Option (List String)}

theorem unary_pure {read : Except String α} {alone : α → Except Error β} {body : β → Value}
    {world : σ} :
    unary read (fun request world => (alone request, world)) body world =
      (do let request ← read
          let value ← (alone request).mapError railError
          encode (body value), world) := by
  cases read with
  | error message => rfl
  | ok request =>
    unfold unary
    cases answered : alone request <;> simp [answered, bind, Except.bind, Except.mapError]

/-- On the offline rail these are the arms of the build without features. -/
theorem serve_served (inst : Instance) (requestJson : String) (nowUnix : UInt64) (method : Method) :
    serve printable readers fiatProviders (inst.served printable) requestJson nowUnix method =
      (answer printable readers fiatProviders inst requestJson nowUnix method, nowUnix) := by
  cases method with
  | id => rfl
  | capabilities => rfl
  | quote => exact unary_pure
  | charge => exact unary_pure
  | verify => exact unary_pure
  | validateDestination =>
    cases read : readers.validateDestination requestJson <;>
      simp [serve, answer, unary, read, ServedRail.verdict, Instance.served, Except.mapError, bind,
        Except.bind]
  | webhook =>
    have asked : (inst.served printable).verifyWebhook =
        fun delivery nowUnix => (unsupportedWebhook delivery, nowUnix) := rfl
    rw [serve, asked, unary_pure, answer, webhook, bind_assoc]
    rfl
  | caveat => rfl
  | providers => cases fiatProviders <;> rfl

end Ffi

end Patala
