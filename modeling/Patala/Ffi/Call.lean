import Patala.Ffi.Encode
import Patala.Ffi.Webhook

/-! One call of the C library on an instance of the offline default rail, and how its answer
crosses the boundary: a C string ends at its first NUL character, so a text with one is replaced. -/

namespace Patala.Ffi

open Json Fallible

/-- The closed set of methods. -/
inductive Method where
  | id
  | capabilities
  | quote
  | charge
  | verify
  | validateDestination
  | webhook
  | caveat
  | providers
deriving DecidableEq

namespace Method

def name : Method → String
  | id => "id"
  | capabilities => "capabilities"
  | quote => "quote"
  | charge => "charge"
  | verify => "verify"
  | validateDestination => "validate-destination"
  | webhook => "webhook"
  | caveat => "caveat"
  | providers => "providers"

/-- `METHODS`, in the order they are listed to a caller. -/
def all : List Method :=
  [id, capabilities, quote, charge, verify, validateDestination, webhook, caveat, providers]

def ofName? (name : String) : Option Method := all.find? fun method => method.name = name

@[simp] theorem ofName?_name (method : Method) : ofName? method.name = some method := by
  cases method <;> rfl

end Method

/-- One live rail behind one handle. -/
structure Instance where
  rail : MockRail
  checksDestinations : Bool

/-- The configuration of an offline rail, with each field's default. -/
structure MockConfig where
  id : String := "mock"
  railClass : RailClass := .nonCustodialFinal
  currencies : List String := ["USDC"]
  feeMinor : UInt64 := 0
  failing : Bool := false
  destinationChecks : Bool := true

def MockConfig.build (config : MockConfig) : Instance where
  rail :=
    let rail := (MockRail.new config.id config.railClass config.currencies).withFeeMinor
      config.feeMinor
    if config.failing then rail.failing else rail
  checksDestinations := config.destinationChecks

/-- The instances by their handles. -/
abbrev Registry := UInt64 → Option Instance

section Reading

/-- What a reader complains of, when it repeats what it read with `{:?}` only. -/
abbrev Complaint := { text : String // ¬ HasNul text }

/-- Why a reader that refuses unknown members refuses a text: it repeats an unknown name as it is. -/
inductive Unreadable where
  | unknownField (name : String) (line column : Nat)
  | other (complaint : Complaint)

def Unreadable.toString (expected : String) : Unreadable → String
  | unknownField name line column =>
    s!"unknown field `{name}`, expected {expected} at line {line} column {column}"
  | other complaint => complaint.val

@[simp] theorem Unreadable.toString_other (expected : String) (complaint : Complaint) :
    (other complaint).toString expected = complaint.val := rfl

/-- The derived readers of the requests. Those of this library refuse unknown members, those of a
rail's requests and receipts skip them. -/
structure Readers where
  payRequest : String → Except Complaint PayRequest
  receipt : String → Except Complaint Receipt
  validateDestination : String → Except Unreadable String
  webhook : String → Except Unreadable WebhookRequest

end Reading

section Dispatch

variable (printable : Char → Bool) (readers : Readers) (fiatProviders : Option (List String))

def unknownMethod (method : String) : String :=
  s!"patala: unknown method {debugText printable method} (want one of: " ++
    ", ".intercalate (Method.all.map Method.name) ++ ")"

def badRequest (method : Method) (complaint : String) : String :=
  s!"patala: {method.name}: invalid request JSON: {complaint}"

/-- An error of the rail. -/
def railError (e : Error) : String := s!"patala: {e.toString}"

def notCompiledIn (feature what : String) : String :=
  s!"patala: this libpatala_ffi was built without --features {feature}, so the " ++
    s!"{debugText printable what} rail is not available in it. Rebuild with `cargo build -p " ++
    s!"patala-ffi --features {feature}` (see patala-ffi/README.md)."

def validateDestinationFields : String := "`destination`"

def webhookFields : String := "one of `body`, `body_hex`, `headers`, `query`, `now_unix`"

/-- The trait's own, which the offline rail does not replace. -/
def unsupportedWebhook : VerifyWebhook := fun _ => .error (.unsupported "verify_webhook")

/-- The arms of `call`. The fiat providers are those of a build with that feature. -/
def answer (inst : Instance) (requestJson : String) (nowUnix : UInt64) :
    Method → Except String String
  | .id => encode (idResponse inst.rail.id)
  | .capabilities => encode (capabilitiesBody inst.rail.capabilities)
  | .quote => do
    let req ← (readers.payRequest requestJson).mapError (badRequest .quote ·.val)
    let quote ← (inst.rail.quote req nowUnix).mapError railError
    encode (quoteBody quote)
  | .charge => do
    let req ← (readers.payRequest requestJson).mapError (badRequest .charge ·.val)
    let receipt ← (inst.rail.charge req nowUnix).mapError railError
    encode (receiptBody receipt)
  | .verify => do
    let receipt ← (readers.receipt requestJson).mapError (badRequest .verify ·.val)
    let valid ← (inst.rail.verify receipt).mapError railError
    encode (verifyResponse valid)
  | .validateDestination => do
    let destination ← (readers.validateDestination requestJson).mapError fun why =>
      badRequest .validateDestination (why.toString validateDestinationFields)
    encode (validateDestinationResponse
      (inst.rail.validateDestination printable inst.checksDestinations destination))
  | .webhook => do
    let event ← webhook (fun text => (readers.webhook text).mapError (·.toString webhookFields))
      unsupportedWebhook requestJson
    encode (eventBody event)
  | .caveat => encode caveatResponse
  | .providers =>
    match fiatProviders with
    | some providers => encode (providersResponse providers)
    | none => .error (notCompiledIn printable "fiat" "fiat")

def lookup (registry : Registry) (handle : UInt64) : Except String Instance :=
  match registry handle with
  | some inst => .ok inst
  | none => .error s!"patala: unknown handle {handle} (never created, or already closed)"

def call (registry : Registry) (handle : UInt64) (method requestJson : String) (nowUnix : UInt64) :
    Except String String := do
  let inst ← lookup registry handle
  match Method.ofName? method with
  | some method => answer printable readers fiatProviders inst requestJson nowUnix method
  | none => .error (unknownMethod printable method)

/-- What stands for a text that does not fit. -/
def nulReplacement : String :=
  "patala: internal error — a response contained a NUL byte and cannot cross a C string"

/-- What the host receives of a text. -/
def intoC (text : String) : String := if HasNul text then nulReplacement else text

/-- The result, or the message behind `err`. -/
def patalaCall (registry : Registry) (handle : UInt64) (method requestJson : String)
    (nowUnix : UInt64) : Except String String :=
  match call printable readers fiatProviders registry handle method requestJson nowUnix with
  | .ok out => .ok (intoC out)
  | .error message => .error (intoC message)

/-- The texts an error of the call repeats as they are. -/
def repeated (inst : Instance) (requestJson : String) : Method → List String
  | .quote =>
    match readers.payRequest requestJson with
    | .ok req =>
      if req.validate = .ok () ∧ !inst.rail.currencySupported req.currency then
        [inst.rail.id, req.currency]
      else []
    | .error _ => []
  | .charge =>
    match readers.payRequest requestJson with
    | .ok req =>
      if req.validate ≠ .ok () then []
      else if inst.rail.fail then [inst.rail.id]
      else if !inst.rail.currencySupported req.currency then [inst.rail.id, req.currency]
      else []
    | .error _ => []
  | .validateDestination =>
    match readers.validateDestination requestJson with
    | .error (.unknownField name _ _) => [name]
    | _ => []
  | .webhook =>
    match readers.webhook requestJson with
    | .error (.unknownField name _ _) => [name]
    | _ => []
  | _ => []

end Dispatch

section Crossing

variable {printable : Char → Bool} {readers : Readers} {fiatProviders : Option (List String)}

/-- The text of an answer, whichever way it is given. -/
def told : Except String String → String
  | .ok text => text
  | .error text => text

@[simp] theorem told_error (text : String) : told (.error text) = text := rfl

@[simp] theorem hasNul_toString (text : String) : HasNul (toString text) ↔ HasNul text := Iff.rfl

@[simp] theorem hasNul_toString_nat (value : Nat) : HasNul (toString value) ↔ False :=
  iff_false_intro (not_hasNul_repr value)

theorem not_hasNul_of_all {text : String} (plain : text.toList.all (· ≠ '\x00') = true) :
    ¬ HasNul text := by
  intro has
  have different := List.all_eq_true.mp plain _ has
  simp at different

theorem digitChar_ne_nul : ∀ value < 16, '\x00' ≠ Nat.digitChar value := by decide

theorem not_nul_toDigits (value : Nat) : '\x00' ∉ Nat.toDigits 16 value := by
  induction value using Nat.strongRecOn with
  | ind value ih =>
    by_cases small : value < 16
    · rw [Nat.toDigits_of_lt_base small, List.mem_singleton]
      exact digitChar_ne_nul value small
    · rw [Nat.toDigits_of_base_le (by decide) (by omega), List.mem_append, List.mem_singleton]
      exact not_or.mpr ⟨ih _ (by omega), digitChar_ne_nul _ (Nat.mod_lt _ (by decide))⟩

/-- The NUL character is printed as an escape. -/
theorem not_nul_debugEscape (c : Char) : '\x00' ∉ debugEscape printable c := by
  unfold debugEscape
  split_ifs with quoted backslash n r t nul unprintable
  all_goals try decide
  · simp [not_nul_toDigits]
  · rw [List.mem_singleton]
    intro same
    exact nul (same ▸ rfl)

theorem not_hasNul_debugText (printable : Char → Bool) (text : String) : ¬ HasNul (debugText printable text) := by
  simp only [debugText, hasNul_append, not_or]
  refine ⟨⟨not_hasNul_of_all rfl, ?_⟩, not_hasNul_of_all rfl⟩
  rw [HasNul, String.toList_ofList]
  intro printed
  obtain ⟨c, _, escaped⟩ := List.mem_flatMap.mp printed
  exact not_nul_debugEscape c escaped

@[simp] theorem hasNul_badRequest (method : Method) (complaint : String) :
    HasNul (badRequest method complaint) ↔ HasNul complaint := by
  cases method <;> simp [HasNul, badRequest, Method.name, toString]

@[simp] theorem hasNul_railError (e : Error) : HasNul (railError e) ↔ HasNul e.toString := by
  simp [HasNul, railError, toString]

@[simp] theorem hasNul_invalidRequest (message : String) :
    HasNul (Error.invalidRequest message).toString ↔ HasNul message := by
  show HasNul ("invalid request: " ++ message) ↔ _
  simp [HasNul]

@[simp] theorem hasNul_rail (message : String) :
    HasNul (Error.rail message).toString ↔ HasNul message := by
  show HasNul ("rail error: " ++ message) ↔ _
  simp [HasNul]

theorem not_hasNul_validate {req : PayRequest} {e : Error} (refused : req.validate = .error e) :
    ¬ HasNul e.toString := by
  unfold PayRequest.validate at refused
  split_ifs at refused
  all_goals
    cases refused
    rw [hasNul_invalidRequest]
    simp [HasNul]

theorem hasNul_unsupportedCurrency (rail : MockRail) (currency : String) :
    HasNul (rail.unsupportedCurrency currency).toString ↔ HasNul rail.id ∨ HasNul currency := by
  rw [MockRail.unsupportedCurrency, hasNul_invalidRequest]
  simp [HasNul, toString]

theorem hasNul_unknownField {expected : String} (plain : ¬ HasNul expected) (name : String)
    (line column : Nat) :
    HasNul ((Unreadable.unknownField name line column).toString expected) ↔ HasNul name := by
  have opening : ¬ HasNul "unknown field `" := by decide
  have between : ¬ HasNul "`, expected " := by decide
  have place : ¬ HasNul " at line " ∧ ¬ HasNul " column " := by decide
  unfold Unreadable.toString
  simp only [hasNul_append, hasNul_toString, hasNul_toString_nat, plain, opening, between, place,
    false_or, or_false]

theorem not_hasNul_unknownMethod (method : String) : ¬ HasNul (unknownMethod printable method) := by
  have printed := not_hasNul_debugText printable method
  unfold unknownMethod
  simp only [hasNul_append, hasNul_toString, printed]
  decide

theorem not_hasNul_notCompiledIn : ¬ HasNul (notCompiledIn printable "fiat" "fiat") := by
  have printed := not_hasNul_debugText printable "fiat"
  unfold notCompiledIn
  simp only [hasNul_append, hasNul_toString, printed]
  decide

section Calls

variable {inst : Instance} {requestJson : String} {nowUnix : UInt64}

/-- An answer that was read for has a NUL character when its complaint or what follows has. -/
theorem hasNul_told_bind {ε α : Type} {read : Except ε α} {complain : ε → String}
    {rest : α → Except String String} :
    HasNul (told (read.mapError complain >>= rest)) ↔
      (∃ e, read = .error e ∧ HasNul (complain e)) ∨ ∃ value, read = .ok value ∧
        HasNul (told (rest value)) := by
  cases read with
  | error e =>
    show HasNul (complain e) ↔ _
    simp
  | ok value =>
    show HasNul (told (rest value)) ↔ _
    simp

/-- No body has a NUL character. -/
theorem not_hasNul_encode {members : List (String × Value)}
    (plain : ∀ member ∈ members, PlainNumbers member.2) : ¬ HasNul (told (encode (.object members))) :=
  not_hasNul_stringify (plainNumbers_object plain)

theorem not_hasNul_badRequest (method : Method) (complaint : Complaint) :
    ¬ HasNul (badRequest method complaint.val) := by
  rw [hasNul_badRequest]
  exact complaint.property

theorem quote_error_hasNul {rail : MockRail} {req : PayRequest} :
    (∃ e, rail.quote req nowUnix = .error e ∧ HasNul (railError e)) ↔
      (req.validate = .ok () ∧ rail.currencySupported req.currency = false) ∧
        (HasNul rail.id ∨ HasNul req.currency) := by
  simp only [hasNul_railError, ← hasNul_unsupportedCurrency]
  cases valid : req.validate with
  | error e =>
    have plain := not_hasNul_validate valid
    simp [MockRail.quote, valid, bind, Except.bind, plain]
  | ok answer =>
    cases supported : rail.currencySupported req.currency <;>
      simp [MockRail.quote, valid, supported, insist, bind, Except.bind, pure, Except.pure]

theorem charge_error_hasNul {rail : MockRail} {req : PayRequest} :
    (∃ e, rail.charge req nowUnix = .error e ∧ HasNul (railError e)) ↔
      req.validate = .ok () ∧ if rail.fail then HasNul rail.id
        else rail.currencySupported req.currency = false ∧
          (HasNul rail.id ∨ HasNul req.currency) := by
  have opening : ¬ HasNul "mock rail " := by decide
  have closing : ¬ HasNul " is configured to fail" := by decide
  simp only [hasNul_railError, ← hasNul_unsupportedCurrency]
  cases valid : req.validate with
  | error e =>
    have plain := not_hasNul_validate valid
    simp [MockRail.charge, valid, bind, Except.bind, plain]
  | ok answer =>
    cases failing : rail.fail with
    | true =>
      simp [MockRail.charge, valid, failing, insist, bind, Except.bind, opening, closing]
    | false =>
      cases supported : rail.currencySupported req.currency <;>
        simp [MockRail.charge, valid, failing, supported, insist, bind, Except.bind, pure,
          Except.pure]

/-- A text the call repeats has a NUL character. -/
def RepeatsNul (readers : Readers) (inst : Instance) (requestJson : String) (method : Method) :
    Prop :=
  ∃ text ∈ repeated readers inst requestJson method, HasNul text

theorem nibble_plain (c : UInt8) (position : Nat) : FailsOnly (¬ HasNul ·) (nibble c position) := by
  intro e failed
  have opening : ¬ HasNul "the character at position " := by decide
  have closing : ¬ HasNul " is not a hex digit (it is not quoted " := by decide
  have rest : ¬ HasNul "back here: this is a private key)" := by decide
  unfold nibble at failed
  split_ifs at failed
  cases failed
  simp [opening, closing, rest, not_hasNul_repr]

/-- The complaint about a digit names its position only. -/
theorem decodePairs_plain (position : Nat) (text : List UInt8) :
    FailsOnly (¬ HasNul ·) (decodePairs position text) := by
  induction position, text using decodePairs.induct with
  | case1 position high low rest ih =>
    rw [decodePairs]
    refine (nibble_plain high position).bind fun _ => (nibble_plain low _).bind fun _ => ?_
    exact ih.bind fun _ => failsOnly_ok _
  | case2 text position short =>
    rw [decodePairs.eq_2 position text short]
    exact failsOnly_ok _

theorem rawBody_plain (request : WebhookRequest) : FailsOnly (¬ HasNul ·) request.rawBody := by
  have opening : ¬ HasNul "patala: webhook: body_hex is not valid hex: " := by decide
  have odd : ¬ HasNul "odd number of hex digits (" := by decide
  have closing : ¬ HasNul ")" := by decide
  have decoded : ∀ hex, FailsOnly (¬ HasNul ·) (decodeHex hex) := by
    intro hex
    refine (failsOnly_ensure ?_).bind fun _ => decodePairs_plain 0 _
    simp [odd, closing, not_hasNul_repr]
  intro e failed
  unfold WebhookRequest.rawBody at failed
  split at failed
  · cases failed
    simp [HasNul]
  · cases failed
  · rename_i hex _ _
    cases answer : decodeHex hex with
    | ok bytes =>
      rw [answer] at failed
      cases failed
    | error complaint =>
      rw [answer] at failed
      cases failed
      rw [hasNul_append, or_iff_right opening]
      exact decoded hex complaint answer
  · cases failed
    simp [HasNul]

/-- The offline rail answers no delivery, and its refusals repeat nothing of one. -/
theorem webhook_hasNul {rest : WebhookEvent → Except String String} :
    HasNul (told (webhook (fun text => (readers.webhook text).mapError (·.toString webhookFields))
        unsupportedWebhook requestJson >>= rest)) ↔
      ∃ why, readers.webhook requestJson = .error why ∧ HasNul (why.toString webhookFields) := by
  have opening : ¬ HasNul "patala: webhook: invalid request JSON: " := by decide
  cases read : readers.webhook requestJson with
  | error why =>
    simp only [webhook, handed, read, Except.mapError, bind, Except.bind, told]
    simp [opening]
  | ok request =>
    simp only [reduceCtorEq, false_and, exists_false, iff_false]
    cases body : request.rawBody with
    | error complaint =>
      simp only [webhook, handed, read, body, Except.mapError, bind, Except.bind, told]
      exact rawBody_plain request complaint body
    | ok rawBody =>
      simp only [webhook, handed, read, body, Except.mapError, bind, Except.bind, told,
        unsupportedWebhook, pure, Except.pure]
      decide

/-- An answer has a NUL character exactly when a text it repeats has one. -/
theorem hasNul_answer_iff (method : Method) :
    HasNul (told (answer printable readers fiatProviders inst requestJson nowUnix method)) ↔
      RepeatsNul readers inst requestJson method := by
  have field : ¬ HasNul validateDestinationFields := by decide
  have fields : ¬ HasNul webhookFields := by decide
  unfold RepeatsNul
  cases method with
  | id => simp [answer, idResponse, not_hasNul_encode, repeated]
  | capabilities => simp [answer, capabilitiesBody, classBody, not_hasNul_encode, repeated]
  | quote =>
    simp only [answer, hasNul_told_bind, quote_error_hasNul, not_hasNul_badRequest, quoteBody]
    cases read : readers.payRequest requestJson with
    | error complaint => simp [repeated, read]
    | ok req =>
      by_cases valid : req.validate = .ok () <;>
        cases supported : inst.rail.currencySupported req.currency <;>
        simp [repeated, read, valid, supported, not_hasNul_encode]
  | charge =>
    simp only [answer, hasNul_told_bind, charge_error_hasNul, not_hasNul_badRequest, receiptBody]
    cases read : readers.payRequest requestJson with
    | error complaint => simp [repeated, read]
    | ok req =>
      by_cases valid : req.validate = .ok () <;> cases failing : inst.rail.fail <;>
        cases supported : inst.rail.currencySupported req.currency <;>
        simp [repeated, read, valid, failing, supported, not_hasNul_encode]
  | verify =>
    have answered : ∀ receipt e, inst.rail.verify receipt ≠ .error e := by
      intro receipt e
      unfold MockRail.verify
      split_ifs <;> nofun
    simp only [answer, hasNul_told_bind, not_hasNul_badRequest, verifyResponse, answered]
    simp [not_hasNul_encode, repeated]
  | validateDestination =>
    simp only [answer, hasNul_told_bind, hasNul_badRequest, validateDestinationResponse]
    cases read : readers.validateDestination requestJson with
    | error why =>
      cases why with
      | unknownField name line column =>
        simpa [repeated, read] using hasNul_unknownField field name line column
      | other complaint => simpa [repeated, read] using complaint.property
    | ok destination => simp [repeated, read, not_hasNul_encode]
  | webhook =>
    simp only [answer, webhook_hasNul]
    cases read : readers.webhook requestJson with
    | error why =>
      cases why with
      | unknownField name line column =>
        simpa [repeated, read] using hasNul_unknownField fields name line column
      | other complaint => simpa [repeated, read] using complaint.property
    | ok request => simp [repeated, read]
  | caveat => simp [answer, caveatResponse, not_hasNul_encode, repeated]
  | providers =>
    cases fiatProviders with
    | none => simpa [answer, repeated] using not_hasNul_notCompiledIn
    | some providers => simp [answer, providersResponse, not_hasNul_encode, repeated]

theorem intoC_eq_iff {text : String} : intoC text = text ↔ ¬ HasNul text := by
  unfold intoC
  split_ifs with has
  · have plain : ¬ HasNul nulReplacement := by simp [HasNul, nulReplacement]
    refine iff_of_false (fun same => ?_) (not_not_intro has)
    rw [same] at plain
    exact plain has
  · exact iff_of_true rfl has

variable {registry : Registry} {handle : UInt64} {method : String}

/-- The host receives the answer itself when it has no NUL character. -/
theorem patalaCall_eq_iff :
    patalaCall printable readers fiatProviders registry handle method requestJson nowUnix =
        call printable readers fiatProviders registry handle method requestJson nowUnix ↔
      ¬ HasNul (told (call printable readers fiatProviders registry handle method requestJson
        nowUnix)) := by
  unfold patalaCall
  cases call printable readers fiatProviders registry handle method requestJson nowUnix with
  | ok out =>
    show Except.ok (intoC out) = .ok out ↔ ¬ HasNul out
    rw [Except.ok.injEq]
    exact intoC_eq_iff
  | error message =>
    show Except.error (intoC message) = .error message ↔ ¬ HasNul message
    rw [Except.error.injEq]
    exact intoC_eq_iff

/-- A live instance answers what it knows and refuses another method without repeating it. -/
theorem hasNul_call_iff (live : registry handle = some inst) :
    HasNul (told (call printable readers fiatProviders registry handle method requestJson
        nowUnix)) ↔
      ∃ known, Method.ofName? method = some known ∧ RepeatsNul readers inst requestJson known := by
  have found : lookup registry handle = .ok inst := by rw [lookup, live]
  unfold call
  rw [found]
  cases named : Method.ofName? method with
  | none => simpa [bind, Except.bind, named] using not_hasNul_unknownMethod method
  | some known =>
    simpa [bind, Except.bind, named] using hasNul_answer_iff known

/-- Of a live handle, an answer has no NUL character, and is what the host receives, exactly when
no text that it repeats as it is has one. -/
theorem answer_crosses_iff (live : registry handle = some inst) :
    (¬ HasNul (told (call printable readers fiatProviders registry handle method requestJson
        nowUnix)) ∧
      patalaCall printable readers fiatProviders registry handle method requestJson nowUnix =
        call printable readers fiatProviders registry handle method requestJson nowUnix) ↔
      ∀ known, Method.ofName? method = some known →
        ¬ RepeatsNul readers inst requestJson known := by
  rw [patalaCall_eq_iff, and_self, hasNul_call_iff live]
  simp only [not_exists, not_and]

/-- The library as it is opened without a document. -/
def defaultRegistry : Registry := fun handle => if handle = 1 then some (MockConfig.build {}) else none

def unreadable : Complaint := ⟨"EOF while parsing a value at line 1 column 0", by simp [HasNul]⟩

/-- A request whose currency is spelled with a NUL character, as JSON may spell one. -/
def nulRequest : PayRequest := ⟨500, "US\x00D", MockRail.order.destination, MockRail.order.reference⟩

def nulRequestText : String :=
  stringify (.object [("amount_minor", number 500), ("currency", .string nulRequest.currency),
    ("destination", .string nulRequest.destination.text),
    ("reference", .string nulRequest.reference.text)])

/-- Readers that know this one request. -/
def oneRequest : Readers where
  payRequest text := if text = nulRequestText then .ok nulRequest else .error unreadable
  receipt _ := .error unreadable
  validateDestination _ := .error (.other unreadable)
  webhook _ := .error (.other unreadable)

theorem nulRequest_repeated :
    repeated oneRequest (MockConfig.build {}) nulRequestText .quote = ["mock", "US\x00D"] := by
  have valid : nulRequest.validate = .ok () := PayRequest.validate_ok_iff.mpr (by decide)
  have refused : (MockConfig.build {}).rail.currencySupported nulRequest.currency = false := by
    decide
  simp only [repeated, oneRequest, if_pos, valid, refused]
  rfl

theorem answer_crosses_iff_quote :
    (¬ HasNul (told (call (fun _ => true) oneRequest none defaultRegistry 1 "quote" nulRequestText
        0)) ∧
      patalaCall (fun _ => true) oneRequest none defaultRegistry 1 "quote" nulRequestText 0 =
        call (fun _ => true) oneRequest none defaultRegistry 1 "quote" nulRequestText 0) ↔
      ∀ known, Method.ofName? "quote" = some known →
        ¬ RepeatsNul oneRequest (MockConfig.build {}) nulRequestText known :=
  answer_crosses_iff (if_pos rfl)

/-- The refusal of the request repeats its currency, and the host is not told. -/
theorem refusal_replaced :
    ¬ (¬ HasNul (told (call (fun _ => true) oneRequest none defaultRegistry 1 "quote" nulRequestText
        0)) ∧
      patalaCall (fun _ => true) oneRequest none defaultRegistry 1 "quote" nulRequestText 0 =
        call (fun _ => true) oneRequest none defaultRegistry 1 "quote" nulRequestText 0) := by
  have live : defaultRegistry 1 = some (MockConfig.build {}) := if_pos rfl
  have repeats : RepeatsNul oneRequest (MockConfig.build {}) nulRequestText .quote := by
    rw [RepeatsNul, nulRequest_repeated]
    exact ⟨"US\x00D", by simp, by decide⟩
  intro ⟨plain, _⟩
  exact plain ((hasNul_call_iff live).mpr ⟨.quote, rfl, repeats⟩)

end Calls

end Crossing

end Patala.Ffi
