import Patala.Fiat.Currency
import Patala.Json.Value
import Patala.Lib.Dialogue

/-! What the HTTP rails share: a request and what comes back for it, the size and status
checks on an answer, and the checks on an identifier, a currency and a settled amount. -/

namespace Patala.Fiat

inductive Method where
  | get
  | post
deriving DecidableEq

inductive Payload where
  | form (fields : List (String × String))
  | json (value : Json.Value)

/-- A request as it is handed to the HTTP client. -/
structure Request where
  method : Method
  url : String
  query : List (String × String)
  headers : List (String × String)
  basicAuth : Option (String × Option String)
  payload : Option Payload

/-- What comes back: no answer, an answer whose body is lost, or a status and a body. -/
inductive Reply where
  | sendFailed (message : String)
  | bodyFailed (status : UInt16) (message : String)
  | answered (status : UInt16) (body : List UInt8)

/-- A call on a rail that talks to its processor. -/
abbrev Talk := Dialogue Request Reply Error

/-- `serde_json::from_slice` at one type. -/
abbrev FromSlice (α : Type) := List UInt8 → Except String α

def defaultMaxBodyBytes : Nat := 2 ^ 20

def boundedLenCheck (body : List UInt8) (limit : Nat) : Except String Unit :=
  if limit < body.length then .error "payments: body exceeds size limit" else .ok ()

theorem boundedLenCheck_ok {body : List UInt8} {limit : Nat} {checked : Unit} :
    boundedLenCheck body limit = .ok checked ↔ body.length ≤ limit := by
  unfold boundedLenCheck
  split <;> simp <;> omega

/-- The body and the status of a reply, unless it failed or is too long. -/
def readReply (label path : String) : Reply → Except Error (List UInt8 × UInt16)
  | .sendFailed e => .error (.rail s!"{label}: request to {path} failed: {e}")
  | .bodyFailed _ e => .error (.rail s!"{label}: failed reading response body: {e}")
  | .answered status body =>
    match boundedLenCheck body defaultMaxBodyBytes with
    | .error e => .error (.rail s!"{label}: {e}")
    | .ok () => .ok (body, status)

/-- Send one request and take its answer. -/
def exchange (label path : String) (request : Request) : Talk (List UInt8 × UInt16) :=
  .ask request fun reply => .done (readReply label path reply)

/-- `(200..300).contains(&status)`. -/
def isSuccess (status : UInt16) : Bool := 200 ≤ status && status < 300

def malformed (label detail : String) : Error :=
  .rail s!"{label}: malformed API response: {detail}"

def unexpectedStatus (label : String) (status : UInt16) (message : String) : Error :=
  .rail s!"{label}: unexpected API response status: http {status}: {message}"

/-- Check the status of an answer, then decode its body. -/
def decodeAnswer (label : String) (classifyError : UInt16 → List UInt8 → Error)
    (fromSlice : FromSlice α) (answer : List UInt8 × UInt16) : Except Error α :=
  if isSuccess answer.2 then (fromSlice answer.1).mapError (malformed label)
  else .error (classifyError answer.2 answer.1)

/-- Send one request and decode its answer. -/
def fetch (label path : String) (request : Request) (classifyError : UInt16 → List UInt8 → Error)
    (fromSlice : FromSlice α) : Talk α := do
  let answer ← exchange label path request
  decodeAnswer label classifyError fromSlice answer

/-- The body of an answer with a 2xx status, when it is short enough to be read. -/
def Reply.accepted : Reply → Option (List UInt8)
  | .answered status body =>
    if body.length ≤ defaultMaxBodyBytes ∧ isSuccess status then some body else none
  | _ => none

/-- What an accepted reply is read as. -/
def Reply.decoded (fromSlice : FromSlice α) (reply : Reply) : Option α :=
  reply.accepted.bind fun body => (fromSlice body).toOption

theorem Reply.decoded_eq_some {fromSlice : FromSlice α} {reply : Reply} {value : α} :
    reply.decoded fromSlice = some value ↔
      ∃ body, reply.accepted = some body ∧ fromSlice body = .ok value := by
  simp only [Reply.decoded, Option.bind_eq_some_iff, Fallible.toOption_eq_some]

/-- What a fetch makes of its reply. -/
def Reply.read (label path : String) (classifyError : UInt16 → List UInt8 → Error)
    (fromSlice : FromSlice α) (reply : Reply) : Except Error α :=
  readReply label path reply >>= decodeAnswer label classifyError fromSlice

/-- Checking the status of a reply and decoding its body goes well when the reply is accepted
and decodes, whatever is said otherwise. -/
theorem readReply_decode_eq_ok {label path : String} {fromSlice : FromSlice α} {reply : Reply}
    {undecoded : String → Error} {refused : List UInt8 × UInt16 → Error} {value : α} :
    (do let answer ← readReply label path reply
        if isSuccess answer.2 then (fromSlice answer.1).mapError undecoded
        else .error (refused answer)) = .ok value ↔ reply.decoded fromSlice = some value := by
  rw [Reply.decoded_eq_some, Fallible.bind_eq_ok]
  cases reply with
  | sendFailed => simp [readReply, Reply.accepted]
  | bodyFailed => simp [readReply, Reply.accepted]
  | answered status body =>
    by_cases long : defaultMaxBodyBytes < body.length
    · simp [readReply, boundedLenCheck, Reply.accepted, long]
    · have short : body.length ≤ defaultMaxBodyBytes := Nat.le_of_not_lt long
      by_cases success : isSuccess status
      · simp [readReply, boundedLenCheck, Reply.accepted, long, short, success,
          Fallible.mapError_eq_ok]
      · simp [readReply, boundedLenCheck, Reply.accepted, long, success]

/-- A reply is read when it is accepted and decodes. -/
theorem Reply.read_eq_ok {label path : String} {classifyError : UInt16 → List UInt8 → Error}
    {fromSlice : FromSlice α} {reply : Reply} {value : α} :
    reply.read label path classifyError fromSlice = .ok value ↔
      reply.decoded fromSlice = some value :=
  readReply_decode_eq_ok

/-- A fetch asks once and reads the reply. -/
theorem fetch_eq_once {label path : String} {request : Request}
    {classifyError : UInt16 → List UInt8 → Error} {fromSlice : FromSlice α} :
    fetch label path request classifyError fromSlice =
      Dialogue.once request (Reply.read label path classifyError fromSlice) :=
  Dialogue.once_bind_lift

/-- A fetch succeeds on an accepted answer that decodes. -/
theorem fetch_ok {label path : String} {request : Request}
    {classifyError : UInt16 → List UInt8 → Error} {fromSlice : FromSlice α} {value : α}
    {transcript : List (Request × Reply)} :
    (fetch label path request classifyError fromSlice).Yields transcript (.ok value) ↔
      ∃ reply body, transcript = [(request, reply)] ∧ reply.accepted = some body ∧
        fromSlice body = .ok value := by
  rw [fetch_eq_once, Dialogue.yields_once]
  refine exists_congr fun reply => ?_
  rw [eq_comm (a := Except.ok value), Reply.read_eq_ok, Reply.decoded_eq_some, exists_and_left]

/-- A verdict on a fetched value is yes when a reply is read as a value it accepts. -/
theorem fetch_true {label path : String} {request : Request}
    {classifyError : UInt16 → List UInt8 → Error} {fromSlice : FromSlice α} {verdict : α → Bool}
    {transcript : List (Request × Reply)} :
    (do let value ← fetch label path request classifyError fromSlice
        return verdict value : Talk Bool).Yields transcript (.ok true) ↔
      ∃ reply value, transcript = [(request, reply)] ∧ reply.decoded fromSlice = some value ∧
        verdict value := by
  simp only [Dialogue.yields_bind_ok, fetch_ok, Dialogue.yields_pure, Reply.decoded_eq_some]
  constructor
  · rintro ⟨value, before, after, joined, ⟨reply, body, asked, accepted, decoded⟩, ended, yes⟩
    subst ended asked
    exact ⟨reply, value, by rw [joined, List.append_nil], ⟨body, accepted, decoded⟩,
      (Except.ok.inj yes).symm⟩
  · rintro ⟨reply, value, same, ⟨body, accepted, decoded⟩, yes⟩
    exact ⟨value, transcript, [], (List.append_nil _).symm, ⟨reply, body, same, accepted, decoded⟩,
      rfl, by rw [yes]⟩

/-- A lookup of a reference says yes when a reply reports enough to be settled for it. -/
theorem fetch_reports {label path : String} {request : Request}
    {classifyError : UInt16 → List UInt8 → Error} {fromSlice : FromSlice α} {verdict : α → Bool}
    {Reports : α → UInt64 → Prop} {claimed : UInt64} {transcript : List (Request × Reply)}
    (agree : ∀ value, verdict value ↔ ∃ amount, Reports value amount ∧ claimed ≤ amount) :
    (do let value ← fetch label path request classifyError fromSlice
        return verdict value : Talk Bool).Yields transcript (.ok true) ↔
      ∃ reply amount, transcript = [(request, reply)] ∧
        (∃ value, reply.decoded fromSlice = some value ∧ Reports value amount) ∧
        claimed ≤ amount := by
  simp only [fetch_true, agree]
  constructor
  · intro ⟨reply, value, asked, decoded, amount, reports, enough⟩
    exact ⟨reply, amount, asked, ⟨value, decoded, reports⟩, enough⟩
  · intro ⟨reply, amount, asked, ⟨value, decoded, reports⟩, enough⟩
    exact ⟨reply, value, asked, decoded, amount, reports, enough⟩

/-- A fetch asks its one request. -/
@[simp] theorem fetch_asks {label path : String} {request question : Request}
    {classifyError : UInt16 → List UInt8 → Error} {fromSlice : FromSlice α} :
    (fetch label path request classifyError fromSlice).Asks question ↔ question = request := by
  simp [fetch_eq_once, Dialogue.once]

/-- Percent-encode every byte but the unreserved ones. -/
def percentEncode (s : String) : String :=
  String.ofList ((asBytes s).flatMap fun b =>
    let c := Char.ofNat b.toNat
    if b.toNat < 128 ∧ (c.isAlphanum ∨ c = '-' ∨ c = '_' ∨ c = '.' ∨ c = '~') then [c]
    else ['%', (Nat.digitChar (b.toNat / 16)).toUpper, (Nat.digitChar (b.toNat % 16)).toUpper])

example : percentEncode "ord/1 é" = "ord%2F1%20%C3%A9" := by decide

/-- An identifier that is put into a path as one segment. -/
def safePathSegment (what s : String) : Except Error String :=
  if s = "" ∨ s.toList.any (['/', '?', '#', ' ', '\t', '\n', '\r'].contains ·) ∨
      !s.toList.all (fun c => c.toNat < 128) then
    .error (.invalidRequest s!"value {debugStr s} is not a safe URL path segment for {what}")
  else .ok s

theorem safePathSegment_ok {what s segment : String}
    (safe : safePathSegment what s = .ok segment) : segment = s := by
  unfold safePathSegment at safe
  split at safe
  · cases safe
  · exact (Except.ok.inj safe).symm

/-- The request that looks up the object a proof names, if it names one safely. -/
def lookupRequest (proofFromSlice : FromSlice α) (segment : α → Option String)
    (request : String → Request) (proof : List UInt8) : Option Request :=
  (proofFromSlice proof).toOption.bind fun found => (segment found).map request

theorem lookupRequest_eq_some {proofFromSlice : FromSlice α} {segment : α → Option String}
    {request : String → Request} {proof : List UInt8} {question : Request} :
    lookupRequest proofFromSlice segment request proof = some question ↔
      ∃ found name, proofFromSlice proof = .ok found ∧ segment found = some name ∧
        request name = question := by
  simp only [lookupRequest, Option.bind_eq_some_iff, Option.map_eq_some_iff,
    Fallible.toOption_eq_some]
  constructor
  · rintro ⟨found, decoded, name, safe, same⟩
    exact ⟨found, name, decoded, safe, same⟩
  · rintro ⟨found, name, decoded, safe, same⟩
    exact ⟨found, decoded, name, safe, same⟩

/-- The code is one of a list's, in any case. -/
def contains (codes : List String) (code : String) : Bool :=
  codes.any fun c => eqIgnoreAsciiCase c code

def unsupportedByRail (id currency : String) : Error :=
  .invalidRequest s!"rail {id} does not support currency {currency}"

/-- Any currency goes when none is configured. -/
def checkCurrency (id : String) (currencies : List String) (currency : String) :
    Except Error Unit :=
  insist (currencies = [] ∨ contains currencies currency) (unsupportedByRail id currency)

/-- Only the listed currencies go. -/
def checkListedCurrency (id : String) (currencies : List String) (currency : String) :
    Except Error Unit :=
  insist (contains currencies currency) (unsupportedByRail id currency)

/-- What an answer of the processor says about a payment. -/
structure Outcome where
  reference : String
  settled : Bool
  amountMinor : UInt64
  currency : String
deriving DecidableEq

/-- The last checks of a verifier: settled, in the receipt's currency, for no less than its
amount. -/
def Outcome.covers (outcome : Outcome) (receipt : Receipt) : Bool :=
  if !outcome.settled then false
  else if !eqIgnoreAsciiCase outcome.currency receipt.currency then false
  else if outcome.amountMinor < receipt.amountMinor then false
  else true

theorem Outcome.covers_iff {outcome : Outcome} {receipt : Receipt} :
    outcome.covers receipt ↔ outcome.settled ∧
      eqIgnoreAsciiCase outcome.currency receipt.currency ∧
        receipt.amountMinor ≤ outcome.amountMinor := by
  unfold Outcome.covers
  by_cases settled : outcome.settled <;>
    by_cases currency : eqIgnoreAsciiCase outcome.currency receipt.currency <;>
      simp [settled, currency, UInt64.not_lt]

/-- What cannot be read settles nothing. -/
def settles (receipt : Receipt) : Except Error Outcome → Bool
  | .error _ => false
  | .ok outcome => outcome.covers receipt

/-- The outcome a reply is read as, if it is accepted and can be read. -/
def Reply.outcome (fromSlice : FromSlice α) (evaluate : α → Except Error Outcome)
    (reply : Reply) : Option Outcome :=
  reply.accepted.bind fun body =>
    (fromSlice body).toOption.bind fun value => (evaluate value).toOption

theorem Reply.outcome_eq_some {fromSlice : FromSlice α} {evaluate : α → Except Error Outcome}
    {reply : Reply} {outcome : Outcome} :
    reply.outcome fromSlice evaluate = some outcome ↔ ∃ body value, reply.accepted = some body ∧
      fromSlice body = .ok value ∧ evaluate value = .ok outcome := by
  simp only [Reply.outcome, Option.bind_eq_some_iff, Fallible.toOption_eq_some]
  constructor
  · rintro ⟨body, accepted, value, decoded, read⟩
    exact ⟨body, value, accepted, decoded, read⟩
  · rintro ⟨body, value, accepted, decoded, read⟩
    exact ⟨body, accepted, value, decoded, read⟩

/-- A lookup says yes when its reply is read as an outcome that covers the receipt. -/
theorem fetch_settles {label path : String} {request : Request}
    {classifyError : UInt16 → List UInt8 → Error} {fromSlice : FromSlice α}
    {evaluate : α → Except Error Outcome} {receipt : Receipt}
    {transcript : List (Request × Reply)} :
    (do let value ← fetch label path request classifyError fromSlice
        return settles receipt (evaluate value) : Talk Bool).Yields transcript (.ok true) ↔
      ∃ reply outcome, transcript = [(request, reply)] ∧
        reply.outcome fromSlice evaluate = some outcome ∧ outcome.covers receipt := by
  simp only [fetch_true, Reply.outcome_eq_some, Reply.decoded_eq_some]
  constructor
  · intro ⟨reply, value, same, ⟨body, accepted, decoded⟩, yes⟩
    cases read : evaluate value with
    | error => simp [read, settles] at yes
    | ok outcome =>
      rw [read, settles] at yes
      exact ⟨reply, outcome, same, ⟨body, value, accepted, decoded, read⟩, yes⟩
  · intro ⟨reply, outcome, same, ⟨body, value, accepted, decoded, read⟩, covers⟩
    exact ⟨reply, value, same, ⟨body, accepted, decoded⟩, by rw [read, settles, covers]⟩

end Patala.Fiat
