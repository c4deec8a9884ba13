import Patala.Ffi.Call
import Patala.Ffi.HandleUse

/-! The C library as it is built without features: what a configuration document opens, and the
exported functions over C strings. A document that is not text is refused, since an absent one
stands for the offline default, which reports every charge as settled. -/

namespace Patala.Ffi

open Fallible Linearization

/-- A NUL-terminated string without its terminator, or `NULL`. -/
abbrev CString := Option (List UInt8)

/-- The document `patala_new` takes, by its tag. -/
inductive RailConfig where
  | mock (config : MockConfig)
  | fiat (provider : String) (config : List (String × String))
  | solana (rpcUrl cluster : String) (keypairSeedHex : Option String)
  | stellar (horizonUrl network : String) (usdcIssuer keypairSeedHex : Option String)
  | hyperswitch (baseUrl apiKey : String) (connector webhookSecret : Option String)
    (requiresKyc : Bool) (currencies : List String) (settlementDays : UInt8) (timeoutSecs : UInt64)

def RailConfig.defaultMock : RailConfig := .mock {}

/-- `as_str_opt`: what is absent is empty, what is no text is nothing. -/
def asStrOpt : CString → Option String
  | none => some ""
  | some bytes => fromUtf8 bytes

def asStr (p : CString) : String := (asStrOpt p).getD ""

def notUtf8 : String :=
  "patala: configuration is not valid UTF-8. It is refused rather than                  treated " ++
    "as absent, because an absent configuration means the offline                  MockRail — " ++
    "which would report a charge that never happened as settled."

section Exported

variable (printable : Char → Bool) (configFromStr : String → Except String RailConfig)
  (readers : Readers) (fiatProviders : Option (List String))

/-- The rail of a document, in a build without features. -/
def RailConfig.build : RailConfig → Except String Instance
  | mock config => .ok config.build
  | fiat provider _ => .error (notCompiledIn printable "fiat" provider)
  | solana _ _ _ => .error (notCompiledIn printable "solana" "solana")
  | stellar _ _ _ _ => .error (notCompiledIn printable "stellar" "stellar")
  | hyperswitch _ _ _ _ _ _ _ _ => .error (notCompiledIn printable "hyperswitch" "hyperswitch")

def openRail (configJson : String) : Except String Instance := do
  let config ←
    if trim configJson = "" then .ok RailConfig.defaultMock
    else (configFromStr configJson).mapError ("patala: invalid configuration document: " ++ ·)
  config.build printable

def patalaNew (config : CString) : Except String Instance :=
  match asStrOpt config with
  | none => .error (intoC notUtf8)
  | some text => (openRail printable configFromStr text).mapError intoC

/-- What the rail of a call is asked, as C strings: a method and a request. -/
structure Asked where
  method : CString
  requestJson : CString

/-- The part of `patala_call` that follows the lookup. -/
def dispatch (inst : Instance) (asked : Asked) (nowUnix : UInt64) : Except String String :=
  let answered := match Method.ofName? (asStr asked.method) with
    | some method =>
      answer printable readers fiatProviders inst (asStr asked.requestJson) nowUnix method
    | none => .error (unknownMethod printable (asStr asked.method))
  match answered with
  | .ok out => .ok (intoC out)
  | .error message => .error (intoC message)

end Exported

section Opened

variable {printable : Char → Bool} {configFromStr : String → Except String RailConfig}
  {readers : Readers} {fiatProviders : Option (List String)}

/-- A call in one piece is the lookup and what follows it. -/
theorem patalaCall_eq_shelf_call (shelf : Handles.Shelf Instance) (handle : UInt64) (asked : Asked)
    (nowUnix : UInt64) :
    patalaCall printable readers fiatProviders shelf.live handle (asStr asked.method)
        (asStr asked.requestJson) nowUnix =
      shelf.call (dispatch printable readers fiatProviders) handle asked nowUnix := by
  have plain : ¬ HasNul (Handles.unknownHandle handle) := by
    show ¬ HasNul ("patala: unknown handle " ++ Nat.repr handle.toNat ++
      " (never created, or already closed)")
    simp only [hasNul_append, not_hasNul_repr, or_false, not_or]
    decide
  unfold patalaCall call lookup Handles.Shelf.call
  cases live : shelf.live handle with
  | none =>
    show Except.error (intoC (Handles.unknownHandle handle)) = _
    rw [intoC_eq_iff.mpr plain]
  | some inst => rfl

/-- A rail is opened from nothing or blanks, which is the default one, or from a document that is
read and asks for an offline rail. -/
theorem patalaNew_eq_ok {config : CString} {inst : Instance} :
    patalaNew printable configFromStr config = .ok inst ↔ ∃ text, asStrOpt config = some text ∧
      ((trim text = "" ∧ inst = MockConfig.build {}) ∨
        (trim text ≠ "" ∧ ∃ mock, configFromStr text = .ok (.mock mock) ∧ inst = mock.build)) := by
  unfold patalaNew
  cases decoded : asStrOpt config with
  | none => simp
  | some text =>
    simp only [Option.some.injEq, exists_eq_left', mapError_eq_ok, openRail]
    by_cases blank : trim text = ""
    · simp only [blank, if_true, ne_eq, not_true_eq_false, false_and, or_false, true_and]
      exact ⟨fun built => (Except.ok.inj built).symm, fun same => same ▸ rfl⟩
    · simp only [blank, if_false, bind_eq_ok, mapError_eq_ok, false_and, false_or, ne_eq,
        not_false_eq_true, true_and]
      constructor
      · intro ⟨document, read, built⟩
        cases document with
        | mock mock => exact ⟨mock, read, (Except.ok.inj built).symm⟩
        | fiat provider entries => cases built
        | solana rpcUrl cluster seed => cases built
        | stellar horizonUrl network issuer seed => cases built
        | hyperswitch baseUrl apiKey connector secret kyc currencies days timeout => cases built
      · intro ⟨mock, read, same⟩
        exact ⟨.mock mock, read, same ▸ rfl⟩

end Opened

namespace Sample

open Handles

def build (config : CString) (_ : UInt64) : Except String Instance :=
  patalaNew (fun _ => true) (fun _ => .error "expected value at line 1 column 1") config

def respond : Instance → Asked → UInt64 → Except String String :=
  dispatch (fun _ => true) oneRequest none

def twoThreads : System (Process Bool CString Asked UInt64 Instance) (Label Bool CString Asked UInt64) :=
  library build respond

def idAsked : Asked := ⟨some (asBytes "id"), none⟩

def idAnswered : Except String String := respond (MockConfig.build {}) idAsked 0

/-- Both threads open a rail and take their handles in one order, but insert in the other. The
first one's rail is closed by the second while it is called. -/
def labels : List (Label Bool CString Asked UInt64) :=
  [.seen (.invoked false (.new none 0)), .seen (.invoked true (.new none 0)), .numbered false,
    .numbered true, .inside true, .seen (.answered true (.opened (.ok 2))), .inside false,
    .seen (.answered false (.opened (.ok 1))), .seen (.invoked false (.call 1 idAsked 0)),
    .inside false, .seen (.invoked true (.close 1)), .inside true, .seen (.answered true .closed),
    .inside false, .seen (.answered false (.called idAnswered)),
    .seen (.invoked true (.call 1 idAsked 0)), .inside true,
    .seen (.answered true (.called (.error (unknownHandle 1))))]

theorem runs : ∃ process, twoThreads.Runs labels process := by
  have built : build none 0 = .ok (MockConfig.build {}) :=
    patalaNew_eq_ok.mpr ⟨"", rfl, .inl ⟨by decide, rfl⟩⟩
  apply Exists.intro
  refine ⟨_, rfl, ?_⟩
  apply System.Path.next (Step.enter rfl)
  apply System.Path.next (Step.enter rfl)
  apply System.Path.next (Step.number rfl built)
  apply System.Path.next (Step.number rfl built)
  apply System.Path.next (Step.insert rfl)
  apply System.Path.next (Step.leave rfl)
  apply System.Path.next (Step.insert rfl)
  apply System.Path.next (Step.leave rfl)
  apply System.Path.next (Step.enter rfl)
  apply System.Path.next (Step.find rfl rfl)
  apply System.Path.next (Step.enter rfl)
  apply System.Path.next (Step.remove rfl)
  apply System.Path.next (Step.leave rfl)
  apply System.Path.next (Step.ask rfl)
  apply System.Path.next (Step.leave rfl)
  apply System.Path.next (Step.enter rfl)
  apply System.Path.next (Step.miss rfl rfl)
  apply System.Path.next (Step.leave rfl)
  apply System.Path.here

/-- The answers of the run are those of a registry that serves one thread at a time. -/
theorem calls_linearizable_two : Linearizable (AtomicRegistry build respond) (calls labels) := by
  obtain ⟨process, run⟩ := runs
  exact calls_linearizable run (by decide)

/-- Its two handles are different, and the closed one is refused to the other thread. -/
theorem handles_keep_contract_two : Contract build respond (calls labels) ∧
    given (calls labels) = [2, 1] := by
  obtain ⟨process, run⟩ := runs
  exact ⟨handles_keep_contract run (by decide), rfl⟩

end Sample

end Patala.Ffi
