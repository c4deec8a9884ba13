import Patala.Fiat.VerifyErrors

/-! The verifiers that look up the object a receipt's proof names and judge what they find. Each
asks at most once, and its answer is what its judgement makes of the reply. -/

namespace Patala.Fiat

@[simp] theorem eqIgnoreAsciiCase_upper_left {a b : String} :
    eqIgnoreAsciiCase (toAsciiUppercase a) b = eqIgnoreAsciiCase a b := by
  simp [eqIgnoreAsciiCase]

@[simp] theorem eqIgnoreAsciiCase_upper_right {a b : String} :
    eqIgnoreAsciiCase a (toAsciiUppercase b) = eqIgnoreAsciiCase a b := by
  simp [eqIgnoreAsciiCase]

/-- How a rail looks its objects up. A proof names an object or none, or cannot be used. -/
structure ObjectLookup (π α : Type) where
  railId : String
  proofFromSlice : FromSlice π
  named : π → Except Error (Option String)
  path : String → String
  request : String → Request
  classifyError : UInt16 → List UInt8 → Error
  fromSlice : FromSlice α
  judge : Receipt → String → α → Except Error Bool

/-- A creation succeeds on an accepted answer that decodes to what is insisted on. -/
theorem fetch_created {label path : String} {request : Request}
    {classifyError : UInt16 → List UInt8 → Error} {fromSlice : FromSlice α} {wanted : α → Prop}
    [DecidablePred wanted] {complaint : α → Error} {issue : α → Receipt} {receipt : Receipt}
    {transcript : List (Request × Reply)} :
    (do let parsed ← fetch label path request classifyError fromSlice
        insist (wanted parsed) (complaint parsed)
        return issue parsed : Talk Receipt).Yields transcript (.ok receipt) ↔
      ∃ reply parsed, transcript = [(request, reply)] ∧ reply.decoded fromSlice = some parsed ∧
        wanted parsed ∧ receipt = issue parsed := by
  rw [fetch_eq_once, Dialogue.yields_once_bind_ok]
  simp only [Reply.read_eq_ok, Dialogue.yields_lift_bind_ok, insist_ok_iff, exists_const,
    Dialogue.yields_pure, Except.ok.injEq]
  constructor
  · intro run
    obtain ⟨reply, parsed, later, same, decoded, holds, ended, issued⟩ := run
    subst ended
    exact ⟨reply, parsed, same, decoded, holds, issued⟩
  · intro found
    obtain ⟨reply, parsed, same, decoded, holds, issued⟩ := found
    exact ⟨reply, parsed, [], same, decoded, holds, rfl, issued⟩

/-- A guard whose refusal is an answer of no. -/
def orDeclined (guarded : Except Error String) : Except Error (Option String) :=
  .ok guarded.toOption

/-- A guard whose refusal is an error. -/
def orFailed (guarded : Except Error String) : Except Error (Option String) := guarded.map some

theorem orDeclined_eq_some {guarded : Except Error String} {id : String} :
    orDeclined guarded = .ok (some id) ↔ guarded = .ok id := by
  cases guarded <;> simp [orDeclined, Except.toOption]

theorem orFailed_eq_some {guarded : Except Error String} {id : String} :
    orFailed guarded = .ok (some id) ↔ guarded = .ok id := by
  cases guarded <;> simp [orFailed, Except.map]

theorem orDeclined_ne_error {guarded : Except Error String} {error : Error} :
    orDeclined guarded ≠ .error error := by
  simp [orDeclined]

theorem orFailed_eq_error {guarded : Except Error String} {error : Error} :
    orFailed guarded = .error error ↔ guarded = .error error := by
  cases guarded <;> simp [orFailed, Except.map]

namespace ObjectLookup

variable {π α : Type} (lookup : ObjectLookup π α)

/-- The object a receipt names: none when it is another rail's, or its proof does not decode. -/
def object (receipt : Receipt) : Except Error (Option String) :=
  if receipt.railId ≠ lookup.railId then .ok none
  else match lookup.proofFromSlice receipt.proof with
    | .error _ => .ok none
    | .ok proof => lookup.named proof

/-- Fetch the object and judge it. -/
def verify (receipt : Receipt) : Talk Bool := do
  match ← lookup.object receipt with
  | none => return false
  | some id => do
    let value ← fetch lookup.railId (lookup.path id) (lookup.request id) lookup.classifyError
      lookup.fromSlice
    lookup.judge receipt id value

/-- What the reply for an object comes to. -/
def answer (receipt : Receipt) (id : String) (reply : Reply) : Except Error Bool :=
  reply.read lookup.railId (lookup.path id) lookup.classifyError lookup.fromSlice >>=
    lookup.judge receipt id

section Runs

variable {lookup} {receipt : Receipt} {transcript : List (Request × Reply)}
  {outcome : Except Error Bool}

theorem verify_of_error {error : Error} (unusable : lookup.object receipt = .error error) :
    lookup.verify receipt = .done (.error error) := by
  rw [verify, unusable, Dialogue.lift_error_bind]

theorem verify_of_none (unnamed : lookup.object receipt = .ok none) :
    lookup.verify receipt = pure false := by
  rw [verify, unnamed, Dialogue.lift_ok_bind]

theorem verify_of_some {id : String} (named : lookup.object receipt = .ok (some id)) :
    lookup.verify receipt = .once (lookup.request id) (lookup.answer receipt id) := by
  rw [verify, named, Dialogue.lift_ok_bind]
  show (fetch _ _ _ _ _ >>= fun value => liftM (lookup.judge receipt id value)) = _
  rw [fetch_eq_once, Dialogue.once_bind_lift]
  rfl

/-- The object a receipt names decides how its verification runs. -/
theorem verify_yields : (lookup.verify receipt).Yields transcript outcome ↔
    match lookup.object receipt with
    | .error error => transcript = [] ∧ outcome = .error error
    | .ok none => transcript = [] ∧ outcome = .ok false
    | .ok (some id) => ∃ reply, transcript = [(lookup.request id, reply)] ∧
        outcome = lookup.answer receipt id reply := by
  cases object : lookup.object receipt with
  | error error => rw [verify_of_error object, Dialogue.yields_done]
  | ok named =>
    cases named with
    | none => rw [verify_of_none object, Dialogue.yields_pure]
    | some id => rw [verify_of_some object, Dialogue.yields_once]

theorem object_eq_some {id : String} : lookup.object receipt = .ok (some id) ↔
    receipt.railId = lookup.railId ∧ ∃ proof, lookup.proofFromSlice receipt.proof = .ok proof ∧
      lookup.named proof = .ok (some id) := by
  unfold object
  by_cases own : receipt.railId = lookup.railId
  · rw [if_neg (not_not_intro own)]
    cases lookup.proofFromSlice receipt.proof <;> simp [own]
  · simp [own]

theorem answer_true {id : String} {reply : Reply} : lookup.answer receipt id reply = .ok true ↔
    ∃ value, reply.decoded lookup.fromSlice = some value ∧
      lookup.judge receipt id value = .ok true := by
  simp only [answer, Fallible.bind_eq_ok, Reply.read_eq_ok]

/-- A verification says yes when the object its receipt names is fetched and judged so. -/
theorem verify_true : (lookup.verify receipt).Yields transcript (.ok true) ↔
    ∃ id, lookup.object receipt = .ok (some id) ∧ ∃ reply value,
      transcript = [(lookup.request id, reply)] ∧ reply.decoded lookup.fromSlice = some value ∧
        lookup.judge receipt id value = .ok true := by
  rw [verify_yields]
  constructor
  · intro run
    split at run
    · cases run.2
    · cases run.2
    · rename_i id named
      obtain ⟨reply, asked, answered⟩ := run
      obtain ⟨value, decoded, judged⟩ := answer_true.mp answered.symm
      exact ⟨id, named, reply, value, asked, decoded, judged⟩
  · intro ⟨id, named, reply, value, asked, decoded, judged⟩
    rw [named]
    exact ⟨reply, asked, (answer_true.mpr ⟨value, decoded, judged⟩).symm⟩

/-- A verification asks for the object its receipt names, and for nothing else. -/
theorem verify_asks {question : Request} : (lookup.verify receipt).Asks question ↔
    ∃ id, lookup.object receipt = .ok (some id) ∧ question = lookup.request id := by
  cases object : lookup.object receipt with
  | error error => simp [verify_of_error object]
  | ok named =>
    cases named with
    | none => simp [verify_of_none object]
    | some id => simp [verify_of_some object, Dialogue.once]

end Runs

section Discipline

/-- The reply was read, and judged to be a failure all the same. -/
def Refused (receipt : Receipt) (entry : Request × Reply) : Prop :=
  ∃ id value error, entry.2.decoded lookup.fromSlice = some value ∧
    lookup.object receipt = .ok (some id) ∧ lookup.judge receipt id value = .error error

/-- What the verifier does, in the form the guarded ones share; it does not panic. -/
def guarded (named : π → String) (Safe : String → Prop) : GuardedVerify where
  railId := lookup.railId
  verify := fun receipt => do return some (← lookup.verify receipt)
  proofId := fun proof => (lookup.proofFromSlice proof).toOption.map named
  Safe := Safe
  Failed := fun entry => entry.2.Unread lookup.fromSlice

/-- A proof names an object exactly when its guard passes the name. -/
def Guards (named : π → String) (Safe : String → Prop) : Prop :=
  ∀ proof id, lookup.named proof = .ok (some id) ↔ named proof = id ∧ Safe id

variable {lookup} {named : π → String} {Safe : String → Prop} {receipt : Receipt}

/-- The object a receipt names is the one in its proof, where that is safe. -/
theorem Guards.object_iff (guards : lookup.Guards named Safe) {id : String} :
    lookup.object receipt = .ok (some id) ↔ receipt.railId = lookup.railId ∧
      (lookup.guarded named Safe).proofId receipt.proof = some id ∧ Safe id := by
  rw [object_eq_some]
  simp only [guards _ id, guarded, Option.map_eq_some_iff, Fallible.toOption_eq_some]
  constructor
  · intro ⟨own, proof, decoded, same, safe⟩
    exact ⟨own, ⟨proof, decoded, same⟩, safe⟩
  · intro ⟨own, ⟨proof, decoded, same⟩, safe⟩
    exact ⟨own, proof, decoded, same, safe⟩

/-- A receipt that names an object is named in the guarded form. -/
theorem Guards.named_of_object (guards : lookup.Guards named Safe) {id : String}
    (object : lookup.object receipt = .ok (some id)) : (lookup.guarded named Safe).Named receipt := by
  obtain ⟨own, found, safe⟩ := guards.object_iff.mp object
  exact ⟨own, id, found, safe⟩

/-- A reply is a failure of the check, or is judged. -/
theorem answer_error_iff {id : String} {reply : Reply} (object : lookup.object receipt = .ok (some id)) :
    (((∃ error, (lookup.answer receipt id reply).map some = .error error) ↔
        reply.Unread lookup.fromSlice) ∧ (lookup.answer receipt id reply).map some ≠ .ok none) ↔
      ¬ lookup.Refused receipt (lookup.request id, reply) := by
  cases decoded : reply.decoded lookup.fromSlice with
  | none =>
    have failed : ∃ error, lookup.answer receipt id reply = .error error := by
      cases answered : lookup.answer receipt id reply with
      | error error => exact ⟨error, rfl⟩
      | ok verdict =>
        obtain ⟨value, read, -⟩ := Fallible.bind_eq_ok.mp answered
        cases (Reply.read_eq_ok.mp read).symm.trans decoded
    obtain ⟨error, answered⟩ := failed
    refine iff_of_true ?_ ?_
    · rw [answered]
      exact ⟨iff_of_true ⟨error, rfl⟩ decoded, by simp [Except.map]⟩
    · intro refused
      obtain ⟨other, value, complaint, read, rest⟩ := refused
      cases read.symm.trans decoded
  | some value =>
    have judged : lookup.answer receipt id reply = lookup.judge receipt id value := by
      rw [answer, Reply.read_eq_ok.mpr decoded]
      rfl
    have good : ¬ reply.Unread lookup.fromSlice := by
      rw [Reply.Unread, decoded]
      simp
    rw [judged]
    cases verdict : lookup.judge receipt id value with
    | error error =>
      refine iff_of_false ?_ ?_
      · intro agreed
        obtain ⟨errs, _⟩ := agreed
        exact good (errs.mp ⟨error, rfl⟩)
      · intro agreed
        exact agreed ⟨id, value, error, decoded, object, verdict⟩
    | ok answer =>
      refine iff_of_true ⟨iff_of_false (by simp [Except.map]) good, by simp [Except.map]⟩ ?_
      intro refusal
      obtain ⟨other, found, error, read, named, refused⟩ := refusal
      cases read.symm.trans decoded
      cases named.symm.trans object
      cases refused.symm.trans verdict

/-- The entry of a run is for the object its receipt names. -/
theorem object_of_mem {transcript : List (Request × Reply)} {outcome : Except Error Bool}
    (run : (lookup.verify receipt).Yields transcript outcome) {entry : Request × Reply}
    (member : entry ∈ transcript) : ∃ id, lookup.object receipt = .ok (some id) := by
  rw [verify_yields] at run
  split at run
  · rw [run.1] at member
    cases member
  · rw [run.1] at member
    cases member
  · exact ⟨_, by assumption⟩

/-- An entry is refused when what it is read as is judged to be a failure. -/
theorem refused_iff_of_mem {transcript : List (Request × Reply)} {outcome : Except Error Bool}
    (run : (lookup.verify receipt).Yields transcript outcome) {entry : Request × Reply}
    (member : entry ∈ transcript) {Legible : α → Prop}
    (judged : ∀ id value, (∃ verdict, lookup.judge receipt id value = .ok verdict) ↔
      Legible value) :
    ¬ lookup.Refused receipt entry ↔
      ∀ value, entry.2.decoded lookup.fromSlice = some value → Legible value := by
  obtain ⟨id, object⟩ := object_of_mem run member
  constructor
  · intro agreed value decoded
    rw [← judged id value]
    cases answered : lookup.judge receipt id value with
    | ok verdict => exact ⟨verdict, rfl⟩
    | error error => exact absurd ⟨id, value, error, decoded, object, answered⟩ agreed
  · intro legible ⟨other, value, error, decoded, _, refused⟩
    obtain ⟨verdict, answered⟩ := (judged other value).mpr (legible value decoded)
    cases answered.symm.trans refused

/-- A proof that cannot be used names an object its guard fails on. -/
theorem usable_iff (fails : ∀ proof, (∃ error, lookup.named proof = .error error) ↔
      ¬ Safe (named proof)) :
    (∀ error, lookup.object receipt ≠ .error error) ↔ (receipt.railId = lookup.railId →
      ∀ id, (lookup.guarded named Safe).proofId receipt.proof = some id → Safe id) := by
  unfold object
  by_cases own : receipt.railId = lookup.railId
  · cases decoded : lookup.proofFromSlice receipt.proof with
    | error e => simp [own, guarded, decoded, Except.toOption]
    | ok proof =>
      simp only [own, guarded, decoded, Except.toOption, Option.map_some, Option.some.injEq,
        forall_eq', forall_const, ne_eq, not_true_eq_false, if_false]
      rw [← not_exists, fails, not_not]
  · simp [own]

/-- A run ends as it should when its proof can be used and no reply that was read is refused. -/
theorem disciplined_iff (guards : lookup.Guards named Safe) {transcript : List (Request × Reply)}
    {outcome : Except Error (Option Bool)}
    (run : ((lookup.guarded named Safe).verify receipt).Yields transcript outcome) :
    (lookup.guarded named Safe).Disciplined receipt transcript outcome ↔
      (∀ error, lookup.object receipt ≠ .error error) ∧
        ∀ entry ∈ transcript, ¬ lookup.Refused receipt entry := by
  obtain ⟨result, checked, same⟩ := Dialogue.yields_bind_pure.mp run
  subst same
  rw [verify_yields] at checked
  cases object : lookup.object receipt with
  | error error =>
    rw [object] at checked
    obtain ⟨ended, failed⟩ := checked
    subst ended failed
    refine iff_of_false (GuardedVerify.not_disciplined_of_error _) ?_
    intro ⟨usable, _⟩
    exact usable error rfl
  | ok found =>
    cases found with
    | none =>
      rw [object] at checked
      obtain ⟨ended, answered⟩ := checked
      subst ended answered
      exact iff_of_true (GuardedVerify.disciplined_of_declined _) ⟨by simp, by simp⟩
    | some id =>
      rw [object] at checked
      obtain ⟨reply, asked, answered⟩ := checked
      subst asked answered
      rw [GuardedVerify.disciplined_iff_of_named _ (guards.named_of_object object)]
      simp only [List.mem_singleton, forall_eq, exists_eq_left, ne_eq, reduceCtorEq,
        not_false_eq_true, implies_true, true_and]
      exact answer_error_iff object

end Discipline

end ObjectLookup

end Patala.Fiat
