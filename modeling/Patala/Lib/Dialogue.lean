import Mathlib.Logic.Basic
import Patala.Lib.Fallible

/-! A computation that asks an outside party: it ends, or asks a question and goes on from
the answer. A transcript lists the questions with the answers they got, so that what holds
over every transcript holds whatever the other party does. -/

universe u v w x

/-- A computation that may fail and may ask questions in `Q`, answered in `A`. -/
inductive Dialogue (Q : Type u) (A : Type v) (ε : Type w) (α : Type x) where
  | done (result : Except ε α)
  | ask (question : Q) (next : A → Dialogue Q A ε α)

namespace Dialogue

variable {Q A ε α β : Type u}

/-- Go on with the value, unless the computation failed. -/
def bind (first : Dialogue Q A ε α) (rest : α → Dialogue Q A ε β) : Dialogue Q A ε β :=
  match first with
  | done (.ok value) => rest value
  | done (.error error) => done (.error error)
  | ask question next => ask question fun answer => (next answer).bind rest

instance instMonad : Monad (Dialogue Q A ε) where
  pure value := done (.ok value)
  bind := bind

/-- A step that asks nothing. -/
instance instMonadLift : MonadLift (Except ε) (Dialogue Q A ε) where
  monadLift result := done result

/-- Go on with the result, failure included. -/
def attempt : Dialogue Q A ε α → Dialogue Q A ε (Except ε α)
  | done result => done (.ok result)
  | ask question next => ask question fun answer => (next answer).attempt

/-- The transcripts of a computation, each with what it ends in. -/
inductive Yields : Dialogue Q A ε α → List (Q × A) → Except ε α → Prop where
  | done : Yields (done result) [] result
  | ask (later : Yields (next answer) transcript result) :
      Yields (ask question next) ((question, answer) :: transcript) result

@[simp] theorem yields_done {result outcome : Except ε α} {transcript : List (Q × A)} :
    Yields (done result : Dialogue Q A ε α) transcript outcome ↔
      transcript = [] ∧ outcome = result := by
  constructor
  · intro run
    cases run
    exact ⟨rfl, rfl⟩
  · intro ⟨empty, same⟩
    subst empty same
    exact .done

@[simp] theorem yields_pure {value : α} {outcome : Except ε α} {transcript : List (Q × A)} :
    Yields (pure value : Dialogue Q A ε α) transcript outcome ↔
      transcript = [] ∧ outcome = .ok value :=
  yields_done

@[simp] theorem yields_lift {result outcome : Except ε α} {transcript : List (Q × A)} :
    Yields (liftM result : Dialogue Q A ε α) transcript outcome ↔
      transcript = [] ∧ outcome = result :=
  yields_done

@[simp] theorem yields_ask {question : Q} {next : A → Dialogue Q A ε α} {outcome : Except ε α}
    {transcript : List (Q × A)} :
    Yields (ask question next) transcript outcome ↔
      ∃ answer rest, transcript = (question, answer) :: rest ∧
        Yields (next answer) rest outcome := by
  constructor
  · intro run
    cases run with
    | ask later => exact ⟨_, _, rfl, later⟩
  · intro ⟨answer, rest, same, later⟩
    subst same
    exact .ask later

/-- A chain succeeds when both parts do, one transcript after the other. -/
theorem yields_bind_ok {first : Dialogue Q A ε α} {rest : α → Dialogue Q A ε β} {value : β}
    {transcript : List (Q × A)} :
    Yields (first >>= rest) transcript (.ok value) ↔
      ∃ middle before after, transcript = before ++ after ∧ Yields first before (.ok middle) ∧
        Yields (rest middle) after (.ok value) := by
  show Yields (first.bind rest) transcript (.ok value) ↔ _
  induction first generalizing transcript with
  | done result =>
    cases result with
    | error error => simp [bind]
    | ok middle => simp [bind]
  | ask question next ih =>
    simp only [bind, yields_ask, ih]
    constructor
    · rintro ⟨answer, _, rfl, middle, before, after, rfl, here, later⟩
      exact ⟨middle, (question, answer) :: before, after, rfl, ⟨answer, before, rfl, here⟩, later⟩
    · rintro ⟨middle, _, after, rfl, ⟨answer, before, rfl, here⟩, later⟩
      exact ⟨answer, before ++ after, rfl, middle, before, after, rfl, here, later⟩

/-- Ask one question and read the answer. -/
def once (question : Q) (read : A → Except ε α) : Dialogue Q A ε α :=
  ask question fun answer => done (read answer)

@[simp] theorem yields_once {question : Q} {read : A → Except ε α} {outcome : Except ε α}
    {transcript : List (Q × A)} :
    Yields (once question read) transcript outcome ↔
      ∃ answer, transcript = [(question, answer)] ∧ outcome = read answer := by
  simp [once]

/-- A chain that starts with one question stops at its answer or goes on from it. -/
theorem yields_once_bind {question : Q} {read : A → Except ε α} {rest : α → Dialogue Q A ε β}
    {outcome : Except ε β} {transcript : List (Q × A)} :
    Yields (once question read >>= rest) transcript outcome ↔
      ∃ answer later, transcript = (question, answer) :: later ∧
        ((∃ error, read answer = .error error ∧ later = [] ∧ outcome = .error error) ∨
          ∃ value, read answer = .ok value ∧ Yields (rest value) later outcome) := by
  show Yields (ask question fun answer => (done (read answer)).bind rest) transcript outcome ↔ _
  rw [yields_ask]
  refine exists_congr fun answer => exists_congr fun later => and_congr_right fun _ => ?_
  cases found : read answer with
  | error error => simp [bind]
  | ok value => simp [bind]

@[simp] theorem lift_ok_bind {value : α} {rest : α → Dialogue Q A ε β} :
    ((liftM (Except.ok value : Except ε α) : Dialogue Q A ε α) >>= rest) = rest value := rfl

@[simp] theorem lift_error_bind {error : ε} {rest : α → Dialogue Q A ε β} :
    ((liftM (Except.error error : Except ε α) : Dialogue Q A ε α) >>= rest) = done (.error error) :=
  rfl

/-- A step after a question becomes part of reading the answer. -/
theorem once_bind_lift {question : Q} {read : A → Except ε α} {step : α → Except ε β} :
    (once question read >>= fun value => (liftM (step value) : Dialogue Q A ε β)) =
      once question fun answer => read answer >>= step := by
  refine congrArg (ask question) (funext fun answer => ?_)
  show (done (read answer)).bind (fun value => done (step value)) = done (read answer >>= step)
  cases read answer with
  | error => rfl
  | ok => rfl

/-- A change of the value after a question becomes part of reading the answer. -/
theorem once_bind_pure {question : Q} {read : A → Except ε α} {f : α → β} :
    (once question read >>= fun value => (pure (f value) : Dialogue Q A ε β)) =
      once question fun answer => (read answer).map f := by
  refine congrArg (ask question) (funext fun answer => ?_)
  show (done (read answer)).bind (fun value => pure (f value)) = done ((read answer).map f)
  cases read answer with
  | error => rfl
  | ok => rfl

/-- A chain that starts without a question succeeds when that step does, and the rest. -/
theorem yields_lift_bind_ok {result : Except ε α} {rest : α → Dialogue Q A ε β} {value : β}
    {transcript : List (Q × A)} :
    Yields (liftM result >>= rest) transcript (.ok value) ↔
      ∃ middle, result = .ok middle ∧ Yields (rest middle) transcript (.ok value) := by
  cases result with
  | error error => simp
  | ok middle => simp

/-- A chain that starts with one question succeeds when its answer is read, and the rest. -/
theorem yields_once_bind_ok {question : Q} {read : A → Except ε α} {rest : α → Dialogue Q A ε β}
    {value : β} {transcript : List (Q × A)} :
    Yields (once question read >>= rest) transcript (.ok value) ↔
      ∃ answer middle later, transcript = (question, answer) :: later ∧
        read answer = .ok middle ∧ Yields (rest middle) later (.ok value) := by
  rw [yields_once_bind]
  constructor
  · intro ⟨answer, later, same, ended⟩
    rcases ended with ⟨error, -, -, failed⟩ | ⟨middle, read, run⟩
    · cases failed
    · exact ⟨answer, middle, later, same, read, run⟩
  · intro ⟨answer, middle, later, same, read, run⟩
    exact ⟨answer, later, same, .inr ⟨middle, read, run⟩⟩

/-- A chain that only changes the value ends as its first part does. -/
theorem yields_bind_pure {first : Dialogue Q A ε α} {f : α → β} {outcome : Except ε β}
    {transcript : List (Q × A)} :
    Yields (first >>= fun value => pure (f value)) transcript outcome ↔
      ∃ result, Yields first transcript result ∧ outcome = result.map f := by
  show Yields (first.bind fun value => done (.ok (f value))) transcript outcome ↔ _
  induction first generalizing transcript with
  | done result =>
    cases result with
    | error error => simp [bind, Except.map]
    | ok value => simp [bind, Except.map]
  | ask question next ih =>
    simp only [bind, yields_ask, ih]
    constructor
    · intro ⟨answer, rest, same, result, later, ended⟩
      exact ⟨result, ⟨answer, rest, same, later⟩, ended⟩
    · intro ⟨result, ⟨answer, rest, same, later⟩, ended⟩
      exact ⟨answer, rest, same, result, later, ended⟩

@[simp] theorem yields_attempt {dialogue : Dialogue Q A ε α} {transcript : List (Q × A)}
    {outcome : Except ε (Except ε α)} :
    Yields dialogue.attempt transcript outcome ↔
      ∃ result, Yields dialogue transcript result ∧ outcome = .ok result := by
  induction dialogue generalizing transcript with
  | done result => simp [attempt]
  | ask question next ih =>
    simp only [attempt, yields_ask, ih]
    constructor
    · rintro ⟨answer, rest, same, result, later, ended⟩
      exact ⟨result, ⟨answer, rest, same, later⟩, ended⟩
    · rintro ⟨result, ⟨answer, rest, same, later⟩, ended⟩
      exact ⟨answer, rest, same, result, later, ended⟩

/-- Whenever the computation succeeds, its value has the property. -/
def Ensures (dialogue : Dialogue Q A ε α) (property : α → Prop) : Prop :=
  ∀ transcript value, Yields dialogue transcript (.ok value) → property value

theorem ensures_pure {value : α} {property : α → Prop} (holds : property value) :
    Ensures (pure value : Dialogue Q A ε α) property := by
  intro transcript found run
  cases (yields_pure.mp run).2
  exact holds

theorem ensures_lift {result : Except ε α} {property : α → Prop}
    (holds : ∀ value, result = .ok value → property value) :
    Ensures (liftM result : Dialogue Q A ε α) property := by
  intro transcript found run
  exact holds found (yields_lift.mp run).2.symm

/-- What a chain ensures follows from what its first part does. -/
theorem ensures_bind {first : Dialogue Q A ε α} {rest : α → Dialogue Q A ε β}
    {middle : α → Prop} {property : β → Prop} (here : Ensures first middle)
    (later : ∀ value, middle value → Ensures (rest value) property) :
    Ensures (first >>= rest) property := by
  intro transcript value run
  obtain ⟨found, before, after, -, before_run, after_run⟩ := yields_bind_ok.mp run
  exact later found (here before found before_run) after value after_run

/-- What a chain ensures is up to its rest, where the first part does not matter. -/
theorem ensures_rest {first : Dialogue Q A ε α} {rest : α → Dialogue Q A ε β}
    {property : β → Prop} (later : ∀ value, Ensures (rest value) property) :
    Ensures (first >>= rest) property :=
  ensures_bind (fun _ _ _ => trivial) fun value _ => later value

/-- The question comes up in some run. -/
def Asks : Dialogue Q A ε α → Q → Prop
  | done _, _ => False
  | ask question next, other => other = question ∨ ∃ answer, (next answer).Asks other

theorem asks_of_yields {dialogue : Dialogue Q A ε α} {transcript : List (Q × A)}
    {result : Except ε α} (run : Yields dialogue transcript result) :
    ∀ entry ∈ transcript, dialogue.Asks entry.1 := by
  induction run with
  | done => simp
  | ask _ ih =>
    intro entry member
    rcases List.mem_cons.mp member with same | member
    · subst entry
      exact .inl rfl
    · exact .inr ⟨_, ih entry member⟩

@[simp] theorem asks_done {result : Except ε α} {question : Q} :
    ¬ (done result : Dialogue Q A ε α).Asks question := id

@[simp] theorem asks_pure {value : α} {question : Q} :
    ¬ (pure value : Dialogue Q A ε α).Asks question := id

@[simp] theorem asks_lift {result : Except ε α} {question : Q} :
    ¬ (liftM result : Dialogue Q A ε α).Asks question := id

@[simp] theorem asks_ask {first question : Q} {next : A → Dialogue Q A ε α} :
    (ask first next).Asks question ↔ question = first ∨ ∃ answer, (next answer).Asks question :=
  Iff.rfl

/-- A chain asks what its first part asks, and what the rest asks after it. -/
theorem asks_bind {first : Dialogue Q A ε α} {rest : α → Dialogue Q A ε β} {question : Q} :
    (first >>= rest).Asks question ↔ first.Asks question ∨
      ∃ transcript value, Yields first transcript (.ok value) ∧ (rest value).Asks question := by
  show (first.bind rest).Asks question ↔ _
  induction first with
  | done result =>
    cases result with
    | error => simp [bind]
    | ok => simp [bind]
  | ask asked next ih =>
    simp only [bind, asks_ask, ih, yields_ask]
    constructor
    · rintro (same | ⟨answer, here | ⟨transcript, value, run, later⟩⟩)
      · exact .inl (.inl same)
      · exact .inl (.inr ⟨answer, here⟩)
      · exact .inr ⟨_, value, ⟨answer, transcript, rfl, run⟩, later⟩
    · rintro ((same | ⟨answer, here⟩) | ⟨_, value, ⟨answer, transcript, rfl, run⟩, later⟩)
      · exact .inl same
      · exact .inr ⟨answer, .inl here⟩
      · exact .inr ⟨answer, .inr ⟨transcript, value, run, later⟩⟩

/-- Behind a step that asks nothing, what is asked is asked after it succeeded. -/
theorem asks_lift_bind {result : Except ε α} {rest : α → Dialogue Q A ε β} {question : Q} :
    ((liftM result : Dialogue Q A ε α) >>= rest).Asks question ↔
      ∃ value, result = .ok value ∧ (rest value).Asks question := by
  simp only [asks_bind, asks_lift, false_or, yields_lift]
  constructor
  · intro ⟨_, value, ⟨_, same⟩, asked⟩
    exact ⟨value, same.symm, asked⟩
  · intro ⟨value, same, asked⟩
    exact ⟨[], value, ⟨rfl, same.symm⟩, asked⟩

/-- Trying asks what the computation asks. -/
@[simp] theorem asks_attempt {dialogue : Dialogue Q A ε α} {question : Q} :
    dialogue.attempt.Asks question ↔ dialogue.Asks question := by
  induction dialogue with
  | done => simp [attempt]
  | ask _ next ih => simp [attempt, ih]

/-- The computation run on a list of answers, when it asks exactly that many questions. -/
def replay : Dialogue Q A ε α → List A → Option (Except ε α)
  | done result, [] => some result
  | done _, _ :: _ => none
  | ask _ _, [] => none
  | ask _ next, answer :: answers => (next answer).replay answers

theorem yields_of_replay {dialogue : Dialogue Q A ε α} {answers : List A} {result : Except ε α}
    (run : dialogue.replay answers = some result) :
    ∃ transcript, transcript.map Prod.snd = answers ∧ Yields dialogue transcript result := by
  induction dialogue generalizing answers with
  | done outcome =>
    cases answers with
    | nil =>
      cases run
      exact ⟨[], rfl, .done⟩
    | cons => cases run
  | ask question next ih =>
    cases answers with
    | nil => cases run
    | cons answer rest =>
      obtain ⟨transcript, same, later⟩ := ih answer run
      exact ⟨(question, answer) :: transcript, by rw [List.map_cons, same], .ask later⟩

/-- A value found by replay is the end of a run with these answers. -/
theorem exists_yields_of_replay {dialogue : Dialogue Q A ε α} {answers : List A} {value : α}
    (run : (dialogue.replay answers).bind Except.toOption = some value) :
    ∃ transcript, transcript.map Prod.snd = answers ∧ Yields dialogue transcript (.ok value) := by
  obtain ⟨result, replayed, same⟩ := Option.bind_eq_some_iff.mp run
  obtain ⟨transcript, answered, yields⟩ := yields_of_replay replayed
  exact ⟨transcript, answered, Fallible.toOption_eq_some.mp same ▸ yields⟩

end Dialogue
