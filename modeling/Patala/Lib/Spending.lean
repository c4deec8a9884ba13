import Mathlib.Order.Nat
import Patala.Lib.Dialogue

/-! How often questions of one kind come up: in any run of a computation at most so many times, and
at least so many times in a run that succeeds. -/

universe u

namespace Dialogue

variable {Q A ε α β : Type u} {costs : Q → Bool}

/-- How many questions of a kind a transcript holds. -/
def spent (costs : Q → Bool) (transcript : List (Q × A)) : Nat :=
  transcript.countP fun entry => costs entry.1

@[simp] theorem spent_nil : spent costs ([] : List (Q × A)) = 0 := rfl

@[simp] theorem spent_cons {entry : Q × A} {rest : List (Q × A)} :
    spent costs (entry :: rest) = spent costs rest + if costs entry.1 then 1 else 0 :=
  List.countP_cons

@[simp] theorem spent_append {before after : List (Q × A)} :
    spent costs (before ++ after) = spent costs before + spent costs after :=
  List.countP_append

theorem spent_eq_zero {transcript : List (Q × A)} :
    spent costs transcript = 0 ↔ ∀ entry ∈ transcript, costs entry.1 = false := by
  simp [spent, List.countP_eq_zero]

/-- A computation spends between `least`, where it succeeds, and `most`. -/
structure Spends (costs : Q → Bool) (least most : Nat) (dialogue : Dialogue Q A ε α) : Prop where
  atMost : ∀ {transcript : List (Q × A)} {outcome : Except ε α},
    Yields dialogue transcript outcome → spent costs transcript ≤ most
  atLeast : ∀ {transcript : List (Q × A)} {value : α},
    Yields dialogue transcript (.ok value) → least ≤ spent costs transcript

/-- A chain fails where its first part does, or goes on from its value. -/
theorem yields_bind {first : Dialogue Q A ε α} {rest : α → Dialogue Q A ε β} {outcome : Except ε β}
    {transcript : List (Q × A)} :
    Yields (first >>= rest) transcript outcome ↔
      (∃ error, Yields first transcript (.error error) ∧ outcome = .error error) ∨
      ∃ value before after, transcript = before ++ after ∧ Yields first before (.ok value) ∧
        Yields (rest value) after outcome := by
  show Yields (first.bind rest) transcript outcome ↔ _
  induction first generalizing transcript with
  | done result =>
    cases result with
    | error error => simp [bind]
    | ok value => simp [bind]
  | ask question next ih =>
    simp only [bind, yields_ask, ih]
    constructor
    · intro run
      obtain ⟨answer, rest', same, ended | continued⟩ := run
      · obtain ⟨error, here, failed⟩ := ended
        exact .inl ⟨error, ⟨answer, rest', same, here⟩, failed⟩
      · obtain ⟨value, before, after, split, here, later⟩ := continued
        refine .inr ⟨value, (question, answer) :: before, after, ?_, ⟨answer, before, rfl, here⟩,
          later⟩
        rw [same, split, List.cons_append]
    · intro run
      rcases run with ended | continued
      · obtain ⟨error, ⟨answer, rest', same, here⟩, failed⟩ := ended
        exact ⟨answer, rest', same, .inl ⟨error, here, failed⟩⟩
      · obtain ⟨value, front, after, split, ⟨answer, before, same, here⟩, later⟩ := continued
        refine ⟨answer, before ++ after, ?_, .inr ⟨value, before, after, rfl, here, later⟩⟩
        rw [split, same, List.cons_append]

namespace Spends

variable {least least' most most' : Nat} {dialogue : Dialogue Q A ε α}

theorem done {result : Except ε α} : Spends costs 0 0 (.done result : Dialogue Q A ε α) where
  atMost run := by simp [(yields_done.mp run).1]
  atLeast _ := Nat.zero_le _

theorem value {found : α} : Spends costs 0 0 (pure found : Dialogue Q A ε α) := done

theorem lifted {result : Except ε α} : Spends costs 0 0 (liftM result : Dialogue Q A ε α) := done

/-- The bounds may be loosened. -/
theorem loosen (spends : Spends costs least most dialogue) (fewer : least' ≤ least)
    (more : most ≤ most') : Spends costs least' most' dialogue where
  atMost run := (spends.atMost run).trans more
  atLeast run := fewer.trans (spends.atLeast run)

/-- One question of the kind is spent, whatever it is answered. -/
theorem once {question : Q} {read : A → Except ε α} (costly : costs question = true) :
    Spends costs 1 1 (.once question read : Dialogue Q A ε α) := by
  have counted : ∀ {transcript : List (Q × A)} {outcome : Except ε α},
      Yields (.once question read) transcript outcome → spent costs transcript = 1 := by
    intro transcript outcome run
    obtain ⟨answer, same, -⟩ := yields_once.mp run
    simp [same, costly]
  exact ⟨fun run => (counted run).le, fun run => (counted run).ge⟩

/-- One question of another kind costs nothing. -/
theorem once_free {question : Q} {read : A → Except ε α} (free : costs question = false) :
    Spends costs 0 0 (.once question read : Dialogue Q A ε α) where
  atMost run := by
    obtain ⟨answer, same, -⟩ := yields_once.mp run
    simp [same, free]
  atLeast _ := Nat.zero_le _

/-- What the parts of a chain spend adds up. -/
theorem chain {first : Dialogue Q A ε α} {rest : α → Dialogue Q A ε β}
    (here : Spends costs least most first) (later : ∀ value, Spends costs least' most' (rest value)) :
    Spends costs (least + least') (most + most') (first >>= rest) where
  atMost run := by
    rcases yields_bind.mp run with ended | continued
    · obtain ⟨error, failed, -⟩ := ended
      exact (here.atMost failed).trans (Nat.le_add_right _ _)
    · obtain ⟨value, before, after, split, found, done⟩ := continued
      rw [split, spent_append]
      exact Nat.add_le_add (here.atMost found) ((later value).atMost done)
  atLeast run := by
    obtain ⟨value, before, after, split, found, done⟩ := yields_bind_ok.mp run
    rw [split, spent_append]
    exact Nat.add_le_add (here.atLeast found) ((later value).atLeast done)

/-- A check in front spends nothing. -/
theorem checked {result : Except ε α} {rest : α → Dialogue Q A ε β}
    (later : ∀ value, Spends costs least most (rest value)) :
    Spends costs least most ((liftM result : Dialogue Q A ε α) >>= rest) := by
  simpa using lifted.chain later

/-- A free part in front spends nothing. -/
theorem free_then {first : Dialogue Q A ε α} {rest : α → Dialogue Q A ε β}
    (here : Spends costs 0 0 first) (later : ∀ value, Spends costs least most (rest value)) :
    Spends costs least most (first >>= rest) := by
  simpa using here.chain later

/-- What follows the last question of the kind spends nothing. -/
theorem then_free {first : Dialogue Q A ε α} {rest : α → Dialogue Q A ε β}
    (here : Spends costs least most first) (later : ∀ value, Spends costs 0 0 (rest value)) :
    Spends costs least most (first >>= rest) := by
  simpa using here.chain later

/-- Trying spends what is tried, and may succeed without. -/
theorem tried (spends : Spends costs least most dialogue) : Spends costs 0 most dialogue.attempt where
  atMost run := by
    obtain ⟨result, tried, -⟩ := yields_attempt.mp run
    exact spends.atMost tried
  atLeast _ := Nat.zero_le _

/-- Only asking questions that are free spends nothing. -/
theorem of_asks (free : ∀ question, dialogue.Asks question → costs question = false) :
    Spends costs 0 0 dialogue where
  atMost run := by
    apply le_of_eq
    rw [spent_eq_zero]
    intro entry member
    exact free _ (asks_of_yields run entry member)
  atLeast _ := Nat.zero_le _

end Spends

end Dialogue
