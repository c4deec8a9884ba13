import Mathlib.Data.List.Forall2

/-! When a computation that may fail answers: each way of chaining such computations
answers exactly when all of its steps do. -/

namespace Fallible

universe u v w

theorem bind_eq_ok {ε : Type u} {α β : Type v} {result : Except ε α} {rest : α → Except ε β}
    {answer : β} :
    (result >>= rest) = .ok answer ↔ ∃ value, result = .ok value ∧ rest value = .ok answer := by
  cases result <;> simp [bind, Except.bind]

theorem mapError_eq_ok {ε : Type u} {δ : Type w} {α : Type v} {result : Except ε α} {f : ε → δ}
    {value : α} : result.mapError f = .ok value ↔ result = .ok value := by
  cases result <;> simp [Except.mapError]

theorem toOption_eq_some {ε : Type u} {α : Type v} {result : Except ε α} {value : α} :
    result.toOption = some value ↔ result = .ok value := by
  cases result <;> simp [Except.toOption]

/-- A value that may be missing, with an error for where it is. -/
theorem elim_eq_ok {ε : Type u} {α : Type v} {found : Option α} {error : ε} {value : α} :
    found.elim (Except.error error) Except.ok = .ok value ↔ found = some value := by
  cases found <;> simp

/-- A check that fails with an error of its own. -/
def ensure {ε : Type u} (condition : Prop) [Decidable condition] (error : ε) : Except ε Unit :=
  if condition then .ok () else .error error

theorem ensure_eq_ok {ε : Type u} {condition : Prop} [Decidable condition] {error : ε}
    {answer : Unit} : ensure condition error = .ok answer ↔ condition := by
  unfold ensure
  split <;> simp [*]

section FailsOnly

/-- Every error of the result is of a kind. -/
def FailsOnly {ε : Type u} {α : Type v} (p : ε → Prop) (result : Except ε α) : Prop :=
  ∀ error, result = .error error → p error

variable {ε : Type u} {p : ε → Prop}

theorem failsOnly_ok {α : Type v} (value : α) : FailsOnly p (.ok value) :=
  fun _ failed => nomatch failed

theorem FailsOnly.bind {α β : Type v} {result : Except ε α} {rest : α → Except ε β}
    (first : FailsOnly p result) (later : ∀ value, FailsOnly p (rest value)) :
    FailsOnly p (result >>= rest) := by
  intro error failed
  cases result with
  | error e =>
    cases failed
    exact first error rfl
  | ok value => exact later value error failed

theorem failsOnly_ensure {condition : Prop} [Decidable condition] {error : ε} (kind : p error) :
    FailsOnly p (ensure condition error) := by
  intro other failed
  unfold ensure at failed
  split at failed
  · cases failed
  · cases failed
    exact kind

theorem failsOnly_elim {α : Type v} {found : Option α} {error : ε} (kind : p error) :
    FailsOnly p (found.elim (Except.error error) Except.ok) := by
  intro other failed
  cases found with
  | none =>
    cases failed
    exact kind
  | some value => cases failed

theorem failsOnly_mapError {δ : Type w} {α : Type v} {result : Except δ α} {f : δ → ε}
    (kind : ∀ error, p (f error)) : FailsOnly p (result.mapError f) := by
  intro other failed
  cases result with
  | error e =>
    cases failed
    exact kind e
  | ok value => cases failed

/-- When a first part fails only in one way and the rest only in others, the whole does not fail in
that way exactly when the first part answers. -/
theorem failsOnly_not_bind {α β : Type v} {result : Except ε α} {rest : α → Except ε β}
    (first : FailsOnly p result) (later : ∀ value, FailsOnly (fun error => ¬ p error) (rest value)) :
    FailsOnly (fun error => ¬ p error) (result >>= rest) ↔ ∃ value, result = .ok value := by
  cases result with
  | error e => exact iff_of_false (fun past => past e rfl (first e rfl)) fun ⟨_, same⟩ => nomatch same
  | ok value => exact iff_of_true (later value) ⟨value, rfl⟩

end FailsOnly

/-- Where a result and an option answer alike, an error leaves nothing. -/
theorem eq_none_of_error {ε : Type u} {α : Type v} {result : Except ε α} {found : Option α}
    {error : ε} (agree : ∀ value, result = .ok value ↔ found = some value)
    (failed : result = .error error) : found = none := by
  cases answer : found with
  | none => rfl
  | some value =>
    rw [(agree value).mpr answer] at failed
    cases failed

/-- A list is mapped when every item is. -/
theorem mapM_eq_ok {ε : Type u} {α : Type w} {β : Type v} {f : α → Except ε β} {items : List α}
    {answers : List β} :
    items.mapM f = .ok answers ↔ List.Forall₂ (fun item answer => f item = .ok answer) items
      answers := by
  induction items generalizing answers with
  | nil => simp [pure, Except.pure, eq_comm]
  | cons item rest ih =>
    simp only [List.mapM_cons, bind_eq_ok, List.forall₂_cons_left_iff, ih, pure, Except.pure,
      Except.ok.injEq]
    constructor
    · rintro ⟨answer, here, others, later, rfl⟩
      exact ⟨answer, others, here, later, rfl⟩
    · rintro ⟨answer, others, here, later, rfl⟩
      exact ⟨answer, here, others, later, rfl⟩

theorem mapM_eq_some {α : Type w} {β : Type v} {f : α → Option β} {items : List α}
    {answers : List β} :
    items.mapM f = some answers ↔ List.Forall₂ (fun item answer => f item = some answer) items
      answers := by
  induction items generalizing answers with
  | nil => simp [eq_comm]
  | cons item rest ih =>
    simp only [List.mapM_cons, Option.bind_eq_bind, Option.bind_eq_some_iff,
      List.forall₂_cons_left_iff, ih, Option.pure_def, Option.some.injEq]
    constructor
    · rintro ⟨answer, here, others, later, rfl⟩
      exact ⟨answer, others, here, later, rfl⟩
    · rintro ⟨answer, others, here, later, rfl⟩
      exact ⟨answer, here, others, later, rfl⟩

/-- Every item of a mapped list was mapped. -/
theorem answered_of_mapM {α : Type w} {β : Type v} {f : α → Option β} {items : List α}
    {answers : List β} (mapped : items.mapM f = some answers) :
    ∀ item ∈ items, ∃ answer, f item = some answer := by
  have paired := mapM_eq_some.mp mapped
  clear mapped
  induction paired with
  | nil => nofun
  | cons here _ ih => exact List.forall_mem_cons.mpr ⟨⟨_, here⟩, ih⟩

/-- Items that are each found by their index are found in order. -/
theorem mapM_map_eq_some {ι : Type w} {α : Type u} {β : Type v} {index : β → ι} {value : β → α}
    {look : ι → Option α} {items : List β}
    (each : ∀ item ∈ items, look (index item) = some (value item)) :
    (items.map index).mapM look = some (items.map value) := by
  induction items with
  | nil => rfl
  | cons item rest ih =>
    obtain ⟨here, later⟩ := List.forall_mem_cons.mp each
    rw [List.map_cons, List.mapM_cons, here, ih later]
    rfl

end Fallible
