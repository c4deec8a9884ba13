import Mathlib.Data.List.Basic

/-! Systems that take labelled steps, their runs, and how the runs of one system are matched by
runs of another. -/

namespace Patala

/-- A system is given by the states it starts in and the steps it takes. -/
structure System (σ : Type u) (ε : Type v) where
  Start : σ → Prop
  Step : σ → ε → σ → Prop

namespace System

variable {σ : Type u} {ε : Type v}

/-- Consecutive steps and their labels. -/
inductive Path (system : System σ ε) : σ → List ε → σ → Prop where
  | here (state : σ) : Path system state [] state
  | next {start middle final : σ} {event : ε} {events : List ε}
    (step : system.Step start event middle) (rest : Path system middle events final) :
    Path system start (event :: events) final

def Runs (system : System σ ε) (events : List ε) (final : σ) : Prop :=
  ∃ start, system.Start start ∧ system.Path start events final

variable {system : System σ ε} {start middle final : σ} {event : ε} {events before after : List ε}

theorem Path.one (step : system.Step start event final) : system.Path start [event] final :=
  .next step (.here final)

theorem Path.append (first : system.Path start before middle)
    (second : system.Path middle after final) : system.Path start (before ++ after) final := by
  induction first with
  | here state => exact second
  | next step rest ih => exact .next step (ih second)

/-- A path passes through a state wherever its labels are cut. -/
theorem Path.cut (path : system.Path start (before ++ after) final) :
    ∃ middle, system.Path start before middle ∧ system.Path middle after final := by
  induction before generalizing start with
  | nil => exact ⟨start, .here start, path⟩
  | cons event before ih =>
    cases path with
    | next step rest =>
      obtain ⟨middle, first, second⟩ := ih rest
      exact ⟨middle, .next step first, second⟩

theorem Path.takes (path : system.Path start events final) {rest : List ε}
    (taken : (event :: rest).Sublist events) :
    ∃ first state next second, events = first ++ event :: second ∧ system.Path start first state ∧
      system.Step state event next ∧ system.Path next second final ∧ rest.Sublist second := by
  obtain ⟨front, back, joined, member, later⟩ := List.cons_sublist_iff.mp taken
  obtain ⟨first, second, split⟩ := List.append_of_mem member
  have same : events = first ++ event :: (second ++ back) := by simp [joined, split]
  rw [same] at path
  obtain ⟨state, early, late⟩ := path.cut
  cases late with
  | next step others =>
    exact ⟨first, state, _, second ++ back, same, early, step, others,
      List.sublist_append_of_sublist_right later⟩

/-- What each step keeps, in view of the steps before it, a path keeps. -/
theorem Path.invariant {Holds : List ε → σ → Prop}
    (step : ∀ {before state event next}, Holds before state → system.Step state event next →
      Holds (before ++ [event]) next)
    (path : system.Path start events final) (holds : Holds before start) :
    Holds (before ++ events) final := by
  induction path generalizing before with
  | here state => rwa [List.append_nil]
  | next taken rest ih =>
    rw [← List.singleton_append, ← List.append_assoc]
    exact ih (step holds taken)

/-- Every step of one system is matched by steps of another that show the same to an observer.
States are related in view of the steps already taken; only some step sequences are considered. -/
structure Simulation {τ : Type u'} {δ : Type v'} {ω : Type w} (concrete : System σ ε)
    (abstract : System τ δ) (seen : ε → Option ω) (told : δ → Option ω)
    (Allowed : List ε → Prop) (Related : List ε → σ → τ → Prop) : Prop where
  allowed : ∀ {before after}, Allowed (before ++ after) → Allowed before
  start : ∀ {state}, concrete.Start state → ∃ image, abstract.Start image ∧ Related [] state image
  step : ∀ {before state image event next}, Related before state image →
    concrete.Step state event next → Allowed (before ++ [event]) →
      ∃ taken image', abstract.Path image taken image' ∧
        taken.filterMap told = [event].filterMap seen ∧ Related (before ++ [event]) next image'

section Simulation

variable {τ : Type u'} {δ : Type v'} {ω : Type w} {concrete : System σ ε}
  {abstract : System τ δ} {seen : ε → Option ω} {told : δ → Option ω} {Allowed : List ε → Prop}
  {Related : List ε → σ → τ → Prop}

theorem Simulation.path (simulation : Simulation concrete abstract seen told Allowed Related)
    {image : τ} (path : concrete.Path start events final)
    (related : Related before start image) (allowed : Allowed (before ++ events)) :
    ∃ taken image', abstract.Path image taken image' ∧
      taken.filterMap told = events.filterMap seen ∧ Related (before ++ events) final image' := by
  induction path generalizing before image with
  | here state =>
    refine ⟨[], image, .here image, rfl, ?_⟩
    rwa [List.append_nil]
  | @next start middle final event events step rest ih =>
    have joined : before ++ event :: events = before ++ [event] ++ events := by simp
    rw [joined] at allowed ⊢
    obtain ⟨first, image₁, matched, shown, related₁⟩ :=
      simulation.step related step (simulation.allowed allowed)
    obtain ⟨others, image₂, followed, rests, related₂⟩ := ih related₁ allowed
    refine ⟨first ++ others, image₂, matched.append followed, ?_, related₂⟩
    rw [List.filterMap_append, shown, rests, ← List.filterMap_append, List.singleton_append]

/-- What is seen of a run is told by a run of the other system. -/
theorem Simulation.runs (simulation : Simulation concrete abstract seen told Allowed Related)
    (run : concrete.Runs events final) (allowed : Allowed events) :
    ∃ taken image, abstract.Runs taken image ∧
      taken.filterMap told = events.filterMap seen ∧ Related events final image := by
  obtain ⟨start, starts, path⟩ := run
  obtain ⟨image, imageStarts, related⟩ := simulation.start starts
  obtain ⟨taken, image', matched, shown, related'⟩ := simulation.path path related allowed
  exact ⟨taken, image', ⟨image, imageStarts, matched⟩, shown, related'⟩

end Simulation

end System

end Patala
