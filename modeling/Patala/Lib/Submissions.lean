import Mathlib.Data.List.Basic

/-! A machine that accepts or rejects each submission. A rejected submission
leaves the state as it was; a run collects the accepted ones in order. -/

namespace Submissions

universe u v
variable {σ : Type u} {ι : Type v} {step : σ → ι → Option σ}

/-- Submit items one after another; the accepted ones and the final state. -/
def run (step : σ → ι → Option σ) : σ → List ι → List ι × σ
  | state, [] => ([], state)
  | state, item :: rest =>
    match step state item with
    | none => run step state rest
    | some next => (item :: (run step next rest).1, (run step next rest).2)

theorem run_rejected (rejected : step state item = none) (rest : List ι) :
    run step state (item :: rest) = run step state rest := by
  simp only [run, rejected]

theorem run_accepted (accepted : step state item = some next) (rest : List ι) :
    run step state (item :: rest) = (item :: (run step next rest).1, (run step next rest).2) := by
  simp only [run, accepted]

/-- A relation between the accepted submissions so far and the state holds after
every run once it holds initially and each accepted submission preserves it. -/
theorem run_invariant (Holds : List ι → σ → Prop) (items : List ι)
    (preserved : ∀ accepted state item next, item ∈ items → Holds accepted state →
      step state item = some next → Holds (accepted ++ [item]) next)
    (initially : Holds [] state) : Holds (run step state items).1 (run step state items).2 := by
  have general : ∀ (items' : List ι) (accepted : List ι) (state : σ), items' ⊆ items →
      Holds accepted state →
      Holds (accepted ++ (run step state items').1) (run step state items').2 := by
    intro items'
    induction items' with
    | nil =>
      intro accepted state _ holds
      simpa [run] using holds
    | cons item rest ih =>
      intro accepted state included holds
      obtain ⟨member, restIncluded⟩ := List.cons_subset.mp included
      cases result : step state item with
      | none =>
        rw [run_rejected result]
        exact ih accepted state restIncluded holds
      | some next =>
        rw [run_accepted result]
        have stepped := preserved accepted state item next member holds result
        simpa using ih (accepted ++ [item]) next restIncluded stepped
  simpa using general items [] state (List.Subset.refl _) initially

/-- Once the state rules a kind of submission out for good, none is accepted. -/
theorem run_excludes (Holds : σ → Prop) (Excluded : ι → Prop) (items : List ι)
    (preserved : ∀ state item next, item ∈ items → Holds state →
      step state item = some next → Holds next ∧ ¬ Excluded item)
    (initially : Holds state) : ∀ item ∈ (run step state items).1, ¬ Excluded item := by
  refine (run_invariant (fun accepted state => Holds state ∧ ∀ item ∈ accepted, ¬ Excluded item)
    items ?_ ⟨initially, by simp⟩).2
  intro accepted state item next member ⟨holds, clean⟩ stepped
  obtain ⟨kept, outside⟩ := preserved state item next member holds stepped
  refine ⟨kept, ?_⟩
  intro other present
  rcases List.mem_append.mp present with earlier | now
  · exact clean other earlier
  · rw [List.mem_singleton.mp now]
    exact outside

end Submissions
