import Mathlib.Data.List.Basic
import Mathlib.Data.List.Induction

/-! A machine that answers each input and keeps a state. A run records every input with
its answer; what a reachable state holds is stated against that record. -/

namespace History

universe u
variable {ι ω : Type} {σ : Type u} {step : ι → σ → ω × σ}

/-- Feed inputs one after another: the answered inputs in order, and the final state. -/
def run (step : ι → σ → ω × σ) : List ι → σ → List (ι × ω) × σ
  | [], state => ([], state)
  | input :: rest, state =>
    let answered := step input state
    let later := run step rest answered.2
    ((input, answered.1) :: later.1, later.2)

theorem run_append (first second : List ι) (state : σ) :
    run step (first ++ second) state =
      ((run step first state).1 ++ (run step second (run step first state).2).1,
        (run step second (run step first state).2).2) := by
  induction first generalizing state with
  | nil => rfl
  | cons input rest ih => simp only [List.cons_append, run, ih]

/-- A run answers every input, in order. -/
theorem run_inputs (inputs : List ι) (state : σ) :
    (run step inputs state).1.map Prod.fst = inputs := by
  induction inputs generalizing state with
  | nil => rfl
  | cons input rest ih => simp only [run, List.map_cons, ih]

/-- A relation between the record so far and the state holds after every run once it
holds at the start and each step preserves it. -/
theorem run_invariant (Holds : List (ι × ω) → σ → Prop) (inputs : List ι)
    (preserved : ∀ record state, ∀ input ∈ inputs, Holds record state →
      Holds (record ++ [(input, (step input state).1)]) (step input state).2)
    (initially : Holds [] state) : Holds (run step inputs state).1 (run step inputs state).2 := by
  have general : ∀ (inputs' : List ι) (record : List (ι × ω)) (state : σ), inputs' ⊆ inputs →
      Holds record state →
      Holds (record ++ (run step inputs' state).1) (run step inputs' state).2 := by
    intro inputs'
    induction inputs' with
    | nil =>
      intro record state _ holds
      simpa [run] using holds
    | cons input rest ih =>
      intro record state included holds
      obtain ⟨member, restIncluded⟩ := List.cons_subset.mp included
      have stepped := preserved record state input member holds
      simpa [run] using ih _ _ restIncluded stepped
  simpa using general inputs [] state (List.Subset.refl _) initially

/-- A relation that a step preserves under a condition on its state and input holds after
every run whose steps all meet the condition. -/
theorem run_invariant_along (Holds : List (ι × ω) → σ → Prop) (Meets : σ → ι → Prop)
    {inputs : List ι} {state : σ}
    (met : ∀ before input after, inputs = before ++ input :: after →
      Meets (run step before state).2 input)
    (preserved : ∀ record state input, Meets state input → Holds record state →
      Holds (record ++ [(input, (step input state).1)]) (step input state).2)
    (initially : Holds [] state) : Holds (run step inputs state).1 (run step inputs state).2 := by
  induction inputs using List.reverseRecOn with
  | nil => exact initially
  | append_singleton earlier input ih =>
    have before := ih fun first input' rest same =>
      met first input' (rest ++ [input]) (by rw [same]; simp)
    rw [run_append]
    exact preserved _ _ input (met earlier input [] rfl) before

section Through

variable {κ ω' : Type} {other : κ → σ → ω' × σ} {through : ι → Option κ}
  {Agree : ω → ω' → Prop} {Refused : ι → ω → Prop}

/-- Of these inputs, those that the other machine does not see leave the state alone. -/
structure Passes (step : ι → σ → ω × σ) (other : κ → σ → ω' × σ) (through : ι → Option κ)
    (Agree : ω → ω' → Prop) (Refused : ι → ω → Prop) (inputs : List ι) : Prop where
  seen : ∀ input ∈ inputs, ∀ passed, through input = some passed → ∀ state,
    Agree (step input state).1 (other passed state).1 ∧
      (step input state).2 = (other passed state).2
  unseen : ∀ input ∈ inputs, through input = none → ∀ state,
    Refused input (step input state).1 ∧ (step input state).2 = state

theorem Passes.tail {input : ι} {rest : List ι}
    (passes : Passes step other through Agree Refused (input :: rest)) :
    Passes step other through Agree Refused rest where
  seen := fun later member => passes.seen later (List.mem_cons_of_mem _ member)
  unseen := fun later member => passes.unseen later (List.mem_cons_of_mem _ member)

/-- A run ends where the other machine's run over what passes through ends, with its answers. -/
theorem run_through {inputs : List ι} (passes : Passes step other through Agree Refused inputs)
    (state : σ) :
    (run step inputs state).2 = (run other (inputs.filterMap through) state).2 ∧
      List.Forall₂ (fun answered passed => Agree answered.2 passed.2)
        ((run step inputs state).1.filter fun answered => (through answered.1).isSome)
        (run other (inputs.filterMap through) state).1 ∧
      ∀ answered ∈ (run step inputs state).1, through answered.1 = none →
        Refused answered.1 answered.2 := by
  induction inputs generalizing state with
  | nil => exact ⟨rfl, .nil, by simp [run]⟩
  | cons input rest ih =>
    cases passed : through input with
    | none =>
      obtain ⟨refused, same⟩ := passes.unseen input List.mem_cons_self passed state
      obtain ⟨ends, answers, refusals⟩ := ih passes.tail state
      simp only [run, same, List.filterMap_cons, passed, List.filter_cons, Option.isSome_none]
      refine ⟨ends, answers, ?_⟩
      intro answered member missed
      cases member with
      | head => exact refused
      | tail _ later => exact refusals answered later missed
    | some value =>
      obtain ⟨agree, same⟩ := passes.seen input List.mem_cons_self value passed state
      obtain ⟨ends, answers, refusals⟩ := ih passes.tail (other value state).2
      simp only [run, same, List.filterMap_cons, passed, List.filter_cons, Option.isSome_some]
      refine ⟨ends, .cons agree answers, ?_⟩
      intro answered member missed
      cases member with
      | head => cases passed.symm.trans missed
      | tail _ later => exact refusals answered later missed

end Through

end History
