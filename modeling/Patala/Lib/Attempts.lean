import Mathlib.Data.List.Basic

/-! An early-exit loop over candidates that may change the world: call them in
order, stop at the first success, remember the last failure. The run keeps the
trace of calls it made. -/

namespace Attempts

universe u
variable {ι ω ε α : Type} {σ : Type u}

/-- What one run of the loop leaves: its value or the last failure, the calls
made with their answers in order, and the final state. -/
structure Run (ι ω ε α : Type) (σ : Type u) where
  result : Except (Option ε) α
  calls : List (ι × ω)
  state : σ

/-- Call the candidates in order until `outcome` reads a success. -/
def run (call : ι → σ → ω × σ) (outcome : ω → Except ε α) :
    List ι → Option ε → σ → Run ι ω ε α σ
  | [], last, state => ⟨.error last, [], state⟩
  | candidate :: rest, _, state =>
    let (answer, next) := call candidate state
    match outcome answer with
    | .ok value => ⟨.ok value, [(candidate, answer)], next⟩
    | .error error =>
      let later := run call outcome rest (some error) next
      ⟨later.result, (candidate, answer) :: later.calls, later.state⟩

/-- A trace of genuine calls: each answer is the one its candidate gives in the
state its predecessors left. -/
inductive Trace (call : ι → σ → ω × σ) : σ → List (ι × ω) → σ → Prop where
  | nil : Trace call state [] state
  | cons (called : call candidate state = (answer, next)) (rest : Trace call next calls final) :
      Trace call state ((candidate, answer) :: calls) final

variable {call : ι → σ → ω × σ} {outcome : ω → Except ε α}

/-- Every answer of a trace was given in some state. -/
theorem Trace.called (trace : Trace call state calls final) (member : entry ∈ calls) :
    ∃ before after, call entry.1 before = (entry.2, after) := by
  induction trace with
  | nil => cases member
  | cons called _ ih =>
    rcases List.mem_cons.mp member with same | member
    · subst entry
      exact ⟨_, _, called⟩
    · exact ih member

theorem run_cons_ok (called : call candidate state = (answer, next))
    (success : outcome answer = .ok value) (rest : List ι) (last : Option ε) :
    run call outcome (candidate :: rest) last state = ⟨.ok value, [(candidate, answer)], next⟩ := by
  simp only [run, called, success]

theorem run_cons_error (called : call candidate state = (answer, next))
    (failure : outcome answer = .error error) (rest : List ι) (last : Option ε) :
    run call outcome (candidate :: rest) last state =
      ⟨(run call outcome rest (some error) next).result,
        (candidate, answer) :: (run call outcome rest (some error) next).calls,
        (run call outcome rest (some error) next).state⟩ := by
  simp only [run, called, failure]

theorem run_trace (order : List ι) (last : Option ε) (state : σ) :
    Trace call state (run call outcome order last state).calls
      (run call outcome order last state).state := by
  induction order generalizing last state with
  | nil => exact .nil
  | cons candidate rest ih =>
    rcases called : call candidate state with ⟨answer, next⟩
    cases read : outcome answer with
    | ok value =>
      rw [run_cons_ok called read]
      exact .cons called .nil
    | error error =>
      rw [run_cons_error called read]
      exact .cons called (ih (some error) next)

/-- Candidates are called in the given order, with none left out. -/
theorem run_prefix (order : List ι) (last : Option ε) (state : σ) :
    (run call outcome order last state).calls.map Prod.fst <+: order := by
  induction order generalizing last state with
  | nil => exact List.prefix_rfl
  | cons candidate rest ih =>
    rcases called : call candidate state with ⟨answer, next⟩
    cases read : outcome answer with
    | ok value =>
      rw [run_cons_ok called read]
      exact List.prefix_cons_inj candidate |>.mpr List.nil_prefix
    | error error =>
      rw [run_cons_error called read]
      exact List.prefix_cons_inj candidate |>.mpr (ih (some error) next)

/-- The loop only goes on after a failure. -/
theorem run_failed_before_last (order : List ι) (last : Option ε) (state : σ) :
    ∀ entry ∈ (run call outcome order last state).calls.dropLast,
      ∃ error, outcome entry.2 = .error error := by
  induction order generalizing last state with
  | nil => simp [run]
  | cons candidate rest ih =>
    rcases called : call candidate state with ⟨answer, next⟩
    cases read : outcome answer with
    | ok value =>
      rw [run_cons_ok called read]
      simp
    | error error =>
      rw [run_cons_error called read]
      intro entry member
      have later := ih (some error) next
      cases tail : (run call outcome rest (some error) next).calls with
      | nil => simp [tail] at member
      | cons first others =>
        rw [tail] at later
        simp only [tail, List.dropLast_cons_cons] at member
        rcases List.mem_cons.mp member with same | member
        · subst entry
          exact ⟨error, read⟩
        · exact later entry member

/-- A returned value is the answer of the last call, unchanged. -/
theorem run_ok_iff (order : List ι) (last : Option ε) (state : σ) (value : α) :
    (run call outcome order last state).result = .ok value ↔
      ∃ entry, (run call outcome order last state).calls.getLast? = some entry ∧
        outcome entry.2 = .ok value := by
  induction order generalizing last state with
  | nil => simp [run]
  | cons candidate rest ih =>
    rcases called : call candidate state with ⟨answer, next⟩
    cases read : outcome answer with
    | ok found =>
      rw [run_cons_ok called read]
      simp [read]
    | error error =>
      rw [run_cons_error called read]
      have later := ih (some error) next
      cases tail : (run call outcome rest (some error) next).calls with
      | nil =>
        rw [tail] at later
        simpa [tail, read] using later
      | cons first others =>
        rw [tail] at later
        simpa [tail, List.getLast?_cons_cons] using later

/-- A run without success has called every candidate and remembers the failure
of the last one, or the failure it started with when there was none to call. -/
theorem run_error (order : List ι) (last : Option ε) (state : σ)
    (failure : (run call outcome order last state).result = .error remembered) :
    (run call outcome order last state).calls.map Prod.fst = order ∧
      ((order = [] ∧ remembered = last) ∨
        ∃ entry error, (run call outcome order last state).calls.getLast? = some entry ∧
          outcome entry.2 = .error error ∧ remembered = some error) := by
  induction order generalizing last state with
  | nil =>
    have same : last = remembered := Except.error.inj failure
    exact ⟨rfl, .inl ⟨rfl, same.symm⟩⟩
  | cons candidate rest ih =>
    rcases called : call candidate state with ⟨answer, next⟩
    cases read : outcome answer with
    | ok found =>
      rw [run_cons_ok called read] at failure
      cases failure
    | error error =>
      rw [run_cons_error called read] at failure ⊢
      obtain ⟨complete, kept⟩ := ih (some error) next failure
      refine ⟨by rw [List.map_cons, complete], .inr ?_⟩
      rcases kept with ⟨empty, kept⟩ | ⟨entry, remaining, final, failed, kept⟩
      · subst rest
        exact ⟨(candidate, answer), error, rfl, read, kept⟩
      · refine ⟨entry, remaining, ?_, failed, kept⟩
        cases tail : (run call outcome rest (some error) next).calls with
        | nil => simp [tail] at final
        | cons first others => simpa [tail, List.getLast?_cons_cons] using final

end Attempts
