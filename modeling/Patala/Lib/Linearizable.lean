import Mathlib.Logic.Function.Basic
import Patala.Lib.System

/-! Objects that several threads call at once. A history of calls is linearizable when each of
them can be given a moment, between its invocation and its answer, at which an object that serves
one caller at a time takes it. -/

namespace Patala.Linearization

inductive Call (τ α β : Type) where
  | invoked (thread : τ) (op : α)
  | answered (thread : τ) (answer : β)

/-- A call that is seen, or the moment an operation takes effect. -/
inductive Moment (τ α β : Type) where
  | seen (call : Call τ α β)
  | effected (thread : τ) (op : α) (answer : β)

inductive Phase (α β : Type) where
  | idle
  | pending (op : α)
  | done (answer : β)

variable {τ α β : Type}

namespace Moment

def call? : Moment τ α β → Option (Call τ α β)
  | seen call => some call
  | effected _ _ _ => none

def effect? : Moment τ α β → Option (α × β)
  | seen _ => none
  | effected _ op answer => some (op, answer)

end Moment

def Call.thread : Call τ α β → τ
  | invoked thread _ => thread
  | answered thread _ => thread

def Quiet (thread : τ) (history : List (Call τ α β)) : Prop :=
  ∀ call ∈ history, call.thread ≠ thread

theorem quiet_cons {thread : τ} {moment : Moment τ α β} {moments : List (Moment τ α β)}
    (quiet : Quiet thread ((moment :: moments).filterMap Moment.call?)) :
    (∀ call, moment.call? = some call → call.thread ≠ thread) ∧
      Quiet thread (moments.filterMap Moment.call?) := by
  rw [← List.singleton_append, List.filterMap_append] at quiet
  constructor
  · intro call own
    apply quiet call
    simp [own]
  · intro call listed
    exact quiet call (List.mem_append_right _ listed)

section Atomic

variable {σ : Type} (spec : System σ (α × β)) [DecidableEq τ]

/-- A thread calls, its operation takes effect at one moment, and it is answered. -/
inductive Atomic.Step : (τ → Phase α β) × σ → Moment τ α β → (τ → Phase α β) × σ → Prop where
  | invoked {phases : τ → Phase α β} {state : σ} {thread : τ} {op : α}
    (idle : phases thread = .idle) :
    Step (phases, state) (.seen (.invoked thread op))
      (Function.update phases thread (.pending op), state)
  | effected {phases : τ → Phase α β} {state next : σ} {thread : τ} {op : α} {answer : β}
    (pending : phases thread = .pending op) (step : spec.Step state (op, answer) next) :
    Step (phases, state) (.effected thread op answer)
      (Function.update phases thread (.done answer), next)
  | answered {phases : τ → Phase α β} {state : σ} {thread : τ} {answer : β}
    (done : phases thread = .done answer) :
    Step (phases, state) (.seen (.answered thread answer))
      (Function.update phases thread .idle, state)

/-- The object whose operations take effect at one moment each. -/
def Atomic : System ((τ → Phase α β) × σ) (Moment τ α β) where
  Start := fun state => state.1 = (fun _ => .idle) ∧ spec.Start state.2
  Step := Atomic.Step spec

/-- The calls are those of a run of the atomic object. -/
def Linearizable (history : List (Call τ α β)) : Prop :=
  ∃ moments final, (Atomic (τ := τ) spec).Runs moments final ∧ moments.filterMap Moment.call? = history

end Atomic

section Order

variable {σ : Type} {spec : System σ (α × β)} [DecidableEq τ] {thread : τ} {op : α} {answer : β}
  {start final : (τ → Phase α β) × σ} {moments : List (Moment τ α β)}
  {before after history : List (Call τ α β)}

theorem effects_path (path : (Atomic spec).Path start moments final) :
    spec.Path start.2 (moments.filterMap Moment.effect?) final.2 := by
  induction path with
  | here state => exact .here state.2
  | next step rest ih =>
    cases step with
    | invoked idle => exact ih
    | effected pending step => exact .next step ih
    | answered done => exact ih

/-- A path may be cut where its calls are. -/
theorem cut_calls (path : (Atomic spec).Path start moments final)
    (seen : moments.filterMap Moment.call? = before ++ after) :
    ∃ first second middle, moments = first ++ second ∧ (Atomic spec).Path start first middle ∧
      (Atomic spec).Path middle second final ∧ first.filterMap Moment.call? = before ∧
        second.filterMap Moment.call? = after := by
  obtain ⟨first, second, joined, firsts, seconds⟩ := List.filterMap_eq_append_iff.mp seen
  subst joined
  obtain ⟨middle, early, late⟩ := path.cut
  exact ⟨first, second, middle, rfl, early, late, firsts, seconds⟩

/-- A step that is no call of a thread leaves it where it stands, or is its effect. -/
theorem step_of_quiet {moment : Moment τ α β} (step : Atomic.Step spec start moment final)
    (quiet : ∀ call, moment.call? = some call → call.thread ≠ thread) :
    final.1 thread = start.1 thread ∨ ∃ op answer, moment = .effected thread op answer ∧
      start.1 thread = .pending op ∧ final.1 thread = .done answer := by
  cases step with
  | invoked idle => exact .inl (Function.update_of_ne (Ne.symm (quiet _ rfl)) _ _)
  | @effected phases state next other op answer pending step =>
    by_cases same : other = thread
    · subst same
      exact .inr ⟨op, answer, rfl, pending, Function.update_self _ _ _⟩
    · exact .inl (Function.update_of_ne (Ne.symm same) _ _)
  | answered done => exact .inl (Function.update_of_ne (Ne.symm (quiet _ rfl)) _ _)

/-- A quiet thread that has its answer keeps it. -/
theorem done_of_quiet (path : (Atomic spec).Path start moments final)
    (done : start.1 thread = .done answer)
    (quiet : Quiet thread (moments.filterMap Moment.call?)) : final.1 thread = .done answer := by
  induction path with
  | here state => exact done
  | next step rest ih =>
    obtain ⟨first, later⟩ := quiet_cons quiet
    apply ih ?_ later
    rcases step_of_quiet step first with kept | ⟨op, given, -, pending, -⟩
    · rw [kept, done]
    · rw [done] at pending
      cases pending

/-- The operation of a quiet thread is pending until it takes effect. -/
theorem effect_of_quiet (path : (Atomic spec).Path start moments final)
    (pending : start.1 thread = .pending op)
    (quiet : Quiet thread (moments.filterMap Moment.call?)) :
    final.1 thread = .pending op ∨ ∃ answer first second, final.1 thread = .done answer ∧
      moments.filterMap Moment.effect? = first ++ (op, answer) :: second := by
  induction path with
  | here state => exact .inl pending
  | @next start middle final moment moments step rest ih =>
    obtain ⟨now, later⟩ := quiet_cons quiet
    rcases step_of_quiet step now with kept | ⟨own, given, effected, waiting, done⟩
    · rcases ih (kept.trans pending) later with waits | ⟨answer, first, second, done, effects⟩
      · exact .inl waits
      · refine .inr ⟨answer, moment.effect?.toList ++ first, second, done, ?_⟩
        rw [← List.singleton_append, List.filterMap_append, effects, List.append_assoc]
        cases moment <;> rfl
    · have operation : own = op := Phase.pending.inj (waiting.symm.trans pending)
      subst operation effected
      exact .inr ⟨given, [], moments.filterMap Moment.effect?, done_of_quiet rest done later, rfl⟩

theorem pending_of_invoked (path : (Atomic spec).Path start moments final)
    (seen : moments.filterMap Moment.call? = Call.invoked thread op :: after) :
    ∃ first second middle, moments = first ++ second ∧ (Atomic spec).Path middle second final ∧
      middle.1 thread = .pending op ∧ second.filterMap Moment.call? = after := by
  obtain ⟨unseen, moment, second, joined, -, invoked, remaining⟩ :=
    List.filterMap_eq_cons_iff.mp seen
  subst joined
  obtain ⟨before, -, path⟩ := path.cut
  cases path with
  | @next _ middle _ _ _ step rest =>
    refine ⟨unseen ++ [moment], second, middle, by simp, rest, ?_, remaining⟩
    cases step with
    | invoked idle =>
      cases invoked
      exact Function.update_self _ _ _
    | effected pending step => cases invoked
    | answered done => cases invoked

theorem done_of_answered (path : (Atomic spec).Path start moments final)
    (seen : moments.filterMap Moment.call? = before ++ [Call.answered thread answer]) :
    ∃ first second middle, moments = first ++ second ∧ (Atomic spec).Path start first middle ∧
      middle.1 thread = .done answer ∧ first.filterMap Moment.call? = before := by
  obtain ⟨during, ending, joined, durings, endings⟩ := List.filterMap_eq_append_iff.mp seen
  obtain ⟨hidden, moment, second, ends, silent, answered, -⟩ :=
    List.filterMap_eq_cons_iff.mp endings
  subst joined ends
  rw [← List.append_assoc] at path
  obtain ⟨middle, path, rest⟩ := path.cut
  refine ⟨during ++ hidden, moment :: second, middle, by simp, path, ?_, ?_⟩
  · cases rest with
    | next step rest =>
      cases step with
      | invoked idle => cases answered
      | effected pending step => cases answered
      | answered done =>
        cases answered
        exact done
  · rw [List.filterMap_append, durings, List.filterMap_eq_nil_iff.mpr silent, List.append_nil]

/-- A call that is invoked and then answered takes effect in between. -/
theorem completed_call (path : (Atomic spec).Path start moments final)
    (seen : moments.filterMap Moment.call? =
      Call.invoked thread op :: (history ++ [Call.answered thread answer]))
    (quiet : Quiet thread history) :
    ∃ first second, moments.filterMap Moment.effect? = first ++ (op, answer) :: second := by
  obtain ⟨early, rest, middle, joined, path, pending, remaining⟩ := pending_of_invoked path seen
  obtain ⟨during, late, done, joins, path, finished, durings⟩ := done_of_answered path remaining
  rw [← durings] at quiet
  rcases effect_of_quiet path pending quiet with waits | ⟨given, first, second, given_done, effects⟩
  · rw [waits] at finished
    cases finished
  · have same : given = answer := Phase.done.inj (given_done.symm.trans finished)
    subst same joined joins
    refine ⟨early.filterMap Moment.effect? ++ first, second ++ late.filterMap Moment.effect?, ?_⟩
    simp [List.filterMap_append, effects]

theorem pending_of_update {phases : τ → Phase α β} {other : τ} {phase : Phase α β}
    (pending : Function.update phases other phase thread = .pending op) :
    thread = other ∧ phase = .pending op ∨ phases thread = .pending op := by
  rw [Function.update_apply] at pending
  split_ifs at pending with same
  · exact .inl ⟨same, pending⟩
  · exact .inr pending

/-- What is pending after a step was pending before it, or is what the step invokes. -/
theorem pending_of_step {moment : Moment τ α β} (step : Atomic.Step spec start moment final)
    (pending : final.1 thread = .pending op) :
    start.1 thread = .pending op ∨ moment.call? = some (.invoked thread op) := by
  cases step with
  | invoked idle =>
    rcases pending_of_update pending with ⟨same, own⟩ | before
    · cases own
      exact .inr (same ▸ rfl)
    · exact .inl before
  | effected waiting step =>
    rcases pending_of_update pending with ⟨-, done⟩ | before
    · cases done
    · exact .inl before
  | answered done =>
    rcases pending_of_update pending with ⟨-, idle⟩ | before
    · cases idle
    · exact .inl before

theorem pending_of_effect {moment : Moment τ α β} (step : Atomic.Step spec start moment final)
    (effect : moment.effect? = some (op, answer)) : ∃ thread, start.1 thread = .pending op := by
  cases step with
  | invoked idle => cases effect
  | @effected phases state next thread own given pending step =>
    cases effect
    exact ⟨thread, pending⟩
  | answered done => cases effect

/-- What takes effect has been invoked, or was pending from the start. -/
theorem invoked_of_effect (path : (Atomic spec).Path start moments final)
    (effect : (op, answer) ∈ moments.filterMap Moment.effect?) :
    ∃ thread, start.1 thread = .pending op ∨
      Call.invoked thread op ∈ moments.filterMap Moment.call? := by
  induction path with
  | here state => cases effect
  | @next start middle final moment moments step rest ih =>
    rw [← List.singleton_append, List.filterMap_append, List.mem_append] at effect
    rcases effect with here | later
    · obtain ⟨_, only, taken⟩ := List.mem_filterMap.mp here
      rw [List.mem_singleton.mp only] at taken
      obtain ⟨thread, pending⟩ := pending_of_effect step taken
      exact ⟨thread, .inl pending⟩
    · obtain ⟨thread, pending | listed⟩ := ih later
      · rcases pending_of_step step pending with before | invoked
        · exact ⟨thread, .inl before⟩
        · exact ⟨thread, .inr (List.mem_filterMap.mpr ⟨moment, List.mem_cons_self, invoked⟩)⟩
      · obtain ⟨found, member, called⟩ := List.mem_filterMap.mp listed
        exact ⟨thread, .inr (List.mem_filterMap.mpr ⟨found, List.mem_cons_of_mem _ member, called⟩)⟩

/-- A thread calls and is answered, and does nothing else in between. -/
def Completed (thread : τ) (op : α) (answer : β) (block : List (Call τ α β)) : Prop :=
  ∃ inner, block = Call.invoked thread op :: (inner ++ [Call.answered thread answer]) ∧
    Quiet thread inner

/-- Completed calls, each begun after the one before it was answered. -/
inductive Succession : List (α × β) → List (Call τ α β) → Prop where
  | nil (history : List (Call τ α β)) : Succession [] history
  | cons {thread : τ} {op : α} {answer : β} {rest : List (α × β)}
    {before block after : List (Call τ α β)} (completed : Completed thread op answer block)
    (later : Succession rest after) : Succession ((op, answer) :: rest) (before ++ block ++ after)

/-- Calls that succeed each other take effect in that order. -/
theorem sublist_of_succession {ops : List (α × β)} (succession : Succession ops history)
    (path : (Atomic spec).Path start moments final)
    (seen : moments.filterMap Moment.call? = history) :
    ops.Sublist (moments.filterMap Moment.effect?) := by
  induction succession generalizing start moments with
  | nil history => exact List.nil_sublist _
  | cons completed later ih =>
    obtain ⟨early, late, middle, joined, path, rest, earlies, lates⟩ := cut_calls path seen
    obtain ⟨prior, own, entry, joins, -, during, -, owns⟩ := cut_calls path earlies
    obtain ⟨inner, framed, quiet⟩ := completed
    obtain ⟨first, second, effects⟩ := completed_call during (owns.trans framed) quiet
    have others := ih rest lates
    rw [joined, joins, List.filterMap_append, List.filterMap_append, effects, ← List.singleton_append]
    apply List.Sublist.append _ others
    apply List.sublist_append_of_sublist_right
    apply List.sublist_append_of_sublist_right
    exact List.singleton_sublist.mpr List.mem_cons_self

/-- At any time the calls so far are explained by a run of the sequential object that takes only
what was invoked, and takes what was answered in the order it was asked for. -/
theorem Linearizable.sequential (linearizable : Linearizable spec (before ++ after)) :
    ∃ taken state, spec.Runs taken state ∧
      (∀ ops, Succession ops before → ops.Sublist taken) ∧
        ∀ effect ∈ taken, ∃ thread, Call.invoked thread effect.1 ∈ before := by
  obtain ⟨moments, final, ⟨start, ⟨idle, starts⟩, path⟩, seen⟩ := linearizable
  obtain ⟨early, late, middle, -, path, -, earlies, -⟩ := cut_calls path seen
  refine ⟨_, _, ⟨_, starts, effects_path path⟩, ?_, ?_⟩
  · intro ops succession
    exact sublist_of_succession succession path earlies
  · intro effect taken
    obtain ⟨thread, pending | invoked⟩ := invoked_of_effect path taken
    · rw [idle] at pending
      cases pending
    · exact ⟨thread, earlies ▸ invoked⟩

end Order

end Patala.Linearization
