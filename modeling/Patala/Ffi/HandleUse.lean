import Mathlib.Data.List.Nodup
import Patala.Ffi.Handles

/-! What a host may rely on: a handle stands for the rail it was opened for until it is closed,
and for none afterwards. -/

namespace Patala.Ffi.Handles

open Linearization

section Shelf

variable {κ μ ω ρ : Type} {build : κ → ω → Except String ρ}
  {dispatch : ρ → μ → ω → Except String String} {shelf next : Shelf ρ} {handle : UInt64}
  {effect : Op κ μ ω × Answer}

theorem Shelf.Step.issued (step : Shelf.Step build dispatch shelf effect next)
    (issued : handle ∈ shelf.issued) : handle ∈ next.issued := by
  cases step with
  | refused refused => exact issued
  | opened built nonzero fresh => exact Set.mem_insert_of_mem _ issued
  | closed => exact issued
  | called => exact issued

/-- A rail stays under its handle while that is not closed. -/
theorem Shelf.Step.live {inst : ρ} (step : Shelf.Step build dispatch shelf effect next)
    (held : shelf.live handle = some inst ∧ handle ∈ shelf.issued)
    (other : effect.1 ≠ .close handle) : next.live handle = some inst ∧ handle ∈ next.issued := by
  refine ⟨?_, step.issued held.2⟩
  cases step with
  | refused refused => exact held.1
  | @opened config meets built given _ nonzero fresh =>
    have differs : handle ≠ given := by
      intro same
      exact fresh (same ▸ held.2)
    exact (Function.update_of_ne differs _ _).trans held.1
  | @closed given =>
    have differs : handle ≠ given := by
      intro same
      exact other (same ▸ rfl)
    exact (Function.update_of_ne differs _ _).trans held.1
  | called => exact held.1

/-- No rail comes back under a handle that was closed. -/
theorem Shelf.Step.dead (step : Shelf.Step build dispatch shelf effect next)
    (gone : shelf.live handle = none ∧ handle ∈ shelf.issued) :
    next.live handle = none ∧ handle ∈ next.issued := by
  refine ⟨?_, step.issued gone.2⟩
  cases step with
  | refused refused => exact gone.1
  | @opened config meets built given _ nonzero fresh =>
    have differs : handle ≠ given := by
      intro same
      exact fresh (same ▸ gone.2)
    exact (Function.update_of_ne differs _ _).trans gone.1
  | @closed given =>
    by_cases same : handle = given
    · subst same
      exact Function.update_self _ _ _
    · exact (Function.update_of_ne same _ _).trans gone.1
  | called => exact gone.1

theorem issued_path {effects : List (Op κ μ ω × Answer)}
    (path : (AtomicRegistry build dispatch).Path shelf effects next) (issued : handle ∈ shelf.issued) :
    handle ∈ next.issued := by
  induction path with
  | here shelf => exact issued
  | next step rest ih => exact ih (Shelf.Step.issued step issued)

theorem live_path {effects : List (Op κ μ ω × Answer)} {inst : ρ}
    (path : (AtomicRegistry build dispatch).Path shelf effects next)
    (held : shelf.live handle = some inst ∧ handle ∈ shelf.issued)
    (others : ∀ effect ∈ effects, effect.1 ≠ .close handle) :
    next.live handle = some inst ∧ handle ∈ next.issued := by
  induction path with
  | here shelf => exact held
  | next step rest ih =>
    obtain ⟨other, later⟩ := List.forall_mem_cons.mp others
    exact ih (Shelf.Step.live step held other) later

theorem dead_path {effects : List (Op κ μ ω × Answer)}
    (path : (AtomicRegistry build dispatch).Path shelf effects next)
    (gone : shelf.live handle = none ∧ handle ∈ shelf.issued) :
    next.live handle = none ∧ handle ∈ next.issued := by
  induction path with
  | here shelf => exact gone
  | next step rest ih => exact ih (Shelf.Step.dead step gone)

theorem Shelf.Step.opens {config : κ} {meets : ω}
    (step : Shelf.Step build dispatch shelf (.new config meets, .opened (.ok handle)) next) :
    ∃ inst, build config meets = .ok inst ∧ next.live handle = some inst ∧
      handle ∈ next.issued := by
  cases step with
  | opened built nonzero fresh =>
    exact ⟨_, built, Function.update_self _ _ _, Set.mem_insert _ _⟩

end Shelf

section Contract

variable {τ κ μ ω ρ : Type}

def Answer.handle? : Answer → Option UInt64
  | opened (.ok handle) => some handle
  | _ => none

def given? : Call τ (Op κ μ ω) Answer → Option UInt64
  | .invoked _ _ => none
  | .answered _ answer => answer.handle?

/-- The handles that threads were given, in the order they were answered. -/
def given (history : List (Call τ (Op κ μ ω) Answer)) : List UInt64 := history.filterMap given?

/-- The handle a thread is about to be given. -/
def awaited? : Phase (Op κ μ ω) Answer → Option UInt64
  | .done answer => answer.handle?
  | _ => none

/-- What a host may rely on, whatever its threads do. -/
structure Contract (build : κ → ω → Except String ρ) (dispatch : ρ → μ → ω → Except String String)
    (history : List (Call τ (Op κ μ ω) Answer)) : Prop where
  /-- A handle is given once. -/
  once : (given history).Nodup
  /-- Zero is left to say that no rail was opened. -/
  nonzero : 0 ∉ given history
  /-- A call on an open handle is answered by the rail that was opened under it. -/
  live : ∀ {before after config meets handle asked later result}, history = before ++ after →
    Succession [(.new config meets, .opened (.ok handle)),
      (.call handle asked later, .called result)] before →
    (∀ thread, Call.invoked thread (.close handle) ∉ before) →
    ∃ inst, build config meets = .ok inst ∧ result = dispatch inst asked later
  /-- A call on a handle that was closed is refused. -/
  closed : ∀ {config meets handle asked later result},
    Succession [(.new config meets, .opened (.ok handle)), (.close handle, .closed),
      (.call handle asked later, .called result)] history →
    result = .error (unknownHandle handle)

variable [DecidableEq τ] {build : κ → ω → Except String ρ}
  {dispatch : ρ → μ → ω → Except String String} {history before after : List (Call τ (Op κ μ ω) Answer)}

theorem live_answers (linearizable : Linearizable (AtomicRegistry build dispatch) (before ++ after))
    {config : κ} {meets later : ω} {handle : UInt64} {asked : μ} {result : Except String String}
    (succession : Succession [(.new config meets, .opened (.ok handle)),
      (.call handle asked later, .called result)] before)
    (kept : ∀ thread, Call.invoked thread (.close handle) ∉ before) :
    ∃ inst, build config meets = .ok inst ∧ result = dispatch inst asked later := by
  obtain ⟨taken, final, ⟨start, -, path⟩, ordered, known⟩ := linearizable.sequential
  obtain ⟨first, state, opened, second, split, -, opening, rest, calling⟩ :=
    path.takes (ordered _ succession)
  obtain ⟨inst, built, held⟩ := Shelf.Step.opens opening
  obtain ⟨third, shelf, next, fourth, splits, during, call, -, -⟩ := rest.takes calling
  have untouched : ∀ effect ∈ third, effect.1 ≠ .close handle := by
    intro effect member closing
    have listed : effect ∈ taken := by simp [split, splits, member]
    obtain ⟨thread, invoked⟩ := known effect listed
    exact kept thread (closing ▸ invoked)
  have live := live_path during held untouched
  cases call with
  | called =>
    refine ⟨inst, built, ?_⟩
    rw [Shelf.call, live.1]

theorem closed_refuses (linearizable : Linearizable (AtomicRegistry build dispatch) history)
    {config : κ} {meets later : ω} {handle : UInt64} {asked : μ} {result : Except String String}
    (succession : Succession [(.new config meets, .opened (.ok handle)), (.close handle, .closed),
      (.call handle asked later, .called result)] history) :
    result = .error (unknownHandle handle) := by
  rw [← List.append_nil history] at linearizable
  obtain ⟨taken, final, ⟨start, -, path⟩, ordered, -⟩ := linearizable.sequential
  obtain ⟨_, _, opened, _, -, -, opening, rest, closing⟩ := path.takes (ordered _ succession)
  obtain ⟨inst, -, -, issued⟩ := Shelf.Step.opens opening
  obtain ⟨_, _, removed, _, -, until_, removing, rest, calling⟩ := rest.takes closing
  obtain ⟨_, shelf, _, _, -, during, call, -, -⟩ := rest.takes calling
  have gone : removed.live handle = none ∧ handle ∈ removed.issued := by
    refine ⟨?_, Shelf.Step.issued removing (issued_path until_ issued)⟩
    cases removing with
    | closed => exact Function.update_self _ _ _
  have dead := dead_path during gone
  cases call with
  | called => rw [Shelf.call, dead.1]

/-- The handles given are all different, and so are those threads are about to be given. -/
structure Apart (handles : List UInt64) (phases : τ → Phase (Op κ μ ω) Answer) (issued : Set UInt64) :
    Prop where
  once : handles.Nodup
  given : ∀ handle ∈ handles, handle ∈ issued ∧ ∀ thread, awaited? (phases thread) ≠ some handle
  awaited : ∀ {thread handle}, awaited? (phases thread) = some handle → handle ∈ issued
  single : ∀ {first second handle}, awaited? (phases first) = some handle →
    awaited? (phases second) = some handle → first = second
  nonzero : 0 ∉ issued

section Apart

variable {handles : List UInt64} {phases : τ → Phase (Op κ μ ω) Answer} {issued : Set UInt64}
  {mover : τ} {phase : Phase (Op κ μ ω) Answer}

theorem Apart.move (apart : Apart handles phases issued) (plain : awaited? phase = none) :
    Apart handles (Function.update phases mover phase) issued := by
  have others : ∀ {thread handle},
      awaited? (Function.update phases mover phase thread) = some handle →
        awaited? (phases thread) = some handle := by
    intro thread handle awaited
    rw [Function.update_apply] at awaited
    split_ifs at awaited
    · rw [plain] at awaited
      cases awaited
    · exact awaited
  constructor
  · exact apart.once
  · intro handle member
    obtain ⟨listed, unawaited⟩ := apart.given handle member
    exact ⟨listed, fun thread awaited => unawaited thread (others awaited)⟩
  · intro thread handle awaited
    exact apart.awaited (others awaited)
  · intro first second handle one two
    exact apart.single (others one) (others two)
  · exact apart.nonzero

theorem Apart.open {handle : UInt64} (apart : Apart handles phases issued) (nonzero : handle ≠ 0)
    (fresh : handle ∉ issued) (opened : awaited? phase = some handle) :
    Apart handles (Function.update phases mover phase) (Insert.insert handle issued) := by
  have others : ∀ {thread other},
      awaited? (Function.update phases mover phase thread) = some other →
        thread = mover ∧ other = handle ∨ thread ≠ mover ∧ awaited? (phases thread) = some other := by
    intro thread other awaited
    rw [Function.update_apply] at awaited
    split_ifs at awaited with same
    · rw [opened] at awaited
      exact .inl ⟨same, (Option.some.inj awaited).symm⟩
    · exact .inr ⟨same, awaited⟩
  constructor
  · exact apart.once
  · intro other member
    obtain ⟨listed, unawaited⟩ := apart.given other member
    refine ⟨Set.mem_insert_of_mem _ listed, ?_⟩
    intro thread awaited
    rcases others awaited with ⟨-, same⟩ | ⟨-, before⟩
    · exact fresh (same ▸ listed)
    · exact unawaited thread before
  · intro thread other awaited
    rcases others awaited with ⟨-, same⟩ | ⟨-, before⟩
    · exact same ▸ Set.mem_insert _ _
    · exact Set.mem_insert_of_mem _ (apart.awaited before)
  · intro first second other one two
    rcases others one with ⟨here, same⟩ | ⟨-, before⟩ <;>
      rcases others two with ⟨there, equal⟩ | ⟨-, earlier⟩
    · rw [here, there]
    · exact absurd (apart.awaited earlier) (same ▸ fresh)
    · exact absurd (apart.awaited before) (equal ▸ fresh)
    · exact apart.single before earlier
  · intro zero
    rcases Set.mem_insert_iff.mp zero with same | before
    · exact nonzero same.symm
    · exact apart.nonzero before

/-- The handle a thread is given is awaited by no other. -/
theorem Apart.give {handle : UInt64} (apart : Apart handles phases issued)
    (awaited : awaited? (phases mover) = some handle) (plain : awaited? phase = none) :
    Apart (handles ++ [handle]) (Function.update phases mover phase) issued := by
  have moved : Apart handles (Function.update phases mover phase) issued := apart.move plain
  refine ⟨?_, ?_, moved.awaited, moved.single, moved.nonzero⟩
  · refine List.Nodup.append apart.once (List.nodup_singleton handle) ?_
    intro other member only
    rw [List.mem_singleton.mp only] at member
    exact (apart.given handle member).2 mover awaited
  · intro other member
    rcases List.mem_append.mp member with before | here
    · exact moved.given other before
    · rw [List.mem_singleton.mp here]
      refine ⟨apart.awaited awaited, ?_⟩
      intro thread again
      rw [Function.update_apply] at again
      split_ifs at again with same
      · rw [plain] at again
        cases again
      · exact same (apart.single again awaited)

/-- The handles are apart after some moments. -/
def ApartAfter (moments : List (Moment τ (Op κ μ ω) Answer))
    (state : (τ → Phase (Op κ μ ω) Answer) × Shelf ρ) : Prop :=
  Apart (given (moments.filterMap Moment.call?)) state.1 state.2.issued

omit [DecidableEq τ] in
theorem given_snoc (moments : List (Moment τ (Op κ μ ω) Answer))
    (moment : Moment τ (Op κ μ ω) Answer) :
    given ((moments ++ [moment]).filterMap Moment.call?) =
      given (moments.filterMap Moment.call?) ++ (moment.call?.bind given?).toList := by
  rw [List.filterMap_append, given, given, List.filterMap_append]
  congr 1
  cases moment with
  | effected thread op answer => rfl
  | seen call =>
    show [call].filterMap given? = (given? call).toList
    cases named : given? call <;> simp [named]

theorem apart_step {moments : List (Moment τ (Op κ μ ω) Answer)} {moment : Moment τ (Op κ μ ω) Answer}
    {state next : (τ → Phase (Op κ μ ω) Answer) × Shelf ρ}
    (apart : ApartAfter moments state)
    (step : Atomic.Step (AtomicRegistry build dispatch) state moment next) :
    ApartAfter (moments ++ [moment]) next := by
  rw [ApartAfter, given_snoc]
  cases step with
  | invoked idle => simpa [Moment.call?, given?] using apart.move rfl
  | effected pending taken =>
    simp only [Moment.call?, Option.bind_none, Option.toList_none, List.append_nil]
    cases taken with
    | refused refused => exact apart.move rfl
    | opened built nonzero fresh => exact apart.open nonzero fresh rfl
    | closed => exact apart.move rfl
    | called => exact apart.move rfl
  | @answered phases shelf thread answer done =>
    simp only [Moment.call?, Option.bind_some, given?]
    cases named : answer.handle? with
    | none => simpa using apart.move rfl
    | some handle =>
      have awaited : awaited? (phases thread) = some handle := by rw [done, awaited?, named]
      exact apart.give awaited rfl

end Apart

theorem handles_apart (linearizable : Linearizable (AtomicRegistry build dispatch) history) :
    (given history).Nodup ∧ 0 ∉ given history := by
  obtain ⟨moments, final, ⟨start, ⟨idle, starts⟩, path⟩, seen⟩ := linearizable
  have loaded : ApartAfter [] start := by
    rw [ApartAfter, idle, show start.2 = _ from starts]
    exact ⟨List.nodup_nil, nofun, nofun, nofun, Set.notMem_empty 0⟩
  have apart : ApartAfter ([] ++ moments) final := path.invariant apart_step loaded
  rw [ApartAfter, List.nil_append, seen] at apart
  refine ⟨apart.once, ?_⟩
  intro zero
  exact apart.nonzero (apart.given 0 zero).1

/-- Whatever its threads do at once, a host may rely on its handles until the counter has come
round. -/
theorem handles_keep_contract {labels : List (Label τ κ μ ω)} {process : Process τ κ μ ω ρ}
    (run : (library build dispatch).Runs labels process) (few : taken labels < 2 ^ 64) :
    Contract build dispatch (calls labels) := by
  have linearizable := calls_linearizable run few
  obtain ⟨once, nonzero⟩ := handles_apart linearizable
  refine ⟨once, nonzero, ?_, closed_refuses linearizable⟩
  intro before after config meets handle asked later result split succession kept
  rw [split] at linearizable
  exact live_answers linearizable succession kept

end Contract

end Patala.Ffi.Handles
