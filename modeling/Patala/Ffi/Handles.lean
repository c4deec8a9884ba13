import Mathlib.Algebra.Group.Nat.Defs
import Mathlib.Data.Set.Insert
import Patala.Lib.Linearizable

/-! The handles of the C library while several threads use it. A thread that opens a rail takes
its handle from a counter and only then puts the rail into the registry, and a thread that calls
one finds the rail first and asks it later, so the steps of two threads may fall between. The
library still answers as a registry would that serves one thread at a time and never gives a
handle twice. -/

namespace Patala.Ffi.Handles

open Linearization

/-- What a thread asks of the library, with what the rail will meet outside in the meantime. -/
inductive Op (κ μ ω : Type) where
  | new (config : κ) (meets : ω)
  | close (handle : UInt64)
  | call (handle : UInt64) (asked : μ) (meets : ω)

inductive Answer where
  | opened (result : Except String UInt64)
  | closed
  | called (result : Except String String)

/-- Where a thread stands in the library. -/
inductive Control (κ μ ω ρ : Type) where
  | outside
  | entered (op : Op κ μ ω)
  | numbered (inst : ρ) (handle : UInt64)
  | found (inst : ρ) (asked : μ) (meets : ω)
  | leaving (answer : Answer)

/-- `NEXT_HANDLE`, the registry, and where each thread stands. -/
structure Process (τ κ μ ω ρ : Type) where
  nextHandle : UInt64
  registry : UInt64 → Option ρ
  threads : τ → Control κ μ ω ρ

/-- A step is a call that is seen, one of the counter, or another inside the library. -/
inductive Label (τ κ μ ω : Type) where
  | seen (call : Call τ (Op κ μ ω) Answer)
  | numbered (thread : τ)
  | inside (thread : τ)

def Label.call? {τ κ μ ω : Type} : Label τ κ μ ω → Option (Call τ (Op κ μ ω) Answer)
  | seen call => some call
  | numbered _ => none
  | inside _ => none

def Label.isNumbered {τ κ μ ω : Type} : Label τ κ μ ω → Bool
  | numbered _ => true
  | _ => false

def unknownHandle (handle : UInt64) : String :=
  s!"patala: unknown handle {handle} (never created, or already closed)"

section Library

variable {τ κ μ ω ρ : Type} [DecidableEq τ] (build : κ → ω → Except String ρ)
  (dispatch : ρ → μ → ω → Except String String)

def Process.move (process : Process τ κ μ ω ρ) (thread : τ) (control : Control κ μ ω ρ) :
    Process τ κ μ ω ρ :=
  { process with threads := Function.update process.threads thread control }

/-- The steps of the threads: `open` builds the rail, takes a number and inserts; `close` removes;
`call` looks up and then asks the rail. -/
inductive Step : Process τ κ μ ω ρ → Label τ κ μ ω → Process τ κ μ ω ρ → Prop where
  | enter {process : Process τ κ μ ω ρ} {thread : τ} {op : Op κ μ ω}
    (outside : process.threads thread = .outside) :
    Step process (.seen (.invoked thread op)) (process.move thread (.entered op))
  | refuse {process : Process τ κ μ ω ρ} {thread : τ} {config : κ} {meets : ω} {message : String}
    (entered : process.threads thread = .entered (.new config meets))
    (refused : build config meets = .error message) :
    Step process (.inside thread) (process.move thread (.leaving (.opened (.error message))))
  | number {process : Process τ κ μ ω ρ} {thread : τ} {config : κ} {meets : ω} {inst : ρ}
    (entered : process.threads thread = .entered (.new config meets))
    (built : build config meets = .ok inst) :
    Step process (.numbered thread)
      ({ process with nextHandle := process.nextHandle + 1 }.move thread
        (.numbered inst process.nextHandle))
  | insert {process : Process τ κ μ ω ρ} {thread : τ} {inst : ρ} {handle : UInt64}
    (numbered : process.threads thread = .numbered inst handle) :
    Step process (.inside thread)
      ({ process with registry := Function.update process.registry handle (some inst) }.move thread
        (.leaving (.opened (.ok handle))))
  | remove {process : Process τ κ μ ω ρ} {thread : τ} {handle : UInt64}
    (entered : process.threads thread = .entered (.close handle)) :
    Step process (.inside thread)
      ({ process with registry := Function.update process.registry handle none }.move thread
        (.leaving .closed))
  | find {process : Process τ κ μ ω ρ} {thread : τ} {handle : UInt64} {asked : μ} {meets : ω}
    {inst : ρ} (entered : process.threads thread = .entered (.call handle asked meets))
    (live : process.registry handle = some inst) :
    Step process (.inside thread) (process.move thread (.found inst asked meets))
  | miss {process : Process τ κ μ ω ρ} {thread : τ} {handle : UInt64} {asked : μ} {meets : ω}
    (entered : process.threads thread = .entered (.call handle asked meets))
    (dead : process.registry handle = none) :
    Step process (.inside thread)
      (process.move thread (.leaving (.called (.error (unknownHandle handle)))))
  | ask {process : Process τ κ μ ω ρ} {thread : τ} {asked : μ} {meets : ω} {inst : ρ}
    (found : process.threads thread = .found inst asked meets) :
    Step process (.inside thread) (process.move thread (.leaving (.called (dispatch inst asked meets))))
  | leave {process : Process τ κ μ ω ρ} {thread : τ} {given : Answer}
    (leaving : process.threads thread = .leaving given) :
    Step process (.seen (.answered thread given)) (process.move thread .outside)

/-- The library from when it is loaded: the first handle is 1. -/
def library : System (Process τ κ μ ω ρ) (Label τ κ μ ω) where
  Start := (· = ⟨1, fun _ => none, fun _ => .outside⟩)
  Step := Step build dispatch

/-- The rails that are open, and all handles ever given. -/
structure Shelf (ρ : Type) where
  live : UInt64 → Option ρ
  issued : Set UInt64

/-- What a call on a handle answers. -/
def Shelf.call (shelf : Shelf ρ) (handle : UInt64) (asked : μ) (meets : ω) :
    Except String String :=
  match shelf.live handle with
  | some inst => dispatch inst asked meets
  | none => .error (unknownHandle handle)

/-- A registry that serves one thread at a time: a rail is opened under a handle that is not zero
and was never given before. -/
inductive Shelf.Step : Shelf ρ → Op κ μ ω × Answer → Shelf ρ → Prop where
  | refused {shelf : Shelf ρ} {config : κ} {meets : ω} {message : String}
    (refused : build config meets = .error message) :
    Step shelf (.new config meets, .opened (.error message)) shelf
  | opened {shelf : Shelf ρ} {config : κ} {meets : ω} {inst : ρ} {handle : UInt64}
    (built : build config meets = .ok inst) (nonzero : handle ≠ 0) (fresh : handle ∉ shelf.issued) :
    Step shelf (.new config meets, .opened (.ok handle))
      ⟨Function.update shelf.live handle (some inst), Insert.insert handle shelf.issued⟩
  | closed {shelf : Shelf ρ} {handle : UInt64} :
    Step shelf (.close handle, .closed) { shelf with live := Function.update shelf.live handle none }
  | called {shelf : Shelf ρ} {handle : UInt64} {asked : μ} {meets : ω} :
    Step shelf (.call handle asked meets, .called (shelf.call dispatch handle asked meets)) shelf

def AtomicRegistry : System (Shelf ρ) (Op κ μ ω × Answer) where
  Start := (· = ⟨fun _ => none, ∅⟩)
  Step := Shelf.Step build dispatch

end Library

/-- The calls of a run. -/
def calls {τ κ μ ω : Type} (labels : List (Label τ κ μ ω)) : List (Call τ (Op κ μ ω) Answer) :=
  labels.filterMap Label.call?

/-- How many handles a run takes from the counter. -/
def taken {τ κ μ ω : Type} (labels : List (Label τ κ μ ω)) : Nat := labels.countP Label.isNumbered

theorem taken_append {τ κ μ ω : Type} (labels : List (Label τ κ μ ω))
    (label : Label τ κ μ ω) :
    taken (labels ++ [label]) = taken labels + if label.isNumbered then 1 else 0 := by
  simp [taken, List.countP_append, List.countP_cons]

section Simulation

variable {τ κ μ ω ρ : Type} [DecidableEq τ] {build : κ → ω → Except String ρ}
  {dispatch : ρ → μ → ω → Except String String}

/-- Where a caller of the registry stands while its thread is in the library: a rail is opened when
it is inserted, and a call is answered when its rail is found. -/
def Control.Says (build : κ → ω → Except String ρ) (dispatch : ρ → μ → ω → Except String String) :
    Control κ μ ω ρ → Phase (Op κ μ ω) Answer → Prop
  | outside, phase => phase = .idle
  | entered op, phase => phase = .pending op
  | numbered inst _, phase =>
    ∃ config meets, phase = .pending (.new config meets) ∧ build config meets = .ok inst
  | found inst asked meets, phase => phase = .done (.called (dispatch inst asked meets))
  | leaving given, phase => phase = .done given

/-- The counter is past every handle taken; one that is taken but not yet inserted is taken by one
thread only and was never given. -/
structure Counted (labels : List (Label τ κ μ ω)) (nextHandle : UInt64)
    (threads : τ → Control κ μ ω ρ) (issued : Set UInt64) : Prop where
  next : nextHandle = UInt64.ofNat (taken labels + 1)
  given : ∀ handle ∈ issued, handle.toNat ≤ taken labels
  waiting : ∀ {thread inst handle}, threads thread = .numbered inst handle →
    handle ≠ 0 ∧ handle.toNat ≤ taken labels ∧ handle ∉ issued
  apart : ∀ {first second inst other handle}, threads first = .numbered inst handle →
    threads second = .numbered other handle → first = second

structure Related (build : κ → ω → Except String ρ) (dispatch : ρ → μ → ω → Except String String)
    (labels : List (Label τ κ μ ω)) (process : Process τ κ μ ω ρ)
    (image : (τ → Phase (Op κ μ ω) Answer) × Shelf ρ) : Prop where
  stands : ∀ thread, (process.threads thread).Says build dispatch (image.1 thread)
  live : image.2.live = process.registry
  counted : Counted labels process.nextHandle process.threads image.2.issued

theorem Related.move_stands {threads : τ → Control κ μ ω ρ} {phases : τ → Phase (Op κ μ ω) Answer}
    (stands : ∀ thread, (threads thread).Says build dispatch (phases thread)) {mover : τ}
    {control : Control κ μ ω ρ} {phase : Phase (Op κ μ ω) Answer}
    (moved : control.Says build dispatch phase) (thread : τ) :
    (Function.update threads mover control thread).Says build dispatch
      (Function.update phases mover phase thread) := by
  by_cases same : thread = mover
  · subst same
    rw [Function.update_self, Function.update_self]
    exact moved
  · rw [Function.update_of_ne same, Function.update_of_ne same]
    exact stands thread

theorem Related.keep_stands {threads : τ → Control κ μ ω ρ} {phases : τ → Phase (Op κ μ ω) Answer}
    (stands : ∀ thread, (threads thread).Says build dispatch (phases thread)) {mover : τ}
    {control : Control κ μ ω ρ} (moved : control.Says build dispatch (phases mover)) (thread : τ) :
    (Function.update threads mover control thread).Says build dispatch (phases thread) := by
  have kept : (Function.update threads mover control thread).Says build dispatch
      (Function.update phases mover (phases mover) thread) := Related.move_stands stands moved thread
  rwa [Function.update_eq_self] at kept

section Counted

variable {labels : List (Label τ κ μ ω)} {nextHandle : UInt64} {threads : τ → Control κ μ ω ρ}
  {issued : Set UInt64} {mover : τ} {control : Control κ μ ω ρ} {label : Label τ κ μ ω}

/-- Another step than the counter's leaves no more threads with a number. -/
theorem Counted.move (counted : Counted labels nextHandle threads issued)
    (plain : ∀ inst handle, control ≠ .numbered inst handle) (uncounted : label.isNumbered = false) :
    Counted (labels ++ [label]) nextHandle (Function.update threads mover control) issued := by
  have others : ∀ {thread inst handle},
      Function.update threads mover control thread = .numbered inst handle →
        threads thread = .numbered inst handle := by
    intro thread inst handle numbered
    rw [Function.update_apply] at numbered
    split_ifs at numbered
    · exact absurd numbered (plain inst handle)
    · exact numbered
  have same : taken (labels ++ [label]) = taken labels := by simp [taken_append, uncounted]
  constructor
  · rw [same]
    exact counted.next
  · rw [same]
    exact counted.given
  · intro thread inst handle numbered
    rw [same]
    exact counted.waiting (others numbered)
  · intro first second inst other handle one two
    exact counted.apart (others one) (others two)

/-- The handle that is inserted is given by now, and no other thread has it. -/
theorem Counted.insert {inst : ρ} {handle : UInt64}
    (counted : Counted labels nextHandle threads issued)
    (numbered : threads mover = .numbered inst handle)
    (plain : ∀ inst handle, control ≠ .numbered inst handle) (uncounted : label.isNumbered = false) :
    Counted (labels ++ [label]) nextHandle (Function.update threads mover control)
      (Insert.insert handle issued) := by
  have same : taken (labels ++ [label]) = taken labels := by simp [taken_append, uncounted]
  have moved : Counted (labels ++ [label]) nextHandle (Function.update threads mover control) issued :=
    counted.move plain uncounted
  refine ⟨moved.next, ?_, ?_, moved.apart⟩
  · intro given member
    rw [same]
    rcases Set.mem_insert_iff.mp member with here | before
    · rw [here]
      exact (counted.waiting numbered).2.1
    · exact counted.given given before
  · intro thread other given waiting
    obtain ⟨nonzero, small, fresh⟩ := moved.waiting waiting
    refine ⟨nonzero, small, ?_⟩
    intro member
    rcases Set.mem_insert_iff.mp member with here | before
    · rw [Function.update_apply] at waiting
      split_ifs at waiting with own
      · exact plain _ _ waiting
      · rw [here] at waiting
        exact own (counted.apart waiting numbered)
    · exact fresh before

/-- A handle taken from the counter is new while the counter has not come round. -/
theorem Counted.number {inst : ρ} (counted : Counted labels nextHandle threads issued)
    (few : taken (labels ++ [.numbered mover]) < 2 ^ 64) :
    Counted (labels ++ [.numbered mover]) (nextHandle + 1)
      (Function.update threads mover (.numbered inst nextHandle)) issued := by
  have more : taken (labels ++ [.numbered mover]) = taken labels + 1 := by
    simp [taken_append, Label.isNumbered]
  have next : nextHandle.toNat = taken labels + 1 := by
    rw [counted.next, UInt64.toNat_ofNat']
    omega
  have later : ∀ handle : UInt64, handle.toNat ≤ taken labels → handle ≠ nextHandle := by
    intro handle small same
    rw [same, next] at small
    omega
  constructor
  · rw [more, counted.next, UInt64.ofNat_add (_ + 1)]
    rfl
  · intro handle member
    have small := counted.given handle member
    omega
  · intro thread other handle numbered
    rw [Function.update_apply] at numbered
    split_ifs at numbered
    · cases numbered
      refine ⟨?_, by omega, ?_⟩
      · intro zero
        rw [zero] at next
        exact Nat.succ_ne_zero _ next.symm
      · intro member
        exact later _ (counted.given _ member) rfl
    · obtain ⟨nonzero, small, fresh⟩ := counted.waiting numbered
      exact ⟨nonzero, by omega, fresh⟩
  · intro first second one two handle waiting waits
    rw [Function.update_apply] at waiting waits
    split_ifs at waiting waits with here there there
    · rw [here, there]
    · cases waiting
      exact absurd rfl (later _ (counted.waiting waits).2.1)
    · cases waits
      exact absurd rfl (later _ (counted.waiting waiting).2.1)
    · exact counted.apart waiting waits

end Counted

/-- Each step of a thread is a step of the registry's, or none. -/
theorem step_related {labels : List (Label τ κ μ ω)} {process next : Process τ κ μ ω ρ}
    {image : (τ → Phase (Op κ μ ω) Answer) × Shelf ρ} {label : Label τ κ μ ω}
    (related : Related build dispatch labels process image)
    (step : Step build dispatch process label next) (few : taken (labels ++ [label]) < 2 ^ 64) :
    ∃ moments image', (Atomic (AtomicRegistry build dispatch)).Path image moments image' ∧
      moments.filterMap Moment.call? = [label].filterMap Label.call? ∧
        Related build dispatch (labels ++ [label]) next image' := by
  obtain ⟨phases, shelf⟩ := image
  obtain ⟨stands, live, counted⟩ := related
  have here : ∀ {thread control}, process.threads thread = control →
      control.Says build dispatch (phases thread) := fun at_ => at_ ▸ stands _
  cases step with
  | enter outside =>
    exact ⟨_, _, .one (.invoked (here outside)), rfl, Related.move_stands stands rfl, live,
      counted.move nofun rfl⟩
  | refuse entered refused =>
    exact ⟨_, _, .one (.effected (here entered) (.refused refused)), rfl,
      Related.move_stands stands rfl, live, counted.move nofun rfl⟩
  | @number thread config meets inst entered built =>
    exact ⟨[], (phases, shelf), .here _, rfl,
      Related.keep_stands stands ⟨config, meets, here entered, built⟩, live, counted.number few⟩
  | @insert thread inst handle numbered =>
    obtain ⟨config, meets, pending, built⟩ := here numbered
    obtain ⟨nonzero, -, fresh⟩ := counted.waiting numbered
    refine ⟨_, _, .one (.effected pending (.opened built nonzero fresh)), rfl,
      Related.move_stands stands rfl, ?_, counted.insert numbered nofun rfl⟩
    exact congrArg (Function.update · handle (some inst)) live
  | @remove thread handle entered =>
    refine ⟨_, _, .one (.effected (here entered) .closed), rfl, Related.move_stands stands rfl, ?_,
      counted.move nofun rfl⟩
    exact congrArg (Function.update · handle none) live
  | @find thread handle asked meets inst entered present =>
    refine ⟨_, _, .one (.effected (here entered) .called), rfl, Related.move_stands stands ?_, live,
      counted.move nofun rfl⟩
    rw [Shelf.call, live, present]
    rfl
  | @miss thread handle asked meets entered dead =>
    refine ⟨_, _, .one (.effected (here entered) .called), rfl, Related.move_stands stands ?_, live,
      counted.move nofun rfl⟩
    rw [Shelf.call, live, dead]
    rfl
  | @ask thread asked meets inst found =>
    have answered : phases thread = .done (.called (dispatch inst asked meets)) := here found
    exact ⟨[], (phases, shelf), .here _, rfl, Related.keep_stands stands answered, live,
      counted.move nofun rfl⟩
  | leave leaving =>
    exact ⟨_, _, .one (.answered (here leaving)), rfl, Related.move_stands stands rfl, live,
      counted.move nofun rfl⟩

/-- While the counter has not come round, the library is matched by the atomic registry. -/
theorem simulated : System.Simulation (library (τ := τ) build dispatch)
    (Atomic (AtomicRegistry build dispatch)) Label.call? Moment.call? (taken · < 2 ^ 64)
    (Related build dispatch) where
  allowed := by
    intro before after few
    have fewer : taken before ≤ taken (before ++ after) := by
      rw [taken, taken, List.countP_append]
      exact Nat.le_add_right _ _
    exact lt_of_le_of_lt fewer few
  start := by
    intro process loaded
    subst loaded
    refine ⟨(fun _ => .idle, ⟨fun _ => none, ∅⟩), ⟨rfl, rfl⟩, fun _ => rfl, rfl, rfl, ?_, nofun, nofun⟩
    intro handle member
    exact absurd member (Set.notMem_empty handle)
  step := step_related

/-- However the steps of its threads fall, the library answers as a registry that takes each call
at one moment between its invocation and its answer, and gives no handle twice; until the counter
has come round. -/
theorem calls_linearizable {labels : List (Label τ κ μ ω)} {process : Process τ κ μ ω ρ}
    (run : (library build dispatch).Runs labels process) (few : taken labels < 2 ^ 64) :
    Linearizable (AtomicRegistry build dispatch) (calls labels) := by
  obtain ⟨moments, final, runs, shown, -⟩ := simulated.runs run few
  exact ⟨moments, final, runs, shown⟩

end Simulation

end Patala.Ffi.Handles
