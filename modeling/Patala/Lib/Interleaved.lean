import Mathlib.Algebra.BigOperators.Group.Finset.Piecewise
import Patala.Lib.System

/-! Lists put together into one that keeps the order of each, as when several parties write one
log. -/

universe u v w

/-- A log takes the entries of its parts one at a time, those of one part in their order. -/
inductive Interleaved {ι : Type u} {α : Type v} [DecidableEq ι] : (ι → List α) → List α → Prop where
  | ended {parts : ι → List α} (all : ∀ i, parts i = []) : Interleaved parts []
  | takes {parts : ι → List α} {i : ι} {entry : α} {rest log : List α}
      (head : parts i = entry :: rest) (later : Interleaved (Function.update parts i rest) log) :
      Interleaved parts (entry :: log)

namespace Interleaved

variable {ι : Type u} {α : Type v} [DecidableEq ι] {parts : ι → List α} {log : List α}

theorem mem (merged : Interleaved parts log) {entry : α} (member : entry ∈ log) :
    ∃ i, entry ∈ parts i := by
  induction merged with
  | ended all => cases member
  | @takes parts i first rest log head later ih =>
    rcases List.mem_cons.mp member with same | inside
    · exact ⟨i, by simp [head, same]⟩
    · obtain ⟨j, found⟩ := ih inside
      by_cases here : j = i
      · subst here
        rw [Function.update_self] at found
        exact ⟨j, by simp [head, found]⟩
      · rw [Function.update_of_ne here] at found
        exact ⟨j, found⟩

theorem holds (merged : Interleaved parts log) {i : ι} {entry : α} (member : entry ∈ parts i) :
    entry ∈ log := by
  induction merged with
  | ended all =>
    rw [all i] at member
    cases member
  | @takes parts j first rest log head later ih =>
    by_cases here : i = j
    · subst here
      rw [head] at member
      rcases List.mem_cons.mp member with same | inside
      · simp [same]
      · exact List.mem_cons_of_mem _ (ih (by rwa [Function.update_self]))
    · exact List.mem_cons_of_mem _ (ih (by rwa [Function.update_of_ne here]))

/-- A log has of a kind what its parts have together. -/
theorem countP_eq [Fintype ι] (merged : Interleaved parts log) (kind : α → Bool) :
    log.countP kind = ∑ i, (parts i).countP kind := by
  induction merged with
  | ended all => simp [all]
  | @takes parts i entry rest log head later ih =>
    have split : ∀ lists : ι → List α, ∑ j, (lists j).countP kind =
        (lists i).countP kind + ∑ j ∈ Finset.univ.erase i, (lists j).countP kind :=
      fun lists => (Finset.add_sum_erase _ _ (Finset.mem_univ i)).symm
    have others : ∑ j ∈ Finset.univ.erase i, (Function.update parts i rest j).countP kind =
        ∑ j ∈ Finset.univ.erase i, (parts j).countP kind := by
      apply Finset.sum_congr rfl
      intro j member
      rw [Function.update_of_ne (Finset.ne_of_mem_erase member)]
    rw [List.countP_cons, ih, split, others, Function.update_self, split parts, head,
      List.countP_cons]
    omega

/-- Where the entries of some parts leave a system as it is, the other parts make a log without
them that leads to the same state. -/
theorem path_without {σ : Type w} {system : Patala.System σ α} {start final : σ}
    (merged : Interleaved parts log) (path : system.Path start log final) {idle : ι → Prop}
    [DecidablePred idle]
    (still : ∀ i, idle i → ∀ entry ∈ parts i, ∀ {before after : σ},
      system.Step before entry after → after = before) :
    ∃ kept, Interleaved (fun i => if idle i then [] else parts i) kept ∧
      system.Path start kept final := by
  induction merged generalizing start with
  | ended all =>
    refine ⟨[], .ended fun i => ?_, path⟩
    rw [all i, ite_self]
  | @takes parts i entry rest log head later ih =>
    cases path with
    | next step onward =>
      have stillLater : ∀ j, idle j → ∀ entry' ∈ Function.update parts i rest j,
          ∀ {before after : σ}, system.Step before entry' after → after = before := by
        intro j idles entry' member
        apply still j idles
        by_cases here : j = i
        · subst here
          rw [Function.update_self] at member
          rw [head]
          exact List.mem_cons_of_mem _ member
        · rwa [Function.update_of_ne here] at member
      obtain ⟨kept, remaining, leads⟩ := ih onward stillLater
      by_cases idles : idle i
      · have same := still i idles entry (by simp [head]) step
        rw [same] at leads
        refine ⟨kept, ?_, leads⟩
        convert remaining using 2 with j
        by_cases here : j = i
        · subst here
          simp [idles]
        · rw [Function.update_of_ne here]
      · refine ⟨entry :: kept, .takes (i := i) (by rw [if_neg idles, head]) ?_, .next step leads⟩
        convert remaining using 1
        funext j
        by_cases here : j = i
        · subst here
          simp [idles]
        · rw [Function.update_of_ne here, Function.update_of_ne here]

theorem restrict (merged : Interleaved parts log) {keep : ι → Prop}
    (empty : ∀ i, ¬ keep i → parts i = []) :
    Interleaved (fun i : {i // keep i} => parts i.1) log := by
  induction merged with
  | ended all => exact .ended fun i => all i.1
  | @takes parts i entry rest log head later ih =>
    have kept : keep i := by
      by_contra dropped
      rw [empty i dropped] at head
      cases head
    have emptyLater : ∀ j, ¬ keep j → Function.update parts i rest j = [] := by
      intro j dropped
      have other : j ≠ i := by
        intro same
        exact dropped (same ▸ kept)
      rw [Function.update_of_ne other]
      exact empty j dropped
    refine .takes (i := ⟨i, kept⟩) head ?_
    convert ih emptyLater using 1
    funext j
    by_cases here : j = ⟨i, kept⟩
    · subst here
      rw [Function.update_self, Function.update_self]
    · rw [Function.update_of_ne here, Function.update_of_ne fun same => here (Subtype.ext same)]

theorem one_after_another (first second : List α) :
    Interleaved (fun last : Bool => if last then second else first) (first ++ second) := by
  induction first with
  | nil =>
    rw [List.nil_append]
    induction second with
    | nil => exact .ended fun last => by simp
    | cons entry rest ih =>
      refine .takes (i := true) rfl ?_
      have same : Function.update (fun last : Bool => if last then entry :: rest else []) true rest =
          fun last => if last then rest else [] := by
        funext last
        cases last <;> rfl
      rwa [same]
  | cons entry rest ih =>
    rw [List.cons_append]
    refine .takes (i := false) rfl ?_
    have same : Function.update (fun last : Bool => if last then second else entry :: rest) false rest =
        fun last => if last then second else rest := by
      funext last
      cases last <;> rfl
    rwa [same]

end Interleaved
