import Mathlib.Data.List.Basic

/-! A consumer that processes each key once: of the items with one key it keeps the first and
drops the others, whatever they say. -/

namespace Dedup

variable {Item Key : Type} [DecidableEq Key]

/-- What is processed of the items by a consumer that has seen some keys before. -/
def processFrom (key : Item → Key) : List Key → List Item → List Item
  | _, [] => []
  | seen, item :: rest =>
    if key item ∈ seen then processFrom key seen rest
    else item :: processFrom key (key item :: seen) rest

def process (key : Item → Key) (items : List Item) : List Item := processFrom key [] items

variable {key : Item → Key} {items : List Item}

/-- What is processed was there, and its key is new. -/
theorem processFrom_new {seen : List Key} {kept : Item}
    (processed : kept ∈ processFrom key seen items) : kept ∈ items ∧ key kept ∉ seen := by
  induction items generalizing seen with
  | nil => cases processed
  | cons item rest ih =>
    by_cases known : key item ∈ seen
    · rw [processFrom, if_pos known] at processed
      obtain ⟨member, new⟩ := ih processed
      exact ⟨List.mem_cons_of_mem _ member, new⟩
    · rw [processFrom, if_neg known] at processed
      rcases List.mem_cons.mp processed with same | later
      · subst same
        exact ⟨List.mem_cons_self, known⟩
      · obtain ⟨member, new⟩ := ih later
        exact ⟨List.mem_cons_of_mem _ member, fun old => new (List.mem_cons_of_mem _ old)⟩

/-- Some item of every new key is processed. -/
theorem exists_processFrom {seen : List Key} {item : Item} (member : item ∈ items)
    (new : key item ∉ seen) : ∃ kept ∈ processFrom key seen items, key kept = key item := by
  induction items generalizing seen with
  | nil => cases member
  | cons first rest ih =>
    by_cases known : key first ∈ seen
    · rw [processFrom, if_pos known]
      rcases List.mem_cons.mp member with same | later
      · subst same
        exact absurd known new
      · exact ih later new
    · rw [processFrom, if_neg known]
      by_cases same : key first = key item
      · exact ⟨first, List.mem_cons_self, same⟩
      · rcases List.mem_cons.mp member with first | later
        · subst first
          exact absurd rfl same
        · have still : key item ∉ key first :: seen := fun old =>
            (List.mem_cons.mp old).elim (fun named => same named.symm) new
          obtain ⟨kept, processed, named⟩ := ih later still
          exact ⟨kept, List.mem_cons_of_mem _ processed, named⟩

theorem processFrom_unique {seen : List Key} {kept other : Item}
    (processed : kept ∈ processFrom key seen items) (also : other ∈ processFrom key seen items)
    (same : key kept = key other) : kept = other := by
  induction items generalizing seen with
  | nil => cases processed
  | cons item rest ih =>
    by_cases known : key item ∈ seen
    · rw [processFrom, if_pos known] at processed also
      exact ih processed also
    · rw [processFrom, if_neg known, List.mem_cons] at processed also
      rcases processed with first | later
      · rcases also with first' | later'
        · exact first.trans first'.symm
        · have fresh := (processFrom_new later').2
          exact absurd (List.mem_cons.mpr (.inl (same.symm.trans (congrArg key first)))) fresh
      · rcases also with first' | later'
        · have fresh := (processFrom_new later).2
          exact absurd (List.mem_cons.mpr (.inl (same.trans (congrArg key first')))) fresh
        · exact ih later later'

section Lossless

variable {Report Status : Type} (key) (report : Item → Report) (status : Item → Status)
  (wanted : Status → Prop)

/-- The consumer processes what every wanted item reports, and items of different status have
different keys. -/
structure Lossless (items : List Item) : Prop where
  processed : ∀ item ∈ items, wanted (status item) →
    ∃ kept ∈ process key items, key kept = key item ∧ report kept = report item
  distinguished : ∀ item ∈ items, ∀ other ∈ items, status item ≠ status other →
    key item ≠ key other

/-- Nothing is lost exactly when the items of one key have one status and, if it is wanted,
report the same. -/
theorem lossless_iff : Lossless key report status wanted items ↔
    ∀ item ∈ items, ∀ other ∈ items, key item = key other →
      status item = status other ∧ (wanted (status item) → report item = report other) := by
  constructor
  · rintro ⟨processed, distinguished⟩ item member other member' same
    have statuses : status item = status other := by
      by_contra differ
      exact distinguished item member other member' differ same
    refine ⟨statuses, fun want => ?_⟩
    obtain ⟨kept, first, named, said⟩ := processed item member want
    obtain ⟨kept', first', named', said'⟩ := processed other member' (statuses ▸ want)
    have one := processFrom_unique first first' (named.trans (same.trans named'.symm))
    rw [← said, ← said', one]
  · intro agree
    refine ⟨fun item member want => ?_, fun item member other member' differ same => ?_⟩
    · have new : key item ∉ ([] : List Key) := List.not_mem_nil
      obtain ⟨kept, first, named⟩ := exists_processFrom member new
      have held := (processFrom_new first).1
      exact ⟨kept, first, named, ((agree item member kept held named.symm).2 want).symm⟩
    · exact differ (agree item member other member' same).1

end Lossless

end Dedup
