import Mathlib.Algebra.BigOperators.Group.Finset.Basic
import Mathlib.Algebra.GroupWithZero.Nat
import Mathlib.Algebra.Order.BigOperators.Group.Finset
import Patala.Lib.Dedup

/-! What a consumer that processes each key once adds up. The items are about subjects, and each
tells what its subject is worth: the sum counts a subject once for each key it was told of under. -/

namespace Dedup

variable {Item Key Subject M : Type} [DecidableEq Key] [DecidableEq Subject] [AddCommMonoid M]
  {key : Item → Key} {subject : Item → Subject} {items : List Item}

def keysOf (key : Item → Key) (subject : Item → Subject) (items : List Item) (told : Subject) :
    Finset Key :=
  ((items.filter (subject · = told)).map key).toFinset

def subjects (subject : Item → Subject) (items : List Item) : Finset Subject :=
  (items.map subject).toFinset

theorem mem_keysOf {told : Subject} {found : Key} :
    found ∈ keysOf key subject items told ↔
      ∃ item ∈ items, subject item = told ∧ key item = found := by
  simp [keysOf, and_assoc]

/-- The keys of one subject that is told of are one key when all its items have the same. -/
theorem card_keysOf_eq_one_iff {item : Item} (member : item ∈ items) :
    (keysOf key subject items (subject item)).card = 1 ↔
      ∀ other ∈ items, subject other = subject item → key other = key item := by
  have own : key item ∈ keysOf key subject items (subject item) :=
    mem_keysOf.mpr ⟨item, member, rfl, rfl⟩
  rw [Finset.card_eq_one]
  constructor
  · intro ⟨only, single⟩ other member' same
    have first : key item = only := Finset.mem_singleton.mp (single ▸ own)
    have second : key other = only :=
      Finset.mem_singleton.mp (single ▸ mem_keysOf.mpr ⟨other, member', same, rfl⟩)
    exact second.trans first.symm
  · intro one
    refine ⟨key item, Finset.eq_singleton_iff_unique_mem.mpr ⟨own, ?_⟩⟩
    intro found among
    obtain ⟨other, member', same, rfl⟩ := mem_keysOf.mp among
    exact one other member' same

/-- The sum over what is processed is one over the new keys, when a key decides what is added. -/
theorem sum_processFrom {f : Item → M} {g : Key → M} (read : ∀ item ∈ items, f item = g (key item))
    (seen : List Key) :
    ((processFrom key seen items).map f).sum =
      ∑ found ∈ (items.map key).toFinset with found ∉ seen, g found := by
  induction items generalizing seen with
  | nil => rfl
  | cons item rest ih =>
    obtain ⟨first, others⟩ := List.forall_mem_cons.mp read
    rw [List.map_cons, List.toFinset_cons, Finset.filter_insert]
    by_cases known : key item ∈ seen
    · rw [processFrom, if_pos known, if_neg (not_not_intro known)]
      exact ih others seen
    · rw [processFrom, if_neg known, if_pos known, List.map_cons, List.sum_cons, first,
        ih others (key item :: seen), ← Finset.sum_insert (f := g)]
      · congr 1
        ext found
        by_cases same : found = key item
        · simp [same]
        · simp [same]
      · simp

theorem exists_of_key {f : Item → M}
    (decided : ∀ item ∈ items, ∀ other ∈ items, key item = key other → f item = f other) :
    ∃ g : Key → M, ∀ item ∈ items, f item = g (key item) := by
  refine ⟨fun found => ((items.find? (key · = found)).map f).getD 0, fun item member => ?_⟩
  cases search : items.find? (fun other => decide (key other = key item)) with
  | none => simpa using List.find?_eq_none.mp search item member
  | some other =>
    have same := List.find?_some search
    show f item = ((items.find? fun other => decide (key other = key item)).map f).getD 0
    rw [search]
    exact decided item member other (List.mem_of_find?_eq_some search)
      (of_decide_eq_true same).symm

/-- The consumer adds a subject's worth once for each key that the subject was told of under. -/
theorem sum_process {f : Item → M} {worth : Subject → M}
    (told : ∀ item ∈ items, f item = worth (subject item))
    (identified : ∀ item ∈ items, ∀ other ∈ items, key item = key other →
      subject item = subject other) :
    ((process key items).map f).sum =
      ∑ about ∈ subjects subject items, ∑ _ ∈ keysOf key subject items about, worth about := by
  have decided : ∀ item ∈ items, ∀ other ∈ items, key item = key other → f item = f other := by
    intro item member other member' same
    rw [told item member, told other member', identified item member other member' same]
  obtain ⟨g, read⟩ := exists_of_key decided
  have keys : (items.map key).toFinset =
      (subjects subject items).biUnion (keysOf key subject items) := by
    ext found
    simp only [subjects, mem_keysOf, List.mem_toFinset, List.mem_map, Finset.mem_biUnion,
      exists_exists_and_eq_and]
    constructor
    · intro ⟨item, member, same⟩
      exact ⟨item, member, item, member, rfl, same⟩
    · intro ⟨_, _, item, member, _, same⟩
      exact ⟨item, member, same⟩
  have apart : ((subjects subject items : Finset Subject) : Set Subject).PairwiseDisjoint
      (keysOf key subject items) := by
    intro about _ about' _ differ
    refine Finset.disjoint_left.mpr fun found one two => differ ?_
    obtain ⟨item, member, rfl, same⟩ := mem_keysOf.mp one
    obtain ⟨other, member', rfl, same'⟩ := mem_keysOf.mp two
    exact identified item member other member' (same.trans same'.symm)
  calc ((process key items).map f).sum
      = ∑ found ∈ (items.map key).toFinset, g found := by
        rw [process, sum_processFrom read, Finset.filter_true_of_mem (by simp)]
    _ = ∑ about ∈ subjects subject items, ∑ found ∈ keysOf key subject items about, g found := by
        rw [keys, Finset.sum_biUnion apart]
    _ = ∑ about ∈ subjects subject items, ∑ _ ∈ keysOf key subject items about, worth about := by
        refine Finset.sum_congr rfl fun about _ => Finset.sum_congr rfl fun found among => ?_
        obtain ⟨item, member, rfl, rfl⟩ := mem_keysOf.mp among
        rw [← read item member, told item member]

/-- In numbers: a subject's worth as often as it has keys. -/
theorem sum_process_card {f : Item → ℕ} {worth : Subject → ℕ}
    (told : ∀ item ∈ items, f item = worth (subject item))
    (identified : ∀ item ∈ items, ∀ other ∈ items, key item = key other →
      subject item = subject other) :
    ((process key items).map f).sum = ∑ about ∈ subjects subject items,
      (keysOf key subject items about).card * worth about := by
  rw [sum_process told identified]
  exact Finset.sum_congr rfl fun about _ => Finset.sum_const_nat fun _ _ => rfl

/-- Every subject is counted once exactly when each is told of under one key only. -/
theorem sum_process_once_iff {f : Item → ℕ} {worth : Subject → ℕ}
    (told : ∀ item ∈ items, f item = worth (subject item)) (positive : ∀ item ∈ items, f item ≠ 0)
    (identified : ∀ item ∈ items, ∀ other ∈ items, key item = key other →
      subject item = subject other) :
    ((process key items).map f).sum = ∑ about ∈ subjects subject items, worth about ↔
      ∀ item ∈ items, ∀ other ∈ items, subject other = subject item → key other = key item := by
  have among {about : Subject} : about ∈ subjects subject items ↔
      ∃ item ∈ items, subject item = about := by
    simp [subjects]
  have least : ∀ about ∈ subjects subject items,
      worth about ≤ (keysOf key subject items about).card * worth about := by
    intro about member
    obtain ⟨item, held, rfl⟩ := among.mp member
    exact Nat.le_mul_of_pos_left _ (Finset.card_pos.mpr ⟨_, mem_keysOf.mpr ⟨item, held, rfl, rfl⟩⟩)
  rw [sum_process_card told identified, eq_comm, Finset.sum_eq_sum_iff_of_le least]
  constructor
  · intro once item member
    have worthy : worth (subject item) ≠ 0 := told item member ▸ positive item member
    have counted := (once (subject item) (among.mpr ⟨item, member, rfl⟩)).symm
    apply (card_keysOf_eq_one_iff member).mp
    exact Nat.eq_of_mul_eq_mul_right (Nat.pos_of_ne_zero worthy) (counted.trans (one_mul _).symm)
  · intro one about member
    obtain ⟨item, held, rfl⟩ := among.mp member
    rw [(card_keysOf_eq_one_iff held).mpr (one item held), one_mul]

end Dedup
