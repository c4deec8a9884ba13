import Mathlib.Algebra.BigOperators.Group.List.Basic

/-! Running totals in an association list: a key is credited in place when it is
already listed and appended otherwise. The stored totals may live in another
type than the exact ones, such as a machine word, as long as reading an exact
value into the store commutes with addition. -/

namespace Tally

variable {K M A : Type} [DecidableEq K]

/-- Credit the first entry of `key`, or append one. -/
def credit (add : M → M → M) : List (K × M) → K → M → List (K × M)
  | [], key, amount => [(key, amount)]
  | (name, held) :: rest, key, amount =>
    if name = key then (name, add held amount) :: rest
    else (name, held) :: credit add rest key amount

/-- The total stored for `key` by first match, zero when it is not listed. -/
def total [Zero M] (table : List (K × M)) (key : K) : M :=
  ((table.find? fun entry => entry.1 = key).map Prod.snd).getD 0

/-- The exact sum of the entries of `key`. -/
def sumFor [Add A] [Zero A] (entries : List (K × A)) (key : K) : A :=
  ((entries.filter fun entry => entry.1 = key).map Prod.snd).sum

/-- Credit every entry in order, storing amounts through `norm`. -/
def post (add : M → M → M) (norm : A → M) (table : List (K × M)) (entries : List (K × A)) :
    List (K × M) :=
  entries.foldl (fun table entry => credit add table entry.1 (norm entry.2)) table

section Lookup

variable [Zero M] {add : M → M → M}

theorem total_nil (key : K) : total ([] : List (K × M)) key = 0 := rfl

theorem total_cons (name : K) (held : M) (rest : List (K × M)) (key : K) :
    total ((name, held) :: rest) key = if name = key then held else total rest key := by
  by_cases same : name = key <;> simp [total, same]

theorem total_of_absent {table : List (K × M)} (absent : key ∉ table.map Prod.fst) :
    total table key = 0 := by
  induction table with
  | nil => rfl
  | cons entry rest ih =>
    rcases entry with ⟨name, held⟩
    simp only [List.map_cons, List.mem_cons, not_or] at absent
    rw [total_cons, if_neg (Ne.symm absent.1)]
    exact ih absent.2

theorem total_credit_other (table : List (K × M)) (amount : M) (differs : other ≠ key) :
    total (credit add table key amount) other = total table other := by
  induction table with
  | nil => simp [credit, total_cons, Ne.symm differs]
  | cons entry rest ih =>
    rcases entry with ⟨name, held⟩
    by_cases same : name = key
    · subst key
      simp [credit, total_cons, Ne.symm differs]
    · simp [credit, total_cons, same, ih]

theorem total_credit_listed {table : List (K × M)} (amount : M)
    (listed : key ∈ table.map Prod.fst) :
    total (credit add table key amount) key = add (total table key) amount := by
  induction table with
  | nil => simp at listed
  | cons entry rest ih =>
    rcases entry with ⟨name, held⟩
    by_cases same : name = key
    · simp [credit, total_cons, same]
    · have later : key ∈ rest.map Prod.fst := by
        simpa [Ne.symm same] using listed
      simp [credit, total_cons, same, ih later]

theorem total_credit_absent {table : List (K × M)} (amount : M)
    (absent : key ∉ table.map Prod.fst) : total (credit add table key amount) key = amount := by
  induction table with
  | nil => simp [credit, total_cons]
  | cons entry rest ih =>
    rcases entry with ⟨name, held⟩
    simp only [List.map_cons, List.mem_cons, not_or] at absent
    simp [credit, total_cons, Ne.symm absent.1, ih absent.2]

end Lookup

section Keys

variable {add : M → M → M}

theorem keys_credit (table : List (K × M)) (key : K) (amount : M) :
    (credit add table key amount).map Prod.fst =
      if key ∈ table.map Prod.fst then table.map Prod.fst else table.map Prod.fst ++ [key] := by
  induction table with
  | nil => simp [credit]
  | cons entry rest ih =>
    rcases entry with ⟨name, held⟩
    by_cases same : name = key
    · simp [credit, same]
    · simp only [credit, same, ↓reduceIte, List.map_cons, ih, List.mem_cons, Ne.symm same,
        false_or]
      split <;> rfl

theorem nodup_credit {table : List (K × M)} (distinct : (table.map Prod.fst).Nodup) (key : K)
    (amount : M) : ((credit add table key amount).map Prod.fst).Nodup := by
  rw [keys_credit]
  split
  · exact distinct
  · rename_i absent
    exact List.nodup_append.mpr ⟨distinct, by simp, by
      intro name member other single same
      have last : other = key := List.mem_singleton.mp single
      subst name other
      exact absent member⟩

/-- A table built by crediting lists each key once. -/
theorem nodup_post {norm : A → M} {table : List (K × M)} (distinct : (table.map Prod.fst).Nodup)
    (entries : List (K × A)) : ((post add norm table entries).map Prod.fst).Nodup := by
  induction entries generalizing table with
  | nil => exact distinct
  | cons entry rest ih => exact ih (nodup_credit distinct entry.1 (norm entry.2))

/-- A key is listed once it was listed or credited. -/
theorem mem_keys_post {norm : A → M} {table : List (K × M)} {entries : List (K × A)} {key : K} :
    key ∈ (post add norm table entries).map Prod.fst ↔
      key ∈ table.map Prod.fst ∨ key ∈ entries.map Prod.fst := by
  induction entries generalizing table with
  | nil => simp [post]
  | cons entry rest ih =>
    have step : key ∈ (credit add table entry.1 (norm entry.2)).map Prod.fst ↔
        key ∈ table.map Prod.fst ∨ key = entry.1 := by
      rw [keys_credit]
      split
      · rename_i listed
        exact ⟨.inl, fun either => either.elim id fun same => same ▸ listed⟩
      · simp
    rw [List.map_cons, List.mem_cons, ← or_assoc, ← step]
    exact ih

/-- The first key stays first. -/
theorem head_post {norm : A → M} {table : List (K × M)} {entries : List (K × A)} {key : K}
    (first : (table.map Prod.fst).head? = some key) :
    ((post add norm table entries).map Prod.fst).head? = some key := by
  induction entries generalizing table with
  | nil => exact first
  | cons entry rest ih =>
    apply ih
    rw [keys_credit]
    split
    · exact first
    · rw [List.head?_append, first, Option.some_or]

omit [DecidableEq K] in
theorem holds_cons {p : A → Prop} {entry : K × A} {entries : List (K × A)} {key : K} :
    (∃ held, (key, held) ∈ entry :: entries ∧ p held) ↔
      (key = entry.1 ∧ p entry.2) ∨ ∃ held, (key, held) ∈ entries ∧ p held := by
  constructor
  · rintro ⟨held, member, holds⟩
    rcases List.mem_cons.mp member with same | later
    · exact .inl ⟨congrArg Prod.fst same, same ▸ holds⟩
    · exact .inr ⟨held, later, holds⟩
  · rintro (⟨rfl, holds⟩ | ⟨held, later, holds⟩)
    · exact ⟨entry.2, List.mem_cons_self, holds⟩
    · exact ⟨held, List.mem_cons_of_mem _ later, holds⟩

/-- What adding takes from either side is taken from the held amounts and from the credited. -/
theorem holds_credit {p : M → Prop} (joins : ∀ a b, p (add a b) ↔ p a ∨ p b)
    {table : List (K × M)} {key other : K} {amount : M} :
    (∃ held, (other, held) ∈ credit add table key amount ∧ p held) ↔
      (∃ held, (other, held) ∈ table ∧ p held) ∨ (other = key ∧ p amount) := by
  induction table with
  | nil => simp [credit, and_assoc]
  | cons entry rest ih =>
    rcases entry with ⟨name, held⟩
    by_cases same : name = key
    · subst key
      simp only [credit, ↓reduceIte, holds_cons, joins, and_or_left]
      exact or_right_comm
    · simp only [credit, same, ↓reduceIte, holds_cons, ih, or_assoc]

theorem holds_post {norm : A → M} {p : M → Prop} (joins : ∀ a b, p (add a b) ↔ p a ∨ p b)
    {table : List (K × M)} {entries : List (K × A)} {key : K} :
    (∃ held, (key, held) ∈ post add norm table entries ∧ p held) ↔
      (∃ held, (key, held) ∈ table ∧ p held) ∨
        ∃ amount, (key, amount) ∈ entries ∧ p (norm amount) := by
  induction entries generalizing table with
  | nil => simp [post]
  | cons entry rest ih =>
    rcases entry with ⟨name, amount⟩
    have step : (∃ held, (key, held) ∈ credit add table name (norm amount) ∧ p held) ↔
        (∃ held, (key, held) ∈ table ∧ p held) ∨ (key = name ∧ p (norm amount)) :=
      holds_credit joins
    calc (∃ held, (key, held) ∈ post add norm (credit add table name (norm amount)) rest ∧ p held)
        ↔ (∃ held, (key, held) ∈ credit add table name (norm amount) ∧ p held) ∨
            ∃ more, (key, more) ∈ rest ∧ p (norm more) := ih
      _ ↔ _ := by
        have entered : (∃ more, (key, more) ∈ (name, amount) :: rest ∧ p (norm more)) ↔
            (key = name ∧ p (norm amount)) ∨ ∃ more, (key, more) ∈ rest ∧ p (norm more) :=
          holds_cons (p := fun more => p (norm more))
        rw [step, entered, or_assoc]

/-- With distinct keys every listed entry is the one the lookup finds. -/
theorem total_of_mem [Zero M] {table : List (K × M)} (distinct : (table.map Prod.fst).Nodup)
    (member : (key, amount) ∈ table) : total table key = amount := by
  induction table with
  | nil => simp at member
  | cons entry rest ih =>
    rcases entry with ⟨name, held⟩
    obtain ⟨fresh, restDistinct⟩ := List.nodup_cons.mp distinct
    rw [total_cons]
    rcases List.mem_cons.mp member with same | later
    · obtain ⟨rfl, rfl⟩ := Prod.mk.inj same
      simp
    · have differs : name ≠ key := by
        intro same
        subst name
        exact fresh (List.mem_map.mpr ⟨(key, amount), later, rfl⟩)
      rw [if_neg differs]
      exact ih restDistinct later

end Keys

section Sums

theorem sumFor_cons [AddCommMonoid A] (entry : K × A) (entries : List (K × A)) (key : K) :
    sumFor (entry :: entries) key =
      (if entry.1 = key then entry.2 else 0) + sumFor entries key := by
  by_cases same : entry.1 = key <;> simp [sumFor, same]

theorem sumFor_append [AddCommMonoid A] (first second : List (K × A)) (key : K) :
    sumFor (first ++ second) key = sumFor first key + sumFor second key := by
  simp [sumFor]

/-- Adding to the entries adds to the sums. -/
theorem sumFor_map_add [AddCommMonoid A] (items : List ι) (name : ι → K) (held change : ι → A)
    (key : K) :
    sumFor (items.map fun item => (name item, held item + change item)) key =
      sumFor (items.map fun item => (name item, held item)) key +
        sumFor (items.map fun item => (name item, change item)) key := by
  induction items with
  | nil => simp [sumFor]
  | cons item rest ih =>
    simp only [List.map_cons, sumFor_cons, ih]
    by_cases same : name item = key
    · simp only [same, ↓reduceIte]
      exact add_add_add_comm ..
    · simp [same]

theorem sumFor_of_zero [AddCommMonoid A] {entries : List (K × A)}
    (zero : ∀ entry ∈ entries, entry.2 = 0) (key : K) : sumFor entries key = 0 := by
  induction entries with
  | nil => rfl
  | cons entry rest ih =>
    rw [sumFor_cons, zero entry List.mem_cons_self,
      ih fun other member => zero other (List.mem_cons_of_mem _ member)]
    simp

/-- An amount given to one of several items with distinct labels is summed once, for
that item's name. -/
theorem sumFor_map_single [AddCommMonoid A] [DecidableEq L] {items : List ι} {label : ι → L}
    (distinct : (items.map label).Nodup) (member : item ∈ items) (name : ι → K) (amount : A)
    (key : K) :
    sumFor (items.map fun other => (name other, if label other = label item then amount else 0)) key =
      if name item = key then amount else 0 := by
  induction items with
  | nil => simp at member
  | cons first rest ih =>
    obtain ⟨fresh, restDistinct⟩ := List.nodup_cons.mp distinct
    rw [List.map_cons, sumFor_cons]
    rcases List.mem_cons.mp member with same | later
    · subst item
      have nothing : sumFor (rest.map fun other =>
          (name other, if label other = label first then amount else 0)) key = 0 := by
        apply sumFor_of_zero
        intro entry listed
        obtain ⟨other, inside, rfl⟩ := List.mem_map.mp listed
        have differs : label other ≠ label first := by
          intro same
          exact fresh (same ▸ List.mem_map_of_mem inside)
        simp [differs]
      simp [nothing]
    · have differs : label first ≠ label item := by
        intro same
        exact fresh (same ▸ List.mem_map_of_mem later)
      rw [ih restDistinct later]
      simp [differs]

variable [AddCommMonoid A] [Zero M] {add : M → M → M} {norm : A → M}

/-- One credit moves the stored total of its key, and of no other, as the exact
total moves. -/
theorem total_credit (zero : norm 0 = 0) (hom : ∀ a b, add (norm a) (norm b) = norm (a + b))
    {table : List (K × M)} {sums : K → A} (agrees : ∀ key, total table key = norm (sums key))
    (name : K) (amount : A) (key : K) :
    total (credit add table name (norm amount)) key =
      norm (sums key + if name = key then amount else 0) := by
  by_cases same : name = key
  · subst key
    by_cases listed : name ∈ table.map Prod.fst
    · simp [total_credit_listed _ listed, agrees, hom]
    · have empty : norm (sums name) = norm 0 := by
        rw [← agrees, total_of_absent listed, zero]
      rw [total_credit_absent _ listed, if_pos rfl, ← hom, empty, hom, zero_add]
  · simp [total_credit_other _ _ (Ne.symm same), agrees, same]

/-- The stored total of a key is the exact sum of its entries, read into the store. -/
theorem total_post (zero : norm 0 = 0) (hom : ∀ a b, add (norm a) (norm b) = norm (a + b))
    (entries : List (K × A)) (key : K) :
    total (post add norm [] entries) key = norm (sumFor entries key) := by
  have general : ∀ (table : List (K × M)) (sums : K → A),
      (∀ key, total table key = norm (sums key)) →
      total (post add norm table entries) key = norm (sums key + sumFor entries key) := by
    induction entries with
    | nil =>
      intro table sums agrees
      simpa [post, sumFor] using agrees key
    | cons entry rest ih =>
      intro table sums agrees
      have stepped := ih (credit add table entry.1 (norm entry.2))
        (fun key => sums key + if entry.1 = key then entry.2 else 0)
        (total_credit zero hom agrees entry.1 entry.2)
      rw [sumFor_cons, ← add_assoc]
      exact stepped
  simpa using general [] (fun _ => 0) (fun _ => by rw [total_nil, zero])

end Sums

end Tally
