import Mathlib.Data.List.Sort
import Patala.Core.Rail
import Patala.Fiat.Currency
import Patala.Fiat.Manual
import Patala.Lib.History

/-! The registry of rails: registered under a trimmed id, enabled by an allow-list, listed by
capability and selected by name. Listing asks whether a rail is enabled under its own id and
selecting under the name it was registered by, and the two agree as long as these are one. -/

namespace Patala.Fiat

variable {σ : Type}

inductive RegistryError where
  | railNotFound (name : String)
  | railDisabled (name : String)
  | currencyNotSupported (name currency : String)
  | emptyRailId
  | alreadyRegistered (name : String)
deriving DecidableEq

def RegistryError.toString : RegistryError → String
  | railNotFound name => "patala-fiat: rail " ++ debugStr name ++ " is not registered"
  | railDisabled name =>
    "patala-fiat: rail " ++ debugStr name ++ " is registered but not enabled (see PATALA_FIAT_RAILS)"
  | currencyNotSupported name currency =>
    "patala-fiat: rail " ++ debugStr name ++ " does not support currency " ++ debugStr currency
  | emptyRailId => "patala-fiat: cannot register a rail with an empty id"
  | alreadyRegistered name => "patala-fiat: rail " ++ debugStr name ++ " is already registered"

/-- Narrows a listing to rails matching every field that is given. -/
structure CapabilityFilter where
  currency : Option String
  railClass : Option RailClass

/-- No currencies listed means unrestricted. -/
def supportsCurrency (caps : RailCapabilities) (code : String) : Bool :=
  caps.currencies.isEmpty || caps.currencies.any fun c => eqIgnoreAsciiCase c code

/-- Every condition of the filter that is given. -/
def CapabilityFilter.admits (filter : CapabilityFilter) (rail : PaymentRail σ) : Bool :=
  (filter.currency.all fun code => supportsCurrency rail.capabilities code) &&
    filter.railClass.all fun railClass => rail.capabilities.railClass = railClass

/-- Rails by the trimmed ids they were registered under, and the names an allow-list enables;
none when every rail is. -/
structure Registry (σ : Type) where
  rails : List (String × PaymentRail σ)
  enabled : Option (List String)
  keyed : ∀ entry ∈ rails, entry.1 = trim entry.2.id
  distinct : (rails.map Prod.fst).Nodup
  tidy : ∀ names, enabled = some names → ∀ name ∈ names, trim name = name

namespace Registry

theorem toAsciiLowercase_trim (text : String) :
    trim (toAsciiLowercase text) = toAsciiLowercase (trim text) := by
  have blind : isWhitespace ∘ Char.toLower = isWhitespace := funext isWhitespace_toLower
  simp only [trim, toAsciiLowercase, String.toList_ofList, List.dropWhile_map, blind,
    ← List.map_reverse]

/-- The names a comma-separated list enables. -/
def envNames (env : String) : List String :=
  ((env.toList.splitOn ',').map fun part => toAsciiLowercase (trim (String.ofList part))).filter
    (· ≠ "")

theorem trim_of_envNames {env name : String} (listed : name ∈ envNames env) : trim name = name := by
  obtain ⟨part, -, rfl⟩ := List.mem_map.mp (List.mem_of_mem_filter listed)
  rw [toAsciiLowercase_trim, trim_trim]

/-- A registry from its environment variable; a list of nothing enables every rail. -/
def fromEnv (σ : Type) (env : String) : Registry σ where
  rails := []
  enabled := if envNames env = [] then none else some (railIdManual :: envNames env)
  keyed := nofun
  distinct := List.nodup_nil
  tidy := by
    intro names listed
    split at listed
    · cases listed
    · cases listed
      exact List.forall_mem_cons.mpr ⟨by decide, fun name => trim_of_envNames⟩

/-- Register a rail under its trimmed id, unless that is empty or taken. -/
def register (rail : PaymentRail σ) (registry : Registry σ) :
    Except RegistryError Unit × Registry σ :=
  let name := trim rail.id
  if name = "" then (.error .emptyRailId, registry)
  else if taken : name ∈ registry.rails.map Prod.fst then (.error (.alreadyRegistered name), registry)
  else (.ok (), { registry with
    rails := (name, rail) :: registry.rails
    keyed := List.forall_mem_cons.mpr ⟨rfl, registry.keyed⟩
    distinct := List.nodup_cons.mpr ⟨taken, registry.distinct⟩ })

/-- The registry after a sequence of registrations, refused ones among them. -/
def registerAll (calls : List (PaymentRail σ)) (registry : Registry σ) : Registry σ :=
  (History.run register calls registry).2

variable (registry : Registry σ)

def get (name : String) : Option (PaymentRail σ) := registry.rails.lookup name

def isEnabled (name : String) : Bool :=
  if name = railIdManual then true
  else match registry.enabled with
    | none => true
    | some names => names.contains (toAsciiLowercase name)

/-- Every enabled rail that the filter admits, sorted by id; `values` are the registered rails in
the order the map hands them out. -/
def list (values : List (PaymentRail σ)) (filter : CapabilityFilter) : List (PaymentRail σ) :=
  ((values.mergeSort fun a b => a.id ≤ b.id).filter fun rail => registry.isEnabled rail.id).filter
    filter.admits

/-- The rail of a name, if it is registered and enabled and supports the currency. -/
def select (name : String) (currency : Option String) : Except RegistryError (PaymentRail σ) :=
  match registry.get name with
  | none => .error (.railNotFound name)
  | some rail =>
    if !registry.isEnabled name then .error (.railDisabled name)
    else match currency with
      | some code =>
        if !supportsCurrency rail.capabilities code then .error (.currencyNotSupported name code)
        else .ok rail
      | none => .ok rail

/-- The registered rails in some order. -/
def Values (values : List (PaymentRail σ)) : Prop := values.Perm (registry.rails.map Prod.snd)

section Lookup

theorem lookup_eq_some_iff {entries : List (String × β)} (distinct : (entries.map Prod.fst).Nodup)
    {name : String} {value : β} : entries.lookup name = some value ↔ (name, value) ∈ entries := by
  induction entries with
  | nil => simp
  | cons entry rest ih =>
    obtain ⟨key, held⟩ := entry
    obtain ⟨fresh, distinct⟩ := List.nodup_cons.mp distinct
    by_cases own : name = key
    · subst own
      have absent : (name, value) ∉ rest := fun member =>
        fresh (List.mem_map.mpr ⟨(name, value), member, rfl⟩)
      simp [absent, eq_comm]
    · have other : (name, value) ≠ (key, held) := fun same => own (congrArg Prod.fst same)
      have differs : (name == key) = false := beq_eq_false_iff_ne.mpr own
      rw [List.lookup_cons, differs, List.mem_cons, or_iff_right other]
      exact ih distinct

theorem get_eq_some {name : String} {rail : PaymentRail σ} :
    registry.get name = some rail ↔ (name, rail) ∈ registry.rails :=
  lookup_eq_some_iff registry.distinct

variable {registry}

theorem trim_of_get {name : String} {rail : PaymentRail σ} (found : registry.get name = some rail) :
    name = trim rail.id :=
  registry.keyed (name, rail) ((registry.get_eq_some).mp found)

/-- Rails registered under different names have different ids. -/
theorem nodup_rails (registry : Registry σ) : (registry.rails.map Prod.snd).Nodup := by
  have names : registry.rails.map Prod.fst =
      (registry.rails.map Prod.snd).map fun rail => trim rail.id := by
    rw [List.map_map]
    exact List.map_congr_left registry.keyed
  exact List.Nodup.of_map _ (names ▸ registry.distinct)

theorem mem_values {values : List (PaymentRail σ)} (order : registry.Values values)
    {rail : PaymentRail σ} : rail ∈ values ↔ ∃ name, registry.get name = some rail := by
  rw [order.mem_iff, List.mem_map]
  constructor
  · rintro ⟨⟨name, _⟩, member, rfl⟩
    exact ⟨name, registry.get_eq_some.mpr member⟩
  · rintro ⟨name, found⟩
    exact ⟨(name, rail), registry.get_eq_some.mp found, rfl⟩

end Lookup

section Listing

variable {registry}

theorem isEnabled_of_no_list (free : registry.enabled = none) (name : String) :
    registry.isEnabled name = true := by
  unfold isEnabled
  rw [free]
  split <;> rfl

theorem eq_trim_of_toAsciiLowercase {text : String}
    (tidy : trim (toAsciiLowercase text) = toAsciiLowercase text) : text = trim text := by
  rw [toAsciiLowercase_trim] at tidy
  have chars := congrArg (fun text => text.toList.length) tidy
  simp only [toAsciiLowercase, String.toList_ofList, List.length_map] at chars
  have kept : (trim text).toList.Sublist text.toList := by
    have trailing := (List.dropWhile_sublist isWhitespace
      (l := (text.toList.dropWhile isWhitespace).reverse)).reverse
    rw [List.reverse_reverse] at trailing
    rw [trim, String.toList_ofList]
    exact trailing.trans (List.dropWhile_sublist _)
  exact (String.toList_inj.mp (kept.eq_of_length chars)).symm

/-- An id with space around it is on no allow-list. -/
theorem not_isEnabled_of_untidy (listed : registry.enabled ≠ none) {id : String}
    (untidy : id ≠ trim id) : registry.isEnabled id = false := by
  cases names : registry.enabled with
  | none => exact absurd names listed
  | some names' =>
    have notManual : id ≠ railIdManual := by
      rintro rfl
      exact untidy (by decide)
    have absent : toAsciiLowercase id ∉ names' := by
      intro member
      exact untidy (eq_trim_of_toAsciiLowercase (registry.tidy names' names _ member))
    simp [isEnabled, notManual, names, absent]

/-- A rail that its name enables and its own id does not. -/
structure Missed (registry : Registry σ) (name : String) (rail : PaymentRail σ) : Prop where
  found : registry.get name = some rail
  untidy : rail.id ≠ trim rail.id
  listed : registry.enabled ≠ none
  enabled : registry.isEnabled name = true

/-- A registered rail is enabled under its own id exactly when its name is and it is not missed. -/
theorem isEnabled_id_iff {name : String} {rail : PaymentRail σ}
    (found : registry.get name = some rail) :
    registry.isEnabled rail.id = true ↔
      registry.isEnabled name = true ∧ ¬ Missed registry name rail := by
  have key := trim_of_get found
  by_cases tidy : rail.id = trim rail.id
  · have same : rail.id = name := tidy.trans key.symm
    rw [same]
    exact ⟨fun enabled => ⟨enabled, fun missed => missed.untidy tidy⟩, And.left⟩
  · by_cases free : registry.enabled = none
    · simp only [isEnabled_of_no_list free, true_and, true_iff]
      exact fun missed => missed.listed free
    · rw [not_isEnabled_of_untidy free tidy]
      constructor
      · nofun
      · rintro ⟨enabled, kept⟩
        exact absurd ⟨found, tidy, free, enabled⟩ kept

theorem mem_list {values : List (PaymentRail σ)} (order : registry.Values values)
    {filter : CapabilityFilter} {rail : PaymentRail σ} :
    rail ∈ registry.list values filter ↔
      (∃ name, registry.get name = some rail ∧ registry.isEnabled name = true ∧
        ¬ Missed registry name rail) ∧ filter.admits rail = true := by
  rw [list, List.mem_filter, List.mem_filter, List.mem_mergeSort, mem_values order]
  apply and_congr_left'
  constructor
  · rintro ⟨⟨name, found⟩, enabled⟩
    exact ⟨name, found, (isEnabled_id_iff found).mp enabled⟩
  · rintro ⟨name, found, enabled⟩
    exact ⟨⟨name, found⟩, (isEnabled_id_iff found).mpr enabled⟩

theorem nodup_list {values : List (PaymentRail σ)} (order : registry.Values values)
    (filter : CapabilityFilter) : (registry.list values filter).Nodup := by
  have nodup : values.Nodup := order.nodup_iff.mpr (nodup_rails registry)
  have sorted := (List.mergeSort_perm values fun a b => a.id ≤ b.id).nodup_iff.mpr nodup
  exact (sorted.filter _).filter _

/-- The order the map hands its rails out in does not show. -/
theorem list_eq_of_values {first second : List (PaymentRail σ)} (orderFirst : registry.Values first)
    (orderSecond : registry.Values second) (filter : CapabilityFilter) :
    registry.list first filter = registry.list second filter := by
  have sorted : ∀ values : List (PaymentRail σ),
      (values.mergeSort fun a b => a.id ≤ b.id).Pairwise fun a b => a.id ≤ b.id := by
    intro values
    have pairwise : (values.mergeSort fun a b => a.id ≤ b.id).Pairwise
        fun a b => decide (a.id ≤ b.id) = true :=
      List.pairwise_mergeSort (fun a b c => by simpa using String.le_trans)
        (fun a b => by simpa using String.le_total a.id b.id) values
    simpa using pairwise
  have same : (first.mergeSort fun a b => a.id ≤ b.id) = second.mergeSort fun a b => a.id ≤ b.id := by
    apply List.Perm.eq_of_pairwise _ (sorted first) (sorted second)
    · exact ((List.mergeSort_perm first _).trans (orderFirst.trans orderSecond.symm)).trans
        (List.mergeSort_perm second _).symm
    · intro a b memberA memberB below above
      obtain ⟨nameA, foundA⟩ := (mem_values orderFirst).mp (List.mem_mergeSort.mp memberA)
      obtain ⟨nameB, foundB⟩ := (mem_values orderSecond).mp (List.mem_mergeSort.mp memberB)
      have ids := String.le_antisymm below above
      have names : nameA = nameB := by rw [trim_of_get foundA, trim_of_get foundB, ids]
      rw [names] at foundA
      exact Option.some.inj (foundA.symm.trans foundB)
  rw [list, list, same]

theorem select_ok_iff {name code : String} {rail : PaymentRail σ} :
    registry.select name (some code) = .ok rail ↔
      registry.get name = some rail ∧ registry.isEnabled name = true ∧
        supportsCurrency rail.capabilities code = true := by
  unfold select
  cases found : registry.get name with
  | none => simp
  | some held =>
    cases enabled : registry.isEnabled name with
    | false => simp
    | true =>
      cases supported : supportsCurrency held.capabilities code with
      | false =>
        simp only [supported, Bool.not_true, Bool.not_false, Bool.false_eq_true, if_false, if_true,
          reduceCtorEq, Option.some.injEq, true_and, false_iff]
        rintro ⟨rfl, other⟩
        rw [supported] at other
        cases other
      | true =>
        simp only [supported, Bool.not_true, Bool.false_eq_true, if_false, Except.ok.injEq,
          Option.some.injEq, true_and]
        exact ⟨fun same => ⟨same, same ▸ supported⟩, And.left⟩

end Listing

section Agreement

/-- Selecting a name for a currency answers with the rail registered under it exactly when the
listing for that currency has that rail. -/
def SelectAgrees (values : List (PaymentRail σ)) (name code : String) : Prop :=
  ∀ rail, registry.select name (some code) = .ok rail ↔
    registry.get name = some rail ∧ rail ∈ registry.list values ⟨some code, none⟩

/-- The listing is the enabled registered rails the filter admits, each once. -/
def ListExact (values : List (PaymentRail σ)) (filter : CapabilityFilter) : Prop :=
  (registry.list values filter).Nodup ∧
    ∀ rail, rail ∈ registry.list values filter ↔
      ∃ name, registry.get name = some rail ∧ registry.isEnabled name = true ∧
        filter.admits rail = true

variable {registry}

theorem selectAgrees_iff {values : List (PaymentRail σ)} (order : registry.Values values)
    (name code : String) :
    registry.SelectAgrees values name code ↔
      ¬ ∃ rail, Missed registry name rail ∧ supportsCurrency rail.capabilities code = true := by
  have listed : ∀ rail, registry.get name = some rail →
      (rail ∈ registry.list values ⟨some code, none⟩ ↔ registry.isEnabled name = true ∧
        ¬ Missed registry name rail ∧ supportsCurrency rail.capabilities code = true) := by
    intro rail found
    have admitted : CapabilityFilter.admits ⟨some code, none⟩ rail =
        supportsCurrency rail.capabilities code := by simp [CapabilityFilter.admits]
    rw [mem_list order, admitted]
    constructor
    · rintro ⟨⟨other, held, enabled, kept⟩, supported⟩
      obtain rfl := (trim_of_get held).trans (trim_of_get found).symm
      exact ⟨enabled, kept, supported⟩
    · rintro ⟨enabled, kept, supported⟩
      exact ⟨⟨name, found, enabled, kept⟩, supported⟩
  constructor
  · rintro agrees ⟨rail, missed, supported⟩
    have selected := select_ok_iff.mpr ⟨missed.found, missed.enabled, supported⟩
    have member := ((agrees rail).mp selected).2
    exact ((listed rail missed.found).mp member).2.1 missed
  · intro kept rail
    rw [select_ok_iff]
    apply and_congr_right
    intro found
    rw [listed rail found]
    constructor
    · rintro ⟨enabled, supported⟩
      exact ⟨enabled, fun missed => kept ⟨rail, missed, supported⟩, supported⟩
    · rintro ⟨enabled, -, supported⟩
      exact ⟨enabled, supported⟩

theorem listExact_iff {values : List (PaymentRail σ)} (order : registry.Values values)
    (filter : CapabilityFilter) :
    registry.ListExact values filter ↔
      ¬ ∃ name rail, Missed registry name rail ∧ filter.admits rail = true := by
  constructor
  · rintro ⟨-, exact⟩ ⟨name, rail, missed, admitted⟩
    have member := (exact rail).mpr ⟨name, missed.found, missed.enabled, admitted⟩
    obtain ⟨⟨other, held, -, kept⟩, -⟩ := (mem_list order).mp member
    obtain rfl := (trim_of_get held).trans (trim_of_get missed.found).symm
    exact kept missed
  · intro kept
    refine ⟨nodup_list order filter, ?_⟩
    intro rail
    rw [mem_list order]
    constructor
    · rintro ⟨⟨name, found, enabled, -⟩, admitted⟩
      exact ⟨name, found, enabled, admitted⟩
    · rintro ⟨name, found, enabled, admitted⟩
      exact ⟨⟨name, found, enabled, fun missed => kept ⟨name, rail, missed, admitted⟩⟩,
        admitted⟩

end Agreement

end Registry

section Registrations

open Registry

theorem register_enabled (rail : PaymentRail σ) (registry : Registry σ) :
    (register rail registry).2.enabled = registry.enabled := by
  unfold register
  dsimp only
  split
  · rfl
  split <;> rfl

/-- A registration adds the rail under its trimmed id, unless that is empty or has one. -/
theorem register_get (rail : PaymentRail σ) (registry : Registry σ) (name : String) :
    (register rail registry).2.get name =
      (registry.get name).or (if name ≠ "" ∧ trim rail.id = name then some rail else none) := by
  unfold register
  dsimp only
  split
  · rename_i empty
    rw [if_neg (fun both => both.1 (both.2.symm.trans empty)), Option.or_none]
  rename_i nonempty
  split
  · rename_i taken
    by_cases own : trim rail.id = name
    · obtain ⟨⟨_, held⟩, member, rfl⟩ := List.mem_map.mp taken
      rw [own] at member
      rw [registry.get_eq_some.mpr member, Option.some_or]
    · rw [if_neg (fun both => own both.2), Option.or_none]
  · rename_i fresh
    by_cases own : name = trim rail.id
    · subst own
      have absent : registry.get (trim rail.id) = none := by
        apply Option.eq_none_iff_forall_ne_some.mpr
        intro held found
        exact fresh (List.mem_map.mpr ⟨_, registry.get_eq_some.mp found, rfl⟩)
      rw [absent, if_pos ⟨nonempty, rfl⟩]
      simp [Registry.get]
    · have differs : (name == trim rail.id) = false := beq_eq_false_iff_ne.mpr own
      rw [if_neg (fun both => own both.2.symm), Option.or_none, Registry.get, List.lookup_cons, differs]
      rfl

theorem registerAll_enabled (calls : List (PaymentRail σ)) (registry : Registry σ) :
    (registry.registerAll calls).enabled = registry.enabled := by
  induction calls generalizing registry with
  | nil => rfl
  | cons rail rest ih => exact (ih _).trans (register_enabled rail registry)

/-- After a sequence of registrations a name has the first rail that came under it. -/
theorem registerAll_get (calls : List (PaymentRail σ)) (registry : Registry σ) (name : String) :
    (registry.registerAll calls).get name =
      (registry.get name).or (calls.find? fun rail => name ≠ "" ∧ trim rail.id = name) := by
  induction calls generalizing registry with
  | nil => simp [registerAll, History.run]
  | cons rail rest ih =>
    have step : registry.registerAll (rail :: rest) = (register rail registry).2.registerAll rest :=
      rfl
    rw [step, ih, register_get, Option.or_assoc, List.find?_cons]
    by_cases own : name ≠ "" ∧ trim rail.id = name
    · rw [if_pos own, decide_eq_true own]
      rfl
    · rw [if_neg own, decide_eq_false own]
      rfl

/-- The first rail registered under a name has space around its id, and an allow-list has the
name. -/
structure Overlooked (env : String) (calls : List (PaymentRail σ)) (name : String)
    (rail : PaymentRail σ) : Prop where
  first : (calls.find? fun rail => trim rail.id = name) = some rail
  untidy : rail.id ≠ name
  listed : envNames env ≠ []
  named : toAsciiLowercase name = railIdManual ∨ toAsciiLowercase name ∈ envNames env

theorem get_fromEnv (env : String) (calls : List (PaymentRail σ)) (name : String) :
    ((fromEnv σ env).registerAll calls).get name =
      calls.find? fun rail => name ≠ "" ∧ trim rail.id = name :=
  (registerAll_get calls (fromEnv σ env) name).trans (Option.none_or)

theorem enabled_fromEnv (env : String) (calls : List (PaymentRail σ)) :
    ((fromEnv σ env).registerAll calls).enabled =
      if envNames env = [] then none else some (railIdManual :: envNames env) :=
  registerAll_enabled calls (fromEnv σ env)

theorem isEnabled_fromEnv {env : String} (listed : envNames env ≠ [])
    (calls : List (PaymentRail σ)) (name : String) :
    ((fromEnv σ env).registerAll calls).isEnabled name = true ↔
      toAsciiLowercase name = railIdManual ∨ toAsciiLowercase name ∈ envNames env := by
  rw [isEnabled, enabled_fromEnv, if_neg listed]
  by_cases manual : name = railIdManual
  · subst manual
    simp only [if_true, true_iff]
    exact .inl (by decide)
  · simp [manual]

theorem missed_iff (env : String) (calls : List (PaymentRail σ)) (name : String)
    (rail : PaymentRail σ) :
    Missed ((fromEnv σ env).registerAll calls) name rail ↔ Overlooked env calls name rail := by
  have nonempty : toAsciiLowercase name = railIdManual ∨ toAsciiLowercase name ∈ envNames env →
      name ≠ "" := by
    rintro named rfl
    rcases named with manual | listed
    · exact absurd manual (by decide)
    · exact absurd (List.of_mem_filter listed) (by decide)
  constructor
  · rintro ⟨found, untidy, listed, enabled⟩
    have names : envNames env ≠ [] := by
      intro empty
      exact listed ((enabled_fromEnv env calls).trans (if_pos empty))
    have named := (isEnabled_fromEnv names calls name).mp enabled
    have key := trim_of_get found
    rw [get_fromEnv] at found
    refine ⟨?_, key ▸ untidy, names, named⟩
    simpa [nonempty named] using found
  · rintro ⟨first, untidy, names, named⟩
    have found : ((fromEnv σ env).registerAll calls).get name = some rail := by
      rw [get_fromEnv]
      simpa [nonempty named] using first
    refine ⟨found, trim_of_get found ▸ untidy, ?_, (isEnabled_fromEnv names calls name).mpr named⟩
    rw [enabled_fromEnv, if_neg names]
    nofun

/-- After any registrations under any environment, selecting agrees with listing and the listing
is exact, except where a rail is overlooked. -/
theorem selection_agrees_iff (env : String) (calls values : List (PaymentRail σ))
    (order : ((fromEnv σ env).registerAll calls).Values values) :
    (∀ name code, ((fromEnv σ env).registerAll calls).SelectAgrees values name code ↔
      ¬ ∃ rail, Overlooked env calls name rail ∧
        supportsCurrency rail.capabilities code = true) ∧
    ∀ filter, ((fromEnv σ env).registerAll calls).ListExact values filter ↔
      ¬ ∃ name rail, Overlooked env calls name rail ∧ filter.admits rail = true := by
  refine ⟨?_, ?_⟩
  · intro name code
    simp only [selectAgrees_iff order, missed_iff]
  · intro filter
    simp only [listExact_iff order, missed_iff]

/-- A rail that only answers for itself. -/
def idleRail (id : String) : PaymentRail Unit where
  id := id
  capabilities := ⟨.custodialReversible, true, true, true, [], .days 2, false⟩
  quote _ world := (.error (.unsupported "quote"), world)
  charge _ world := (⟨.error (.unsupported "charge"), false⟩, world)
  verify _ world := (.error (.unsupported "verify"), world)
  refund _ world := (.error (.unsupported "refund"), world)

theorem tidy_rail_agrees :
    ((fromEnv Unit "stripe").registerAll [idleRail "stripe"]).SelectAgrees [idleRail "stripe"]
      "stripe" "USD" := by
  refine ((selection_agrees_iff "stripe" [idleRail "stripe"] [idleRail "stripe"]
    (List.Perm.refl _)).1 "stripe" "USD").mpr ?_
  rintro ⟨rail, ⟨first, untidy, -, -⟩, -⟩
  obtain rfl := List.mem_singleton.mp (List.mem_of_find?_eq_some first)
  exact untidy rfl

/-- A rail whose id begins with a space is selected by the name without it, and not listed. -/
theorem spaced_rail_not_listed :
    ((fromEnv Unit "stripe").registerAll [idleRail " stripe"]).Values [idleRail " stripe"] ∧
      ¬ ((fromEnv Unit "stripe").registerAll [idleRail " stripe"]).SelectAgrees
        [idleRail " stripe"] "stripe" "USD" ∧
      ¬ ((fromEnv Unit "stripe").registerAll [idleRail " stripe"]).ListExact
        [idleRail " stripe"] ⟨some "USD", none⟩ := by
  have selected : ((fromEnv Unit "stripe").registerAll [idleRail " stripe"]).select "stripe"
      (some "USD") = .ok (idleRail " stripe") := rfl
  have unlisted : idleRail " stripe" ∉ ((fromEnv Unit "stripe").registerAll
      [idleRail " stripe"]).list [idleRail " stripe"] ⟨some "USD", none⟩ := by
    rw [Registry.list, List.mergeSort_singleton]
    exact List.not_mem_nil
  refine ⟨List.Perm.refl _, ?_, ?_⟩
  · intro agrees
    exact unlisted ((agrees (idleRail " stripe")).mp selected).2
  · rintro ⟨-, exact⟩
    exact unlisted ((exact (idleRail " stripe")).mpr ⟨"stripe", rfl, rfl, rfl⟩)

end Registrations

end Patala.Fiat
