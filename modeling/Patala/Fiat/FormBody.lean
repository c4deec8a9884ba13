import Patala.Core.Text
import Patala.Lib.Codec
import Patala.Lib.Joined

/-! Bodies of `key=value` pairs with ampersands between them. -/

namespace Patala.Fiat

/-- The nonempty pairs of a body, each split at its first equals sign. -/
def rawPairs (body : String) : List (String × String) :=
  ((body.toList.splitOn '&').filter (· ≠ [])).map fun pair =>
    (String.ofList (pair.takeWhile (· ≠ '=')), String.ofList ((pair.dropWhile (· ≠ '=')).drop 1))

theorem rawPairs_of_chars {body : String} {chars : List Char} (spelled : body = String.ofList chars) :
    rawPairs body = ((chars.splitOn '&').filter (· ≠ [])).map fun pair =>
      (String.ofList (pair.takeWhile (· ≠ '=')),
        String.ofList ((pair.dropWhile (· ≠ '=')).drop 1)) := by
  rw [spelled, rawPairs, String.toList_ofList]

/-- The names and the values of a body are made of its characters. -/
theorem mem_of_rawPairs {body : String} {pair : String × String} (listed : pair ∈ rawPairs body) :
    (∀ c ∈ pair.1.toList, c ∈ body.toList) ∧ ∀ c ∈ pair.2.toList, c ∈ body.toList := by
  obtain ⟨piece, cut, rfl⟩ := List.mem_map.mp listed
  have within : ∀ c ∈ piece, c ∈ body.toList := by
    intro c member
    have joined : ['&'].intercalate (body.toList.splitOn '&') = body.toList :=
      List.intercalate_splitOn '&'
    rw [← joined]
    exact Joined.mem_intercalate_of_mem (List.mem_filter.mp cut).1 member
  simp only [String.toList_ofList]
  constructor
  · exact fun c member => within c ((List.takeWhile_prefix _).subset member)
  · exact fun c member => within c ((List.dropWhile_suffix _).subset (List.mem_of_mem_drop member))

/-- A list of pairs read as the map it is collected into: the last pair of a key wins. -/
def lastValue (pairs : List (String × String)) (key : String) : Option String :=
  (pairs.reverse.find? fun pair => pair.1 = key).map Prod.snd

/-- `u8::from_str_radix(_, 16)` of two bytes; the first may be a plus sign. -/
def fromStrRadix16 (high low : UInt8) : Option UInt8 := do
  let lowValue ← Codec.hexValue (Char.ofNat low.toNat)
  if Char.ofNat high.toNat = '+' then return UInt8.ofNat lowValue
  let highValue ← Codec.hexValue (Char.ofNat high.toNat)
  return UInt8.ofNat (16 * highValue + lowValue)

theorem lastValue_mem {pairs : List (String × String)} {key value : String}
    (found : lastValue pairs key = some value) : (key, value) ∈ pairs := by
  obtain ⟨pair, last, same⟩ := Option.map_eq_some_iff.mp found
  have named : pair.1 = key := by simpa using List.find?_some last
  have member := List.mem_reverse.mp (List.mem_of_find?_eq_some last)
  rwa [← named, ← same]

/-- A pair put behind the others decides the value of its key only. -/
theorem lastValue_append_singleton {pairs : List (String × String)} {key value other : String} :
    lastValue (pairs ++ [(key, value)]) other =
      if key = other then some value else lastValue pairs other := by
  unfold lastValue
  rw [List.reverse_append, List.reverse_singleton, List.singleton_append, List.find?_cons]
  by_cases same : key = other
  · simp [same]
  · simp [same]

theorem lastValue_cons {pair : String × String} {pairs : List (String × String)} {key : String} :
    lastValue (pair :: pairs) key =
      (lastValue pairs key).or (if pair.1 = key then some pair.2 else none) := by
  unfold lastValue
  rw [List.reverse_cons, List.find?_append]
  cases (pairs.reverse.find? fun pair => pair.1 = key) with
  | none => by_cases same : pair.1 = key <;> simp [same]
  | some found => rfl

theorem lastValue_eq_none_iff {pairs : List (String × String)} {key : String} :
    lastValue pairs key = none ↔ ∀ pair ∈ pairs, pair.1 ≠ key := by
  simp [lastValue]

theorem lastValue_append_cons {front back : List (String × String)} {key value : String}
    (others : ∀ later ∈ back, later.1 ≠ key) :
    lastValue (front ++ (key, value) :: back) key = some value := by
  have behind := lastValue_eq_none_iff.mpr others
  induction front with
  | nil => simp [lastValue_cons, behind]
  | cons pair front ih => rw [List.cons_append, lastValue_cons, ih, Option.some_or]

/-- Pairs of the same names are the same map exactly when the last pair of each name has the same
value. -/
theorem lastValue_map_eq_iff {items : List α} {name value value' : α → String} :
    lastValue (items.map fun item => (name item, value item)) =
        lastValue (items.map fun item => (name item, value' item)) ↔
      ∀ front item back, items = front ++ item :: back →
        (∀ later ∈ back, name later ≠ name item) → value item = value' item := by
  constructor
  · rintro same front item back rfl others
    have last (value : α → String) :
        lastValue ((front ++ item :: back).map fun item => (name item, value item)) (name item) =
          some (value item) := by
      rw [List.map_append, List.map_cons]
      exact lastValue_append_cons (by simpa using others)
    have here := congrFun same (name item)
    rw [last, last] at here
    exact Option.some.inj here
  · intro all
    induction items with
    | nil => rfl
    | cons item items ih =>
      have behind := ih fun front last back split => all (item :: front) last back (by
        rw [split, List.cons_append])
      funext key
      rw [List.map_cons, List.map_cons, lastValue_cons, lastValue_cons, behind]
      cases found : lastValue (items.map fun item => (name item, value' item)) key with
      | some value => rfl
      | none =>
        have others : ∀ later ∈ items, name later ≠ key := by
          simpa using lastValue_eq_none_iff.mp found
        by_cases named : name item = key
        · rw [all [] item items rfl (named ▸ others)]
        · simp [named]

example : rawPairs "a=1&&b=2=3&c" = [("a", "1"), ("b", "2=3"), ("c", "")] := by decide

end Patala.Fiat
