import Mathlib.Algebra.Group.Nat.Defs
import Mathlib.Algebra.Ring.Int.Defs
import Mathlib.Data.Set.Function

/-! Self-delimiting byte encodings: little-endian words, length-prefixed byte
strings and counted lists. A field written this way can be split off the front
of any longer string, so concatenating fields loses nothing. -/

namespace Framing

/-- `width` little-endian bytes of `value`; higher bytes are dropped. -/
def leBytes : Nat → Nat → List UInt8
  | 0, _ => []
  | width + 1, value => UInt8.ofNat value :: leBytes width (value / 256)

@[simp] theorem length_leBytes (width value : Nat) : (leBytes width value).length = width := by
  induction width generalizing value with
  | zero => rfl
  | succ width ih => simp [leBytes, ih]

theorem leBytes_inj {width a b : Nat} (aFits : a < 256 ^ width) (bFits : b < 256 ^ width)
    (same : leBytes width a = leBytes width b) : a = b := by
  induction width generalizing a b with
  | zero => simp at aFits bFits; omega
  | succ width ih =>
    obtain ⟨low, high⟩ := List.cons.inj same
    have lowSame : a % 256 = b % 256 := by
      simpa using congrArg UInt8.toNat low
    have highSame : a / 256 = b / 256 := by
      refine ih ?_ ?_ high
      · exact Nat.div_lt_of_lt_mul (by rwa [Nat.pow_succ, Nat.mul_comm] at aFits)
      · exact Nat.div_lt_of_lt_mul (by rwa [Nat.pow_succ, Nat.mul_comm] at bFits)
    omega

/-- An encoding whose output can be split off the front of any longer string. -/
def PrefixFree (encode : α → List UInt8) : Prop :=
  ∀ ⦃a b : α⦄ ⦃s t : List UInt8⦄, encode a ++ s = encode b ++ t → a = b ∧ s = t

theorem PrefixFree.injective (free : PrefixFree encode) : Function.Injective encode := by
  intro a b same
  exact (free (s := []) (t := []) (by rw [same])).1

/-- Two self-delimiting fields in sequence are self-delimiting. -/
theorem PrefixFree.append {first : α → List UInt8} {second : β → List UInt8}
    (firstFree : PrefixFree first) (secondFree : PrefixFree second) :
    PrefixFree fun pair : α × β => first pair.1 ++ second pair.2 := by
  intro a b s t same
  simp only [List.append_assoc] at same
  obtain ⟨left, rest⟩ := firstFree same
  obtain ⟨right, tail⟩ := secondFree rest
  exact ⟨Prod.ext left right, tail⟩

/-- A byte string behind its length as eight little-endian bytes. -/
def framed (bytes : List UInt8) : List UInt8 := leBytes 8 bytes.length ++ bytes

/-- Length prefixes separate all byte strings whose length fits the prefix. -/
theorem framed_inj {a b s t : List UInt8} (aFits : a.length < 2 ^ 64) (bFits : b.length < 2 ^ 64)
    (same : framed a ++ s = framed b ++ t) : a = b ∧ s = t := by
  simp only [framed, List.append_assoc] at same
  obtain ⟨lengths, rest⟩ := List.append_inj same (by simp)
  have equal : a.length = b.length := leBytes_inj (by omega) (by omega) lengths
  exact List.append_inj rest equal

/-- Items of a self-delimiting encoding, the same number on both sides. -/
theorem PrefixFree.flatMap_inj {encode : α → List UInt8} (free : PrefixFree encode)
    {as bs : List α} {s t : List UInt8} (lengths : as.length = bs.length)
    (same : as.flatMap encode ++ s = bs.flatMap encode ++ t) : as = bs ∧ s = t := by
  induction as generalizing bs with
  | nil =>
    have empty : bs = [] := List.length_eq_zero_iff.mp lengths.symm
    subst bs
    exact ⟨rfl, same⟩
  | cons a as ih =>
    cases bs with
    | nil => cases lengths
    | cons b bs =>
      simp only [List.flatMap_cons, List.append_assoc] at same
      obtain ⟨head, rest⟩ := free same
      obtain ⟨tail, ends⟩ := ih (Nat.succ.inj lengths) rest
      exact ⟨by rw [head, tail], ends⟩

/-- A list of items behind its length as eight little-endian bytes. -/
def counted (encode : α → List UInt8) (items : List α) : List UInt8 :=
  leBytes 8 items.length ++ items.flatMap encode

/-- Items of a self-delimiting encoding, to the end of the string. -/
theorem PrefixFree.flatMap_injective {encode : α → List UInt8} (free : PrefixFree encode)
    (nonempty : ∀ a, encode a ≠ []) : Function.Injective (List.flatMap encode) := by
  intro as
  induction as with
  | nil =>
    intro bs same
    cases bs with
    | nil => rfl
    | cons b bs =>
      simp only [List.flatMap_nil, List.flatMap_cons] at same
      exact absurd (List.append_eq_nil_iff.mp same.symm).1 (nonempty b)
  | cons a as ih =>
    intro bs same
    cases bs with
    | nil =>
      simp only [List.flatMap_nil, List.flatMap_cons] at same
      exact absurd (List.append_eq_nil_iff.mp same).1 (nonempty a)
    | cons b bs =>
      simp only [List.flatMap_cons] at same
      obtain ⟨head, rest⟩ := free same
      rw [head, ih rest]

/-- A counted list at the end of a string is read back, whatever its length. -/
theorem counted_injective {encode : α → List UInt8} (free : PrefixFree encode)
    (nonempty : ∀ a, encode a ≠ []) : Function.Injective (counted encode) := by
  intro as bs same
  exact free.flatMap_injective nonempty (List.append_inj same (by simp)).2

/-- Tags none of which begins another are read off the front of any longer string. -/
theorem tag_eq_of_append {encode : α → List UInt8} {tags : List α} {a b : α} {s t : List UInt8}
    (free : ∀ a ∈ tags, ∀ b ∈ tags, encode a <+: encode b → a = b) (aMember : a ∈ tags)
    (bMember : b ∈ tags) (same : encode a ++ s = encode b ++ t) : a = b ∧ s = t := by
  have tags : a = b := by
    rcases List.prefix_or_prefix_of_prefix (List.prefix_append _ s)
      (same ▸ List.prefix_append (encode b) t) with begins | begins
    · exact free a aMember b bMember begins
    · exact (free b bMember a aMember begins).symm
  rw [tags] at same
  exact ⟨tags, List.append_cancel_left same⟩

end Framing
