import Mathlib.Logic.Function.Iterate

/-! Cyclic redundancy checks of any width, bit by bit. The register is linear, so two words that
carry their check differ by one that does, and no burst of errors that is no longer than the
register leaves it empty. -/

namespace Crc

variable {w : Nat}

/-- The bits in which two words differ. -/
def differ (xs ys : List Bool) : List Bool := List.zipWith xor xs ys

abbrev zeros (n : Nat) : List Bool := List.replicate n false

section Words

theorem differ_append {xs xs' ys ys' : List Bool} (length : xs.length = xs'.length) :
    differ (xs ++ ys) (xs' ++ ys') = differ xs xs' ++ differ ys ys' :=
  List.zipWith_append length

@[simp] theorem differ_self (xs : List Bool) : differ xs xs = zeros xs.length := by
  induction xs with
  | nil => rfl
  | cons x xs ih =>
    rw [differ, List.zipWith_cons_cons, Bool.xor_self, List.length_cons, zeros,
      List.replicate_succ]
    exact congrArg (false :: ·) ih

end Words

section Register

variable (poly : BitVec w)

/-- The register after one more bit: with the bit that leaves it, that feeds the polynomial back. -/
def enter (state : BitVec w) (bit : Bool) : BitVec w :=
  if state.msb ^^ bit then (state <<< 1) ^^^ poly else state <<< 1

def feed (state : BitVec w) (bits : List Bool) : BitVec w := bits.foldl (enter poly) state

@[simp] theorem feed_nil (state : BitVec w) : feed poly state [] = state := rfl

@[simp] theorem feed_cons (state : BitVec w) (bit : Bool) (bits : List Bool) :
    feed poly state (bit :: bits) = feed poly (enter poly state bit) bits := rfl

theorem feed_append (state : BitVec w) (front back : List Bool) :
    feed poly state (front ++ back) = feed poly (feed poly state front) back :=
  List.foldl_append

theorem enter_xor (a b : BitVec w) (x y : Bool) :
    enter poly (a ^^^ b) (x ^^ y) = enter poly a x ^^^ enter poly b y := by
  have top : ((a ^^^ b).msb ^^ (x ^^ y)) = ((a.msb ^^ x) ^^ (b.msb ^^ y)) := by
    rw [BitVec.msb_xor]
    cases a.msb <;> cases b.msb <;> cases x <;> cases y <;> rfl
  have moved : (a ^^^ b) <<< 1 = a <<< 1 ^^^ b <<< 1 := BitVec.shiftLeft_xor_distrib a b 1
  have twice : poly ^^^ poly = 0#w := BitVec.xor_self
  unfold enter
  rw [top, moved]
  cases a.msb ^^ x <;> cases b.msb ^^ y
  · rfl
  · exact BitVec.xor_assoc ..
  · simp only [Bool.xor_false, if_true, Bool.false_eq_true, if_false]
    ac_rfl
  · simp only [Bool.xor_self, Bool.false_eq_true, if_true, if_false]
    calc a <<< 1 ^^^ b <<< 1 = a <<< 1 ^^^ b <<< 1 ^^^ (poly ^^^ poly) := by
          rw [twice, BitVec.xor_zero]
      _ = a <<< 1 ^^^ poly ^^^ (b <<< 1 ^^^ poly) := by ac_rfl

theorem feed_xor {xs ys : List Bool} (length : xs.length = ys.length) (a b : BitVec w) :
    feed poly (a ^^^ b) (differ xs ys) = feed poly a xs ^^^ feed poly b ys := by
  induction xs generalizing ys a b with
  | nil =>
    cases ys with
    | nil => rfl
    | cons => cases length
  | cons x xs ih =>
    cases ys with
    | nil => cases length
    | cons y ys =>
      calc feed poly (a ^^^ b) (differ (x :: xs) (y :: ys))
          = feed poly (enter poly (a ^^^ b) (x ^^ y)) (differ xs ys) := rfl
        _ = feed poly (enter poly a x ^^^ enter poly b y) (differ xs ys) := by rw [enter_xor]
        _ = feed poly a (x :: xs) ^^^ feed poly b (y :: ys) := ih (Nat.succ.inj length) _ _

theorem feed_zeros (n : Nat) : feed poly 0#w (zeros n) = 0#w := by
  induction n with
  | zero => rfl
  | succ n ih =>
    rw [zeros, List.replicate_succ, feed_cons]
    have still : enter poly 0#w false = 0#w := by simp [enter]
    rw [still, ih]

/-- The first bits of a word, from the top. -/
def tops : Nat → BitVec w → List Bool
  | 0, _ => []
  | n + 1, input => input.msb :: tops n (input <<< 1)

/-- A word that is added to the register at once enters it bit by bit. -/
theorem iterate_xor (n : Nat) (state input : BitVec w) :
    (fun register => enter poly register false)^[n] (state ^^^ input) =
      feed poly state (tops n input) ^^^ input <<< n := by
  induction n generalizing state input with
  | zero => simp [tops]
  | succ n ih =>
    have first : enter poly (state ^^^ input) false = enter poly state input.msb ^^^ input <<< 1 := by
      have split := enter_xor poly state input input.msb input.msb
      have own : enter poly input input.msb = input <<< 1 := by simp [enter]
      rw [Bool.xor_self, own] at split
      exact split
    rw [Function.iterate_succ_apply, first, ih, tops, feed_cons, ← BitVec.shiftLeft_add,
      Nat.add_comm 1 n]

variable {poly}

/-- A bit of the register moves up by one, or the feedback sets the lowest. -/
theorem enter_live (odd : poly.getLsbD 0 = true) {state : BitVec w} (bit : Bool) {i : Nat}
    (set : state.getLsbD i = true) (below : i + 1 < w) :
    ∃ j ≤ i + 1, (enter poly state bit).getLsbD j = true := by
  unfold enter
  split
  · refine ⟨0, Nat.zero_le _, ?_⟩
    simp [odd]
  · refine ⟨i + 1, Nat.le_refl _, ?_⟩
    simp [set, below]

theorem feed_live (odd : poly.getLsbD 0 = true) {state : BitVec w} {bits : List Bool} {i : Nat}
    (set : state.getLsbD i = true) (below : i + bits.length < w) : feed poly state bits ≠ 0#w := by
  induction bits generalizing state i with
  | nil =>
    intro empty
    rw [feed_nil] at empty
    simp [empty] at set
  | cons bit bits ih =>
    rw [List.length_cons] at below
    obtain ⟨j, low, moved⟩ := enter_live odd bit set (by omega)
    exact ih moved (by omega)

/-- No burst that is no longer than the register leaves it empty. -/
theorem burst (odd : poly.getLsbD 0 = true) {bits : List Bool} (short : bits.length ≤ w)
    (wrong : true ∈ bits) : feed poly 0#w bits ≠ 0#w := by
  induction bits with
  | nil => cases wrong
  | cons bit bits ih =>
    rw [List.length_cons] at short
    cases bit with
    | false =>
      have still : enter poly 0#w false = 0#w := by simp [enter]
      rw [feed_cons, still]
      apply ih (by omega)
      simpa using wrong
    | true =>
      have entered : enter poly 0#w true = poly := by simp [enter]
      rw [feed_cons, entered]
      apply feed_live odd odd
      omega

/-- A register that is not empty is not emptied by zeros. -/
theorem feed_zeros_ne (odd : poly.getLsbD 0 = true) {state : BitVec w} {n : Nat}
    (live : state ≠ 0#w) : feed poly state (zeros n) ≠ 0#w := by
  induction n generalizing state with
  | zero => exact live
  | succ n ih =>
    rw [zeros, List.replicate_succ, feed_cons]
    apply ih
    intro empty
    have lost : ∀ j, (enter poly state false).getLsbD j = false := by simp [empty]
    cases top : state.msb with
    | true =>
      have low := lost 0
      simp [enter, top, odd] at low
    | false =>
      apply live
      apply BitVec.eq_of_getLsbD_eq
      intro i inside
      rw [BitVec.getLsbD_zero]
      by_contra set
      rw [Bool.not_eq_false] at set
      have below : i + 1 < w := by
        by_contra last
        have place : i = w - 1 := by omega
        rw [BitVec.msb_eq_getLsbD_last, ← place, set] at top
        cases top
      obtain ⟨j, -, moved⟩ := enter_live odd false set below
      rw [lost j] at moved
      cases moved

end Register

section Words

variable {poly : BitVec w} {tail : BitVec w → List Bool} {n a b : Nat} {word word' wrong : List Bool}

/-- A word that ends with the check of its message, as it is written. -/
def Codeword (poly : BitVec w) (tail : BitVec w → List Bool) (n : Nat) (word : List Bool) : Prop :=
  ∃ message, message.length = n ∧ word = message ++ tail (feed poly 0#w message)

/-- A check is written by all its bits, in some order. -/
structure Written (tail : BitVec w → List Bool) : Prop where
  length : ∀ check, (tail check).length = w
  xor : ∀ check check', tail (check ^^^ check') = differ (tail check) (tail check')
  empty : ∀ check, true ∉ tail check → check = 0#w

theorem Written.zero (written : Written tail) : tail 0#w = zeros w := by
  have doubled := written.xor 0#w 0#w
  rw [BitVec.xor_self, differ_self, written.length] at doubled
  exact doubled

/-- Two codewords differ by a codeword. -/
theorem Codeword.differ (written : Written tail) (first : Codeword poly tail n word)
    (second : Codeword poly tail n word') : Codeword poly tail n (differ word word') := by
  obtain ⟨message, length, rfl⟩ := first
  obtain ⟨message', length', rfl⟩ := second
  have same : message.length = message'.length := length.trans length'.symm
  refine ⟨Crc.differ message message', ?_, ?_⟩
  · rw [Crc.differ, List.length_zipWith, ← same, Nat.min_self, length]
  · rw [differ_append same, ← written.xor, ← feed_xor poly same, BitVec.xor_self]

theorem Codeword.check (codeword : Codeword poly tail n word) :
    tail (feed poly 0#w (word.take n)) = word.drop n := by
  obtain ⟨message, rfl, rfl⟩ := codeword
  rw [List.take_left, List.drop_left]

/-- Where the check begins inside the burst, the bits before it are checked by those after it. -/
theorem Codeword.across (codeword : Codeword poly tail n (zeros a ++ wrong ++ zeros b))
    (starts : a ≤ n) (ends : n ≤ a + wrong.length) :
    tail (feed poly 0#w (wrong.take (n - a))) = wrong.drop (n - a) ++ zeros b := by
  have checked := codeword.check
  have behind : n - (zeros a ++ wrong).length = 0 := by
    rw [List.length_append, List.length_replicate]
    omega
  rw [List.take_append, List.drop_append, behind, List.take_zero, List.append_nil, List.drop_zero,
    List.take_append, List.drop_append, List.length_replicate, List.take_of_length_le (by simpa),
    List.drop_of_length_le (by simpa), List.nil_append, feed_append, feed_zeros] at checked
  exact checked

/-- No codeword is a short burst of its message. -/
theorem Codeword.no_burst (written : Written tail) (odd : poly.getLsbD 0 = true)
    (codeword : Codeword poly tail n (zeros a ++ wrong ++ zeros b)) (short : wrong.length ≤ w)
    (inside : a + wrong.length ≤ n) : true ∉ wrong := by
  intro live
  have checked := codeword.check
  have covered : (zeros a ++ wrong).length ≤ n := by simpa using inside
  rw [List.take_append, List.drop_append, List.take_of_length_le covered,
    List.drop_of_length_le covered, List.nil_append, zeros, List.take_replicate,
    List.drop_replicate, feed_append, feed_append, feed_zeros] at checked
  apply feed_zeros_ne odd (burst odd short live)
  apply written.empty
  rw [checked, List.mem_replicate]
  exact fun ⟨_, bit⟩ => nomatch bit

/-- No codeword is wrong in its check alone. -/
theorem Codeword.no_burst_behind (written : Written tail)
    (codeword : Codeword poly tail n (zeros a ++ wrong ++ zeros b)) (behind : n ≤ a) :
    true ∉ wrong := by
  have checked := codeword.check
  intro live
  rw [List.append_assoc, List.take_append_of_le_length (by simpa), zeros, List.take_replicate,
    feed_zeros, written.zero, List.drop_append_of_le_length (by simpa)] at checked
  have member : true ∈ zeros w := by
    rw [checked]
    exact List.mem_append_right _ (List.mem_append_left _ live)
  exact nomatch (List.mem_replicate.mp member).2

end Words

end Crc
