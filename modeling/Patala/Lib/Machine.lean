import Mathlib.Data.Vector.Basic
import Mathlib.Order.Basic

/-! Fixed-width integers and byte arrays as a systems language uses them: checked,
saturating and wrapping operations, each with the exact value it computes. -/

namespace Machine

/-- A byte array of fixed length, `[u8; n]`. -/
abbrev Bytes (n : Nat) := List.Vector UInt8 n

/-- The conversion of a slice to an array, which fails on any other length. -/
def toArray? (n : Nat) (bytes : List UInt8) : Option (Bytes n) :=
  if fits : bytes.length = n then some ⟨bytes, fits⟩ else none

theorem toArray?_eq_some {array : Bytes n} :
    toArray? n bytes = some array ↔ bytes = array.toList := by
  unfold toArray?
  split
  · rename_i fits
    constructor
    · intro same
      have same := Option.some.inj same
      subst array
      rfl
    · intro same
      subst bytes
      rfl
  · rename_i differs
    constructor
    · intro impossible
      cases impossible
    · intro same
      subst bytes
      exact absurd array.toList_length differs

@[simp] theorem toArray?_toList (array : Bytes n) : toArray? n array.toList = some array :=
  toArray?_eq_some.mpr rfl

/-- `i64::checked_add`. -/
def checkedAdd (a b : Int64) : Option Int64 :=
  let sum := Int64.ofInt (a.toInt + b.toInt)
  if sum.toInt = a.toInt + b.toInt then some sum else none

theorem checkedAdd_eq_some {a b c : Int64} :
    checkedAdd a b = some c ↔ c.toInt = a.toInt + b.toInt := by
  unfold checkedAdd
  constructor
  · intro success
    dsimp only at success
    split at success
    · rename_i agrees
      have same := Option.some.inj success
      subst c
      exact agrees
    · cases success
  · intro agrees
    have same : Int64.ofInt (a.toInt + b.toInt) = c := by
      rw [← agrees]
      exact Int64.ofInt_toInt c
    simp [same, agrees]

/-- `u32::checked_mul`. -/
def checkedMul (a b : UInt32) : Option UInt32 :=
  let product := UInt32.ofNat (a.toNat * b.toNat)
  if product.toNat = a.toNat * b.toNat then some product else none

theorem checkedMul_eq_some {a b c : UInt32} :
    checkedMul a b = some c ↔ c.toNat = a.toNat * b.toNat := by
  unfold checkedMul
  constructor
  · intro success
    dsimp only at success
    split at success
    · rename_i agrees
      have same := Option.some.inj success
      subst c
      exact agrees
    · cases success
  · intro agrees
    have same : UInt32.ofNat (a.toNat * b.toNat) = c := by
      rw [← agrees]
      exact UInt32.ofNat_toNat
    simp [same, agrees]

/-- `u32::try_from` on a `usize`. -/
def tryUInt32 (count : Nat) : Option UInt32 :=
  if count < 2 ^ 32 then some (UInt32.ofNat count) else none

theorem tryUInt32_eq_some {value : UInt32} : tryUInt32 count = some value ↔ value.toNat = count := by
  unfold tryUInt32
  constructor
  · intro success
    split at success
    · rename_i small
      have same := Option.some.inj success
      subst value
      exact UInt32.toNat_ofNat_of_lt' small
    · cases success
  · intro same
    subst count
    simp [value.toNat_lt]

/-- `i64::try_from` on a `u64`. -/
def tryInt64 (value : UInt64) : Option Int64 :=
  if value.toNat < 2 ^ 63 then some (Int64.ofInt value.toNat) else none

theorem tryInt64_eq_some {value : UInt64} {signed : Int64} :
    tryInt64 value = some signed ↔ signed.toInt = value.toNat := by
  unfold tryInt64
  constructor
  · intro success
    split at success
    · rename_i small
      have same := Option.some.inj success
      subst signed
      exact Int64.toInt_ofInt_of_le (by omega) (by omega)
    · cases success
  · intro same
    have upper := signed.toInt_lt
    have small : value.toNat < 2 ^ 63 := by omega
    simp only [small, ↓reduceIte, Option.some.injEq]
    rw [← same]
    exact Int64.ofInt_toInt signed

/-- A cast `as i64` is the identity modulo the word size. -/
theorem toInt_toInt64 (value : UInt64) :
    value.toInt64.toInt = (value.toNat : Int).bmod (2 ^ 64) := by
  rw [← Int64.toInt_toBitVec, BitVec.toInt_eq_toNat_bmod]
  rfl

/-- A cast that yields a positive number has not wrapped. -/
theorem toNat_of_toInt64_pos {value : UInt64} {signed : Int64} (cast : signed = value.toInt64)
    (positive : 0 < signed.toInt) : (value.toNat : Int) = signed.toInt := by
  have bounded := value.toNat_lt
  rw [cast, toInt_toInt64, Int.bmod_def] at positive ⊢
  split at positive
  · split <;> omega
  · omega

/-- A cast of a number that fits does not wrap. -/
theorem toInt_toInt64_of_lt {value : UInt64} (small : value.toNat < 2 ^ 63) :
    value.toInt64.toInt = value.toNat := by
  rw [toInt_toInt64, Int.bmod_def]
  split <;> omega

/-- A conversion that succeeds agrees with the cast. -/
theorem tryInt64_eq_toInt64 {value : UInt64} {signed : Int64}
    (converted : tryInt64 value = some signed) : signed = value.toInt64 := by
  have exactly := tryInt64_eq_some.mp converted
  have upper := signed.toInt_lt
  apply Int64.toInt_inj.mp
  rw [toInt_toInt64_of_lt (by omega), exactly]

/-- The predecessor of a number that has one. -/
theorem toInt_sub_one {value : Int64} (above : -2 ^ 63 < value.toInt) :
    (value - 1).toInt = value.toInt - 1 := by
  have upper := value.toInt_lt
  rw [Int64.toInt_sub]
  exact Int.bmod_eq_of_le (by simp; omega) (by simp; omega)

/-- `u64::saturating_add`. -/
def saturatingAdd64 (a b : UInt64) : UInt64 := UInt64.ofNat (min (a.toNat + b.toNat) (2 ^ 64 - 1))

theorem toNat_saturatingAdd64 (a b : UInt64) :
    (saturatingAdd64 a b).toNat = min (a.toNat + b.toNat) (2 ^ 64 - 1) :=
  UInt64.toNat_ofNat_of_lt' (by rw [UInt64.size]; omega)

/-- `u32::saturating_add`. -/
def saturatingAdd32 (a b : UInt32) : UInt32 := UInt32.ofNat (min (a.toNat + b.toNat) (2 ^ 32 - 1))

theorem toNat_saturatingAdd32 (a b : UInt32) :
    (saturatingAdd32 a b).toNat = min (a.toNat + b.toNat) (2 ^ 32 - 1) :=
  UInt32.toNat_ofNat_of_lt' (by rw [UInt32.size]; omega)

/-- `i128` arithmetic without overflow checks keeps the low 128 bits. -/
def wrap128 (value : Int) : Int := value.bmod (2 ^ 128)

def add128 (a b : Int) : Int := wrap128 (a + b)

def mul128 (a b : Int) : Int := wrap128 (a * b)

@[simp] theorem wrap128_zero : wrap128 0 = 0 := rfl

theorem add128_wrap128 (a b : Int) : add128 (wrap128 a) (wrap128 b) = wrap128 (a + b) := by
  simp [add128, wrap128]

theorem wrap128_of_fits (lower : -2 ^ 127 ≤ value) (upper : value < 2 ^ 127) :
    wrap128 value = value :=
  Int.bmod_eq_of_le (by omega) (by omega)

end Machine
