import Mathlib.Data.Vector.Basic

/-! Decoders in steps: a reader takes a value off the front of a byte string and leaves the
rest. What a reader takes off any longer string is a law that composes along its steps. -/

namespace Reading

/-- A step of a decoder. -/
abbrev Reader (α : Type) := StateT (List UInt8) Option α

def byte : Reader UInt8 := fun bytes =>
  match bytes with
  | [] => none
  | head :: rest => some (head, rest)

/-- A byte array of fixed length. -/
def array (n : Nat) : Reader (List.Vector UInt8 n) := fun bytes =>
  if fits : (bytes.take n).length = n then some (⟨bytes.take n, fits⟩, bytes.drop n) else none

/-- As many items as counted. -/
def many (reader : Reader α) : Nat → Reader (List α)
  | 0 => pure []
  | count + 1 => do
    let item ← reader
    let items ← many reader count
    return item :: items

/-- A number of sixteen bits in one to three bytes: seven bits a byte, low bits first, the
high bit of a byte saying that another follows. A last byte of zero is no shortest form. -/
def shortU16 : Reader Nat := do
  let low ← byte
  if low.toNat < 128 then return low.toNat
  else
    let middle ← byte
    if middle.toNat = 0 then failure
    else if middle.toNat < 128 then return low.toNat % 128 + middle.toNat * 128
    else
      let high ← byte
      if high.toNat = 0 ∨ 3 < high.toNat then failure
      else return low.toNat % 128 + middle.toNat % 128 * 128 + high.toNat * 16384

/-- The value of a reader that leaves nothing. -/
def whole (reader : Reader α) (bytes : List UInt8) : Option α :=
  match reader.run bytes with
  | some (value, []) => some value
  | _ => none

/-- A reader takes these bytes off any longer string, as this value. -/
def Reads (reader : Reader α) (bytes : List UInt8) (value : α) : Prop :=
  ∀ rest, reader.run (bytes ++ rest) = some (value, rest)

theorem reads_pure (value : α) : Reads (pure value : Reader α) [] value := fun _ => rfl

theorem reads_byte (value : UInt8) : Reads byte [value] value := fun _ => rfl

theorem reads_array (value : List.Vector UInt8 n) : Reads (array n) value.toList value := by
  intro rest
  have taken : (value.toList ++ rest).take n = value.toList :=
    List.take_left' value.toList_length
  have dropped : (value.toList ++ rest).drop n = rest := List.drop_left' value.toList_length
  have fits : ((value.toList ++ rest).take n).length = n := by rw [taken, value.toList_length]
  show (if fits : ((value.toList ++ rest).take n).length = n then _ else none) = _
  rw [dif_pos fits, dropped]
  have same : (⟨(value.toList ++ rest).take n, fits⟩ : List.Vector UInt8 n) = value :=
    Subtype.ext taken
  rw [same]

/-- What two steps read stands one behind the other. -/
theorem Reads.bind {reader : Reader α} {next : α → Reader β} {bytes more : List UInt8}
    {value : α} {result : β} (first : Reads reader bytes value)
    (second : Reads (next value) more result) : Reads (reader >>= next) (bytes ++ more) result := by
  intro rest
  rw [StateT.run_bind, List.append_assoc, first (more ++ rest)]
  exact second rest

/-- A last step that reads nothing. -/
theorem Reads.map {reader : Reader α} {bytes : List UInt8} {value : α} (read : Reads reader bytes value)
    (f : α → β) : Reads (reader >>= fun value => pure (f value)) bytes (f value) := by
  have both : Reads (reader >>= fun value => pure (f value)) (bytes ++ []) (f value) :=
    read.bind (reads_pure (f value))
  rwa [List.append_nil] at both

/-- Items written one behind the other are read back in order. -/
theorem reads_many {reader : Reader α} {write : β → List UInt8} {value : β → α} {items : List β}
    (each : ∀ item ∈ items, Reads reader (write item) (value item)) :
    Reads (many reader items.length) (items.flatMap write) (items.map value) := by
  induction items with
  | nil => exact reads_pure []
  | cons item rest ih =>
    obtain ⟨here, later⟩ := List.forall_mem_cons.mp each
    exact here.bind ((ih later).map (value item :: ·))

theorem whole_of_reads {reader : Reader α} {bytes : List UInt8} {value : α}
    (read : Reads reader bytes value) : whole reader bytes = some value := by
  have all := read []
  rw [List.append_nil] at all
  rw [whole, all]

theorem toNat_ofNat {value : Nat} (small : value < 256) : (UInt8.ofNat value).toNat = value :=
  UInt8.toNat_ofNat_of_lt' small

/-- One, two or three bytes spell a number of sixteen bits. -/
theorem reads_shortU16_one {value : Nat} (small : value < 128) :
    Reads shortU16 [UInt8.ofNat value] value := by
  have exactly : (UInt8.ofNat value).toNat = value := toNat_ofNat (by omega)
  refine (reads_byte _).bind ?_
  rw [exactly, if_pos small]
  exact reads_pure value

theorem reads_shortU16_two {value : Nat} (large : 128 ≤ value) (small : value < 16384) :
    Reads shortU16 [UInt8.ofNat (value % 128 + 128), UInt8.ofNat (value / 128)] value := by
  have low : (UInt8.ofNat (value % 128 + 128)).toNat = value % 128 + 128 :=
    toNat_ofNat (by omega)
  have middle : (UInt8.ofNat (value / 128)).toNat = value / 128 :=
    toNat_ofNat (by omega)
  refine (reads_byte _).bind ?_
  rw [low, if_neg (by omega)]
  refine (reads_byte _).bind ?_
  rw [middle, if_neg (by omega), if_pos (by omega)]
  have same : (value % 128 + 128) % 128 + value / 128 * 128 = value := by omega
  rw [same]
  exact reads_pure value

theorem reads_shortU16_three {value : Nat} (large : 16384 ≤ value) (small : value < 65536) :
    Reads shortU16 [UInt8.ofNat (value % 128 + 128), UInt8.ofNat (value / 128 % 128 + 128),
      UInt8.ofNat (value / 128 / 128)] value := by
  have low : (UInt8.ofNat (value % 128 + 128)).toNat = value % 128 + 128 :=
    toNat_ofNat (by omega)
  have middle : (UInt8.ofNat (value / 128 % 128 + 128)).toNat = value / 128 % 128 + 128 :=
    toNat_ofNat (by omega)
  have high : (UInt8.ofNat (value / 128 / 128)).toNat = value / 128 / 128 :=
    toNat_ofNat (by omega)
  refine (reads_byte _).bind ?_
  rw [low, if_neg (by omega)]
  refine (reads_byte _).bind ?_
  rw [middle, if_neg (by omega), if_neg (by omega)]
  refine (reads_byte _).bind ?_
  rw [high, if_neg (by omega)]
  have same : (value % 128 + 128) % 128 + (value / 128 % 128 + 128) % 128 * 128 +
      value / 128 / 128 * 16384 = value := by omega
  rw [same]
  exact reads_pure value

end Reading
