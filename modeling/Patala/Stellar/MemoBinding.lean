import Patala.Stellar.Instance

/-! What a memo hash binds. A transaction of the rail carries one of four bindings; their
preimages keep the kind of the binding and every argument apart. -/

namespace Patala.Stellar

open Machine Framing

/-- What a memo can bind: a payment, a split, one instalment of a plan, or its cancellation. -/
inductive MemoBinding where
  | pay (rail source destination reference : Str)
  | split (rail source reference : Str) (legs : List (Str × Int64))
  | recurring (rail source destination reference : Str) (baseSeq : Int64)
      (index count : UInt32)
  | cancel (rail source reference : Str) (baseSeq : Int64)
deriving DecidableEq

namespace MemoBinding

/-- The string that a binding's kind hashes first. -/
def domain : MemoBinding → String
  | pay .. => "patala-stellar-pay-v1"
  | split .. => "patala-stellar-split-v1"
  | recurring .. => "patala-stellar-recurring-v1"
  | cancel .. => "patala-stellar-recurring-cancel-v1"

/-- What a binding hashes: its domain, then its arguments. -/
def preimage : MemoBinding → List UInt8
  | pay rail source destination reference => payPreimage rail source destination reference
  | split rail source reference legs => splitPreimage rail source reference legs
  | recurring rail source destination reference baseSeq index count =>
    recurringPreimage rail source destination reference baseSeq index count
  | cancel rail source reference baseSeq => cancelPreimage rail source reference baseSeq

/-- The memo hash of a binding, by the function of its kind. -/
def hash (crates : Crates) : MemoBinding → Bytes 32
  | pay rail source destination reference => memoHash crates rail source destination reference
  | split rail source reference legs => splitMemoHash crates rail source reference legs
  | recurring rail source destination reference baseSeq index count =>
    recurringMemoHash crates rail source destination reference baseSeq index count
  | cancel rail source reference baseSeq => cancelMemoHash crates rail source reference baseSeq

theorem hash_eq (crates : Crates) (binding : MemoBinding) :
    binding.hash crates = crates.sha256 binding.preimage := by
  cases binding <;> rfl

section Fields

theorem i64Bytes_injective : Function.Injective i64Bytes := by
  intro a b same
  have aFits : a.toUInt64.toNat < 256 ^ 8 := a.toUInt64.toNat_lt
  have bFits : b.toUInt64.toNat < 256 ^ 8 := b.toUInt64.toNat_lt
  have words := leBytes_inj aFits bFits same
  exact congrArg Int64.ofUInt64 (UInt64.toNat_inj.mp words)

theorem u32Bytes_injective : Function.Injective u32Bytes := by
  intro a b same
  have aFits : a.toNat < 256 ^ 4 := a.toNat_lt
  have bFits : b.toNat < 256 ^ 4 := b.toNat_lt
  exact UInt32.toNat_inj.mp (leBytes_inj aFits bFits same)

@[simp] theorem length_i64Bytes (value : Int64) : (i64Bytes value).length = 8 :=
  length_leBytes 8 _

@[simp] theorem length_u32Bytes (value : UInt32) : (u32Bytes value).length = 4 :=
  length_leBytes 4 _

theorem i64Bytes_prefixFree : PrefixFree i64Bytes := by
  intro a b s t same
  obtain ⟨words, rest⟩ := List.append_inj same (by simp)
  exact ⟨i64Bytes_injective words, rest⟩

theorem legBytes_prefixFree : PrefixFree legBytes :=
  Str.framed_prefixFree.append i64Bytes_prefixFree

theorem legBytes_ne_nil (leg : Str × Int64) : legBytes leg ≠ [] := by
  apply List.ne_nil_of_length_pos
  rw [legBytes, List.length_append, length_i64Bytes]
  omega

end Fields

section Domains

def domains : List String :=
  ["patala-stellar-pay-v1", "patala-stellar-split-v1", "patala-stellar-recurring-v1",
    "patala-stellar-recurring-cancel-v1"]

/-- No domain begins another. -/
theorem domains_prefixFree : ∀ first ∈ domains, ∀ second ∈ domains,
    asBytes first <+: asBytes second → first = second := by
  have table : (domains.all fun first => domains.all fun second =>
      decide (asBytes first <+: asBytes second → first = second)) = true := by decide
  intro first member second
  exact Codec.forall_mem_of_all (List.all_eq_true.mp table first member) second

theorem domain_mem (binding : MemoBinding) : binding.domain ∈ domains := by
  cases binding <;> simp [domain, domains]

end Domains

section Arguments

/-- What a binding hashes behind its domain. -/
def arguments : MemoBinding → List UInt8
  | pay rail source destination reference =>
    [rail, source, destination, reference].flatMap Str.framed
  | split rail source reference legs =>
    [rail, source, reference].flatMap Str.framed ++ counted legBytes legs
  | recurring rail source destination reference baseSeq index count =>
    [rail, source, destination, reference].flatMap Str.framed ++
      (i64Bytes baseSeq ++ (u32Bytes index ++ u32Bytes count))
  | cancel rail source reference baseSeq =>
    [rail, source, reference].flatMap Str.framed ++ i64Bytes baseSeq

theorem preimage_eq (binding : MemoBinding) :
    binding.preimage = asBytes binding.domain ++ binding.arguments := by
  cases binding with
  | pay rail source destination reference => rfl
  | split rail source reference legs => exact List.append_assoc ..
  | recurring rail source destination reference baseSeq index count =>
    simp only [preimage, recurringPreimage, domain, arguments, List.append_assoc]
  | cancel rail source reference baseSeq => exact List.append_assoc ..

theorem threeFields_inj {a b c a' b' c' : Str} {s t : List UInt8}
    (same : [a, b, c].flatMap Str.framed ++ s = [a', b', c'].flatMap Str.framed ++ t) :
    a = a' ∧ b = b' ∧ c = c' ∧ s = t := by
  have lengths : [a, b, c].length = [a', b', c'].length := rfl
  obtain ⟨fields, rest⟩ := Str.framed_prefixFree.flatMap_inj lengths same
  simpa [and_assoc, rest] using fields

theorem fourFields_inj {a b c d a' b' c' d' : Str} {s t : List UInt8}
    (same : [a, b, c, d].flatMap Str.framed ++ s = [a', b', c', d'].flatMap Str.framed ++ t) :
    a = a' ∧ b = b' ∧ c = c' ∧ d = d' ∧ s = t := by
  have lengths : [a, b, c, d].length = [a', b', c', d'].length := rfl
  obtain ⟨fields, rest⟩ := Str.framed_prefixFree.flatMap_inj lengths same
  simpa [and_assoc, rest] using fields

/-- Bindings of one kind with equal arguments are equal. -/
theorem arguments_inj {first second : MemoBinding} (kind : first.domain = second.domain)
    (same : first.arguments = second.arguments) : first = second := by
  cases first with
  | pay rail source destination reference =>
    cases second with
    | pay rail' source' destination' reference' =>
      have ended : [rail, source, destination, reference].flatMap Str.framed ++ [] =
          [rail', source', destination', reference'].flatMap Str.framed ++ [] := by
        rw [List.append_nil, List.append_nil]
        exact same
      obtain ⟨rfl, rfl, rfl, rfl, -⟩ := fourFields_inj ended
      rfl
    | _ => simp [domain] at kind
  | split rail source reference legs =>
    cases second with
    | split rail' source' reference' legs' =>
      obtain ⟨rfl, rfl, rfl, rest⟩ := threeFields_inj same
      rw [counted_injective legBytes_prefixFree legBytes_ne_nil rest]
    | _ => simp [domain] at kind
  | recurring rail source destination reference baseSeq index count =>
    cases second with
    | recurring rail' source' destination' reference' baseSeq' index' count' =>
      obtain ⟨rfl, rfl, rfl, rfl, rest⟩ := fourFields_inj same
      obtain ⟨sequence, numbers⟩ := List.append_inj rest (by simp)
      obtain ⟨indices, counts⟩ := List.append_inj numbers (by simp)
      rw [i64Bytes_injective sequence, u32Bytes_injective indices, u32Bytes_injective counts]
    | _ => simp [domain] at kind
  | cancel rail source reference baseSeq =>
    cases second with
    | cancel rail' source' reference' baseSeq' =>
      obtain ⟨rfl, rfl, rfl, rest⟩ := threeFields_inj same
      rw [i64Bytes_injective rest]
    | _ => simp [domain] at kind

end Arguments

theorem preimage_injective : Function.Injective preimage := by
  intro first second same
  rw [preimage_eq, preimage_eq] at same
  obtain ⟨kind, arguments⟩ :=
    tag_eq_of_append domains_prefixFree first.domain_mem second.domain_mem same
  exact arguments_inj kind arguments

/-- What the four memo hashes are taken of determines the function and all its arguments; so
among bindings on whose preimages SHA-256 does not collide, equal hashes are one binding. -/
theorem memo_hashes_unambiguous :
    Function.Injective preimage ∧
      ∀ (crates : Crates) (bindings : Set MemoBinding),
        Set.InjOn crates.sha256 (preimage '' bindings) → Set.InjOn (hash crates) bindings := by
  refine ⟨preimage_injective, ?_⟩
  intro crates bindings collisionFree first member second member' same
  rw [hash_eq, hash_eq] at same
  exact preimage_injective
    (collisionFree (Set.mem_image_of_mem _ member) (Set.mem_image_of_mem _ member') same)

/-- A payment, a split and an instalment for one invoice, and the plan's cancellation. -/
def invoiceBindings : List MemoBinding :=
  [pay railId Instance.walletStr Instance.shopStr Instance.invoice7,
    split railId Instance.walletStr Instance.invoice7 Instance.splitLegs,
    recurring railId Instance.walletStr Instance.shopStr Instance.invoice7 100 1 3,
    cancel railId Instance.walletStr Instance.invoice7 100]

theorem invoice_hashes_unambiguous :
    Set.InjOn (hash Instance.crates) { binding | binding ∈ invoiceBindings } := by
  apply memo_hashes_unambiguous.2
  have hashes : (invoiceBindings.map fun binding =>
      Instance.crates.sha256 binding.preimage).Nodup := by decide +kernel
  rintro _ ⟨first, member, rfl⟩ _ ⟨second, member', rfl⟩ same
  rw [List.inj_on_of_nodup_map hashes member member' same]

end MemoBinding

end Patala.Stellar
