import Patala.Fiat.PayPalAmount
import Patala.Fiat.Stripe

/-! What an amount is worth on the wire: the exponents a processor counts in, against those of
the currency table. -/

namespace Patala.Fiat

theorem lookup_listed {currency : String} {info : CurrencyInfo}
    (listed : lookup currency = .ok info) :
    info ∈ currencyDefs ∧ toAsciiUppercase (trim currency) = info.code := by
  obtain ⟨norm, normalized, found⟩ := Fallible.bind_eq_ok.mp listed
  have same : toAsciiUppercase (trim currency) = norm := by
    simp only [normalizeCode] at normalized
    split at normalized
    · exact Except.ok.inj normalized
    · cases normalized
  cases entry : currencyDefs.find? fun info => info.code = norm with
  | none =>
    rw [entry] at found
    cases found
  | some info' =>
    rw [entry] at found
    cases found
    have code := List.find?_some entry
    exact ⟨List.mem_of_find?_eq_some entry, same.trans (of_decide_eq_true code).symm⟩

/-- So many units of one fraction digit are so many of another only when there are none, or when
they are the same. -/
theorem scaled_eq_iff (amount places exp : Nat) :
    (amount : ℚ) / 10 ^ places = amount / 10 ^ exp ↔ amount = 0 ∨ places = exp := by
  by_cases nothing : amount = 0
  · simp [nothing]
  · have powers : Function.Injective fun n : Nat => (10 : ℚ) ^ n :=
      pow_right_injective₀ (by norm_num) (by norm_num)
    rw [div_eq_mul_inv, div_eq_mul_inv, mul_right_inj' (Nat.cast_ne_zero.mpr nothing), inv_inj,
      powers.eq_iff]
    simp [nothing]

namespace PayPal

/-- What is sent is worth the amount, in whole units where PayPal takes no others. -/
def KeepsValue (amount : UInt64) (currency : String) (exp : Nat) : Prop :=
  ∀ text, paypalAmountValue amount currency = .ok text →
    ∃ number : Decimal.Plain, number.chars = text.toList ∧
      number.value = amount.toNat / 10 ^ exp ∧
      (isZeroDecimal (toAsciiUppercase (trim currency)) → number.fraction = none)

/-- The codes of the table that PayPal's lists scale otherwise than the table does. -/
def misscaled : List String :=
  ["BIF", "CLP", "DJF", "GNF", "ISK", "KMF", "KRW", "PYG", "RWF", "UGX", "VND", "VUV", "XAF",
    "XOF", "XPF", "HUF", "TWD", "IQD", "LYD"]

theorem misscaled_table : ∀ info ∈ currencyDefs,
    info.code ∉ misscaled ↔ isThreeDecimal info.code = true ∨
      (if isZeroDecimal info.code then 0 else 2) = info.exponent := by
  decide +kernel

/-- A currency PayPal takes keeps an amount's value where PayPal counts as the table does. -/
theorem keepsValue_iff_places {currency : String} {exp : Nat}
    (threeDecimal : isThreeDecimal (toAsciiUppercase (trim currency)) = false) (amount : UInt64) :
    KeepsValue amount currency exp ↔ amount = 0 ∨ places currency = exp := by
  have value : (Decimal.canonical (places currency) amount.toNat).value =
      amount.toNat / 10 ^ places currency :=
    eq_div_of_mul_eq (by positivity) (Decimal.canonical_value (places currency) amount.toNat)
  have zero : amount.toNat = 0 ↔ amount = 0 := UInt64.toNat_inj (b := 0)
  rw [← zero, ← scaled_eq_iff, ← value]
  constructor
  · intro keeps
    obtain ⟨number, written, worth, -⟩ := keeps _ (paypalAmountValue_eq threeDecimal amount)
    rw [String.toList_ofList] at written
    rw [← Decimal.Plain.chars_injective written, worth]
  · intro worth text sent
    cases (paypalAmountValue_eq threeDecimal amount).symm.trans sent
    refine ⟨_, String.toList_ofList.symm, worth, fun zeroDecimal => ?_⟩
    have whole : places currency = 0 := if_pos zeroDecimal
    rw [Decimal.canonical_fraction, if_pos whole]

/-- What is sent keeps an amount's value unless the code is one that PayPal's lists scale otherwise
than the table does. -/
theorem paypalAmountValue_keeps_iff {currency : String} {info : CurrencyInfo}
    (listed : lookup currency = .ok info) (amount : UInt64) :
    KeepsValue amount currency info.exponent ↔ amount = 0 ∨ info.code ∉ misscaled := by
  obtain ⟨member, code⟩ := lookup_listed listed
  rw [misscaled_table info member]
  cases threeDecimal : isThreeDecimal info.code with
  | true =>
    refine iff_of_true (fun text sent => ?_) (.inr (.inl rfl))
    rw [paypalAmountValue, code, threeDecimal] at sent
    cases sent
  | false =>
    have wire : places currency = if isZeroDecimal info.code then 0 else 2 := by rw [places, code]
    have taken : isThreeDecimal (toAsciiUppercase (trim currency)) = false := by
      rw [code, threeDecimal]
    rw [keepsValue_iff_places taken, wire]
    simp

theorem paypalAmountValue_keeps_iff_jpy :
    lookup "JPY" = .ok ⟨"JPY", 0⟩ ∧ KeepsValue 500 "JPY" 0 := by
  have listed : lookup "JPY" = .ok ⟨"JPY", 0⟩ := by decide
  have outside : "JPY" ∉ misscaled := by decide
  have kept := paypalAmountValue_keeps_iff listed 500
  exact ⟨listed, kept.mpr (.inr outside)⟩

theorem won_scaled_down : lookup "KRW" = .ok ⟨"KRW", 0⟩ ∧
    paypalAmountValue 100 "KRW" = .ok "1.00" ∧ ¬ KeepsValue 100 "KRW" 0 := by
  have taken : isThreeDecimal (toAsciiUppercase (trim "KRW")) = false := by decide
  have counted : places "KRW" = 2 := by decide
  refine ⟨by decide, by decide, ?_⟩
  rw [keepsValue_iff_places taken, counted]
  decide

end PayPal

namespace Stripe

/-- The codes Stripe documents as counted in whole units. -/
def stripeZeroDecimal : List String :=
  ["BIF", "CLP", "DJF", "GNF", "JPY", "KMF", "KRW", "MGA", "PYG", "RWF", "VND", "VUV", "XAF",
    "XOF", "XPF"]

def stripeExponent (cur : String) : Nat := if contains stripeZeroDecimal cur then 0 else 2

/-- What is sent is worth the amount in Stripe's own units, no amount of three fraction digits is
sent, and the two conversions are inverse to each other. -/
def KeepsValue (amount : UInt64) (currency : String) (exp : Nat) : Prop :=
  (∀ sent, stripeAmount amount currency = .ok sent →
    exp ≠ 3 ∧ (sent.toNat : ℚ) / 10 ^ stripeExponent (toAsciiUppercase (trim currency)) =
      amount.toNat / 10 ^ exp ∧
    stripeAmountToMinor sent currency = .ok amount) ∧
  ∀ sent, stripeAmountToMinor sent currency = .ok amount → stripeAmount amount currency = .ok sent

/-- What the table and Stripe's lists say of each code: of one that is refused, of one with two
zeros put behind its amounts, and of any other. -/
theorem listed_table : ∀ info ∈ currencyDefs,
    (contains stripeThreeDecimal info.code = true →
      info.code ∉ ["IQD", "LYD"] ∧ info.code ≠ "MGA") ∧
    (contains stripeForcedTwoDecimal info.code = true →
      info.exponent = 0 ∧ stripeExponent info.code = 2 ∧ info.code ∉ ["IQD", "LYD"] ∧
        info.code ≠ "MGA") ∧
    (contains stripeThreeDecimal info.code = false →
      contains stripeForcedTwoDecimal info.code = false →
      (info.exponent ≠ 3 ↔ info.code ∉ ["IQD", "LYD"]) ∧
        (stripeExponent info.code = info.exponent ↔
          info.code ∉ ["IQD", "LYD"] ∧ info.code ≠ "MGA")) := by
  intro info member
  refine ⟨?_, ?_, ?_⟩
  · revert info
    decide +kernel
  · revert info
    decide +kernel
  · revert info
    decide +kernel

section Conversion

variable {currency cur : String} (code : toAsciiUppercase (trim currency) = cur)
include code

theorem stripeAmount_refused (refused : contains stripeThreeDecimal cur = true) (amount : UInt64) :
    stripeAmount amount currency = .error (unsupportedCurrency cur) ∧
      stripeAmountToMinor amount currency = .error (unsupportedCurrency cur) := by
  simp only [stripeAmount, stripeAmountToMinor, code, refused]
  exact ⟨rfl, rfl⟩

theorem stripeAmount_passed (taken : contains stripeThreeDecimal cur = false)
    (plain : contains stripeForcedTwoDecimal cur = false) (amount : UInt64) :
    stripeAmount amount currency = .ok amount ∧ stripeAmountToMinor amount currency = .ok amount := by
  simp only [stripeAmount, stripeAmountToMinor, code, taken, plain]
  exact ⟨rfl, rfl⟩

theorem stripeAmount_forced (taken : contains stripeThreeDecimal cur = false)
    (forced : contains stripeForcedTwoDecimal cur = true) (amount sent : UInt64) :
    (stripeAmount amount currency = .ok sent ↔ sent.toNat = amount.toNat * 100) ∧
      (stripeAmountToMinor sent currency = .ok amount ↔ sent.toNat = amount.toNat * 100) := by
  have hundred : (100 : UInt64).toNat = 100 := rfl
  have bound := sent.toNat_lt
  have bound' := amount.toNat_lt
  simp only [stripeAmount, stripeAmountToMinor, code, taken, forced]
  constructor
  · by_cases fits : amount.toNat * 100 < 2 ^ 64
    · rw [if_neg (by simp), if_pos trivial, if_pos fits, Except.ok.injEq, ← UInt64.toNat_inj,
        UInt64.toNat_mul, hundred, Nat.mod_eq_of_lt fits, eq_comm]
    · rw [if_neg (by simp), if_pos trivial, if_neg fits]
      exact iff_of_false (fun same => nomatch same) (by omega)
  · by_cases whole : sent % 100 = 0
    · have remainder : sent.toNat % 100 = 0 := by
        rw [← hundred, ← UInt64.toNat_mod, whole]
        rfl
      rw [if_neg (by simp), if_pos trivial, if_neg (by simpa using whole), Except.ok.injEq,
        ← UInt64.toNat_inj, UInt64.toNat_div, hundred]
      omega
    · rw [if_neg (by simp), if_pos trivial, if_pos whole]
      refine iff_of_false (fun same => nomatch same) fun same => whole ?_
      apply UInt64.toNat_inj.mp
      rw [UInt64.toNat_mod, hundred, same]
      exact Nat.mul_mod_left _ _

end Conversion

/-- What is sent keeps an amount's value, except in the two currencies of three fraction digits
that are not refused and in the one Stripe counts in whole units although the table does not. -/
theorem stripeAmount_keeps_iff {currency : String} {info : CurrencyInfo}
    (listed : lookup currency = .ok info) (amount : UInt64) :
    KeepsValue amount currency info.exponent ↔
      info.code ∉ ["IQD", "LYD"] ∧ (info.code = "MGA" → amount = 0) := by
  obtain ⟨member, code⟩ := lookup_listed listed
  obtain ⟨ofRefused, ofForced, ofOther⟩ := listed_table info member
  unfold KeepsValue
  rw [code]
  cases refused : contains stripeThreeDecimal info.code with
  | true =>
    obtain ⟨unlisted, other⟩ := ofRefused refused
    refine iff_of_true ⟨fun sent read => ?_, fun sent read => ?_⟩ ⟨unlisted, (absurd · other)⟩
    · rw [(stripeAmount_refused code refused amount).1] at read
      cases read
    · rw [(stripeAmount_refused code refused sent).2] at read
      cases read
  | false =>
    cases forced : contains stripeForcedTwoDecimal info.code with
    | true =>
      obtain ⟨exp, counted, unlisted, other⟩ := ofForced forced
      refine iff_of_true ⟨fun sent read => ?_, fun sent read => ?_⟩ ⟨unlisted, (absurd · other)⟩
      · obtain ⟨sends, reads⟩ := stripeAmount_forced code refused forced amount sent
        have hundredfold := sends.mp read
        refine ⟨by rw [exp]; decide, ?_, reads.mpr hundredfold⟩
        rw [exp, counted, hundredfold]
        push_cast
        ring
      · obtain ⟨sends, reads⟩ := stripeAmount_forced code refused forced amount sent
        exact sends.mpr (reads.mp read)
    | false =>
      obtain ⟨exp, counted⟩ := ofOther refused forced
      have passed := stripeAmount_passed code refused forced
      have zero : amount.toNat = 0 ↔ amount = 0 := UInt64.toNat_inj (b := 0)
      constructor
      · intro ⟨keeps, _⟩
        obtain ⟨fractional, worth, -⟩ := keeps amount (passed amount).1
        refine ⟨exp.mp fractional, fun mga => ?_⟩
        rcases (scaled_eq_iff _ _ _).mp worth with nothing | same
        · exact zero.mp nothing
        · exact absurd mga (counted.mp same).2
      · intro ⟨unlisted, mga⟩
        constructor
        · intro sent read
          cases (passed amount).1.symm.trans read
          refine ⟨exp.mpr unlisted, (scaled_eq_iff _ _ _).mpr ?_, (passed amount).2⟩
          by_cases other : info.code = "MGA"
          · exact .inl (zero.mpr (mga other))
          · exact .inr (counted.mpr ⟨unlisted, other⟩)
        · intro sent read
          cases (passed sent).2.symm.trans read
          exact (passed amount).1

theorem stripeAmount_keeps_iff_isk :
    lookup "ISK" = .ok ⟨"ISK", 0⟩ ∧ KeepsValue 5 "ISK" 0 := by
  have listed : lookup "ISK" = .ok ⟨"ISK", 0⟩ := by decide
  have kept := stripeAmount_keeps_iff listed 5
  exact ⟨listed, kept.mpr (by decide)⟩

/-- A dinar of three fraction digits is sent as ten. -/
theorem dinar_not_refused : lookup "IQD" = .ok ⟨"IQD", 3⟩ ∧
    stripeAmount 1000 "IQD" = .ok 1000 ∧ ¬ KeepsValue 1000 "IQD" 3 := by
  have sent : stripeAmount 1000 "IQD" = .ok 1000 := by decide
  refine ⟨by decide, sent, fun kept => ?_⟩
  exact (kept.1 1000 sent).1 rfl

end Stripe

end Patala.Fiat
