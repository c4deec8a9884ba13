import Patala.Core.FailoverOrder
import Patala.Core.Mock
import Patala.Fiat.BTCPay
import Patala.Fiat.CurrencyDecimal
import Patala.Fiat.OpenNode
import Patala.Fiat.Square

/-! Quotes beside charges. Each checks a request for itself, so a rail may name a price for what it
then refuses before it has asked anybody. -/

namespace Patala.Fiat

open Fallible

/-- No fee, for five minutes. -/
def freeQuote (railId : String) (settlement : Settlement) (req : PayRequest) (nowUnix : UInt64) :
    Quote :=
  ⟨railId, req.amountMinor, req.currency, 0, req.amountMinor, settlement,
    Machine.saturatingAdd64 nowUnix 300⟩

/-- The settlement is that of the rail's capabilities. -/
def BTCPay.BTCPayRail.quote (rail : BTCPay.BTCPayRail) (settlement : Settlement) (req : PayRequest)
    (nowUnix : UInt64) : Except Error Quote := do
  req.validate
  checkCurrency BTCPay.railId rail.currencies req.currency
  return freeQuote BTCPay.railId settlement req nowUnix

def OpenNode.OpenNodeRail.quote (rail : OpenNode.OpenNodeRail) (req : PayRequest)
    (nowUnix : UInt64) : Except Error Quote := do
  req.validate
  checkCurrency OpenNode.railId rail.currencies req.currency
  return freeQuote OpenNode.railId .instant req nowUnix

def Square.SquareRail.quote (rail : Square.SquareRail) (settlement : Settlement) (req : PayRequest)
    (nowUnix : UInt64) : Except Error Quote := do
  req.validate
  checkCurrency Square.railId rail.currencies req.currency
  let _ ← Square.squareAmount req.amountMinor req.currency
  return freeQuote Square.railId settlement req nowUnix

section Amounts

/-- The currency is in the table. -/
def Known (currency : String) : Prop := ∃ info, lookup currency = .ok info

/-- What is looked up is the trimmed text in upper case. -/
theorem normalizeCode_ok_iff {code upper : String} :
    normalizeCode code = .ok upper ↔ toAsciiUppercase (trim code) = upper ∧
      upper.utf8ByteSize = 3 ∧ upper.toList.all fun c => 'A' ≤ c && c ≤ 'Z' := by
  unfold normalizeCode
  generalize toAsciiUppercase (trim code) = raised
  by_cases shape : raised.utf8ByteSize = 3 ∧ raised.toList.all fun c => 'A' ≤ c && c ≤ 'Z'
  · rw [if_pos shape, Except.ok.injEq]
    exact ⟨fun same => ⟨same, same ▸ shape⟩, And.left⟩
  · rw [if_neg shape]
    exact iff_of_false nofun fun held => shape (held.1 ▸ held.2)

theorem toAsciiUppercase_trim_idem (code : String) :
    toAsciiUppercase (trim (toAsciiUppercase (trim code))) = toAsciiUppercase (trim code) := by
  rw [trim_toAsciiUppercase, trim_trim, toAsciiUppercase_idem]

theorem lookup_ok_iff {code : String} {info : CurrencyInfo} :
    lookup code = .ok info ↔ ∃ upper, normalizeCode code = .ok upper ∧
      currencyDefs.find? (fun info => info.code = upper) = some info := by
  simp only [lookup, bind_eq_ok]
  refine exists_congr fun upper => and_congr_right fun _ => ?_
  cases currencyDefs.find? fun info => info.code = upper <;> simp

theorem known_normalized (code : String) : Known (toAsciiUppercase (trim code)) ↔ Known code := by
  simp only [Known, lookup_ok_iff, normalizeCode_ok_iff, toAsciiUppercase_trim_idem]

/-- An amount is printed exactly in the currencies of the table. -/
theorem minorToMajorString_ok_iff {amount : UInt64} {currency printed : String} :
    minorToMajorString amount currency = .ok printed ↔ ∃ exp, exponent currency = .ok exp ∧
      String.ofList (Decimal.canonical exp amount.toNat).chars = printed := by
  constructor
  · intro success
    obtain ⟨exp, known, -⟩ := bind_eq_ok.mp success
    rw [minorToMajorString_eq known] at success
    exact ⟨exp, known, Except.ok.inj success⟩
  · rintro ⟨exp, known, same⟩
    rw [minorToMajorString_eq known, same]

theorem known_iff_exponent {currency : String} :
    Known currency ↔ ∃ exp, exponent currency = .ok exp := by
  simp [Known, exponent, bind_eq_ok, pure, Except.pure]

theorem printed_iff_known (amount : UInt64) {currency : String} :
    (∃ printed, minorToMajorString amount currency = .ok printed) ↔ Known currency := by
  simp only [minorToMajorString_ok_iff, known_iff_exponent]
  exact ⟨fun ⟨_, exp, known, _⟩ => ⟨exp, known⟩, fun ⟨exp, known⟩ => ⟨_, exp, known, rfl⟩⟩

theorem mem_chars {number : Decimal.Plain} {c : Char} (member : c ∈ number.chars) :
    c.isDigit ∨ c = '.' := by
  rw [Decimal.Plain.chars] at member
  rcases List.mem_append.mp member with whole | fraction
  · exact .inl (number.whole_digits whole)
  · cases written : number.fraction with
    | none => simp [written] at fraction
    | some digits =>
      rw [written] at fraction
      rcases List.mem_cons.mp fraction with point | digit
      · exact .inr point
      · exact .inl (number.fraction_digits (by simpa [written] using digit))

/-- A plain number with a digit in front of its point is read as a float. -/
theorem isFloat_plain (number : Decimal.Plain) (led : number.whole ≠ []) :
    OpenNode.isFloat (String.ofList number.chars) = true := by
  have unsigned : OpenNode.unsigned number.chars = number.chars := by
    obtain ⟨first, rest, begins⟩ := List.exists_cons_of_ne_nil led
    have digit : first.isDigit := number.whole_digits (by simp [begins])
    rw [Decimal.Plain.chars, begins, List.cons_append, OpenNode.unsigned]
    · intro _ same
      rw [(List.cons.inj same).1] at digit
      cases digit
    · intro _ same
      rw [(List.cons.inj same).1] at digit
      cases digit
  have unmarked : ∀ c ∈ number.chars, (!(decide (c = 'e') || decide (c = 'E'))) = true := by
    intro c member
    by_contra marked
    have mark : c = 'e' ∨ c = 'E' := by simpa [or_iff_not_imp_left] using marked
    rcases mem_chars member with digit | rfl
    · rcases mark with rfl | rfl <;> cases digit
    · rcases mark with same | same <;> exact absurd same (by decide)
  have digits : ∀ c ∈ number.whole, isAsciiDigit c = true := fun c member =>
    (isAsciiDigit_eq c).trans (number.whole_digits member)
  have mantissa : OpenNode.isMantissa number.chars = true := by
    rw [OpenNode.isMantissa, Decimal.Plain.chars, List.takeWhile_append_of_pos digits,
      List.dropWhile_append_of_pos digits]
    cases written : number.fraction with
    | none => simp [led]
    | some fraction =>
      have all : ∀ c ∈ fraction, isAsciiDigit c = true := fun c member =>
        (isAsciiDigit_eq c).trans (number.fraction_digits (by simpa [written] using member))
      have point : isAsciiDigit '.' = false := by decide
      simp [point, led, List.all_eq_true.mpr all]
  have whole := List.takeWhile_eq_self_iff.mpr unmarked
  have none := List.dropWhile_eq_nil_iff.mpr unmarked
  rw [OpenNode.isFloat, String.toList_ofList, unsigned]
  simp only [whole, none, mantissa, Bool.and_self, Bool.or_true]

theorem isFloat_printed {amount : UInt64} {currency printed : String}
    (success : minorToMajorString amount currency = .ok printed) :
    OpenNode.isFloat printed = true := by
  obtain ⟨exp, -, rfl⟩ := minorToMajorString_ok_iff.mp success
  exact isFloat_plain _ (by simp [Decimal.canonical_whole])

/-- Square trims and raises a currency before it compares it. -/
theorem squareAmount_normalized (amount : UInt64) (currency : String) :
    Square.squareAmount amount (toAsciiUppercase (trim currency)) =
      Square.squareAmount amount currency := by
  rw [Square.squareAmount, Square.squareAmount, toAsciiUppercase_trim_idem]

end Amounts

section Asking

/-- A request that validates, in a currency the rail takes. -/
def Admitted (id : String) (currencies : List String) (req : PayRequest) : Prop :=
  req.validate = .ok () ∧ checkCurrency id currencies req.currency = .ok ()

theorem asks_fetch {label path : String} {request : Request}
    {classifyError : UInt16 → List UInt8 → Error} {fromSlice : FromSlice α} {rest : α → Talk β} :
    ∃ question, (fetch label path request classifyError fromSlice >>= rest).Asks question :=
  ⟨request, Dialogue.asks_bind.mpr (.inl (fetch_asks.mpr rfl))⟩

variable {req : PayRequest}

theorem BTCPay.charge_asks_iff {rail : BTCPay.BTCPayRail} :
    (∃ question, (rail.charge req).Asks question) ↔
      Admitted BTCPay.railId rail.currencies req ∧ Known req.currency := by
  rw [← known_normalized, ← printed_iff_known req.amountMinor]
  simp only [BTCPay.BTCPayRail.charge, Dialogue.asks_lift_bind, Fallible.mapError_eq_ok, Admitted]
  constructor
  · rintro ⟨_, _, valid, _, taken, amount, printed, _⟩
    exact ⟨⟨valid, taken⟩, amount, printed⟩
  · rintro ⟨⟨valid, taken⟩, amount, printed⟩
    obtain ⟨question, asked⟩ := asks_fetch
    exact ⟨question, (), valid, (), taken, amount, printed, asked⟩

theorem OpenNode.charge_asks_iff {rail : OpenNode.OpenNodeRail} :
    (∃ question, (rail.charge req).Asks question) ↔
      Admitted OpenNode.railId rail.currencies req ∧ Known req.currency := by
  rw [← known_normalized, ← printed_iff_known req.amountMinor]
  simp only [OpenNode.OpenNodeRail.charge, Dialogue.asks_lift_bind, Fallible.mapError_eq_ok,
    insist_ok_iff, Admitted]
  constructor
  · rintro ⟨_, _, valid, _, taken, amount, printed, _⟩
    exact ⟨⟨valid, taken⟩, amount, printed⟩
  · rintro ⟨⟨valid, taken⟩, amount, printed⟩
    obtain ⟨question, asked⟩ := asks_fetch
    exact ⟨question, (), valid, (), taken, amount, printed, (), isFloat_printed printed, asked⟩

theorem Square.charge_asks_iff {rail : Square.SquareRail} :
    (∃ question, (rail.charge req).Asks question) ↔ Admitted Square.railId rail.currencies req ∧
      ∃ amount, Square.squareAmount req.amountMinor req.currency = .ok amount := by
  simp only [Square.SquareRail.charge, Dialogue.asks_lift_bind, squareAmount_normalized,
    insist_ok_iff, Admitted]
  constructor
  · rintro ⟨_, _, valid, _, taken, amount, sized, _⟩
    exact ⟨⟨valid, taken⟩, amount, sized⟩
  · rintro ⟨⟨valid, taken⟩, amount, sized⟩
    obtain ⟨question, asked⟩ := asks_fetch
    exact ⟨question, (), valid, (), taken, amount, sized, (),
      (PayRequest.validate_ok_iff.mp valid).2.2.1, asked⟩

end Asking

/-- A rail that quotes, with the settlement of its capabilities where that is configured. -/
inductive QuotingRail where
  | mock (rail : MockRail)
  | btcpay (rail : BTCPay.BTCPayRail) (settlement : Settlement)
  | openNode (rail : OpenNode.OpenNodeRail)
  | square (rail : Square.SquareRail) (settlement : Settlement)

namespace QuotingRail

def quote : QuotingRail → PayRequest → UInt64 → Except Error Quote
  | mock rail => rail.quote
  | btcpay rail settlement => rail.quote settlement
  | openNode rail => rail.quote
  | square rail settlement => rail.quote settlement

/-- `charge` gets past its own checks: the offline rail's ends in a receipt, another's asks its
processor. -/
def Chargeable (req : PayRequest) (nowUnix : UInt64) : QuotingRail → Prop
  | mock rail => ∃ receipt, rail.charge req nowUnix = .ok receipt
  | btcpay rail _ => ∃ question, (rail.charge req).Asks question
  | openNode rail => ∃ question, (rail.charge req).Asks question
  | square rail _ => ∃ question, (rail.charge req).Asks question

/-- What `quote` leaves unchecked is in order: the offline rail is not set to fail, and the two
that print the amount are asked for a currency of the table. -/
def Checked (req : PayRequest) : QuotingRail → Prop
  | mock rail => req.validate = .ok () → rail.currencySupported req.currency → rail.fail = false
  | btcpay rail _ => Admitted BTCPay.railId rail.currencies req → Known req.currency
  | openNode rail => Admitted OpenNode.railId rail.currencies req → Known req.currency
  | square _ _ => True

section Agreement

variable {req : PayRequest} {nowUnix : UInt64}

theorem mock_quotes_iff {rail : MockRail} : (∃ quote, rail.quote req nowUnix = .ok quote) ↔
    req.validate = .ok () ∧ rail.currencySupported req.currency := by
  simp [MockRail.quote, bind_eq_ok, insist_ok_iff, pure, Except.pure, Unique.exists_iff]

theorem mock_charges_iff {rail : MockRail} : (∃ receipt, rail.charge req nowUnix = .ok receipt) ↔
    (req.validate = .ok () ∧ rail.currencySupported req.currency) ∧ rail.fail = false := by
  simp only [MockRail.charge, bind_eq_ok, insist_ok_iff, pure, Except.pure, Except.ok.injEq,
    Bool.not_eq_true']
  constructor
  · rintro ⟨_, _, valid, _, works, _, supported, _⟩
    exact ⟨⟨valid, supported⟩, works⟩
  · rintro ⟨⟨valid, supported⟩, works⟩
    exact ⟨_, (), valid, (), works, (), supported, rfl⟩

theorem checked_quotes_iff {id : String} {currencies : List String} {quote : Quote} :
    (∃ found, (do
      req.validate
      checkCurrency id currencies req.currency
      return quote : Except Error Quote) = .ok found) ↔ Admitted id currencies req := by
  simp [bind_eq_ok, Admitted, pure, Except.pure, Unique.exists_iff]

theorem square_quotes_iff {rail : Square.SquareRail} {settlement : Settlement} :
    (∃ quote, rail.quote settlement req nowUnix = .ok quote) ↔
      Admitted Square.railId rail.currencies req ∧
        ∃ amount, Square.squareAmount req.amountMinor req.currency = .ok amount := by
  simp [Square.SquareRail.quote, bind_eq_ok, Admitted, pure, Except.pure, Unique.exists_iff, and_assoc]

/-- A rail quotes what it gets past its checks with exactly where its quote left out none that
would have failed. -/
theorem quotes_iff_chargeable_iff (rail : QuotingRail) (req : PayRequest) (nowUnix : UInt64) :
    ((∃ quote, rail.quote req nowUnix = .ok quote) ↔ rail.Chargeable req nowUnix) ↔
      rail.Checked req := by
  cases rail with
  | mock rail =>
    rw [quote, Chargeable, Checked, mock_quotes_iff, mock_charges_iff, iff_self_and, and_imp]
  | btcpay rail settlement =>
    rw [quote, Chargeable, Checked, BTCPay.charge_asks_iff, BTCPay.BTCPayRail.quote,
      checked_quotes_iff, iff_self_and]
  | openNode rail =>
    rw [quote, Chargeable, Checked, OpenNode.charge_asks_iff, OpenNode.OpenNodeRail.quote,
      checked_quotes_iff, iff_self_and]
  | square rail settlement =>
    rw [quote, Chargeable, Checked, Square.charge_asks_iff, square_quotes_iff, iff_self, true_iff]
    exact trivial

end Agreement

section Failover

variable {σ : Type}

/-- A failover rail over such rails, which read the clock in the world. -/
def Wrapped (f : FailoverRail σ) (rails : f.Idx → QuotingRail) (clock : σ → UInt64) : Prop :=
  ∀ idx req world, ((f.rails.get idx).quote req world).1 = (rails idx).quote req (clock world)

/-- What a failover rail quotes, one of its rails has quoted. -/
theorem quoted_by {f : FailoverRail σ} {rails : f.Idx → QuotingRail} {clock : σ → UInt64}
    (wrapped : Wrapped f rails clock) {req : PayRequest} {world : σ} {quote : Quote}
    (quoted : (f.quote req world).result = .ok quote) :
    ∃ idx before, (rails idx).quote req (clock before) = .ok quote := by
  have ran : ∃ order world', (Attempts.run (fun idx => (f.rails.get idx).quote req) id order none
      world').result = .ok quote := by
    refine ⟨(f.plan req world).1.order, (f.plan req world).2, ?_⟩
    simp only [FailoverRail.quote, FailoverRail.attempt] at quoted
    split at quoted
    · rename_i value found
      rw [Except.ok.inj quoted] at found
      exact found
    · cases quoted
  obtain ⟨order, world', ran⟩ := ran
  obtain ⟨entry, last, answered⟩ := (Attempts.run_ok_iff _ _ _ _).mp ran
  obtain ⟨before, after, called⟩ := (Attempts.run_trace order none world').called
    (List.mem_of_getLast? last)
  refine ⟨entry.1, before, ?_⟩
  rw [← wrapped, called]
  exact answered

end Failover

/-- For every request, a rail quotes what it gets past its checks with exactly where its quote
left out none that would have failed; and of such rails a failover rail prices none whose charge
then refuses without asking. -/
theorem quote_exact_iff (req : PayRequest) :
    (∀ (rail : QuotingRail) nowUnix, ((∃ quote, rail.quote req nowUnix = .ok quote) ↔
      rail.Chargeable req nowUnix) ↔ rail.Checked req) ∧
    ∀ (σ : Type) (f : FailoverRail σ) (rails : f.Idx → QuotingRail) clock, Wrapped f rails clock →
      (∀ idx, (rails idx).Checked req) → ∀ world quote, (f.quote req world).result = .ok quote →
        ∃ idx before, (rails idx).quote req (clock before) = .ok quote ∧
          (rails idx).Chargeable req (clock before) := by
  constructor
  · exact fun rail nowUnix => quotes_iff_chargeable_iff rail req nowUnix
  · intro σ f rails clock wrapped checked world quote quoted
    obtain ⟨idx, before, priced⟩ := quoted_by wrapped quoted
    have agrees := (quotes_iff_chargeable_iff (rails idx) req (clock before)).mpr (checked idx)
    exact ⟨idx, before, priced, agrees.mp ⟨quote, priced⟩⟩

namespace Sample

/-- A store that lists no currencies. -/
def store : BTCPay.BTCPayRail where
  baseUrl := "https://pay.shop.example"
  apiKey := "token"
  storeId := "store-1"
  currencies := []
  proofToBytes _ := []
  proofFromSlice _ := .error "expected value"
  invoiceFromSlice _ := .error "expected value"
  errorFromSlice _ := .error "expected value"

def unknownOrder : PayRequest := { MockRail.order with currency := "XYZ" }

end Sample

open QuotingRail.Sample in
/-- A rail set to fail quotes an order, and a store one in a currency it cannot print. -/
theorem quoted_not_chargeable :
    ((∃ quote, (mock MockRail.usdcRail.failing).quote MockRail.order 1700000000 = .ok quote) ∧
      ¬ (mock MockRail.usdcRail.failing).Chargeable MockRail.order 1700000000) ∧
    ((∃ quote, (btcpay store .instant).quote unknownOrder 1700000000 = .ok quote) ∧
      ¬ (btcpay store .instant).Chargeable unknownOrder 1700000000) ∧
    ¬ ∀ rail req nowUnix, (∃ quote, QuotingRail.quote rail req nowUnix = .ok quote) ↔
      QuotingRail.Chargeable req nowUnix rail := by
  have valid : MockRail.order.validate = .ok () := PayRequest.validate_ok_iff.mpr (by decide)
  have priced : ∃ quote, (mock MockRail.usdcRail.failing).quote MockRail.order 1700000000 =
      .ok quote := mock_quotes_iff.mpr ⟨valid, by decide⟩
  have refused : ¬ (mock MockRail.usdcRail.failing).Chargeable MockRail.order 1700000000 :=
    fun charged => Bool.noConfusion (mock_charges_iff.mp charged).2
  have unknown : ¬ Known "XYZ" := by
    intro ⟨info, found⟩
    exact absurd found (by rw [show lookup "XYZ" = .error (.unknownCurrency "XYZ") by decide]; nofun)
  have admitted : Admitted BTCPay.railId store.currencies unknownOrder :=
    ⟨PayRequest.validate_ok_iff.mpr (by decide), rfl⟩
  refine ⟨⟨priced, refused⟩, ⟨checked_quotes_iff.mpr admitted, fun charged => ?_⟩, fun agree => ?_⟩
  · exact unknown (BTCPay.charge_asks_iff.mp charged).2
  · exact refused ((agree _ _ _).mp priced)

end QuotingRail

end Patala.Fiat
