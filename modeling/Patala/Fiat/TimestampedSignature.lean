import Patala.Core.Numbers
import Patala.Fiat.Yoco
import Patala.Lib.Joined
import Patala.Lib.Machine

/-! Signatures with a timestamp: which deliveries get past the replay check and the signature
check of Stripe and Yoco, against what their headers say in exact arithmetic. -/

namespace Patala.Fiat

section Replay

/-- The integer that a text spells, of any size. -/
def spelledInteger (text : String) : Option Int :=
  match text.toList with
  | '+' :: digits => (digitsValue digits).map Int.ofNat
  | '-' :: digits => (digitsValue digits).map fun value : Nat => -(value : Int)
  | digits => (digitsValue digits).map Int.ofNat

theorem parseSigned_eq_some {least greatest value : Int} {text : String} :
    parseSigned least greatest text = some value ↔
      spelledInteger text = some value ∧ least ≤ value ∧ value ≤ greatest := by
  have read : parseSigned least greatest text = (spelledInteger text).bind fun value =>
      if least ≤ value ∧ value ≤ greatest then some value else none := by
    unfold parseSigned spelledInteger
    generalize text.toList = chars
    cases chars with
    | nil => rfl
    | cons c digits =>
      by_cases plus : c = '+'
      · subst plus
        rfl
      by_cases minus : c = '-'
      · subst minus
        cases found : digitsValue digits <;> simp [found]
      · cases found : digitsValue (c :: digits) <;> simp [plus, minus, found]
  rw [read, Option.bind_eq_some_iff]
  constructor
  · rintro ⟨found, spelled, kept⟩
    split at kept
    · rename_i fits
      cases kept
      exact ⟨spelled, fits⟩
    · cases kept
  · rintro ⟨spelled, fits⟩
    exact ⟨value, spelled, if_pos fits⟩

/-- No further from the clock than the tolerance, five minutes for either processor. -/
def Timely (nowUnix : UInt64) (timestamp : Int) : Prop :=
  ((nowUnix.toNat : Int) - timestamp).natAbs ≤ Stripe.signatureToleranceSecs

/-- The clock less the timestamp is an `i64`. -/
def Subtractable (nowUnix : UInt64) (timestamp : Int) : Prop :=
  (nowUnix.toNat : Int) - timestamp < 2 ^ 63

/-- The machine's distance is the exact one where the subtraction does not overflow. -/
theorem age_exact {nowUnix : UInt64} {timestamp : Int} (clock : nowUnix.toNat < 2 ^ 63)
    (lower : -2 ^ 63 ≤ timestamp) (upper : timestamp < 2 ^ 63)
    (fits : Subtractable nowUnix timestamp) :
    Stripe.age nowUnix timestamp = ((nowUnix.toNat : Int) - timestamp).natAbs := by
  unfold Subtractable at fits
  rw [Stripe.age, Int64.toInt_sub, Machine.toInt_toInt64_of_lt clock,
    Int64.toInt_ofInt_of_le lower upper, Int.bmod_eq_of_le (by omega) (by omega)]

/-- A replay check between others: the integer that the timestamp spells, what is checked before
the clock is read and what afterwards, and whether the delivery is signed as it should be. -/
structure ReplayCheck where
  spelled : Option Int
  before : Prop
  afterwards : Prop
  signed : Prop

namespace ReplayCheck

/-- The timestamp is read as an `i64` and subtracted from the clock. -/
def Reaches (check : ReplayCheck) (timestamp : Int) : Prop :=
  check.spelled = some timestamp ∧ -2 ^ 63 ≤ timestamp ∧ timestamp < 2 ^ 63 ∧ check.before

/-- The delivery gets past all checks. -/
def Passes (check : ReplayCheck) (nowUnix : UInt64) : Prop :=
  ∃ timestamp, check.Reaches timestamp ∧
    Stripe.age nowUnix timestamp ≤ Stripe.signatureToleranceSecs ∧ check.afterwards

/-- The delivery is signed, at a time near the clock's. -/
def Authentic (check : ReplayCheck) (nowUnix : UInt64) : Prop :=
  ∃ timestamp, check.spelled = some timestamp ∧ Timely nowUnix timestamp ∧ check.signed

/-- An authentic delivery is one that the checks know as signed, at a time that an `i64` holds, and
no timestamp that is read lies too far back to be subtracted. -/
structure Ordinary (check : ReplayCheck) (nowUnix : UInt64) : Prop where
  known : ∀ timestamp, check.spelled = some timestamp → Timely nowUnix timestamp → check.signed →
    check.before ∧ check.afterwards ∧ timestamp < 2 ^ 63
  recent : ∀ timestamp, check.spelled = some timestamp → -2 ^ 63 ≤ timestamp →
    timestamp < 2 ^ 63 → check.before → Subtractable nowUnix timestamp

theorem exact_iff {check : ReplayCheck} {nowUnix : UInt64} (clock : nowUnix.toNat < 2 ^ 63)
    (sound : check.before → check.afterwards → check.signed) :
    ((check.Passes nowUnix ↔ check.Authentic nowUnix) ∧
      ∀ timestamp, check.Reaches timestamp → Subtractable nowUnix timestamp) ↔
      check.Ordinary nowUnix := by
  constructor
  · intro ⟨exact, safe⟩
    constructor
    · intro timestamp spelled timely signed
      obtain ⟨read, ⟨spelled', -, upper, before⟩, -, afterwards⟩ :=
        exact.mpr ⟨timestamp, spelled, timely, signed⟩
      cases spelled.symm.trans spelled'
      exact ⟨before, afterwards, upper⟩
    · intro timestamp spelled lower upper before
      exact safe timestamp ⟨spelled, lower, upper, before⟩
  · intro ordinary
    have safe : ∀ timestamp, check.Reaches timestamp → Subtractable nowUnix timestamp :=
      fun timestamp ⟨spelled, lower, upper, before⟩ =>
        ordinary.recent timestamp spelled lower upper before
    refine ⟨⟨?_, ?_⟩, safe⟩
    · intro ⟨timestamp, reached, near, afterwards⟩
      rw [age_exact clock reached.2.1 reached.2.2.1 (safe timestamp reached)] at near
      exact ⟨timestamp, reached.1, near, sound reached.2.2.2 afterwards⟩
    · intro ⟨timestamp, spelled, timely, signed⟩
      obtain ⟨before, afterwards, upper⟩ := ordinary.known timestamp spelled timely signed
      have lower : -2 ^ 63 ≤ timestamp := by
        unfold Timely Stripe.signatureToleranceSecs at timely
        omega
      have reached : check.Reaches timestamp := ⟨spelled, lower, upper, before⟩
      refine ⟨timestamp, reached, ?_, afterwards⟩
      rw [age_exact clock lower upper (safe timestamp reached)]
      exact timely

end ReplayCheck

end Replay

open Fallible

namespace Stripe

variable (crates : WebhookCrates) (secret : String) (rawBody : List UInt8) (header : String)
  (nowUnix : UInt64)

/-- The errors of the checks that a delivery passes before it is parsed. -/
def IsCheck (error : StripeWebhookError) : Prop :=
  error ∈ [.missingSignature, .emptyBody, .invalidSignature, .staleSignature]

/-- What is checked before the clock is read: the timestamp of a signed delivery. -/
def signedTimestamp : Except StripeWebhookError Int := do
  ensure (trim header ≠ "") .missingSignature
  ensure (rawBody ≠ []) .emptyBody
  let (ts, v1) ← parseSignatureHeader (trim header)
  ensure (verifyHmacHex crates.hmacSha256 (asBytes secret) (signedPayload ts rawBody) v1)
    .invalidSignature
  (parseSigned (-2 ^ 63) (2 ^ 63 - 1) ts).elim (.error .invalidSignature) .ok

def parseEvent : Except StripeWebhookError SettlementEvent := do
  let envelope ← (crates.envelopeFromSlice rawBody).mapError .malformedResponse
  ensure (isHandled envelope.eventType) (.unhandledEvent envelope.eventType)
  let session ← (crates.sessionFromValue envelope.object).mapError fun e =>
    .malformedResponse ("event data.object: " ++ e)
  let outcome ← (evaluateSession session).mapError fun e => .malformedResponse e.toString
  return {
    eventId := if envelope.id = "" then session.id else envelope.id
    reference := outcome.reference
    settled := outcome.settled
    amountMinor := outcome.amountMinor
    currency := outcome.currency }

def checkDelivery : Except StripeWebhookError Unit := do
  let timestamp ← signedTimestamp crates secret rawBody header
  ensure (age nowUnix timestamp ≤ signatureToleranceSecs) .staleSignature

theorem verifyAndParse_eq : verifyAndParse crates secret rawBody header nowUnix =
    (checkDelivery crates secret rawBody header nowUnix >>= fun _ =>
      parseEvent crates rawBody) := by
  simp only [verifyAndParse, checkDelivery, signedTimestamp, parseEvent, bind_assoc]

/-- The pairs of a signature header. -/
def signaturePairs : List (String × String) :=
  ((trim header).toList.splitOn ',').filterMap fun part => splitOnce (trim (String.ofList part))

/-- What the checks make of a delivery: of several signatures they know only the last. -/
def replayCheck : ReplayCheck where
  spelled := (lastValue (signaturePairs header) "t").bind spelledInteger
  before := rawBody ≠ [] ∧ secret ≠ "" ∧ ∃ ts v1, lastValue (signaturePairs header) "t" = some ts ∧
    lastValue (signaturePairs header) "v1" = some v1 ∧
    Spells crates.hmacSha256 (asBytes secret) (signedPayload ts rawBody) v1
  afterwards := True
  signed := ∃ ts v1, lastValue (signaturePairs header) "t" = some ts ∧
    ("v1", v1) ∈ signaturePairs header ∧
    Spells crates.hmacSha256 (asBytes secret) (signedPayload ts rawBody) v1

variable {crates secret rawBody header nowUnix}

theorem parseEvent_fails : FailsOnly (fun error => ¬ IsCheck error) (parseEvent crates rawBody) := by
  unfold parseEvent
  refine (failsOnly_mapError fun e => by simp [IsCheck]).bind fun envelope => ?_
  refine (failsOnly_ensure (by simp [IsCheck])).bind fun _ => ?_
  refine (failsOnly_mapError fun e => by simp [IsCheck]).bind fun session => ?_
  exact (failsOnly_mapError fun e => by simp [IsCheck]).bind fun outcome => failsOnly_ok _

theorem parseSignatureHeader_fails : FailsOnly IsCheck (parseSignatureHeader (trim header)) := by
  intro error failed
  unfold parseSignatureHeader at failed
  dsimp only at failed
  split at failed
  · cases failed
  · cases failed
    simp [IsCheck]

theorem checkDelivery_fails :
    FailsOnly IsCheck (checkDelivery crates secret rawBody header nowUnix) := by
  unfold checkDelivery signedTimestamp
  refine FailsOnly.bind ?_ fun timestamp => failsOnly_ensure (by simp [IsCheck])
  refine (failsOnly_ensure (by simp [IsCheck])).bind fun _ => ?_
  refine (failsOnly_ensure (by simp [IsCheck])).bind fun _ => ?_
  refine parseSignatureHeader_fails.bind fun (ts, v1) => ?_
  exact (failsOnly_ensure (by simp [IsCheck])).bind fun _ => failsOnly_elim (by simp [IsCheck])

/-- A delivery gets past the checks where its signed timestamp is near the clock. -/
theorem pastChecks_iff :
    FailsOnly (fun error => ¬ IsCheck error) (verifyAndParse crates secret rawBody header nowUnix) ↔
      ∃ timestamp, signedTimestamp crates secret rawBody header = .ok timestamp ∧
        age nowUnix timestamp ≤ signatureToleranceSecs := by
  rw [verifyAndParse_eq, failsOnly_not_bind checkDelivery_fails fun _ => parseEvent_fails]
  simp only [checkDelivery, bind_eq_ok, ensure_eq_ok]
  constructor
  · rintro ⟨-, found⟩
    exact found
  · intro found
    exact ⟨(), found⟩

theorem parseSignatureHeader_ok_iff {ts v1 : String} :
    parseSignatureHeader (trim header) = .ok (ts, v1) ↔
      lastValue (signaturePairs header) "t" = some ts ∧
      lastValue (signaturePairs header) "v1" = some v1 := by
  unfold parseSignatureHeader
  dsimp only
  rw [← signaturePairs]
  cases lastValue (signaturePairs header) "t" with
  | none => simp
  | some ts' =>
    cases lastValue (signaturePairs header) "v1" with
    | none => simp
    | some v1' => simp

theorem signaturePairs_of_blank (blank : trim header = "") : signaturePairs header = [] := by
  rw [signaturePairs, blank]
  rfl

/-- An entry of a header, as a sender writes it. -/
def writtenEntry (entry : String × String) : List Char := entry.1.toList ++ '=' :: entry.2.toList

theorem splitOnce_writtenEntry {entry : String × String} (named : '=' ∉ entry.1.toList) :
    splitOnce (String.ofList (writtenEntry entry)) = some entry := by
  have none : ∀ c ∈ entry.1.toList, decide (c ≠ '=') = true := fun c member =>
    decide_eq_true fun same => named (same ▸ member)
  have takes : (writtenEntry entry).takeWhile (· ≠ '=') = entry.1.toList := by
    rw [writtenEntry, List.takeWhile_append_of_pos none]
    simp
  have drops : (writtenEntry entry).dropWhile (· ≠ '=') = '=' :: entry.2.toList := by
    rw [writtenEntry, List.dropWhile_append_of_pos none]
    simp
  have equals : '=' ∈ writtenEntry entry := List.mem_append_right _ List.mem_cons_self
  rw [splitOnce, String.toList_ofList, if_pos equals, takes, drops, List.drop_one, List.tail_cons,
    String.ofList_toList, String.ofList_toList]

/-- What a sender writes between commas is read back. -/
theorem signaturePairs_written {header : String} {entries : List (String × String)}
    (chars : header.toList = [','].intercalate (entries.map writtenEntry))
    (written : entries ≠ [])
    (plain : ∀ entry ∈ entries, ∀ c ∈ writtenEntry entry, isWhitespace c = false ∧ c ≠ ',')
    (named : ∀ entry ∈ entries, '=' ∉ entry.1.toList) : signaturePairs header = entries := by
  have untrimmed : trim header = header := by
    refine trim_of_plain fun c member => ?_
    rw [chars] at member
    obtain rfl | ⟨part, listed, inside⟩ := Joined.mem_intercalate member
    · decide
    · obtain ⟨entry, known, rfl⟩ := List.mem_map.mp listed
      exact (plain entry known c inside).1
  have split : header.toList.splitOn ',' = entries.map writtenEntry := by
    rw [chars]
    refine List.splitOn_intercalate ',' (fun part member => ?_) (by simpa using written)
    obtain ⟨entry, known, rfl⟩ := List.mem_map.mp member
    exact fun comma => (plain entry known ',' comma).2 rfl
  have readBack : ∀ entry ∈ entries,
      splitOnce (trim (String.ofList (writtenEntry entry))) = some entry := by
    intro entry listed
    have kept : trim (String.ofList (writtenEntry entry)) = String.ofList (writtenEntry entry) := by
      refine trim_of_plain fun c member => ?_
      rw [String.toList_ofList] at member
      exact (plain entry listed c member).1
    rw [kept, splitOnce_writtenEntry (named entry listed)]
  calc signaturePairs header
    _ = (entries.map writtenEntry).filterMap fun part => splitOnce (trim (String.ofList part)) := by
      rw [signaturePairs, untrimmed, split]
    _ = entries.filterMap fun entry => splitOnce (trim (String.ofList (writtenEntry entry))) := by
      rw [List.filterMap_map, Function.comp_def]
    _ = entries.filterMap some := List.filterMap_congr readBack
    _ = entries := List.filterMap_some

/-- A MAC that is not empty is not spelled by a blank text. -/
theorem verifyHmacHex_iff {hmac : List UInt8 → List UInt8 → List UInt8}
    {key payload : List UInt8} {text : String} (mac : (hmac key payload).length = 32) :
    verifyHmacHex hmac key payload text = true ↔ key ≠ [] ∧ Spells hmac key payload text := by
  constructor
  · exact verifyHmacHex_true
  · intro ⟨keyed, spelled⟩
    have written : trim text ≠ "" := by
      intro empty
      rw [Spells, empty] at spelled
      rw [← Option.some.inj spelled] at mac
      cases mac
    rw [verifyHmacHex, if_neg (not_or.mpr ⟨keyed, written⟩), spelled]
    exact decide_eq_true rfl

theorem signedTimestamp_ok_iff
    (macs : ∀ key payload, (crates.hmacSha256 key payload).length = 32) {timestamp : Int} :
    signedTimestamp crates secret rawBody header = .ok timestamp ↔
      (replayCheck crates secret rawBody header).Reaches timestamp := by
  have keyed : asBytes secret ≠ [] ↔ secret ≠ "" := by
    refine ⟨ne_empty_of_asBytes, fun present empty => present ?_⟩
    exact asBytes_injective (empty.trans (by rfl))
  simp only [signedTimestamp, bind_eq_ok, ensure_eq_ok, elim_eq_ok, Prod.exists,
    parseSignatureHeader_ok_iff, verifyHmacHex_iff (macs _ _), parseSigned_eq_some, keyed,
    exists_const]
  constructor
  · rintro ⟨_, nonempty, ts, v1, ⟨stamped, last⟩, ⟨known, spells⟩, spelled, lower, upper⟩
    refine ⟨?_, lower, by omega, nonempty, known, ts, v1, stamped, last, spells⟩
    rw [replayCheck, stamped]
    exact spelled
  · rintro ⟨spelled, lower, upper, nonempty, known, ts, v1, stamped, last, spells⟩
    have present : trim header ≠ "" := by
      intro blank
      rw [signaturePairs_of_blank blank] at stamped
      simp [lastValue] at stamped
    rw [replayCheck, stamped] at spelled
    exact ⟨present, nonempty, ts, v1, ⟨stamped, last⟩, ⟨known, spells⟩, spelled, lower, by omega⟩

/-- The subtraction never overflows, and a delivery gets past the checks exactly when it is signed
by one of its signatures at a time near the clock's. -/
def Exact (crates : WebhookCrates) (secret : String) (rawBody : List UInt8) (header : String)
    (nowUnix : UInt64) : Prop :=
  (FailsOnly (fun error => ¬ IsCheck error)
      (verifyAndParse crates secret rawBody header nowUnix) ↔
    (replayCheck crates secret rawBody header).Authentic nowUnix) ∧
  ∀ timestamp, signedTimestamp crates secret rawBody header = .ok timestamp →
    Subtractable nowUnix timestamp

theorem exact_iff (macs : ∀ key payload, (crates.hmacSha256 key payload).length = 32)
    (clock : nowUnix.toNat < 2 ^ 63) : Exact crates secret rawBody header nowUnix ↔
      (replayCheck crates secret rawBody header).Ordinary nowUnix := by
  have sound : (replayCheck crates secret rawBody header).before →
      (replayCheck crates secret rawBody header).afterwards →
      (replayCheck crates secret rawBody header).signed := by
    intro ⟨_, _, ts, v1, stamped, last, spells⟩ _
    exact ⟨ts, v1, stamped, lastValue_mem last, spells⟩
  have past : (∃ timestamp, signedTimestamp crates secret rawBody header = .ok timestamp ∧
      age nowUnix timestamp ≤ signatureToleranceSecs) ↔
      (replayCheck crates secret rawBody header).Passes nowUnix := by
    constructor
    · intro ⟨timestamp, signed, near⟩
      exact ⟨timestamp, (signedTimestamp_ok_iff macs).mp signed, near, trivial⟩
    · intro ⟨timestamp, reached, near, _⟩
      exact ⟨timestamp, (signedTimestamp_ok_iff macs).mpr reached, near⟩
  rw [← ReplayCheck.exact_iff clock sound, Exact, pastChecks_iff, past]
  exact and_congr_right' (forall_congr' fun timestamp =>
    imp_congr_left (signedTimestamp_ok_iff macs))

end Stripe

namespace Yoco

variable (crates : WebhookCrates) (webhookSecret rawBody : List UInt8)
  (idHeader timestampHeader signatureHeader : String) (nowUnix : UInt64)

def IsCheck (error : YocoWebhookError) : Prop :=
  error ∈ [.missingSignature, .invalidSignature, .staleTimestamp]

/-- An entry of the current version is the MAC. -/
def Signed : Prop :=
  ∃ sig, "v1,".toList ++ sig ∈ entries (trim signatureHeader) ∧
    crates.base64Decode (String.ofList sig) =
      some (expectedMac crates webhookSecret rawBody idHeader timestampHeader)

/-- What the checks make of a delivery: the headers are there before the clock is read, and the
signatures are looked at afterwards. -/
def replayCheck : ReplayCheck where
  spelled := spelledInteger (trim timestampHeader)
  before := trim idHeader ≠ "" ∧ trim signatureHeader ≠ ""
  afterwards := Signed crates webhookSecret rawBody idHeader timestampHeader signatureHeader
  signed := Signed crates webhookSecret rawBody idHeader timestampHeader signatureHeader

variable {crates webhookSecret rawBody idHeader timestampHeader signatureHeader nowUnix}

theorem parseEvent_fails : FailsOnly (fun error => ¬ IsCheck error) (parseEvent crates rawBody) := by
  unfold parseEvent
  refine (failsOnly_mapError fun e => by simp [IsCheck]).bind fun envelope => ?_
  refine (failsOnly_ensure (by simp [IsCheck])).bind fun _ => ?_
  exact (failsOnly_mapError fun e => by simp [IsCheck]).bind fun outcome => failsOnly_ok _

theorem checkDelivery_fails : FailsOnly IsCheck (checkDelivery crates webhookSecret rawBody idHeader
    timestampHeader signatureHeader nowUnix) := by
  unfold checkDelivery readTimestamp
  refine FailsOnly.bind ?_ fun ts => ?_
  · exact (failsOnly_ensure (by simp [IsCheck])).bind fun _ => failsOnly_elim (by simp [IsCheck])
  · exact (failsOnly_ensure (by simp [IsCheck])).bind fun _ => failsOnly_ensure (by simp [IsCheck])

theorem spelled_replayCheck : (replayCheck crates webhookSecret rawBody idHeader timestampHeader
    signatureHeader).spelled = spelledInteger (trim timestampHeader) := by
  rw [replayCheck]

theorem readTimestamp_ok_iff {timestamp : Int} :
    readTimestamp (trim idHeader) (trim timestampHeader) (trim signatureHeader) = .ok timestamp ↔
      (replayCheck crates webhookSecret rawBody idHeader timestampHeader
        signatureHeader).Reaches timestamp := by
  rw [ReplayCheck.Reaches, spelled_replayCheck]
  simp only [readTimestamp, bind_eq_ok, ensure_eq_ok, elim_eq_ok, parseSigned_eq_some, exists_const,
    not_or]
  constructor
  · rintro ⟨⟨named, _, signed⟩, spelled, lower, upper⟩
    exact ⟨spelled, lower, by omega, named, signed⟩
  · rintro ⟨spelled, lower, upper, named, signed⟩
    have stamped : trim timestampHeader ≠ "" := by
      intro empty
      rw [empty] at spelled
      exact absurd spelled (by simp [spelledInteger, digitsValue])
    exact ⟨⟨named, stamped, signed⟩, spelled, lower, by omega⟩

theorem matches_iff_signed : (entries (trim signatureHeader)).any (entryMatches crates
      (expectedMac crates webhookSecret rawBody idHeader timestampHeader)) = true ↔
    Signed crates webhookSecret rawBody idHeader timestampHeader signatureHeader := by
  rw [List.any_eq_true]
  constructor
  · intro ⟨entry, member, found⟩
    obtain ⟨sig, same, decoded⟩ := entryMatches_iff.mp found
    exact ⟨sig, same ▸ member, decoded⟩
  · intro ⟨sig, member, decoded⟩
    exact ⟨_, member, entryMatches_iff.mpr ⟨sig, rfl, decoded⟩⟩

/-- The subtraction never overflows, and a delivery gets past the checks exactly when it is signed
by one of its entries at a time near the clock's. -/
def Exact (crates : WebhookCrates) (webhookSecret rawBody : List UInt8)
    (idHeader timestampHeader signatureHeader : String) (nowUnix : UInt64) : Prop :=
  (FailsOnly (fun error => ¬ IsCheck error) (verifyAndParse crates webhookSecret rawBody idHeader
      timestampHeader signatureHeader nowUnix) ↔
    (replayCheck crates webhookSecret rawBody idHeader timestampHeader
      signatureHeader).Authentic nowUnix) ∧
  ∀ timestamp, readTimestamp (trim idHeader) (trim timestampHeader) (trim signatureHeader) =
    .ok timestamp → Subtractable nowUnix timestamp

theorem exact_iff (clock : nowUnix.toNat < 2 ^ 63) :
    Exact crates webhookSecret rawBody idHeader timestampHeader signatureHeader nowUnix ↔
      (replayCheck crates webhookSecret rawBody idHeader timestampHeader
        signatureHeader).Ordinary nowUnix := by
  have sound : (replayCheck crates webhookSecret rawBody idHeader timestampHeader
      signatureHeader).before → Signed crates webhookSecret rawBody idHeader timestampHeader
      signatureHeader → Signed crates webhookSecret rawBody idHeader timestampHeader
      signatureHeader := fun _ signed => signed
  have past : (∃ checked, checkDelivery crates webhookSecret rawBody idHeader timestampHeader
      signatureHeader nowUnix = .ok checked) ↔ (replayCheck crates webhookSecret rawBody idHeader
      timestampHeader signatureHeader).Passes nowUnix := by
    simp only [checkDelivery, bind_eq_ok, ensure_eq_ok, exists_const, matches_iff_signed]
    constructor
    · rintro ⟨timestamp, read, near, signed⟩
      exact ⟨timestamp, readTimestamp_ok_iff.mp read, near, signed⟩
    · rintro ⟨timestamp, reached, near, signed⟩
      exact ⟨timestamp, readTimestamp_ok_iff.mpr reached, near, signed⟩
  rw [← ReplayCheck.exact_iff clock sound, Exact, verifyAndParse,
    failsOnly_not_bind checkDelivery_fails fun _ => parseEvent_fails, past]
  exact and_congr_right' (forall_congr' fun timestamp => imp_congr_left readTimestamp_ok_iff)

end Yoco

/-- For either processor, a delivery gets past the checks exactly when its headers say so in exact
arithmetic, and nothing overflows, where the delivery is an ordinary one. -/
theorem timestamped_signatures_exact_iff {nowUnix : UInt64} (clock : nowUnix.toNat < 2 ^ 63)
    {stripe : Stripe.WebhookCrates}
    (macs : ∀ key payload, (stripe.hmacSha256 key payload).length = 32) (yoco : Yoco.WebhookCrates)
    (secret header : String) (webhookSecret rawBody : List UInt8)
    (idHeader timestampHeader signatureHeader : String) :
    (Stripe.Exact stripe secret rawBody header nowUnix ↔
      (Stripe.replayCheck stripe secret rawBody header).Ordinary nowUnix) ∧
    (Yoco.Exact yoco webhookSecret rawBody idHeader timestampHeader signatureHeader nowUnix ↔
      (Yoco.replayCheck yoco webhookSecret rawBody idHeader timestampHeader
        signatureHeader).Ordinary nowUnix) :=
  ⟨Stripe.exact_iff macs clock, Yoco.exact_iff clock⟩

section Rotated

/-- The body `\x7b\x7d`. -/
def emptyObject : List UInt8 := [123, 125]

def yocoKey : List UInt8 := asBytes "0123456789abcdef"

def stripeMac : List UInt8 :=
  [41, 29, 3, 226, 232, 202, 153, 206, 107, 45, 212, 168, 105, 116, 184, 136, 130, 43, 188, 83,
    228, 76, 124, 87, 24, 218, 34, 60, 76, 134, 212, 68]

def yocoMac : List UInt8 :=
  [2, 186, 96, 64, 13, 180, 95, 52, 56, 4, 135, 174, 137, 219, 197, 147, 16, 35, 229, 113, 163,
    119, 252, 68, 187, 157, 184, 252, 174, 87, 24, 22]

/-- The MAC under the previous secret. -/
def previousMac : List UInt8 :=
  [247, 195, 150, 101, 15, 22, 22, 46, 42, 203, 163, 202, 143, 180, 246, 131, 134, 154, 121, 55,
    163, 131, 20, 164, 76, 174, 175, 126, 40, 151, 202, 214]

/-- The MACs of two deliveries. -/
def knownMac (key payload : List UInt8) : List UInt8 :=
  if key = asBytes "whsec_test" ∧ payload = Stripe.signedPayload "1000" emptyObject then stripeMac
  else if key = yocoKey ∧ payload = Yoco.signedContent "msg_1" "1000" emptyObject then yocoMac
  else List.replicate 32 0

theorem length_knownMac (key payload : List UInt8) : (knownMac key payload).length = 32 := by
  unfold knownMac
  split
  · rfl
  split
  · rfl
  · exact List.length_replicate

def rotatedStripe : Stripe.WebhookCrates where
  hmacSha256 := knownMac
  envelopeFromSlice _ := .error "missing field"
  sessionFromValue _ := .error "missing field"

def signedYoco : Yoco.WebhookCrates where
  hmacSha256 := knownMac
  base64Decode text :=
    if text = "ArpgQA20XzQ4BIeuidvFkxAj5XGjd/xEu524/K5XGBY=" then some yocoMac else none
  envelopeFromSlice _ := .error "missing field"

def currentV1 : String := "291d03e2e8ca99ce6b2dd4a86974b888822bbc53e44c7c5718da223c4c86d444"

def previousV1 : String := "f7c396650f16162e2acba3ca8fb4f683869a7937a38314a44caeaf7e2897cad6"

/-- The signature under the current secret, then the one under the previous secret. -/
def rotatedHeader : String := "t=1000,v1=" ++ currentV1 ++ ",v1=" ++ previousV1

theorem timestamped_signatures_exact_iff_rotated :
    (Stripe.Exact rotatedStripe "whsec_test" emptyObject rotatedHeader 1000 ↔
      (Stripe.replayCheck rotatedStripe "whsec_test" emptyObject rotatedHeader).Ordinary 1000) ∧
    (Yoco.Exact signedYoco yocoKey emptyObject "msg_1" "1000"
        "v1,ArpgQA20XzQ4BIeuidvFkxAj5XGjd/xEu524/K5XGBY=" 1000 ↔
      (Yoco.replayCheck signedYoco yocoKey emptyObject "msg_1" "1000"
        "v1,ArpgQA20XzQ4BIeuidvFkxAj5XGjd/xEu524/K5XGBY=").Ordinary 1000) :=
  timestamped_signatures_exact_iff (by decide) length_knownMac signedYoco "whsec_test" rotatedHeader
    yocoKey emptyObject "msg_1" "1000" "v1,ArpgQA20XzQ4BIeuidvFkxAj5XGjd/xEu524/K5XGBY="

theorem hexDecode_currentV1 : Codec.hexDecode currentV1 = some stripeMac :=
  Codec.hexDecode_of_chars rfl (by decide)

theorem hexDecode_previousV1 : Codec.hexDecode previousV1 = some previousMac :=
  Codec.hexDecode_of_chars rfl (by decide)

theorem rotatedHeader_pairs : Stripe.signaturePairs rotatedHeader =
    [("t", "1000"), ("v1", currentV1), ("v1", previousV1)] := by
  have plain : ∀ c ∈ Stripe.writtenEntry ("t", "1000"), isWhitespace c = false ∧ c ≠ ',' := by
    simp [Stripe.writtenEntry, isWhitespace]
  have hexPlain {text : String} {bytes : List UInt8} (read : Codec.hexDecode text = some bytes) :
      ∀ c ∈ Stripe.writtenEntry ("v1", text), isWhitespace c = false ∧ c ≠ ',' := by
    have named : ∀ c ∈ "v1=".toList, isWhitespace c = false ∧ c ≠ ',' := by
      simp [isWhitespace]
    have hex := Codec.forall_of_hexDecode (p := fun c => isWhitespace c = false ∧ c ≠ ',')
      (by decide) read
    intro c member
    have parts : c ∈ "v1=".toList ++ text.toList := by simpa [Stripe.writtenEntry] using member
    obtain key | digit := List.mem_append.mp parts
    · exact named c key
    · exact hex c digit
  refine Stripe.signaturePairs_written (by simp [rotatedHeader, Stripe.writtenEntry]) (by simp) ?_ ?_
  · simpa using ⟨plain, hexPlain hexDecode_currentV1, hexPlain hexDecode_previousV1⟩
  · simp

theorem currentV1_spells : Spells knownMac (asBytes "whsec_test")
    (Stripe.signedPayload "1000" emptyObject) currentV1 := by
  rw [Spells, trim_of_hexDecode hexDecode_currentV1, hexDecode_currentV1, knownMac,
    if_pos ⟨rfl, rfl⟩]

theorem previousV1_unspelled : ¬ Spells knownMac (asBytes "whsec_test")
    (Stripe.signedPayload "1000" emptyObject) previousV1 := by
  rw [Spells, trim_of_hexDecode hexDecode_previousV1, hexDecode_previousV1, knownMac,
    if_pos ⟨rfl, rfl⟩]
  decide

/-- A timely delivery signed under the current secret is refused for the signature behind it. -/
theorem rotated_signature_refused :
    (Stripe.replayCheck rotatedStripe "whsec_test" emptyObject rotatedHeader).Authentic 1000 ∧
      ¬ Stripe.Exact rotatedStripe "whsec_test" emptyObject rotatedHeader 1000 := by
  have stamped : lastValue (Stripe.signaturePairs rotatedHeader) "t" = some "1000" := by
    rw [rotatedHeader_pairs]
    decide
  have last : lastValue (Stripe.signaturePairs rotatedHeader) "v1" = some previousV1 := by
    rw [rotatedHeader_pairs]
    decide
  have authentic : (Stripe.replayCheck rotatedStripe "whsec_test" emptyObject
      rotatedHeader).Authentic 1000 := by
    refine ⟨1000, ?_, by unfold Timely; decide, "1000", currentV1, stamped, ?_, currentV1_spells⟩
    · rw [Stripe.replayCheck, stamped]
      decide
    · rw [rotatedHeader_pairs]
      simp
  refine ⟨authentic, fun exact => ?_⟩
  obtain ⟨timestamp, signed, -⟩ := Stripe.pastChecks_iff.mp (exact.1.mpr authentic)
  obtain ⟨-, -, -, -, -, ts, v1, stamped', last', spells⟩ :=
    (Stripe.signedTimestamp_ok_iff length_knownMac).mp signed
  cases stamped.symm.trans stamped'
  cases last.symm.trans last'
  exact previousV1_unspelled spells

end Rotated

end Patala.Fiat
