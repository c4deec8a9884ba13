import Patala.Fiat.PayFast
import Patala.Lib.Joined

/-! What a notification's signature says about its fields. A field without a value is not signed
but counts as a field, and a key is signed as it is, separators and all. -/

namespace Patala.Fiat.PayFast

/-- The last value of a key among decoded fields. -/
def lastField (fields : List Kv) (key : String) : Option String :=
  lastValue (fields.map fun kv => (kv.key, kv.value)) key

/-- The last value of a key that is signed. -/
def lastSigned (fields : List Kv) (key : String) : Option String :=
  lastField (fields.filter (·.value ≠ "")) key

/-- The last field of the key has no value. -/
def Blanked (fields : List Kv) (key : String) : Prop := lastField fields key = some ""

section LastField

theorem lastField_concat {fields : List Kv} {kv : Kv} {key : String} :
    lastField (fields ++ [kv]) key = if kv.key = key then some kv.value else lastField fields key := by
  rw [lastField, List.map_append]
  exact lastValue_append_singleton

/-- A field that is left out of the signature changes no other field. -/
theorem lastField_ordered {pairs : List (String × String)} {key : String}
    (other : key ≠ "signature") :
    lastField (pairs.filterMap decodePair) key =
      lastField ((pairs.filter (·.1 ≠ "signature")).filterMap decodePair) key := by
  induction pairs using List.reverseRecOn with
  | nil => rfl
  | append_singleton front pair ih =>
    rw [List.filterMap_append, List.filter_append]
    by_cases own : pair.1 = "signature"
    · have unread : lastField (front.filterMap decodePair ++ [pair].filterMap decodePair) key =
          lastField (front.filterMap decodePair) key := by
        cases decoded : decodePair pair with
        | none => simp [decoded]
        | some kv =>
          have named : kv.key = "signature" := by
            obtain ⟨name, read, later⟩ := Option.bind_eq_some_iff.mp decoded
            obtain ⟨value, -, same⟩ := Option.bind_eq_some_iff.mp later
            have signature : queryUnescape "signature" = some "signature" := by decide
            rw [own, signature] at read
            cases same
            exact (Option.some.inj read).symm
          rw [List.filterMap_cons_some decoded, List.filterMap_nil, lastField_concat, named,
            if_neg (Ne.symm other)]
      rw [unread, ih]
      simp [own]
    · rw [List.filter_cons_of_pos (by simpa using own), List.filter_nil, List.filterMap_append]
      cases decoded : decodePair pair with
      | none => simp [decoded, ih]
      | some kv =>
        rw [List.filterMap_cons_some decoded, List.filterMap_nil, lastField_concat,
          lastField_concat, ih]

/-- The last value of a key is signed exactly when it is one. -/
theorem lastField_eq_some {fields : List Kv} {key value : String} (some_ : value ≠ "") :
    lastField fields key = some value ↔
      lastSigned fields key = some value ∧ ¬ Blanked fields key := by
  unfold Blanked lastSigned
  induction fields using List.reverseRecOn with
  | nil => simp [lastField, lastValue]
  | append_singleton front kv ih =>
    rw [List.filter_append]
    by_cases blank : kv.value = ""
    · rw [List.filter_cons_of_neg (by simp [blank]), List.filter_nil, List.append_nil,
        lastField_concat]
      by_cases own : kv.key = key
      · simp [own, blank, some_.symm]
      · rw [if_neg own, ih]
    · rw [List.filter_cons_of_pos (by simpa using blank), List.filter_nil, lastField_concat,
        lastField_concat]
      by_cases own : kv.key = key
      · simp [own, blank]
      · rw [if_neg own, if_neg own, ih]

end LastField

section SignedText

/-- No key that is signed holds a separator of fields. -/
def PlainKeys (fields : List Kv) : Prop :=
  ∀ kv ∈ fields, kv.value ≠ "" → '&' ∉ kv.key.toList

theorem Kv.toList_part (kv : Kv) :
    kv.part.toList = kv.key.toList ++ '=' :: (queryEscape kv.value).toList := by
  rw [part, String.toList_append, String.toList_append, List.append_assoc]
  rfl

/-- The value of a signed field starts behind its last equals sign. -/
theorem Kv.part_injective : Function.Injective Kv.part := by
  intro a b same
  have texts := congrArg String.toList same
  rw [a.toList_part, b.toList_part] at texts
  have none : ∀ s, (queryEscape s).toList.count '=' = 0 := fun s =>
    List.count_eq_zero.mpr fun member => (escaped_plain s '=' member).2.2 rfl
  obtain ⟨keys, values⟩ := Joined.append_cons_inj_right texts (by rw [none, none])
  have sameValues := queryEscape_injective (String.toList_inj.mp values)
  cases a
  cases b
  simp only [Kv.mk.injEq]
  exact ⟨String.toList_inj.mp keys, sameValues⟩

/-- What is signed behind the fields. -/
def passphrasePart (passphrase : String) : List String :=
  if passphrase = "" then [] else ["passphrase=" ++ queryEscape passphrase]

/-- The parts of a signed text, each without a separator when the keys are plain. -/
theorem parts_plain {fields : List Kv} (plain : PlainKeys fields) {passphrase part : String}
    (member : part ∈ (fields.filter (·.value ≠ "")).map Kv.part ++ passphrasePart passphrase) :
    '&' ∉ part.toList ∧ part ≠ "" := by
  rcases List.mem_append.mp member with signed | pass
  · obtain ⟨kv, held, same⟩ := List.mem_map.mp signed
    obtain ⟨inside, valued⟩ := List.mem_filter.mp held
    subst same
    constructor
    · rw [kv.toList_part]
      intro separator
      rcases List.mem_append.mp separator with key | value
      · exact plain kv inside (by simpa using valued) key
      · rcases List.mem_cons.mp value with equals | value
        · cases equals
        · exact (escaped_plain kv.value '&' value).2.1 rfl
    · intro empty
      have texts := kv.toList_part
      rw [empty] at texts
      exact absurd texts.symm (by simp)
  · unfold passphrasePart at pass
    split at pass
    · cases pass
    · rw [List.mem_singleton.mp pass, String.toList_append]
      constructor
      · intro separator
        rcases List.mem_append.mp separator with fixed | value
        · exact absurd fixed (by decide)
        · exact (escaped_plain passphrase '&' value).2.1 rfl
      · intro empty
        have texts := congrArg String.toList empty
        rw [String.toList_append] at texts
        exact absurd texts (by simp)

/-- Joined parts tell each other apart. -/
theorem joined_injective {parts parts' : List String}
    (plain : ∀ part ∈ parts, '&' ∉ part.toList ∧ part ≠ "")
    (plain' : ∀ part ∈ parts', '&' ∉ part.toList ∧ part ≠ "")
    (same : "&".intercalate parts = "&".intercalate parts') : parts = parts' := by
  have texts := congrArg String.toList same
  rw [String.toList_intercalate, String.toList_intercalate] at texts
  have split : ∀ parts : List String, (∀ part ∈ parts, '&' ∉ part.toList ∧ part ≠ "") →
      parts.map String.toList =
        ((['&'].intercalate (parts.map String.toList)).splitOn '&').filter (· ≠ []) := by
    intro parts plain
    cases parts with
    | nil => rfl
    | cons part rest =>
      rw [List.splitOn_intercalate '&' _ (by simp), List.filter_eq_self.mpr]
      · intro chars member
        obtain ⟨part, held, same⟩ := List.mem_map.mp member
        subst same
        simpa using (plain part held).2
      · intro chars member
        obtain ⟨part, held, same⟩ := List.mem_map.mp member
        subst same
        exact (plain part held).1
  have lists : parts.map String.toList = parts'.map String.toList := by
    rw [split parts plain, split parts' plain']
    exact congrArg (fun text => (text.splitOn '&').filter (· ≠ [])) texts
  exact List.map_injective_iff.mpr (fun _ _ => String.toList_inj.mp) lists

/-- With plain keys the signed text holds every field that has a value. -/
theorem signedText_injective {fields fields' : List Kv} {passphrase : String}
    (plain : PlainKeys fields) (plain' : PlainKeys fields')
    (same : signedText fields passphrase = signedText fields' passphrase) :
    fields.filter (·.value ≠ "") = fields'.filter (·.value ≠ "") := by
  have parts := joined_injective (fun _ member => parts_plain plain member)
    (fun _ member => parts_plain plain' member) same
  exact List.map_injective_iff.mpr Kv.part_injective (List.append_cancel_right parts)

end SignedText

/-- The fields of a body in the order they are signed. -/
def fieldsOf (rawBody : List UInt8) : List Kv :=
  match fromUtf8 rawBody with
  | none => []
  | some body => orderedFields body

theorem fieldsOf_asBytes (body : String) : fieldsOf (asBytes body) = orderedFields body := by
  rw [fieldsOf, fromUtf8_asBytes]

/-- The signature a body carries. -/
def signatureOf (rawBody : List UInt8) : Option String :=
  (parseQueryMap rawBody).toOption.bind (lastValue · "signature")

/-- The signed fields say that the payment is complete, and no later field blanks its status. -/
def Settles (fields : List Kv) : Prop :=
  lastSigned fields "payment_status" = some "COMPLETE" ∧ ¬ Blanked fields "payment_status"

/-- The amount that is signed, in cents. -/
def signedAmount (fields : List Kv) : Option UInt64 :=
  (lastSigned fields "amount_gross").bind fun amount => (majorStringToMinor amount "ZAR").toOption

/-- The signed fields make the same event. -/
structure SameReport (fields fields' : List Kv) : Prop where
  reference : lastSigned fields "m_payment_id" = lastSigned fields' "m_payment_id"
  eventId : lastSigned fields "pf_payment_id" = lastSigned fields' "pf_payment_id"
  settled : Settles fields ↔ Settles fields'
  amount : Settles fields → signedAmount fields = signedAmount fields'

/-- What an accepted body holds: its signature over its fields, and an event that its signed
fields make. -/
structure Accepted (md5 : List UInt8 → List UInt8) (passphrase : String) (rawBody : List UInt8)
    (event : PayFastNotificationEvent) : Prop where
  signature : signatureOf rawBody = some (computeSignature md5 (fieldsOf rawBody) passphrase)
  reference : lastSigned (fieldsOf rawBody) "m_payment_id" = some event.reference
  eventId : lastSigned (fieldsOf rawBody) "pf_payment_id" = some event.eventId
  settled : event.settled ↔ Settles (fieldsOf rawBody)
  amount : ∃ amountMinor, signedAmount (fieldsOf rawBody) = some amountMinor ∧
    event.amountMinor = if event.settled then amountMinor else 0

/-- A notification that can be evaluated has its four fields. -/
theorem evaluateNotification_ok {values : List (String × String)} {outcome : NotificationOutcome}
    (evaluated : evaluateNotification values = .ok outcome) :
    outcome.reference = (lastValue values "m_payment_id").getD "" ∧ outcome.reference ≠ "" ∧
      outcome.eventId = (lastValue values "pf_payment_id").getD "" ∧ outcome.eventId ≠ "" ∧
      (lastValue values "amount_gross").getD "" ≠ "" ∧
      (outcome.settled ↔ (lastValue values "payment_status").getD "" = "COMPLETE") ∧
      ∃ amountMinor, majorStringToMinor ((lastValue values "amount_gross").getD "") "ZAR" =
        .ok amountMinor ∧ outcome.amountMinor = if outcome.settled then amountMinor else 0 := by
  unfold evaluateNotification at evaluated
  simp only at evaluated
  split at evaluated
  · cases evaluated
  rename_i missing
  obtain ⟨named, worth⟩ := not_or.mp missing
  split at evaluated
  · cases evaluated
  rename_i numbered
  split at evaluated
  · cases evaluated
  rename_i amountMinor read
  split at evaluated
  · rename_i complete
    split at evaluated
    · cases evaluated
    · cases evaluated
      exact ⟨rfl, named, rfl, numbered, worth, by simp [complete], amountMinor, read, rfl⟩
  · rename_i incomplete
    cases evaluated
    exact ⟨rfl, named, rfl, numbered, worth, by simp [incomplete], amountMinor, read, rfl⟩

theorem eq_some_of_getD {found : Option String} {value : String} (read : found.getD "" = value)
    (valued : value ≠ "") : found = some value := by
  cases found with
  | none => exact absurd read.symm valued
  | some own => exact congrArg some read

variable {md5 : List UInt8 → List UInt8} {passphrase : String}

theorem accepted_of_ok {rawBody : List UInt8} {event : PayFastNotificationEvent}
    (accepted : verifyAndParse md5 passphrase rawBody = .ok event) :
    Accepted md5 passphrase rawBody event := by
  unfold verifyAndParse at accepted
  cases text : fromUtf8 rawBody with
  | none => simp [parseQueryMap, text] at accepted
  | some body =>
    have parsed : parseQueryMap rawBody =
        .ok (((rawPairs body).filterMap decodePair).map fun kv => (kv.key, kv.value)) := by
      rw [parseQueryMap, text]
    have fields : fieldsOf rawBody = orderedFields body := by
      rw [fieldsOf, text]
    have values : ∀ key, key ≠ "signature" → lastValue (((rawPairs body).filterMap decodePair).map
        fun kv => (kv.key, kv.value)) key = lastField (fieldsOf rawBody) key := by
      intro key other
      rw [fields]
      exact lastField_ordered other
    rw [parsed] at accepted
    simp only at accepted
    split at accepted
    · cases accepted
    rename_i given
    split at accepted
    · cases accepted
    rename_i signed
    split at accepted
    · cases accepted
    rename_i outcome evaluated
    cases accepted
    obtain ⟨reference, named, eventId, numbered, worth, settled, amountMinor, read, amount⟩ :=
      evaluateNotification_ok evaluated
    rw [values _ (by decide)] at reference eventId worth settled read
    rw [Bool.not_eq_true, Bool.not_eq_false', verifySignature, if_neg given, text] at signed
    have same := constantTimeEq_iff.mp signed
    refine ⟨?_, ?_, ?_, ?_, amountMinor, ?_, amount⟩
    · rw [signatureOf, parsed, fields, same]
      exact eq_some_of_getD rfl given
    · exact (lastField_eq_some named).mp (eq_some_of_getD reference.symm named) |>.1
    · exact (lastField_eq_some numbered).mp (eq_some_of_getD eventId.symm numbered) |>.1
    · rw [Settles, ← lastField_eq_some (by decide)]
      refine settled.trans ⟨fun complete => eq_some_of_getD complete (by decide), fun complete => ?_⟩
      rw [complete]
      rfl
    · rw [signedAmount, ((lastField_eq_some worth).mp (eq_some_of_getD rfl worth)).1,
        Option.bind_some, read]
      rfl

/-- Accepted bodies carry one signature when their fields with a value are the same. -/
theorem one_signature_of_fields {rawBody rawBody' : List UInt8}
    {event event' : PayFastNotificationEvent} (accepted : Accepted md5 passphrase rawBody event)
    (accepted' : Accepted md5 passphrase rawBody' event')
    (same : (fieldsOf rawBody).filter (·.value ≠ "") = (fieldsOf rawBody').filter (·.value ≠ "")) :
    signatureOf rawBody = signatureOf rawBody' ∧
      signedText (fieldsOf rawBody) passphrase = signedText (fieldsOf rawBody') passphrase := by
  have texts : signedText (fieldsOf rawBody) passphrase =
      signedText (fieldsOf rawBody') passphrase := by
    rw [signedText, same, signedText]
  refine ⟨?_, texts⟩
  rw [accepted.signature, accepted'.signature, computeSignature, texts, computeSignature]

/-- Accepted bodies make the same event exactly when their signed fields do. -/
theorem event_eq_iff {rawBody rawBody' : List UInt8} {event event' : PayFastNotificationEvent}
    (accepted : Accepted md5 passphrase rawBody event)
    (accepted' : Accepted md5 passphrase rawBody' event') :
    event = event' ↔ SameReport (fieldsOf rawBody) (fieldsOf rawBody') := by
  obtain ⟨amountMinor, signed, amount⟩ := accepted.amount
  obtain ⟨amountMinor', signed', amount'⟩ := accepted'.amount
  constructor
  · intro same
    subst same
    refine ⟨accepted.reference.trans accepted'.reference.symm,
      accepted.eventId.trans accepted'.eventId.symm,
      accepted.settled.symm.trans accepted'.settled, fun settles => ?_⟩
    rw [if_pos (accepted.settled.mpr settles)] at amount amount'
    rw [signed, signed', ← amount, ← amount']
  · intro same
    have references := accepted.reference.symm.trans (same.reference.trans accepted'.reference)
    have eventIds := accepted.eventId.symm.trans (same.eventId.trans accepted'.eventId)
    have settled : event.settled = event'.settled := Bool.eq_iff_iff.mpr
      (accepted.settled.trans (same.settled.trans accepted'.settled.symm))
    have amounts : event.amountMinor = event'.amountMinor := by
      rw [amount, amount', ← settled]
      by_cases settles : event.settled
      · have worth := same.amount (accepted.settled.mp settles)
        rw [signed, signed'] at worth
        rw [if_pos settles, if_pos settles, Option.some.inj worth]
      · rw [if_neg settles, if_neg settles]
    cases event
    cases event'
    simp only [PayFastNotificationEvent.mk.injEq]
    exact ⟨Option.some.inj references, Option.some.inj eventIds, settled, amounts⟩

/-- Where the fields with a value are the same, the reports are the same up to a blanked status. -/
theorem sameReport_iff {fields fields' : List Kv}
    (same : fields.filter (·.value ≠ "") = fields'.filter (·.value ≠ "")) :
    SameReport fields fields' ↔ (lastSigned fields "payment_status" = some "COMPLETE" →
      (Blanked fields "payment_status" ↔ Blanked fields' "payment_status")) := by
  have signed : ∀ key, lastSigned fields key = lastSigned fields' key := by
    intro key
    rw [lastSigned, same, lastSigned]
  constructor
  · intro ⟨_, _, settled, _⟩ complete
    have complete' := (signed _).symm.trans complete
    constructor
    · intro blanked
      by_contra clear
      exact (settled.mpr ⟨complete', clear⟩).2 blanked
    · intro blanked
      by_contra clear
      exact (settled.mp ⟨complete, clear⟩).2 blanked
  · intro blanked
    refine ⟨signed _, signed _, ?_, fun _ => by rw [signedAmount, signed, signedAmount]⟩
    constructor
    · intro ⟨complete, clear⟩
      exact ⟨(signed _).symm.trans complete, fun later => clear ((blanked complete).mpr later)⟩
    · intro ⟨complete, clear⟩
      have complete' := (signed _).trans complete
      exact ⟨complete', fun later => clear ((blanked complete').mp later)⟩

/-- Two accepted bodies with one signature make one event exactly when their signed fields make
the same report. With no separator in a key that is signed, they do unless only one of them
blanks the status of a complete payment. -/
theorem one_signature_iff {rawBody rawBody' : List UInt8} {event event' : PayFastNotificationEvent}
    (accepted : verifyAndParse md5 passphrase rawBody = .ok event)
    (accepted' : verifyAndParse md5 passphrase rawBody' = .ok event')
    (oneSignature : signatureOf rawBody = signatureOf rawBody')
    (noCollision : md5 (asBytes (signedText (fieldsOf rawBody) passphrase)) =
      md5 (asBytes (signedText (fieldsOf rawBody') passphrase)) →
      signedText (fieldsOf rawBody) passphrase = signedText (fieldsOf rawBody') passphrase) :
    (event = event' ↔ SameReport (fieldsOf rawBody) (fieldsOf rawBody')) ∧
      (PlainKeys (fieldsOf rawBody) → PlainKeys (fieldsOf rawBody') → (event = event' ↔
        (lastSigned (fieldsOf rawBody) "payment_status" = some "COMPLETE" →
          (Blanked (fieldsOf rawBody) "payment_status" ↔
            Blanked (fieldsOf rawBody') "payment_status")))) := by
  have holds := accepted_of_ok accepted
  have holds' := accepted_of_ok accepted'
  have digests := congrArg Codec.hexDecode
    (Option.some.inj (holds.signature.symm.trans (oneSignature.trans holds'.signature)))
  rw [computeSignature, computeSignature, Codec.hexDecode_hexEncode, Codec.hexDecode_hexEncode]
    at digests
  refine ⟨event_eq_iff holds holds', fun plain plain' => (event_eq_iff holds holds').trans ?_⟩
  exact sameReport_iff (signedText_injective plain plain' (noCollision (Option.some.inj digests)))

namespace Sample

def itnFields : String :=
  "m_payment_id=ord_1&pf_payment_id=pf_1&payment_status=COMPLETE&amount_gross=100.00"

def itnSignature : String := "a0e80d847f6cdf97bf5e7746f3ed529f"

/-- MD5 where it is computed here. -/
def itnMd5 (bytes : List UInt8) : List UInt8 :=
  if bytes = asBytes (itnFields ++ "&passphrase=test-passphrase") then
    (Codec.hexDecode itnSignature).getD []
  else []

/-- A notification, and the same one with an empty status put behind it. -/
def completeItn : String := itnFields ++ "&signature=" ++ itnSignature

def blankedItn : String := completeItn ++ "&payment_status="

/-- The notification with an underscore of its reference escaped. -/
def escapedItn : String :=
  "m_payment_id=ord%5F1&pf_payment_id=pf_1&payment_status=COMPLETE&amount_gross=100.00" ++
    "&signature=" ++ itnSignature

/-- The fields of the three notifications. -/
def itnKvs : List Kv :=
  [⟨"m_payment_id", "ord_1"⟩, ⟨"pf_payment_id", "pf_1"⟩, ⟨"payment_status", "COMPLETE"⟩,
    ⟨"amount_gross", "100.00"⟩]

theorem complete_read : orderedFields completeItn = itnKvs ∧
    verifyAndParse itnMd5 "test-passphrase" (asBytes completeItn) = .ok ⟨"ord_1", "pf_1", true, 10000⟩ := by
  have pairs : rawPairs completeItn = [("m_payment_id", "ord_1"), ("pf_payment_id", "pf_1"),
      ("payment_status", "COMPLETE"), ("amount_gross", "100.00"), ("signature", itnSignature)] :=
    (rawPairs_of_chars (Codec.append_of_chars (Codec.append_of_chars rfl rfl) rfl)).trans (by decide)
  constructor
  · rw [orderedFields, pairs]
    decide
  · simp only [verifyAndParse, parseQueryMap, verifySignature, fromUtf8_asBytes, orderedFields, pairs]
    decide

theorem escaped_read : orderedFields escapedItn = itnKvs ∧
    verifyAndParse itnMd5 "test-passphrase" (asBytes escapedItn) = .ok ⟨"ord_1", "pf_1", true, 10000⟩ := by
  have pairs : rawPairs escapedItn = [("m_payment_id", "ord%5F1"), ("pf_payment_id", "pf_1"),
      ("payment_status", "COMPLETE"), ("amount_gross", "100.00"), ("signature", itnSignature)] :=
    (rawPairs_of_chars (Codec.append_of_chars (Codec.append_of_chars rfl rfl) rfl)).trans (by decide)
  constructor
  · rw [orderedFields, pairs]
    decide
  · simp only [verifyAndParse, parseQueryMap, verifySignature, fromUtf8_asBytes, orderedFields, pairs]
    decide

theorem blanked_read : orderedFields blankedItn = itnKvs ++ [⟨"payment_status", ""⟩] ∧
    verifyAndParse itnMd5 "test-passphrase" (asBytes blankedItn) = .ok ⟨"ord_1", "pf_1", false, 0⟩ := by
  have pairs : rawPairs blankedItn = [("m_payment_id", "ord_1"), ("pf_payment_id", "pf_1"),
      ("payment_status", "COMPLETE"), ("amount_gross", "100.00"), ("signature", itnSignature),
      ("payment_status", "")] :=
    (rawPairs_of_chars (Codec.append_of_chars
      (Codec.append_of_chars (Codec.append_of_chars rfl rfl) rfl) rfl)).trans (by decide)
  constructor
  · rw [orderedFields, pairs]
    decide
  · simp only [verifyAndParse, parseQueryMap, verifySignature, fromUtf8_asBytes, orderedFields, pairs]
    decide

theorem escaped_signed : (fieldsOf (asBytes completeItn)).filter (·.value ≠ "") =
    (fieldsOf (asBytes escapedItn)).filter (·.value ≠ "") := by
  rw [fieldsOf_asBytes, fieldsOf_asBytes, complete_read.1, escaped_read.1]

theorem blanked_signed : (fieldsOf (asBytes completeItn)).filter (·.value ≠ "") =
    (fieldsOf (asBytes blankedItn)).filter (·.value ≠ "") := by
  rw [fieldsOf_asBytes, fieldsOf_asBytes, complete_read.1, blanked_read.1]
  decide

end Sample

theorem one_signature_iff_escaped :
    SameReport (fieldsOf (asBytes Sample.completeItn)) (fieldsOf (asBytes Sample.escapedItn)) :=
  have one := one_signature_of_fields (accepted_of_ok Sample.complete_read.2)
    (accepted_of_ok Sample.escaped_read.2) Sample.escaped_signed
  (one_signature_iff Sample.complete_read.2 Sample.escaped_read.2 one.1 fun _ => one.2).1.mp rfl

/-- An empty status behind a signed notification unsettles it under the same signature. -/
theorem empty_status_unsettles :
    ¬ ∀ md5 passphrase rawBody rawBody' event event',
      verifyAndParse md5 passphrase rawBody = .ok event →
      verifyAndParse md5 passphrase rawBody' = .ok event' →
      signatureOf rawBody = signatureOf rawBody' →
      (md5 (asBytes (signedText (fieldsOf rawBody) passphrase)) =
        md5 (asBytes (signedText (fieldsOf rawBody') passphrase)) →
        signedText (fieldsOf rawBody) passphrase = signedText (fieldsOf rawBody') passphrase) →
      event = event' := by
  intro claim
  have one := one_signature_of_fields (accepted_of_ok Sample.complete_read.2)
    (accepted_of_ok Sample.blanked_read.2) Sample.blanked_signed
  have same := claim Sample.itnMd5 "test-passphrase" (asBytes Sample.completeItn)
    (asBytes Sample.blankedItn) _ _ Sample.complete_read.2 Sample.blanked_read.2 one.1
    fun _ => one.2
  cases same

end Patala.Fiat.PayFast
