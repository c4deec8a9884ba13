import Mathlib.Data.Vector.Defs
import Patala.Fiat.Iyzico
import Patala.Fiat.PayFastSignature
import Patala.Json.Stringify

/-! PayFast's charge: a form the buyer's browser is to post, signed over its own fields. What is
escaped into it is read back by the rail's own readers of a body. -/

namespace Patala.Fiat.PayFast

open Fallible Iyzico UrlPath

structure PayFastConfig where
  merchantId : String
  merchantKey : String
  passphrase : String

def railId : String := "payfast"

/-- `PAYFAST_PROCESS_URL`. -/
def processUrl : String := "https://www.payfast.co.za/eng/process"

structure ChargeProof where
  processUrl : String
  signedFieldsQuery : String

def ChargeProof.toBytes (proof : ChargeProof) : List UInt8 :=
  asBytes (Json.stringify (.object [("process_url", .string proof.processUrl),
    ("signed_fields_query", .string proof.signedFieldsQuery)]))

def unsupportedCurrency (got : String) : Error :=
  .invalidRequest s!"payfast: only ZAR is supported, got {debugStr got}"

section Charge

variable (md5 : List UInt8 → List UInt8) (config : PayFastConfig)

/-- The fields of a charge, in the order they are signed; a caller fills in `notify_url`. -/
def chargeFields (req : PayRequest) (amountStr : String) : List Kv :=
  let callback := trim req.destination.text
  [⟨"merchant_id", config.merchantId⟩, ⟨"merchant_key", config.merchantKey⟩,
    ⟨"return_url", callback⟩, ⟨"cancel_url", callback⟩, ⟨"notify_url", ""⟩,
    ⟨"m_payment_id", req.reference.text⟩, ⟨"amount", amountStr⟩,
    ⟨"item_name", "Order " ++ req.reference.text⟩]

/-- The loop that puts the fields with a value behind one another. -/
def joinFields (fields : List Kv) : String :=
  fields.foldl (fun qs kv =>
    if kv.value = "" then qs else (if qs = "" then qs else qs ++ "&") ++ kv.part) ""

def signedFieldsQuery (fields : List Kv) : String :=
  joinFields fields ++ "&signature=" ++ computeSignature md5 fields config.passphrase

/-- What `charge` makes of a request, before it is put into a receipt. -/
def chargeProof (req : PayRequest) : Except Error ChargeProof := do
  req.validate
  insist (eqIgnoreAsciiCase req.currency "ZAR") (unsupportedCurrency req.currency)
  let amountStr ← (minorToMajorString req.amountMinor "ZAR").mapError fun e =>
    Error.invalidRequest e.toString
  return ⟨processUrl, signedFieldsQuery md5 config (chargeFields config req amountStr)⟩

def charge (req : PayRequest) : Except Error Receipt := do
  let proof ← chargeProof md5 config req
  return ⟨railId, 0, "ZAR", req.reference, proof.toBytes, 0⟩

end Charge

section Unescape

/-- What stands behind a percent sign is read as a number in base sixteen. -/
def radixBehind : List UInt8 → Bool
  | high :: low :: _ => (fromStrRadix16 high low).isSome
  | _ => false

/-- Two digits stand behind a percent sign. -/
def digitsBehind (behind : List UInt8) : Bool := (escapedByte behind).isSome

theorem radixBehind_iff {behind : List UInt8} :
    radixBehind behind = true ↔ digitsBehind behind = true ∨ plusDigit behind = true := by
  rcases behind with _ | ⟨high, _ | ⟨low, rest⟩⟩
  · simp [radixBehind, digitsBehind, escapedByte, plusDigit]
  · simp [radixBehind, digitsBehind, escapedByte, plusDigit]
  · simp only [radixBehind, digitsBehind, escapedByte, plusDigit, Option.isSome_iff_exists,
      fromStrRadix16_eq_some, Bool.and_eq_true, decide_eq_true_eq]
    constructor
    · rintro ⟨byte, strict | ⟨plus, value, digit, -⟩⟩
      · exact .inl ⟨byte, strict⟩
      · exact .inr ⟨plus, value, digit⟩
    · rintro (⟨byte, strict⟩ | ⟨plus, value, digit⟩)
      · exact ⟨byte, .inl strict⟩
      · exact ⟨UInt8.ofNat value, .inr ⟨plus, value, digit, rfl⟩⟩

/-- A byte in front of what is unescaped behind it. -/
theorem push_some_iff {b : UInt8} {rest : Option (List UInt8)} {decoded out : List UInt8}
    {every : Prop} (behind : ∀ out, rest = some out ↔ every ∧ decoded = out) :
    rest.map (b :: ·) = some out ↔ every ∧ b :: decoded = out := by
  simp only [Option.map_eq_some_iff, behind]
  constructor
  · rintro ⟨_, ⟨holds, rfl⟩, same⟩
    exact ⟨holds, same⟩
  · rintro ⟨holds, same⟩
    exact ⟨decoded, ⟨holds, rfl⟩, same⟩

/-- Unescaping comes to an end when every percent sign is in front of a number. -/
theorem unescapeBytes_eq_some_iff {bytes out : List UInt8} :
    unescapeBytes bytes = some out ↔
      EveryPercent (radixBehind ·) bytes ∧ Mollie.percentDecodeBytes bytes = out := by
  induction bytes using Mollie.percentDecodeBytes.induct generalizing out with
  | case1 => simp [unescapeBytes, Mollie.percentDecodeBytes, everyPercent_nil]
  | case2 rest ih =>
    rw [unescapeBytes_plus, push_some_iff fun _ => ih, everyPercent_cons, Mollie.percentDecodeBytes]
    simp
  | case3 high low rest byte read ih =>
    rw [unescapeBytes, if_neg (by decide), if_pos rfl, everyPercent_digits read,
      Mollie.percentDecodeBytes, read]
    simp only [radixBehind, read, Option.isSome_some, true_and, Option.bind_some]
    exact push_some_iff fun _ => ih
  | case4 high low rest read ih =>
    rw [unescapeBytes, if_neg (by decide), if_pos rfl, everyPercent_cons]
    simp [radixBehind, read]
  | case5 b rest notPlus notEscape ih =>
    by_cases percent : b = 0x25
    · have short : radixBehind rest = false ∧ unescapeBytes (b :: rest) = none := by
        rcases rest with _ | ⟨high, _ | ⟨low, more⟩⟩
        · exact ⟨rfl, by simp [unescapeBytes, percent]⟩
        · exact ⟨rfl, by simp [unescapeBytes, percent]⟩
        · exact absurd rfl (notEscape high low more percent)
      rw [short.2, everyPercent_cons]
      simp [short.1, percent]
    · rw [unescapeBytes_cons notPlus percent, push_some_iff fun _ => ih, everyPercent_cons,
        Mollie.percentDecodeBytes]
      · simp [percent]
      · exact notPlus
      · exact notEscape

/-- Every percent sign stands in front of two digits, and what the text stands for is a text. -/
def Decodable (t : String) : Prop :=
  EveryPercent (digitsBehind ·) (asBytes t) ∧ IsText (formDecodeBytes (asBytes t))

/-- A text that is unescaped has a number behind every percent sign. -/
theorem queryUnescape_isSome_iff {t : String} :
    (∃ s, queryUnescape t = some s) ↔
      EveryPercent (radixBehind ·) (asBytes t) ∧ IsText (formDecodeBytes (asBytes t)) := by
  have texts : IsText (Mollie.percentDecodeBytes (asBytes t)) ↔
      IsText (formDecodeBytes (asBytes t)) := (percentDecodeBytes_follows (asBytes t)).text []
  simp only [queryUnescape, Option.bind_eq_some_iff, unescapeBytes_eq_some_iff, ← texts, isText_iff]
  constructor
  · rintro ⟨s, _, ⟨every, rfl⟩, read⟩
    exact ⟨every, s, read⟩
  · rintro ⟨every, s, read⟩
    exact ⟨s, _, ⟨every, rfl⟩, read⟩

end Unescape

section Query

/-- A joined text is empty when there is nothing to join. -/
theorem intercalate_eq_empty_iff {parts : List String} (filled : ∀ part ∈ parts, part ≠ "") :
    "&".intercalate parts = "" ↔ parts = [] := by
  cases parts with
  | nil => simp
  | cons part rest =>
    obtain ⟨here, -⟩ := List.forall_mem_cons.mp filled
    cases rest with
    | nil => simpa using here
    | cons next more => simp [String.intercalate_cons_cons, here]

theorem Kv.part_ne_empty (kv : Kv) : kv.part ≠ "" := by
  intro empty
  have texts := kv.toList_part
  rw [empty] at texts
  exact absurd texts.symm (by simp)

/-- The loop joins the fields with a value. -/
theorem joinFields_eq (fields : List Kv) :
    joinFields fields = "&".intercalate ((fields.filter (·.value ≠ "")).map Kv.part) := by
  have filled : ∀ kvs : List Kv, ∀ part ∈ kvs.map Kv.part, part ≠ "" := by
    intro kvs part member
    obtain ⟨kv, -, rfl⟩ := List.mem_map.mp member
    exact kv.part_ne_empty
  induction fields using List.reverseRecOn with
  | nil => rfl
  | append_singleton front kv ih =>
    rw [joinFields, List.foldl_append, ← joinFields, List.foldl_cons, List.foldl_nil, ih,
      List.filter_append]
    by_cases blank : kv.value = ""
    · simp [blank]
    · rw [if_neg blank, List.filter_cons_of_pos (by simpa using blank), List.filter_nil,
        List.map_append]
      by_cases nothing : (front.filter (·.value ≠ "")).map Kv.part = []
      · rw [nothing]
        simp
      · rw [if_neg fun empty => nothing ((intercalate_eq_empty_iff (filled _)).mp empty),
          String.intercalate_append_of_ne_nil nothing (by simp)]
        simp

/-- Pairs without separators are split as they were joined. -/
theorem rawPairs_joined {pairs : List (String × String)} (filled : pairs ≠ [])
    (plain : ∀ pair ∈ pairs, '&' ∉ pair.1.toList ∧ '=' ∉ pair.1.toList ∧ '&' ∉ pair.2.toList) :
    rawPairs ("&".intercalate (pairs.map fun pair => pair.1 ++ "=" ++ pair.2)) = pairs := by
  have texts : ∀ pair : String × String, (pair.1 ++ "=" ++ pair.2).toList =
      pair.1.toList ++ '=' :: pair.2.toList := by
    intro pair
    simp
  have cut : ("&".intercalate (pairs.map fun pair => pair.1 ++ "=" ++ pair.2)).toList.splitOn '&' =
      pairs.map fun pair => pair.1.toList ++ '=' :: pair.2.toList := by
    rw [String.toList_intercalate, List.map_map]
    have same : (String.toList ∘ fun pair : String × String => pair.1 ++ "=" ++ pair.2) =
        fun pair => pair.1.toList ++ '=' :: pair.2.toList := funext texts
    rw [same]
    refine List.splitOn_intercalate '&' (fun text member => ?_) (by simpa using filled)
    obtain ⟨pair, listed, rfl⟩ := List.mem_map.mp member
    obtain ⟨key, -, value⟩ := plain pair listed
    simp [key, value]
  have written : ∀ text ∈ pairs.map fun pair => pair.1.toList ++ '=' :: pair.2.toList,
      decide (text ≠ []) = true := by
    intro text member
    obtain ⟨pair, -, rfl⟩ := List.mem_map.mp member
    simp
  rw [rawPairs, cut, List.filter_eq_self.mpr written, List.map_map]
  conv_rhs => rw [← List.map_id pairs]
  refine List.map_congr_left fun pair listed => ?_
  have before : ∀ c ∈ pair.1.toList, decide (c ≠ '=') = true := by
    intro c member
    refine decide_eq_true fun equals => (plain pair listed).2.1 ?_
    rwa [← equals]
  simp only [Function.comp_apply, id]
  rw [List.takeWhile_append_of_pos before, List.dropWhile_append_of_pos before]
  simp

theorem queryUnescape_of_plain {text : String}
    (plain : ∀ c ∈ text.toList, c.toNat < 128 ∧ c ≠ '+' ∧ c ≠ '%') :
    queryUnescape text = some text := by
  have kept : ∀ bytes : List UInt8, (∀ b ∈ bytes, b ≠ 0x2B ∧ b ≠ 0x25) →
      unescapeBytes bytes = some bytes := by
    intro bytes each
    induction bytes with
    | nil => rfl
    | cons b rest ih =>
      obtain ⟨⟨notPlus, notPercent⟩, later⟩ := List.forall_mem_cons.mp each
      rw [unescapeBytes_cons notPlus notPercent, ih later]
      rfl
  have bytes : asBytes text = charBytes text.toList := by
    have encoded := Codec.bytes_ofList fun c member => (plain c member).1
    rwa [String.ofList_toList] at encoded
  have others : ∀ b ∈ asBytes text, b ≠ 0x2B ∧ b ≠ 0x25 := by
    intro b member
    rw [bytes] at member
    obtain ⟨c, listed, rfl⟩ := List.mem_map.mp member
    obtain ⟨small, notPlus, notPercent⟩ := plain c listed
    have code {d : Char} (same : UInt8.ofNat c.toNat = UInt8.ofNat d.toNat) (ascii : d.toNat < 128) :
        c = d := by
      rw [← toNat_ofNat_ascii small, same, toNat_ofNat_ascii ascii]
    exact ⟨fun same => notPlus (code same (by decide)), fun same => notPercent (code same (by decide))⟩
  rw [queryUnescape, kept _ others, Option.bind_some, fromUtf8_asBytes]

/-- A signature is written in hexadecimal digits. -/
theorem signature_plain (bytes : List UInt8) :
    ∀ c ∈ (Codec.hexEncode bytes).toList, (c.toNat < 128 ∧ c ≠ '+' ∧ c ≠ '%') ∧ c ≠ '&' :=
  Codec.forall_of_hexDecode (by decide) (Codec.hexDecode_hexEncode bytes)

/-- A name that stands in a form as it is. -/
def NamesField (key : String) : Prop :=
  (∀ c ∈ key.toList, (c.toNat < 128 ∧ c ≠ '+' ∧ c ≠ '%') ∧ c ≠ '&' ∧ c ≠ '=') ∧ key ≠ "signature"

/-- What a field is put into a query as. -/
def Kv.raw (kv : Kv) : String × String := (kv.key, queryEscape kv.value)

theorem namesField_of_all {key : String} (other : key ≠ "signature")
    (plain : (key.toList.all fun c =>
      decide ((c.toNat < 128 ∧ c ≠ '+' ∧ c ≠ '%') ∧ c ≠ '&' ∧ c ≠ '=')) = true) : NamesField key :=
  ⟨Codec.forall_mem_of_all plain, other⟩

theorem decodePair_raw {kv : Kv} (named : NamesField kv.key) : decodePair kv.raw = some kv := by
  have key := queryUnescape_of_plain fun c member => (named.1 c member).1
  rw [decodePair, Kv.raw]
  simp only [key, queryUnescape_queryEscape]
  rfl

section Signed

variable {md5 : List UInt8 → List UInt8} {config : PayFastConfig} {fields : List Kv}

/-- The query is read as the fields with a value and the signature. -/
theorem rawPairs_signedFieldsQuery (named : ∀ kv ∈ fields, NamesField kv.key)
    (valued : fields.filter (·.value ≠ "") ≠ []) :
    rawPairs (signedFieldsQuery md5 config fields) =
      (fields.filter (·.value ≠ "")).map Kv.raw ++
        [("signature", computeSignature md5 fields config.passphrase)] := by
  have parts : ((fields.filter (·.value ≠ "")).map Kv.raw).map (fun pair => pair.1 ++ "=" ++ pair.2) =
      (fields.filter (·.value ≠ "")).map Kv.part := by
    rw [List.map_map]
    rfl
  have joined : signedFieldsQuery md5 config fields = "&".intercalate
      (((fields.filter (·.value ≠ "")).map Kv.raw ++
        [("signature", computeSignature md5 fields config.passphrase)]).map
          fun pair => pair.1 ++ "=" ++ pair.2) := by
    rw [signedFieldsQuery, joinFields_eq, List.map_append, parts,
      String.intercalate_append_of_ne_nil (by simpa using valued) (by simp), List.map_cons,
      List.map_nil, String.intercalate_singleton]
    have mark : "&signature=" = "&" ++ "signature" ++ "=" := by decide
    rw [mark]
    simp only [String.append_assoc]
  rw [joined, rawPairs_joined (by simp)]
  intro pair member
  rcases List.mem_append.mp member with field | signature
  · obtain ⟨kv, listed, rfl⟩ := List.mem_map.mp field
    have plain := (named kv (List.mem_filter.mp listed).1).1
    exact ⟨fun inside => (plain '&' inside).2.1 rfl, fun inside => (plain '=' inside).2.2 rfl,
      fun inside => (escaped_plain kv.value '&' inside).2.1 rfl⟩
  · rw [List.mem_singleton.mp signature]
    have name : '&' ∉ "signature".toList ∧ '=' ∉ "signature".toList := by decide
    exact ⟨name.1, name.2, fun inside => (signature_plain _ '&' inside).2 rfl⟩

theorem filterMap_decodePair_raw {kvs : List Kv} (named : ∀ kv ∈ kvs, NamesField kv.key) :
    (kvs.map Kv.raw).filterMap decodePair = kvs := by
  induction kvs with
  | nil => rfl
  | cons kv rest ih =>
    obtain ⟨here, later⟩ := List.forall_mem_cons.mp named
    rw [List.map_cons, List.filterMap_cons_some (decodePair_raw here), ih later]

theorem decodePair_signature (bytes : List UInt8) :
    decodePair ("signature", Codec.hexEncode bytes) = some ⟨"signature", Codec.hexEncode bytes⟩ := by
  have value := queryUnescape_of_plain fun c member => (signature_plain bytes c member).1
  have key : queryUnescape "signature" = some "signature" := by decide
  rw [decodePair]
  simp only [key, value]
  rfl

/-- The query's own signature is accepted. -/
theorem verifySignature_signedFieldsQuery (named : ∀ kv ∈ fields, NamesField kv.key)
    (valued : fields.filter (·.value ≠ "") ≠ []) (digest : ∀ message, md5 message ≠ []) :
    verifySignature md5 (asBytes (signedFieldsQuery md5 config fields))
      (computeSignature md5 fields config.passphrase) config.passphrase = true := by
  have kept : ∀ kv ∈ fields.filter (·.value ≠ ""), NamesField kv.key :=
    fun kv member => named kv (List.mem_filter.mp member).1
  have others : ((fields.filter (·.value ≠ "")).map Kv.raw).filter (·.1 ≠ "signature") =
      (fields.filter (·.value ≠ "")).map Kv.raw := by
    refine List.filter_eq_self.mpr fun pair member => ?_
    obtain ⟨kv, listed, rfl⟩ := List.mem_map.mp member
    exact decide_eq_true (kept kv listed).2
  have ordered : orderedFields (signedFieldsQuery md5 config fields) =
      fields.filter (·.value ≠ "") := by
    rw [orderedFields, rawPairs_signedFieldsQuery named valued, List.filter_append, others]
    simpa using filterMap_decodePair_raw kept
  have written : computeSignature md5 fields config.passphrase ≠ "" := by
    intro empty
    have bytes := congrArg Codec.hexDecode empty
    rw [computeSignature, Codec.hexDecode_hexEncode] at bytes
    exact digest _ (Option.some.inj (bytes.trans (by decide : Codec.hexDecode "" = some [])))
  have same : computeSignature md5 (fields.filter (·.value ≠ "")) config.passphrase =
      computeSignature md5 fields config.passphrase := by
    rw [computeSignature, signedText, List.filter_filter]
    simp only [Bool.and_self]
    rfl
  rw [verifySignature, if_neg written, fromUtf8_asBytes]
  simp only
  rw [ordered, same]
  exact constantTimeEq_iff.mpr rfl

/-- The query is read as the map of the fields with a value and the signature. -/
theorem parseQueryMap_signedFieldsQuery (named : ∀ kv ∈ fields, NamesField kv.key)
    (valued : fields.filter (·.value ≠ "") ≠ []) :
    parseQueryMap (asBytes (signedFieldsQuery md5 config fields)) =
      .ok ((fields.filter (·.value ≠ "")).map (fun kv => (kv.key, kv.value)) ++
        [("signature", computeSignature md5 fields config.passphrase)]) := by
  have kept : ∀ kv ∈ fields.filter (·.value ≠ ""), NamesField kv.key :=
    fun kv member => named kv (List.mem_filter.mp member).1
  rw [parseQueryMap, fromUtf8_asBytes]
  simp only
  rw [rawPairs_signedFieldsQuery named valued, List.filterMap_append, filterMap_decodePair_raw kept,
    computeSignature, List.filterMap_cons_some (decodePair_signature _), List.filterMap_nil,
    List.map_append]
  rfl

end Signed

/-- A charge's fields have names that stand in a form as they are. -/
theorem chargeFields_named (config : PayFastConfig) (req : PayRequest) (amountStr : String) :
    ∀ kv ∈ chargeFields config req amountStr, NamesField kv.key := by
  simp only [chargeFields, List.forall_mem_cons]
  refine ⟨?_, ?_, ?_, ?_, ?_, ?_, ?_, ?_, nofun⟩
  all_goals exact namesField_of_all (by decide) rfl

theorem chargeFields_keys_nodup (config : PayFastConfig) (req : PayRequest) (amountStr : String) :
    ((chargeFields config req amountStr).map Kv.key).Nodup := by
  show ["merchant_id", "merchant_key", "return_url", "cancel_url", "notify_url",
      "m_payment_id", "amount", "item_name"].Nodup
  decide

end Query

section Exactness

/-- A charge's query is accepted under the passphrase it was signed with and is read as the fields
with a value, each once, and the signature. -/
structure ReadBack (md5 : List UInt8 → List UInt8) (config : PayFastConfig) (query : String)
    (fields : List Kv) : Prop where
  accepted : verifySignature md5 (asBytes query) (computeSignature md5 fields config.passphrase)
    config.passphrase = true
  read : parseQueryMap (asBytes query) =
    .ok ((fields.filter (·.value ≠ "")).map (fun kv => (kv.key, kv.value)) ++
      [("signature", computeSignature md5 fields config.passphrase)])
  once : (((fields.filter (·.value ≠ "")).map Kv.key) ++ ["signature"]).Nodup

/-- Escaping is undone, a text is unescaped exactly when it can be decoded, and every charge is
read back. -/
structure Exact (t : String) : Prop where
  roundTrip : ∀ s, queryUnescape (queryEscape s) = some s
  decodes : (∃ s, queryUnescape t = some s) ↔ Decodable t
  charges : ∀ (md5 : List UInt8 → List.Vector UInt8 16) (config : PayFastConfig) (req : PayRequest)
    (proof : ChargeProof), chargeProof (fun message => (md5 message).toList) config req = .ok proof →
      ∃ amountStr, minorToMajorString req.amountMinor "ZAR" = .ok amountStr ∧
        ReadBack (fun message => (md5 message).toList) config proof.signedFieldsQuery
          (chargeFields config req amountStr)

/-- No percent sign stands in front of a plus sign and a digit, unless one stands in front of
neither that nor two digits, or what the text stands for is no text. -/
def Ordinary (t : String) : Prop :=
  EveryPercent (fun behind => digitsBehind behind = true ∨ plusDigit behind = true) (asBytes t) →
    IsText (formDecodeBytes (asBytes t)) → EveryPercent (fun behind => plusDigit behind = false) (asBytes t)

theorem chargeProof_readBack {md5 : List UInt8 → List UInt8} (digest : ∀ message, md5 message ≠ [])
    {config : PayFastConfig} {req : PayRequest} {proof : ChargeProof}
    (charged : chargeProof md5 config req = .ok proof) :
    ∃ amountStr, minorToMajorString req.amountMinor "ZAR" = .ok amountStr ∧
      ReadBack md5 config proof.signedFieldsQuery (chargeFields config req amountStr) := by
  simp only [chargeProof, bind_eq_ok, mapError_eq_ok] at charged
  obtain ⟨_, valid, _, _, amountStr, printed, same⟩ := charged
  cases same
  have named := chargeFields_named config req amountStr
  have callback : trim req.destination.text ≠ "" := (PayRequest.validate_ok_iff.mp valid).2.2.1
  have valued : (chargeFields config req amountStr).filter (·.value ≠ "") ≠ [] := by
    have listed : (⟨"return_url", trim req.destination.text⟩ : Kv) ∈
        (chargeFields config req amountStr).filter (·.value ≠ "") :=
      List.mem_filter.mpr ⟨by simp [chargeFields], by simpa using callback⟩
    exact List.ne_nil_of_mem listed
  refine ⟨amountStr, printed, ?_⟩
  constructor
  · exact verifySignature_signedFieldsQuery named valued digest
  · exact parseQueryMap_signedFieldsQuery named valued
  · refine List.nodup_append.mpr ⟨?_, by simp, ?_⟩
    · exact (List.filter_sublist.map Kv.key).nodup (chargeFields_keys_nodup config req amountStr)
    · intro key member other signature
      obtain ⟨kv, listed, rfl⟩ := List.mem_map.mp member
      rw [List.mem_singleton.mp signature]
      exact (named kv (List.mem_filter.mp listed).1).2

/-- Two digits are not a plus sign and a digit. -/
theorem plusDigit_of_digitsBehind {behind : List UInt8} (digits : digitsBehind behind = true) :
    plusDigit behind = false := by
  have noDigit : Codec.hexValue (Char.ofNat 0x2B) = none := by decide
  rcases behind with _ | ⟨high, _ | ⟨low, rest⟩⟩
  · rfl
  · rfl
  · have notPlus : high ≠ 0x2B := by
      rintro rfl
      simp [digitsBehind, escapedByte, hexByte, byteOf, noDigit] at digits
    simp [plusDigit, notPlus]

/-- A text is unescaped exactly when it can be decoded, unless an escape of it is signed. -/
theorem decodes_iff_ordinary {t : String} :
    ((∃ s, queryUnescape t = some s) ↔ Decodable t) ↔ Ordinary t := by
  rw [queryUnescape_isSome_iff]
  constructor
  · intro same every text
    have decodable := same.mp ⟨fun behind within => radixBehind_iff.mpr (every behind within), text⟩
    exact fun behind within => plusDigit_of_digitsBehind (decodable.1 behind within)
  · intro ordinary
    constructor
    · rintro ⟨every, text⟩
      have unsigned := ordinary (fun behind within => radixBehind_iff.mp (every behind within)) text
      refine ⟨fun behind within => ?_, text⟩
      refine (radixBehind_iff.mp (every behind within)).resolve_right fun plus => ?_
      rw [unsigned behind within] at plus
      cases plus
    · rintro ⟨every, text⟩
      exact ⟨fun behind within => radixBehind_iff.mpr (.inl (every behind within)), text⟩

/-- The codec and the charges are exact for every text without a signed escape. -/
theorem codec_exact_iff (t : String) : Exact t ↔ Ordinary t := by
  rw [← decodes_iff_ordinary]
  constructor
  · exact fun holds => holds.decodes
  · intro decodes
    refine ⟨queryUnescape_queryEscape, decodes, fun md5 config req proof charged => ?_⟩
    refine chargeProof_readBack (fun message empty => ?_) charged
    have length : (md5 message).toList.length = 16 := (md5 message).property
    rw [empty] at length
    cases length

/-- A plus sign in front of a digit is unescaped as a digit. -/
theorem signed_escape_not_exact : ¬ Exact "%+5" := by
  have read : queryUnescape "%+5" = some "\x05" := by decide
  have within : 0x25 :: [0x2B, 0x35] <:+ asBytes "%+5" := by decide
  intro claimed
  have digits := (claimed.decodes.mp ⟨_, read⟩).1 _ within
  exact absurd digits (by decide)

end Exactness

end Patala.Fiat.PayFast
