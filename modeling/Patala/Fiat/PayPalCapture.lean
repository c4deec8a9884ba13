import Patala.Fiat.PayPalAmount

/-! What a PayPal verification captures. The verifier captures any order the receipt's proof
names once it is approved, and only then compares the captured order with the receipt. -/

namespace Patala.Fiat.PayPal

namespace PayPalRail

variable (rail : PayPalRail)

def orderRequest (orderId token : String) : Request :=
  rail.jsonRequest .get (orderPath orderId) none token

def captureRequest (orderId token : String) : Request :=
  rail.jsonRequest .post (capturePath orderId) (some (.object [])) token

/-- The request moves money. -/
def IsCapture (question : Request) : Prop :=
  ∃ orderId token, question = rail.captureRequest orderId token

/-- The order a receipt's proof names, if its id is safe. -/
def orderOf (receipt : Receipt) : Option String :=
  (rail.proofFromSlice receipt.proof).toOption.bind fun proof =>
    (safePathSegment proof.paypalOrderId).toOption

/-- The reply is read as an approved order. -/
def IsApproved (reply : Reply) : Prop :=
  ∃ order, reply.decoded rail.orderFromSlice = some order ∧ order.id ≠ "" ∧
    order.status = "APPROVED"

/-- The receipt's order was looked up and is approved. -/
def FoundApproved (receipt : Receipt) (entry : Request × Reply) : Prop :=
  ∃ orderId token, rail.orderOf receipt = some orderId ∧
    entry.1 = rail.orderRequest orderId token ∧ rail.IsApproved entry.2

/-- The reply is read as a completed order whose first completed capture is of the receipt's
reference and in its currency. Its value is no less than the receipt's amount as the rail reads
it: in hundredths or whole units by its own table, and exactly unless the text is misread. -/
def Pays (receipt : Receipt) (reply : Reply) : Prop :=
  ∃ order unit capture amount, reply.decoded rail.orderFromSlice = some order ∧
    order.status = "COMPLETED" ∧ findCompletedCapture order = some (unit, capture) ∧
    unitReference unit = receipt.reference.text ∧
    eqIgnoreAsciiCase (toAsciiUppercase capture.amount.currencyCode) receipt.currency ∧
    ReadsAs rail.overflowChecks capture.amount.value
      (toAsciiUppercase capture.amount.currencyCode) amount ∧
    amount ≠ 0 ∧ receipt.amountMinor ≤ amount

/-- What a verifier's run does with the money: it captures the receipt's order if that is found
approved, once and last, and says yes only if the last answer pays for the receipt. -/
structure CapturesApproved (receipt : Receipt) (transcript : List (Request × Reply))
    (outcome : Except Error (Option Bool)) : Prop where
  approved : (∃ entry ∈ transcript, rail.IsCapture entry.1) ↔
    ∃ entry ∈ transcript, rail.FoundApproved receipt entry
  once : ∀ entry ∈ transcript, rail.IsCapture entry.1 → ∃ earlier orderId token,
    transcript = earlier ++ [entry] ∧ (∀ other ∈ earlier, ¬ rail.IsCapture other.1) ∧
    rail.orderOf receipt = some orderId ∧ entry.1 = rail.captureRequest orderId token
  paid : outcome = .ok (some true) → ∃ earlier entry, transcript = earlier ++ [entry] ∧
    rail.Pays receipt entry.2

theorem not_isCapture_token : ¬ rail.IsCapture rail.tokenRequest := by
  rintro ⟨orderId, token, same⟩
  exact absurd (congrArg Request.basicAuth same) (by simp [tokenRequest, captureRequest, jsonRequest])

theorem not_isCapture_order {orderId token : String} :
    ¬ rail.IsCapture (rail.orderRequest orderId token) := by
  rintro ⟨orderId', token', same⟩
  exact absurd (congrArg Request.method same) (by simp [orderRequest, captureRequest, jsonRequest])

theorem not_foundApproved_token {receipt : Receipt} {reply : Reply} :
    ¬ rail.FoundApproved receipt (rail.tokenRequest, reply) := by
  rintro ⟨orderId, token, -, same, -⟩
  exact absurd (congrArg Request.method same) (by simp [tokenRequest, orderRequest, jsonRequest])

section Runs

variable {rail} {receipt : Receipt} {transcript : List (Request × Reply)}
  {outcome : Except Error (Option Bool)}

/-- A completed order settles a receipt by a capture that pays for it. -/
theorem settle_pays {order : OrderResponse} {reply : Reply}
    (decoded : reply.decoded rail.orderFromSlice = some order) (completed : order.status = "COMPLETED")
    (run : (rail.settle order receipt).Yields transcript outcome) :
    transcript = [] ∧ (outcome = .ok (some true) → rail.Pays receipt reply) := by
  refine ⟨(rail.settle_run run).1, fun yes => ?_⟩
  unfold settle matchCaptureForReceipt at run
  cases found : findCompletedCapture order with
  | none => simp [found, yes] at run
  | some pair =>
    obtain ⟨unit, capture⟩ := pair
    by_cases own : unitReference unit = receipt.reference.text
    · by_cases currency :
          eqIgnoreAsciiCase (toAsciiUppercase capture.amount.currencyCode) receipt.currency
      · cases read : paypalAmountValueToMinor rail.overflowChecks capture.amount.value
            (toAsciiUppercase capture.amount.currencyCode) with
        | none => simp [found, own, currency, read, yes] at run
        | some result =>
          cases result with
          | error => simp [found, own, currency, read, yes] at run
          | ok amount =>
            by_cases zero : amount = 0
            · simp [found, own, currency, read, zero, yes] at run
            by_cases short : amount < receipt.amountMinor
            · simp [found, own, currency, read, zero, short, yes] at run
            · exact ⟨order, unit, capture, amount, decoded, completed, found, own, currency,
                readsAs_iff.mpr read, zero, UInt64.not_lt.mp short⟩
      · simp [found, own, currency, yes] at run
    · simp [found, own, yes] at run

/-- A capture asks once. -/
theorem captureApproved_pays {orderId token : String}
    (run : (rail.captureApproved orderId token receipt).Yields transcript outcome) :
    ∃ reply, transcript = [(rail.captureRequest orderId token, reply)] ∧
      (outcome = .ok (some true) → rail.Pays receipt reply) := by
  unfold captureApproved captureOrder at run
  obtain ⟨reply, later, same, ⟨error, -, ended, failed⟩ | ⟨captured, read, settling⟩⟩ :=
    Dialogue.yields_once_bind.mp run
  · subst same ended failed
    exact ⟨reply, rfl, fun yes => by cases yes⟩
  · subst same
    by_cases completed : captured.status = "COMPLETED"
    · rw [if_neg (not_not_intro completed)] at settling
      obtain ⟨ended, pays⟩ := settle_pays (rail.readCapture_eq_ok.mp read) completed settling
      subst ended
      exact ⟨reply, rfl, pays⟩
    · rw [if_pos completed, Dialogue.yields_pure] at settling
      obtain ⟨ended, answered⟩ := settling
      subst ended answered
      exact ⟨reply, rfl, fun yes => by cases yes⟩

/-- An order is captured exactly when it is found approved. -/
theorem checkOrder_captures {orderId token : String}
    (run : (rail.checkOrder orderId token receipt).Yields transcript outcome) :
    (∃ reply, transcript = [(rail.orderRequest orderId token, reply)] ∧ ¬ rail.IsApproved reply ∧
      (outcome = .ok (some true) → rail.Pays receipt reply)) ∨
    ∃ reply captured, transcript = [(rail.orderRequest orderId token, reply),
        (rail.captureRequest orderId token, captured)] ∧ rail.IsApproved reply ∧
      (outcome = .ok (some true) → rail.Pays receipt captured) := by
  unfold checkOrder getOrder at run
  rw [fetch_eq_once] at run
  obtain ⟨reply, later, same, ⟨error, read, ended, failed⟩ | ⟨order, read, checking⟩⟩ :=
    Dialogue.yields_once_bind.mp run
  · subst same ended failed
    refine .inl ⟨reply, rfl, ?_, fun yes => by cases yes⟩
    rintro ⟨order, decoded, -⟩
    rw [Reply.read_eq_ok.mpr decoded] at read
    cases read
  subst same
  have decoded := Reply.read_eq_ok.mp read
  have approved_iff : rail.IsApproved reply ↔ order.id ≠ "" ∧ order.status = "APPROVED" := by
    constructor
    · rintro ⟨other, decoded', named, status⟩
      cases decoded.symm.trans decoded'
      exact ⟨named, status⟩
    · rintro ⟨named, status⟩
      exact ⟨order, decoded, named, status⟩
  by_cases missing : order.id = ""
  · rw [insist, if_neg (not_not_intro missing), Dialogue.lift_error_bind,
      Dialogue.yields_done] at checking
    obtain ⟨ended, failed⟩ := checking
    subst ended failed
    exact .inl ⟨reply, rfl, fun approved => (approved_iff.mp approved).1 missing,
      fun yes => by cases yes⟩
  rw [insist, if_pos missing, Dialogue.lift_ok_bind] at checking
  by_cases completed : order.status = "COMPLETED"
  · rw [if_pos completed] at checking
    obtain ⟨ended, pays⟩ := settle_pays decoded completed checking
    subst ended
    refine .inl ⟨reply, rfl, fun approved => ?_, pays⟩
    exact absurd (completed.symm.trans (approved_iff.mp approved).2) (by decide)
  rw [if_neg completed] at checking
  by_cases approved : order.status = "APPROVED"
  · rw [if_pos approved] at checking
    obtain ⟨captured, asked, pays⟩ := captureApproved_pays checking
    subst asked
    exact .inr ⟨reply, captured, rfl, approved_iff.mpr ⟨missing, approved⟩, pays⟩
  · rw [if_neg approved, Dialogue.yields_pure] at checking
    obtain ⟨ended, answered⟩ := checking
    subst ended answered
    exact .inl ⟨reply, rfl, fun found => approved (approved_iff.mp found).2, fun yes => by cases yes⟩

/-- Without a capture, an approved order and a yes there is nothing to answer for. -/
theorem capturesApproved_of_none (quiet : ∀ entry ∈ transcript, ¬ rail.IsCapture entry.1)
    (unapproved : ∀ entry ∈ transcript, ¬ rail.FoundApproved receipt entry)
    (paid : outcome = .ok (some true) → ∃ earlier entry, transcript = earlier ++ [entry] ∧
      rail.Pays receipt entry.2) : rail.CapturesApproved receipt transcript outcome where
  approved := iff_of_false (fun ⟨entry, member, captures⟩ => quiet entry member captures)
    fun ⟨entry, member, approved⟩ => unapproved entry member approved
  once := fun entry member captures => absurd captures (quiet entry member)
  paid := paid

/-- With the token taken, the run captures what it should. -/
theorem verifyOrder_captures {orderId : String} (named : rail.orderOf receipt = some orderId)
    (run : (rail.verifyOrder orderId receipt).Yields transcript outcome) :
    rail.CapturesApproved receipt transcript outcome := by
  unfold verifyOrder fetchAccessToken at run
  obtain ⟨tokenReply, later, same, ⟨error, -, ended, failed⟩ | ⟨token, -, checking⟩⟩ :=
    Dialogue.yields_once_bind.mp run
  · subst same ended failed
    refine capturesApproved_of_none ?_ ?_ fun yes => by cases yes
    · intro entry member
      rw [List.mem_singleton.mp member]
      exact rail.not_isCapture_token
    · intro entry member
      rw [List.mem_singleton.mp member]
      exact rail.not_foundApproved_token
  subst same
  rcases checkOrder_captures checking with ⟨reply, asked, unapproved, pays⟩ |
    ⟨reply, captured, asked, approved, pays⟩
  · subst asked
    refine capturesApproved_of_none ?_ ?_ fun yes => ⟨[_], _, rfl, pays yes⟩
    · simp [rail.not_isCapture_token, rail.not_isCapture_order]
    · intro entry member
      rcases List.mem_cons.mp member with first | last
      · rw [first]
        exact rail.not_foundApproved_token
      · rw [List.mem_singleton.mp last]
        rintro ⟨_, _, -, -, approved⟩
        exact unapproved approved
  · subst asked
    refine ⟨iff_of_true ?_ ?_, fun entry member captures => ?_, fun yes => ⟨[_, _], _, rfl, pays yes⟩⟩
    · exact ⟨_, List.mem_cons_of_mem _ (List.mem_cons_of_mem _ List.mem_cons_self), orderId, token,
        rfl⟩
    · exact ⟨_, List.mem_cons_of_mem _ List.mem_cons_self, orderId, token, named, rfl, approved⟩
    · rcases List.mem_cons.mp member with first | later
      · rw [first] at captures
        exact absurd captures rail.not_isCapture_token
      rcases List.mem_cons.mp later with second | last
      · rw [second] at captures
        exact absurd captures rail.not_isCapture_order
      · rw [List.mem_singleton.mp last]
        refine ⟨[_, _], orderId, token, rfl, ?_, named, rfl⟩
        simp [rail.not_isCapture_token, rail.not_isCapture_order]

end Runs

/-- A run asks nothing and does not say yes, or it checks the order the receipt's proof names. -/
theorem verify_cases {receipt : Receipt} {transcript : List (Request × Reply)}
    {outcome : Except Error (Option Bool)}
    (run : (rail.verify receipt).Yields transcript outcome) :
    (transcript = [] ∧ outcome ≠ .ok (some true)) ∨ ∃ orderId, rail.orderOf receipt = some orderId ∧
      (rail.verifyOrder orderId receipt).Yields transcript outcome := by
  unfold verify at run
  by_cases foreign : receipt.railId ≠ railId
  · rw [if_pos foreign, Dialogue.yields_pure] at run
    exact .inl ⟨run.1, by rw [run.2]; simp⟩
  rw [if_neg foreign] at run
  cases decoded : rail.proofFromSlice receipt.proof with
  | error =>
    rw [decoded, Dialogue.yields_pure] at run
    exact .inl ⟨run.1, by rw [run.2]; simp⟩
  | ok proof =>
    rw [decoded] at run
    cases safe : safePathSegment proof.paypalOrderId with
    | error refusal =>
      simp only [safe, Dialogue.lift_error_bind, Dialogue.yields_done] at run
      exact .inl ⟨run.1, by rw [run.2]; simp⟩
    | ok orderId =>
      simp only [safe, Dialogue.lift_ok_bind] at run
      refine .inr ⟨orderId, ?_, run⟩
      rw [orderOf, decoded]
      exact Fallible.toOption_eq_some.mpr safe

/-- The third request of a run is a capture. -/
theorem captures_of_length {receipt : Receipt} {transcript : List (Request × Reply)}
    {outcome : Except Error (Option Bool)} (run : (rail.verify receipt).Yields transcript outcome)
    (long : 2 < transcript.length) : ∃ entry ∈ transcript, rail.IsCapture entry.1 := by
  rcases rail.verify_cases run with ⟨silent, -⟩ | ⟨orderId, -, checking⟩
  · simp [silent] at long
  unfold verifyOrder fetchAccessToken at checking
  obtain ⟨tokenReply, later, same, ⟨error, -, ended, -⟩ | ⟨token, -, checking⟩⟩ :=
    Dialogue.yields_once_bind.mp checking
  · simp [same, ended] at long
  rcases checkOrder_captures checking with ⟨reply, asked, -⟩ | ⟨reply, captured, asked, -⟩
  · simp [same, asked] at long
  · refine ⟨(rail.captureRequest orderId token, captured), ?_, orderId, token, rfl⟩
    simp [same, asked]

/-- A verification captures the order its receipt's proof names exactly when it is approved,
whatever it is for, and says yes only to a captured order that pays for the receipt. -/
theorem verify_capturesApproved {receipt : Receipt} {transcript : List (Request × Reply)}
    {outcome : Except Error (Option Bool)}
    (run : (rail.verify receipt).Yields transcript outcome) :
    rail.CapturesApproved receipt transcript outcome := by
  rcases rail.verify_cases run with ⟨silent, no⟩ | ⟨orderId, named, checking⟩
  · subst silent
    exact capturesApproved_of_none (by simp) (by simp) fun yes => absurd yes no
  · exact verifyOrder_captures named checking

end PayPalRail

namespace Sample

def approvedBody : List UInt8 := asBytes ("\x7b\"id\":\"5O1\",\"status\":\"APPROVED\"," ++
  "\"purchase_units\":[\x7b\"custom_id\":\"order-A\"\x7d]\x7d")

def capturedBody : List UInt8 := asBytes ("\x7b\"id\":\"5O1\",\"status\":\"COMPLETED\"," ++
  "\"purchase_units\":[\x7b\"custom_id\":\"order-A\",\"payments\":\x7b\"captures\":[\x7b" ++
  "\"id\":\"3C6\",\"status\":\"COMPLETED\",\"amount\":\x7b\"currency_code\":\"EUR\"," ++
  "\"value\":\"50.00\"\x7d\x7d]\x7d\x7d]\x7d")

def tokenBody : List UInt8 := asBytes "\x7b\"access_token\":\"A21AAtest\"\x7d"

def proofBody : List UInt8 := asBytes "\x7b\"paypal_order_id\":\"5O1\"\x7d"

def orderUnit (captures : List Capture) : PurchaseUnit := ⟨"", "order-A", ⟨captures⟩⟩

def approvedOrder : OrderResponse := ⟨"5O1", "APPROVED", [orderUnit []]⟩

def capturedOrder : OrderResponse :=
  ⟨"5O1", "COMPLETED", [orderUnit [⟨"3C6", "COMPLETED", ⟨"EUR", "50.00"⟩⟩]]⟩

/-- A rail that reads these bodies. -/
def shopPayPal : PayPalRail where
  clientId := "test-client-id"
  clientSecret := "test-client-secret"
  currencies := []
  baseUrl := "https://api-m.paypal.com"
  overflowChecks := false
  proofToBytes := fun _ => proofBody
  proofFromSlice := fun body => if body = proofBody then .ok ⟨"5O1", none⟩ else .error "expected value"
  tokenFromSlice := fun body => if body = tokenBody then .ok ⟨"A21AAtest"⟩ else .error "expected value"
  createFromSlice := fun _ => .error "expected value"
  orderFromSlice := fun body =>
    if body = approvedBody then .ok approvedOrder
    else if body = capturedBody then .ok capturedOrder
    else .error "expected value"
  errorFromSlice := fun _ => .error "expected value"

/-- A receipt of another order than the one its proof names. -/
def receiptB : Receipt := ⟨"paypal", 0, "EUR", ⟨"order-B", by decide⟩, proofBody, 0⟩

def answers : List Reply :=
  [.answered 200 tokenBody, .answered 200 approvedBody, .answered 201 capturedBody]

/-- The order of the proof is captured, and the verifier says no. -/
theorem captured_then_no : ∃ transcript, transcript.map Prod.snd = answers ∧
    (shopPayPal.verify receiptB).Yields transcript (.ok (some false)) := by
  have run : ((shopPayPal.verify receiptB).replay answers).bind Except.toOption =
      some (some false) := by
    decide +kernel
  exact Dialogue.exists_yields_of_replay run

end Sample

namespace PayPalRail

/-- What that run captures. -/
theorem verify_capturesApproved_other : ∃ transcript,
    Sample.shopPayPal.CapturesApproved Sample.receiptB transcript (.ok (some false)) := by
  obtain ⟨transcript, -, run⟩ := Sample.captured_then_no
  exact ⟨transcript, Sample.shopPayPal.verify_capturesApproved run⟩

/-- An order is captured that is not the receipt's, and the answer is no. -/
theorem captures_for_another_receipt :
    ¬ ∀ (rail : PayPalRail) (receipt : Receipt) (transcript : List (Request × Reply))
        (outcome : Except Error (Option Bool)), (rail.verify receipt).Yields transcript outcome →
      (∃ entry ∈ transcript, rail.IsCapture entry.1) →
        outcome ≠ .ok (some false) ∨ ∃ entry ∈ transcript, ∃ order,
          entry.2.decoded rail.orderFromSlice = some order ∧
          ∃ unit ∈ order.purchaseUnits, unitReference unit = receipt.reference.text := by
  intro claim
  obtain ⟨transcript, answered, run⟩ := Sample.captured_then_no
  have captures := Sample.shopPayPal.captures_of_length run (by
    rw [← List.length_map Prod.snd, answered]
    decide)
  rcases claim _ _ _ _ run captures with other | ⟨entry, member, order, decoded, unit, held, own⟩
  · exact other rfl
  have foreign : ∀ reply ∈ Sample.answers, ∀ unit ∈
      ((reply.decoded Sample.shopPayPal.orderFromSlice).map OrderResponse.purchaseUnits).getD [],
        unitReference unit ≠ "order-B" := by
    decide +kernel
  have replied : entry.2 ∈ Sample.answers := answered ▸ List.mem_map_of_mem member
  refine foreign entry.2 replied unit ?_ own
  rw [decoded]
  exact held

end PayPalRail

end Patala.Fiat.PayPal
