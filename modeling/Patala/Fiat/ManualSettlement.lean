import Patala.Fiat.ManualAddressing

/-! When a manual order verifies, read off the calls made so far: what was first charged
under its reference, and how it was last marked. -/

namespace Patala.Fiat.ManualRail

/-- The request of a successful charge under a reference. -/
def chargeUnder (reference : String) : ManualCall ε × ManualAnswer → Option PayRequest
  | (.charge _ _ req, .charged (.ok _)) => if req.reference.text = reference then some req else none
  | _ => none

/-- The status a successful mark gave a reference. -/
def markOf (reference : String) : ManualCall ε × ManualAnswer → Option ManualStatus
  | (.markPaid _ named _, .marked (.ok _)) => if named = reference then some .paid else none
  | (.markFailed _ named _, .marked (.ok _)) => if named = reference then some .failed else none
  | _ => none

/-- The first request that was successfully charged under a reference. -/
def firstCharge (history : List (ManualCall ε × ManualAnswer)) (reference : String) :
    Option PayRequest :=
  history.findSome? (chargeUnder reference)

/-- The status of the last successful mark on a reference. -/
def lastMark (history : List (ManualCall ε × ManualAnswer)) (reference : String) :
    Option ManualStatus :=
  (history.filterMap (markOf reference)).getLast?

/-- The reference a call names. -/
def named : ManualCall ε → String
  | .charge _ _ req => req.reference.text
  | .markPaid _ reference _ => reference
  | .markFailed _ reference _ => reference
  | .verify receipt => receipt.reference.text

/-- The reference a call names carries no whitespace around it. -/
def Trimmed (call : ManualCall ε) : Prop := trim (named call) = named call

instance decidableTrimmed (call : ManualCall ε) : Decidable (Trimmed call) :=
  inferInstanceAs (Decidable (trim (named call) = named call))

/-- What a reference's first charge and last mark tell of its record. -/
inductive Tells : Option PayRequest → Option ManualStatus → Option ManualRecord → Prop where
  | absent : Tells none none none
  | present {order : ManualRecord} {req : PayRequest} {last : Option ManualStatus}
      (amount : order.amountMinor = req.amountMinor) (currency : normalize req.currency = .ok order.currency)
      (status : order.status = last.getD .pending) : Tells (some req) last (some order)

/-- Every record is the one the calls so far tell of. -/
def Told (history : List (ManualCall ε × ManualAnswer)) (records : Records) : Prop :=
  ∀ reference, Tells (firstCharge history reference) (lastMark history reference)
    (records reference)

theorem firstCharge_append (first second : List (ManualCall ε × ManualAnswer)) (reference : String) :
    firstCharge (first ++ second) reference =
      (firstCharge first reference).or (firstCharge second reference) :=
  List.findSome?_append

theorem lastMark_append (first second : List (ManualCall ε × ManualAnswer)) (reference : String) :
    lastMark (first ++ second) reference =
      (lastMark second reference).or (lastMark first reference) := by
  simp [lastMark, List.getLast?_append]

theorem firstCharge_single (entry : ManualCall ε × ManualAnswer) (reference : String) :
    firstCharge [entry] reference = chargeUnder reference entry := by
  simp [firstCharge]

theorem lastMark_single (entry : ManualCall ε × ManualAnswer) (reference : String) :
    lastMark [entry] reference = markOf reference entry := by
  unfold lastMark
  cases marked : markOf reference entry <;> simp [marked]

/-- An order that is recorded has been charged, and its first charge stays the first. -/
theorem Tells.again {order : ManualRecord} (tells : Tells first last (some order)) (more : Option PayRequest) :
    Tells (first.or more) last (some order) := by
  cases tells with
  | present amount currency status => exact .present amount currency status

theorem Tells.marked {order marked : ManualRecord} (tells : Tells first last (some order))
    (same : SameOrder order marked) : Tells first (some marked.status) (some marked) := by
  cases tells with
  | present amount currency status =>
    exact .present (same.amountMinor.trans amount) (by rw [same.currency, currency]) rfl

theorem Tells.charged {order : ManualRecord} {req : PayRequest} (tells : Tells first last none)
    (amount : order.amountMinor = req.amountMinor) (currency : normalize req.currency = .ok order.currency)
    (pending : order.status = .pending) : Tells (first.or (some req)) last (some order) := by
  cases tells with
  | absent => exact .present amount currency pending

theorem checkRequest_currency {req : PayRequest} (checked : checkRequest req = .ok currency) :
    normalize req.currency = .ok currency := by
  obtain ⟨_, -, known⟩ := Fallible.bind_eq_ok.mp checked
  exact Fallible.mapError_eq_ok.mp known

/-- A mark on a trimmed reference tells of that reference only. -/
theorem Told.mark {history : List (ManualCall ε × ManualAnswer)} {records : Records}
    (told : Told history records) (now : UInt64) {reference : String}
    (trimmed : trim reference = reference) (markedBy : String) (status : ManualStatus)
    (call : ManualCall ε)
    (refused : ∀ other error, markOf other (call, .marked (.error error)) = none)
    (kept : ∀ other order, markOf other (call, .marked (.ok order)) =
      if reference = other then some status else none)
    (uncharged : ∀ other answer, chargeUnder other (call, .marked answer) = none) :
    let done := ManualRail.mark now reference markedBy status records
    Told (history ++ [(call, .marked done.1)]) done.2 := by
  intro done other
  rw [firstCharge_append, lastMark_append, firstCharge_single, lastMark_single, uncharged,
    Option.or_none]
  rcases mark_cases now reference markedBy status records with
    ⟨error, failed⟩ | ⟨order, marked, found, same, set, answered⟩
  · have outcome : done = (.error error, records) := failed
    rw [outcome, refused, Option.none_or]
    exact told other
  · have outcome : done = (.ok marked, Function.update records reference (some marked)) := by
      rw [← trimmed]
      exact answered
    rw [outcome]
    dsimp only
    rw [kept]
    by_cases here : reference = other
    · subst other
      rw [trimmed] at found
      have before := told reference
      rw [found] at before
      rw [if_pos rfl, Option.some_or, Function.update_self, ← set]
      exact before.marked same
    · rw [if_neg here, Option.none_or, Function.update_of_ne (Ne.symm here)]
      exact told other

/-- Every call on trimmed references keeps what is told true. -/
theorem Told.step (rail : ManualRail ε) {history : List (ManualCall ε × ManualAnswer)}
    {records : Records} (told : Told history records) (call : ManualCall ε) (trimmed : Trimmed call) :
    Told (history ++ [(call, (rail.answer call records).1)]) (rail.answer call records).2 := by
  cases call with
  | charge env now req =>
    simp only [answer]
    intro other
    have unmarked : ∀ answer, markOf other (.charge env now req, .charged answer) = none :=
      fun _ => rfl
    rw [firstCharge_append, lastMark_append, firstCharge_single, lastMark_single, unmarked,
      Option.none_or]
    rcases charge_cases rail env now req records with ⟨error, refused⟩ | ⟨existing, found, done⟩ |
      ⟨order, receipt, fresh, checked, -, amount, pending, done⟩
    · rw [refused]
      simpa [chargeUnder] using told other
    · rw [done]
      dsimp only
      by_cases here : req.reference.text = other
      · subst other
        have before := told req.reference.text
        rw [found] at before ⊢
        exact before.again _
      · simpa [chargeUnder, here] using told other
    · rw [done]
      by_cases here : req.reference.text = other
      · subst other
        have before := told req.reference.text
        rw [fresh] at before
        simp only [chargeUnder, ↓reduceIte, Function.update_self]
        exact before.charged amount (checkRequest_currency checked) pending
      · simp only [chargeUnder, here, ↓reduceIte, Option.or_none,
          Function.update_of_ne (Ne.symm here)]
        exact told other
  | markPaid now reference markedBy =>
    simp only [answer, markPaid]
    exact told.mark now trimmed markedBy .paid _ (fun _ _ => rfl) (fun _ _ => rfl) fun _ _ => rfl
  | markFailed now reference markedBy =>
    simp only [answer, markFailed]
    exact told.mark now trimmed markedBy .failed _ (fun _ _ => rfl) (fun _ _ => rfl) fun _ _ => rfl
  | verify receipt =>
    simp only [answer]
    intro other
    rw [firstCharge_append, lastMark_append, firstCharge_single, lastMark_single]
    simpa [chargeUnder, markOf] using told other

theorem runFresh_told (rail : ManualRail ε) (calls : List (ManualCall ε))
    (trimmed : ∀ call ∈ calls, Trimmed call) :
    Told (rail.runFresh calls).1 (rail.runFresh calls).2 := by
  refine History.run_invariant Told calls ?_ fun _ => .absent
  intro history records call member told
  exact told.step rail call (trimmed call member)

theorem verify_eq_true {receipt : Receipt} {records : Records} :
    verify receipt records = .ok true ↔ receipt.railId = railIdManual ∧
      ∃ order, records receipt.reference.text = some order ∧ order.status = .paid ∧
        eqIgnoreAsciiCase order.currency receipt.currency = true ∧
        receipt.amountMinor ≤ order.amountMinor := by
  unfold verify
  by_cases mine : receipt.railId = railIdManual
  · cases found : records receipt.reference.text with
    | none => simp [mine]
    | some order =>
      by_cases paid : order.status = .paid
      · cases same : eqIgnoreAsciiCase order.currency receipt.currency
        · simp [mine, paid, same]
        · by_cases short : order.amountMinor < receipt.amountMinor
          · simp [mine, paid, same, short, UInt64.not_le.mpr short]
          · simp [mine, paid, same, short, UInt64.not_lt.mp short]
      · simp [mine, paid]
  · simp [mine]

/-- `verify` never fails: it answers yes or no. -/
theorem verify_total (receipt : Receipt) (records : Records) :
    verify receipt records = .ok true ∨ verify receipt records = .ok false := by
  unfold verify
  split
  · exact .inr rfl
  split
  · exact .inr rfl
  split_ifs <;> simp

/-- The settlement of a receipt, told by the calls so far. -/
def Settled (history : List (ManualCall ε × ManualAnswer)) (receipt : Receipt) : Prop :=
  receipt.railId = "manual" ∧ ∃ req code, firstCharge history receipt.reference.text = some req ∧
    lastMark history receipt.reference.text = some .paid ∧ normalize req.currency = .ok code ∧
    eqIgnoreAsciiCase code receipt.currency = true ∧ receipt.amountMinor ≤ req.amountMinor

theorem verify_iff_settled {history : List (ManualCall ε × ManualAnswer)} {records : Records}
    (told : Told history records) (receipt : Receipt) :
    verify receipt records = .ok true ↔ Settled history receipt := by
  rw [verify_eq_true, Settled]
  refine and_congr Iff.rfl ?_
  have tells := told receipt.reference.text
  constructor
  · rintro ⟨order, found, paid, currency, amount⟩
    rw [found] at tells
    generalize firstCharge history receipt.reference.text = first at tells
    generalize marked : lastMark history receipt.reference.text = last at tells
    cases tells with
    | @present order req last sameAmount sameCurrency status =>
      refine ⟨req, order.currency, rfl, ?_, sameCurrency, currency, sameAmount ▸ amount⟩
      cases last with
      | none => simp [paid] at status
      | some mark => rw [← paid, status]; rfl
  · rintro ⟨req, code, charged, marked, currency, same, amount⟩
    rw [charged, marked] at tells
    generalize found : records receipt.reference.text = held at tells
    cases tells with
    | @present order req last sameAmount sameCurrency status =>
      have sameCode : order.currency = code := Except.ok.inj (sameCurrency.symm.trans currency)
      exact ⟨order, rfl, status, sameCode ▸ same, sameAmount ▸ amount⟩

/-- The call marks the order of a reference. -/
def Marks (reference : String) : ManualCall ε → Prop
  | .markPaid _ named _ => named = reference
  | .markFailed _ named _ => named = reference
  | _ => False

theorem markOf_of_not_marks {call : ManualCall ε} (other : ¬ Marks reference call)
    (answer : ManualAnswer) : markOf reference (call, answer) = none := by
  cases call with
  | charge env now req => rfl
  | markPaid now named markedBy =>
    have differs : ¬ named = reference := other
    cases answer with
    | marked outcome => cases outcome <;> simp [markOf, differs]
    | _ => rfl
  | markFailed now named markedBy =>
    have differs : ¬ named = reference := other
    cases answer with
    | marked outcome => cases outcome <;> simp [markOf, differs]
    | _ => rfl
  | verify receipt => rfl

theorem lastMark_of_not_marks {history : List (ManualCall ε × ManualAnswer)}
    (others : ∀ call ∈ history.map Prod.fst, ¬ Marks reference call) :
    lastMark history reference = none := by
  have none_marked : history.filterMap (markOf reference) = [] := by
    apply List.filterMap_eq_nil_iff.mpr
    intro entry member
    exact markOf_of_not_marks (others entry.1 (List.mem_map_of_mem member)) entry.2
  rw [lastMark, none_marked]
  rfl

/-- Calls that do not mark a receipt's reference leave its settlement as it is. -/
theorem settled_append {first second : List (ManualCall ε × ManualAnswer)} {records : Records}
    (told : Told first records) {receipt : Receipt}
    (unmarked : lastMark second receipt.reference.text = none) :
    Settled (first ++ second) receipt ↔ Settled first receipt := by
  unfold Settled
  rw [firstCharge_append, lastMark_append, unmarked, Option.none_or]
  cases charged : firstCharge first receipt.reference.text with
  | some req => rw [Option.some_or]
  | none =>
    have tells := told receipt.reference.text
    rw [charged] at tells
    generalize records receipt.reference.text = held at tells
    generalize lastMark first receipt.reference.text = last at tells
    cases tells with
    | absent => simp

/-- After any calls on trimmed references a receipt verifies exactly when it is settled
by them, and calls that do not mark its reference do not change the answer. -/
theorem verify_settlement (rail : ManualRail ε) (calls : List (ManualCall ε))
    (trimmed : ∀ call ∈ calls, Trimmed call) (receipt : Receipt) :
    (verify receipt (rail.runFresh calls).2 = .ok true ↔
        Settled (rail.runFresh calls).1 receipt) ∧
      ∀ later, (∀ call ∈ later, Trimmed call ∧ ¬ Marks receipt.reference.text call) →
        verify receipt (rail.runFresh (calls ++ later)).2 =
          verify receipt (rail.runFresh calls).2 := by
  have told := runFresh_told rail calls trimmed
  refine ⟨verify_iff_settled told receipt, ?_⟩
  intro later others
  have toldLater := runFresh_told rail (calls ++ later) (by
    intro call member
    rcases List.mem_append.mp member with earlier | last
    · exact trimmed call earlier
    · exact (others call last).1)
  have unmarked : lastMark (History.run rail.answer later (rail.runFresh calls).2).1
      receipt.reference.text = none := by
    apply lastMark_of_not_marks
    rw [History.run_inputs]
    exact fun call member => (others call member).2
  have split : (rail.runFresh (calls ++ later)).1 = (rail.runFresh calls).1 ++
      (History.run rail.answer later (rail.runFresh calls).2).1 :=
    congrArg Prod.fst (History.run_append calls later fun _ => none)
  have same : verify receipt (rail.runFresh (calls ++ later)).2 = .ok true ↔
      verify receipt (rail.runFresh calls).2 = .ok true := by
    rw [verify_iff_settled toldLater receipt, verify_iff_settled told receipt, split,
      settled_append told unmarked]
  rcases verify_total receipt (rail.runFresh calls).2 with yes | no
  · rw [yes, same, yes]
  · rcases verify_total receipt (rail.runFresh (calls ++ later)).2 with yes' | no'
    · rw [yes', eq_comm, ← same, yes']
    · rw [no, no']

/-- An order is charged, marked paid, and settles a receipt for its amount. -/
theorem tidy_settled :
    let calls := [.charge () 1700000000 tidy, .markPaid 1700000100 "order-1" "till-2"]
    let receipt : Receipt := ⟨"manual", 1500, "zar", tidy.reference, [], 0⟩
    verify receipt (desk.runFresh calls).2 = .ok true ∧ Settled (desk.runFresh calls).1 receipt := by
  intro calls receipt
  have trimmed : ∀ call ∈ calls, Trimmed call :=
    List.forall_mem_cons.mpr ⟨by decide, List.forall_mem_cons.mpr ⟨by decide, nofun⟩⟩
  have verified : verify receipt (desk.runFresh calls).2 = .ok true := by decide
  exact ⟨verified, (verify_settlement desk calls trimmed receipt).1.mp verified⟩

end Patala.Fiat.ManualRail
