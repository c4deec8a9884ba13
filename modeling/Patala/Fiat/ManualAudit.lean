import Patala.Fiat.ManualAddressing

/-! Whom a manual order's audit trail names. A paid order keeps its first actor through any
further mark as paid; a failed one takes the actor of every further mark as failed. -/

namespace Patala.Fiat

structure ManualMark where
  status : ManualStatus
  markedBy : String
  markedAtUnix : UInt64
deriving DecidableEq

/-- The mark an order's trail names; an order that is pending has none. -/
def ManualRecord.trail (order : ManualRecord) : Option ManualMark :=
  if order.status = .pending then none
  else some ⟨order.status, order.markedBy, order.markedAtUnix⟩

namespace ManualRail

/-- The mark that a successful call made on a reference. -/
def markMade (reference : String) : ManualCall ε × ManualAnswer → Option ManualMark
  | (.markPaid now named markedBy, .marked (.ok _)) =>
    if trim named = reference then some ⟨.paid, trim markedBy, now⟩ else none
  | (.markFailed now named markedBy, .marked (.ok _)) =>
    if trim named = reference then some ⟨.failed, trim markedBy, now⟩ else none
  | _ => none

/-- The first mark of the current status: a mark of the same status leaves it. -/
def firstOfStatus (held : Option ManualMark) (mark : ManualMark) : Option ManualMark :=
  match held with
  | some first => if first.status = mark.status then some first else some mark
  | none => some mark

/-- Who first gave the order of a reference its current status, told by the calls so far. -/
def firstActor (history : List (ManualCall ε × ManualAnswer)) (reference : String) : Option ManualMark :=
  (history.filterMap (markMade reference)).foldl firstOfStatus none

def Keeps (order : ManualRecord) (markedBy : String) (now : UInt64) : Prop :=
  order.status = .paid ∨ trim markedBy = "" ∨
    (order.markedBy = trim markedBy ∧ order.markedAtUnix = now)

/-- A call that marks no failed order as failed, except as it is already. -/
def Steady (records : Records) : ManualCall ε → Prop
  | .markFailed now reference markedBy =>
    ∀ order, records (trim reference) = some order → order.status = .failed →
      Keeps order markedBy now
  | _ => True

def Audited (history : List (ManualCall ε × ManualAnswer)) (records : Records) : Prop :=
  ∀ reference, firstActor history reference = (records reference).bind ManualRecord.trail

theorem Recorded.blank {history : List (ManualCall ε × ManualAnswer)} {records : Records}
    (recorded : Recorded history records) : records "" = none := by
  cases found : records "" with
  | none => rfl
  | some order => exact absurd rfl (recorded.nonblank "" order found)

theorem firstActor_append (history : List (ManualCall ε × ManualAnswer))
    (entry : ManualCall ε × ManualAnswer) (reference : String) :
    firstActor (history ++ [entry]) reference =
      match markMade reference entry with
      | some mark => firstOfStatus (firstActor history reference) mark
      | none => firstActor history reference := by
  rw [firstActor, List.filterMap_append, List.foldl_append]
  cases made : markMade reference entry <;> simp [made, firstActor]

/-- Marking an order again with its own status keeps the records exactly when the mark is
refused, or the order is paid, or the trail already reads so. -/
theorem mark_again {records : Records} {order : ManualRecord} {reference : String}
    (found : records (trim reference) = some order) (nonblank : trim reference ≠ "")
    (markedBy : String) (now : UInt64) :
    (mark now reference markedBy order.status records).2 = records ↔ Keeps order markedBy now := by
  unfold mark Keeps
  by_cases anonymous : trim markedBy = ""
  · simp only [nonblank, anonymous, ↓reduceIte, true_or, or_true]
  by_cases paid : order.status = .paid
  · simp only [nonblank, anonymous, found, paid, ↓reduceIte, and_self, true_or]
  simp only [nonblank, anonymous, found, paid, ↓reduceIte, false_or, and_self]
  constructor
  · intro kept
    have same := congrFun kept (trim reference)
    rw [Function.update_self, found] at same
    have same := Option.some.inj same
    exact ⟨congrArg ManualRecord.markedBy same.symm, congrArg ManualRecord.markedAtUnix same.symm⟩
  · rintro ⟨actor, time⟩
    have same : { order with markedBy := trim markedBy, markedAtUnix := now } = order := by
      rw [← actor, ← time]
    rw [same, ← found, Function.update_eq_self]

theorem mark_trail (now : UInt64) {reference markedBy : String} {status : ManualStatus}
    {records : Records} {order : ManualRecord} (found : records (trim reference) = some order)
    (nonblank : trim reference ≠ "") (named : trim markedBy ≠ "") (given : status ≠ .pending)
    (steady : order.status = status → Keeps order markedBy now) :
    ∃ marked, marked.trail = firstOfStatus order.trail ⟨status, trim markedBy, now⟩ ∧
      mark now reference markedBy status records =
        (.ok marked, Function.update records (trim reference) (some marked)) := by
  by_cases again : order.status = status
  · have held : order.trail = some ⟨order.status, order.markedBy, order.markedAtUnix⟩ :=
      if_neg (again ▸ given)
    have same : Function.update records (trim reference) (some order) = records := by
      rw [← found, Function.update_eq_self]
    refine ⟨order, by simp only [held, firstOfStatus, again, ↓reduceIte], ?_⟩
    rcases steady again with paid | anonymous | ⟨actor, time⟩
    · have paidAgain : status = .paid := again ▸ paid
      simp only [mark, nonblank, named, found, paidAgain, paid, same, ↓reduceIte, and_self]
    · exact absurd anonymous named
    · have unchanged : { order with status, markedBy := trim markedBy, markedAtUnix := now } =
          order := by
        rw [← again, ← actor, ← time]
      simp only [mark, nonblank, named, found, unchanged, same, ↓reduceIte, ite_self]
  · refine ⟨{ order with status, markedBy := trim markedBy, markedAtUnix := now }, ?_, ?_⟩
    · by_cases pending : order.status = .pending
      · simp only [ManualRecord.trail, given, pending, firstOfStatus, ↓reduceIte]
      · simp only [ManualRecord.trail, given, pending, again, firstOfStatus, ↓reduceIte]
    · have notPaid : ¬ (status = .paid ∧ order.status = .paid) := by
        rintro ⟨paid, held⟩
        exact again (held.trans paid.symm)
      simp only [mark, nonblank, named, found, notPaid, ↓reduceIte]

theorem Audited.mark {history : List (ManualCall ε × ManualAnswer)} {records : Records}
    (audited : Audited history records) (blank : records "" = none) {now : UInt64}
    {reference markedBy : String} {status : ManualStatus} (given : status ≠ .pending)
    {call : ManualCall ε}
    (steady : ∀ order, records (trim reference) = some order → order.status = status →
      Keeps order markedBy now)
    (refused : ∀ other error, markMade other (call, .marked (.error error)) = none)
    (made : ∀ other order, markMade other (call, .marked (.ok order)) =
      if trim reference = other then some ⟨status, trim markedBy, now⟩ else none) :
    let done := ManualRail.mark now reference markedBy status records
    Audited (history ++ [(call, .marked done.1)]) done.2 := by
  intro done other
  rw [firstActor_append]
  rcases mark_cases now reference markedBy status records with
    ⟨error, failed⟩ | ⟨order, -, found, -, -, -⟩
  · have outcome : done = (.error error, records) := failed
    rw [outcome]
    dsimp only
    rw [refused]
    exact audited other
  · have nonblank : trim reference ≠ "" := by
      intro empty
      rw [empty, blank] at found
      cases found
    by_cases anonymous : trim markedBy = ""
    · have outcome : done = (.error (.invalidRequest
          "manual: marked_by is required (this is an auditable action and needs an actor)"),
          records) := by
        simp only [done, ManualRail.mark, nonblank, anonymous, ↓reduceIte]
      rw [outcome]
      dsimp only
      rw [refused]
      exact audited other
    · obtain ⟨marked, trail, outcome⟩ :=
        mark_trail now found nonblank anonymous given (steady order found)
      have outcome : done = _ := outcome
      rw [outcome]
      dsimp only
      rw [made]
      by_cases here : trim reference = other
      · subst other
        rw [if_pos rfl, Function.update_self, Option.bind_some, trail, audited, found,
          Option.bind_some]
      · rw [if_neg here, Function.update_of_ne (Ne.symm here)]
        exact audited other

theorem Audited.step (rail : ManualRail ε) {history : List (ManualCall ε × ManualAnswer)}
    {records : Records} (audited : Audited history records) (blank : records "" = none)
    {call : ManualCall ε} (steady : Steady records call) :
    Audited (history ++ [(call, (rail.answer call records).1)]) (rail.answer call records).2 := by
  cases call with
  | charge env now req =>
    intro other
    rw [firstActor_append]
    simp only [answer, markMade]
    rcases charge_cases rail env now req records with ⟨error, refused⟩ | ⟨existing, found, done⟩ |
      ⟨order, receipt, fresh, -, -, -, pending, done⟩
    · rw [refused]
      exact audited other
    · rw [done]
      exact audited other
    · rw [done]
      dsimp only
      by_cases here : req.reference.text = other
      · subst other
        have before := audited req.reference.text
        rw [fresh, Option.bind_none] at before
        rw [before, Function.update_self, Option.bind_some, ManualRecord.trail, if_pos pending]
      · rw [Function.update_of_ne (Ne.symm here)]
        exact audited other
  | markPaid now reference markedBy =>
    simp only [answer, markPaid]
    exact audited.mark blank (by decide) (fun order _ paid => .inl paid)
      (fun _ _ => rfl) fun _ _ => rfl
  | markFailed now reference markedBy =>
    simp only [answer, markFailed]
    exact audited.mark blank (by decide) steady (fun _ _ => rfl) fun _ _ => rfl
  | verify receipt =>
    intro other
    rw [firstActor_append]
    exact audited other

/-- After any calls, an order that is marked again with its own status keeps its whole record
exactly when it is paid, the mark is refused, or the mark repeats what the trail holds. Where
every failed mark of a failed order meets that, every trail names its status's first actor. -/
theorem audit_trail (rail : ManualRail ε) (calls : List (ManualCall ε)) :
    (∀ order reference markedBy now, (rail.runFresh calls).2 (trim reference) = some order →
      ((mark now reference markedBy order.status (rail.runFresh calls).2).2 =
        (rail.runFresh calls).2 ↔ Keeps order markedBy now)) ∧
    ((∀ before call after, calls = before ++ call :: after →
        Steady (rail.runFresh before).2 call) →
      Audited (rail.runFresh calls).1 (rail.runFresh calls).2) := by
  constructor
  · intro order reference markedBy now found
    refine mark_again found ?_ markedBy now
    intro empty
    rw [empty, (runFresh_recorded rail calls).blank] at found
    cases found
  · intro steady
    refine (History.run_invariant_along (fun history records => Recorded history records ∧
      Audited history records) Steady steady ?_
      ⟨runFresh_recorded rail [], fun _ => rfl⟩).2
    intro history records call meets
    rintro ⟨recorded, audited⟩
    exact ⟨recorded.step rail call, audited.step rail recorded.blank meets⟩

/-- An order that failed and was then paid: a second mark as paid leaves the first actor. -/
theorem paid_trail_kept :
    firstActor (desk.runFresh [.charge () 1700000000 tidy,
        .markFailed 1700000100 "order-1" "till-2", .markPaid 1700000200 "order-1" "till-3",
        .markPaid 1700000300 "order-1" "till-4"]).1 "order-1" =
      some ⟨.paid, "till-3", 1700000200⟩ := by
  rw [(audit_trail desk _).2]
  · decide
  intro before call after same
  have pending : ∀ order, (desk.runFresh [.charge () 1700000000 tidy]).2 (trim "order-1") =
      some order → order.status = .pending := by
    intro order found
    have status : ((desk.runFresh [.charge () 1700000000 tidy]).2 (trim "order-1")).map
        ManualRecord.status = some .pending := by decide
    rw [found] at status
    exact Option.some.inj status
  match before, same with
  | [], same =>
    cases same
    trivial
  | [_], same =>
    cases same
    intro order found failed
    cases (pending order found).symm.trans failed
  | [_, _], same =>
    cases same
    trivial
  | [_, _, _], same =>
    cases same
    trivial
  | _ :: _ :: _ :: _ :: _, same => simp at same

/-- A second mark as failed puts another actor and time on a failed order. -/
theorem failed_trail_overwritten :
    ∃ calls order, (desk.runFresh calls).2 (trim "order-1") = some order ∧
      order.status = .failed ∧ (markFailed 1700000200 "order-1" "till-3"
        (desk.runFresh calls).2).2 ≠ (desk.runFresh calls).2 := by
  let calls : List (ManualCall Unit) :=
    [.charge () 1700000000 tidy, .markFailed 1700000100 "order-1" "till-2"]
  cases found : (desk.runFresh calls).2 (trim "order-1") with
  | none =>
    have present : ((desk.runFresh calls).2 (trim "order-1")).isSome := by decide
    rw [found] at present
    cases present
  | some order =>
    have before : ((desk.runFresh calls).2 (trim "order-1")).map (fun order =>
        (order.status, order.markedBy)) = some (.failed, "till-2") := by decide
    have after : ((markFailed 1700000200 "order-1" "till-3" (desk.runFresh calls).2).2
        (trim "order-1")).map (fun order => (order.status, order.markedBy)) =
          some (.failed, "till-3") := by decide
    refine ⟨calls, order, found, ?_, ?_⟩
    · rw [found] at before
      exact congrArg Prod.fst (Option.some.inj before)
    · intro kept
      rw [kept, before] at after
      exact absurd after (by decide)

end ManualRail

end Patala.Fiat
