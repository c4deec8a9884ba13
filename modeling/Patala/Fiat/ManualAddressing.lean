import Patala.Fiat.Manual

/-! Addressing a manual order. Charging records an order under the caller's reference as
it stands; marking and reading look it up under the trimmed one. -/

namespace Patala.Fiat.ManualRail

/-- Charge has answered a request under this reference with a receipt. -/
def Accepted (history : List (ManualCall ε × ManualAnswer)) (reference : String) : Prop :=
  ∃ env now req receipt, (.charge env now req, .charged (.ok receipt)) ∈ history ∧
    req.reference.text = reference

/-- What a run leaves: every record under its own reference, and a record under
every reference that was accepted. -/
structure Recorded (history : List (ManualCall ε × ManualAnswer)) (records : Records) : Prop where
  keyed : ∀ key rec, records key = some rec → rec.reference.text = key
  nonblank : ∀ key rec, records key = some rec → trim key ≠ ""
  accepted : ∀ reference, Accepted history reference → ∃ rec, records reference = some rec

/-- A mark that succeeded on the order of this reference and touched no other. -/
def MarksOnly (reference : String) (status : ManualStatus) (records : Records)
    (done : Except Error ManualRecord × Records) : Prop :=
  ∃ rec marked, records reference = some rec ∧ SameOrder rec marked ∧ marked.status = status ∧
    done.1 = .ok marked ∧ done.2 reference = some marked ∧
    ∀ other, other ≠ reference → done.2 other = records other

/-- Marks by somebody and lookups under a reference are about its order. -/
structure Addressed (records : Records) (reference : String) : Prop where
  paid : ∀ now who, trim who ≠ "" →
    MarksOnly reference .paid records (markPaid now reference who records)
  failed : ∀ now who, trim who ≠ "" →
    MarksOnly reference .failed records (markFailed now reference who records)
  read : ∃ rec, records reference = some rec ∧ record reference records = some rec

theorem accepted_append {history : List (ManualCall ε × ManualAnswer)}
    {call : ManualCall ε} {answer : ManualAnswer} {reference : String} :
    Accepted (history ++ [(call, answer)]) reference ↔
      Accepted history reference ∨ ∃ env now req receipt, call = .charge env now req ∧
        answer = .charged (.ok receipt) ∧ req.reference.text = reference := by
  constructor
  · rintro ⟨env, now, req, receipt, member, same⟩
    rcases List.mem_append.mp member with earlier | last
    · exact .inl ⟨env, now, req, receipt, earlier, same⟩
    · obtain ⟨rfl, rfl⟩ := Prod.mk.inj (List.mem_singleton.mp last)
      exact .inr ⟨env, now, req, receipt, rfl, rfl, same⟩
  · rintro (⟨env, now, req, receipt, member, same⟩ | ⟨env, now, req, receipt, rfl, rfl, same⟩)
    · exact ⟨env, now, req, receipt, List.mem_append_left _ member, same⟩
    · exact ⟨env, now, req, receipt, List.mem_append_right _ (List.mem_singleton.mpr rfl), same⟩

/-- Putting an order under its own reference keeps the records in order. -/
theorem Recorded.put {history history' : List (ManualCall ε × ManualAnswer)} {records : Records}
    (recorded : Recorded history records) {rec : ManualRecord} (named : rec.reference.text = key)
    (nonblank : trim key ≠ "")
    (accepts : ∀ reference, Accepted history' reference → Accepted history reference ∨ reference = key) :
    Recorded history' (Function.update records key (some rec)) := by
  refine ⟨?_, ?_, ?_⟩
  · intro other rec' found
    by_cases same : other = key
    · subst other
      rw [Function.update_self] at found
      rw [← Option.some.inj found, named]
    · rw [Function.update_of_ne same] at found
      exact recorded.keyed other rec' found
  · intro other rec' found
    by_cases same : other = key
    · rw [same]
      exact nonblank
    · rw [Function.update_of_ne same] at found
      exact recorded.nonblank other rec' found
  · intro reference accepted
    by_cases same : reference = key
    · exact ⟨rec, by rw [same, Function.update_self]⟩
    · rw [Function.update_of_ne same]
      exact recorded.accepted reference ((accepts reference accepted).resolve_right same)

/-- Only charges accept references. -/
theorem accepted_of_marked {history : List (ManualCall ε × ManualAnswer)} {call : ManualCall ε}
    {answer : ManualAnswer} (other : ∀ receipt, answer ≠ .charged (.ok receipt))
    (accepted : Accepted (history ++ [(call, answer)]) reference) : Accepted history reference := by
  rcases accepted_append.mp accepted with earlier | ⟨env, now, req, receipt, -, same, -⟩
  · exact earlier
  · exact absurd same (other receipt)

theorem Recorded.mark {history : List (ManualCall ε × ManualAnswer)} {records : Records}
    (recorded : Recorded history records) (call : ManualCall ε) (now : UInt64)
    (reference markedBy : String) (status : ManualStatus) :
    let done := ManualRail.mark now reference markedBy status records
    Recorded (history ++ [(call, .marked done.1)]) done.2 := by
  have accepts : ∀ answer other, Accepted (history ++ [(call, .marked answer)]) other →
      Accepted history other := fun answer other => accepted_of_marked (by simp)
  rcases mark_cases now reference markedBy status records with
    ⟨error, refused⟩ | ⟨rec, marked, found, same, -, done⟩
  · rw [refused]
    exact ⟨recorded.keyed, recorded.nonblank,
      fun other accepted => recorded.accepted other (accepts _ _ accepted)⟩
  · rw [done]
    have named : marked.reference.text = trim reference := by
      rw [same.reference]
      exact recorded.keyed _ rec found
    exact recorded.put named (recorded.nonblank _ rec found)
      fun other accepted => .inl (accepts _ _ accepted)

/-- Every call keeps the records in order. -/
theorem Recorded.step (rail : ManualRail ε) {history : List (ManualCall ε × ManualAnswer)}
    {records : Records} (recorded : Recorded history records) (call : ManualCall ε) :
    Recorded (history ++ [(call, (rail.answer call records).1)]) (rail.answer call records).2 := by
  cases call with
  | charge env now req =>
    have last : ∀ answer other,
        Accepted (history ++ [(.charge env now req, .charged answer)]) other →
        Accepted history other ∨ (∃ receipt, answer = .ok receipt) ∧ other = req.reference.text := by
      intro answer other accepted
      rcases accepted_append.mp accepted with earlier | ⟨env', now', req', receipt, same, ok, named⟩
      · exact .inl earlier
      · cases same
        cases ok
        exact .inr ⟨⟨receipt, rfl⟩, named.symm⟩
    simp only [answer]
    rcases charge_cases rail env now req records with ⟨error, refused⟩ | ⟨existing, found, done⟩ |
      ⟨rec, receipt, fresh, checked, reference, -, -, done⟩
    · rw [refused]
      refine ⟨recorded.keyed, recorded.nonblank, ?_⟩
      intro other accepted
      rcases last _ other accepted with earlier | ⟨⟨receipt, ok⟩, -⟩
      · exact recorded.accepted other earlier
      · cases ok
    · rw [done]
      refine ⟨recorded.keyed, recorded.nonblank, ?_⟩
      intro other accepted
      rcases last _ other accepted with earlier | ⟨-, same⟩
      · exact recorded.accepted other earlier
      · exact ⟨existing, same ▸ found⟩
    · rw [done]
      refine recorded.put (by rw [reference]) (checkRequest_reference checked) ?_
      intro other accepted
      exact (last _ other accepted).imp_right And.right
  | markPaid now reference markedBy =>
    simp only [answer, markPaid]
    exact recorded.mark _ now reference markedBy .paid
  | markFailed now reference markedBy =>
    simp only [answer, markFailed]
    exact recorded.mark _ now reference markedBy .failed
  | verify receipt =>
    simp only [answer]
    exact ⟨recorded.keyed, recorded.nonblank, fun other accepted =>
      recorded.accepted other (accepted_of_marked (by simp) accepted)⟩

theorem runFresh_recorded (rail : ManualRail ε) (calls : List (ManualCall ε)) :
    Recorded (rail.runFresh calls).1 (rail.runFresh calls).2 := by
  refine History.run_invariant Recorded calls ?_ ⟨by simp, by simp, ?_⟩
  · intro history records call _ recorded
    exact recorded.step rail call
  · rintro reference ⟨env, now, req, receipt, member, -⟩
    cases member

theorem marksOnly_of_trimmed {records : Records} {rec : ManualRecord} {reference who : String}
    (found : records reference = some rec) (trimmed : trim reference = reference)
    (nonblank : trim reference ≠ "") (named : trim who ≠ "") (now : UInt64)
    (status : ManualStatus) :
    MarksOnly reference status records (ManualRail.mark now reference who status records) := by
  have listed : records (trim reference) = some rec := by rw [trimmed, found]
  obtain ⟨marked, same, set, done⟩ := mark_found now status listed nonblank named
  rw [trimmed] at done
  rw [done]
  exact ⟨rec, marked, found, same, set, rfl, Function.update_self ..,
    fun other differs => Function.update_of_ne differs ..⟩

/-- After any run, an accepted reference addresses its order exactly when it carries no
whitespace around it. -/
theorem addressed_iff (rail : ManualRail ε) (calls : List (ManualCall ε)) (reference : String)
    (accepted : Accepted (rail.runFresh calls).1 reference) :
    Addressed (rail.runFresh calls).2 reference ↔ trim reference = reference := by
  have recorded := runFresh_recorded rail calls
  obtain ⟨rec, found⟩ := recorded.accepted reference accepted
  constructor
  · intro addressed
    obtain ⟨own, held, looked⟩ := addressed.read
    have under := recorded.keyed (trim reference) own looked
    rw [← under, recorded.keyed reference own held]
  · intro trimmed
    have nonblank := recorded.nonblank reference rec found
    exact {
      paid := fun now who named => marksOnly_of_trimmed found trimmed nonblank named now .paid
      failed := fun now who named => marksOnly_of_trimmed found trimmed nonblank named now .failed
      read := ⟨rec, found, by rw [record, trimmed, found]⟩ }

/-- A rail that shows every buyer one text. -/
def desk : ManualRail Unit where
  instructions _ _ := .ok "Pay cash at the desk"
  toVec proof := asBytes "\x7b\"instructions\":\"" ++ asBytes proof.instructions ++ asBytes "\"\x7d"

theorem destination_fits : (asBytes "unused").length ≤ isizeMax := by decide

def order (reference : Str) : PayRequest := ⟨1500, "zar", ⟨"unused", destination_fits⟩, reference⟩

theorem tidyReference_fits : (asBytes "order-1").length ≤ isizeMax := by decide

def tidy : PayRequest := order ⟨"order-1", tidyReference_fits⟩

def untidy : PayRequest := order ⟨" order-1", by decide⟩

theorem accepted_first (rail : ManualRail ε) (env : ε) (now : UInt64) (req : PayRequest)
    (ok : (rail.charge env now req fun _ => none).1.isOk = true) :
    Accepted (rail.runFresh [.charge env now req]).1 req.reference.text := by
  cases answered : (rail.charge env now req fun _ => none).1 with
  | error error => simp [answered, Except.isOk, Except.toBool] at ok
  | ok receipt =>
    have listed : (rail.runFresh [.charge env now req]).1 =
        [(.charge env now req, .charged (rail.charge env now req fun _ => none).1)] := rfl
    refine ⟨env, now, req, receipt, ?_, rfl⟩
    rw [listed, answered]
    exact List.mem_singleton.mpr rfl

theorem tidy_addressed :
    Addressed (desk.runFresh [.charge () 1700000000 tidy]).2 tidy.reference.text ↔
      trim tidy.reference.text = tidy.reference.text :=
  addressed_iff desk [.charge () 1700000000 tidy] tidy.reference.text
    (accepted_first desk () 1700000000 tidy (by decide))

/-- A space in front is accepted by charge and lost by mark and record. -/
theorem untidy_unaddressed :
    Accepted (desk.runFresh [.charge () 1700000000 untidy]).1 untidy.reference.text ∧
      ¬ Addressed (desk.runFresh [.charge () 1700000000 untidy]).2 untidy.reference.text := by
  refine ⟨accepted_first desk () 1700000000 untidy (by decide), ?_⟩
  intro addressed
  obtain ⟨rec, -, looked⟩ := addressed.read
  have lost : record untidy.reference.text (desk.runFresh [.charge () 1700000000 untidy]).2 = none := by
    decide
  rw [lost] at looked
  cases looked

end Patala.Fiat.ManualRail
