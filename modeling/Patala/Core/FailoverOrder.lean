import Patala.Core.Failover

/-! The failover loop against its intent: which rails it may call, in which
order, when it stops, and which error it reports. -/

namespace Patala.FailoverRail

/-- The indices of a policy order that name a wrapped rail, repeats included. -/
def candidates (f : FailoverRail σ) (order : List Nat) : List f.Idx :=
  order.filterMap fun idx => if inRange : idx < f.rails.length then some ⟨idx, inRange⟩ else none

/-- The class of the first candidate. -/
def intendedClass (f : FailoverRail σ) (order : List Nat) : Option RailClass :=
  (f.candidates order).head?.map f.classOf

/-- A candidate may be called when crossing is allowed or it has the first one's class. -/
def mayCall (f : FailoverRail σ) (intended : Option RailClass) (idx : f.Idx) : Bool :=
  f.allowCrossClass || decide (intended = some (f.classOf idx))

def eligible (f : FailoverRail σ) (order : List Nat) : List f.Idx :=
  (f.candidates order).filter (f.mayCall (f.intendedClass order))

def skipped (f : FailoverRail σ) (order : List Nat) : List f.Idx :=
  (f.candidates order).filter fun idx => !f.mayCall (f.intendedClass order) idx

private theorem candidates_cons_in {f : FailoverRail σ} (inRange : idx < f.rails.length)
    (order : List Nat) : f.candidates (idx :: order) = ⟨idx, inRange⟩ :: f.candidates order := by
  simp [candidates, inRange]

private theorem candidates_cons_out {f : FailoverRail σ} (outside : ¬ idx < f.rails.length)
    (order : List Nat) : f.candidates (idx :: order) = f.candidates order := by
  simp [candidates, outside]

private theorem planStep_kept {f : FailoverRail σ} (inRange : idx < f.rails.length)
    (may : f.mayCall (some want) ⟨idx, inRange⟩ = true) (eligible : List f.Idx)
    (blocked : Option (RailClass × RailClass)) :
    f.planStep ⟨some want, eligible, blocked⟩ idx =
      ⟨some want, eligible ++ [⟨idx, inRange⟩], blocked⟩ := by
  rcases Bool.or_eq_true_iff.mp may with crossing | same
  · simp [planStep, inRange, crossing]
  · have same := Option.some.inj (of_decide_eq_true same)
    simp only [planStep, dif_pos inRange, if_pos same]

private theorem planStep_skipped {f : FailoverRail σ} (inRange : idx < f.rails.length)
    (barred : f.mayCall (some want) ⟨idx, inRange⟩ = false) (eligible : List f.Idx)
    (blocked : Option (RailClass × RailClass)) :
    f.planStep ⟨some want, eligible, blocked⟩ idx =
      ⟨some want, eligible, blocked.or (some (want, f.classOf ⟨idx, inRange⟩))⟩ := by
  obtain ⟨crossing, differs⟩ := Bool.or_eq_false_iff.mp barred
  have differs : want ≠ f.classOf ⟨idx, inRange⟩ := by simpa using differs
  simp [planStep, inRange, crossing, differs]

/-- Once the class is fixed the loop keeps what may be called and remembers the
first candidate it skips. -/
private theorem planStep_foldl (f : FailoverRail σ) (want : RailClass) (order : List Nat)
    (eligible : List f.Idx) (blocked : Option (RailClass × RailClass)) :
    order.foldl f.planStep ⟨some want, eligible, blocked⟩ =
      ⟨some want, eligible ++ (f.candidates order).filter (f.mayCall (some want)),
        blocked.or (((f.candidates order).filter fun idx => !f.mayCall (some want) idx).head?.map
          fun idx => (want, f.classOf idx))⟩ := by
  induction order generalizing eligible blocked with
  | nil => simp [candidates]
  | cons idx rest ih =>
    rw [List.foldl_cons]
    by_cases inRange : idx < f.rails.length
    · rw [candidates_cons_in inRange]
      cases may : f.mayCall (some want) ⟨idx, inRange⟩ with
      | true =>
        rw [planStep_kept inRange may, ih]
        simp [may]
      | false =>
        rw [planStep_skipped inRange may, ih]
        simp [may]
    · rw [candidates_cons_out inRange]
      have same : f.planStep ⟨some want, eligible, blocked⟩ idx = ⟨some want, eligible, blocked⟩ := by
        simp [planStep, inRange]
      rw [same, ih]

/-- The planning fold computes the eligible candidates, and the boundary at the
first skipped one. -/
theorem planOrder_eq (f : FailoverRail σ) (order : List Nat) :
    f.planOrder order = ⟨f.eligible order, (f.skipped order).head?.bind fun idx =>
      (f.intendedClass order).map fun want => (want, f.classOf idx)⟩ := by
  induction order with
  | nil => simp [planOrder, eligible, skipped, candidates]
  | cons idx rest ih =>
    by_cases inRange : idx < f.rails.length
    · have first : f.planStep ⟨none, [], none⟩ idx =
          ⟨some (f.classOf ⟨idx, inRange⟩), [⟨idx, inRange⟩], none⟩ := by
        simp [planStep, inRange]
      have intended : f.intendedClass (idx :: rest) = some (f.classOf ⟨idx, inRange⟩) := by
        simp [intendedClass, candidates_cons_in inRange]
      have may : f.mayCall (some (f.classOf ⟨idx, inRange⟩)) ⟨idx, inRange⟩ = true := by
        simp [mayCall]
      simp only [planOrder, List.foldl_cons, first, planStep_foldl, eligible, skipped, intended,
        candidates_cons_in inRange, List.filter_cons, may]
      simp [Option.map_eq_bind]
    · have same : f.planStep ⟨none, [], none⟩ idx = ⟨none, [], none⟩ := by
        simp [planStep, inRange]
      simpa only [planOrder, List.foldl_cons, same, eligible, skipped, intendedClass,
        candidates_cons_out inRange] using ih

theorem mem_eligible_class {f : FailoverRail σ} {idx : f.Idx} (closed : f.allowCrossClass = false)
    (member : idx ∈ f.eligible order) : f.intendedClass order = some (f.classOf idx) := by
  have may := (List.mem_filter.mp member).2
  simpa [mayCall, closed] using may

/-- No candidate before the first one is skipped, so a skipped one has an intended class. -/
theorem intendedClass_of_skipped {f : FailoverRail σ} {idx : f.Idx} (member : idx ∈ f.skipped order) :
    ∃ want, f.intendedClass order = some want := by
  have candidate := (List.mem_filter.mp member).1
  cases found : f.candidates order with
  | nil => simp [found] at candidate
  | cons first rest => exact ⟨f.classOf first, by simp [intendedClass, found]⟩

/-- What a dispatch over the policy order `order`, asked for in the world `asked`,
may do and must answer. -/
structure FollowsPolicy (f : FailoverRail σ) (call : f.Idx → σ → ω × σ)
    (outcome : ω → Except Error α) (order : List Nat) (asked : σ)
    (done : f.Dispatch ω α) : Prop where
  genuine : Attempts.Trace call asked done.calls done.world
  inOrder : done.calls.map Prod.fst <+: f.eligible order
  stops : ∀ entry ∈ done.calls.dropLast, ∃ error, outcome entry.2 = .error error
  unchanged : ∀ value, done.result = .ok value ↔
    ∃ entry, done.calls.getLast? = some entry ∧ outcome entry.2 = .ok value
  sameClass : f.allowCrossClass = false →
    ∀ entry ∈ done.calls, f.intendedClass order = some (f.classOf entry.1)
  exhausted : ∀ error, done.result = .error error → done.calls.map Prod.fst = f.eligible order
  blocked : ∀ error, done.result = .error error → ∀ first, (f.skipped order).head? = some first →
    ∃ want, f.intendedClass order = some want ∧
      error = .crossClassFailover want (f.classOf first)
  failed : ∀ error, done.result = .error error → f.skipped order = [] →
    ∀ entry, done.calls.getLast? = some entry → outcome entry.2 = .error error
  unattempted : ∀ error, done.result = .error error → f.skipped order = [] →
    done.calls = [] → error = .allRailsFailed

/-- A success is the loop's; a failure is the loop's with the terminal error in its place. -/
theorem attempt_result (f : FailoverRail σ) (call : f.Idx → σ → ω × σ)
    (outcome : ω → Except Error α) (req : PayRequest) (world : σ) (order : List Nat) (asked : σ)
    (policy : f.policy f.rails req world = (order, asked)) :
    f.attempt call outcome req world =
      let run := Attempts.run call outcome (f.eligible order) none asked
      { result := run.result.mapError fun last => terminalError last (f.planOrder order).blocked
        calls := run.calls
        world := run.state } := by
  simp only [attempt, plan, policy, planOrder_eq]
  cases (Attempts.run call outcome (f.eligible order) none asked).result <;> rfl

theorem mapError_ok_iff {run : Except ε α} {report : ε → δ} :
    run.mapError report = .ok value ↔ run = .ok value := by
  cases run <;> simp [Except.mapError]

theorem attempt_follows_policy (f : FailoverRail σ) (call : f.Idx → σ → ω × σ)
    (outcome : ω → Except Error α) (req : PayRequest) (world : σ) (order : List Nat) (asked : σ)
    (policy : f.policy f.rails req world = (order, asked)) :
    f.FollowsPolicy call outcome order asked (f.attempt call outcome req world) := by
  rw [attempt_result f call outcome req world order asked policy]
  have inOrder : (Attempts.run call outcome (f.eligible order) none asked).calls.map Prod.fst <+:
      f.eligible order := Attempts.run_prefix (f.eligible order) none asked
  have failure : ∀ error, (Attempts.run call outcome (f.eligible order) none asked).result.mapError
      (fun last => terminalError last (f.planOrder order).blocked) = .error error →
      ∃ last, (Attempts.run call outcome (f.eligible order) none asked).result = .error last ∧
        terminalError last (f.planOrder order).blocked = error := by
    intro error reported
    cases finished : (Attempts.run call outcome (f.eligible order) none asked).result with
    | ok value => simp [finished, Except.mapError] at reported
    | error last => exact ⟨last, rfl, by simpa [finished, Except.mapError] using reported⟩
  refine
    { genuine := Attempts.run_trace (f.eligible order) none asked
      inOrder := inOrder
      stops := Attempts.run_failed_before_last (f.eligible order) none asked
      unchanged := fun value =>
        mapError_ok_iff.trans (Attempts.run_ok_iff (f.eligible order) none asked value)
      sameClass := ?_
      exhausted := ?_
      blocked := ?_
      failed := ?_
      unattempted := ?_ }
  · intro closed entry member
    have called : entry.1 ∈ f.eligible order := inOrder.subset (List.mem_map_of_mem member)
    exact mem_eligible_class closed called
  · intro error reported
    obtain ⟨last, finished, -⟩ := failure error reported
    exact (Attempts.run_error _ _ _ finished).1
  · intro error reported first head
    obtain ⟨last, finished, same⟩ := failure error reported
    obtain ⟨want, intended⟩ := intendedClass_of_skipped (List.mem_of_mem_head? head)
    refine ⟨want, intended, ?_⟩
    rw [← same, planOrder_eq, head, intended]
    rfl
  · intro error reported none_skipped entry final
    obtain ⟨last, finished, same⟩ := failure error reported
    obtain ⟨-, ⟨empty, kept⟩ | ⟨entry', remembered, final', read, kept⟩⟩ :=
      Attempts.run_error _ _ _ finished
    · simp [empty, Attempts.run] at final
    · have sameEntry : entry' = entry := Option.some.inj (final'.symm.trans final)
      subst entry'
      rw [← same, planOrder_eq, none_skipped, kept]
      exact read
  · intro error reported none_skipped none_called
    obtain ⟨last, finished, same⟩ := failure error reported
    obtain ⟨complete, ⟨empty, kept⟩ | ⟨entry, remembered, final, read, kept⟩⟩ :=
      Attempts.run_error _ _ _ finished
    · rw [← same, planOrder_eq, none_skipped, kept]
      rfl
    · have empty : (Attempts.run call outcome (f.eligible order) none asked).calls = [] := none_called
      rw [empty] at final
      cases final

/-- Both `quote` and `charge` follow the order their policy returned. -/
theorem quote_charge_follow_policy (f : FailoverRail σ) (req : PayRequest) (world : σ) :
    let answer := f.policy f.rails req world
    f.FollowsPolicy (fun idx => (f.rails.get idx).quote req) id answer.1 answer.2
        (f.quote req world) ∧
      f.FollowsPolicy (fun idx => (f.rails.get idx).charge req) Charged.result answer.1 answer.2
        (f.charge req world) :=
  ⟨attempt_follows_policy f _ _ req world _ _ rfl, attempt_follows_policy f _ _ req world _ _ rfl⟩

end Patala.FailoverRail
