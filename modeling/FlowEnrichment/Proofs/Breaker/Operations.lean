import FlowEnrichment.Breaker

/-!
# What the operations of a breaker leave

One lemma for each operation says in what status it can leave a breaker. Opening needs the end
of the cool-down to be an instant; the lemmas about endings take that instant as given.
-/
namespace FlowEnrichment.Breaker

/-- No operation changes the thresholds. -/
theorem enter_config {breaker next : Breaker} {now : Instant} {call : BreakerCall}
    (entered : breaker.enter now = some (next, call)) : next.config = breaker.config := by
  unfold enter at entered
  split at entered
  · obtain ⟨rfl, rfl⟩ := by simpa using entered
    rfl
  · split at entered
    · simp at entered
    · obtain ⟨rfl, rfl⟩ := by simpa using entered
      rfl
  · split at entered
    · simp at entered
    · obtain ⟨rfl, rfl⟩ := by simpa using entered
      rfl

/-- A call passes a closed breaker as it is, and no trial; any other breaker lets it pass as a
trial, which is running from then on. -/
theorem enter_cases {breaker next : Breaker} {now : Instant} {call : BreakerCall}
    (entered : breaker.enter now = some (next, call)) :
    (call.trial = false ∧ next = breaker ∧
      ∃ failures last, breaker.status = .closed failures last) ∨
    (call.trial = true ∧ (∃ successes, next.status = .halfOpen successes true) ∧
      ((∃ deadline, breaker.status = .opened deadline ∧ deadline.nanos ≤ now.nanos) ∨
        ∃ successes, breaker.status = .halfOpen successes false)) := by
  cases known : breaker.status with
  | closed failures last =>
    simp only [enter, known, Option.some.injEq, Prod.mk.injEq] at entered
    obtain ⟨rfl, rfl⟩ := entered
    exact .inl ⟨rfl, rfl, failures, last, rfl⟩
  | opened deadline =>
    by_cases early : now.nanos < deadline.nanos
    · simp [enter, known, early] at entered
    · simp only [enter, known, early, if_false, Option.some.injEq, Prod.mk.injEq] at entered
      obtain ⟨rfl, rfl⟩ := entered
      exact .inr ⟨rfl, ⟨0, rfl⟩, .inl ⟨deadline, rfl, by omega⟩⟩
  | halfOpen successes running =>
    cases running with
    | true => simp [enter, known] at entered
    | false =>
      simp only [enter, known, Bool.false_eq_true, if_false, Option.some.injEq,
        Prod.mk.injEq] at entered
      obtain ⟨rfl, rfl⟩ := entered
      exact .inr ⟨rfl, ⟨successes, rfl⟩, .inr ⟨successes, rfl⟩⟩

/-- A call is rejected during the cool-down and while a trial is running. -/
theorem enter_eq_none_iff {breaker : Breaker} {now : Instant} :
    breaker.enter now = none ↔
      (∃ deadline, breaker.status = .opened deadline ∧ now.nanos < deadline.nanos) ∨
        ∃ successes, breaker.status = .halfOpen successes true := by
  cases known : breaker.status with
  | closed failures last => simp [enter, known]
  | opened deadline => by_cases early : now.nanos < deadline.nanos <;> simp [enter, known, early]
  | halfOpen successes running => cases running <;> simp [enter, known]

/-- A breaker reports itself open during its cool-down. -/
theorem state_eq_opened_iff {breaker : Breaker} {now : Instant} :
    breaker.state now = .opened ↔
      ∃ deadline, breaker.status = .opened deadline ∧ now.nanos < deadline.nanos := by
  cases known : breaker.status with
  | closed failures last => simp [state, known]
  | opened deadline => by_cases early : now.nanos < deadline.nanos <;> simp [state, known, early]
  | halfOpen successes running => simp [state, known]

/-- Opening changes no threshold. -/
@[simp] theorem trip_config (breaker : Breaker) (now : Instant) :
    (breaker.trip now).breaker.config = breaker.config := by
  unfold trip
  split <;> rfl

/-- Recording an outcome changes no threshold. -/
@[simp] theorem record_config (breaker : Breaker) (now : Instant) (success : Bool) :
    (breaker.record now success).breaker.config = breaker.config := by
  unfold record
  split
  · cases success with
    | true => rfl
    | false =>
      simp only [Bool.false_eq_true, if_false]
      split
      · rw [trip_config]
      · rfl
  · cases success with
    | true =>
      simp only [Bool.not_true, Bool.false_eq_true, if_false]
      split <;> rfl
    | false => simp
  · rfl

/-- Recording an outcome leaves an open breaker as it is, and any other closed, half open with no
trial running, or open for a cool-down that begins now. -/
theorem record_status {breaker : Breaker} {now deadline : Instant}
    (representable : now.add? breaker.config.timeout = some deadline) (success : Bool) :
    (∃ until_, breaker.status = .opened until_ ∧
      (breaker.record now success).breaker.status = .opened until_) ∨
    (breaker.record now success).breaker.status = .opened deadline ∨
    (∃ failures last, (breaker.record now success).breaker.status = .closed failures last) ∨
    ∃ successes, (breaker.record now success).breaker.status = .halfOpen successes false := by
  cases known : breaker.status with
  | closed failures last =>
    cases success with
    | true => exact .inr (.inr (.inl ⟨0, none, by simp [record, known]⟩))
    | false =>
      by_cases enough : breaker.config.errorThreshold.toNat ≤
          breaker.remembered now failures last + 1
      · exact .inr (.inl (by simp [record, known, enough, trip, representable]))
      · exact .inr (.inr (.inl
          ⟨breaker.remembered now failures last + 1, some now, by simp [record, known, enough]⟩))
  | opened until_ => exact .inl ⟨until_, rfl, by simp [record, known]⟩
  | halfOpen successes running =>
    cases success with
    | false => exact .inr (.inl (by simp [record, known, trip, representable]))
    | true =>
      by_cases enough : breaker.config.successThreshold.toNat ≤ successes + 1
      · exact .inr (.inr (.inl ⟨0, none, by simp [record, known, enough]⟩))
      · exact .inr (.inr (.inr ⟨successes + 1, by simp [record, known, enough]⟩))

/-- Dropping a call that is no trial changes nothing. -/
theorem drop_other {call : BreakerCall} (other : call.trial = false) (breaker : Breaker)
    (now : Instant) : (breaker.drop now call).breaker = breaker := by
  simp [drop, other]

/-- Dropping a call changes no threshold. -/
@[simp] theorem drop_config (breaker : Breaker) (now : Instant) (call : BreakerCall) :
    (breaker.drop now call).breaker.config = breaker.config := by
  unfold drop abandon
  split
  · split
    · rw [trip_config]
    · rfl
  · rfl

/-- Dropping a trial opens a half-open breaker for a cool-down that begins now, and leaves any
other as it is. -/
theorem drop_trial {breaker : Breaker} {now deadline : Instant} {call : BreakerCall}
    (trial : call.trial = true)
    (representable : now.add? breaker.config.timeout = some deadline) :
    (breaker.drop now call).breaker.status = .opened deadline ∨
    ((breaker.drop now call).breaker.status = breaker.status ∧
      ∀ successes running, breaker.status ≠ .halfOpen successes running) := by
  cases known : breaker.status with
  | closed failures last => exact .inr (by simp [drop, abandon, trial, known])
  | opened until_ => exact .inr (by simp [drop, abandon, trial, known])
  | halfOpen successes running =>
    exact .inl (by simp [drop, abandon, trial, known, trip, representable])

end FlowEnrichment.Breaker
