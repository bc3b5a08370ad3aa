import FlowEnrichment.Proofs.Breaker.Traffic

/-!
# Recovery of a breaker

A breaker that rejects calls does so for one of two reasons, and neither lasts for ever. A trial
is taken to be running only while some trial is unfinished (`Accounted.running`), and a cool-down
ends a time-out after the end of some call (`Accounted.cooling`). When every call has ended, the
breaker lets a call pass after one time-out (`never_wedged`). All of this needs the ends of
cool-downs to be instants; time only goes on, so it is enough that one which began now would end.
-/
namespace FlowEnrichment

/-- An instant from which a duration leads to an instant may also be an earlier one. -/
theorem Instant.add?_isSome_of_le {earlier later : Instant} {duration : Duration}
    (ordered : earlier.nanos ≤ later.nanos) (ends : (later.add? duration).isSome = true) :
    (earlier.add? duration).isSome = true := by
  have bound : later.nanos + duration.nanos < rangeNanos := by
    by_contra far
    simp [add?, far] at ends
  have closer : earlier.nanos + duration.nanos < rangeNanos := by omega
  simp [add?, closer]

/-- An instant a duration later is later by that duration. -/
theorem Instant.nanos_of_add? {instant next : Instant} {duration : Duration}
    (added : instant.add? duration = some next) :
    next.nanos = instant.nanos + duration.nanos := by
  by_cases close : instant.nanos + duration.nanos < rangeNanos
  · simp only [add?, close, if_true, Option.some.injEq] at added
    rw [← added]
  · simp [add?, close] at added

namespace Breaker.Traffic

/-- The reasons for which calls are rejected, as long as cool-downs end at instants. -/
structure Accounted (traffic : Traffic) : Prop where
  /-- While a trial is taken to be running, some trial is unfinished. -/
  running : ∀ successes, traffic.breaker.status = .halfOpen successes true →
    ∃ live ∈ traffic.calls, live.call.trial = true
  /-- No call ended in the future. -/
  past : ∀ ended, traffic.lastEnd = some ended → ended.nanos ≤ traffic.now.nanos
  /-- A cool-down ends at most one time-out after the last end of a call. -/
  cooling : ∀ deadline, traffic.breaker.status = .opened deadline →
    ∃ ended, traffic.lastEnd = some ended ∧
      deadline.nanos ≤ ended.nanos + traffic.breaker.config.timeout.nanos

/-- The rejections by an unused breaker are accounted for: it rejects nothing. -/
theorem accounted_fresh (config : BreakerConfig) : Accounted (fresh config) := by
  constructor <;> simp [fresh]

/-- The end of a call keeps account if it leaves no trial running and either leaves a cool-down
that was there or begins one now. -/
theorem Accounted.endCall {traffic : Traffic} {number : Nat} {recorded : Recorded}
    (accounted : traffic.Accounted) (same : recorded.breaker.config = traffic.breaker.config)
    (idle : ∀ successes, recorded.breaker.status ≠ .halfOpen successes true)
    (cooling : ∀ deadline, recorded.breaker.status = .opened deadline →
      traffic.breaker.status = .opened deadline ∨
        deadline.nanos = traffic.now.nanos + traffic.breaker.config.timeout.nanos) :
    (traffic.endCall number recorded).Accounted := by
  constructor
  · intro successes running
    exact absurd running (idle successes)
  · rintro ended ⟨⟩
    exact Nat.le_refl _
  · intro deadline opened
    refine ⟨traffic.now, rfl, ?_⟩
    change deadline.nanos ≤ traffic.now.nanos + recorded.breaker.config.timeout.nanos
    rw [same]
    rcases cooling deadline opened with earlier | new
    · obtain ⟨ended, known, bound⟩ := accounted.cooling deadline earlier
      have before := accounted.past ended known
      omega
    · omega

/-- Recording an outcome keeps account. -/
theorem Accounted.record {traffic : Traffic} {deadline : Instant} (accounted : traffic.Accounted)
    (ends : traffic.now.add? traffic.breaker.config.timeout = some deadline) (number : Nat)
    (success : Bool) :
    (traffic.endCall number (traffic.breaker.record traffic.now success)).Accounted := by
  have known := record_status ends success
  refine accounted.endCall (record_config _ _ _) ?_ ?_
  · rintro successes running
    simp [running] at known
  · intro until_ opened
    rcases known with ⟨earlier, before, same⟩ | new | ⟨failures, last, closed⟩ |
      ⟨successes, halfOpen⟩
    · obtain rfl : earlier = until_ := by simpa [same] using opened
      exact .inl before
    · obtain rfl : deadline = until_ := by simpa [new] using opened
      exact .inr (Instant.nanos_of_add? ends)
    · simp [closed] at opened
    · simp [halfOpen] at opened

/-- Dropping a call keeps account. -/
theorem Accounted.drop {traffic : Traffic} {deadline : Instant} (accounted : traffic.Accounted)
    (ends : traffic.now.add? traffic.breaker.config.timeout = some deadline) {live : LiveCall}
    (trial : live.call.trial = true) :
    (traffic.endCall live.number (traffic.breaker.drop traffic.now live.call)).Accounted := by
  refine accounted.endCall (drop_config _ _ _) ?_ ?_
  · intro successes running
    rcases drop_trial trial ends with opened | ⟨same, other⟩
    · simp [opened] at running
    · exact other successes true (same ▸ running)
  · intro until_ now_opened
    rcases drop_trial trial ends with opened | ⟨same, -⟩
    · obtain rfl : deadline = until_ := by simpa [opened] using now_opened
      exact .inr (Instant.nanos_of_add? ends)
    · exact .inl (same ▸ now_opened)

/-- Dropping a call that is no trial keeps account: the breaker and the trials stay. -/
theorem Accounted.drop_other {traffic : Traffic} (accounted : traffic.Accounted) {live : LiveCall}
    (numbered : traffic.Numbered) (member : live ∈ traffic.calls)
    (other : live.call.trial = false) :
    (traffic.endCall live.number (traffic.breaker.drop traffic.now live.call)).Accounted := by
  have same := Breaker.drop_other other traffic.breaker traffic.now
  constructor
  · intro successes running
    rw [Traffic.endCall, same] at running
    obtain ⟨trial, unfinished, kind⟩ := accounted.running successes running
    refine ⟨trial, List.mem_filter.2 ⟨unfinished, ?_⟩, kind⟩
    rw [decide_eq_true_eq]
    intro named
    rw [numbered.eq_of_number_eq unfinished member named, other] at kind
    exact absurd kind (by decide)
  · rintro ended ⟨⟩
    exact Nat.le_refl _
  · intro deadline opened
    rw [Traffic.endCall, same] at opened ⊢
    obtain ⟨ended, known, bound⟩ := accounted.cooling deadline opened
    have past := accounted.past ended known
    exact ⟨traffic.now, rfl, Nat.le_trans bound (Nat.add_le_add_right past _)⟩

/-- Every act keeps account, as long as a cool-down that began now would end. -/
theorem Accounted.step {traffic : Traffic} (accounted : traffic.Accounted)
    (numbered : traffic.Numbered)
    (ends : (traffic.now.add? traffic.breaker.config.timeout).isSome = true) (act : Act) :
    (traffic.step act).Accounted := by
  obtain ⟨deadline, ends⟩ := Option.isSome_iff_exists.1 ends
  rcases step_cases traffic act with same | ⟨breaker, call, -, entered, stepped⟩ |
    ⟨number, success, live, -, member, rfl, stepped⟩ | ⟨number, live, -, member, rfl, stepped⟩ |
    ⟨duration, -, stepped⟩
  · rw [same]
    exact accounted
  · rw [stepped]
    rcases enter_cases entered with ⟨-, rfl, closed⟩ | ⟨trial, ⟨successes, halfOpen⟩, -⟩
    · refine ⟨fun successes running => ?_, accounted.past, accounted.cooling⟩
      obtain ⟨live, member, kind⟩ := accounted.running successes running
      exact ⟨live, List.mem_cons_of_mem _ member, kind⟩
    · refine ⟨fun _ _ => ⟨_, List.mem_cons_self, trial⟩, accounted.past, ?_⟩
      rintro until_ opened
      simp [halfOpen] at opened
  · rw [stepped]
    exact accounted.record ends _ _
  · rw [stepped]
    cases kind : live.call.trial with
    | true => exact accounted.drop ends kind
    | false => exact accounted.drop_other numbered member kind
  · rw [stepped]
    refine ⟨accounted.running, fun ended known => ?_, accounted.cooling⟩
    exact Nat.le_trans (accounted.past ended known) (Nat.le_add_right _ _)

/-- The rejections are accounted for in every run at whose end a cool-down would end. -/
theorem accounted_after {config : BreakerConfig} {acts : List Act}
    (ends : ((after config acts).now.add? config.timeout).isSome = true) :
    (after config acts).Accounted := by
  induction acts using List.reverseRecOn with
  | nil => exact accounted_fresh config
  | append_singleton acts act ih =>
    rw [after_concat] at ends ⊢
    have earlier := Instant.add?_isSome_of_le (now_le_step _ _) ends
    refine (ih earlier).step (numbered_after config acts) ?_ act
    rwa [after_config]

/-- A breaker all of whose calls have ended lets a call pass a time-out after the last end. -/
theorem Accounted.enter_isSome {traffic : Traffic} (accounted : traffic.Accounted)
    (ended : traffic.calls = []) {later : Instant}
    (waited : ∀ last, traffic.lastEnd = some last →
      last.nanos + traffic.breaker.config.timeout.nanos ≤ later.nanos) :
    (traffic.breaker.enter later).isSome = true := by
  rw [Option.isSome_iff_ne_none]
  intro rejected
  rcases enter_eq_none_iff.1 rejected with ⟨deadline, opened, early⟩ | ⟨successes, running⟩
  · obtain ⟨last, known, bound⟩ := accounted.cooling deadline opened
    have enough := waited last known
    omega
  · obtain ⟨live, member, -⟩ := accounted.running successes running
    simp [ended] at member

/-- A breaker reports itself open exactly when it rejects a call that it would let pass later,
with nothing else happening in between. -/
theorem state_eq_opened_iff_enter (breaker : Breaker) (now : Instant) :
    breaker.state now = .opened ↔
      breaker.enter now = none ∧
        ∃ later : Instant, now.nanos ≤ later.nanos ∧ (breaker.enter later).isSome = true := by
  rw [state_eq_opened_iff, enter_eq_none_iff]
  constructor
  · rintro ⟨deadline, opened, early⟩
    refine ⟨.inl ⟨deadline, opened, early⟩, deadline, Nat.le_of_lt early, ?_⟩
    simp [enter, opened]
  · rintro ⟨cooling | ⟨successes, running⟩, later, -, passes⟩
    · exact cooling
    · rw [enter_eq_none_iff.2 (.inr ⟨successes, running⟩)] at passes
      simp at passes

/-- In every run of a breaker, a trial is taken to be running only while some trial is unfinished;
once every call has ended, a call made at least a time-out after the last end passes; and the
breaker reports itself open exactly when a call is rejected because of the cool-down, which is a
rejection that time alone lifts. -/
theorem never_wedged (config : BreakerConfig) (acts : List Act)
    (ends : ((after config acts).now.add? config.timeout).isSome = true) :
    (∀ successes, (after config acts).breaker.status = .halfOpen successes true →
      ∃ live ∈ (after config acts).calls, live.call.trial = true) ∧
    ((after config acts).calls = [] → ∀ later : Instant,
      (after config acts).now.nanos ≤ later.nanos →
      (∀ last, (after config acts).lastEnd = some last →
        last.nanos + config.timeout.nanos ≤ later.nanos) →
      ((after config acts).breaker.enter later).isSome = true) ∧
    ∀ now : Instant, (after config acts).breaker.state now = .opened ↔
      (after config acts).breaker.enter now = none ∧
        ∃ later : Instant, now.nanos ≤ later.nanos ∧
          ((after config acts).breaker.enter later).isSome = true := by
  have accounted := accounted_after ends
  refine ⟨accounted.running, fun ended later _ waited => ?_, state_eq_opened_iff_enter _⟩
  refine accounted.enter_isSome ended fun last known => ?_
  rw [after_config]
  exact waited last known

/-- After a failure, a trial and its drop, a call passes once the second cool-down is over. -/
theorem never_wedged_after_dropped_trial :
    let config : BreakerConfig := { errorThreshold := 1, timeout := .seconds 10 }
    let acts : List Act := [.call, .finish 0 false, .wait (.seconds 10), .call, .drop 1]
    ((after config acts).now.add? config.timeout).isSome = true ∧
      (after config acts).calls = [] ∧
      ((after config acts).breaker.enter ⟨20 * nanosPerSecond⟩).isSome = true :=
  ⟨by decide, by decide, (never_wedged _ _ (by decide)).2.1 (by decide) _ (by decide)
    fun _ known => Option.some.inj known ▸ by decide⟩

end Breaker.Traffic

end FlowEnrichment
