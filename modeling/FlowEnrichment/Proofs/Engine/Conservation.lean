import FlowEnrichment.Proofs.Engine.Dispatching
import FlowEnrichment.Proofs.Except

/-!
# Conservation of requests

Every step conserves requests, and an engine as it was built has none. So in every state that
can be reached before the engine is stopped, what was accepted for an exporter is what was sent,
is held by the dispatcher or waits in the queue, in the order of acceptance, and what was turned
away found the queue full and was counted.
-/
namespace FlowEnrichment.Flow

open Coalesce

variable {capacity : Nat} {busy : ExporterTotals} {flow after : Flow}

/-! ## Steps -/

/-- A worker that takes a batch conserves requests. -/
theorem Conserved.take (conserved : Conserved capacity busy flow) {after : Engine}
    (taken : flow.engine.step? .take = some after) :
    Conserved capacity busy (flow.afterAction .take after) := by
  obtain ⟨batch, channel, sent, untouched⟩ := Engine.Untouched.take taken
  have unsent : after.channel.length ≤ flow.engine.channel.length := by
    rw [untouched.channel, sent, List.length_cons]
    exact Nat.le_succ _
  have shorter : Conserved capacity busy
      { flow with engine := { flow.engine with channel } } :=
    conserved.moved rfl conserved.running rfl rfl (Nat.le_refl _) conserved.single
      conserved.distinct fun _ => rfl
  refine Conserved.engine_only ?_ (by decide) unsent
  exact shorter.untouched untouched

/-- Maintenance that runs by itself conserves requests. -/
theorem Conserved.maintain (conserved : Conserved capacity busy flow) {after : Engine}
    (taken : flow.engine.step? .maintain = some after) :
    Conserved capacity busy (flow.afterAction .maintain after) := by
  obtain ⟨deadline, running, ticking, rfl⟩ := Engine.step_maintain taken
  have served := Engine.queued_serveTicks flow.engine deadline conserved.running
  have made : flow.engine.actionAttempts .maintain = Engine.maintainTimesAttempts
      (flow.engine.dueTicks (flow.engine.now.nanos + Instant.tickNanos - deadline.nanos)
        deadline).1 flow.engine := by
    simp only [Engine.actionAttempts, ticking]
  have unsent : (flow.engine.serveTicks deadline).channel.drop flow.engine.channel.length = [] := by
    rw [served.channel]
    exact List.drop_length
  rw [afterAction, made, unsent, List.append_nil]
  exact conserved.queued served

/-- An action that leaves requests alone conserves them. -/
theorem Conserved.aside (conserved : Conserved capacity busy flow) {action : Engine.Action}
    {after : Engine} (other : action ≠ .maintain) (untouched : flow.engine.Untouched after) :
    Conserved capacity busy (flow.afterAction action after) := by
  have unsent : after.channel.length ≤ flow.engine.channel.length :=
    Nat.le_of_eq (congrArg List.length untouched.channel)
  exact (conserved.untouched untouched).engine_only other unsent

/-- Every action conserves requests. -/
theorem Conserved.act (conserved : Conserved capacity busy flow) {action : Engine.Action}
    {after : Engine} (free : flow.gathering = none ∨ action ≠ .listen)
    (taken : flow.engine.step? action = some after) :
    Conserved capacity busy (flow.afterAction action after) := by
  cases action with
  | prepare => exact conserved.aside (by decide) (.prepare taken)
  | join => exact conserved.aside (by decide) (.join taken)
  | seek => exact conserved.seek taken
  | listen => exact conserved.listen (free.resolve_right (absurd rfl)) taken
  | deliver => exact conserved.deliver taken
  | claim => exact conserved.claim taken
  | take => exact conserved.take taken
  | work position => exact conserved.aside Engine.Action.noConfusion (.work taken)
  | report => exact conserved.aside (by decide) (.report taken)
  | maintain => exact conserved.maintain taken

/-- The start of an engine conserves requests. -/
theorem Conserved.start (conserved : Conserved capacity busy flow)
    (ready : flow.engine.phase = .ready) :
    Conserved capacity busy { flow with engine := flow.engine.start.1 } := by
  have running : Conserved capacity busy
      { flow with engine := { flow.engine with phase := .running } } :=
    conserved.moved rfl Phase.noConfusion rfl rfl (Nat.le_refl _) conserved.single
      conserved.distinct fun _ => rfl
  exact running.untouched (.start ready)

/-- Every step conserves requests. -/
theorem Conserved.step (conserved : Conserved capacity busy flow) (step : Step flow after) :
    Conserved capacity busy after := by
  cases step with
  | pass counted =>
    exact conserved.untouched ⟨rfl, rfl, rfl, rfl, rfl, congrArg EngineTotals.busy counted⟩
  | start ready => exact conserved.start ready
  | request query => exact conserved.queued (Engine.queued_enqueue _ query conserved.running)
  | lookup now query =>
    exact conserved.queued (Engine.queued_lookup _ now query conserved.running)
  | maintain now => exact conserved.queued (Engine.queued_maintain _ now conserved.running)
  | act free taken => exact conserved.act free taken
  | gather gathering => exact conserved.gather gathering

/-! ## Runs -/

/-- An engine that could be built has a queue for a hundred requests of every worker. -/
theorem queueCapacity_of_fits {config : Configuration}
    (fits : ¬ Configuration.maxQueueCapacity < config.queueCapacity) :
    config.queueCapacity = 100 * config.workers.toNat := by
  unfold Configuration.maxQueueCapacity Configuration.queueCapacity at *
  have size : UInt64.size = 18446744073709551616 := rfl
  omega

/-- What was built has the providers of its plans and the surroundings that it was given, and no
requests. -/
theorem build_eq_ok {config : Configuration} {plans : List ProviderPlan} {counters : CacheCounters}
    {around : Surroundings} {engine : Engine}
    (built : Engine.build config plans counters around = .ok engine) :
    config.queueCapacity = 100 * config.workers.toNat ∧
      ∃ providers, plans.mapM ProviderPlan.build = .ok providers ∧
        engine = { config, providers, around, cache := .fresh counters,
                   breakers := { config := config.breaker } } := by
  obtain ⟨_, -, planned⟩ := bind_eq_ok_iff.1 built
  obtain ⟨providers, planned, fits⟩ := bind_eq_ok_iff.1 planned
  refine ⟨queueCapacity_of_fits fun large => ?_, providers, mapError_eq_ok_iff.1 planned, ?_⟩
  · rw [if_pos large] at fits
    cases fits
  · split at fits
    · cases fits
    · cases fits
      rfl

/-- An engine that was built conserves the requests that it has not got yet. -/
theorem conserved_built {config : Configuration} {plans : List ProviderPlan}
    {counters : CacheCounters} {around : Surroundings} {engine : Engine}
    (built : Engine.build config plans counters around = .ok engine) :
    Conserved (100 * config.workers.toNat) around.totals.busy { engine } := by
  obtain ⟨limit, providers, -, fresh⟩ := build_eq_ok built
  subst fresh
  exact {
    limit := limit
    running := Phase.noConfusion
    room := Nat.zero_le _
    fair := fun attempt member => nomatch member
    counted := fun _ => rfl
    single := absurd rfl
    distinct := List.nodup_nil
    order := fun _ => rfl }

/-- Whatever can be reached conserves requests. -/
theorem conserved_of_reachable {config : Configuration} {plans : List ProviderPlan}
    {counters : CacheCounters} {around : Surroundings}
    (reachable : Reachable config plans counters around flow) :
    Conserved (100 * config.workers.toNat) around.totals.busy flow := by
  induction reachable with
  | built built => exact conserved_built built
  | step _ step conserved => exact conserved.step step
  | recast _ _ conserved => exact conserved.untouched ⟨rfl, rfl, rfl, rfl, rfl, rfl⟩

/-- In whatever order things happen to an engine that was built, until it is stopped: only a queue
with a hundred requests for every worker turns an attempt away, and each that is turned away is
counted once for its exporter; and what was accepted for an exporter is what was sent to the
workers, then what the one batch contains that the dispatcher may hold, then what waits. -/
theorem requests_conserved {config : Configuration} {plans : List ProviderPlan}
    {counters : CacheCounters} {around : Surroundings}
    (reachable : Reachable config plans counters around flow) :
    (∀ attempt ∈ flow.attempts, attempt.Fair (100 * config.workers.toNat)) ∧
      (∀ exporter, flow.engine.around.totals.busy.of exporter =
        around.totals.busy.of exporter + (Attempt.refusedOf exporter flow.attempts).length) ∧
      Distinct flow.held ∧
      ∀ exporter, waitingIndexes exporter (Attempt.acceptedOf flow.attempts) =
        batchIndexes exporter flow.sent ++ batchIndexes exporter flow.held ++
          waitingIndexes exporter flow.engine.queue := by
  have conserved := conserved_of_reachable reachable
  exact ⟨conserved.fair, conserved.counted, conserved.distinct, conserved.order⟩

/-- A lookup in the middle of a round joins the batch of its exporter, and one that comes when
that batch was sent waits for another round. -/
theorem requests_conserved_midway :
    ∃ flow, Reachable {} [StaticTable.plan {}] {} {} flow ∧
      flow.attempts.map Attempt.query = [⟨⟨1⟩, 1⟩, ⟨⟨2⟩, 7⟩, ⟨⟨1⟩, 3⟩, ⟨⟨1⟩, 4⟩] ∧
      flow.sent = [⟨⟨1⟩, [1, 3]⟩] ∧ flow.held = [⟨⟨2⟩, [7]⟩] ∧
      flow.engine.queue = [⟨⟨1⟩, 4⟩] ∧
      (∀ attempt ∈ flow.attempts, attempt.Fair 100) ∧
      waitingIndexes ⟨1⟩ (Attempt.acceptedOf flow.attempts) =
        batchIndexes ⟨1⟩ flow.sent ++ batchIndexes ⟨1⟩ flow.held ++
          waitingIndexes ⟨1⟩ flow.engine.queue := by
  have built : Reachable {} [StaticTable.plan {}] {} {} _ := .built rfl
  have asked := (built.step (.lookup _ .epoch ⟨⟨1⟩, 1⟩)).step (.lookup _ .epoch ⟨⟨2⟩, 7⟩)
  have started := asked.step (.start rfl)
  have joined := started.step (.act (.inl rfl) (rfl : Engine.step? _ .join = some _))
  have found := joined.step (.act (.inl rfl) (rfl : Engine.step? _ .seek = some _))
  have begun := found.step (.gather (.first rfl rfl rfl rfl))
  have meanwhile := begun.step (.lookup _ .epoch ⟨⟨1⟩, 3⟩)
  have all := (meanwhile.step (.gather (.more rfl rfl rfl))).step (.gather (.more rfl rfl rfl))
  have ended := all.step (.gather (.close rfl (.inr rfl)))
  have delivered := ended.step (.act (.inl rfl) (rfl : Engine.step? _ .deliver = some _))
  have late := delivered.step (.lookup _ .epoch ⟨⟨1⟩, 4⟩)
  have conserved := requests_conserved late
  exact ⟨_, late, rfl, rfl, rfl, rfl, conserved.1, conserved.2.2.2 ⟨1⟩⟩

end FlowEnrichment.Flow
