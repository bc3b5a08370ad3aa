import FlowEnrichment.Proofs.Breaker.Thresholds
import FlowEnrichment.Proofs.Engine.Conservation
import FlowEnrichment.Proofs.Engine.Parts
import FlowEnrichment.Provider.Scripted

/-!
# What makes tasks crash

A task of an engine is gone when a provider crashes, or when a sum of an instant and a duration is
no instant: the end of a cool-down, or the first tick of maintenance. The deadline of a query is
never such a sum, since a time far away stands in for it. So an engine whose providers do not
crash keeps all of its tasks as long as the present time leaves room for what is added to it
(`Engine.Sound`, `no_task_crashes`), and it is built if its queue is not too large. A valid
configuration ensures neither.
-/
namespace FlowEnrichment

/-! ## Providers and times -/

/-- The greatest number of whole seconds in sixty-four bits. -/
def Duration.longest : Duration := .seconds (UInt64.size - 1)

/-- A provider never crashes. -/
def Provider.Reliable (provider : Provider) : Prop :=
  ∀ batch, (provider.reply batch).ending ≠ .crash

/-- What is built of a plan never crashes. -/
def ProviderPlan.Reliable (plan : ProviderPlan) : Prop :=
  ∀ provider, plan.build = .ok provider → provider.Reliable

/-- A script in which no exporter crashes its provider is reliable. -/
theorem Script.provider_reliable {script : Script} (peaceful : script.crashing = [])
    (backend : Nat) : (script.provider backend).Reliable := by
  intro batch
  show (script.reply backend batch).ending ≠ .crash
  unfold Script.reply
  rw [peaceful]
  dsimp only
  split
  · contradiction
  · split <;> exact Ending.noConfusion

/-- So is the plan of its provider. -/
theorem Script.plan_reliable {script : Script} (peaceful : script.crashing = []) (backend : Nat) :
    (script.plan backend).Reliable := by
  intro provider built
  unfold Script.plan at built
  dsimp only at built
  split at built
  · cases built
  · cases built
    exact provider_reliable peaceful backend

/-- What is built of nothing but such a script is reliable. -/
theorem Script.reliable_of_mem {script : Script} (peaceful : script.crashing = []) (backend : Nat) :
    ∀ plan ∈ [script.plan backend], plan.Reliable := by
  intro plan member
  rw [List.mem_singleton.1 member]
  exact plan_reliable peaceful backend

/-- The present time leaves room for what is added to it. -/
structure Surroundings.Ample (config : Configuration) (around : Surroundings) : Prop where
  /-- A time far away is an instant. -/
  far : (around.now.add? Instant.farAway).isSome
  /-- A cool-down that begins now ends at an instant. -/
  coolDown : (around.now.add? config.breaker.timeout).isSome
  /-- A period of maintenance that begins now ends at an instant. -/
  period : (around.now.add? config.cacheCheckInterval).isSome
  /-- No timer has fired ahead of its time. -/
  fired : around.tick ≤ around.now.lastTick

/-- A valid configuration has thresholds that are not zero. -/
theorem Configuration.positive_of_validate {config : Configuration}
    (valid : config.validate = .ok ()) : config.breaker.Positive := by
  unfold validate at valid
  split_ifs at valid with _ _ _ _ _ _ thresholds
  rw [not_or] at thresholds
  constructor
  · exact Nat.pos_of_ne_zero fun zero => thresholds.1 (UInt32.toNat_inj.1 zero)
  · exact Nat.pos_of_ne_zero fun zero => thresholds.2 (UInt32.toNat_inj.1 zero)

/-- If a time far away is an instant now, then what is added to an instant that has come is in
range, whatever it is. -/
theorem Instant.addOrFar_lt {instant now : Instant} (far : (now.add? farAway).isSome)
    (past : instant.nanos ≤ now.nanos) (duration : Duration) :
    (instant.addOrFar duration).nanos < rangeNanos := by
  unfold addOrFar
  cases added : instant.add? duration with
  | some next => exact lt_of_add? added
  | none =>
    obtain ⟨next, reached⟩ := Option.isSome_iff_exists.1 far
    have room := lt_of_add? reached
    rw [nanos_of_add? reached] at room
    exact Nat.lt_of_le_of_lt (Nat.add_le_add_right past farAway.nanos) room

namespace Engine

variable {config : Configuration} {engine after : Engine}

/-! ## Time stands still -/

/-- The end of a wait takes no time. -/
theorem leaveWait_now (engine : Engine) (wait : Wait) :
    (engine.leaveWait wait).now = engine.now := by
  cases wait <;> rfl

/-- What a provider does until it waits takes no time. -/
theorem carryOut_now {effects : List Effect} {left : Option (Wait × List Effect)}
    (carried : carryOut effects engine = (after, left)) : after.now = engine.now := by
  induction effects generalizing engine with
  | nil =>
    cases carried
    rfl
  | cons effect effects ih =>
    cases effect with
    | note backend batch =>
      rw [carryOut] at carried
      exact (ih carried).trans rfl
    | takePermit backend =>
      rw [carryOut] at carried
      dsimp only at carried
      split at carried
      · exact (ih carried).trans (leaveWait_now _ _)
      · cases carried
        rfl
    | pause time =>
      rw [carryOut] at carried
      split at carried
      · exact ih carried
      · cases carried
        rfl
    | report update =>
      rw [carryOut] at carried
      exact (ih carried).trans rfl
    | reportLater delay update =>
      rw [carryOut] at carried
      exact (ih carried).trans rfl

/-! ## Jobs -/

/-- What a worker that asks reliable providers comes to: an outcome, or a wait after which no
provider will have crashed either. -/
def Progress.Sound (deadline : Instant) : Progress → Prop
  | .waits job => job.ending ≠ .crash ∧ job.deadline = deadline
  | .answered _ => True
  | .crashed => False

/-- A chain of reliable providers does not crash and takes no time. -/
theorem proceed_sound {later : List Provider}
    (reliable : ∀ provider ∈ later, provider.Reliable) (name : String) {job : Job}
    (ending : job.ending ≠ .crash) (engine : Engine) :
    (proceed later name job engine).1.now = engine.now ∧
      (proceed later name job engine).2.Sound job.deadline := by
  fun_induction proceed later name job engine with
  | case1 later name job engine reached wait effects carried =>
    exact ⟨carryOut_now carried, ending, rfl⟩
  | case2 later name job engine reached carried crashes => exact absurd crashes ending
  | case3 later name job engine reached carried outcome ends last =>
    exact ⟨carryOut_now carried, trivial⟩
  | case4 name job engine reached carried outcome ends indexes handed =>
    have still := carryOut_now carried
    exact ⟨still, trivial⟩
  | case5 name job engine reached carried outcome ends indexes handed _ provider later asked ih =>
    have still := carryOut_now carried
    obtain ⟨later_now, sound⟩ := ih (fun other member => reliable other (.tail _ member))
      (reliable provider (.head _) asked)
    exact ⟨later_now.trans still, sound⟩

/-- A job that goes on takes no time, and no reliable provider crashes. -/
theorem advance_sound {job : Job} (reliable : ∀ provider ∈ engine.providers, provider.Reliable)
    (ending : job.ending ≠ .crash) :
    (engine.advance job).1.now = engine.now ∧ (engine.advance job).2.Sound job.deadline := by
  unfold advance
  split
  · obtain ⟨still, sound⟩ := proceed_sound
      (fun provider member => reliable provider (List.mem_of_mem_drop member))
      ((engine.providers[job.position]?.map (·.name)).getD "") ending (engine.leaveWait job.wait)
    exact ⟨still.trans (leaveWait_now engine job.wait), sound⟩
  · exact ⟨rfl, ending, rfl⟩

/-! ## The invariant -/

/-- No task has crashed or is about to, and every count and every time that was computed is in its
range. -/
structure Sound (config : Configuration) (engine : Engine) : Prop where
  /-- The tunables are the same. -/
  tunables : engine.config = config
  /-- No task has crashed. -/
  crashed : engine.crashed = 0
  /-- No provider crashes. -/
  providers : ∀ provider ∈ engine.providers, provider.Reliable
  /-- The breakers are below their thresholds. -/
  breakers : engine.breakers.Below config.breaker
  /-- The time before which no query times out is in range. -/
  grace : engine.graceDeadline.nanos < rangeNanos
  /-- No job is about to crash, and its deadline is in range. -/
  jobs : ∀ job ∈ engine.jobs, job.ending ≠ .crash ∧ job.deadline.nanos < rangeNanos
  /-- The next tick of maintenance is in range. -/
  ticks : ∀ deadline, engine.maintenance = .ticking deadline → deadline.nanos < rangeNanos

/-- Whatever happens to the other parts of an engine, no task crashes by it. -/
theorem Sound.elsewhere (sound : Sound config engine) (same : after.config = engine.config)
    (crashed : after.crashed = engine.crashed) (providers : after.providers = engine.providers)
    (breakers : after.breakers = engine.breakers)
    (grace : after.graceDeadline = engine.graceDeadline) (jobs : after.jobs = engine.jobs)
    (maintenance : after.maintenance = engine.maintenance) : Sound config after where
  tunables := same.trans sound.tunables
  crashed := crashed.trans sound.crashed
  providers := providers ▸ sound.providers
  breakers := breakers ▸ sound.breakers
  grace := grace ▸ sound.grace
  jobs := jobs ▸ sound.jobs
  ticks := maintenance ▸ sound.ticks

/-- Nor does one crash when the providers answer otherwise, if none of these crashes. -/
theorem Sound.recast (sound : Sound config engine) {providers : List Provider}
    (reliable : ∀ provider ∈ providers, provider.Reliable) :
    Sound config (engine.recast providers) :=
  ⟨sound.tunables, sound.crashed, reliable, sound.breakers, sound.grace, sound.jobs, sound.ticks⟩

/-! ## Workers -/

/-- A worker whose query ends does not crash if a cool-down that begins now ends. -/
theorem Sound.finish (sound : Sound config engine) (positive : config.breaker.Positive)
    (coolDown : (engine.now.add? config.breaker.timeout).isSome) (batch : BatchQuery)
    (outcome : Except Failure Unit) : Sound config (engine.finish batch outcome) := by
  obtain ⟨below, settled⟩ :=
    sound.breakers.record positive coolDown batch.exporter outcome.isOk
  obtain ⟨around, warned, concluded, -⟩ := conclude_parts
    { engine with
      breakers := (engine.breakers.record batch.exporter engine.now outcome.isOk).table }
    batch outcome
  unfold Engine.finish
  dsimp only
  rw [settled, if_neg Bool.false_ne_true, concluded]
  exact ⟨sound.tunables, sound.crashed, sound.providers, below, sound.grace, sound.jobs,
    sound.ticks⟩

/-- A job that is sound may be among the jobs. -/
theorem Sound.withJob (sound : Sound config engine) {job : Job} (ending : job.ending ≠ .crash)
    (deadline : job.deadline.nanos < rangeNanos) :
    Sound config { engine with jobs := engine.jobs ++ [job] } := by
  refine ⟨sound.tunables, sound.crashed, sound.providers, sound.breakers, sound.grace,
    fun other member => ?_, sound.ticks⟩
  rcases List.mem_append.1 member with before | new
  · exact sound.jobs other before
  · rw [List.mem_singleton.1 new]
    exact ⟨ending, deadline⟩

/-- A worker that goes on with a job does not crash. -/
theorem Sound.resume (sound : Sound config engine) (positive : config.breaker.Positive)
    (coolDown : (engine.now.add? config.breaker.timeout).isSome) {job : Job}
    (ending : job.ending ≠ .crash) (deadline : job.deadline.nanos < rangeNanos) :
    Sound config (engine.resume job) := by
  unfold Engine.resume
  split
  · exact sound.finish positive coolDown job.batch _
  · obtain ⟨around, cache, reports, advanced, -⟩ := engine.advance_parts job
    obtain ⟨still, progress⟩ := advance_sound sound.providers ending
    have kept : Sound config (engine.advance job).1 := by
      rw [advanced]
      exact sound.elsewhere rfl rfl rfl rfl rfl rfl rfl
    rw [← still] at coolDown
    cases reached : engine.advance job with
    | mk later outcome =>
      rw [reached] at kept coolDown progress
      cases outcome with
      | answered outcome => exact kept.finish positive coolDown job.batch outcome
      | crashed => exact progress.elim
      | waits left =>
        obtain ⟨ending, same⟩ := progress
        dsimp only
        split
        · exact kept.finish positive coolDown left.batch _
        · exact kept.withJob ending (same ▸ deadline)

/-- The deadline of a query that begins is in range. -/
theorem Sound.queryDeadline_lt (sound : Sound config engine)
    (far : (engine.now.add? Instant.farAway).isSome) : engine.queryDeadline.nanos < rangeNanos :=
  Nat.max_lt.2 ⟨Instant.addOrFar_lt far (Nat.le_refl _) _, sound.grace⟩

/-- A worker that begins with a batch does not crash. -/
theorem Sound.undertake (sound : Sound config engine) (positive : config.breaker.Positive)
    (ample : engine.around.Ample config) (batch : BatchQuery) :
    Sound config (engine.undertake batch) := by
  have entered := sound.breakers.enter positive batch.exporter engine.now
  have kept (breakers : BreakerTable) (below : breakers.Below config.breaker) :
      Sound config { engine with breakers } :=
    ⟨sound.tunables, sound.crashed, sound.providers, below, sound.grace, sound.jobs, sound.ticks⟩
  unfold Engine.undertake
  split
  case h_1 breakers call provider others passed chain =>
    rw [passed] at entered
    have reliable : provider.Reliable := by
      apply sound.providers
      rw [chain]
      exact List.mem_cons_self
    have counted : Sound config ({ engine with breakers }.count fun totals =>
        { totals with requests := totals.requests + 1 }) :=
      (kept breakers entered).elsewhere rfl rfl rfl rfl rfl rfl rfl
    exact counted.withJob (reliable batch) (counted.queryDeadline_lt ample.far)
  case h_2 breakers call passed none_left =>
    rw [passed] at entered
    exact (kept breakers entered).finish positive ample.coolDown batch _
  case h_3 breakers passed =>
    rw [passed] at entered
    obtain ⟨around, warned, rejected, -⟩ := reject_parts { engine with breakers } batch.exporter
    rw [rejected]
    exact (kept breakers entered).elsewhere rfl rfl rfl rfl rfl rfl rfl

/-! ## Maintenance -/

/-- A tick that was reached is not in the future. -/
theorem le_now_of_reached (ample : engine.around.Ample config) {deadline : Instant}
    (reached : engine.reached deadline = true) : deadline.nanos ≤ engine.now.nanos := by
  have due : deadline.dueTick ≤ engine.around.tick := of_decide_eq_true reached
  have fired := ample.fired
  unfold Instant.dueTick Instant.lastTick Instant.tickNanos at *
  show deadline.nanos ≤ engine.around.now.nanos
  omega

/-- The tick after one that was reached is in range. -/
theorem nextTick_lt (ample : engine.around.Ample config) {deadline : Instant}
    (reached : engine.reached deadline = true) :
    (nextTick engine.now deadline config.cacheCheckInterval).nanos < rangeNanos := by
  unfold nextTick
  split
  · obtain ⟨next, added⟩ := Option.isSome_iff_exists.1 ample.period
    have room := Instant.lt_of_add? added
    rw [Instant.nanos_of_add? added] at room
    exact Nat.lt_of_le_of_lt (Nat.sub_le _ _) room
  · exact Instant.addOrFar_lt ample.far (le_now_of_reached ample reached) _

/-- The tick after those that are due is in range. -/
theorem dueTicks_lt (same : engine.config = config) (ample : engine.around.Ample config)
    (fuel : Nat) {deadline : Instant} (inside : deadline.nanos < rangeNanos) :
    (engine.dueTicks fuel deadline).2.nanos < rangeNanos := by
  induction fuel generalizing deadline with
  | zero => exact inside
  | succ fuel ih =>
    unfold dueTicks
    split
    case isTrue reached =>
      rw [same]
      exact ih (nextTick_lt ample reached)
    case isFalse => exact inside

/-- Maintenance that has no first tick is gone. -/
theorem step_prepare_of_none (fresh : engine.maintenance = .fresh)
    (none_left : engine.now.add? engine.config.cacheCheckInterval = none) :
    engine.step? .prepare = some { engine with maintenance := .idle }.crash := by
  unfold step?
  dsimp only
  rw [if_pos fresh, none_left]

/-! ## Actions and the start -/

/-- No action crashes a task while there is room for what is added to the present time. -/
theorem Sound.act (sound : Sound config engine) (positive : config.breaker.Positive)
    (ample : engine.around.Ample config) {action : Action}
    (taken : engine.step? action = some after) : Sound config after := by
  cases action with
  | prepare =>
    obtain ⟨deadline, added⟩ := Option.isSome_iff_exists.1 ample.period
    have ticks : engine.now.add? engine.config.cacheCheckInterval = some deadline := by
      rw [sound.tunables]
      exact added
    unfold step? at taken
    dsimp only at taken
    split at taken
    case isFalse => cases taken
    case isTrue =>
      rw [ticks] at taken
      cases taken
      refine ⟨sound.tunables, sound.crashed, sound.providers, sound.breakers, sound.grace,
        sound.jobs, fun next ticking => ?_⟩
      cases ticking
      exact Instant.lt_of_add? added
  | join =>
    obtain ⟨-, -, rfl⟩ := step_join taken
    exact sound.elsewhere rfl rfl rfl rfl rfl rfl rfl
  | seek =>
    obtain ⟨-, -, -, rfl⟩ := step_seek taken
    exact sound.elsewhere rfl rfl rfl rfl rfl rfl rfl
  | listen =>
    obtain ⟨-, -, _, _, -, _, _, -, ⟨_, _, -, rfl⟩ | ⟨-, rfl⟩⟩ := step_listen taken
    · exact sound.elsewhere rfl rfl rfl rfl rfl rfl rfl
    · exact sound.elsewhere rfl rfl rfl rfl rfl rfl rfl
  | deliver =>
    obtain ⟨-, _, _, -, -, _, _, rfl, -⟩ := step_deliver taken
    exact sound.elsewhere rfl rfl rfl rfl rfl rfl rfl
  | claim =>
    obtain ⟨-, _, _, -, -, rfl⟩ := step_claim taken
    exact sound.elsewhere rfl rfl rfl rfl rfl rfl rfl
  | take =>
    obtain ⟨-, batch, channel, -, -, rfl⟩ := step_take taken
    have fewer : Sound config { engine with waiting := engine.waiting - 1, channel } :=
      sound.elsewhere rfl rfl rfl rfl rfl rfl rfl
    exact fewer.undertake positive ample batch
  | work position =>
    obtain ⟨job, found, rfl⟩ := step_work taken
    obtain ⟨ending, deadline⟩ := sound.jobs job (List.mem_of_getElem? found)
    have fewer : Sound config { engine with jobs := engine.jobs.eraseIdx position } :=
      ⟨sound.tunables, sound.crashed, sound.providers, sound.breakers, sound.grace,
        fun other member => sound.jobs other (List.mem_of_mem_eraseIdx member), sound.ticks⟩
    exact fewer.resume positive ample.coolDown ending deadline
  | report =>
    obtain ⟨due, later, -, -, rfl⟩ := step_report taken
    obtain ⟨cache, stored⟩ := foldl_store_parts due { engine with reports := later }
    rw [stored]
    exact sound.elsewhere rfl rfl rfl rfl rfl rfl rfl
  | maintain =>
    obtain ⟨deadline, -, ticking, rfl⟩ := step_maintain taken
    have next := dueTicks_lt sound.tunables ample
      (engine.now.nanos + Instant.tickNanos - deadline.nanos) (sound.ticks deadline ticking)
    unfold serveTicks
    dsimp only
    obtain ⟨cache, queue, around, maintained, -⟩ := maintainTimes_parts
      (engine.dueTicks (engine.now.nanos + Instant.tickNanos - deadline.nanos) deadline).1 engine
    rw [maintained]
    refine ⟨sound.tunables, sound.crashed, sound.providers, sound.breakers, sound.grace,
      sound.jobs, fun tick ticks => ?_⟩
    cases ticks
    exact next

/-- Loading a snapshot takes no time. -/
theorem loadCache_now (engine : Engine) : engine.loadCache.now = engine.now := by
  obtain ⟨cache, events, loaded⟩ := engine.loadCache_parts
  rw [loaded]
  rfl

/-- The start sets tasks going that have not crashed. -/
theorem Sound.start (sound : Sound config engine) (ample : engine.around.Ample config)
    (ready : engine.phase = .ready) : Sound config engine.start.1 := by
  obtain ⟨cache, events, loaded⟩ := engine.loadCache_parts
  have kept : Sound config engine.loadCache := by
    rw [loaded]
    exact sound.elsewhere rfl rfl rfl rfl rfl rfl rfl
  have far : (engine.loadCache.now.add? Instant.farAway).isSome := by
    rw [loadCache_now]
    exact ample.far
  unfold Engine.start
  rw [ready]
  exact ⟨kept.tunables, kept.crashed, kept.providers, kept.breakers,
    Instant.addOrFar_lt far (Nat.le_refl _) _, kept.jobs, nofun⟩

end Engine

/-! ## Runs -/

namespace Flow

variable {config : Configuration} {plans : List ProviderPlan} {counters : CacheCounters}
  {around : Surroundings} {flow after : Flow}

/-- What can be reached from an engine as it was built at times that leave room for what is added
to them. -/
inductive Timely (config : Configuration) (plans : List ProviderPlan) (counters : CacheCounters)
    (around : Surroundings) : Flow → Prop where
  /-- The engine was built. -/
  | built {engine : Engine} (built : Engine.build config plans counters around = .ok engine)
      (ample : around.Ample config) : Timely config plans counters around { engine }
  /-- One more thing has happened. -/
  | step {before after : Flow} (timely : Timely config plans counters around before)
      (step : Step before after) (ample : after.engine.around.Ample config) :
      Timely config plans counters around after
  /-- From now on the providers answer otherwise, but none of them crashes. -/
  | recast {flow : Flow} {providers : List Provider}
      (timely : Timely config plans counters around flow)
      (same : providers.map Provider.name = flow.engine.names)
      (reliable : ∀ provider ∈ providers, provider.Reliable) :
      Timely config plans counters around { flow with engine := flow.engine.recast providers }

/-- Every time that was reached leaves room. -/
theorem Timely.ample (timely : Timely config plans counters around flow) :
    flow.engine.around.Ample config := by
  induction timely with
  | built built ample =>
    obtain ⟨-, providers, -, rfl⟩ := build_eq_ok built
    exact ample
  | step _ _ ample => exact ample
  | recast _ _ _ ample => exact ample

/-- What is reached in time is reached. -/
theorem Timely.reachable (timely : Timely config plans counters around flow) :
    Reachable config plans counters around flow := by
  induction timely with
  | built built _ => exact .built built
  | step _ step _ reachable => exact reachable.step step
  | recast _ same _ reachable => exact reachable.recast same

/-- What takes no time leaves room. -/
theorem Timely.still (timely : Timely config plans counters around flow) (step : Step flow after)
    (now : after.engine.around.now = flow.engine.around.now)
    (tick : after.engine.around.tick = flow.engine.around.tick) :
    Timely config plans counters around after := by
  have ample := timely.ample
  refine timely.step step ⟨?_, ?_, ?_, ?_⟩
  · exact now ▸ ample.far
  · exact now ▸ ample.coolDown
  · exact now ▸ ample.period
  · exact now ▸ tick ▸ ample.fired

/-- No step crashes a task while there is room for what is added to the present time. -/
theorem sound_step (sound : flow.engine.Sound config) (positive : config.breaker.Positive)
    (ample : flow.engine.around.Ample config) (step : Step flow after) :
    after.engine.Sound config := by
  cases step with
  | pass _ => exact sound.elsewhere rfl rfl rfl rfl rfl rfl rfl
  | start ready => exact sound.start ample ready
  | request query =>
    obtain ⟨queue, around, queued, -⟩ := flow.engine.enqueue_parts query
    rw [queued]
    exact sound.elsewhere rfl rfl rfl rfl rfl rfl rfl
  | lookup now query =>
    obtain ⟨queue, around, answered, -⟩ := flow.engine.lookup_parts now query
    rw [answered]
    exact sound.elsewhere rfl rfl rfl rfl rfl rfl rfl
  | maintain now =>
    obtain ⟨queue, around, maintained, -⟩ := flow.engine.maintain_parts now
    rw [maintained]
    exact sound.elsewhere rfl rfl rfl rfl rfl rfl rfl
  | act _ taken => exact sound.act positive ample taken
  | gather gathering =>
    cases gathering with
    | first => exact sound.elsewhere rfl rfl rfl rfl rfl rfl rfl
    | more => exact sound.elsewhere rfl rfl rfl rfl rfl rfl rfl
    | close => exact sound.elsewhere rfl rfl rfl rfl rfl rfl rfl

/-- What was built was built of a valid configuration. -/
theorem validate_of_build {engine : Engine}
    (built : Engine.build config plans counters around = .ok engine) :
    config.validate = .ok () := by
  obtain ⟨_, checked, -⟩ := bind_eq_ok_iff.1 built
  obtain ⟨_, valid, -⟩ := bind_eq_ok_iff.1 (mapError_eq_ok_iff.1 checked)
  exact valid

/-- What is reached in time is sound. -/
theorem sound_of_timely (reliable : ∀ plan ∈ plans, plan.Reliable)
    (timely : Timely config plans counters around flow) :
    config.breaker.Positive ∧ flow.engine.Sound config := by
  induction timely with
  | built built ample =>
    have positive := Configuration.positive_of_validate (validate_of_build built)
    obtain ⟨-, providers, planned, rfl⟩ := build_eq_ok built
    have inside : Instant.start.nanos < rangeNanos := by decide
    refine ⟨positive, rfl, rfl, fun provider member => ?_, ⟨rfl, nofun⟩, inside, nofun, nofun⟩
    obtain ⟨plan, among, made⟩ := exists_of_mem_mapM planned member
    exact reliable plan among provider made
  | step timely step _ ih => exact ⟨ih.1, sound_step ih.2 ih.1 timely.ample step⟩
  | recast _ _ reliable ih => exact ⟨ih.1, ih.2.recast reliable⟩

/-- A queue is too large if a hundred requests for every worker are more than a queue can have. -/
theorem lt_queueCapacity_iff :
    Configuration.maxQueueCapacity < config.queueCapacity ↔
      Configuration.maxQueueCapacity < 100 * config.workers.toNat := by
  unfold Configuration.maxQueueCapacity Configuration.queueCapacity
  have size : UInt64.size = 18446744073709551616 := rfl
  omega

/-- A build fails for the size of its queue exactly if nothing else is in its way and a hundred
requests for every worker are more than a queue can have. -/
theorem build_eq_queueTooLarge_iff :
    Engine.build config plans counters around = .error .queueTooLarge ↔
      Engine.check config plans = .ok () ∧
        (∃ providers, plans.mapM ProviderPlan.build = .ok providers) ∧
        Configuration.maxQueueCapacity < 100 * config.workers.toNat := by
  rw [← lt_queueCapacity_iff]
  unfold Engine.build
  cases Engine.check config plans with
  | error failure => exact ⟨nofun, nofun⟩
  | ok _ =>
    cases plans.mapM ProviderPlan.build with
    | error failure => exact ⟨nofun, nofun⟩
    | ok providers =>
      by_cases large : Configuration.maxQueueCapacity < config.queueCapacity
      · simp [bind, Except.bind, Except.mapError, large]
      · simp [bind, Except.bind, Except.mapError, large, pure, Except.pure]

/-- Only a queue for more requests than a queue can have keeps an engine from being built for its
size. An engine of reliable providers that was built keeps every task until it is stopped, as long
as the present time leaves room for what is added to it; and its times are in range and its counts
below the thresholds. -/
theorem no_task_crashes (reliable : ∀ plan ∈ plans, plan.Reliable) :
    (Engine.build config plans counters around = .error .queueTooLarge ↔
        Engine.check config plans = .ok () ∧
          (∃ providers, plans.mapM ProviderPlan.build = .ok providers) ∧
          Configuration.maxQueueCapacity < 100 * config.workers.toNat) ∧
      ∀ flow, Timely config plans counters around flow →
        flow.engine.crashed = 0 ∧
        flow.engine.config.queueCapacity = 100 * config.workers.toNat ∧
        flow.engine.graceDeadline.nanos < rangeNanos ∧
        (∀ job ∈ flow.engine.jobs, job.deadline.nanos < rangeNanos) ∧
        (∀ deadline, flow.engine.maintenance = .ticking deadline →
          deadline.nanos < rangeNanos) ∧
        ∀ exporter breaker, flow.engine.breakers.find? exporter = some breaker →
          breaker.status.Below config.breaker := by
  refine ⟨build_eq_queueTooLarge_iff, fun flow timely => ?_⟩
  obtain ⟨-, sound⟩ := sound_of_timely reliable timely
  have limit := (conserved_of_reachable timely.reachable).limit
  refine ⟨sound.crashed, limit, sound.grace, ?_, sound.ticks, ?_⟩
  · intro job member
    exact (sound.jobs job member).2
  · intro exporter breaker found
    exact (sound.breakers.breakers _ (BreakerTable.mem_of_find? found)).counts

/-- A provider that fails opens its breaker and keeps its worker. -/
theorem failing_provider_crashes_no_task :
    ∃ flow,
      Timely { breaker := { errorThreshold := 1 } } [Script.plan { failing := [⟨1⟩] } 0]
        {} {} flow ∧
      flow.engine.breakers.find? ⟨1⟩ =
        some { config := { errorThreshold := 1 }, status := .opened ⟨60000000000⟩ } ∧
      flow.engine.crashed = 0 := by
  have reliable := Script.reliable_of_mem (rfl : Script.crashing { failing := [⟨1⟩] } = []) 0
  have built : Timely { breaker := { errorThreshold := 1 } } [Script.plan { failing := [⟨1⟩] } 0]
      {} {} _ := .built rfl ⟨rfl, rfl, rfl, Nat.le_refl 0⟩
  have asked := built.still (.lookup _ .epoch ⟨⟨1⟩, 1⟩) (by rfl) (by rfl)
  have started := asked.still (.start rfl) (by rfl) (by rfl)
  have joined := started.still (.act (.inl rfl) (rfl : Engine.step? _ .join = some _))
    (by rfl) (by rfl)
  have found := joined.still (.act (.inl rfl) (rfl : Engine.step? _ .seek = some _))
    (by rfl) (by rfl)
  have heard := found.still (.act (.inl rfl) (rfl : Engine.step? _ .listen = some _))
    (by rfl) (by rfl)
  have sent := heard.still (.act (.inl rfl) (rfl : Engine.step? _ .deliver = some _))
    (by rfl) (by rfl)
  have taken := sent.still (.act (.inl rfl) (rfl : Engine.step? _ .take = some _))
    (by rfl) (by rfl)
  have worked := taken.still (.act (.inl rfl) (rfl : Engine.step? _ (.work 0) = some _))
    (by rfl) (by rfl)
  exact ⟨_, worked, rfl, ((no_task_crashes reliable).2 _ worked).1⟩

/-- A valid configuration does not rule out that a cool-down has no end, that maintenance has no
first tick, or that the queue is too large. -/
theorem tasks_crash_of_valid :
    (∃ config plans flow, Configuration.validate config = .ok () ∧
      (∀ plan ∈ plans, ProviderPlan.Reliable plan) ∧ Reachable config plans {} {} flow ∧
      flow.engine.maintenance = .fresh ∧ flow.engine.crashed = 1) ∧
    (∃ config plans flow, Configuration.validate config = .ok () ∧
      (∀ plan ∈ plans, ProviderPlan.Reliable plan) ∧ Reachable config plans {} {} flow ∧
      flow.engine.maintenance = .idle ∧ flow.engine.crashed = 1) ∧
    ∃ config plans, Configuration.validate config = .ok () ∧
      (∀ plan ∈ plans, ProviderPlan.Reliable plan) ∧
      Engine.build config plans {} {} = .error .queueTooLarge := by
  have failing := Script.reliable_of_mem (rfl : Script.crashing { failing := [⟨1⟩] } = []) 0
  have plain := Script.reliable_of_mem (rfl : Script.crashing {} = []) 0
  refine ⟨?coolDown, ?period, ?queue⟩
  case coolDown =>
    have built : Reachable { breaker := { errorThreshold := 1, timeout := .longest } }
        [Script.plan { failing := [⟨1⟩] } 0] {} {} _ := .built rfl
    have asked := built.step (.lookup _ .epoch ⟨⟨1⟩, 1⟩)
    have started := asked.step (.start rfl)
    have joined := started.step (.act (.inl rfl) (rfl : Engine.step? _ .join = some _))
    have found := joined.step (.act (.inl rfl) (rfl : Engine.step? _ .seek = some _))
    have heard := found.step (.act (.inl rfl) (rfl : Engine.step? _ .listen = some _))
    have sent := heard.step (.act (.inl rfl) (rfl : Engine.step? _ .deliver = some _))
    have taken := sent.step (.act (.inl rfl) (rfl : Engine.step? _ .take = some _))
    have worked := taken.step (.act (.inl rfl) (rfl : Engine.step? _ (.work 0) = some _))
    exact ⟨_, _, _, rfl, failing, worked, rfl, rfl⟩
  case period =>
    have built : Reachable
        { cacheDuration := .longest, cacheRefresh := .longest, cacheCheckInterval := .longest }
        [Script.plan {} 0] {} {} _ := .built rfl
    have started := built.step (.start rfl)
    have prepared := started.step (.act (.inl rfl) (Engine.step_prepare_of_none rfl rfl))
    exact ⟨_, _, _, rfl, plain, prepared, rfl, rfl⟩
  case queue => exact ⟨{ workers := 18446744073709551615 }, _, rfl, plain, rfl⟩

end Flow

end FlowEnrichment
