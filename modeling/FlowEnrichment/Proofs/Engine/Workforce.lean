import FlowEnrichment.Proofs.Engine.Conservation
import FlowEnrichment.Proofs.Engine.Parts
import FlowEnrichment.Provider.Scripted

/-!
# Workers, permits and batches

A worker that waits for a batch puts a permit where the dispatcher looks for one. The dispatcher
takes a permit before it takes a request and before every further batch of a round, and the batch
that it sends pays for the permit. So the workers that wait are the permits that are left, the
one that the dispatcher holds and the batches on their way, in every state that can be reached
until the engine is stopped. It follows that the channel has room for every batch that is sent
and that nothing waits for ever while a worker waits (`workers_accounted`).
-/
namespace FlowEnrichment

/-- The permits that the dispatcher holds for a batch that it has not sent. -/
def Dispatcher.permits : Dispatcher → Nat
  | .listening | .delivering _ _ => 1
  | .seeking | .claiming _ _ => 0

namespace Engine

/-- The workers of an engine that is not stopped are accounted for. -/
structure Staffed (config : Configuration) (engine : Engine) : Prop where
  /-- The tunables are the same. -/
  tunables : engine.config = config
  /-- The engine is not stopped. -/
  alive : engine.phase = .ready ∨ engine.phase = .running
  /-- Before the start there are no workers. -/
  unstarted : engine.phase = .ready →
    engine.waiting = 0 ∧ engine.jobs = [] ∧ engine.dispatcher = .seeking
  /-- Every worker that waits stands for a permit or a batch. -/
  permits : engine.waiting =
    engine.idle + engine.dispatcher.permits + engine.channel.length
  /-- There are no more workers than were set going. -/
  workers : engine.fresh + engine.waiting + engine.jobs.length ≤ config.workers.toNat

variable {config : Configuration} {engine after : Engine}

/-- What runs is past its start. -/
theorem absurd_ready {p : Prop} (running : engine.phase = .running) :
    engine.phase = .ready → p := by
  rw [running]
  exact Phase.noConfusion

/-- Workers are accounted for whatever happens to the other parts of an engine. -/
theorem Staffed.parts (staffed : Staffed config engine) (around : Surroundings) (cache : Cache)
    (reports : List (Instant × Update)) (queue : List Query) (maintenance : Maintenance)
    (crashed : Nat) :
    Staffed config { engine with around, cache, reports, queue, maintenance, crashed } :=
  ⟨staffed.tunables, staffed.alive, staffed.unstarted, staffed.permits, staffed.workers⟩

/-- Nor does it matter how the providers answer. -/
theorem Staffed.recast (staffed : Staffed config engine) (providers : List Provider) :
    Staffed config (engine.recast providers) :=
  ⟨staffed.tunables, staffed.alive, staffed.unstarted, staffed.permits, staffed.workers⟩

/-- Where a worker waits, the engine has been started. -/
theorem Staffed.running_of_waiting (staffed : Staffed config engine) (waits : 0 < engine.waiting) :
    engine.phase = .running := by
  refine staffed.alive.resolve_left fun ready => ?_
  have none_waits := (staffed.unstarted ready).1
  omega

/-- A dispatcher that has something to do has been started. -/
theorem Staffed.running_of_busy (staffed : Staffed config engine)
    (busy : engine.dispatcher ≠ .seeking) : engine.phase = .running :=
  staffed.alive.resolve_left fun ready => busy (staffed.unstarted ready).2.2

/-- The channel has room for as many batches as there are workers, and these are more than the
batches in it while the dispatcher holds a permit. -/
theorem Staffed.channel_le (staffed : Staffed config engine) :
    engine.channel.length + engine.dispatcher.permits ≤
      config.workers.toNat := by
  have permits := staffed.permits
  have workers := staffed.workers
  omega

/-! ## Workers -/

/-- A worker with a batch in hand, which is one more than those counted, comes to be counted
again or is gone. -/
theorem Staffed.turn (staffed : Staffed config engine) (running : engine.phase = .running)
    (spare : engine.fresh + engine.waiting + engine.jobs.length < config.workers.toNat)
    (turn : Turn engine after) : Staffed config after := by
  have permits := staffed.permits
  cases turn with
  | rests around cache reports warned breakers _ =>
    refine ⟨staffed.tunables, staffed.alive, absurd_ready running, ?_, ?_⟩
    · show engine.waiting + 1 =
        engine.idle + 1 + engine.dispatcher.permits + engine.channel.length
      omega
    · show engine.fresh + (engine.waiting + 1) + engine.jobs.length ≤ _
      omega
  | works around cache reports breakers job _ =>
    refine ⟨staffed.tunables, staffed.alive, absurd_ready running, permits, ?_⟩
    show engine.fresh + engine.waiting + (engine.jobs ++ [job]).length ≤ _
    rw [List.length_append, List.length_singleton]
    omega
  | goes around cache reports breakers _ =>
    exact ⟨staffed.tunables, staffed.alive, staffed.unstarted, permits, staffed.workers⟩

/-- A worker that begins to wait is accounted for. -/
theorem Staffed.join (staffed : Staffed config engine) (taken : engine.step? .join = some after) :
    Staffed config after := by
  obtain ⟨running, some_fresh, rfl⟩ := step_join taken
  have workers := staffed.workers
  have fewer : Staffed config { engine with fresh := engine.fresh - 1 } := by
    refine ⟨staffed.tunables, staffed.alive, staffed.unstarted, staffed.permits, ?_⟩
    show engine.fresh - 1 + engine.waiting + engine.jobs.length ≤ config.workers.toNat
    omega
  refine fewer.turn running ?_
    (.rests engine.around engine.cache engine.reports engine.warned engine.breakers rfl)
  show engine.fresh - 1 + engine.waiting + engine.jobs.length < config.workers.toNat
  omega

/-- A worker that takes a batch is accounted for. -/
theorem Staffed.take (staffed : Staffed config engine) (taken : engine.step? .take = some after) :
    Staffed config after := by
  obtain ⟨running, batch, channel, sent, waits, rfl⟩ := step_take taken
  have workers := staffed.workers
  have permits := staffed.permits
  rw [sent, List.length_cons] at permits
  have fewer : Staffed config { engine with waiting := engine.waiting - 1, channel } := by
    refine ⟨staffed.tunables, staffed.alive, absurd_ready running, ?_, ?_⟩
    · show engine.waiting - 1 = engine.idle + engine.dispatcher.permits + channel.length
      omega
    · show engine.fresh + (engine.waiting - 1) + engine.jobs.length ≤ config.workers.toNat
      omega
  refine fewer.turn running ?_ (turn_undertake _ batch)
  show engine.fresh + (engine.waiting - 1) + engine.jobs.length < config.workers.toNat
  omega

/-- A worker that goes on with a job is accounted for. -/
theorem Staffed.work (staffed : Staffed config engine) {position : Nat}
    (taken : engine.step? (.work position) = some after) : Staffed config after := by
  obtain ⟨job, found, rfl⟩ := step_work taken
  have inside := (List.getElem?_eq_some_iff.1 found).1
  have running : engine.phase = .running := by
    refine staffed.alive.resolve_left fun ready => ?_
    rw [(staffed.unstarted ready).2.1] at inside
    exact absurd inside (Nat.not_lt_zero _)
  have workers := staffed.workers
  have one_less := List.length_eraseIdx_of_lt inside
  have fewer : Staffed config { engine with jobs := engine.jobs.eraseIdx position } := by
    refine ⟨staffed.tunables, staffed.alive, absurd_ready running, staffed.permits, ?_⟩
    show engine.fresh + engine.waiting + (engine.jobs.eraseIdx position).length ≤
      config.workers.toNat
    omega
  refine fewer.turn running ?_ (turn_resume _ job)
  show engine.fresh + engine.waiting + (engine.jobs.eraseIdx position).length <
    config.workers.toNat
  omega

/-! ## The dispatcher -/

/-- What the dispatcher does keeps account if it moves permits and batches only. -/
theorem Staffed.dispatch (staffed : Staffed config engine) (running : engine.phase = .running)
    {idle : Nat} {dispatcher : Dispatcher} {channel : List BatchQuery} {queue : List Query}
    {around : Surroundings}
    (same : idle + dispatcher.permits + channel.length =
      engine.idle + engine.dispatcher.permits + engine.channel.length) :
    Staffed config { engine with idle, dispatcher, channel, queue, around } :=
  ⟨staffed.tunables, staffed.alive, absurd_ready running, staffed.permits.trans same.symm,
    staffed.workers⟩

/-- A dispatcher that finds a worker for a request keeps account. -/
theorem Staffed.seek (staffed : Staffed config engine) (taken : engine.step? .seek = some after) :
    Staffed config after := by
  obtain ⟨running, seeking, some_idle, rfl⟩ := step_seek taken
  refine staffed.dispatch running ?_
  rw [seeking]
  show engine.idle - 1 + 1 + engine.channel.length = engine.idle + 0 + engine.channel.length
  omega

/-- A dispatcher that finds a worker for a batch keeps account. -/
theorem Staffed.claim (staffed : Staffed config engine)
    (taken : engine.step? .claim = some after) : Staffed config after := by
  obtain ⟨running, batch, rest, claiming, some_idle, rfl⟩ := step_claim taken
  refine staffed.dispatch running ?_
  rw [claiming]
  show engine.idle - 1 + 1 + engine.channel.length = engine.idle + 0 + engine.channel.length
  omega

/-- A dispatcher that gathers a round keeps account: it holds its permit for the first batch. -/
theorem Staffed.listen (staffed : Staffed config engine)
    (taken : engine.step? .listen = some after) : Staffed config after := by
  obtain ⟨running, listening, first, waiting, -, round, queue, -, turns⟩ := step_listen taken
  rcases turns with ⟨batch, rest, -, rfl⟩ | ⟨-, rfl⟩
  · refine staffed.dispatch running ?_
    rw [listening]
    rfl
  · exact staffed.dispatch running rfl

/-- A dispatcher that sends a batch keeps account: the batch pays for the permit. -/
theorem Staffed.deliver (staffed : Staffed config engine)
    (taken : engine.step? .deliver = some after) : Staffed config after := by
  obtain ⟨running, batch, rest, delivering, -, dispatcher, batched, rfl, turns⟩ :=
    step_deliver taken
  have paid : engine.idle + 0 + (engine.channel ++ [batch]).length =
      engine.idle + 1 + engine.channel.length := by
    rw [List.length_append, List.length_singleton]
    omega
  refine staffed.dispatch running ?_
  rw [delivering]
  rcases turns with ⟨-, rfl⟩ | ⟨next, others, -, rfl⟩
  · exact paid
  · exact paid

/-! ## Actions and the start -/

/-- Every action keeps account; maintenance and late updates have nothing to do with workers. -/
theorem Staffed.act (staffed : Staffed config engine) {action : Action}
    (taken : engine.step? action = some after) : Staffed config after := by
  cases action with
  | prepare =>
    obtain ⟨maintenance, crashed, rfl⟩ := step_prepare taken
    exact staffed.parts engine.around engine.cache engine.reports engine.queue maintenance crashed
  | join => exact staffed.join taken
  | seek => exact staffed.seek taken
  | listen => exact staffed.listen taken
  | deliver => exact staffed.deliver taken
  | claim => exact staffed.claim taken
  | take => exact staffed.take taken
  | work position => exact staffed.work taken
  | report =>
    obtain ⟨due, later, -, -, rfl⟩ := step_report taken
    obtain ⟨cache, stored⟩ := foldl_store_parts due { engine with reports := later }
    rw [stored]
    exact staffed.parts engine.around cache later engine.queue engine.maintenance engine.crashed
  | maintain =>
    obtain ⟨deadline, -, -, rfl⟩ := step_maintain taken
    obtain ⟨count, next, -, served⟩ := engine.serveTicks_eq deadline
    obtain ⟨cache, queue, around, maintained, -⟩ := maintainTimes_parts count engine
    rw [served, maintained]
    exact staffed.parts around cache engine.reports queue (.ticking next) engine.crashed

/-- The start sets as many workers going as the configuration says. -/
theorem Staffed.start (staffed : Staffed config engine) (ready : engine.phase = .ready) :
    Staffed config engine.start.1 := by
  obtain ⟨none_waits, no_jobs, _⟩ := staffed.unstarted ready
  obtain ⟨cache, events, loaded⟩ := engine.loadCache_parts
  unfold Engine.start
  rw [ready, loaded]
  refine ⟨staffed.tunables, .inr rfl, Phase.noConfusion, staffed.permits, ?_⟩
  show engine.config.workers.toNat + engine.waiting + engine.jobs.length ≤ config.workers.toNat
  rw [staffed.tunables, none_waits, no_jobs]
  exact Nat.le_refl _

end Engine

/-! ## Runs -/

namespace Flow

open Coalesce

variable {config : Configuration} {plans : List ProviderPlan} {counters : CacheCounters}
  {around : Surroundings} {capacity : Nat} {busy : ExporterTotals} {flow after : Flow}

/-- The workers are accounted for, and a round is gathered from its first request on. -/
structure Attended (config : Configuration) (flow : Flow) : Prop where
  /-- The workers are accounted for. -/
  staffed : flow.engine.Staffed config
  /-- No round that is gathered is empty. -/
  begun : ∀ grown, flow.gathering = some grown → grown.1 ≠ []

/-- A dispatcher that gathers a round keeps account. -/
theorem Attended.gather (attended : Attended config flow) (conserved : Conserved capacity busy flow)
    (gathering : Gathering flow after) : Attended config after := by
  have queued (queue : List Query) : Engine.Staffed config { flow.engine with queue } :=
    attended.staffed.parts flow.engine.around flow.engine.cache flow.engine.reports queue
      flow.engine.maintenance flow.engine.crashed
  cases gathering with
  | first free running listening waiting =>
    refine ⟨queued _, fun grown gathered => ?_⟩
    cases gathered
    exact add_ne_nil _ []
  | @more before _ _ _ gathering unfilled waiting =>
    refine ⟨queued _, fun grown gathered => ?_⟩
    cases gathered
    exact add_ne_nil _ before
  | close gathering ended =>
    obtain ⟨listening, _⟩ := conserved.held_of_gathering gathering
    have running : flow.engine.phase = .running := by
      apply attended.staffed.running_of_busy
      rw [listening]
      exact Dispatcher.noConfusion
    refine ⟨attended.staffed.dispatch running ?_, fun _ gathered => nomatch gathered⟩
    rw [listening]
    rfl

/-- Every step keeps account. -/
theorem Attended.step (attended : Attended config flow) (conserved : Conserved capacity busy flow)
    (step : Step flow after) : Attended config after := by
  have staffed := attended.staffed
  cases step with
  | pass counted =>
    exact ⟨staffed.parts _ flow.engine.cache flow.engine.reports flow.engine.queue
      flow.engine.maintenance flow.engine.crashed, attended.begun⟩
  | start ready => exact ⟨staffed.start ready, attended.begun⟩
  | request query =>
    obtain ⟨queue, around, queued, -⟩ := flow.engine.enqueue_parts query
    refine ⟨?_, attended.begun⟩
    rw [queued]
    exact staffed.parts around flow.engine.cache flow.engine.reports queue
      flow.engine.maintenance flow.engine.crashed
  | lookup now query =>
    obtain ⟨queue, around, answered, -⟩ := flow.engine.lookup_parts now query
    refine ⟨?_, attended.begun⟩
    rw [answered]
    exact staffed.parts around _ flow.engine.reports queue
      flow.engine.maintenance flow.engine.crashed
  | maintain now =>
    obtain ⟨queue, around, maintained, -⟩ := flow.engine.maintain_parts now
    refine ⟨?_, attended.begun⟩
    rw [maintained]
    exact staffed.parts around _ flow.engine.reports queue
      flow.engine.maintenance flow.engine.crashed
  | act free taken => exact ⟨staffed.act taken, attended.begun⟩
  | gather gathering => exact attended.gather conserved gathering

/-- Whatever can be reached keeps account. -/
theorem attended_of_reachable (reachable : Reachable config plans counters around flow) :
    Attended config flow := by
  induction reachable with
  | built built =>
    obtain ⟨_, providers, -, fresh⟩ := build_eq_ok built
    subst fresh
    exact ⟨⟨rfl, .inl rfl, fun _ => ⟨rfl, rfl, rfl⟩, rfl, Nat.zero_le _⟩, fun _ => nofun⟩
  | step reached step attended =>
    exact attended.step (conserved_of_reachable reached) step
  | recast _ _ attended => exact ⟨attended.staffed.recast _, attended.begun⟩

/-! ## Progress -/

/-- A dispatcher that holds a batch for a worker that it found can send it. -/
theorem Attended.deliver_isSome (attended : Attended config flow) {batch : BatchQuery}
    {rest : List BatchQuery} (delivering : flow.engine.dispatcher = .delivering batch rest) :
    (flow.engine.step? .deliver).isSome := by
  have running : flow.engine.phase = .running := by
    apply attended.staffed.running_of_busy
    rw [delivering]
    exact Dispatcher.noConfusion
  have room : flow.engine.channel.length < flow.engine.config.workers.toNat := by
    have holds := attended.staffed.channel_le
    rw [delivering] at holds
    rw [attended.staffed.tunables]
    exact holds
  simp [Engine.step?, running, delivering, room]

/-- A dispatcher that listens while requests wait or are gathered goes on with a round. -/
theorem Attended.gathers (attended : Attended config flow) (running : flow.engine.phase = .running)
    (listening : flow.engine.dispatcher = .listening)
    (pending : flow.engine.queue ≠ [] ∨ flow.held ≠ []) : ∃ after, Gathering flow after := by
  cases gathering : flow.gathering with
  | none =>
    have nothing_held : flow.held = [] := by
      rw [held, gathering, listening]
      rfl
    obtain ⟨query, queue, waiting⟩ :=
      List.exists_cons_of_ne_nil (pending.resolve_right (absurd nothing_held))
    exact ⟨_, .first gathering running listening waiting⟩
  | some grown =>
    obtain ⟨round, size⟩ := grown
    have some_batch : round ≠ [] := attended.begun _ gathering
    obtain ⟨batch, rest, rfl⟩ := List.exists_cons_of_ne_nil some_batch
    cases full : flow.isFull size (batch :: rest) with
    | true => exact ⟨_, .close gathering (.inl full)⟩
    | false =>
      cases waiting : flow.engine.queue with
      | nil => exact ⟨_, .close gathering (.inr waiting)⟩
      | cons query queue => exact ⟨_, .more gathering full waiting⟩

/-- While a worker waits and there are requests or batches for it, something goes on: a batch
that was sent is taken, and if there is none, a permit is left for a dispatcher that needs one. -/
theorem Attended.progress (attended : Attended config flow) (waits : 0 < flow.engine.waiting)
    (pending : flow.engine.queue ≠ [] ∨ flow.held ≠ []) :
    (∃ action ∈ [Engine.Action.seek, .deliver, .claim, .take],
        (flow.engine.step? action).isSome) ∨
      ∃ after, Gathering flow after := by
  have running := attended.staffed.running_of_waiting waits
  have permits := attended.staffed.permits
  cases sent : flow.engine.channel with
  | cons batch channel =>
    exact .inl ⟨.take, by decide, by simp [Engine.step?, running, sent, waits]⟩
  | nil =>
    rw [sent, List.length_nil] at permits
    cases about : flow.engine.dispatcher with
    | seeking =>
      rw [about] at permits
      have some_idle : 0 < flow.engine.idle := Nat.lt_of_lt_of_eq waits permits
      exact .inl ⟨.seek, by decide, by simp [Engine.step?, running, about, some_idle]⟩
    | claiming batch rest =>
      rw [about] at permits
      have some_idle : 0 < flow.engine.idle := Nat.lt_of_lt_of_eq waits permits
      exact .inl ⟨.claim, by decide, by simp [Engine.step?, running, about, some_idle]⟩
    | delivering batch rest =>
      exact .inl ⟨.deliver, by decide, attended.deliver_isSome about⟩
    | listening => exact .inr (attended.gathers running about pending)

/-- In whatever order things happen to an engine that was built, until it is stopped, and whether
or not providers crash: the workers that wait are as many as the permits that are left, the one
that the dispatcher may hold and the batches that were sent and not taken. So the channel never
holds more batches than there are workers and has room for every batch that is to be sent, and
while a worker waits and requests wait or the dispatcher holds batches, the dispatcher or such a
worker can go on. -/
theorem workers_accounted (reachable : Reachable config plans counters around flow) :
    flow.engine.waiting =
        flow.engine.idle + flow.engine.dispatcher.permits + flow.engine.channel.length ∧
      flow.engine.channel.length ≤ config.workers.toNat ∧
      (∀ batch rest, flow.engine.dispatcher = .delivering batch rest →
        (flow.engine.step? .deliver).isSome) ∧
      (0 < flow.engine.waiting → flow.engine.queue ≠ [] ∨ flow.held ≠ [] →
        (∃ action ∈ [Engine.Action.seek, .deliver, .claim, .take],
            (flow.engine.step? action).isSome) ∨
          ∃ after, Gathering flow after) := by
  have attended := attended_of_reachable reachable
  refine ⟨attended.staffed.permits, ?_, fun _ _ => attended.deliver_isSome, attended.progress⟩
  have holds := attended.staffed.channel_le
  omega

/-- A provider that crashes takes one of two workers with it; the dispatcher finds the other one
for the next batch of the round and can send it. -/
theorem workers_accounted_after_crash :
    ∃ flow, Reachable { workers := 2 } [Script.plan { crashing := [⟨1⟩] } 0] {} {} flow ∧
      flow.engine.crashed = 1 ∧ flow.engine.jobs = [] ∧ flow.engine.waiting = 1 ∧
      flow.engine.idle = 0 ∧ flow.held = [⟨⟨2⟩, [7]⟩, ⟨⟨3⟩, [5]⟩] ∧
      flow.engine.waiting =
        flow.engine.idle + flow.engine.dispatcher.permits + flow.engine.channel.length ∧
      (flow.engine.step? .deliver).isSome ∧
      ((∃ action ∈ [Engine.Action.seek, .deliver, .claim, .take],
          (flow.engine.step? action).isSome) ∨
        ∃ after, Gathering flow after) := by
  have built : Reachable { workers := 2 } [Script.plan { crashing := [⟨1⟩] } 0] {} {} _ :=
    .built rfl
  have asked := ((built.step (.lookup _ .epoch ⟨⟨1⟩, 1⟩)).step (.lookup _ .epoch ⟨⟨2⟩, 7⟩)).step
    (.lookup _ .epoch ⟨⟨3⟩, 5⟩)
  have started := asked.step (.start rfl)
  have one := started.step (.act (.inl rfl) (rfl : Engine.step? _ .join = some _))
  have both := one.step (.act (.inl rfl) (rfl : Engine.step? _ .join = some _))
  have found := both.step (.act (.inl rfl) (rfl : Engine.step? _ .seek = some _))
  have gathered := found.step (.act (.inl rfl) (rfl : Engine.step? _ .listen = some _))
  have sent := gathered.step (.act (.inl rfl) (rfl : Engine.step? _ .deliver = some _))
  have taken := sent.step (.act (.inl rfl) (rfl : Engine.step? _ .take = some _))
  have crashed := taken.step (.act (.inl rfl) (rfl : Engine.step? _ (.work 0) = some _))
  have claimed := crashed.step (.act (.inl rfl) (rfl : Engine.step? _ .claim = some _))
  have accounted := workers_accounted claimed
  exact ⟨_, claimed, rfl, rfl, rfl, rfl, rfl, accounted.1, accounted.2.2.1 _ _ rfl,
    accounted.2.2.2 (by decide) (.inr nofun)⟩

end Flow

end FlowEnrichment
