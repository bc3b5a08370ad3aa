import FlowEnrichment.Engine.Coalesce
import FlowEnrichment.Engine.Request
import FlowEnrichment.Engine.Work

/-!
# Actions

The background of an engine runs in small actions, each of which one part takes by itself: a
worker begins to wait, the dispatcher finds a worker, takes requests or sends a batch, a worker
takes a batch or goes on with it, maintenance sets its timer or runs, late updates are reported.
An action can be taken only in states that allow it. A run settles when no action can be taken;
every action lowers the workload, so it does.
-/
namespace FlowEnrichment.Engine

/-- Something that a part of an engine does by itself. -/
inductive Action where
  /-- Maintenance sets its timer. -/
  | prepare
  /-- A worker that has not begun waits for a batch. -/
  | join
  /-- The dispatcher finds an idle worker for the next request. -/
  | seek
  /-- The dispatcher takes a request and those that can be gathered with it. -/
  | listen
  /-- The dispatcher sends a batch. -/
  | deliver
  /-- The dispatcher finds an idle worker for the next batch of a round. -/
  | claim
  /-- A worker takes a batch. -/
  | take
  /-- A worker goes on with the job at a position. -/
  | work (position : Nat)
  /-- The late updates that are due are reported. -/
  | report
  /-- Maintenance runs as often as its timer has fired. -/
  | maintain
  deriving DecidableEq, Repr

/-! ## Maintenance -/

/-- How late the timer of maintenance may be without a change of rhythm. -/
def tolerance : Duration := .millis 5

/-- The tick after one that is served at an instant. A late tick is followed by the next
multiple of the period, and the ticks between them are left out. -/
def nextTick (now deadline : Instant) (period : Duration) : Instant :=
  if deadline.nanos + tolerance.nanos < now.nanos then
    ⟨now.nanos + period.nanos - (now.nanos - deadline.nanos) % period.nanos⟩
  else deadline.addOrFar period

/-- The ticks of maintenance that are due, by their number, and the one after them. -/
def dueTicks (engine : Engine) : Nat → Instant → Nat × Instant
  | 0, deadline => (0, deadline)
  | fuel + 1, deadline =>
    if engine.reached deadline then
      let period := engine.config.cacheCheckInterval
      let (count, next) := dueTicks engine fuel (nextTick engine.now deadline period)
      (count + 1, next)
    else (0, deadline)

/-- Runs maintenance a number of times. -/
def maintainTimes : Nat → Engine → Engine
  | 0, engine => engine
  | count + 1, engine => maintainTimes count (engine.maintain engine.around.clock).1

/-- Runs maintenance as often as its timer has fired since a tick. -/
def serveTicks (engine : Engine) (deadline : Instant) : Engine :=
  let fuel := engine.now.nanos + Instant.tickNanos - deadline.nanos
  let due := engine.dueTicks fuel deadline
  { maintainTimes due.1 engine with maintenance := .ticking due.2 }

/-! ## Steps -/

/-- The state after an action; nothing if the action cannot be taken. -/
def step? (engine : Engine) : Action → Option Engine
  | .prepare =>
    if engine.maintenance = .fresh then
      match engine.now.add? engine.config.cacheCheckInterval with
      | some deadline => some { engine with maintenance := .ticking deadline }
      | none => some { engine with maintenance := .idle }.crash
    else none
  | .join =>
    if engine.phase = .running ∧ 0 < engine.fresh then
      some { engine with fresh := engine.fresh - 1 }.rest
    else none
  | .seek =>
    if engine.phase = .running ∧ engine.dispatcher = .seeking ∧ 0 < engine.idle then
      some { engine with idle := engine.idle - 1, dispatcher := .listening }
    else none
  | .listen =>
    match engine.phase, engine.dispatcher, engine.queue with
    | .running, .listening, first :: queue =>
      match Coalesce.round engine.config.maxBatchRequests.toNat first queue with
      | (batch :: rest, queue) =>
        some { engine with queue, dispatcher := .delivering batch rest }
      | ([], queue) => some { engine with queue }
    | _, _, _ => none
  | .deliver =>
    match engine.phase, engine.dispatcher with
    | .running, .delivering batch rest =>
      if engine.channel.length < engine.config.workers.toNat then
        let size := batch.indexes.length
        let engine := engine.count fun totals =>
          { totals with batched := totals.batched + if 1 < size then size else 0 }
        let dispatcher :=
          match rest with
          | [] => .seeking
          | next :: rest => .claiming next rest
        some { engine with channel := engine.channel ++ [batch], dispatcher }
      else none
    | _, _ => none
  | .claim =>
    match engine.phase, engine.dispatcher with
    | .running, .claiming batch rest =>
      if 0 < engine.idle then
        some { engine with idle := engine.idle - 1, dispatcher := .delivering batch rest }
      else none
    | _, _ => none
  | .take =>
    match engine.phase, engine.channel with
    | .running, batch :: channel =>
      if 0 < engine.waiting then
        some ({ engine with waiting := engine.waiting - 1, channel }.undertake batch)
      else none
    | _, _ => none
  | .work position =>
    match engine.jobs[position]? with
    | some job =>
      if engine.canResume job then
        some ({ engine with jobs := engine.jobs.eraseIdx position }.resume job)
      else none
    | none => none
  | .report =>
    let (due, later) := engine.reports.partition fun (time, _) => engine.reached time
    if engine.phase = .running ∧ due ≠ [] then
      some (due.foldl (fun engine (_, update) => engine.store update)
        { engine with reports := later })
    else none
  | .maintain =>
    match engine.phase, engine.maintenance with
    | .running, .ticking deadline =>
      if engine.reached deadline then some (engine.serveTicks deadline) else none
    | _, _ => none

/-! ## Settling -/

/-- Since when there is something to do about a job; always, if no timer is the reason. -/
def resumableSince (engine : Engine) (job : Job) : Instant :=
  match job.wait with
  | .until time =>
    if engine.reached job.deadline ∧ job.deadline.nanos < time.nanos then job.deadline else time
  | wait => if engine.waitOver wait then .start else job.deadline

/-- The actions for which a timer has fired and those that go on with a job, each with the time
since when it can be taken. -/
def dueActions (engine : Engine) : List (Instant × Action) :=
  let works := engine.jobs.zipIdx.filter fun (job, _) => engine.canResume job
  let reports := engine.reports.filter fun (time, _) => engine.reached time
  works.map (fun (job, position) => (engine.resumableSince job, .work position)) ++
    (reports.head?.map fun (time, _) => (time, .report)).toList ++
    match engine.maintenance with
    | .ticking deadline => [(deadline, .maintain)]
    | _ => []

/-- The actions that come into question, those first for which a timer has fired or that go on
with a job, in the order in which they became possible. -/
def candidates (engine : Engine) : List Action :=
  .prepare :: (engine.dueActions.mergeSort fun a b => a.1.dueTick ≤ b.1.dueTick).map (·.2) ++
    [.take, .deliver, .claim, .listen, .seek, .join]

/-- The state after the first action that can be taken; nothing if there is none. -/
def next? (engine : Engine) : Option Engine := engine.candidates.findSome? engine.step?

/-- The weight of a job: more if it is about to go on. -/
def jobWeight (engine : Engine) (job : Job) : Nat :=
  match job.wait with
  | .none => 6
  | .until time => if engine.reached time then 6 else 3
  | .permit _ _ => 3

/-- The weight of what the dispatcher holds. -/
def Dispatcher.weight : Dispatcher → Nat
  | .seeking | .listening => 0
  | .delivering _ rest => 8 + 9 * rest.length
  | .claiming _ rest => 9 + 9 * rest.length

/-- The weight of maintenance: that of the requests that it may queue. -/
def maintenanceWeight (engine : Engine) : Nat :=
  match engine.maintenance with
  | .idle => 0
  | .fresh => 1
  | .ticking deadline =>
    if engine.reached deadline then 1 + 9 * engine.config.queueCapacity else 0

/-- The sum of weights. -/
def total : List Nat → Nat
  | [] => 0
  | weight :: rest => weight + total rest

/-- A number that every action lowers. -/
def workload (engine : Engine) : Nat :=
  engine.maintenanceWeight + 2 * engine.fresh + engine.idle + 9 * engine.queue.length +
    Dispatcher.weight engine.dispatcher + 7 * engine.channel.length +
    total (engine.jobs.map engine.jobWeight) + 3 * total (engine.around.permits.map (·.2)) +
    (if engine.reports.any fun (time, _) => engine.reached time then 1 else 0)

/-- Takes a number of actions, or as many as can be taken. -/
def settleWithin : Nat → Engine → Engine
  | 0, engine => engine
  | fuel + 1, engine =>
    match engine.next? with
    | some engine => settleWithin fuel engine
    | none => engine

/-- Takes actions until none can be taken. -/
def settle (engine : Engine) : Engine := settleWithin engine.workload engine

end FlowEnrichment.Engine
