import FlowEnrichment.Engine

/-!
# Work on batches

What a worker does with a batch: it passes the breaker of the exporter, asks the providers one
after the other, each for what the one before it skipped, and tells the breaker how it went. One
deadline holds for the whole chain. A worker goes on until it has to wait; a query that has an
outcome when its deadline is looked at keeps that outcome.
-/
namespace FlowEnrichment.Engine

/-! ## Ends -/

/-- A worker waits for a batch again. -/
def rest (engine : Engine) : Engine :=
  { engine with waiting := engine.waiting + 1, idle := engine.idle + 1 }

/-- A worker is gone. -/
def crash (engine : Engine) : Engine := { engine with crashed := engine.crashed + 1 }

/-- Counts a batch that a breaker rejected, and warns about its exporter once. -/
def reject (engine : Engine) (exporter : Address) : Engine :=
  let engine := engine.count fun totals =>
    { totals with rejected := totals.rejected.bump exporter }
  if engine.warned.contains exporter then engine
  else { engine with warned := exporter :: engine.warned }.log (.rejected exporter)

/-- Counts and records how a query went. -/
def conclude (engine : Engine) (batch : BatchQuery) : Except Failure Unit → Engine
  | .ok () => engine
  | .error .breakerOpen => engine.reject batch.exporter
  | .error .cancelled => engine.log (.cancelled batch.exporter)
  | .error failure =>
    (engine.count fun totals => { totals with errors := totals.errors + 1 }).log
      (.failed batch.exporter batch.indexes.length failure)

/-- Ends the query of a batch with an outcome. The worker is gone if the cool-down of the breaker
has no end, and waits for another batch otherwise. -/
def finish (engine : Engine) (batch : BatchQuery) (outcome : Except Failure Unit) : Engine :=
  let recorded := engine.breakers.record batch.exporter engine.now outcome.isOk
  let engine := { engine with breakers := recorded.table }
  if recorded.overflow then engine.crash else (engine.conclude batch outcome).rest

/-- Ends the query of a batch by a crash of a provider, with which the worker is gone. -/
def abort (engine : Engine) (job : Job) : Engine :=
  let dropped := engine.breakers.drop job.batch.exporter engine.now job.call
  { engine with breakers := dropped.table }.crash

/-! ## Progress -/

/-- The waits for a permit of a backend that came before a ticket. -/
def earlierWaits (engine : Engine) (backend ticket : Nat) : Nat :=
  (engine.jobs.filter fun job =>
    match job.wait with
    | .permit other earlier => other = backend && earlier < ticket
    | _ => false).length

/-- Whether a wait is over. A permit is for the earliest wait. -/
def waitOver (engine : Engine) : Wait → Bool
  | .none => true
  | .until time => engine.reached time
  | .permit backend ticket =>
    engine.earlierWaits backend ticket < engine.around.freePermits backend

/-- The effects of a wait that is over. -/
def leaveWait (engine : Engine) : Wait → Engine
  | .permit backend _ => { engine with around := engine.around.takePermit backend }
  | _ => engine

/-- Does what a provider does until it waits, and tells for what and what is left to do. -/
def carryOut : List Effect → Engine → Engine × Option (Wait × List Effect)
  | [], engine => (engine, none)
  | .note backend batch :: rest, engine =>
    carryOut rest
      { engine with
        around := { engine.around with journal := engine.around.journal ++ [(backend, batch)] } }
  | .takePermit backend :: rest, engine =>
    let ticket := engine.around.tickets
    let engine := { engine with around := { engine.around with tickets := ticket + 1 } }
    let wait := Wait.permit backend ticket
    if engine.waitOver wait then carryOut rest (engine.leaveWait wait)
    else (engine, some (wait, rest))
  | .pause time :: rest, engine =>
    let wait := Wait.until (engine.now.addOrFar time)
    if engine.waitOver wait then carryOut rest engine else (engine, some (wait, rest))
  | .report update :: rest, engine => carryOut rest (engine.store update)
  | .reportLater delay update :: rest, engine =>
    carryOut rest
      { engine with reports := engine.reports ++ [(engine.now.addOrFar delay, update)] }

/-- Where a job comes to when it goes on. -/
inductive Progress where
  /-- It waits. -/
  | waits (job : Job)
  /-- The chain has an outcome. -/
  | answered (outcome : Except Failure Unit)
  /-- A provider crashed. -/
  | crashed

/-- The job with which a provider is asked. -/
def ask (job : Job) (position : Nat) (provider : Provider) (asked : BatchQuery) : Job :=
  let reply := provider.reply asked
  { job with position, asked, effects := reply.effects, ending := reply.ending, wait := .none }

/-- Goes on with a job that does not wait, the given providers coming after the present one. -/
def proceed : List Provider → String → Job → Engine → Engine × Progress
  | later, name, job, engine =>
    match carryOut job.effects engine with
    | (engine, some (wait, effects)) => (engine, .waits { job with wait, effects })
    | (engine, none) =>
      match job.ending with
      | .crash => (engine, .crashed)
      | .done outcome =>
        match handedOver? outcome with
        | none => (engine, .answered (chainOutcome outcome))
        | some indexes =>
          let engine := engine.log (.skipped job.batch.exporter name indexes.length)
          match later with
          | [] => (engine, .answered (.ok ()))
          | provider :: later =>
            let asked : BatchQuery := ⟨job.batch.exporter, indexes⟩
            proceed later provider.name (ask job (job.position + 1) provider asked) engine

/-- Whether the deadline of a job has passed. -/
def timedOut (engine : Engine) (job : Job) : Bool := engine.reached job.deadline

/-- Goes on with a job, as far as it can. -/
def advance (engine : Engine) (job : Job) : Engine × Progress :=
  if engine.waitOver job.wait then
    let name := (engine.providers[job.position]?.map (·.name)).getD ""
    proceed (engine.providers.drop (job.position + 1)) name job (engine.leaveWait job.wait)
  else (engine, .waits job)

/-- Goes on with a job that is not among the jobs of the engine, and puts it back if it waits. -/
def resume (engine : Engine) (job : Job) : Engine :=
  if engine.phase = .stopping then engine.finish job.batch (.error .cancelled)
  else
    match engine.advance job with
    | (engine, .answered outcome) => engine.finish job.batch outcome
    | (engine, .crashed) => engine.abort job
    | (engine, .waits job) =>
      if engine.timedOut job then engine.finish job.batch (.error .queryTimeout)
      else { engine with jobs := engine.jobs ++ [job] }

/-- Whether there is anything to do about a job. -/
def canResume (engine : Engine) (job : Job) : Bool :=
  engine.phase == .stopping || engine.waitOver job.wait || engine.timedOut job

/-- The deadline of a query that begins. -/
def queryDeadline (engine : Engine) : Instant :=
  (engine.now.addOrFar engine.config.queryTimeout).later engine.graceDeadline

/-- A worker begins with a batch, or waits again if the breaker rejects it. An engine that was built
has a provider to begin with. -/
def undertake (engine : Engine) (batch : BatchQuery) : Engine :=
  match engine.breakers.enter batch.exporter engine.now, engine.providers with
  | (breakers, some call), provider :: _ =>
    let engine := { engine with breakers }.count fun totals =>
      { totals with requests := totals.requests + 1 }
    let reply := provider.reply batch
    let job : Job :=
      { batch, call, deadline := engine.queryDeadline, position := 0, asked := batch
        effects := reply.effects, ending := reply.ending, wait := .none }
    { engine with jobs := engine.jobs ++ [job] }
  | (breakers, some _), [] => { engine with breakers }.finish batch (.ok ())
  | (breakers, none), _ => ({ engine with breakers }.reject batch.exporter).rest

end FlowEnrichment.Engine
