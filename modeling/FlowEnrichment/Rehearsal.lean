import FlowEnrichment.Engine.Lifecycle
import FlowEnrichment.Engine.Timeline
import FlowEnrichment.Provider.Scripted

/-!
# Rehearsals

A rehearsal runs an engine against scripted providers. The engine can be built again in the same
surroundings: the scripts, the permits and the totals stay, and what the old engine still had in
flight is cancelled when time goes on. Without an engine only time goes on.
-/
namespace FlowEnrichment

/-- A place in the chain of providers of a rehearsal. -/
inductive Seat where
  /-- A provider that is what it is. -/
  | fixed (plan : ProviderPlan)
  /-- A scripted provider of a backend. -/
  | scripted (backend : Nat) (script : Script)

namespace Seat

/-- The plan for a place. -/
def plan : Seat → ProviderPlan
  | .fixed plan => plan
  | .scripted backend script => script.plan backend

/-- The place after the script of a backend was replaced. -/
def rescript (backend : Nat) (script : Script) : Seat → Seat
  | .fixed plan => .fixed plan
  | .scripted number old => .scripted number (if number = backend then script else old)

/-- A provider in a place after the script of a backend was replaced. -/
def recast (backend : Nat) (script : Script) (seat : Seat) (provider : Provider) : Provider :=
  match seat with
  | .fixed _ => provider
  | .scripted number _ => if number = backend then script.provider backend else provider

end Seat

/-- A run of an engine against scripted providers. -/
structure Rehearsal where
  /-- The chain of providers. -/
  seats : List Seat
  /-- The tunables of the engine. -/
  config : Configuration
  /-- The engine; without one, what it would find around it. -/
  stage : Except Surroundings Engine
  /-- What the caches counted before the present one, if there was any. -/
  counted : Option CacheCounters := none
  /-- The events of a former engine that are still to come. -/
  pending : List Event := []

namespace Rehearsal

/-- What the engine finds around it. -/
def around (rehearsal : Rehearsal) : Surroundings :=
  match rehearsal.stage with
  | .ok engine => engine.around
  | .error around => around

/-- Changes the engine. -/
def mapEngine (rehearsal : Rehearsal) (change : Engine → Engine) : Rehearsal :=
  { rehearsal with stage := rehearsal.stage.map change }

/-- Changes what the engine finds around it. -/
def mapAround (rehearsal : Rehearsal) (change : Surroundings → Surroundings) : Rehearsal :=
  { rehearsal with
    stage :=
      match rehearsal.stage with
      | .ok engine => .ok { engine with around := change engine.around }
      | .error around => .error (change around) }

/-- Builds the engine where there is none, and tells why if it cannot be built. -/
def assemble (rehearsal : Rehearsal) : Rehearsal × Option BuildFault :=
  let plans := rehearsal.seats.map Seat.plan
  let around := rehearsal.around
  match Engine.check rehearsal.config plans with
  | .error failure => ({ rehearsal with stage := .error around }, some (.refused failure))
  | .ok () =>
    let counters := (Cache.fresh (rehearsal.counted.getD {})).counters
    let rehearsal := { rehearsal with counted := some counters }
    match Engine.build rehearsal.config plans counters around with
    | .ok engine => ({ rehearsal with stage := .ok engine }, none)
    | .error fault => ({ rehearsal with stage := .error around }, some fault)

/-- Takes leave of the engine: what it counted stays, what it had in flight will be cancelled. -/
def dismiss (rehearsal : Rehearsal) : Rehearsal :=
  match rehearsal.stage with
  | .error _ => rehearsal
  | .ok engine =>
    let cancelled :=
      if engine.phase = .running then
        (engine.endTasks.around.events).drop engine.around.events.length
      else []
    { rehearsal with
      stage := .error engine.around
      counted := some engine.cache.counters
      pending := rehearsal.pending ++ cancelled }

/-- Builds the engine again. -/
def rebuild (rehearsal : Rehearsal) : Rehearsal × Option BuildFault := rehearsal.dismiss.assemble

/-- Records the events of a former engine. -/
def flush (rehearsal : Rehearsal) : Rehearsal :=
  let events := rehearsal.pending
  { rehearsal.mapAround fun around => { around with events := around.events ++ events } with
    pending := [] }

/-- Changes a rehearsal in a way that lets time go on. -/
def elapse (rehearsal : Rehearsal) (run : Engine → Engine) (duration : Duration) : Rehearsal :=
  let rehearsal := rehearsal.flush
  { rehearsal with
    stage :=
      match rehearsal.stage with
      | .ok engine => .ok (run engine)
      | .error around => .error (around.later duration).fireTimers }

/-- Lets time go on for a duration. -/
def sleep (rehearsal : Rehearsal) (duration : Duration) : Rehearsal :=
  rehearsal.elapse (·.sleep duration) duration

/-- Moves the time on at once. -/
def jump (rehearsal : Rehearsal) (duration : Duration) : Rehearsal :=
  rehearsal.elapse (·.jump duration) ⟨duration.nanos + Instant.tickNanos⟩

/-- Stops the engine. -/
def stop (rehearsal : Rehearsal) : Rehearsal :=
  match rehearsal.stage with
  | .ok engine =>
    (if engine.phase = .running then rehearsal.flush else rehearsal).mapEngine Engine.stop
  | .error _ => rehearsal

/-- Replaces the script of a backend. -/
def rescript (rehearsal : Rehearsal) (backend : Nat) (script : Script) : Rehearsal :=
  let recast (engine : Engine) : Engine :=
    engine.recast (List.zipWith (Seat.recast backend script) rehearsal.seats engine.providers)
  { rehearsal.mapEngine recast with seats := rehearsal.seats.map (Seat.rescript backend script) }

/-- The calls of providers since they were last taken. -/
def takeJournal (rehearsal : Rehearsal) : Rehearsal × List (Nat × BatchQuery) :=
  (rehearsal.mapAround fun around => { around with journal := [] }, rehearsal.around.journal)

/-- The events since they were last taken. -/
def takeEvents (rehearsal : Rehearsal) : Rehearsal × List Event :=
  (rehearsal.mapAround fun around => { around with events := [] }, rehearsal.around.events)

/-- The measurements by name. -/
def metrics (rehearsal : Rehearsal) : List (String × Nat) :=
  match rehearsal.stage with
  | .ok engine => engine.metrics
  | .error around =>
    (rehearsal.counted.map Telemetry.cacheMetrics).getD [] ++ Telemetry.engineMetrics around.totals

end Rehearsal

end FlowEnrichment
