import FlowEnrichment.Breaker.Table
import FlowEnrichment.Configuration
import FlowEnrichment.Engine.Event
import FlowEnrichment.Engine.Telemetry
import FlowEnrichment.Provider

/-!
# Engines

An engine answers lookups from its cache and fills the cache in the background. A miss becomes a
request in a queue; the dispatcher gathers requests into batches whenever a worker is idle; a
worker takes a batch, passes the breaker of the exporter and asks the providers one after the
other; maintenance removes and refreshes entries. Here are the parts of an engine and of what it
finds around it. What the parts do is told by the modules below this one.
-/
namespace FlowEnrichment

/-- What an engine finds around it: the times, the files, the permits of the backends, and the
records of what happened. -/
structure Surroundings where
  /-- The time on which deadlines are kept. -/
  now : Instant := .start
  /-- The tick up to which timers have fired. -/
  tick : Nat := 0
  /-- The wall clock. -/
  clock : Timestamp := .epoch
  /-- The files. -/
  files : FileTree := {}
  /-- The free permits of every backend. -/
  permits : List (Nat × Nat) := []
  /-- The number of waits for permits so far, which numbers the next one. -/
  tickets : Nat := 0
  /-- The calls of providers, each with its backend. -/
  journal : List (Nat × BatchQuery) := []
  /-- The events. -/
  events : List Event := []
  /-- The totals. -/
  totals : EngineTotals := {}
  deriving Inhabited

namespace Surroundings

/-- The free permits of a backend. -/
def freePermits (around : Surroundings) (backend : Nat) : Nat :=
  (around.permits.lookup backend).getD 0

/-- The permits with another number for a backend. -/
def setPermits (backend count : Nat) : List (Nat × Nat) → List (Nat × Nat)
  | [] => [(backend, count)]
  | (key, old) :: rest =>
    if key = backend then (key, count) :: rest else (key, old) :: setPermits backend count rest

/-- Adds permits of a backend. -/
def release (around : Surroundings) (backend count : Nat) : Surroundings :=
  { around with permits := setPermits backend (around.freePermits backend + count) around.permits }

/-- Takes a permit of a backend. -/
def takePermit (around : Surroundings) (backend : Nat) : Surroundings :=
  { around with permits := setPermits backend (around.freePermits backend - 1) around.permits }

/-- The surroundings at a later time, at which timers have not fired yet. -/
def later (around : Surroundings) (duration : Duration) : Surroundings :=
  { around with now := ⟨around.now.nanos + duration.nanos⟩ }

/-- Lets the timers fire up to the present time. -/
def fireTimers (around : Surroundings) : Surroundings := { around with tick := around.now.lastTick }

/-- Records an event. -/
def log (around : Surroundings) (event : Event) : Surroundings :=
  { around with events := around.events ++ [event] }

end Surroundings

/-- What a job waits for. -/
inductive Wait where
  /-- Nothing. -/
  | none
  /-- A time. -/
  | until (time : Instant)
  /-- A permit of a backend; the lowest ticket is served first. -/
  | permit (backend ticket : Nat)
  deriving DecidableEq, Repr

/-- A batch with which a worker is busy. -/
structure Job where
  /-- The batch. -/
  batch : BatchQuery
  /-- The call that the breaker let pass. -/
  call : BreakerCall
  /-- When the query times out. -/
  deadline : Instant
  /-- The number of providers that were asked before the present one. -/
  position : Nat
  /-- What the present provider is asked. -/
  asked : BatchQuery
  /-- What the present provider still does. -/
  effects : List Effect
  /-- How its reply ends. -/
  ending : Ending
  /-- What it waits for. -/
  wait : Wait

/-- What the dispatcher is about to do. -/
inductive Dispatcher where
  /-- To find an idle worker. -/
  | seeking
  /-- To take a request for the worker that it found. -/
  | listening
  /-- To send a batch to the worker that it found, before the rest of a round. -/
  | delivering (batch : BatchQuery) (rest : List BatchQuery)
  /-- To find an idle worker for a batch, before the rest of a round. -/
  | claiming (batch : BatchQuery) (rest : List BatchQuery)
  deriving DecidableEq, Repr

/-- What maintenance is about to do. -/
inductive Maintenance where
  /-- Nothing, since it has not begun or has ended. -/
  | idle
  /-- To set its timer. -/
  | fresh
  /-- To run when its timer fires. -/
  | ticking (deadline : Instant)
  deriving DecidableEq, Repr

/-- Where an engine is in its life. -/
inductive Phase where
  /-- It was built. -/
  | ready
  /-- It was started. -/
  | running
  /-- It is being stopped. -/
  | stopping
  /-- It was stopped. -/
  | stopped
  deriving DecidableEq, Repr

/-- An engine with what it finds around it. -/
structure Engine where
  /-- The tunables. -/
  config : Configuration
  /-- The chain of providers, in the order in which they are asked. -/
  providers : List Provider
  /-- Where the engine is in its life. -/
  phase : Phase := .ready
  /-- The cache. -/
  cache : Cache
  /-- The breakers. -/
  breakers : BreakerTable
  /-- The requests that wait. -/
  queue : List Query := []
  /-- The dispatcher. -/
  dispatcher : Dispatcher := .seeking
  /-- The idle workers that nobody has found yet. -/
  idle : Nat := 0
  /-- The batches that were sent and not taken. -/
  channel : List BatchQuery := []
  /-- The workers that have not begun. -/
  fresh : Nat := 0
  /-- The workers that wait for a batch. -/
  waiting : Nat := 0
  /-- The batches with which workers are busy. -/
  jobs : List Job := []
  /-- The tasks that crashed. -/
  crashed : Nat := 0
  /-- The time before which no query times out. -/
  graceDeadline : Instant := .start
  /-- The exporters whose rejection was warned about. None of them is forgotten. -/
  warned : List Address := []
  /-- Maintenance. -/
  maintenance : Maintenance := .idle
  /-- The updates that are to be reported later. -/
  reports : List (Instant × Update) := []
  /-- What the engine finds around it. -/
  around : Surroundings := {}

namespace Engine

/-- The names of the providers, in the order in which they are asked. -/
def names (engine : Engine) : List String := engine.providers.map (·.name)

/-- The engine with other providers. A provider with a state of its own is another one after it
was asked. -/
def recast (engine : Engine) (providers : List Provider) : Engine := { engine with providers }

/-- The time on which deadlines are kept. -/
def now (engine : Engine) : Instant := engine.around.now

/-- Whether a timer for a time has fired. -/
def reached (engine : Engine) (time : Instant) : Bool := time.dueTick ≤ engine.around.tick

/-- Records an event. -/
def log (engine : Engine) (event : Event) : Engine :=
  { engine with around := engine.around.log event }

/-- Changes the totals. -/
def count (engine : Engine) (change : EngineTotals → EngineTotals) : Engine :=
  { engine with around := { engine.around with totals := change engine.around.totals } }

/-- Puts the answer of an update into the cache, at the time of the wall clock. -/
def store (engine : Engine) (update : Update) : Engine :=
  { engine with cache := engine.cache.put engine.around.clock update.query update.answer }

/-- The state of the breaker of an exporter; nothing if it was never asked. -/
def breakerState (engine : Engine) (exporter : Address) : Option BreakerState :=
  (engine.breakers.find? exporter).map (·.state engine.now)

/-- The measurements of an engine by name. -/
def metrics (engine : Engine) : List (String × Nat) :=
  Telemetry.cacheMetrics engine.cache.counters ++ Telemetry.engineMetrics engine.around.totals

end Engine

end FlowEnrichment
