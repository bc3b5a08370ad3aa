import FlowEnrichment.Engine.Action

/-!
# The life of an engine

An engine is built from a valid configuration and the plans of its providers, started once and
stopped once. The start reads the snapshot and the stop writes it, after every task has ended;
queries in flight are cancelled. Neither is held up by a snapshot that cannot be read or written.
-/
namespace FlowEnrichment

/-- Why an engine cannot be built. -/
inductive BuildFault where
  /-- The configuration or a provider is not acceptable. -/
  | refused (failure : Failure)
  /-- The queue would have more room than a queue can have. -/
  | queueTooLarge
  deriving DecidableEq, Repr

namespace Engine

/-! ## Building -/

/-- Checks the configuration and that there is a provider. -/
def check (config : Configuration) (plans : List ProviderPlan) : Except Failure Unit := do
  config.validate
  if plans.isEmpty then .error (.configuration "no provider configured")

/-- Builds an engine whose cache goes on with given counts. -/
def build (config : Configuration) (plans : List ProviderPlan) (counters : CacheCounters)
    (around : Surroundings) : Except BuildFault Engine := do
  (check config plans).mapError .refused
  let providers ← (plans.mapM ProviderPlan.build).mapError .refused
  if Configuration.maxQueueCapacity < config.queueCapacity then .error .queueTooLarge
  return {
    config, providers, around
    cache := .fresh counters
    breakers := { config := config.breaker } }

/-! ## Starting and stopping -/

/-- Loads the snapshot, if there is to be one. -/
def loadCache (engine : Engine) : Engine :=
  match engine.config.cachePersistFile with
  | none => engine
  | some path =>
    let (cache, outcome) := engine.cache.load engine.around.files path
    let engine := { engine with cache }
    match outcome with
    | .ok () => engine.log (.cacheLoaded path cache.size)
    | .error failure =>
      engine.log (if failure.isNotFound then .cacheAbsent path else .cacheNotLoaded path failure)

/-- Saves the snapshot, if there is to be one. -/
def saveCache (engine : Engine) : Engine :=
  match engine.config.cachePersistFile with
  | none => engine
  | some path =>
    let (files, outcome) := engine.cache.save engine.around.files path
    let engine := { engine with around := { engine.around with files } }
    match outcome with
    | .ok () => engine.log (.cacheSaved path engine.cache.size)
    | .error failure => engine.log (.cacheNotSaved path failure)

/-- Loads the snapshot and sets the tasks going, if the engine has not been started or stopped. -/
def start (engine : Engine) : Engine × Except Failure Unit :=
  match engine.phase with
  | .ready =>
    let engine := engine.loadCache
    let workers := engine.config.workers.toNat
    let running :=
      { engine with
        phase := .running
        fresh := workers
        maintenance := .fresh
        graceDeadline := engine.now.addOrFar engine.config.initialDelay }
    (running.log (.started engine.names workers engine.cache.size), .ok ())
  | .running => (engine, .error (.invalidState .alreadyStarted))
  | .stopping | .stopped => (engine, .error (.invalidState .alreadyStopped))

/-- Records an event for every task that crashed. -/
def logCrashes (engine : Engine) : Engine :=
  { engine with
    around :=
      { engine.around with
        events := engine.around.events ++ List.replicate engine.crashed .taskCrashed } }

/-- Cancels what the tasks are about and lets them end. -/
def endTasks (engine : Engine) : Engine := { engine with phase := .stopping }.settle

/-- Ends the tasks and saves the snapshot, if the engine was started. -/
def stop (engine : Engine) : Engine :=
  match engine.phase with
  | .running =>
    let engine := engine.endTasks.logCrashes.saveCache
    { engine with phase := .stopped, queue := [], maintenance := .idle, reports := [] }.log .stopped
  | _ => { engine with phase := .stopped, queue := [] }

end Engine

end FlowEnrichment
