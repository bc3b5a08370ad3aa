import FlowEnrichment.Breaker
import FlowEnrichment.Failure

/-!
# Configurations

The tunables of a metadata component. `Configuration.validate` accepts those whose durations
fit together: entries must be refreshed before they expire, and maintenance must run often
enough for both.
-/
namespace FlowEnrichment

/-- The tunables of a metadata component. -/
structure Configuration where
  /-- How long an entry survives without being looked up. -/
  cacheDuration : Duration := .seconds 1800
  /-- The age from which an entry is asked for again; zero for never. -/
  cacheRefresh : Duration := .seconds 3600
  /-- The period of maintenance. -/
  cacheCheckInterval : Duration := .seconds 120
  /-- The snapshot that is loaded at the start and saved at the end. -/
  cachePersistFile : Option String := none
  /-- The number of workers. -/
  workers : UInt64 := 1
  /-- The greatest number of indexes that are put into one batch; zero for single requests. -/
  maxBatchRequests : UInt64 := 10
  /-- The time that a query may take. -/
  queryTimeout : Duration := .seconds 5
  /-- The time after the start during which queries may take longer. -/
  initialDelay : Duration := .seconds 60
  /-- The thresholds of the breakers. -/
  breaker : BreakerConfig := {}
  deriving DecidableEq, Repr, Inhabited

namespace Configuration

/-- The number of requests that may wait, of sixty-four bits at most. -/
def queueCapacity (config : Configuration) : Nat :=
  min (config.workers.toNat * 100) (UInt64.size - 1)

/-- The greatest capacity that a queue can have. -/
def maxQueueCapacity : Nat := UInt64.size / 8 - 1

/-- Whether old entries are asked for again. -/
def refreshes (config : Configuration) : Bool := !config.cacheRefresh.isZero

/-- The refusal of two durations that do not fit together. -/
def conflict (first : String) (a : Duration) (relation second : String) (b : Duration) : Failure :=
  .configuration (first ++ " (" ++ a.text ++ ") must be " ++ relation ++ " than " ++ second ++
    " (" ++ b.text ++ ")")

/-- Checks that the tunables fit together. -/
def validate (config : Configuration) : Except Failure Unit :=
  if config.refreshes ∧ config.cacheRefresh.nanos < config.cacheDuration.nanos then
    .error
      (conflict "cache refresh" config.cacheRefresh "greater" "cache duration" config.cacheDuration)
  else if config.cacheDuration.nanos < config.cacheCheckInterval.nanos then
    .error (conflict "cache duration" config.cacheDuration "greater" "cache check interval"
      config.cacheCheckInterval)
  else if config.refreshes ∧ config.cacheRefresh.nanos < config.cacheCheckInterval.nanos then
    .error (conflict "cache check interval" config.cacheCheckInterval "smaller" "cache refresh"
      config.cacheRefresh)
  else if config.cacheCheckInterval.isZero then
    .error (.configuration "cache check interval must not be zero")
  else if config.workers = 0 then .error (.configuration "at least one worker is needed")
  else if config.queryTimeout.isZero then
    .error (.configuration "query timeout must not be zero")
  else if config.breaker.errorThreshold = 0 ∨ config.breaker.successThreshold = 0 then
    .error (.configuration "breaker thresholds must not be zero")
  else .ok ()

end Configuration

end FlowEnrichment
