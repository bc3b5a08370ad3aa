import FlowEnrichment.Engine

/-!
# Lookups and maintenance

What is asked of an engine from outside. A lookup never waits: a miss is queued for the
providers, or dropped if the queue is full, and a later lookup finds the answer. A maintenance
run removes the entries that nobody accessed and queues those that are due for a refresh.
-/
namespace FlowEnrichment.Engine

/-- Queues a request, and tells whether it was accepted. Nothing is accepted once the engine is
stopped, and a full queue counts what it turns away. While the engine is being stopped a request is
still accepted, but nobody takes it. -/
def enqueue (engine : Engine) (query : Query) : Engine × Bool :=
  if engine.phase = .stopped then (engine, false)
  else if engine.queue.length < engine.config.queueCapacity then
    ({ engine with queue := engine.queue ++ [query] }, true)
  else
    (engine.count fun totals => { totals with busy := totals.busy.bump query.exporter }, false)

/-- Queues requests in order, and tells how many were accepted. -/
def enqueueAll : List Query → Engine → Engine × Nat
  | [], engine => (engine, 0)
  | query :: rest, engine =>
    let (engine, accepted) := engine.enqueue query
    let (engine, others) := enqueueAll rest engine
    (engine, (if accepted then 1 else 0) + others)

/-- Looks a query up in the cache and queues it if it is not there. -/
def lookup (engine : Engine) (now : Timestamp) (query : Query) : Engine × Option Answer :=
  match engine.cache.lookup now query with
  | (cache, some answer) => ({ engine with cache }, some answer)
  | (cache, none) => (({ engine with cache }.enqueue query).1, none)

/-- Looks queries up in order, and tells how many were found. -/
def lookupAll (now : Timestamp) : List Query → Engine → Engine × Nat
  | [], engine => (engine, 0)
  | query :: rest, engine =>
    let (engine, answer) := engine.lookup now query
    let (engine, others) := lookupAll now rest engine
    (engine, (if answer.isSome then 1 else 0) + others)

/-- What a maintenance run did. -/
structure MaintenanceReport where
  /-- The entries that were removed. -/
  expired : Nat
  /-- The entries that were queued for a refresh. -/
  refreshed : Nat
  deriving DecidableEq, Repr

/-- The time that lies an age before another one, or the epoch if there is none. -/
def since (now : Timestamp) (age : Duration) : Timestamp := (now.sub? age).getD .epoch

/-- Removes the entries that expired. -/
def expire (engine : Engine) (now : Timestamp) : Engine × Nat :=
  let (cache, expired) := engine.cache.expire (since now engine.config.cacheDuration)
  let engine := { engine with cache }
  (if expired = 0 then engine else engine.log (.expired expired), expired)

/-- Queues the entries that are due for a refresh. -/
def refresh (engine : Engine) (now : Timestamp) : Engine × Nat :=
  let counted := engine.count fun totals => { totals with refreshRuns := totals.refreshRuns + 1 }
  let due := engine.cache.needUpdates (since now engine.config.cacheRefresh)
  let (engine, refreshed) := enqueueAll (Cache.planQueries due) counted
  if refreshed = 0 then (engine, 0)
  else
    let engine := engine.count fun totals =>
      { totals with refreshed := totals.refreshed + refreshed }
    (engine.log (.requeued refreshed), refreshed)

/-- Runs maintenance once. -/
def maintain (engine : Engine) (now : Timestamp) : Engine × MaintenanceReport :=
  let (engine, expired) := engine.expire now
  if engine.config.refreshes then
    let (engine, refreshed) := engine.refresh now
    (engine, ⟨expired, refreshed⟩)
  else (engine, ⟨expired, 0⟩)

end FlowEnrichment.Engine
