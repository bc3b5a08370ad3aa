import FlowEnrichment.Query
import FlowEnrichment.Store.Snapshot

/-!
# Caches of answers

A cache keeps the answer to each query and counts what happens to it. Entries that nobody
accesses expire; entries whose answers grow old are due for another update, also when they are
still accessed.
-/
namespace FlowEnrichment

/-- What a cache counts. -/
structure CacheCounters where
  /-- Lookups that were answered. -/
  hits : Nat := 0
  /-- Lookups that were not answered. -/
  misses : Nat := 0
  /-- Entries removed because nobody accessed them. -/
  expired : Nat := 0
  /-- The number of entries, as last measured. -/
  size : Nat := 0
  deriving DecidableEq, Repr, Inhabited

/-- Answers by query. -/
structure Cache where
  /-- The answers. -/
  store : Store Query Answer := .empty
  /-- What was counted. -/
  counters : CacheCounters := {}

/-- The interfaces that are due for an update, by exporter and by index in ascending order. -/
abbrev RefreshPlan := List (Address × List (UInt32 × Interface))

namespace Cache

/-- How queries and answers are written and read. -/
def format : EntryFormat Query Answer :=
  ⟨Query.toJson, Query.decoder, Answer.toJson, Answer.decoder⟩

/-- A cache without entries that goes on counting. -/
def fresh (counters : CacheCounters) : Cache := ⟨.empty, { counters with size := 0 }⟩

instance : Inhabited Cache := ⟨fresh {}⟩

/-- The number of entries. -/
def size (cache : Cache) : Nat := cache.store.size

/-- The cache with a store, whose size is measured. -/
def measured (cache : Cache) (store : Store Query Answer) : Cache :=
  ⟨store, { cache.counters with size := store.size }⟩

/-- Looks a query up and marks it as accessed. A miss makes no entry. -/
def lookup (cache : Cache) (now : Timestamp) (query : Query) : Cache × Option Answer :=
  match cache.store.get now query with
  | (store, some answer) =>
    (⟨store, { cache.counters with hits := cache.counters.hits + 1 }⟩, some answer)
  | (store, none) =>
    (⟨store, { cache.counters with misses := cache.counters.misses + 1 }⟩, none)

/-- Stores the answer to a query in place of the one before. -/
def put (cache : Cache) (now : Timestamp) (query : Query) (answer : Answer) : Cache :=
  cache.measured (cache.store.put now query answer)

/-- Removes the entries that were last accessed before a time, and reports their number. -/
def expire (cache : Cache) (before : Timestamp) : Cache × Nat :=
  let (store, removed) := cache.store.deleteAccessedBefore before
  let counted := { cache.counters with expired := cache.counters.expired + removed }
  (Cache.measured ⟨cache.store, counted⟩ store, removed)

/-- Gathers queries in ascending order by their exporters. -/
def groupByExporter : List (Query × Interface) → RefreshPlan
  | [] => []
  | (query, interface) :: rest =>
    match groupByExporter rest with
    | (exporter, interfaces) :: others =>
      if exporter = query.exporter then (exporter, (query.index, interface) :: interfaces) :: others
      else (query.exporter, [(query.index, interface)]) :: (exporter, interfaces) :: others
    | [] => [(query.exporter, [(query.index, interface)])]

/-- The interfaces that were last updated before a time. -/
def needUpdates (cache : Cache) (before : Timestamp) : RefreshPlan :=
  let due := (cache.store.updatedBefore before).mergeSort fun a b => Query.le a.1 b.1
  groupByExporter (due.map fun (query, answer) => (query, answer.interface))

/-- The queries of a plan, in order. -/
def planQueries (plan : RefreshPlan) : List Query :=
  plan.flatMap fun (exporter, interfaces) => interfaces.map fun (index, _) => ⟨exporter, index⟩

/-- The entries in ascending order of their queries. -/
def entries (cache : Cache) : List (StoreEntry Query Answer) := cache.store.sorted Query.le

/-- Saves the cache as a snapshot. -/
def save (cache : Cache) (files : FileTree) (path : String) : FileTree × Except Failure Unit :=
  cache.store.save format files path

/-- Replaces the entries by those of a snapshot; a failure changes nothing. -/
def load (cache : Cache) (files : FileTree) (path : String) : Cache × Except Failure Unit :=
  match Store.load format files path with
  | .ok store => (cache.measured store, .ok ())
  | .error failure => (cache, .error failure)

end Cache

end FlowEnrichment
