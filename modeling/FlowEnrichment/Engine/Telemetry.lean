import FlowEnrichment.Address.Text
import FlowEnrichment.Cache

/-!
# Telemetry

The totals that an engine keeps, and the names under which they are shown. Totals only grow;
those that are kept for every exporter carry its address. The number of cache entries is not a
total, but what was last measured.
-/
namespace FlowEnrichment

/-- Totals by exporter, in the order in which the exporters came. -/
abbrev ExporterTotals := List (Address × Nat)

/-- The total of an exporter. -/
def ExporterTotals.of (totals : ExporterTotals) (exporter : Address) : Nat :=
  (totals.lookup exporter).getD 0

/-- The totals with one more for an exporter. -/
def ExporterTotals.bump (exporter : Address) : ExporterTotals → ExporterTotals
  | [] => [(exporter, 1)]
  | (key, total) :: rest =>
    if key = exporter then (key, total + 1) :: rest else (key, total) :: bump exporter rest

/-- The totals of an engine that are not those of its cache. -/
structure EngineTotals where
  /-- The maintenance runs that looked for entries to refresh. -/
  refreshRuns : Nat := 0
  /-- The entries that were queued for a refresh. -/
  refreshed : Nat := 0
  /-- The indexes that were sent in batches of more than one. -/
  batched : Nat := 0
  /-- The batches for which providers were asked. -/
  requests : Nat := 0
  /-- The batches whose query failed or timed out. -/
  errors : Nat := 0
  /-- The requests that were dropped because the queue was full. -/
  busy : ExporterTotals := []
  /-- The batches that a breaker rejected. -/
  rejected : ExporterTotals := []
  deriving DecidableEq, Repr, Inhabited

namespace Telemetry

/-- The name of a total of an exporter. -/
def labelledName (name : String) (exporter : Address) : String :=
  name ++ "\x7bexporter=" ++ exporter.shown.text ++ "\x7d"

/-- The totals by name that are not zero. -/
def shownTotals (totals : List (String × Nat)) : List (String × Nat) := totals.filter (·.2 ≠ 0)

/-- The measurements of a cache by name. -/
def cacheMetrics (counters : CacheCounters) : List (String × Nat) :=
  shownTotals
    [ ("flowmeta_cache_hits_total", counters.hits),
      ("flowmeta_cache_misses_total", counters.misses),
      ("flowmeta_cache_expired_entries_total", counters.expired) ] ++
  [("flowmeta_cache_size_entries", counters.size)]

/-- The totals of an engine by name. -/
def engineMetrics (totals : EngineTotals) : List (String × Nat) :=
  shownTotals <|
    [ ("flowmeta_cache_refresh_runs_total", totals.refreshRuns),
      ("flowmeta_cache_refresh_total", totals.refreshed),
      ("flowmeta_provider_batched_count", totals.batched),
      ("flowmeta_provider_requests_total", totals.requests),
      ("flowmeta_provider_errors_total", totals.errors) ] ++
    totals.busy.map (fun (exporter, total) =>
      (labelledName "flowmeta_provider_busy_count" exporter, total)) ++
    totals.rejected.map (fun (exporter, total) =>
      (labelledName "flowmeta_provider_breaker_open_count" exporter, total))

end Telemetry

end FlowEnrichment
