import FlowEnrichment.Address.Text
import FlowEnrichment.Failure
import FlowEnrichment.Text.Quoted

/-!
# Events

What an engine tells about itself while it runs, as it happens. An event has a level, a fixed
message and fields; the fields are texts, in the order in which they are written.
-/
namespace FlowEnrichment

/-- How much an event matters. -/
inductive EventLevel where
  /-- Of use when something is looked for. -/
  | debug
  /-- Worth knowing. -/
  | info
  /-- Something went wrong. -/
  | warn
  deriving DecidableEq, Repr

/-- The name of a level. -/
def EventLevel.name : EventLevel → String
  | .debug => "DEBUG"
  | .info => "INFO"
  | .warn => "WARN"

/-- Something that happened to an engine. -/
inductive Event where
  /-- It started. -/
  | started (providers : List String) (workers entries : Nat)
  /-- It stopped. -/
  | stopped
  /-- A task of it had crashed. -/
  | taskCrashed
  /-- The snapshot was loaded. -/
  | cacheLoaded (path : String) (entries : Nat)
  /-- There was no snapshot. -/
  | cacheAbsent (path : String)
  /-- The snapshot could not be loaded. -/
  | cacheNotLoaded (path : String) (failure : Failure)
  /-- The snapshot was saved. -/
  | cacheSaved (path : String) (entries : Nat)
  /-- The snapshot could not be saved. -/
  | cacheNotSaved (path : String) (failure : Failure)
  /-- Entries expired. -/
  | expired (count : Nat)
  /-- Entries were queued for a refresh. -/
  | requeued (count : Nat)
  /-- A provider left interfaces to the next one. -/
  | skipped (exporter : Address) (provider : String) (count : Nat)
  /-- A breaker rejected a batch. -/
  | rejected (exporter : Address)
  /-- A query was given up because the engine stops. -/
  | cancelled (exporter : Address)
  /-- A query failed. -/
  | failed (exporter : Address) (count : Nat) (failure : Failure)
  deriving DecidableEq, Repr

namespace Event

/-- The level of an event. -/
def level : Event → EventLevel
  | .started .. | .stopped | .cacheLoaded .. => .info
  | .taskCrashed | .cacheNotLoaded .. | .cacheNotSaved .. | .rejected .. => .warn
  | .cacheAbsent .. | .cacheSaved .. | .expired .. | .requeued .. | .skipped .. | .cancelled ..
  | .failed .. => .debug

/-- The message of an event. -/
def message : Event → String
  | .started .. => "metadata component started"
  | .stopped => "metadata component stopped"
  | .taskCrashed => "metadata task failed"
  | .cacheLoaded .. => "cache loaded"
  | .cacheAbsent .. => "no cache to load"
  | .cacheNotLoaded .. => "unable to load cache"
  | .cacheSaved .. => "cache saved"
  | .cacheNotSaved .. => "unable to save cache"
  | .expired .. => "expired cache entries"
  | .requeued .. => "queued cache entries for refresh"
  | .skipped .. => "provider skipped queries"
  | .rejected .. => "provider breaker open"
  | .cancelled .. => "provider query cancelled"
  | .failed .. => "provider query failed"

/-- The fields of an event. -/
def fields : Event → List (String × String)
  | .started providers workers entries =>
    [("providers", Text.quotedList providers), ("workers", toString workers),
      ("entries", toString entries)]
  | .stopped | .taskCrashed => []
  | .cacheLoaded path entries | .cacheSaved path entries =>
    [("path", path), ("entries", toString entries)]
  | .cacheAbsent path => [("path", path)]
  | .cacheNotLoaded path failure | .cacheNotSaved path failure =>
    [("path", path), ("error", failure.message)]
  | .expired count | .requeued count => [("count", toString count)]
  | .skipped exporter provider count =>
    [("exporter", exporter.shown.text), ("provider", Text.quoted provider),
      ("count", toString count)]
  | .rejected exporter | .cancelled exporter => [("exporter", exporter.shown.text)]
  | .failed exporter count failure =>
    [("exporter", exporter.shown.text), ("count", toString count), ("error", failure.message)]

end Event

end FlowEnrichment
