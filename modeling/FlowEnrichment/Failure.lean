import FlowEnrichment.FileTree
import FlowEnrichment.Json.Draft

/-!
# Failures

The causes for which an operation of this library fails, and their wording.
-/
namespace FlowEnrichment

/-- Why a component cannot be started. -/
inductive LifecycleFault where
  /-- It was started before. -/
  | alreadyStarted
  /-- It was stopped before. -/
  | alreadyStopped
  deriving DecidableEq, Repr

/-- Why an operation fails. -/
inductive Failure where
  /-- Settings or parameters are not acceptable. -/
  | configuration (reason : String)
  /-- No provider is registered under the name. -/
  | unknownProvider (name : String)
  /-- The component is in a state that does not allow the operation. -/
  | invalidState (fault : LifecycleFault)
  /-- A provider failed. -/
  | provider (reason : String)
  /-- A provider leaves interface indexes to the next provider. -/
  | skipProvider (indexes : List UInt32)
  /-- A provider did not answer in time. -/
  | queryTimeout
  /-- A query was cancelled because the component stops. -/
  | cancelled
  /-- The breaker of the exporter rejected the call. -/
  | breakerOpen
  /-- There is no snapshot at the path. -/
  | cacheNotFound (path : String)
  /-- The snapshot has another format version. -/
  | cacheVersion (found expected : UInt32)
  /-- A document is refused. -/
  | document (fault : Json.Fault)
  /-- A file operation failed. -/
  | file (fault : FileFault)
  deriving DecidableEq, Repr

/-- The wording of a life cycle fault. -/
def LifecycleFault.message : LifecycleFault → String
  | .alreadyStarted => "already started"
  | .alreadyStopped => "already stopped"

namespace Failure

/-- The wording of a failure. -/
def message : Failure → String
  | .configuration reason => "configuration error: " ++ reason
  | .unknownProvider name => "unknown provider: " ++ name
  | .invalidState fault => "invalid state: " ++ fault.message
  | .provider reason => "provider error: " ++ reason
  | .skipProvider indexes => s!"provider skipped {indexes.length} queries"
  | .queryTimeout => "provider query timeout"
  | .cancelled => "query cancelled by shutdown"
  | .breakerOpen => "provider breaker open"
  | .cacheNotFound path => "cache file not found: " ++ path
  | .cacheVersion found expected =>
    s!"cache version mismatch (found {found}, expected {expected})"
  | .document _ => "JSON error"
  | .file fault => "I/O error: " ++ fault.message

/-- Whether there merely is no snapshot yet, which is a cold start and no failure of it. -/
def isNotFound : Failure → Bool
  | .cacheNotFound _ => true
  | _ => false

end Failure

end FlowEnrichment
