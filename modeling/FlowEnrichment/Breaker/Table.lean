import FlowEnrichment.Address
import FlowEnrichment.Breaker

/-!
# Breakers of many exporters

A table makes the breaker of an exporter when it is first needed and never forgets it. A session
runs calls through a table while time goes on: calls are known by labels and end, succeed, fail
or are dropped in any order.
-/
namespace FlowEnrichment

/-- Breakers by exporter. -/
structure BreakerTable where
  /-- The thresholds of every breaker. -/
  config : BreakerConfig
  /-- The breakers made so far. -/
  breakers : List (Address × Breaker) := []
  deriving Repr

namespace BreakerTable

/-- The breaker of an exporter, if it was made. -/
def find? (table : BreakerTable) (exporter : Address) : Option Breaker :=
  table.breakers.lookup exporter

/-- The breaker of an exporter, a closed one if it was not made. -/
def get (table : BreakerTable) (exporter : Address) : Breaker :=
  (table.find? exporter).getD { config := table.config }

/-- Puts the breaker of an exporter in its place. -/
def put (exporter : Address) (breaker : Breaker) :
    List (Address × Breaker) → List (Address × Breaker)
  | [] => [(exporter, breaker)]
  | (key, old) :: rest =>
    if key = exporter then (key, breaker) :: rest else (key, old) :: put exporter breaker rest

/-- The table with the breaker of an exporter. -/
def set (table : BreakerTable) (exporter : Address) (breaker : Breaker) : BreakerTable :=
  { table with breakers := put exporter breaker table.breakers }

/-- The table after the breaker of an exporter was needed. -/
def ensure (table : BreakerTable) (exporter : Address) : BreakerTable :=
  table.set exporter (table.get exporter)

/-- The number of breakers made. -/
def size (table : BreakerTable) : Nat := table.breakers.length

/-- A table whose breaker of an exporter recorded the end of a call. -/
structure Recorded where
  /-- The table. -/
  table : BreakerTable
  /-- Whether the cool-down has no end. -/
  overflow : Bool
  deriving Repr

/-- Puts what a breaker recorded into the table. -/
def settle (table : BreakerTable) (exporter : Address) (recorded : Breaker.Recorded) : Recorded :=
  ⟨table.set exporter recorded.breaker, recorded.overflow⟩

/-- Lets a call to an exporter pass, or rejects it; its breaker is made in either case. -/
def enter (table : BreakerTable) (exporter : Address) (now : Instant) :
    BreakerTable × Option BreakerCall :=
  match (table.get exporter).enter now with
  | some (breaker, call) => (table.set exporter breaker, some call)
  | none => (table.ensure exporter, none)

/-- Records the outcome of a call to an exporter. -/
def record (table : BreakerTable) (exporter : Address) (now : Instant) (success : Bool) :
    Recorded :=
  table.settle exporter ((table.get exporter).record now success)

/-- Drops a call to an exporter that has not ended. -/
def drop (table : BreakerTable) (exporter : Address) (now : Instant) (call : BreakerCall) :
    Recorded :=
  table.settle exporter ((table.get exporter).drop now call)

/-! ## Sessions -/

/-- A table, the time and the calls that have not ended. -/
structure Session where
  /-- The breakers. -/
  table : BreakerTable
  /-- The time. -/
  now : Instant := .start
  /-- The unfinished calls by label, each with its exporter. -/
  calls : List (String × Address × BreakerCall) := []
  deriving Repr

/-- What happens to a call. -/
inductive CallResult where
  /-- It was rejected. -/
  | rejected
  /-- It passed and goes on. -/
  | running
  /-- It ended, successfully or not. -/
  | ended (success : Bool)
  /-- It was dropped. -/
  | dropped
  /-- There is no such call. -/
  | unknown
  /-- It ended, and the end of the cool-down is no instant. -/
  | overflow
  deriving DecidableEq, Repr

namespace Session

/-- Lets time pass. -/
def advance (session : Session) (by_ : Duration) : Session :=
  { session with now := ⟨session.now.nanos + by_.nanos⟩ }

/-- Runs a call that ends at once. -/
def run (session : Session) (exporter : Address) (success : Bool) : Session × CallResult :=
  match session.table.enter exporter session.now with
  | (table, none) => ({ session with table }, .rejected)
  | (table, some _) =>
    let recorded := table.record exporter session.now success
    ({ session with table := recorded.table },
      if recorded.overflow then .overflow else .ended success)

/-- Runs calls that end at once one after the other, up to one whose cool-down has no end. -/
def runMany (exporter : Address) (success : Bool) : Nat → Session → Session × List CallResult
  | 0, session => (session, [])
  | count + 1, session =>
    match session.run exporter success with
    | (session, .overflow) => (session, [.overflow])
    | (session, result) =>
      let (session, results) := runMany exporter success count session
      (session, result :: results)

/-- The session without a call. -/
def forget (session : Session) (label : String) : Session :=
  { session with calls := session.calls.filter (·.1 ≠ label) }

/-- Drops a call. -/
def drop (session : Session) (label : String) : Session × CallResult :=
  match session.calls.lookup label with
  | none => (session, .unknown)
  | some (exporter, call) =>
    let recorded := session.table.drop exporter session.now call
    ({ session.forget label with table := recorded.table },
      if recorded.overflow then .overflow else .dropped)

/-- Starts a call that goes on; a call of the same label is dropped. -/
def start (session : Session) (label : String) (exporter : Address) : Session × CallResult :=
  match session.table.enter exporter session.now with
  | (table, none) => ({ session with table }, .rejected)
  | (table, some call) =>
    let (session, _) := { session with table }.drop label
    ({ session with calls := (label, exporter, call) :: session.calls }, .running)

/-- Ends a call. -/
def finish (session : Session) (label : String) (success : Bool) : Session × CallResult :=
  match session.calls.lookup label with
  | none => (session, .unknown)
  | some (exporter, _) =>
    let recorded := session.table.record exporter session.now success
    ({ session.forget label with table := recorded.table },
      if recorded.overflow then .overflow else .ended success)

end Session

end BreakerTable

end FlowEnrichment
