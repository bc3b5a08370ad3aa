import FlowEnrichment.Time

/-!
# Breakers

A breaker stands in front of the calls to one exporter. While it is closed every call passes and
failures that follow one another closely are counted; at a threshold it opens and rejects calls
for a time. After that time it is half open: one trial passes at a time, successful trials close
it and a failed one opens it again. The end of any call that passed is recorded in the state in
which it finds the breaker.
-/
namespace FlowEnrichment

/-- Thresholds and cool-down of a breaker. -/
structure BreakerConfig where
  /-- The number of failures that opens the breaker. -/
  errorThreshold : UInt32 := 20
  /-- The number of successful trials that closes a half-open breaker. -/
  successThreshold : UInt32 := 1
  /-- How long the breaker stays open, and how long a failure is remembered while it is closed. -/
  timeout : Duration := .seconds 60
  deriving DecidableEq, Repr, Inhabited

/-- What a breaker reports of itself. -/
inductive BreakerState where
  /-- Calls pass. -/
  | closed
  /-- Calls are rejected. -/
  | opened
  /-- Trials pass. -/
  | halfOpen
  deriving DecidableEq, Repr

/-- The name of a state. -/
def BreakerState.name : BreakerState → String
  | .closed => "Closed"
  | .opened => "Open"
  | .halfOpen => "HalfOpen"

/-- What a breaker knows. -/
inductive BreakerStatus where
  /-- The failures counted, and the last of them. -/
  | closed (failures : Nat) (lastFailure : Option Instant)
  /-- The end of the cool-down. -/
  | opened (deadline : Instant)
  /-- The successful trials, and whether a trial is running. -/
  | halfOpen (successes : Nat) (trialRunning : Bool)
  deriving DecidableEq, Repr

/-- A breaker. -/
structure Breaker where
  /-- Its thresholds. -/
  config : BreakerConfig
  /-- What it knows. -/
  status : BreakerStatus := .closed 0 none
  deriving DecidableEq, Repr

/-- A call that a breaker let pass. -/
structure BreakerCall where
  /-- Whether the call is a trial of a half-open breaker. -/
  trial : Bool
  deriving DecidableEq, Repr

namespace Breaker

/-- The state of a breaker; an open one whose cool-down is over is half open. -/
def state (breaker : Breaker) (now : Instant) : BreakerState :=
  match breaker.status with
  | .closed _ _ => .closed
  | .opened deadline => if now.nanos < deadline.nanos then .opened else .halfOpen
  | .halfOpen _ _ => .halfOpen

/-- Lets a call pass, or rejects it. -/
def enter (breaker : Breaker) (now : Instant) : Option (Breaker × BreakerCall) :=
  match breaker.status with
  | .closed _ _ => some (breaker, ⟨false⟩)
  | .opened deadline =>
    if now.nanos < deadline.nanos then none
    else some ({ breaker with status := .halfOpen 0 true }, ⟨true⟩)
  | .halfOpen successes trialRunning =>
    if trialRunning then none
    else some ({ breaker with status := .halfOpen successes true }, ⟨true⟩)

/-- A breaker after the end of a call, and whether the end of its cool-down is no instant, in
which case it did not open. -/
structure Recorded where
  /-- The breaker. -/
  breaker : Breaker
  /-- Whether the cool-down has no end. -/
  overflow : Bool := false
  deriving DecidableEq, Repr

/-- Opens the breaker for its cool-down. -/
def trip (breaker : Breaker) (now : Instant) : Recorded :=
  match now.add? breaker.config.timeout with
  | some deadline => { breaker := { breaker with status := .opened deadline } }
  | none => { breaker, overflow := true }

/-- The failures that still count when another one happens. -/
def remembered (breaker : Breaker) (now : Instant) (failures : Nat)
    (lastFailure : Option Instant) : Nat :=
  match lastFailure with
  | some last => if breaker.config.timeout.nanos < now.nanos - last.nanos then 0 else failures
  | none => failures

/-- Records the outcome of a call that passed. -/
def record (breaker : Breaker) (now : Instant) (success : Bool) : Recorded :=
  match breaker.status with
  | .closed failures lastFailure =>
    if success then { breaker := { breaker with status := .closed 0 none } }
    else
      let count := breaker.remembered now failures lastFailure + 1
      let counted := { breaker with status := .closed count (some now) }
      if breaker.config.errorThreshold.toNat ≤ count then counted.trip now
      else { breaker := counted }
  | .halfOpen successes _ =>
    if !success then breaker.trip now
    else if breaker.config.successThreshold.toNat ≤ successes + 1 then
      { breaker := { breaker with status := .closed 0 none } }
    else { breaker := { breaker with status := .halfOpen (successes + 1) false } }
  | .opened _ => { breaker }

/-- Gives up a trial that will not end. -/
def abandon (breaker : Breaker) (now : Instant) : Recorded :=
  match breaker.status with
  | .halfOpen _ _ => breaker.trip now
  | _ => { breaker }

/-- Drops a call that has not ended; only a trial is missed. -/
def drop (breaker : Breaker) (now : Instant) (call : BreakerCall) : Recorded :=
  if call.trial then breaker.abandon now else { breaker }

end Breaker

end FlowEnrichment
