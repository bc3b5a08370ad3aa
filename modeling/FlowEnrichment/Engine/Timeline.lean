import FlowEnrichment.Engine.Action

/-!
# Engines in time

Time stands still while there is anything to do and then moves on to the next timer, in ticks of
a millisecond. Timers that fire together with the end of a stretch of time are served in the
next stretch.
-/
namespace FlowEnrichment.Engine

/-- The timers that are set. -/
def timers (engine : Engine) : List Instant :=
  let ofJob (job : Job) : List Instant :=
    match job.wait with
    | .until time => [job.deadline, time]
    | _ => [job.deadline]
  let ofMaintenance :=
    match engine.maintenance with
    | .ticking deadline => [deadline]
    | _ => []
  if engine.phase = .running then
    engine.jobs.flatMap ofJob ++ engine.reports.map (·.1) ++ ofMaintenance
  else []

/-- The tick at which the next timer fires. -/
def nextTimer? (engine : Engine) : Option Nat :=
  ((engine.timers.map Instant.dueTick).filter (engine.around.tick < ·)).min?

/-- The engine at a tick that is not before the present time, when the timers have fired. -/
def advanceTo (engine : Engine) (tick : Nat) : Engine :=
  let wait : Duration := ⟨(tick - engine.now.lastTick) * Instant.tickNanos⟩
  { engine with around := (engine.around.later wait).fireTimers }

/-- Lets time go on to a tick, in a number of stretches. -/
def runTo (target : Nat) : Nat → Engine → Engine
  | 0, engine => engine
  | fuel + 1, engine =>
    let engine := engine.settle
    match engine.nextTimer? with
    | some tick =>
      if tick < target then runTo target fuel (engine.advanceTo tick)
      else engine.advanceTo target
    | none => engine.advanceTo target

/-- Lets time go on for a duration. -/
def sleep (engine : Engine) (duration : Duration) : Engine :=
  let target := (engine.now.addOrFar duration).dueTick
  engine.runTo target (target - engine.around.tick)

/-- Moves the time on at once and then lets it go on for a tick. What could be done before is done
first, at the new time; every timer on the way fires late. -/
def jump (engine : Engine) (duration : Duration) : Engine :=
  let engine := { engine with around := engine.around.later duration }.settle
  { engine with around := engine.around.fireTimers }.sleep ⟨Instant.tickNanos⟩

end FlowEnrichment.Engine
