import FlowEnrichment.CommandLine.Command
import FlowEnrichment.Engine.Lifecycle
import FlowEnrichment.Engine.Timeline
import FlowEnrichment.Settings.File
import FlowEnrichment.Version

/-!
# Runs of the program

What the program prints and leaves behind. A lookup asks the engine again and again until every
query is answered or the wait is over; each query is answered on the standard output or reported
on the standard error once, in the order in which they were given.
-/
namespace FlowEnrichment.CommandLine

open Json (Value)

/-- What a run of the program finds around it. -/
structure Host where
  /-- The files. -/
  files : FileTree := {}
  /-- The home directory. -/
  home : Option String := none
  /-- The settings file that the environment names. -/
  config : Option String := none
  /-- The wall clock. -/
  clock : Timestamp := .epoch

/-- What a run of the program prints and leaves behind. -/
structure Outcome where
  /-- The exit code. -/
  code : Nat := 0
  /-- The lines on the standard output. -/
  output : List String := []
  /-- The lines on the standard error. -/
  errors : List String := []
  /-- The files. -/
  files : FileTree
  /-- When the last line was printed, on the clock of the engine if there was one. -/
  ended : Instant := .start

namespace Outcome

/-- A run that fails. -/
def failure (files : FileTree) (code : Nat) (line : String) : Outcome :=
  { code, errors := ["error: " ++ line], files }

/-- The run that a computation describes, unless it fails. -/
def ofExcept (files : FileTree) : Except Failure Outcome → Outcome
  | .ok outcome => outcome
  | .error reason => failure files 1 reason.message

end Outcome

/-! ## Checking settings -/

/-- Checks settings and prints them with a summary. -/
def check (host : Host) (config : Option String) : Except Failure Outcome := do
  let settings ← Settings.load host.files host.home config
  let configuration ← settings.configuration
  let plans ← settings.plans .builtin
  let names := " > ".intercalate (plans.map (·.name))
  let summary :=
    s!"configuration ok: providers {names}, {configuration.workers.toNat} worker(s), " ++
      s!"queue of {configuration.queueCapacity}"
  return { output := settings.toJson.pretty.splitOn "\n" ++ [summary], files := host.files }

/-! ## Lookups -/

/-- The line for an answered query. -/
def answerLine (query : Query) (answer : Answer) : String :=
  (Value.object
    [ ("exporter", .string query.exporter.shown.text),
      ("if_index", .nat query.index.toNat),
      ("answer", answer.toJson) ]).sorted.compact

/-- The line for a query without an answer. -/
def missingLine (query : Query) : String := query.text ++ ": no answer"

/-- Looks queries up once, and tells the lines of the answered ones and the other queries. -/
def lookupRound : List Query → Engine → Engine × List String × List Query
  | [], engine => (engine, [], [])
  | query :: rest, engine =>
    let (engine, answer) := engine.lookup engine.around.clock query
    let (engine, lines, missing) := lookupRound rest engine
    match answer with
    | some answer => (engine, answerLine query answer :: lines, missing)
    | none => (engine, lines, query :: missing)

/-- The time between two rounds. -/
def pollInterval : Duration := .millis 50

/-- Lets the time between two rounds go by, on the wall clock as well. -/
def pause (engine : Engine) : Engine :=
  let engine := engine.sleep pollInterval
  let clock := (engine.around.clock.add? pollInterval).getD engine.around.clock
  { engine with around := { engine.around with clock } }

/-- Looks queries up in rounds until all are answered or the deadline has passed. -/
def lookupRounds (deadline : Instant) :
    Nat → List Query → Engine → Engine × List String × List Query
  | 0, pending, engine => lookupRound pending engine
  | rounds + 1, pending, engine =>
    let (engine, lines, missing) := lookupRound pending engine
    if missing.isEmpty || deadline.nanos ≤ engine.now.nanos then (engine, lines, missing)
    else
      let (engine, others, missing) := lookupRounds deadline rounds missing (pause engine)
      (engine, lines ++ others, missing)

/-- The number of rounds after the first that a wait leaves time for. -/
def roundsWithin (wait : Duration) : Nat :=
  (wait.nanos + pollInterval.nanos - 1) / pollInterval.nanos

/-- Looks queries up with an engine for the settings. -/
def lookup (host : Host) (config : Option String) (wait : Duration) (queries : List Query) :
    Except Failure Outcome := do
  let settings ← Settings.load host.files host.home config
  let configuration ← settings.configuration
  let plans ← settings.plans .builtin
  match Engine.build configuration plans {} { clock := host.clock, files := host.files } with
  | .error (.refused failure) => .error failure
  | .error .queueTooLarge =>
    return { code := 101, errors := ["the request queue is too large"], files := host.files }
  | .ok engine =>
    let (engine, started) := engine.start
    started
    let deadline : Instant := ⟨engine.now.nanos + wait.nanos⟩
    let (engine, output, missing) := lookupRounds deadline (roundsWithin wait) queries engine
    return {
      output, errors := missing.map missingLine
      files := engine.stop.around.files
      ended := engine.now }

/-! ## Snapshots -/

/-- The whole seconds of a clock of a store. -/
def wholeSeconds (clock : UInt64) : Nat := clock.toNat / nanosPerSecond

/-- The line for an entry of a snapshot. -/
def entryLine (entry : StoreEntry Query Answer) : String :=
  (Value.object
    [ ("exporter", .string entry.key.exporter.shown.text),
      ("if_index", .nat entry.key.index.toNat),
      ("answer", entry.value.toJson),
      ("last_access", .nat (wholeSeconds entry.lastAccess)),
      ("last_update", .nat (wholeSeconds entry.lastUpdate)) ]).sorted.compact

/-- Prints the entries of a snapshot in ascending order. -/
def cacheDump (host : Host) (path : String) : Except Failure Outcome := do
  let (cache, loaded) := Cache.load default host.files path
  loaded
  return { output := cache.entries.map entryLine, files := host.files }

/-! ## The program -/

/-- Does what the program is asked to do. -/
def Command.run (host : Host) : Command → Except Failure Outcome
  | .print lines => .ok { output := lines, files := host.files }
  | .check config => CommandLine.check host config
  | .lookup config wait queries => CommandLine.lookup host config wait queries
  | .cacheDump path => CommandLine.cacheDump host path

/-- The files that a command may have to read before anything else. -/
def Command.inputs (host : Host) : Command → List String
  | .print _ => []
  | .check config | .lookup config _ _ =>
    match config with
    | some path => [path]
    | none => Settings.standardFiles host.home
  | .cacheDump path => [path]

/-- The snapshot that a command loads at its start and saves at its end. -/
def Command.snapshot? (host : Host) : Command → Option String
  | .lookup config _ _ => do
    (← (Settings.load host.files host.home config).toOption).metadata.cachePersistFile
  | _ => none

/-- Runs the program on its arguments. -/
def run (host : Host) (arguments : List String) : Outcome :=
  let identity := BuildIdentity.current
  match Command.read identity.package identity.text host.config arguments with
  | .ok command => .ofExcept host.files (command.run host)
  | .error .noCommand => { code := 2, errors := Help.program, files := host.files }
  | .error (.rejected rejection) => .failure host.files 2 rejection.message

end FlowEnrichment.CommandLine
