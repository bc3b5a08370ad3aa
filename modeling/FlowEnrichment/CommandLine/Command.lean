import FlowEnrichment.CommandLine.Arguments
import FlowEnrichment.CommandLine.Help
import FlowEnrichment.Query
import FlowEnrichment.Text.Quoted
import FlowEnrichment.Time

/-!
# Commands

What the program can be asked to do, and how its arguments say so. A query is written as an
exporter and an index after the last colon; the exporter may stand in brackets.
-/
namespace FlowEnrichment.CommandLine

/-! ## Queries -/

/-- Splits a text at its last colon. -/
def splitLastColon : List Char → Option (List Char × List Char)
  | [] => none
  | c :: rest =>
    match splitLastColon rest with
    | some (before, after) => some (c :: before, after)
    | none => if c = ':' then some ([], rest) else none

/-- An exporter without the brackets around it. -/
def stripBrackets (text : List Char) : List Char :=
  ((text.dropWhile (· = '[')).reverse.dropWhile (· = ']')).reverse

/-- The query that a text is, or the reason why it is none. -/
def parseQuery (text : String) : Except String Query :=
  match splitLastColon text.toList with
  | none => .error ("expected EXPORTER:IFINDEX, got " ++ Text.quoted text)
  | some (before, after) =>
    let exporter := stripBrackets before
    match IpAddress.parse? exporter with
    | none =>
      .error ("invalid exporter " ++ Text.quoted (String.ofList exporter) ++ ": " ++
        IpAddress.refusal)
    | some address =>
      match Decimal.parse (UInt32.size - 1) after with
      | .error fault =>
        .error ("invalid interface index " ++ Text.quoted (String.ofList after) ++ ": " ++
          fault.message)
      | .ok index => .ok (.of address (UInt32.ofNat index))

/-! ## Commands -/

/-- What the program is asked to do. -/
inductive Command where
  /-- To print texts and do nothing else. -/
  | print (lines : List String)
  /-- To check settings. -/
  | check (config : Option String)
  /-- To look queries up, waiting for answers. -/
  | lookup (config : Option String) (wait : Duration) (queries : List Query)
  /-- To print the content of a snapshot. -/
  | cacheDump (path : String)
  deriving Repr

/-- Why there is nothing to do. -/
inductive Refusal where
  /-- No command was given. -/
  | noCommand
  /-- The arguments are refused. -/
  | rejected (rejection : Rejection)
  deriving DecidableEq, Repr

/-- Reads a path, which must not be empty. -/
def readPath (text : String) : Except ValueFault String :=
  if text.isEmpty then .error .missing else .ok text

/-- What was gathered of the arguments of a command. -/
structure Gathered where
  /-- The settings file. -/
  config : Option String := none
  /-- The time to wait. -/
  wait : Option Nat := none
  /-- The queries. -/
  queries : List Query := []
  /-- The snapshot. -/
  path : Option String := none

namespace Gathered

/-- The place for the settings file. -/
def configSlot : Slot Gathered where
  label := "--config <CONFIG>"
  isSet := (·.config.isSome)
  read gathered text := do return { gathered with config := some (← readPath text) }

/-- The option for the settings file. -/
def configRule : OptionRule Gathered := ⟨"config", 'c', configSlot⟩

/-- The option for the time to wait, in milliseconds. -/
def waitRule : OptionRule Gathered where
  long := "wait-ms"
  letter := 'w'
  slot :=
    { label := "--wait-ms <WAIT_MS>"
      isSet := (·.wait.isSome)
      read := fun gathered text =>
        match Decimal.parse (UInt64.size - 1) text.toList with
        | .ok wait => .ok { gathered with wait := some wait }
        | .error fault => .error (.refused fault.message) }

/-- The place for queries. -/
def queriesSlot : Slot Gathered where
  label := "<QUERIES>..."
  many := true
  isSet := fun gathered => !gathered.queries.isEmpty
  read gathered text :=
    match parseQuery text with
    | .ok query => .ok { gathered with queries := gathered.queries ++ [query] }
    | .error reason => .error (.refused reason)

/-- The place for the snapshot. -/
def pathSlot : Slot Gathered where
  label := "<PATH>"
  isSet := (·.path.isSome)
  read gathered text := do return { gathered with path := some (← readPath text) }

/-- The settings file that the environment names stands in for one that was not given. -/
def withEnvironment (gathered : Gathered) (config : Option String) : Except Interruption Gathered :=
  match gathered.config, config with
  | none, some path => Reading.fill configSlot [path] gathered
  | _, _ => .ok gathered

end Gathered

/-- The time to wait for answers unless it is given, in milliseconds. -/
def defaultWait : Nat := 2000

/-- A command of the program. -/
structure CommandRule where
  /-- Its name. -/
  name : String
  /-- The arguments that it takes. -/
  grammar : Grammar Gathered
  /-- The command for what was gathered, the environment naming a settings file. -/
  build : Gathered → Option String → Except Interruption Command
  /-- Its help. -/
  help : Option String → List String

/-- The commands of the program; the lines tell its identity. -/
def commandRules (identity : List String) : List CommandRule :=
  [ { name := "check"
      grammar := { options := [Gathered.configRule] }
      build := fun gathered config => do
        return .check (← gathered.withEnvironment config).config
      help := Help.check },
    { name := "lookup"
      grammar :=
        { options := [Gathered.configRule, Gathered.waitRule]
          positional := some Gathered.queriesSlot }
      build := fun gathered config => do
        let gathered ← gathered.withEnvironment config
        if gathered.queries.isEmpty then Reading.reject .missingArguments
        return .lookup gathered.config (.millis (gathered.wait.getD defaultWait)) gathered.queries
      help := Help.lookup },
    { name := "cache-dump"
      grammar := { positional := some Gathered.pathSlot }
      build := fun gathered _ =>
        match gathered.path with
        | some path => .ok (.cacheDump path)
        | none => Reading.reject .missingArguments
      help := fun _ => Help.cacheDump },
    { name := "version"
      grammar := {}
      build := fun _ _ => .ok (.print identity)
      help := fun _ => Help.version } ]

/-- The command for the arguments after its name. -/
def CommandRule.read (rule : CommandRule) (config : Option String) (arguments : List String) :
    Except Refusal Command :=
  match rule.grammar.read {} arguments >>= (rule.build · config) with
  | .ok command => .ok command
  | .error .help => .ok (.print (rule.help config))
  | .error (.rejected rejection) => .error (.rejected rejection)

/-- The help that is asked for by the names of commands. -/
def readHelp (rules : List CommandRule) (config : Option String) :
    List String → Except Refusal Command
  | [] => .ok (.print Help.program)
  | name :: rest =>
    match rules.find? (·.name = name) with
    | none =>
      if name = "help" ∧ rest = [] then
        .ok (.print
          ["Print this message or the help of the given subcommand(s)", "",
            "Usage: flowmeta help [COMMAND]...", "", "Arguments:",
            "  [COMMAND]...  Print help for the subcommand(s)"])
      else .error (.rejected (.unknownCommand name))
    | some rule =>
      match rest with
      | [] => .ok (.print (rule.help config))
      | other :: _ => .error (.rejected (.unknownCommand other))

/-- What the arguments ask the program to do. `package` is its version and `identity` tells more
about it; the environment may name a settings file. -/
def Command.read (package identity : String) (config : Option String) :
    List String → Except Refusal Command
  | [] => .error .noCommand
  | argument :: rest =>
    let rules := commandRules ["flowmeta " ++ identity]
    let versionLines := ["flowmeta " ++ package]
    match argument.toList with
    | ['-', '-'] =>
      match rest with
      | [] => .error .noCommand
      | name :: _ =>
        if name = "help" ∨ rules.any (·.name = name) then .error (.rejected (.unexpected name))
        else .error (.rejected (.unknownCommand name))
    | '-' :: '-' :: text =>
      let (name, value) := Reading.splitValue text
      let name := "--" ++ String.ofList name
      match decide (name = "--help" ∨ name = "--version"), value with
      | false, _ => .error (.rejected (.unexpected name))
      | true, some value => .error (.rejected (.unexpectedValue (String.ofList value) name))
      | true, none => .ok (.print (if name = "--help" then Help.program else versionLines))
    | '-' :: letter :: _ =>
      if letter = 'h' then .ok (.print Help.program)
      else if letter = 'V' then .ok (.print versionLines)
      else .error (.rejected (.unexpected (String.ofList ['-', letter])))
    | _ =>
      if argument = "help" then readHelp rules config rest
      else
        match rules.find? (·.name = argument) with
        | some rule => rule.read config rest
        | none => .error (.rejected (.unknownCommand argument))

end FlowEnrichment.CommandLine
