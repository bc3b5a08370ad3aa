/-!
# Arguments

How the arguments of a command are taken apart. An option is given by its long name or its
letter and takes one value, which follows an equals sign, is joined to the letter or is the next
argument. All other arguments are positional, and so is everything after two hyphens. Values are
read from left to right, each as soon as something other than a value follows it.
-/
namespace FlowEnrichment.CommandLine

/-- Why a value is refused. -/
inductive ValueFault where
  /-- There must be a value and it is empty. -/
  | missing
  /-- The value does not say what it should, for a reason. -/
  | refused (reason : String)
  deriving DecidableEq, Repr

/-- Why arguments are refused. -/
inductive Rejection where
  /-- There is no such command. -/
  | unknownCommand (name : String)
  /-- An argument has no meaning. -/
  | unexpected (argument : String)
  /-- An argument takes no value. -/
  | unexpectedValue (value argument : String)
  /-- An argument needs a value. -/
  | missingValue (argument : String)
  /-- A value is refused. -/
  | invalidValue (value argument reason : String)
  /-- An option is given twice. -/
  | repeated (argument : String)
  /-- A needed argument is not given. -/
  | missingArguments
  deriving DecidableEq, Repr

/-- The wording of a refusal. -/
def Rejection.message : Rejection → String
  | .unknownCommand name => "unrecognized subcommand '" ++ name ++ "'"
  | .unexpected argument => "unexpected argument '" ++ argument ++ "' found"
  | .unexpectedValue value argument =>
    "unexpected value '" ++ value ++ "' for '" ++ argument ++ "' found; no more were expected"
  | .missingValue argument =>
    "a value is required for '" ++ argument ++ "' but none was supplied"
  | .invalidValue value argument reason =>
    "invalid value '" ++ value ++ "' for '" ++ argument ++ "': " ++ reason
  | .repeated argument => "the argument '" ++ argument ++ "' cannot be used multiple times"
  | .missingArguments => "the following required arguments were not provided:"

/-- What ends the reading of arguments early. -/
inductive Interruption where
  /-- The arguments are refused. -/
  | rejected (rejection : Rejection)
  /-- Help is asked for. -/
  | help
  deriving DecidableEq, Repr

/-- A place for values, read into what has been gathered in a value of type `β`. -/
structure Slot (β : Type) where
  /-- How messages name the place. -/
  label : String
  /-- Whether the place takes any number of values. -/
  many : Bool := false
  /-- Whether the place has a value. -/
  isSet : β → Bool
  /-- Reads a value. -/
  read : β → String → Except ValueFault β

/-- An option with a value. -/
structure OptionRule (β : Type) where
  /-- The long name, after two hyphens. -/
  long : String
  /-- The letter, after one hyphen. -/
  letter : Char
  /-- The place for the value. -/
  slot : Slot β

/-- The arguments that a command takes. -/
structure Grammar (β : Type) where
  /-- The options. -/
  options : List (OptionRule β) := []
  /-- The place for positional arguments. -/
  positional : Option (Slot β) := none

/-- Arguments that are being taken apart. -/
structure Reading (β : Type) where
  /-- What has been gathered. -/
  gathered : β
  /-- The place whose values have not been read, and the values. -/
  pending : Option (Slot β × List String) := none
  /-- Whether the next argument is the value of an option. -/
  expecting : Bool := false
  /-- Whether the positional place has been reached. -/
  positional : Bool := false
  /-- Whether everything that follows is positional. -/
  trailing : Bool := false

namespace Reading

variable {β : Type}

/-- Refuses the arguments. -/
def reject {α : Type} (rejection : Rejection) : Except Interruption α :=
  .error (.rejected rejection)

/-- Reads values into a place. -/
def readValues (slot : Slot β) : List String → β → Except Interruption β
  | [], gathered => .ok gathered
  | value :: rest, gathered =>
    match slot.read gathered value with
    | .ok gathered => readValues slot rest gathered
    | .error .missing => reject (.missingValue slot.label)
    | .error (.refused reason) => reject (.invalidValue value slot.label reason)

/-- Reads the values of a place, which has them once only unless it takes any number. -/
def fill (slot : Slot β) (values : List String) (gathered : β) : Except Interruption β :=
  if values.isEmpty then reject (.missingValue slot.label)
  else if !slot.many && slot.isSet gathered then reject (.repeated slot.label)
  else readValues slot values gathered

/-- Reads the values that have not been read. -/
def flush (reading : Reading β) : Except Interruption (Reading β) :=
  match reading.pending with
  | none => .ok reading
  | some (slot, values) => do
    let gathered ← fill slot values reading.gathered
    return { reading with gathered, pending := none, expecting := false }

/-- Takes an option, with its value if it is joined to it. -/
def takeOption (reading : Reading β) (slot : Slot β) (value : Option String) :
    Except Interruption (Reading β) := do
  let reading ← reading.flush
  match value with
  | some value => return { reading with gathered := ← fill slot [value] reading.gathered }
  | none => return { reading with pending := some (slot, []), expecting := true }

/-- Takes a positional argument. -/
def takePositional (grammar : Grammar β) (reading : Reading β) (argument : String) :
    Except Interruption (Reading β) :=
  match grammar.positional with
  | none => reject (.unexpected argument)
  | some slot =>
    match reading.pending, reading.positional with
    | some (pending, values), true =>
      if slot.many && pending.many then
        .ok { reading with pending := some (pending, values ++ [argument]) }
      else if slot.many then do
        return { ← reading.flush with pending := some (slot, [argument]) }
      else reject (.unexpected argument)
    | none, true =>
      if slot.many then .ok { reading with pending := some (slot, [argument]) }
      else reject (.unexpected argument)
    | _, false => do
      return { ← reading.flush with pending := some (slot, [argument]), positional := true }

/-- Takes help as it is asked for. -/
def takeHelp (reading : Reading β) : Except Interruption (Reading β) := do
  let _ ← reading.flush
  .error .help

/-- Splits a text at its first equals sign. -/
def splitValue (text : List Char) : List Char × Option (List Char) :=
  match text.dropWhile (· ≠ '=') with
  | [] => (text, none)
  | _ :: value => (text.takeWhile (· ≠ '='), some value)

/-- Takes a long name with what follows it. -/
def takeLong (grammar : Grammar β) (reading : Reading β) (text : List Char) :
    Except Interruption (Reading β) :=
  let (name, value) := splitValue text
  let name := String.ofList name
  let value := value.map String.ofList
  if name = "help" then
    match value with
    | some value => reject (.unexpectedValue value "--help")
    | none => reading.takeHelp
  else
    match grammar.options.find? (·.long = name) with
    | some option => reading.takeOption option.slot value
    | none => reject (.unexpected ("--" ++ name))

/-- Takes a letter with what follows it. -/
def takeLetter (grammar : Grammar β) (reading : Reading β) (letter : Char) (rest : List Char) :
    Except Interruption (Reading β) :=
  if letter = 'h' then reading.takeHelp
  else
    match grammar.options.find? (·.letter = letter) with
    | none => reject (.unexpected (String.ofList ['-', letter]))
    | some option =>
      let value :=
        match rest with
        | [] => none
        | '=' :: value => some (String.ofList value)
        | value => some (String.ofList value)
      reading.takeOption option.slot value

/-- Takes an argument. -/
def take (grammar : Grammar β) (reading : Reading β) (argument : String) :
    Except Interruption (Reading β) :=
  if reading.trailing then reading.takePositional grammar argument
  else
    match argument.toList with
    | ['-', '-'] => .ok { reading with trailing := true }
    | '-' :: '-' :: text => reading.takeLong grammar text
    | '-' :: letter :: rest => reading.takeLetter grammar letter rest
    | _ =>
      match reading.pending, reading.expecting with
      | some (slot, _), true =>
        .ok { reading with pending := some (slot, [argument]), expecting := false }
      | _, _ => reading.takePositional grammar argument

end Reading

/-- Takes the arguments of a command apart. -/
def Grammar.read {β : Type} (grammar : Grammar β) (empty : β) (arguments : List String) :
    Except Interruption β := do
  let reading ← arguments.foldlM (Reading.take grammar) { gathered := empty }
  return (← reading.flush).gathered

end FlowEnrichment.CommandLine
