import FlowEnrichment.Json.Text
import FlowEnrichment.Text.Quoted

/-!
# Documents as far as they can be read

A draft is the tree of a document together with the faults of its text, each at the place where
a reader meets it. A decoder that visits a draft in document order therefore reports the fault
or the mismatch that comes first, whichever it is. Two kinds of scalars can be passed over but
not read: a string whose content is no text, and a number that no numeric type holds.
-/
namespace FlowEnrichment.Json

/-- Why a document is refused. -/
inductive Fault where
  /-- The text breaks the grammar, or a limit of the format. -/
  | malformed
  /-- The text ends too early. -/
  | truncated
  /-- The document is well-formed and says something else than what was asked for. -/
  | mistyped (reason : String)
  deriving DecidableEq, Repr, Inhabited

/-- The name of the kind of a fault. -/
def Fault.category : Fault → String
  | .malformed => "syntax"
  | .truncated => "eof"
  | .mistyped _ => "data"

/-- The fault of a value that breaks off, by what is asked of it. -/
structure Breach where
  /-- The fault of reading it. -/
  read : Fault
  /-- The fault of passing over it. -/
  skipped : Fault
  /-- The fault of reading it as a string or a map and nothing else. -/
  chosen : Fault
  deriving Repr, Inhabited

/-- A document with the faults of its text in place. -/
inductive Draft where
  /-- The absent value. -/
  | null
  /-- A truth value. -/
  | bool (value : Bool)
  /-- A number, or nothing if no numeric type holds it. -/
  | number (value : Option Number)
  /-- A string, or nothing if its content is no text. -/
  | string (value : Option String)
  /-- Items in order, and the fault met where the next item or the end should be. -/
  | array (items : List Draft) (ending : Option Fault)
  /-- Keys and values in order, and the fault met where the next key or the end should be. -/
  | object (entries : List (Draft × Draft)) (ending : Option Fault)
  /-- A value that breaks off. -/
  | broken (breach : Breach)
  deriving Repr, Inhabited

/-- Succeeds unless there is a fault. -/
def Fault.check : Option Fault → Except Fault Unit
  | none => .ok ()
  | some fault => .error fault

namespace Draft

/-- A place where a value should be and none begins. -/
def absent (fault : Fault) : Draft := .broken ⟨fault, fault, fault⟩

/-- A number or a word that breaks off. -/
def cut (read skipped : Fault) : Draft := .broken ⟨read, skipped, .malformed⟩

/-- A place where a key should be and none begins. -/
def noKey (fault : Fault) : Draft × Draft := (absent fault, absent fault)

mutual

/-- The draft of a value, which has no faults. -/
def ofValue : Value → Draft
  | .null => .null
  | .bool b => .bool b
  | .number n => .number (some n)
  | .string s => .string (some s)
  | .array items => .array (ofItems items) none
  | .object entries => .object (ofEntries entries) none

/-- The drafts of the items of an array. -/
def ofItems : List Value → List Draft
  | [] => []
  | item :: rest => ofValue item :: ofItems rest

/-- The drafts of the entries of an object. -/
def ofEntries : List (String × Value) → List (Draft × Draft)
  | [] => []
  | (key, value) :: rest => (.string (some key), ofValue value) :: ofEntries rest

end

mutual

/-- Passes over a draft without reading it. -/
def skip : Draft → Except Fault Unit
  | .array items ending => do skipItems items; Fault.check ending
  | .object entries ending => do skipEntries entries; Fault.check ending
  | .broken breach => .error breach.skipped
  | _ => .ok ()

/-- Passes over items. -/
def skipItems : List Draft → Except Fault Unit
  | [] => .ok ()
  | item :: rest => do skip item; skipItems rest

/-- Passes over entries. -/
def skipEntries : List (Draft × Draft) → Except Fault Unit
  | [] => .ok ()
  | (key, value) :: rest => do
    match key with
    | .string _ => skip value; skipEntries rest
    | .broken breach => .error breach.skipped
    | _ => .error .malformed

end

/-- Reads a scalar for its content: nothing if it is a container, a fault if it cannot be read. -/
def checkScalar : Draft → Except Fault Unit
  | .number none | .string none => .error .malformed
  | .broken breach => .error breach.read
  | _ => .ok ()

/-- The key that a draft in place of a key is read as. -/
def key : Draft → Except Fault String
  | .string (some name) => .ok name
  | .broken breach => .error breach.read
  | _ => .error .malformed

/-- How messages name what stands in a document. -/
def describe : Draft → String
  | .null => "null"
  | .bool true => "boolean `true`"
  | .bool false => "boolean `false`"
  | .number (some (.integer n)) => "integer `" ++ String.ofList (integerText n) ++ "`"
  | .number (some (.float x)) => "floating point `" ++ String.ofList x.text ++ "`"
  | .string (some s) => "string " ++ Text.quoted s
  | .array _ _ => "sequence"
  | .object _ _ => "map"
  | .number none => "number"
  | .string none => "string"
  | .broken _ => "nothing"

/-- The fault of a draft that stands where something else is expected: its own fault if it
cannot be read, and otherwise the mismatch. -/
def mismatch (draft : Draft) (expected : String) : Fault :=
  match draft.checkScalar with
  | .error fault => fault
  | .ok () => .mistyped ("invalid type: " ++ draft.describe ++ ", expected " ++ expected)

mutual

/-- The value of a draft, the last entry of a repeated key being kept. What cannot be read
is absent. -/
def toValue : Draft → Value
  | .null => .null
  | .bool b => .bool b
  | .number (some (.float x)) => if x.isFinite then .number (.float x) else .null
  | .number (some n) => .number n
  | .string (some s) => .string s
  | .array items _ => .array (toItems items)
  | .object entries _ => .object (sortEntries (toEntries entries))
  | .number none | .string none | .broken _ => .null

/-- The values of items. -/
def toItems : List Draft → List Value
  | [] => []
  | item :: rest => toValue item :: toItems rest

/-- The values of entries whose keys are texts. -/
def toEntries : List (Draft × Draft) → List (String × Value)
  | [] => []
  | (key, value) :: rest =>
    match key with
    | .string (some name) => (name, toValue value) :: toEntries rest
    | _ => toEntries rest

end

end Draft

end FlowEnrichment.Json
