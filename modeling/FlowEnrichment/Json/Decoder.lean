import FlowEnrichment.Json.Reader

/-!
# Decoders

A decoder reads a value of a type from a draft. What a document may say is the same wherever it
comes from, but sources differ in what they do with a surplus of items, with the nesting depth
and with a named choice, and a decoder asks its source for that. A record is decoded from an
object by its keys or from an array by position; its first fault in document order is reported,
and missing fields after everything in the document.
-/
namespace FlowEnrichment.Json

/-- Where a document comes from. -/
inductive Source where
  /-- A value held in memory. -/
  | value
  /-- A text, with the number of containers that may still be entered. -/
  | text (room : Nat)
  /-- Part of a document that was read as a whole before it was decoded. -/
  | buffered
  /-- A table of settings. -/
  | table
  deriving DecidableEq, Repr

namespace Source

/-- The source of the content of a container. -/
def enter : Source → Except Fault Source
  | .text 0 => .error .malformed
  | .text (room + 1) => .ok (.text room)
  | source => .ok source

/-- The number of containers that may be nested in a text. -/
def textRoom : Nat := 127

/-- What becomes of an array with more items than were asked for. -/
def surplus (source : Source) (asked found : Nat) : Except Fault Unit :=
  if found ≤ asked then .ok () else
  match source with
  | .value =>
    .error (.mistyped s!"invalid length {found}, expected fewer elements in array")
  | .text _ => .error .malformed
  | .buffered =>
    let elements := if asked = 1 then "1 element" else s!"{asked} elements"
    .error (.mistyped s!"invalid length {found}, expected {elements} in sequence")
  | .table => .ok ()

end Source

/-- Reads a value of a type from a draft. -/
abbrev Decoder (α : Type) := Source → Draft → Except Fault α

namespace Draft

mutual

/-- Reads a draft through, whatever it says. -/
def scan (source : Source) : Draft → Except Fault Unit
  | .array items ending => do
    let inner ← source.enter
    scanItems inner items
    Fault.check ending
  | .object entries ending => do
    let inner ← source.enter
    scanEntries inner entries
    Fault.check ending
  | draft => draft.checkScalar

/-- Reads items through. -/
def scanItems (source : Source) : List Draft → Except Fault Unit
  | [] => .ok ()
  | item :: rest => do scan source item; scanItems source rest

/-- Reads keys and values through. -/
def scanEntries (source : Source) : List (Draft × Draft) → Except Fault Unit
  | [] => .ok ()
  | (name, value) :: rest => do
    let _ ← name.key
    scan source value
    scanEntries source rest

end

end Draft

namespace Decoder

/-- A decoder followed by a check that may refuse what it read, with a reason. -/
def refine {α β : Type} (decoder : Decoder α) (verify : α → Except String β) : Decoder β :=
  fun source draft => do
    match verify (← decoder source draft) with
    | .ok value => .ok value
    | .error reason => .error (.mistyped reason)

/-- A decoder followed by a function. -/
def map {α β : Type} (decoder : Decoder α) (f : α → β) : Decoder β :=
  fun source draft => do return f (← decoder source draft)

/-- Any value. -/
def any : Decoder Value := fun source draft => do
  draft.scan source
  return draft.toValue

/-- A text, by the name that messages give it. -/
def textNamed (name : String) : Decoder String := fun _ draft =>
  match draft with
  | .string (some s) => .ok s
  | draft => .error (draft.mismatch name)

/-- A text. -/
def text : Decoder String := textNamed "a string"

/-- A truth value. -/
def bool : Decoder Bool := fun _ draft =>
  match draft with
  | .bool b => .ok b
  | draft => .error (draft.mismatch "a boolean")

/-- An integer between bounds, by the name of its type. -/
def integer (low high : Int) (name : String) : Decoder Int := fun _ draft =>
  match draft with
  | .number (some (.integer n)) =>
    if low ≤ n ∧ n ≤ high then .ok n
    else .error (.mistyped ("invalid value: " ++ draft.describe ++ ", expected " ++ name))
  | draft => .error (draft.mismatch name)

/-- An unsigned integer of thirty-two bits. -/
def word32 : Decoder UInt32 := (integer 0 (UInt32.size - 1) "u32").map fun n => UInt32.ofNat n.toNat

/-- An unsigned integer of sixty-four bits, by the name of its type. -/
def word (name : String) : Decoder UInt64 :=
  (integer 0 (UInt64.size - 1) name).map fun n => UInt64.ofNat n.toNat

/-- An unsigned integer of sixty-four bits. -/
def word64 : Decoder UInt64 := word "u64"

/-- A count, which is an unsigned integer of sixty-four bits. -/
def count : Decoder UInt64 := word "usize"

/-- A signed integer of sixty-four bits. -/
def signed64 : Decoder Int := integer (-(UInt64.size / 2)) (UInt64.size / 2 - 1) "i64"

/-- A value that may be absent. -/
def optional {α : Type} (decoder : Decoder α) : Decoder (Option α) := fun source draft =>
  match draft with
  | .null => .ok none
  | draft => do return some (← decoder source draft)

/-- Values in order. -/
def list {α : Type} (element : Decoder α) : Decoder (List α) := fun source draft =>
  match draft with
  | .array items ending => do
    let inner ← source.enter
    let values ← items.mapM (element inner)
    Fault.check ending
    return values
  | draft => .error (draft.mismatch "a sequence")

/-- Nothing: the absent value, or in a buffered document an empty map. -/
def unit : Decoder Unit := fun source draft =>
  match draft, source with
  | .null, _ | .object [] _, .buffered => .ok ()
  | draft, _ => .error (draft.mismatch "unit")

/-- One of several names: the name as a text, or as the only key of a map to nothing. -/
def oneOf {α : Type} (choices : List (String × α)) : Decoder α := fun source draft =>
  let choose (name : String) : Except Fault α :=
    match choices.lookup name with
    | some choice => .ok choice
    | none =>
      let names := ", ".intercalate (choices.map fun (name, _) => "`" ++ name ++ "`")
      .error (.mistyped ("unknown variant `" ++ name ++ "`, expected one of " ++ names))
  match source, draft with
  | _, .string (some name) => choose name
  | .text _, .object [] ending => do Fault.check ending; .error .malformed
  | .text _, .object ((name, value) :: rest) ending => do
    let inner ← source.enter
    let choice ← choose (← text inner name)
    unit inner value
    if rest.isEmpty then Fault.check ending else .error .malformed
    return choice
  | _, .object [(name, value)] _ => do
    let choice ← choose (← name.key)
    unit source value
    return choice
  | _, .object _ _ => .error (.mistyped "invalid value: map, expected map with a single key")
  | .text _, .string none => .error .malformed
  | .text _, .broken breach => .error breach.chosen
  | .text _, _ => .error .malformed
  | _, draft => .error (draft.mismatch "string or map")

/-- Decodes a value held in memory. -/
def ofValue {α : Type} (decoder : Decoder α) (value : Value) : Except Fault α :=
  decoder .value (.ofValue value)

/-- Decodes a text, which must end after the value. -/
def ofSymbols {α : Type} (decoder : Decoder α) (symbols : List Utf8.Symbol) : Except Fault α := do
  let document := Document.read symbols
  let value ← decoder (.text Source.textRoom) document.root
  if document.trailing then .error .malformed
  return value

/-- Decodes a text. -/
def ofText {α : Type} (decoder : Decoder α) (text : String) : Except Fault α :=
  decoder.ofSymbols (Utf8.symbolsOf text)

end Decoder

/-! ## Records -/

/-- A field of a record that is being gathered in a value of type `β`. -/
structure RecordField (β : Type) where
  /-- The key of the field. -/
  name : String
  /-- Other keys under which the field is accepted. -/
  aliases : List String := []
  /-- Whether the field has no default. -/
  required : Bool := false
  /-- Whether the field has been gathered. -/
  isSet : β → Bool
  /-- Reads the field and adds it to what has been gathered. -/
  read : β → Decoder β

/-- A record of type `α`, gathered field by field in a value of type `β`. -/
structure Record (β α : Type) where
  /-- The name of the record in messages. -/
  label : String
  /-- The fields in order. -/
  fields : List (RecordField β)
  /-- Nothing gathered. -/
  empty : β
  /-- The record of what was gathered; refuses if a required field is missing. -/
  build : β → Except Fault α

/-- The refusal of a record without a required field. -/
def missingField (name : String) : Fault := .mistyped ("missing field `" ++ name ++ "`")

/-- A required field that may have been gathered. -/
def requireField {α : Type} (name : String) : Option α → Except Fault α
  | some value => .ok value
  | none => .error (missingField name)

namespace Record

variable {α β : Type}

/-- The field with a key. -/
def field? (record : Record β α) (key : String) : Option (RecordField β) :=
  record.fields.find? fun field => field.name == key || field.aliases.contains key

/-- Gathers the fields of an object in document order. Entries under other keys are passed over,
or kept for a later reader after they were read through. -/
def readEntries (record : Record β α) (source : Source) (keep : Bool) :
    List (Draft × Draft) → β → Except Fault (β × List (Draft × Draft))
  | [], gathered => .ok (gathered, [])
  | (name, value) :: rest, gathered => do
    let key ← name.key
    match record.field? key with
    | some field =>
      if field.isSet gathered then
        .error (.mistyped ("duplicate field `" ++ field.name ++ "`"))
      else
        record.readEntries source keep rest (← field.read gathered source value)
    | none =>
      if keep then
        value.scan source
        let (gathered, others) ← record.readEntries source keep rest gathered
        return (gathered, (name, value) :: others)
      else
        value.skip
        record.readEntries source keep rest gathered

/-- Gathers fields from items by position. -/
def readItems (record : Record β α) (source : Source) (ending : Option Fault) :
    List (RecordField β) → List Draft → β → Except Fault β
  | [], _, gathered => .ok gathered
  | field :: fields, item :: items, gathered => do
    record.readItems source ending fields items (← field.read gathered source item)
  | field :: fields, [], gathered => do
    Fault.check ending
    if field.required then
      let count := record.fields.length
      let position := count - fields.length - 1
      let elements := if count = 1 then "1 element" else s!"{count} elements"
      .error (.mistyped s!"invalid length {position}, expected {record.label} with {elements}")
    else record.readItems source ending fields [] gathered

/-- Decodes a record from an object by its keys or from an array by position. -/
def decoder (record : Record β α) : Decoder α := fun source draft =>
  match draft with
  | .object entries ending => do
    let inner ← source.enter
    let (gathered, _) ← record.readEntries inner false entries record.empty
    Fault.check ending
    record.build gathered
  | .array items ending => do
    let inner ← source.enter
    let gathered ← record.readItems inner ending record.fields items record.empty
    let value ← record.build gathered
    source.surplus record.fields.length items.length
    Fault.check ending
    return value
  | draft => .error (draft.mismatch record.label)

/-- Decodes a record from the entries that another record left, ignoring those it does not know. -/
def ofLeftovers (record : Record β α) (entries : List (Draft × Draft)) : Except Fault α := do
  let known := entries.filter fun (name, _) =>
    match name with
    | .string (some key) => (record.field? key).isSome
    | _ => false
  let (gathered, _) ← record.readEntries .buffered false known record.empty
  record.build gathered

/-- Decodes a record whose object also holds the entries of an inner value. -/
def decoderWith {γ δ : Type} (record : Record β γ) (inner : List (Draft × Draft) → Except Fault δ)
    (join : γ → δ → α) : Decoder α := fun source draft =>
  match draft with
  | .object entries ending => do
    let source ← source.enter
    let (gathered, others) ← record.readEntries source true entries record.empty
    Fault.check ending
    let outer ← record.build gathered
    return join outer (← inner others)
  | draft => .error (draft.mismatch record.label)

end Record

end FlowEnrichment.Json
