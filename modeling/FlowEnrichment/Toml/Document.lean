import FlowEnrichment.Json.Decoder
import FlowEnrichment.Toml.Scalar

/-!
# Settings files

A TOML document is a list of headers and of keys with values. The reader builds the tables as it
goes and refuses a table or a key that is defined twice, where the ways to define a table differ
in who may add to it later. The finished document is decoded like any other draft.
-/
namespace FlowEnrichment.Toml

/-- How a table came to be. -/
inductive TableKind where
  /-- Written as a value; nothing is ever added to it. -/
  | inline
  /-- By a header of a table below it. -/
  | implicit
  /-- By a key of several names. -/
  | dotted
  /-- By a header of its own. -/
  | explicit
  deriving DecidableEq, Repr

/-- A value or a table. -/
inductive Item where
  /-- A text. -/
  | string (value : String)
  /-- An integer. -/
  | integer (value : Int)
  /-- A floating point number. -/
  | float (value : Binary64)
  /-- A truth value. -/
  | boolean (value : Bool)
  /-- A date, a time or both, in its written form. -/
  | moment (text : String)
  /-- Values in order. -/
  | array (items : List Item)
  /-- Entries under names. -/
  | table (kind : TableKind) (entries : List (String × Item))
  /-- Tables in order, each with a header of its own. -/
  | tables (tables : List (List (String × Item)))
  deriving Repr, Inhabited

/-- The entries of a table. -/
abbrev Entries := List (String × Item)

/-! ## Building tables -/

/-- Entries with another item under a name. -/
def replaceEntry (name : String) (item : Item) (entries : Entries) : Entries :=
  entries.map fun (key, old) => if key = name then (key, item) else (key, old)

/-- Changes the table that names lead to. Tables on the way are made if they are missing; a key of
several names may only go through tables that no header and no value defined. -/
def changeAt (byKey : Bool) (change : TableKind → Entries → Option Entries) :
    List String → TableKind → Entries → Option Entries
  | [], kind, entries => change kind entries
  | name :: rest, _, entries =>
    match entries.lookup name with
    | none => do
      let kind := if byKey then .dotted else .implicit
      let inner ← changeAt byKey change rest kind []
      return entries ++ [(name, .table kind inner)]
    | some (.table kind inner) =>
      if kind = .inline ∨ (byKey ∧ kind = .explicit) then none else do
        let inner ← changeAt byKey change rest kind inner
        return replaceEntry name (.table kind inner) entries
    | some (.tables list) =>
      match list.getLast? with
      | none => none
      | some last => do
        let inner ← changeAt byKey change rest .explicit last
        return replaceEntry name (.tables (list.dropLast ++ [inner])) entries
    | some _ => none

/-- Adds an item under a name that is not there yet. A key of several names ends in a table that
such keys made, and a key of one name does not. -/
def addItem (single : Bool) (name : String) (item : Item) (kind : TableKind) (entries : Entries) :
    Option Entries :=
  if decide (kind = .dotted) == single then none
  else if (entries.lookup name).isSome then none
  else some (entries ++ [(name, item)])

/-- Adds an item under a key to a table. -/
def addByKey (key : List String) (item : Item) (kind : TableKind) (entries : Entries) :
    Option Entries :=
  match key.getLast? with
  | none => none
  | some name => changeAt true (addItem (key.length == 1) name item) key.dropLast kind entries

/-- Opens the table of a header. -/
def openTable (name : String) (_ : TableKind) (entries : Entries) : Option Entries :=
  match entries.lookup name with
  | none => some (entries ++ [(name, .table .explicit [])])
  | some (.table .implicit inner) => some (replaceEntry name (.table .explicit inner) entries)
  | some _ => none

/-- Opens another table of a list of tables. -/
def openElement (name : String) (_ : TableKind) (entries : Entries) : Option Entries :=
  match entries.lookup name with
  | none => some (entries ++ [(name, .tables [[]])])
  | some (.tables list) => some (replaceEntry name (.tables (list ++ [[]])) entries)
  | some _ => none

/-! ## Values -/

/-- The number of values that may be nested, and of names in a key. -/
def depthLimit : Nat := 80

/-- The scalar that a word is. -/
def scalar? (word : List Char) : Option Item :=
  if word = ['t', 'r', 'u', 'e'] then some (.boolean true)
  else if word = ['f', 'a', 'l', 's', 'e'] then some (.boolean false)
  else
    match moment? word with
    | some text => some (.moment text)
    | none =>
      match float? word with
      | some x => some (.float x)
      | none => (integer? word).map .integer

/-- Reads the names of a key, of which there may not be too many. -/
def readLimitedKey (text : List Char) : Option (List String × List Char) :=
  match readKey (text.length + 1) text with
  | some (key, rest) => if key.length < depthLimit then some (key, rest) else none
  | none => none

mutual

/-- Reads a value at a depth of nesting. -/
def readValue : Nat → Nat → List Char → Option (Item × List Char)
  | 0, _, _ => none
  | fuel + 1, depth, text =>
    match text with
    | '[' :: rest =>
      if depthLimit ≤ depth + 1 then none else
      match readItems fuel (depth + 1) rest with
      | some (items, rest) => some (.array items, rest)
      | none => none
    | '\x7b' :: rest =>
      if depthLimit ≤ depth + 1 then none else
      match skipBlanks rest with
      | '\x7d' :: rest => some (.table .inline [], rest)
      | rest =>
        match readPairs fuel (depth + 1) [] rest with
        | some (entries, rest) => some (.table .inline entries, rest)
        | none => none
    | '"' :: _ | '\'' :: _ =>
      match readString text with
      | some (s, rest) => some (.string s, rest)
      | none => none
    | text =>
      let (word, rest) := readWord text
      (scalar? word).map fun item => (item, rest)

/-- Reads the items of an array up to its end. -/
def readItems : Nat → Nat → List Char → Option (List Item × List Char)
  | 0, _, _ => none
  | fuel + 1, depth, text =>
    match skipLines text with
    | ']' :: rest => some ([], rest)
    | text =>
      match readValue fuel depth text with
      | none => none
      | some (item, rest) =>
        match skipLines rest with
        | ']' :: rest => some ([item], rest)
        | ',' :: rest =>
          match readItems fuel depth rest with
          | some (items, rest) => some (item :: items, rest)
          | none => none
        | _ => none

/-- Reads the entries of an inline table up to its end and adds them to those before. -/
def readPairs : Nat → Nat → Entries → List Char → Option (Entries × List Char)
  | 0, _, _, _ => none
  | fuel + 1, depth, entries, text =>
    match readLimitedKey text with
    | none => none
    | some (key, rest) =>
      match skipBlanks rest with
      | '=' :: rest =>
        match readValue fuel depth (skipBlanks rest) with
        | none => none
        | some (item, rest) =>
          match addByKey key item .inline entries with
          | none => none
          | some entries =>
            match skipBlanks rest with
            | '\x7d' :: rest => some (entries, rest)
            | ',' :: rest => readPairs fuel depth entries rest
            | _ => none
      | _ => none

end

/-! ## Documents -/

/-- The tables read so far, and the names of the table to which keys are added. -/
structure Builder where
  /-- The entries of the document. -/
  root : Entries := []
  /-- The header of the current table. -/
  header : List String := []

/-- Reads a header after its first bracket. -/
def readHeader (builder : Builder) (text : List Char) : Option (Builder × List Char) :=
  let (list, text) :=
    match text with
    | '[' :: rest => (true, rest)
    | text => (false, text)
  do
    let (key, rest) ← readLimitedKey text
    let rest ←
      match list, skipBlanks rest with
      | false, ']' :: rest => some rest
      | true, ']' :: ']' :: rest => some rest
      | _, _ => none
    let name ← key.getLast?
    let change := if list then openElement name else openTable name
    let root ← changeAt false change key.dropLast .explicit builder.root
    return ({ root, header := key }, rest)

/-- Reads a key and its value. -/
def readAssignment (builder : Builder) (text : List Char) : Option (Builder × List Char) := do
  let (key, rest) ← readLimitedKey text
  match skipBlanks rest with
  | '=' :: rest =>
    let rest := skipBlanks rest
    let (item, rest) ← readValue (2 * rest.length + 2) 0 rest
    let root ← changeAt false (addByKey key item) builder.header .explicit builder.root
    return ({ builder with root }, rest)
  | _ => none

/-- Reads the lines of a document. -/
def readLinesOf : Nat → Builder → List Char → Option Entries
  | 0, _, _ => none
  | fuel + 1, builder, text =>
    match skipLines text with
    | [] => some builder.root
    | '[' :: rest => do
      let (builder, rest) ← readHeader builder rest
      readLinesOf fuel builder (← restOfLine? rest)
    | text => do
      let (builder, rest) ← readAssignment builder text
      readLinesOf fuel builder (← restOfLine? rest)

/-- The entries of a document; nothing if the text is none. -/
def parse? (text : List Char) : Option Entries :=
  let text :=
    match text with
    | '\ufeff' :: rest => rest
    | text => text
  readLinesOf (text.length + 1) {} text

/-! ## Decoding -/

/-- The key under which a date or a time stands in place of a table. -/
def momentKey : String := "$__toml_private_datetime"

mutual

/-- An item as a draft. -/
def Item.draft : Item → Json.Draft
  | .string s => .string (some s)
  | .integer n => .number (some (.integer n))
  | .float x => .number (some (.float x))
  | .boolean b => .bool b
  | .moment text => .object [(.string (some momentKey), .string (some text))] none
  | .array items => .array (draftItems items) none
  | .table _ entries => .object (draftEntries entries) none
  | .tables tables => .array (draftTables tables) none

/-- Items as drafts. -/
def draftItems : List Item → List Json.Draft
  | [] => []
  | item :: rest => item.draft :: draftItems rest

/-- Entries as the entries of a draft. -/
def draftEntries : List (String × Item) → List (Json.Draft × Json.Draft)
  | [] => []
  | (name, item) :: rest => (.string (some name), item.draft) :: draftEntries rest

/-- Tables as drafts. -/
def draftTables : List (List (String × Item)) → List Json.Draft
  | [] => []
  | entries :: rest => .object (draftEntries entries) none :: draftTables rest

end

/-- Decodes a document; nothing if the text is none or says something else than what was asked
for. -/
def decode? {α : Type} (decoder : Json.Decoder α) (text : String) : Option α := do
  let entries ← parse? text.toList
  (decoder .table (.object (draftEntries entries) none)).toOption

end FlowEnrichment.Toml
