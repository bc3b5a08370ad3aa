/-!
# Paths

A path is a text of names between slashes. Repeated slashes, a slash at the end and a single
point as a name do not change the place that a path names, and are dropped when its parent is
taken; a point at the very beginning is kept.
-/
namespace FlowEnrichment.Path

/-- The names of a path, in order, and whether it starts at the root and ends with a slash. -/
structure Parts where
  /-- Whether the path starts with a slash. -/
  absolute : Bool
  /-- The names between slashes. -/
  names : List String
  /-- Whether the path ends with a slash after its last name. -/
  directory : Bool
  deriving DecidableEq, Repr

/-- Splits characters at every slash. -/
def splitSlashes : List Char → List (List Char)
  | [] => [[]]
  | c :: rest =>
    match splitSlashes rest with
    | [] => [[c]]
    | first :: others => if c = '/' then [] :: first :: others else (c :: first) :: others

/-- The parts of a path. -/
def parts (path : String) : Parts :=
  let chars := path.toList
  let names := (splitSlashes chars).filter (· ≠ [])
  { absolute := chars.head? = some '/'
    names := names.map String.ofList
    directory := chars.getLast? = some '/' && !names.isEmpty }

/-- The names that count towards the place of a path. -/
def places (path : String) : List String :=
  let parts := path |> Path.parts
  match parts.names with
  | [] => []
  | first :: rest =>
    (if first = "." ∧ parts.absolute then [] else [first]) ++ rest.filter (· ≠ ".")

/-- The path of the directory that holds the place; nothing for the empty path and the root. -/
def parent? (path : String) : Option String :=
  match places path with
  | [] => none
  | names =>
    let joined := "/".intercalate names.dropLast
    some (if (parts path).absolute then "/" ++ joined else joined)

end FlowEnrichment.Path
