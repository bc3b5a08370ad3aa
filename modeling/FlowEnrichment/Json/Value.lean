import FlowEnrichment.Binary64

/-!
# Values of a document

A value is what a JSON document says. The entries of an object keep the order in which they
were written; `Value.sorted` is the normal form in which every object has its keys in ascending
order, each once, the last entry of a repeated key being the one that counts.
-/
namespace FlowEnrichment.Json

/-- A number: an integer kept exactly, or a floating point number. -/
inductive Number where
  /-- An integer of at most sixty-four bits. -/
  | integer (value : Int)
  /-- A finite floating point number. -/
  | float (value : Binary64)
  deriving DecidableEq, Repr, Inhabited

/-- A value of a document. -/
inductive Value where
  /-- The absent value. -/
  | null
  /-- A truth value. -/
  | bool (value : Bool)
  /-- A number. -/
  | number (value : Number)
  /-- A text. -/
  | string (value : String)
  /-- Values in order. -/
  | array (items : List Value)
  /-- Values under keys, in order. -/
  | object (entries : List (String × Value))
  deriving Repr, Inhabited

namespace Value

/-- An integer as a value. -/
def int (n : Int) : Value := .number (.integer n)

/-- A natural number as a value. -/
def nat (n : Nat) : Value := .number (.integer n)

mutual

/-- Whether two values are the same, entry by entry. -/
def same : Value → Value → Bool
  | .null, .null => true
  | .bool a, .bool b => a == b
  | .number a, .number b => decide (a = b)
  | .string a, .string b => a == b
  | .array a, .array b => sameItems a b
  | .object a, .object b => sameEntries a b
  | _, _ => false

/-- Whether two lists hold the same values. -/
def sameItems : List Value → List Value → Bool
  | [], [] => true
  | a :: as, b :: bs => same a b && sameItems as bs
  | _, _ => false

/-- Whether two lists hold the same values under the same keys. -/
def sameEntries : List (String × Value) → List (String × Value) → Bool
  | [], [] => true
  | (k, a) :: as, (l, b) :: bs => k == l && same a b && sameEntries as bs
  | _, _ => false

end

instance : BEq Value := ⟨same⟩

end Value

/-- Puts a value under a key into entries with ascending keys, replacing the value already there. -/
def insertEntry {α : Type} (key : String) (value : α) : List (String × α) → List (String × α)
  | [] => [(key, value)]
  | (k, v) :: rest =>
    if key < k then (key, value) :: (k, v) :: rest
    else if key = k then (key, value) :: rest
    else (k, v) :: insertEntry key value rest

/-- Entries with ascending keys, the last entry of a repeated key being kept. -/
def sortEntries {α : Type} (entries : List (String × α)) : List (String × α) :=
  entries.foldl (fun sorted (key, value) => insertEntry key value sorted) []

namespace Value

mutual

/-- The value with the keys of every object in ascending order. -/
def sorted : Value → Value
  | .array items => .array (sortedItems items)
  | .object entries => .object (sortEntries (sortedEntries entries))
  | value => value

/-- The values of a list, each with sorted keys. -/
def sortedItems : List Value → List Value
  | [] => []
  | item :: rest => sorted item :: sortedItems rest

/-- The entries of an object in their order, each value with sorted keys. -/
def sortedEntries : List (String × Value) → List (String × Value)
  | [] => []
  | (key, value) :: rest => (key, sorted value) :: sortedEntries rest

end

/-- The value under a key of an object. -/
def get? (value : Value) (key : String) : Option Value :=
  match value with
  | .object entries => entries.lookup key
  | _ => none

end Value

end FlowEnrichment.Json
