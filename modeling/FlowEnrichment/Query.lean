import FlowEnrichment.Interface
import FlowEnrichment.Address.Text

/-!
# Queries

A query names one interface of one exporter; its exporter is an address of the exporter space,
so there is one query for a device and an index whichever way its address was written. A batch
asks for several interfaces of one exporter, and an update reports the answer to one query.
-/
namespace FlowEnrichment

open Json (Decoder RecordField Record Value)

/-- One interface of one exporter. -/
structure Query where
  /-- The address of the exporter. -/
  exporter : Address
  /-- The index of the interface. -/
  index : UInt32
  deriving DecidableEq, Repr, Inhabited

/-- Reads an address of the exporter space. -/
def Address.decoder : Decoder Address :=
  (Decoder.textNamed "IPv6 address").refine fun text =>
    match Address.parse? text.toList with
    | some address => .ok address
    | none => .error "invalid IPv6 address syntax"

/-- An address as a value. -/
def Address.toJson (address : Address) : Value := .string address.text

namespace Query

/-- The query for an interface of an exporter whose address is of either family. -/
def of (exporter : IpAddress) (index : UInt32) : Query := ⟨exporter.canonical, index⟩

/-- The query as it is shown: the exporter, a number sign, the index. -/
def chars (query : Query) : List Char :=
  query.exporter.shown.chars ++ '#' :: Decimal.digits query.index.toNat

/-- The query as it is shown. -/
def text (query : Query) : String := String.ofList query.chars

/-- The order of queries, by exporter and then by index. -/
def compare (a b : Query) : Ordering :=
  (Ord.compare a.exporter b.exporter).then (Ord.compare a.index.toNat b.index.toNat)

/-- Whether a query comes before another or is the same. -/
def le (a b : Query) : Bool := compare a b != .gt

/-- The parts of a query that were read so far. -/
structure Gathered where
  /-- The exporter. -/
  exporter : Option Address := none
  /-- The index. -/
  index : Option UInt32 := none

/-- A query as a record of documents. -/
def record : Record Gathered Query where
  label := "struct Query"
  fields :=
    [ { name := "exporter_ip", required := true, isSet := (·.exporter.isSome)
        read := fun g => Address.decoder.map fun v => { g with exporter := some v } },
      { name := "if_index", required := true, isSet := (·.index.isSome)
        read := fun g => Decoder.word32.map fun v => { g with index := some v } } ]
  empty := {}
  build g := do
    let exporter ← Json.requireField "exporter_ip" g.exporter
    let index ← Json.requireField "if_index" g.index
    return ⟨exporter, index⟩

/-- Reads a query. -/
def decoder : Decoder Query := record.decoder

/-- A query as a value. -/
def toJson (query : Query) : Value :=
  .object [("exporter_ip", query.exporter.toJson), ("if_index", .nat query.index.toNat)]

end Query

/-- Several interfaces of one exporter, asked for together. -/
structure BatchQuery where
  /-- The address of the exporter. -/
  exporter : Address
  /-- The indexes in the order of submission. -/
  indexes : List UInt32
  deriving DecidableEq, Repr, Inhabited

namespace BatchQuery

/-- The batch for interfaces of an exporter whose address is of either family. -/
def of (exporter : IpAddress) (indexes : List UInt32) : BatchQuery := ⟨exporter.canonical, indexes⟩

/-- The queries of a batch in order. -/
def queries (batch : BatchQuery) : List Query :=
  batch.indexes.map fun index => ⟨batch.exporter, index⟩

/-- The parts of a batch that were read so far. -/
structure Gathered where
  /-- The exporter. -/
  exporter : Option Address := none
  /-- The indexes. -/
  indexes : Option (List UInt32) := none

/-- A batch as a record of documents. -/
def record : Record Gathered BatchQuery where
  label := "struct BatchQuery"
  fields :=
    [ { name := "exporter_ip", required := true, isSet := (·.exporter.isSome)
        read := fun g => Address.decoder.map fun v => { g with exporter := some v } },
      { name := "if_indexes", required := true, isSet := (·.indexes.isSome)
        read := fun g => (Decoder.list Decoder.word32).map fun v => { g with indexes := some v } } ]
  empty := {}
  build g := do
    let exporter ← Json.requireField "exporter_ip" g.exporter
    let indexes ← Json.requireField "if_indexes" g.indexes
    return ⟨exporter, indexes⟩

/-- Reads a batch. -/
def decoder : Decoder BatchQuery := record.decoder

/-- A batch as a value. -/
def toJson (batch : BatchQuery) : Value :=
  .object [("exporter_ip", batch.exporter.toJson),
    ("if_indexes", .array (batch.indexes.map fun index => .nat index.toNat))]

end BatchQuery

/-- The answer to a query, as a provider reports it. -/
structure Update where
  /-- The query. -/
  query : Query
  /-- The answer. -/
  answer : Answer
  deriving DecidableEq, Repr, Inhabited

namespace Update

/-- The parts of an update that were read so far. -/
structure Gathered where
  /-- The query. -/
  query : Option Query := none
  /-- The answer. -/
  answer : Option Answer := none

/-- An update as a record of documents. -/
def record : Record Gathered Update where
  label := "struct Update"
  fields :=
    [ { name := "query", required := true, isSet := (·.query.isSome)
        read := fun g => Query.decoder.map fun v => { g with query := some v } },
      { name := "answer", required := true, isSet := (·.answer.isSome)
        read := fun g => Answer.decoder.map fun v => { g with answer := some v } } ]
  empty := {}
  build g := do
    let query ← Json.requireField "query" g.query
    let answer ← Json.requireField "answer" g.answer
    return ⟨query, answer⟩

/-- Reads an update. -/
def decoder : Decoder Update := record.decoder

/-- An update as a value. -/
def toJson (update : Update) : Value :=
  .object [("query", update.query.toJson), ("answer", update.answer.toJson)]

end Update

end FlowEnrichment
