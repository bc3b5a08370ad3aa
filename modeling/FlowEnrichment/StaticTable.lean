import FlowEnrichment.Failure
import FlowEnrichment.Query
import FlowEnrichment.Subnet

/-!
# Static tables

A static table lists exporters by subnet and their interfaces by index. An exporter is answered
from its most specific entry; an interface that the entry does not list is answered with the
default of the entry or left to others. Answers are reported in the order of the batch.
-/
namespace FlowEnrichment

open Json (Decoder RecordField Record Value)

/-- The refusal of a text that is no subnet. -/
def Subnet.refusal (text : String) : Failure :=
  .configuration ("invalid subnet " ++ Text.quoted text ++ ": invalid address: " ++ text)

/-- The subnet that a text is, or its refusal. -/
def Subnet.parse (text : String) : Except Failure Subnet :=
  match Subnet.parse? text.toList with
  | some subnet => .ok subnet
  | none => .error (Subnet.refusal text)

/-- Reads a subnet. -/
def Subnet.decoder : Decoder Subnet :=
  Decoder.text.refine fun text => (Subnet.parse text).mapError Failure.message

/-- A subnet as a value. -/
def Subnet.toJson (subnet : Subnet) : Value := .string subnet.text

/-- An interface of a static exporter. -/
structure StaticInterface where
  /-- Its index. -/
  index : UInt32
  /-- Its attributes. -/
  interface : Interface
  deriving DecidableEq, Repr

namespace StaticInterface

/-- The index of an interface as a record whose object also holds the attributes. -/
def record : Record (Option UInt32) UInt32 where
  label := "struct StaticInterface"
  fields :=
    [ { name := "if_index", required := true, isSet := Option.isSome
        read := fun _ => Decoder.word32.map some } ]
  empty := none
  build := Json.requireField "if_index"

/-- Reads an interface of a static exporter. -/
def decoder : Decoder StaticInterface :=
  record.decoderWith Interface.record.ofLeftovers fun index interface => ⟨index, interface⟩

/-- An interface of a static exporter as a value. -/
def toJson (entry : StaticInterface) : Value :=
  .object (("if_index", .nat entry.index.toNat) :: entry.interface.entries)

end StaticInterface

/-- An exporter of a static table, or a group of exporters. -/
structure StaticExporter where
  /-- The addresses that the entry is about. -/
  subnet : Subnet
  /-- The attributes of the exporter. -/
  exporter : Exporter
  /-- The answer for interfaces that are not listed. -/
  fallback : Interface
  /-- The listed interfaces. -/
  interfaces : List StaticInterface
  /-- Whether interfaces that are not listed are left to the next provider. -/
  skipMissing : Bool
  deriving DecidableEq, Repr

namespace StaticExporter

/-- The fields of a static exporter without the attributes that share its object. -/
structure Gathered where
  /-- The subnet. -/
  subnet : Option Subnet := none
  /-- The default. -/
  fallback : Option Interface := none
  /-- The interfaces. -/
  interfaces : Option (List StaticInterface) := none
  /-- Whether missing interfaces are skipped. -/
  skipMissing : Option Bool := none

/-- A static exporter without its attributes as a record of documents. -/
def record : Record Gathered (Exporter → StaticExporter) where
  label := "struct StaticExporter"
  fields :=
    [ { name := "subnet", required := true, isSet := (·.subnet.isSome)
        read := fun g => Subnet.decoder.map fun v => { g with subnet := some v } },
      { name := "default", isSet := (·.fallback.isSome)
        read := fun g => Interface.decoder.map fun v => { g with fallback := some v } },
      { name := "interfaces", isSet := (·.interfaces.isSome)
        read := fun g =>
          (Decoder.list StaticInterface.decoder).map fun v => { g with interfaces := some v } },
      { name := "skip_missing_interfaces", isSet := (·.skipMissing.isSome)
        read := fun g => Decoder.bool.map fun v => { g with skipMissing := some v } } ]
  empty := {}
  build g := do
    let subnet ← Json.requireField "subnet" g.subnet
    return fun exporter =>
      ⟨subnet, exporter, g.fallback.getD {}, g.interfaces.getD [], g.skipMissing.getD false⟩

/-- Reads a static exporter. -/
def decoder : Decoder StaticExporter :=
  record.decoderWith Exporter.record.ofLeftovers fun entry exporter => entry exporter

/-- A static exporter as a value. -/
def toJson (entry : StaticExporter) : Value :=
  .object (("subnet", entry.subnet.toJson) :: (entry.exporter.entries ++
    [ ("default", entry.fallback.toJson),
      ("interfaces", .array (entry.interfaces.map StaticInterface.toJson)),
      ("skip_missing_interfaces", .bool entry.skipMissing) ]))

/-- The attributes that the entry lists for an index; of a repeated index the last. -/
def listed? (entry : StaticExporter) (index : UInt32) : Option Interface :=
  (entry.interfaces.reverse.find? (·.index == index)).map (·.interface)

/-- The attributes with which the entry answers an index, unless it leaves it to others. -/
def interface? (entry : StaticExporter) (index : UInt32) : Option Interface :=
  match entry.listed? index with
  | some interface => some interface
  | none => if entry.skipMissing then none else some entry.fallback

end StaticExporter

/-- A static table. -/
structure StaticTable where
  /-- The entries in order. -/
  exporters : List StaticExporter := []
  deriving DecidableEq, Repr, Inhabited

namespace StaticTable

/-- A static table as a record of documents. -/
def record : Record (Option (List StaticExporter)) StaticTable where
  label := "struct StaticConfiguration"
  fields :=
    [ { name := "exporters", isSet := Option.isSome
        read := fun _ => (Decoder.list StaticExporter.decoder).map some } ]
  empty := none
  build exporters := .ok ⟨exporters.getD []⟩

/-- Reads a static table. -/
def decoder : Decoder StaticTable := record.decoder

/-- A static table as a value. -/
def toJson (table : StaticTable) : Value :=
  .object [("exporters", .array (table.exporters.map StaticExporter.toJson))]

/-! ## Validity -/

/-- Checks entries in order, knowing the names of the entries before by their subnets. -/
def validateFrom : List (Subnet × String) → List StaticExporter → Except Failure Unit
  | _, [] => .ok ()
  | seen, entry :: rest =>
    let name := entry.exporter.name
    if name = "" then
      .error (.configuration ("static exporter " ++ entry.subnet.text ++ " has no name"))
    else if entry.skipMissing ∧ entry.fallback ≠ {} then
      .error (.configuration ("static exporter " ++ name ++
        " cannot both skip missing interfaces and have a default"))
    else
      match seen.lookup entry.subnet with
      | some previous =>
        .error (.configuration ("subnet " ++ entry.subnet.text ++ " used by both " ++ previous ++
          " and " ++ name))
      | none => validateFrom ((entry.subnet, name) :: seen) rest

/-- Checks that every entry has a name, that none both skips interfaces and has a default, and
that no subnet is repeated. -/
def validate (table : StaticTable) : Except Failure Unit := validateFrom [] table.exporters

/-! ## Answers -/

/-- The better of two entries that contain an address: the more specific one, the first on a tie. -/
def better (best : Option StaticExporter) (entry : StaticExporter) : StaticExporter :=
  match best with
  | some current => if entry.subnet.rank ≤ current.subnet.rank then current else entry
  | none => entry

/-- The most specific entry that contains an address. -/
def lookup (table : StaticTable) (exporter : Address) : Option StaticExporter :=
  table.exporters.foldl
    (fun best entry => if entry.subnet.contains exporter then some (better best entry) else best)
    none

/-- The update with which an entry answers an index of a batch. -/
def update? (entry : StaticExporter) (exporter : Address) (index : UInt32) : Option Update :=
  (entry.interface? index).map fun interface =>
    ⟨⟨exporter, index⟩, ⟨entry.exporter, interface⟩⟩

/-- The updates with which a table answers a batch, and the outcome: indexes that it cannot
answer are skipped, and skipping is no failure of its own. -/
def answer (table : StaticTable) (batch : BatchQuery) : List Update × Except Failure Unit :=
  match table.lookup batch.exporter with
  | none => ([], .error (.skipProvider batch.indexes))
  | some entry =>
    let updates := batch.indexes.filterMap (update? entry batch.exporter)
    let skipped := batch.indexes.filter fun index => (entry.interface? index).isNone
    (updates, if skipped = [] then .ok () else .error (.skipProvider skipped))

end StaticTable

end FlowEnrichment
