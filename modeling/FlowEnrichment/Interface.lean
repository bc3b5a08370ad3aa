import FlowEnrichment.Json.Decoder

/-!
# Interfaces and exporters

What is known of the interface of an exporter. An empty text or a zero speed says that the
attribute is unknown; `Answer.empty` is the answer that says nothing at all. In documents every
attribute may be left out.
-/
namespace FlowEnrichment

open Json (Decoder RecordField Record Value)

/-- The side of the network that an interface faces. -/
inductive Boundary where
  /-- Not known. -/
  | undefined
  /-- Towards other networks. -/
  | external
  /-- Towards the own network. -/
  | internal
  deriving DecidableEq, Repr, Inhabited

namespace Boundary

/-- The name of a side. -/
def name : Boundary → String
  | .undefined => "undefined"
  | .external => "external"
  | .internal => "internal"

/-- All sides by name. -/
def choices : List (String × Boundary) :=
  [.undefined, .external, .internal].map fun boundary => (boundary.name, boundary)

/-- Reads a side. -/
def decoder : Decoder Boundary := Decoder.oneOf choices

/-- A side as a value. -/
def toJson (boundary : Boundary) : Value := .string boundary.name

end Boundary

/-- Attributes of one interface. -/
structure Interface where
  /-- Its name. -/
  name : String := ""
  /-- Its description. -/
  description : String := ""
  /-- Its speed in megabits per second. -/
  speed : UInt64 := 0
  /-- The transit or peering provider reached through it. -/
  provider : String := ""
  /-- The kind of its connection. -/
  connectivity : String := ""
  /-- The side of the network that it faces. -/
  boundary : Boundary := .undefined
  deriving DecidableEq, Repr, Inhabited

namespace Interface

/-- The attributes of an interface that were read so far. -/
structure Gathered where
  /-- Its name. -/
  name : Option String := none
  /-- Its description. -/
  description : Option String := none
  /-- Its speed. -/
  speed : Option UInt64 := none
  /-- Its provider. -/
  provider : Option String := none
  /-- Its connectivity. -/
  connectivity : Option String := none
  /-- Its boundary. -/
  boundary : Option Boundary := none

/-- The fields of an interface in documents. -/
def fields : List (RecordField Gathered) :=
  [ { name := "name", isSet := (·.name.isSome)
      read := fun g => Decoder.text.map fun v => { g with name := some v } },
    { name := "description", isSet := (·.description.isSome)
      read := fun g => Decoder.text.map fun v => { g with description := some v } },
    { name := "speed", isSet := (·.speed.isSome)
      read := fun g => Decoder.word64.map fun v => { g with speed := some v } },
    { name := "provider", isSet := (·.provider.isSome)
      read := fun g => Decoder.text.map fun v => { g with provider := some v } },
    { name := "connectivity", isSet := (·.connectivity.isSome)
      read := fun g => Decoder.text.map fun v => { g with connectivity := some v } },
    { name := "boundary", isSet := (·.boundary.isSome)
      read := fun g => Boundary.decoder.map fun v => { g with boundary := some v } } ]

/-- An interface as a record of documents. -/
def record : Record Gathered Interface where
  label := "struct Interface"
  fields := fields
  empty := {}
  build g := .ok
    { name := g.name.getD ""
      description := g.description.getD ""
      speed := g.speed.getD 0
      provider := g.provider.getD ""
      connectivity := g.connectivity.getD ""
      boundary := g.boundary.getD .undefined }

/-- Reads an interface. -/
def decoder : Decoder Interface := record.decoder

/-- The attributes under their keys. -/
def entries (interface : Interface) : List (String × Value) :=
  [ ("name", .string interface.name),
    ("description", .string interface.description),
    ("speed", .nat interface.speed.toNat),
    ("provider", .string interface.provider),
    ("connectivity", .string interface.connectivity),
    ("boundary", interface.boundary.toJson) ]

/-- An interface as a value. -/
def toJson (interface : Interface) : Value := .object interface.entries

end Interface

/-- Attributes of an exporting device. -/
structure Exporter where
  /-- Its host name. -/
  name : String := ""
  /-- Its general location. -/
  region : String := ""
  /-- Its role. -/
  role : String := ""
  /-- Its owner. -/
  tenant : String := ""
  /-- Its site. -/
  site : String := ""
  /-- The group that it belongs to. -/
  group : String := ""
  deriving DecidableEq, Repr, Inhabited

namespace Exporter

/-- The attributes of an exporter that were read so far. -/
structure Gathered where
  /-- Its name. -/
  name : Option String := none
  /-- Its region. -/
  region : Option String := none
  /-- Its role. -/
  role : Option String := none
  /-- Its tenant. -/
  tenant : Option String := none
  /-- Its site. -/
  site : Option String := none
  /-- Its group. -/
  group : Option String := none

/-- The fields of an exporter in documents. -/
def fields : List (RecordField Gathered) :=
  [ { name := "name", isSet := (·.name.isSome)
      read := fun g => Decoder.text.map fun v => { g with name := some v } },
    { name := "region", isSet := (·.region.isSome)
      read := fun g => Decoder.text.map fun v => { g with region := some v } },
    { name := "role", isSet := (·.role.isSome)
      read := fun g => Decoder.text.map fun v => { g with role := some v } },
    { name := "tenant", isSet := (·.tenant.isSome)
      read := fun g => Decoder.text.map fun v => { g with tenant := some v } },
    { name := "site", isSet := (·.site.isSome)
      read := fun g => Decoder.text.map fun v => { g with site := some v } },
    { name := "group", isSet := (·.group.isSome)
      read := fun g => Decoder.text.map fun v => { g with group := some v } } ]

/-- An exporter as a record of documents. -/
def record : Record Gathered Exporter where
  label := "struct Exporter"
  fields := fields
  empty := {}
  build g := .ok
    { name := g.name.getD ""
      region := g.region.getD ""
      role := g.role.getD ""
      tenant := g.tenant.getD ""
      site := g.site.getD ""
      group := g.group.getD "" }

/-- Reads an exporter. -/
def decoder : Decoder Exporter := record.decoder

/-- The attributes under their keys. -/
def entries (exporter : Exporter) : List (String × Value) :=
  [ ("name", .string exporter.name),
    ("region", .string exporter.region),
    ("role", .string exporter.role),
    ("tenant", .string exporter.tenant),
    ("site", .string exporter.site),
    ("group", .string exporter.group) ]

/-- An exporter as a value. -/
def toJson (exporter : Exporter) : Value := .object exporter.entries

end Exporter

/-- What a provider says about one interface of one exporter. -/
structure Answer where
  /-- The exporter. -/
  exporter : Exporter := {}
  /-- The interface. -/
  interface : Interface := {}
  deriving DecidableEq, Repr, Inhabited

namespace Answer

/-- The answer that says nothing, which records a deliberate negative result. -/
def empty : Answer := {}

/-- Whether the answer says nothing. -/
def isEmpty (answer : Answer) : Bool := answer == empty

/-- The parts of an answer that were read so far. -/
structure Gathered where
  /-- The exporter. -/
  exporter : Option Exporter := none
  /-- The interface. -/
  interface : Option Interface := none

/-- An answer as a record of documents. -/
def record : Record Gathered Answer where
  label := "struct Answer"
  fields :=
    [ { name := "exporter", isSet := (·.exporter.isSome)
        read := fun g => Exporter.decoder.map fun v => { g with exporter := some v } },
      { name := "interface", isSet := (·.interface.isSome)
        read := fun g => Interface.decoder.map fun v => { g with interface := some v } } ]
  empty := {}
  build g := .ok { exporter := g.exporter.getD {}, interface := g.interface.getD {} }

/-- Reads an answer. -/
def decoder : Decoder Answer := record.decoder

/-- An answer as a value. -/
def toJson (answer : Answer) : Value :=
  .object [("exporter", answer.exporter.toJson), ("interface", answer.interface.toJson)]

end Answer

end FlowEnrichment
