import FlowEnrichment.Failure
import FlowEnrichment.Json.Decoder
import FlowEnrichment.Store

/-!
# Snapshots

A snapshot is a document with the entries of a store and the version of its layout. Saving goes
through a second file that is moved into place, so a snapshot is there as a whole or not at all.
Loading reads the version first, over the whole text, and replaces the store only when all of
the document has been read.
-/
namespace FlowEnrichment

open Json (Decoder RecordField Record Value)

/-- How the keys and values of a store are written and read. -/
structure EntryFormat (κ ν : Type) where
  /-- Writes a key. -/
  keyToJson : κ → Value
  /-- Reads a key. -/
  keyDecoder : Decoder κ
  /-- Writes a value. -/
  valueToJson : ν → Value
  /-- Reads a value. -/
  valueDecoder : Decoder ν

namespace Snapshot

variable {κ ν : Type}

/-- The version of the layout. -/
def version : UInt32 := 1

/-! ## Documents -/

/-- An entry as a value. -/
def entryToJson (format : EntryFormat κ ν) (entry : StoreEntry κ ν) : Value :=
  .object
    [ ("key", format.keyToJson entry.key),
      ("value", format.valueToJson entry.value),
      ("last_access", .nat entry.lastAccess.toNat),
      ("last_update", .nat entry.lastUpdate.toNat) ]

/-- The document of entries. -/
def toJson (format : EntryFormat κ ν) (entries : List (StoreEntry κ ν)) : Value :=
  .object
    [ ("version", .nat version.toNat),
      ("entries", .array (entries.map (entryToJson format))) ]

/-- The parts of an entry that were read so far. -/
structure GatheredEntry (κ ν : Type) where
  /-- The key. -/
  key : Option κ := none
  /-- The value. -/
  value : Option ν := none
  /-- The access clock. -/
  lastAccess : Option UInt64 := none
  /-- The update clock. -/
  lastUpdate : Option UInt64 := none

/-- An entry as a record of documents. -/
def entryRecord (format : EntryFormat κ ν) : Record (GatheredEntry κ ν) (StoreEntry κ ν) where
  label := "struct SnapshotEntry"
  fields :=
    [ { name := "key", required := true, isSet := (·.key.isSome)
        read := fun g => format.keyDecoder.map fun v => { g with key := some v } },
      { name := "value", required := true, isSet := (·.value.isSome)
        read := fun g => format.valueDecoder.map fun v => { g with value := some v } },
      { name := "last_access", required := true, isSet := (·.lastAccess.isSome)
        read := fun g => Decoder.word64.map fun v => { g with lastAccess := some v } },
      { name := "last_update", required := true, isSet := (·.lastUpdate.isSome)
        read := fun g => Decoder.word64.map fun v => { g with lastUpdate := some v } } ]
  empty := {}
  build g := do
    let key ← Json.requireField "key" g.key
    let value ← Json.requireField "value" g.value
    let lastAccess ← Json.requireField "last_access" g.lastAccess
    let lastUpdate ← Json.requireField "last_update" g.lastUpdate
    return ⟨key, value, lastAccess, lastUpdate⟩

/-- The version of a document as a record that ignores everything else. -/
def headerRecord : Record (Option UInt32) UInt32 where
  label := "struct Header"
  fields :=
    [ { name := "version", required := true, isSet := Option.isSome
        read := fun _ => Decoder.word32.map some } ]
  empty := none
  build := Json.requireField "version"

/-- The parts of a document that were read so far. -/
structure Gathered (κ ν : Type) where
  /-- The version. -/
  version : Option UInt32 := none
  /-- The entries. -/
  entries : Option (List (StoreEntry κ ν)) := none

/-- A document as a record. -/
def record (format : EntryFormat κ ν) : Record (Gathered κ ν) (List (StoreEntry κ ν)) where
  label := "struct Snapshot"
  fields :=
    [ { name := "version", required := true, isSet := (·.version.isSome)
        read := fun g => Decoder.word32.map fun v => { g with version := some v } },
      { name := "entries", required := true, isSet := (·.entries.isSome)
        read := fun g =>
          (Decoder.list (entryRecord format).decoder).map fun v => { g with entries := some v } } ]
  empty := {}
  build g := do
    let _ ← Json.requireField "version" g.version
    Json.requireField "entries" g.entries

/-- The bytes of a snapshot. -/
def encode (format : EntryFormat κ ν) (entries : List (StoreEntry κ ν)) : List UInt8 :=
  Utf8.encode (toJson format entries).compact

/-- The entries of a snapshot, if it has the current version. -/
def decode (format : EntryFormat κ ν) (content : List UInt8) :
    Except Failure (List (StoreEntry κ ν)) :=
  let symbols := Utf8.symbols content
  match headerRecord.decoder.ofSymbols symbols with
  | .error fault => .error (.document fault)
  | .ok found =>
    if found ≠ version then .error (.cacheVersion found version)
    else ((record format).decoder.ofSymbols symbols).mapError .document

/-! ## Files -/

/-- The file through which a snapshot is written. -/
def temporary (path : String) : String := path ++ ".tmp"

/-- The directories above a path that may have to be made; nothing for the working directory. -/
def parent? (path : String) : Option String := (Path.parent? path).filter (· ≠ "")

/-- Makes the directories above a path. -/
def makeParents (files : FileTree) (path : String) : FileTree × Except FileFault Unit :=
  match parent? path with
  | none => (files, .ok ())
  | some parent => files.ensureDirectory parent

/-- Writes bytes to a path as a whole, and reports the files reached also if it fails. -/
def replaceFile (files : FileTree) (path : String) (content : List UInt8) :
    FileTree × Except FileFault Unit :=
  match makeParents files path with
  | (files, .error fault) => (files, .error fault)
  | (files, .ok ()) =>
    match files.write (temporary path) content with
    | .error fault => (files, .error fault)
    | .ok written =>
      match written.renameFile (temporary path) path with
      | .ok moved => (moved, .ok ())
      | .error fault => ((written.removeFile (temporary path)).toOption.getD written, .error fault)

end Snapshot

namespace Store

variable {κ ν : Type} [DecidableEq κ]

/-- Saves the entries of a store as a snapshot. -/
def save (format : EntryFormat κ ν) (store : Store κ ν) (files : FileTree) (path : String) :
    FileTree × Except Failure Unit :=
  let content := Snapshot.encode format (store.stored.map StoredEntry.entry)
  let (files, outcome) := Snapshot.replaceFile files path content
  (files, outcome.mapError .file)

/-- The store of a snapshot. -/
def load (format : EntryFormat κ ν) (files : FileTree) (path : String) :
    Except Failure (Store κ ν) :=
  match files.read path with
  | .error .notFound => .error (.cacheNotFound path)
  | .error fault => .error (.file fault)
  | .ok content => do
    let entries ← Snapshot.decode format content
    return ofStored (entries.map StoreEntry.stored)

end Store

end FlowEnrichment
