import FlowEnrichment.Proofs.FileTree
import FlowEnrichment.Proofs.Records
import FlowEnrichment.Store.Snapshot

/-!
# Loading what was saved

A format of keys and values is lawful when each of them is read back as it was. Then a snapshot
of a store is decoded to the entries of the store, the store is made up again of its entries,
and `Store.load_save` says that a store is loaded from where it was saved.
-/
namespace FlowEnrichment

open Json

/-- The points in time of words are the words again. -/
theorem Timestamp.word_ofWord (nanos : UInt64) : (Timestamp.ofWord nanos).word = nanos := by
  have bound : nanos.toNat < UInt64.size := nanos.toNat_lt
  have clamped : min nanos.toNat (UInt64.size - 1) = nanos.toNat := by omega
  rw [ofWord, word, Int.toNat_natCast, clamped, UInt64.ofNat_toNat]

/-- A format whose keys and values, nested to a depth, are read back as they were. -/
structure EntryFormat.Lawful {κ ν : Type} (format : EntryFormat κ ν) (depth : Nat) : Prop where
  /-- The numbers of a key are exact. -/
  exact_key : ∀ key, (format.keyToJson key).Exact
  /-- The numbers of a value are exact. -/
  exact_value : ∀ value, (format.valueToJson value).Exact
  /-- A key is read back. -/
  reads_key : ∀ key, format.keyDecoder.Reads depth (format.keyToJson key) key
  /-- A value is read back. -/
  reads_value : ∀ value, format.valueDecoder.Reads depth (format.valueToJson value) value

namespace Snapshot

variable {κ ν : Type} {format : EntryFormat κ ν} {depth : Nat}

/-! ## Documents -/

/-- The numbers of a document are exact. -/
theorem exact_toJson (lawful : format.Lawful depth) (entries : List (StoreEntry κ ν)) :
    (toJson format entries).Exact := by
  refine ⟨exact_word32 version, Value.exactItems_of_forall ?_, trivial⟩
  intro item member
  obtain ⟨entry, -, rfl⟩ := List.mem_map.1 member
  exact ⟨lawful.exact_key entry.key, lawful.exact_value entry.value,
    exact_word64 entry.lastAccess, exact_word64 entry.lastUpdate, trivial⟩

/-- What has been gathered of an entry when the fields of certain names have been read. -/
def entryPart (entry : StoreEntry κ ν) (got : String → Bool) : GatheredEntry κ ν where
  key := given (got "key") entry.key
  value := given (got "value") entry.value
  lastAccess := given (got "last_access") entry.lastAccess
  lastUpdate := given (got "last_update") entry.lastUpdate

/-- Every entry of the object of an entry brings its field. -/
theorem fits_entry (lawful : format.Lawful depth) (entry : StoreEntry κ ν) :
    (entryRecord format).Fits (entryPart entry) depth
      [("key", format.keyToJson entry.key), ("value", format.valueToJson entry.value),
        ("last_access", .nat entry.lastAccess.toNat),
        ("last_update", .nat entry.lastUpdate.toNat)] where
  each item member := by
    left
    simp only [List.mem_cons, List.not_mem_nil, or_false] at member
    rcases member with rfl | rfl | rfl | rfl
    · exact ⟨_, rfl, fun _ => ⟨isSome_given _ _, (lawful.reads_key _).map _⟩⟩
    · exact ⟨_, rfl, fun _ => ⟨isSome_given _ _, (lawful.reads_value _).map _⟩⟩
    · exact ⟨_, rfl, fun _ => ⟨isSome_given _ _, (Decoder.reads_word64 depth _).map _⟩⟩
    · exact ⟨_, rfl, fun _ => ⟨isSome_given _ _, (Decoder.reads_word64 depth _).map _⟩⟩
  once := by
    show ["key", "value", "last_access", "last_update"].Nodup
    decide

/-- A written entry is read back. -/
theorem reads_entry (lawful : format.Lawful depth) (entry : StoreEntry κ ν) :
    (entryRecord format).decoder.Reads (depth + 1) (entryToJson format entry) entry :=
  (fits_entry lawful entry).reads (.refl _) rfl rfl

/-- What has been gathered of a document when the fields of certain names have been read. -/
def part (entries : List (StoreEntry κ ν)) (got : String → Bool) : Gathered κ ν where
  version := given (got "version") Snapshot.version
  entries := given (got "entries") entries

/-- The entries of a written document are read back. -/
theorem reads_document (lawful : format.Lawful depth) (entries : List (StoreEntry κ ν)) :
    (record format).decoder.Reads (depth + 3) (toJson format entries) entries := by
  have list := Decoder.reads_list (entryToJson format) entries
    fun entry _ => reads_entry lawful entry
  have fits : (record format).Fits (part entries) (depth + 2)
      [("version", .nat version.toNat),
        ("entries", .array (entries.map (entryToJson format)))] := by
    constructor
    · intro item member
      left
      simp only [List.mem_cons, List.not_mem_nil, or_false] at member
      rcases member with rfl | rfl
      · exact ⟨_, rfl, fun _ => ⟨isSome_given _ _, (Decoder.reads_word32 _ version).map _⟩⟩
      · exact ⟨_, rfl, fun _ => ⟨isSome_given _ _, list.map _⟩⟩
    · show ["version", "entries"].Nodup
      decide
  exact fits.reads (.refl _) rfl rfl

/-- The version of a written document is read whatever else the document holds. -/
theorem reads_header (format : EntryFormat κ ν) (entries : List (StoreEntry κ ν)) :
    headerRecord.decoder.Reads 1 (toJson format entries) version := by
  intro source admits
  obtain ⟨inner, entered, room⟩ := admits.enter
  have unknown : headerRecord.field? "entries" = none := rfl
  have read := (Decoder.reads_word32 0 version).map some inner room
  have gathered : headerRecord.readEntries inner false
      (Draft.ofEntries [("version", .nat version.toNat),
        ("entries", .array (entries.map (entryToJson format)))]) headerRecord.empty =
      .ok (some version, []) := by
    rw [Draft.ofEntries, Draft.ofEntries, Record.readEntries_known rfl rfl read,
      Record.readEntries_unknown unknown]
    rfl
  simp only [Record.decoder, toJson, Draft.ofValue, entered, gathered, bind, Except.bind]
  rfl

/-- A written snapshot is read back. -/
theorem decode_encode (lawful : format.Lawful depth) (shallow : depth + 3 ≤ Source.textRoom)
    (entries : List (StoreEntry κ ν)) :
    decode format (encode format entries) = .ok entries := by
  have exact := exact_toJson lawful entries
  have header := Decoder.ofSymbols_encode exact ((reads_header format entries).mono (by decide))
  have document := Decoder.ofSymbols_encode exact ((reads_document lawful entries).mono shallow)
  simp only [decode, encode, header, document, ne_eq, not_true_eq_false, if_false]
  rfl

/-! ## Files -/

/-- Bytes that were written as a whole are read back. -/
theorem read_replaceFile {files after : FileTree} {path : String} {content : List UInt8}
    (replaced : replaceFile files path content = (after, .ok ())) :
    after.read path = .ok content := by
  unfold replaceFile at replaced
  split at replaced
  case h_1 => cases replaced
  case h_2 files _ =>
    split at replaced
    case h_1 => cases replaced
    case h_2 written write =>
      split at replaced
      case h_1 moved rename =>
        cases replaced
        exact FileTree.read_renameFile (FileTree.read_write write) rename
      case h_2 => cases replaced

end Snapshot

namespace Store

variable {κ ν : Type} [DecidableEq κ]

/-- An entry of a new key comes after the others. -/
theorem insertEntry_of_notMem {entry : StoreEntry κ ν} {entries : List (StoreEntry κ ν)}
    (new : entry.key ∉ entries.map StoreEntry.key) :
    insertEntry entry entries = entries ++ [entry] := by
  induction entries with
  | nil => rfl
  | cons first rest ih =>
    rw [List.map_cons, List.mem_cons, not_or] at new
    rw [insertEntry, if_neg (Ne.symm new.1), ih new.2, List.cons_append]

/-- A store is made up again of its entries. -/
theorem ofEntries_entries (store : Store κ ν) : ofEntries store.entries = store := by
  have build (later : List (StoreEntry κ ν)) (start : Store κ ν)
      (distinct : ((start.entries ++ later).map StoreEntry.key).Nodup) :
      (later.foldl insert start).entries = start.entries ++ later := by
    induction later generalizing start with
    | nil => rw [List.foldl_nil, List.append_nil]
    | cons entry later ih =>
      have new : entry.key ∉ start.entries.map StoreEntry.key := by
        rw [List.map_append, List.map_cons, List.nodup_append] at distinct
        intro member
        exact distinct.2.2 _ member _ List.mem_cons_self rfl
      have step : (start.insert entry).entries = start.entries ++ [entry] :=
        insertEntry_of_notMem new
      have rest := ih (start.insert entry) (by
        rw [step, List.append_assoc]
        exact distinct)
      rw [List.foldl_cons, rest, step, List.append_assoc]
      rfl
  have same : (ofEntries store.entries).entries = store.entries := build store.entries empty
    store.distinct
  cases store with
  | mk entries distinct =>
    cases found : ofEntries entries with
    | mk others _ =>
      rw [found] at same
      cases same
      rfl

omit [DecidableEq κ] in
/-- An entry that goes out and comes in again is the same, whatever its clocks show. -/
theorem map_entry_stored (entries : List (StoreEntry κ ν)) :
    (entries.map StoreEntry.stored).map StoredEntry.entry = entries := by
  have same (entry : StoreEntry κ ν) : entry.stored.entry = entry := by
    rw [StoreEntry.stored, StoredEntry.entry, Timestamp.word_ofWord, Timestamp.word_ofWord]
  rw [List.map_map]
  exact List.map_id'' same entries

/-- A store is loaded from where it was saved. -/
theorem load_save {format : EntryFormat κ ν} {depth : Nat} (lawful : format.Lawful depth)
    (shallow : depth + 3 ≤ Source.textRoom) {store : Store κ ν} {files after : FileTree}
    {path : String} (saved : store.save format files path = (after, .ok ())) :
    load format after path = .ok store := by
  unfold save at saved
  rw [stored, map_entry_stored] at saved
  dsimp only at saved
  cases replaced : Snapshot.replaceFile files path (Snapshot.encode format store.entries) with
  | mk reached outcome =>
    rw [replaced] at saved
    cases outcome with
    | error fault => cases saved
    | ok done =>
      cases saved
      have read := Snapshot.read_replaceFile replaced
      have decoded := Snapshot.decode_encode lawful shallow store.entries
      simp only [load, read, decoded, bind, Except.bind, pure, Except.pure, ofStored,
        map_entry_stored, ofEntries_entries]

end Store

end FlowEnrichment
