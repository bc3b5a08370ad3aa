import FlowEnrichment.Time

/-!
# Stores with two clocks

A store keeps for every key a value, the time of the last access and the time of the last
update, both in nanoseconds since the epoch and clamped to words. Writing sets both clocks;
reading moves the access clock forward and never back. Keys are distinct, which is part of the
type.
-/
namespace FlowEnrichment

/-- A value under a key with its two clocks. -/
structure StoreEntry (κ ν : Type) where
  /-- The key. -/
  key : κ
  /-- The value. -/
  value : ν
  /-- When the value was last read or written. -/
  lastAccess : UInt64
  /-- When the value was last written. -/
  lastUpdate : UInt64
  deriving DecidableEq, Repr

/-- An entry as it is seen from outside, with its clocks as points in time. -/
structure StoredEntry (κ ν : Type) where
  /-- The key. -/
  key : κ
  /-- The value. -/
  value : ν
  /-- When the value was last read or written. -/
  lastAccess : Timestamp
  /-- When the value was last written. -/
  lastUpdate : Timestamp
  deriving DecidableEq, Repr

/-- An entry as it is seen from outside. -/
def StoreEntry.stored {κ ν : Type} (entry : StoreEntry κ ν) : StoredEntry κ ν :=
  ⟨entry.key, entry.value, .ofWord entry.lastAccess, .ofWord entry.lastUpdate⟩

/-- An entry as it is kept. -/
def StoredEntry.entry {κ ν : Type} (stored : StoredEntry κ ν) : StoreEntry κ ν :=
  ⟨stored.key, stored.value, stored.lastAccess.word, stored.lastUpdate.word⟩

/-- Entries with distinct keys, in the order in which the keys came. -/
structure Store (κ ν : Type) where
  /-- The entries. -/
  entries : List (StoreEntry κ ν) := []
  /-- No key occurs twice. -/
  distinct : (entries.map StoreEntry.key).Nodup := by simp

namespace Store

variable {κ ν : Type} [DecidableEq κ]

/-- The store without entries. -/
def empty : Store κ ν := {}

instance : Inhabited (Store κ ν) := ⟨empty⟩

/-- The number of entries. -/
def size (store : Store κ ν) : Nat := store.entries.length

/-- Whether there are no entries. -/
def isEmpty (store : Store κ ν) : Bool := store.size == 0

/-- The entry of a key. -/
def find? (store : Store κ ν) (key : κ) : Option (StoreEntry κ ν) :=
  store.entries.find? fun entry => entry.key = key

/-- Entries with one of them in place of the entry of its key, or after the others. -/
def insertEntry (entry : StoreEntry κ ν) : List (StoreEntry κ ν) → List (StoreEntry κ ν)
  | [] => [entry]
  | first :: rest =>
    if first.key = entry.key then entry :: rest else first :: insertEntry entry rest

/-- An entry brings its key to the others, whether or not it was there. -/
theorem mem_keys_insertEntry {entry : StoreEntry κ ν} {entries : List (StoreEntry κ ν)} {key : κ} :
    key ∈ (insertEntry entry entries).map StoreEntry.key ↔
      key = entry.key ∨ key ∈ entries.map StoreEntry.key := by
  induction entries with
  | nil => simp [insertEntry]
  | cons first rest ih =>
    by_cases same : first.key = entry.key
    · simp [insertEntry, same]
    · simp only [insertEntry, same, if_false, List.map_cons, List.mem_cons, ih]
      constructor
      · rintro (h | h | h) <;> simp [h]
      · rintro (h | h | h) <;> simp [h]

/-- So a key stays the key of one entry. -/
theorem nodup_insertEntry {entry : StoreEntry κ ν} {entries : List (StoreEntry κ ν)}
    (distinct : (entries.map StoreEntry.key).Nodup) :
    ((insertEntry entry entries).map StoreEntry.key).Nodup := by
  induction entries with
  | nil => simp [insertEntry]
  | cons first rest ih =>
    rw [List.map_cons, List.nodup_cons] at distinct
    by_cases same : first.key = entry.key
    · simp only [insertEntry, same, if_true, List.map_cons, List.nodup_cons]
      exact ⟨same ▸ distinct.1, distinct.2⟩
    · simp only [insertEntry, same, if_false, List.map_cons, List.nodup_cons]
      refine ⟨fun h => ?_, ih distinct.2⟩
      rcases mem_keys_insertEntry.1 h with h | h
      · exact same h
      · exact distinct.1 h

/-- The store with an entry in place of the one of its key. -/
def insert (store : Store κ ν) (entry : StoreEntry κ ν) : Store κ ν where
  entries := insertEntry entry store.entries
  distinct := nodup_insertEntry store.distinct

/-- Writes a value, which sets both clocks. -/
def put (store : Store κ ν) (now : Timestamp) (key : κ) (value : ν) : Store κ ν :=
  store.insert ⟨key, value, now.word, now.word⟩

/-- An entry that was read at a time; its access clock never goes back. -/
def touch (now : Timestamp) (entry : StoreEntry κ ν) : StoreEntry κ ν :=
  { entry with lastAccess := max entry.lastAccess now.word }

/-- Reads a value and moves its access clock; reading an absent key changes nothing. -/
def get (store : Store κ ν) (now : Timestamp) (key : κ) : Store κ ν × Option ν :=
  match store.find? key with
  | some entry => (store.insert (touch now entry), some entry.value)
  | none => (store, none)

/-- The store with those of its entries that satisfy a condition. -/
def filter (store : Store κ ν) (keep : StoreEntry κ ν → Bool) : Store κ ν where
  entries := store.entries.filter keep
  distinct := store.distinct.sublist (List.Sublist.map _ List.filter_sublist)

/-- Removes the entries that were last accessed before a time, and reports their number. -/
def deleteAccessedBefore (store : Store κ ν) (before : Timestamp) : Store κ ν × Nat :=
  let kept := store.filter fun entry => before.word ≤ entry.lastAccess
  (kept, store.size - kept.size)

/-- The keys and values that were last updated before a time. -/
def updatedBefore (store : Store κ ν) (before : Timestamp) : List (κ × ν) :=
  (store.entries.filter fun entry => entry.lastUpdate < before.word).map fun entry =>
    (entry.key, entry.value)

/-- The store of a list of entries, of a repeated key the last. -/
def ofEntries (entries : List (StoreEntry κ ν)) : Store κ ν :=
  entries.foldl insert empty

/-- The entries as they are seen from outside. -/
def stored (store : Store κ ν) : List (StoredEntry κ ν) := store.entries.map StoreEntry.stored

/-- The store of entries that came from outside. -/
def ofStored (entries : List (StoredEntry κ ν)) : Store κ ν :=
  ofEntries (entries.map StoredEntry.entry)

/-- The entries in ascending order of their keys. -/
def sorted (store : Store κ ν) (le : κ → κ → Bool) : List (StoreEntry κ ν) :=
  store.entries.mergeSort fun a b => le a.key b.key

end Store

end FlowEnrichment
