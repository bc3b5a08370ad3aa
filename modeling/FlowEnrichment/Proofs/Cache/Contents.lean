import FlowEnrichment.Cache

/-!
# What a cache holds

A relation between keys and values that holds of every entry of a store is kept by whatever
writes only what is so related: reading, which moves a clock, and removing entries keep it anyway.
What has been written is there until it is removed, and what is there is found.
-/
namespace FlowEnrichment

namespace Store

variable {κ ν : Type} [DecidableEq κ] {related : κ → ν → Prop} {store : Store κ ν} {key : κ}

/-- Every key is related to its value. -/
def Holds (related : κ → ν → Prop) (store : Store κ ν) : Prop :=
  ∀ entry ∈ store.entries, related entry.key entry.value

/-- Where an entry is put there are that entry and others that were there. -/
theorem mem_insertEntry {entry other : StoreEntry κ ν} {entries : List (StoreEntry κ ν)}
    (member : other ∈ insertEntry entry entries) : other = entry ∨ other ∈ entries := by
  induction entries with
  | nil => exact .inl (List.mem_singleton.1 member)
  | cons first rest ih =>
    rw [insertEntry] at member
    split at member
    · rcases List.mem_cons.1 member with same | inside
      · exact .inl same
      · exact .inr (List.mem_cons_of_mem first inside)
    · rcases List.mem_cons.1 member with same | inside
      · exact .inr (same ▸ List.mem_cons_self)
      · exact (ih inside).imp_right (List.mem_cons_of_mem first)

/-- An entry that is related may be put. -/
theorem Holds.insert (holds : store.Holds related) {entry : StoreEntry κ ν}
    (new : related entry.key entry.value) : (store.insert entry).Holds related := by
  intro other member
  rcases mem_insertEntry member with rfl | inside
  · exact new
  · exact holds other inside

/-- What is found under a key is related to it. -/
theorem Holds.find? (holds : store.Holds related) {entry : StoreEntry κ ν}
    (found : store.find? key = some entry) : entry.key = key ∧ related key entry.value := by
  have named : entry.key = key := by simpa using List.find?_some found
  refine ⟨named, ?_⟩
  rw [← named]
  exact holds entry (List.mem_of_find?_eq_some found)

/-- Reading keeps what holds. -/
theorem Holds.get (holds : store.Holds related) (now : Timestamp) (key : κ) :
    (store.get now key).1.Holds related := by
  unfold Store.get
  split
  case h_1 entry found =>
    obtain ⟨named, same⟩ := holds.find? found
    refine holds.insert ?_
    show related entry.key entry.value
    rw [named]
    exact same
  case h_2 => exact holds

/-- What is read is related to its key. -/
theorem Holds.of_get (holds : store.Holds related) {now : Timestamp} {value : ν}
    (read : (store.get now key).2 = some value) : related key value := by
  unfold Store.get at read
  split at read
  case h_1 entry found =>
    cases read
    exact (holds.find? found).2
  case h_2 => cases read

omit [DecidableEq κ] in
/-- Removing keeps what holds. -/
theorem Holds.filter (holds : store.Holds related) (keep : StoreEntry κ ν → Bool) :
    (store.filter keep).Holds related :=
  fun entry member => holds entry (List.mem_filter.1 member).1

/-- There is an entry under a key. -/
def Has (store : Store κ ν) (key : κ) : Prop := key ∈ store.entries.map StoreEntry.key

/-- An entry that is put is there, with those that were there. -/
theorem has_insert {entry : StoreEntry κ ν} :
    (store.insert entry).Has key ↔ key = entry.key ∨ store.Has key :=
  mem_keys_insertEntry

/-- What is there is read. -/
theorem Has.get (has : store.Has key) (now : Timestamp) :
    ∃ value, (store.get now key).2 = some value := by
  obtain ⟨entry, member, named⟩ := List.mem_map.1 has
  have some_entry : (store.find? key).isSome :=
    List.find?_isSome.2 ⟨entry, member, decide_eq_true named⟩
  obtain ⟨first, found⟩ := Option.isSome_iff_exists.1 some_entry
  exact ⟨first.value, by rw [Store.get, found]⟩

end Store

namespace Cache

variable {related : Query → Answer → Prop} {cache : Cache}

/-- Every query is related to its answer. -/
def Holds (related : Query → Answer → Prop) (cache : Cache) : Prop := cache.store.Holds related

/-- A cache without entries holds nothing. -/
theorem holds_fresh (counters : CacheCounters) : (fresh counters).Holds related :=
  fun _ member => nomatch member

/-- An answer that is related to its query may be put. -/
theorem Holds.put (holds : cache.Holds related) (now : Timestamp) {query : Query} {answer : Answer}
    (new : related query answer) : (cache.put now query answer).Holds related :=
  Store.Holds.insert holds new

/-- A lookup keeps what holds. -/
theorem Holds.lookup (holds : cache.Holds related) (now : Timestamp) (query : Query) :
    (cache.lookup now query).1.Holds related := by
  have kept := Store.Holds.get holds now query
  unfold Cache.lookup
  cases read : cache.store.get now query with
  | mk store answer =>
    rw [read] at kept
    cases answer with
    | some answer => exact kept
    | none => exact kept

/-- What is looked up is related to its query. -/
theorem Holds.of_lookup (holds : cache.Holds related) {now : Timestamp} {query : Query}
    {answer : Answer} (found : (cache.lookup now query).2 = some answer) :
    related query answer := by
  unfold Cache.lookup at found
  split at found
  case h_1 store value read =>
    cases found
    exact Store.Holds.of_get holds (congrArg Prod.snd read)
  case h_2 => cases found

/-- The expiry of entries keeps what holds. -/
theorem Holds.expire (holds : cache.Holds related) (before : Timestamp) :
    (cache.expire before).1.Holds related :=
  Store.Holds.filter holds _

/-- There is an answer to a query. -/
def Has (cache : Cache) (query : Query) : Prop := cache.store.Has query

/-- An answer that is put is there, with those that were there. -/
theorem has_put {now : Timestamp} {query other : Query} {answer : Answer} :
    (cache.put now query answer).Has other ↔ other = query ∨ cache.Has other :=
  Store.has_insert

/-- What is there is found. -/
theorem Has.lookup {query : Query} (has : cache.Has query) (now : Timestamp) :
    ∃ answer, (cache.lookup now query).2 = some answer := by
  obtain ⟨answer, read⟩ := Store.Has.get has now
  unfold Cache.lookup
  cases taken : cache.store.get now query with
  | mk store found =>
    rw [taken] at read
    cases read
    exact ⟨answer, rfl⟩

end Cache

end FlowEnrichment
