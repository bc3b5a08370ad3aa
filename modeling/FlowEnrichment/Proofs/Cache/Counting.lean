import Mathlib.Data.List.Induction
import FlowEnrichment.Cache

/-!
# What a cache counts

Whoever uses a cache can keep an account of it from outside: the lookups made and those that were
answered, the writes that brought a new query, and by how much loading has made the cache smaller.
`Cache.Balanced` says that the counts of the cache agree with that account. Every operation enters
its part on both sides (`Balanced.step`), so they agree after every history of a cache
(`counters_balance`).
-/
namespace FlowEnrichment

/-! ## Sizes -/

namespace Store

variable {κ ν : Type} [DecidableEq κ]

/-- An entry that is put among others replaces the one of its key or is one more. -/
theorem length_insertEntry (entry : StoreEntry κ ν) (entries : List (StoreEntry κ ν)) :
    (insertEntry entry entries).length = entries.length +
      if (entries.find? fun other => other.key = entry.key).isNone then 1 else 0 := by
  induction entries with
  | nil => rfl
  | cons first rest ih =>
    by_cases same : first.key = entry.key
    · simp [insertEntry, same]
    · simp only [insertEntry, same, if_false, List.length_cons, ih, List.find?_cons, decide_false]
      omega

/-- A store grows when a key is written that it does not hold. -/
theorem size_put (store : Store κ ν) (now : Timestamp) (key : κ) (value : ν) :
    (store.put now key value).size =
      store.size + if (store.find? key).isNone then 1 else 0 :=
  length_insertEntry _ _

/-- A store that is read keeps its size. -/
theorem size_get (store : Store κ ν) (now : Timestamp) (key : κ) :
    (store.get now key).1.size = store.size := by
  unfold get
  split
  case h_1 entry found =>
    have named : entry.key = key := by simpa using List.find?_some found
    have held : store.entries.find? (fun other => other.key = (touch now entry).key) =
        some entry := by
      show store.find? entry.key = some entry
      rw [named, found]
    rw [size, insert, length_insertEntry, held]
    rfl
  case h_2 => rfl

omit [DecidableEq κ] in
/-- What is deleted and what is left make up the store. -/
theorem size_deleteAccessedBefore (store : Store κ ν) (before : Timestamp) :
    (store.deleteAccessedBefore before).2 + (store.deleteAccessedBefore before).1.size =
      store.size :=
  Nat.sub_add_cancel (List.length_filter_le _ _)

end Store

namespace Cache

/-! ## Operations and their account -/

/-- An operation on a cache. Snapshots are saved to and loaded from the files as these are at that
moment, whatever has happened to them before. -/
inductive Operation where
  /-- Looks a query up. -/
  | lookup (now : Timestamp) (query : Query)
  /-- Stores an answer. -/
  | put (now : Timestamp) (query : Query) (answer : Answer)
  /-- Removes entries. -/
  | expire (before : Timestamp)
  /-- Lists what is due for an update. -/
  | needUpdates (before : Timestamp)
  /-- Saves the cache. -/
  | save (files : FileTree) (path : String)
  /-- Loads a snapshot. -/
  | load (files : FileTree) (path : String)

/-- The cache after an operation. Listing and saving only read it. -/
def Operation.apply (cache : Cache) : Operation → Cache
  | lookup now query => (cache.lookup now query).1
  | put now query answer => cache.put now query answer
  | expire before => (cache.expire before).1
  | needUpdates _ => cache
  | save _ _ => cache
  | load files path => (cache.load files path).1

/-- What is known of a cache from outside. -/
structure Account where
  /-- The lookups made. -/
  lookups : Nat := 0
  /-- The lookups that returned an answer. -/
  answered : Nat := 0
  /-- The writes of queries for which there was no entry. -/
  created : Nat := 0
  /-- By how many entries all loads together have made the cache smaller. -/
  shrunk : Int := 0
  deriving DecidableEq, Repr

/-- The account after an operation that met a cache. -/
def Account.enter (account : Account) (cache : Cache) : Operation → Account
  | .lookup now query =>
    { account with
      lookups := account.lookups + 1
      answered := account.answered + if (cache.lookup now query).2.isSome then 1 else 0 }
  | .put _ query _ =>
    { account with
      created := account.created + if (cache.store.find? query).isNone then 1 else 0 }
  | .load files path =>
    { account with
      shrunk := account.shrunk + (cache.size - (cache.load files path).1.size) }
  | .expire _ | .needUpdates _ | .save _ _ => account

/-- A cache and the account of it, after one more operation. -/
def advance (state : Cache × Account) (operation : Operation) : Cache × Account :=
  (operation.apply state.1, state.2.enter state.1 operation)

/-- A cache and the account of it after a history. The cache starts without entries, with counters
that may have been in use before. -/
def through (started : CacheCounters) (history : List Operation) : Cache × Account :=
  history.foldl advance (fresh started, {})

/-- The counts of a cache, without those with which it started, agree with the account of it. -/
structure Balanced (started : CacheCounters) (cache : Cache) (account : Account) : Prop where
  /-- The measured size is the number of entries. -/
  size : cache.counters.size = cache.size
  /-- Every answered lookup was counted as a hit. -/
  hits : cache.counters.hits = started.hits + account.answered
  /-- Every lookup was counted as a hit or as a miss. -/
  lookups : cache.counters.hits + cache.counters.misses =
    started.hits + started.misses + account.lookups
  /-- The entries that were created are there, have expired or were replaced by a load. -/
  entries : (cache.counters.expired + cache.size + account.shrunk : Int) =
    started.expired + account.created

/-! ## One operation -/

/-- A lookup leaves the number of entries and their counts alone, and is counted by its outcome. -/
theorem lookup_counts (cache : Cache) (now : Timestamp) (query : Query) :
    (cache.lookup now query).1.size = cache.size ∧
      (cache.lookup now query).1.counters =
        if (cache.lookup now query).2.isSome then
          { cache.counters with hits := cache.counters.hits + 1 }
        else { cache.counters with misses := cache.counters.misses + 1 } := by
  have kept := Store.size_get cache.store now query
  unfold lookup
  cases read : cache.store.get now query with
  | mk store outcome =>
    rw [read] at kept
    cases outcome with
    | some answer => exact ⟨kept, rfl⟩
    | none => exact ⟨kept, rfl⟩

/-- A load that succeeds measures what was loaded, and one that fails changes nothing. -/
theorem load_counts (cache : Cache) (files : FileTree) (path : String) :
    (cache.load files path).1 = cache ∨
      (cache.load files path).1.counters =
        { cache.counters with size := (cache.load files path).1.size } := by
  unfold load
  cases Store.load format files path with
  | ok store => exact .inr rfl
  | error failure => exact .inl rfl

variable {started : CacheCounters} {cache : Cache} {account : Account}

/-- A cache without entries has an empty account. -/
theorem balanced_fresh (started : CacheCounters) : Balanced started (fresh started) {} where
  size := rfl
  hits := rfl
  lookups := rfl
  entries := by simp [fresh, size, Store.size, Store.empty]

/-- A lookup is counted once, by whether it is answered. -/
theorem Balanced.lookup (balanced : Balanced started cache account) (now : Timestamp)
    (query : Query) :
    Balanced started (cache.lookup now query).1 (account.enter cache (.lookup now query)) := by
  obtain ⟨kept, counted⟩ := lookup_counts cache now query
  obtain ⟨size, hits, lookups, entries⟩ := balanced
  cases answered : (cache.lookup now query).2.isSome with
  | true =>
    rw [answered, if_pos rfl] at counted
    refine ⟨?_, ?_, ?_, ?_⟩
    all_goals simp only [Account.enter, counted, kept, answered, if_true]
    all_goals omega
  | false =>
    rw [answered, if_neg Bool.false_ne_true] at counted
    refine ⟨?_, ?_, ?_, ?_⟩
    all_goals simp only [Account.enter, counted, kept, answered, Bool.false_eq_true, if_false]
    all_goals omega

/-- A write is counted if it brings a new query. -/
theorem Balanced.put (balanced : Balanced started cache account) (now : Timestamp) (query : Query)
    (answer : Answer) :
    Balanced started (cache.put now query answer)
      (account.enter cache (.put now query answer)) where
  size := rfl
  hits := balanced.hits
  lookups := balanced.lookups
  entries := by
    have grown : (cache.put now query answer).size =
        cache.size + if (cache.store.find? query).isNone then 1 else 0 :=
      Store.size_put cache.store now query answer
    have entries := balanced.entries
    have counted : (cache.put now query answer).counters.expired = cache.counters.expired := rfl
    rw [grown, counted, Account.enter]
    push_cast
    omega

/-- Entries that are removed are counted. -/
theorem Balanced.expire (balanced : Balanced started cache account) (before : Timestamp) :
    Balanced started (cache.expire before).1 account where
  size := rfl
  hits := balanced.hits
  lookups := balanced.lookups
  entries := by
    have parts := Store.size_deleteAccessedBefore cache.store before
    have entries := balanced.entries
    have left : (cache.expire before).1.size = (cache.store.deleteAccessedBefore before).1.size :=
      rfl
    have counted : (cache.expire before).1.counters.expired =
        cache.counters.expired + (cache.store.deleteAccessedBefore before).2 := rfl
    have before_size : cache.size = cache.store.size := rfl
    rw [left, counted]
    omega

/-- A load is counted by how much smaller it makes the cache, and it measures what it leaves. -/
theorem Balanced.load (balanced : Balanced started cache account) (files : FileTree)
    (path : String) :
    Balanced started (cache.load files path).1 (account.enter cache (.load files path)) := by
  obtain ⟨size, hits, lookups, entries⟩ := balanced
  rcases load_counts cache files path with same | counted
  · refine ⟨?_, ?_, ?_, ?_⟩
    all_goals simp only [Account.enter, same]
    all_goals omega
  · refine ⟨?_, ?_, ?_, ?_⟩
    all_goals simp only [Account.enter, counted]
    all_goals omega

/-- Every operation enters on both sides what it does. -/
theorem Balanced.step (balanced : Balanced started cache account) (operation : Operation) :
    Balanced started (operation.apply cache) (account.enter cache operation) := by
  cases operation with
  | lookup now query => exact balanced.lookup now query
  | put now query answer => exact balanced.put now query answer
  | expire before => exact balanced.expire before
  | needUpdates before => exact balanced
  | save files path => exact balanced
  | load files path => exact balanced.load files path

/-! ## Histories -/

/-- The last operation of a history is done on the cache after those before it. -/
theorem through_append (started : CacheCounters) (history : List Operation)
    (operation : Operation) :
    through started (history ++ [operation]) = advance (through started history) operation := by
  rw [through, List.foldl_append]
  rfl

/-- After every history the counts agree with the account. -/
theorem balanced_through (started : CacheCounters) (history : List Operation) :
    Balanced started (through started history).1 (through started history).2 := by
  induction history using List.reverseRecOn with
  | nil => exact balanced_fresh started
  | append_singleton history operation ih =>
    rw [through_append]
    exact ih.step operation

/-- After every history of a cache, and so after each of its operations, the measured size is the
number of entries; the lookups made were counted as hits or as misses, as hits those that
returned an answer; and the entries that have expired, those that are there and those that loads
have taken away, all in all, are the ones that writes of new queries have created. -/
theorem counters_balance (started : CacheCounters) (history : List Operation) :
    let cache := (through started history).1
    let account := (through started history).2
    cache.counters.size = cache.size ∧
    cache.counters.hits + cache.counters.misses =
      started.hits + started.misses + account.lookups ∧
    cache.counters.hits = started.hits + account.answered ∧
    (cache.counters.expired + cache.size + account.shrunk : Int) =
      started.expired + account.created := by
  obtain ⟨size, hits, lookups, entries⟩ := balanced_through started history
  exact ⟨size, lookups, hits, entries⟩

/-- One query is written twice, which creates one entry; the entry is looked up beside another
query, and expires. -/
example :
    let query : Query := ⟨⟨1⟩, 7⟩
    let history : List Operation :=
      [.put ⟨5⟩ query .empty, .put ⟨6⟩ query .empty, .lookup ⟨7⟩ query, .lookup ⟨7⟩ ⟨⟨1⟩, 8⟩,
        .expire ⟨8⟩]
    (through {} history).1.counters = { hits := 1, misses := 1, expired := 1, size := 0 } ∧
      (through {} history).2 = { lookups := 2, answered := 1, created := 1 } := by
  decide

end Cache

end FlowEnrichment
