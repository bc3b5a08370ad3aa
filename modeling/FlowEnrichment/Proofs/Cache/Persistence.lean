import FlowEnrichment.Cache
import FlowEnrichment.Proofs.Store.Loading

/-!
# Caches that are saved and loaded

The keys and values of a cache are queries and answers, which are read back as they were
written. So a cache that loads what another one saved has the entries of that one and no
others, each with both of its clocks. A cache that loads anything else takes over all of it or
nothing, and says why.
-/
namespace FlowEnrichment.Cache

open Json

/-- Queries and answers are read back as they were. -/
theorem format_lawful : format.Lawful 2 where
  exact_key := Query.exact_toJson
  exact_value := Answer.exact_toJson
  reads_key query := Query.reads 1 query
  reads_value answer := Answer.reads 0 answer

/-- A cache that loads what a cache has saved, whatever it held before, has exactly the entries
of that cache and goes on counting for itself. -/
theorem load_of_save {cache : Cache} {files after : FileTree} {path : String}
    (saved : cache.save files path = (after, .ok ())) (other : Cache) :
    ∃ loaded, other.load after path = (loaded, .ok ()) ∧
      loaded.store.entries = cache.store.entries ∧
      (∀ query, loaded.store.find? query = cache.store.find? query) ∧
      loaded.counters = { other.counters with size := cache.size } := by
  have store := Store.load_save format_lawful (by decide) saved
  refine ⟨other.measured cache.store, ?_, rfl, fun _ => rfl, rfl⟩
  simp only [load, store]

/-- A cache with one answer is saved, and loaded into a cache with another one. -/
theorem load_of_save_replaces :
    let name := "xe-0/0/1 \"é\\\n"
    let answer : Answer := { interface := { name, speed := 18446744073709551615 } }
    let cache := Cache.put {} ⟨1700000000123456789⟩ ⟨Ipv4.mapped ⟨0xc0000201⟩, 7⟩ answer
    let other := Cache.put {} ⟨5⟩ ⟨⟨1⟩, 4294967295⟩ .empty
    let content := Snapshot.encode format (cache.store.stored.map StoredEntry.entry)
    let after : FileTree := { nodes := [(["c"], .file content)] }
    cache.save {} "c" = (after, .ok ()) ∧
      ∃ loaded, other.load after "c" = (loaded, .ok ()) ∧
        loaded.store.entries = cache.store.entries ∧
        (∀ query, loaded.store.find? query = cache.store.find? query) ∧
        loaded.counters = { other.counters with size := cache.size } := by
  intro name answer cache other content after
  have saved : cache.save {} "c" = (after, .ok ()) := rfl
  exact ⟨saved, load_of_save saved other⟩

/-! ## Any file -/

open Snapshot (Versioned Lists)

/-- Whatever is found at the path, a cache either takes over the entries that a document of the
current version lists, of a repeated query the last one, and measures them, or stays as it is,
with its entries, their clocks and its counts. It tells an absent file, a file that cannot be
read, a document of another version, whatever else that says, and what is no document. -/
theorem load_all_or_nothing (cache : Cache) (files : FileTree) (path : String) :
    (files.read path = .error .notFound →
      cache.load files path = (cache, .error (.cacheNotFound path))) ∧
    (∀ fault, files.read path = .error fault → fault ≠ .notFound →
      cache.load files path = (cache, .error (.file fault))) ∧
    (∀ content found, files.read path = .ok content → Versioned content found →
      found ≠ Snapshot.version →
      cache.load files path = (cache, .error (.cacheVersion found Snapshot.version))) ∧
    (∀ content listed, files.read path = .ok content → Versioned content Snapshot.version →
      Lists format content listed →
      ∃ loaded, cache.load files path = (loaded, .ok ()) ∧
        (∀ query, loaded.store.find? query =
          listed.reverse.find? fun entry => entry.key = query) ∧
        loaded.size = (listed.map StoreEntry.key).dedup.length ∧
        loaded.counters = { cache.counters with size := loaded.size }) ∧
    (∀ content, files.read path = .ok content →
      (∀ found, Versioned content found →
        found = Snapshot.version ∧ ∀ listed, ¬ Lists format content listed) →
      ∃ fault, cache.load files path = (cache, .error (.document fault))) ∧
    (∀ loaded, cache.load files path = (loaded, .ok ()) →
      ∃ content listed, files.read path = .ok content ∧ Versioned content Snapshot.version ∧
        Lists format content listed) := by
  have failed {failure : Failure} (loaded : Store.load format files path = .error failure) :
      cache.load files path = (cache, .error failure) := by
    rw [load, loaded]
  refine ⟨fun absent => failed ?_, fun fault unreadable other => failed ?_,
    fun content found read versioned other => failed ?_,
    fun content listed read versioned lists => ?_, fun content read neither => ?_,
    fun loaded succeeded => ?_⟩
  · rw [Store.load, absent]
  · rw [Store.load, unreadable]
    cases fault with
    | notFound => exact absurd rfl other
    | _ => rfl
  · rw [Store.load, read]
    exact congrArg (· >>= _) (Snapshot.decode_of_other_version versioned other)
  · have decoded := Snapshot.decode_eq_ok_iff.2 ⟨versioned, lists⟩
    have loaded : Store.load format files path = .ok (Store.ofEntries listed) := by
      rw [Store.load, read]
      simp only [decoded, bind, Except.bind, pure, Except.pure, Store.ofStored,
        Store.map_entry_stored]
    refine ⟨cache.measured (Store.ofEntries listed), ?_, Store.find?_ofEntries listed,
      Store.size_ofEntries listed, rfl⟩
    rw [load, loaded]
  · obtain ⟨fault, decoded⟩ := Snapshot.decode_of_neither neither
    refine ⟨fault, failed ?_⟩
    rw [Store.load, read]
    exact congrArg (· >>= _) decoded
  · cases read : files.read path with
    | error fault =>
      rw [load, Store.load, read] at succeeded
      cases fault <;> cases succeeded
    | ok content =>
      cases decoded : Snapshot.decode format content with
      | error failure =>
        rw [load, Store.load, read] at succeeded
        simp only [decoded, bind, Except.bind] at succeeded
        cases succeeded
      | ok listed => exact ⟨content, listed, rfl, Snapshot.decode_eq_ok_iff.1 decoded⟩

/-- A cache stays as it is when there is no file and when the file has another version, whatever
stands in place of the entries, and takes over the last of two entries of one query. -/
theorem load_all_or_nothing_of_files :
    let kept := Cache.put {} ⟨5⟩ ⟨⟨1⟩, 7⟩ .empty
    let later : Value := .object [("version", .nat 999), ("entries", .string "whatever")]
    let entry (updated : UInt64) : StoreEntry Query Answer := ⟨⟨⟨1⟩, 2⟩, .empty, 3, updated⟩
    let files : FileTree :=
      { nodes := [(["a"], .file (Utf8.encode later.compact)),
                  (["b"], .file (Snapshot.encode format [entry 4, entry 5]))] }
    kept.load files "c" = (kept, .error (.cacheNotFound "c")) ∧
      kept.load files "a" = (kept, .error (.cacheVersion 999 1)) ∧
      ∃ loaded, kept.load files "b" = (loaded, .ok ()) ∧
        loaded.store.find? ⟨⟨1⟩, 2⟩ = some (entry 5) ∧ loaded.size = 1 ∧
        loaded.counters = { kept.counters with size := 1 } := by
  intro kept later entry files
  have exact : later.Exact := ⟨Value.exact_nat (by decide), trivial, trivial⟩
  have versioned : Versioned (Utf8.encode later.compact) 999 := by
    have rest : Passable ["version"] [(.string (some "entries"), .string (some "whatever"))] :=
      passable_cons_iff.2 ⟨.inr rfl, fun _ member => nomatch member⟩
    exact .named (whole_compact exact)
      (passable_cons_iff.2 ⟨.inl List.mem_cons_self, rest⟩) rfl
  have decoded := Snapshot.decode_encode format_lawful (by decide) [entry 4, entry 5]
  obtain ⟨current, lists⟩ := Snapshot.decode_eq_ok_iff.1 decoded
  have absent := (load_all_or_nothing kept files "c").1 rfl
  have other := (load_all_or_nothing kept files "a").2.2.1 _ 999 rfl versioned (by decide)
  obtain ⟨loaded, succeeded, found, size, counters⟩ :=
    (load_all_or_nothing kept files "b").2.2.2.1 _ _ rfl current lists
  have single : loaded.size = 1 := size
  rw [single] at counters
  exact ⟨absent, other, loaded, succeeded, found ⟨⟨1⟩, 2⟩, single, counters⟩

end FlowEnrichment.Cache
