import Mathlib.Data.List.Dedup
import Mathlib.Data.List.Induction
import FlowEnrichment.Proofs.Json.Members
import FlowEnrichment.Proofs.Store.Snapshot

/-!
# What is loaded from a file

The bytes of a file may be anything. `Snapshot.Versioned` says which of them name a version, and
`Snapshot.Lists` which of them list entries; neither speaks of how they are read. Whatever names
another version is refused with that version, be the rest what it may; what names the current
version and lists entries gives these entries; and everything else is no document.
-/
namespace FlowEnrichment

open Json

/-- The text of a value is the value and nothing else. -/
theorem whole_compact {value : Value} (exact : value.Exact) :
    Whole (Utf8.symbols (Utf8.encode value.compact)) (.ofValue value) := by
  rw [Whole, Utf8.symbols_encode]
  exact Document.read_compact exact

namespace Snapshot

variable {κ ν : Type} {format : EntryFormat κ ν} {content : List UInt8} {found : UInt32}
  {listed : List (StoreEntry κ ν)}

/-! ## Versions -/

/-- What a version is in a document. -/
def versionDraft (found : UInt32) : Draft := .number (some (.integer found.toNat))

/-- A document names a version: as the only value under the key, beside anything that can be
passed over, or as the only item of an array. -/
inductive Versioned (content : List UInt8) (found : UInt32) : Prop where
  /-- The version stands under its key. -/
  | named {entries : List (Draft × Draft)}
      (whole : Whole (Utf8.symbols content) (.object entries none))
      (passable : Passable ["version"] entries)
      (single : valuesUnder "version" entries = [versionDraft found])
  /-- The version is the only item. -/
  | placed (whole : Whole (Utf8.symbols content) (.array [versionDraft found] none))

/-- The version is the only thing that is taken of an object. -/
theorem header_takes_iff {source : Source} {entries : List (Draft × Draft)}
    {before after : Option UInt32} :
    headerRecord.Takes source entries before after ↔
      Passable ["version"] entries ∧
        Filled (Decoder.word32 source) before (valuesUnder "version" entries) after := by
  refine Record.takes_iff_of_cons
    (fun entries before after => Passable ["version"] entries ∧
      Filled (Decoder.word32 source) before (valuesUnder "version" entries) after) ?_ ?_ ?_
  · intro before after
    simp [Passable, valuesUnder, Filled]
  · rintro name value rest before after ⟨passable, -⟩
    exact passable.key
  · intro key value rest before after
    rw [passable_cons_iff, valuesUnder]
    by_cases own : key = "version"
    · subst own
      simp only [headerRecord, Record.field?, List.find?_cons, BEq.rfl, Bool.true_or, if_true,
        filled_cons_iff, Decoder.map_eq_ok_iff, List.mem_singleton, true_or, true_and]
      constructor
      · rintro ⟨passable, missing, x, read, filled⟩
        exact ⟨missing, some x, ⟨x, read, rfl⟩, passable, filled⟩
      · rintro ⟨missing, _, ⟨x, read, rfl⟩, passable, filled⟩
        exact ⟨passable, missing, x, read, filled⟩
    · have unknown : headerRecord.field? key = none := by
        simp [headerRecord, Record.field?, Ne.symm own]
      rw [unknown, if_neg own, List.mem_singleton, or_iff_right own, and_assoc]

/-- A header is decoded from an object by the only value under its key. -/
theorem header_object_iff {source : Source} {entries : List (Draft × Draft)}
    {ending : Option Fault} :
    headerRecord.decoder source (.object entries ending) = .ok found ↔
      (∃ inner, source.enter = .ok inner) ∧ ending = none ∧ Passable ["version"] entries ∧
        valuesUnder "version" entries = [versionDraft found] := by
  have single (inner : Source) :
      Filled (Decoder.word32 inner) none (valuesUnder "version" entries) (some found) ↔
        valuesUnder "version" entries = [versionDraft found] := by
    simp only [filled_some_iff, Decoder.word32_eq_ok_iff, exists_eq_right, versionDraft]
  rw [Record.decoder_object_iff]
  constructor
  · rintro ⟨inner, gathered, entered, ended, takes, built⟩
    obtain ⟨passable, filled⟩ := header_takes_iff.1 takes
    cases requireField_eq_ok_iff.1 built
    exact ⟨⟨inner, entered⟩, ended, passable, (single inner).1 filled⟩
  · rintro ⟨⟨inner, entered⟩, ended, passable, value⟩
    have takes := header_takes_iff.2 ⟨passable, (single inner).2 value⟩
    exact ⟨inner, some found, entered, ended, takes, rfl⟩

/-- A header is decoded from an array by its only item. -/
theorem header_array_iff {room : Nat} {items : List Draft} {ending : Option Fault} :
    headerRecord.decoder (.text room) (.array items ending) = .ok found ↔
      room ≠ 0 ∧ ending = none ∧ items = [versionDraft found] := by
  rw [Record.decoder_array_iff]
  constructor
  · rintro ⟨inner, gathered, entered, ended, read, built, few⟩
    have entered_room : room ≠ 0 := by
      rintro rfl
      cases entered
    refine ⟨entered_room, ended, ?_⟩
    cases requireField_eq_ok_iff.1 built
    match items with
    | [] => simp [headerRecord, Record.readItems, bind_eq_ok_iff] at read
    | [item] =>
      obtain ⟨_, decoded, rest⟩ := bind_eq_ok_iff.1 read
      obtain ⟨_, word, rfl⟩ := Decoder.map_eq_ok_iff.1 decoded
      cases rest
      rw [Decoder.word32_eq_ok_iff.1 word, versionDraft]
    | _ :: _ :: _ => simp [headerRecord, Source.surplus] at few
  · rintro ⟨some_room, rfl, rfl⟩
    obtain ⟨less, rfl⟩ := Nat.exists_eq_succ_of_ne_zero some_room
    have word : Decoder.word32 (.text less) (versionDraft found) = .ok found :=
      Decoder.word32_eq_ok_iff.2 rfl
    have read : headerRecord.readItems (.text less) none headerRecord.fields [versionDraft found]
        headerRecord.empty = .ok (some found) :=
      bind_eq_ok_iff.2 ⟨some found, Decoder.map_eq_ok_iff.2 ⟨found, word, rfl⟩, rfl⟩
    exact ⟨.text less, some found, rfl, rfl, read, rfl, rfl⟩

/-- A header is decoded from a document that names a version. -/
theorem header_eq_ok_iff :
    headerRecord.decoder.ofSymbols (Utf8.symbols content) = .ok found ↔
      Versioned content found := by
  rw [Decoder.ofSymbols_eq_ok_iff]
  constructor
  · rintro ⟨draft, whole, decoded⟩
    cases draft with
    | object entries ending =>
      obtain ⟨-, rfl, passable, single⟩ := header_object_iff.1 decoded
      exact .named whole passable single
    | array items ending =>
      obtain ⟨-, rfl, rfl⟩ := header_array_iff.1 decoded
      exact .placed whole
    | _ => cases decoded
  · rintro (⟨whole, passable, single⟩ | whole)
    · exact ⟨_, whole, header_object_iff.2 ⟨⟨_, rfl⟩, rfl, passable, single⟩⟩
    · exact ⟨_, whole, header_array_iff.2 ⟨by decide, rfl, rfl⟩⟩

/-! ## Entries -/

/-- A document lists entries: it is an object whose keys are texts, with a version as the only
value under its key and an array as the only value under the other, each item of which is an
entry; what stands under further keys can be passed over. -/
inductive Lists (format : EntryFormat κ ν) (content : List UInt8)
    (listed : List (StoreEntry κ ν)) : Prop where
  /-- The array lists the entries. -/
  | intro {entries : List (Draft × Draft)} {items : List Draft} {found : UInt32}
      (whole : Whole (Utf8.symbols content) (.object entries none))
      (passable : Passable ["version", "entries"] entries)
      (single : valuesUnder "version" entries = [versionDraft found])
      (array : valuesUnder "entries" entries = [.array items none])
      (each : List.Forall₂ (fun item entry =>
        (entryRecord format).decoder (.text (Source.textRoom - 2)) item = .ok entry) items listed)

/-- The version and the entries are taken of an object. -/
theorem document_takes_iff {source : Source} {entries : List (Draft × Draft)}
    {before after : Gathered κ ν} :
    (record format).Takes source entries before after ↔
      Passable ["version", "entries"] entries ∧
        Filled (Decoder.word32 source) before.version (valuesUnder "version" entries)
          after.version ∧
        Filled (Decoder.list (entryRecord format).decoder source) before.entries
          (valuesUnder "entries" entries) after.entries := by
  refine Record.takes_iff_of_cons
    (fun entries (before after : Gathered κ ν) => Passable ["version", "entries"] entries ∧
        Filled (Decoder.word32 source) before.version (valuesUnder "version" entries)
          after.version ∧
        Filled (Decoder.list (entryRecord format).decoder source) before.entries
          (valuesUnder "entries" entries) after.entries) ?_ ?_ ?_
  · rintro ⟨_, _⟩ ⟨_, _⟩
    simp [Passable, valuesUnder, Filled]
  · rintro name value rest before after ⟨passable, -⟩
    exact passable.key
  · intro key value rest before after
    rw [passable_cons_iff, valuesUnder, valuesUnder]
    by_cases version : key = "version"
    · subst version
      have other : "version" ≠ "entries" := by decide
      simp only [record, Record.field?, List.find?_cons, BEq.rfl, Bool.true_or, if_true,
        filled_cons_iff, Decoder.map_eq_ok_iff, List.mem_cons, true_or, true_and, if_neg other]
      constructor
      · rintro ⟨passable, ⟨missing, x, read, filled⟩, others⟩
        exact ⟨missing, _, ⟨x, read, rfl⟩, passable, filled, others⟩
      · rintro ⟨missing, _, ⟨x, read, rfl⟩, passable, filled, others⟩
        exact ⟨passable, ⟨missing, x, read, filled⟩, others⟩
    · by_cases own : key = "entries"
      · subst own
        have other : ("version" == "entries") = false := by decide
        simp only [record, Record.field?, List.find?_cons, BEq.rfl, other, if_true,
          List.contains_nil, Bool.or_false, filled_cons_iff, Decoder.map_eq_ok_iff,
          List.mem_cons, true_or, or_true, true_and, if_neg version]
        constructor
        · rintro ⟨passable, filled, missing, xs, read, others⟩
          exact ⟨missing, _, ⟨xs, read, rfl⟩, passable, filled, others⟩
        · rintro ⟨missing, _, ⟨xs, read, rfl⟩, passable, filled, others⟩
          exact ⟨passable, filled, missing, xs, read, others⟩
      · have unknown : (record format).field? key = none := by
          simp [record, Record.field?, Ne.symm own, Ne.symm version]
        have other : key ∉ ["version", "entries"] := by simp [own, version]
        rw [unknown, if_neg own, if_neg version, or_iff_right other, and_assoc]

/-- A snapshot is decoded from an object by the only values under its keys. -/
theorem document_object_iff {entries : List (Draft × Draft)} {ending : Option Fault} :
    (record format).decoder (.text Source.textRoom) (.object entries ending) = .ok listed ↔
      ending = none ∧ Passable ["version", "entries"] entries ∧
        (∃ found, valuesUnder "version" entries = [versionDraft found]) ∧
        ∃ items, valuesUnder "entries" entries = [.array items none] ∧
          List.Forall₂ (fun item entry =>
            (entryRecord format).decoder (.text (Source.textRoom - 2)) item = .ok entry)
            items listed := by
  have version (inner : Source) (found : UInt32) :
      Filled (Decoder.word32 inner) none (valuesUnder "version" entries) (some found) ↔
        valuesUnder "version" entries = [versionDraft found] := by
    simp only [filled_some_iff, Decoder.word32_eq_ok_iff, exists_eq_right, versionDraft]
  have array : Filled (Decoder.list (entryRecord format).decoder (.text (Source.textRoom - 1))) none
      (valuesUnder "entries" entries) (some listed) ↔
        ∃ items, valuesUnder "entries" entries = [.array items none] ∧
          List.Forall₂ (fun item entry =>
            (entryRecord format).decoder (.text (Source.textRoom - 2)) item = .ok entry)
            items listed := by
    rw [filled_some_iff]
    constructor
    · rintro ⟨value, single, decoded⟩
      obtain ⟨items, inner, rfl, entered, each⟩ := Decoder.list_eq_ok_iff.1 decoded
      cases entered
      exact ⟨items, single, each⟩
    · rintro ⟨items, single, each⟩
      exact ⟨_, single, Decoder.list_eq_ok_iff.2 ⟨items, _, rfl, rfl, each⟩⟩
  rw [Record.decoder_object_iff]
  constructor
  · rintro ⟨inner, ⟨gathered_version, gathered_entries⟩, entered, ended, takes, built⟩
    cases entered
    obtain ⟨passable, filled, filled_entries⟩ := document_takes_iff.1 takes
    obtain ⟨found, some_version, some_entries⟩ := bind_eq_ok_iff.1 built
    cases requireField_eq_ok_iff.1 some_version
    cases requireField_eq_ok_iff.1 some_entries
    exact ⟨ended, passable, ⟨found, (version _ found).1 filled⟩, array.1 filled_entries⟩
  · rintro ⟨ended, passable, ⟨found, single⟩, items⟩
    have takes : (record format).Takes (.text (Source.textRoom - 1)) entries {}
        ⟨some found, some listed⟩ :=
      document_takes_iff.2 ⟨passable, (version _ found).2 single, array.2 items⟩
    exact ⟨_, _, rfl, ended, takes, rfl⟩

/-- A snapshot is not decoded from an array with one item. -/
theorem document_array_ne_ok {item : Draft} :
    (record format).decoder (.text Source.textRoom) (.array [item] none) ≠ .ok listed := by
  intro decoded
  obtain ⟨inner, gathered, entered, -, read, -⟩ := Record.decoder_array_iff.1 decoded
  obtain ⟨_, -, rest⟩ := bind_eq_ok_iff.1 read
  obtain ⟨_, -, missing⟩ := bind_eq_ok_iff.1 rest
  cases missing

/-- Of a document that names a version, a snapshot is decoded if it lists entries. -/
theorem document_eq_ok_iff (versioned : Versioned content found) :
    (record format).decoder.ofSymbols (Utf8.symbols content) = .ok listed ↔
      Lists format content listed := by
  rw [Decoder.ofSymbols_eq_ok_iff]
  constructor
  · rintro ⟨draft, whole, decoded⟩
    cases versioned with
    | @named entries whole' _ _ =>
      cases whole.symm.trans whole'
      obtain ⟨-, passable, ⟨_, single⟩, _, array, each⟩ := document_object_iff.1 decoded
      exact ⟨whole, passable, single, array, each⟩
    | placed whole' =>
      cases whole.symm.trans whole'
      exact absurd decoded document_array_ne_ok
  · rintro ⟨whole, passable, single, array, each⟩
    exact ⟨_, whole, document_object_iff.2 ⟨rfl, passable, ⟨_, single⟩, _, array, each⟩⟩

/-! ## Snapshots -/

/-- What names another version is refused with it, whatever else it says. -/
theorem decode_of_other_version (versioned : Versioned content found) (other : found ≠ version) :
    decode format content = .error (.cacheVersion found version) := by
  rw [decode, header_eq_ok_iff.2 versioned]
  exact if_pos other

/-- What names the current version is read as a whole. -/
theorem decode_of_current (versioned : Versioned content version) :
    decode format content =
      ((record format).decoder.ofSymbols (Utf8.symbols content)).mapError .document := by
  rw [decode, header_eq_ok_iff.2 versioned]
  exact if_neg (not_not.2 rfl)

/-- What names the current version and lists entries is decoded to these, and nothing else is. -/
theorem decode_eq_ok_iff :
    decode format content = .ok listed ↔
      Versioned content version ∧ Lists format content listed := by
  constructor
  · intro decoded
    cases header : headerRecord.decoder.ofSymbols (Utf8.symbols content) with
    | error fault =>
      rw [decode, header] at decoded
      cases decoded
    | ok found =>
      have versioned := header_eq_ok_iff.1 header
      by_cases current : found = version
      · subst current
        rw [decode_of_current versioned, mapError_eq_ok_iff] at decoded
        exact ⟨versioned, (document_eq_ok_iff versioned).1 decoded⟩
      · rw [decode_of_other_version versioned current] at decoded
        cases decoded
  · rintro ⟨versioned, lists⟩
    rw [decode_of_current versioned, mapError_eq_ok_iff]
    exact (document_eq_ok_iff versioned).2 lists

/-- Everything else is no document. -/
theorem decode_of_neither
    (neither : ∀ found, Versioned content found →
      found = version ∧ ∀ listed, ¬ Lists format content listed) :
    ∃ fault, decode format content = .error (.document fault) := by
  cases header : headerRecord.decoder.ofSymbols (Utf8.symbols content) with
  | error fault =>
    rw [decode, header]
    exact ⟨fault, rfl⟩
  | ok found =>
    have versioned := header_eq_ok_iff.1 header
    obtain ⟨rfl, unlisted⟩ := neither found versioned
    rw [decode_of_current versioned]
    cases document : (record format).decoder.ofSymbols (Utf8.symbols content) with
    | error fault => exact ⟨fault, rfl⟩
    | ok listed => exact absurd ((document_eq_ok_iff versioned).1 document) (unlisted listed)

end Snapshot

/-! ## Stores -/

namespace Store

variable {κ ν : Type} [DecidableEq κ]

/-- An entry is found under its key in place of the one before. -/
theorem find?_insert (store : Store κ ν) (entry : StoreEntry κ ν) (key : κ) :
    (store.insert entry).find? key = if entry.key = key then some entry else store.find? key := by
  unfold find? insert
  dsimp only
  induction store.entries with
  | nil => by_cases own : entry.key = key <;> simp [insertEntry, own]
  | cons first rest ih =>
    rw [insertEntry]
    by_cases same : first.key = entry.key
    · rw [if_pos same]
      by_cases own : entry.key = key <;> simp [same, own]
    · rw [if_neg same]
      by_cases before : first.key = key
      · have other : entry.key ≠ key := fun own => same (before.trans own.symm)
        simp [before, other]
      · simp only [List.find?_cons, before, decide_false, ih]

/-- The last entry of a key is found of those listed. -/
theorem find?_ofEntries (listed : List (StoreEntry κ ν)) (key : κ) :
    (ofEntries listed).find? key = listed.reverse.find? fun entry => entry.key = key := by
  unfold ofEntries
  induction listed using List.reverseRecOn with
  | nil => rfl
  | append_singleton listed entry ih =>
    rw [List.foldl_append, List.foldl_cons, List.foldl_nil, find?_insert, ih,
      List.reverse_append, List.reverse_singleton, List.singleton_append, List.find?_cons]
    by_cases own : entry.key = key <;> simp [own]

/-- There is an entry for every key among those listed. -/
theorem mem_keys_ofEntries {listed : List (StoreEntry κ ν)} {key : κ} :
    key ∈ (ofEntries listed).entries.map StoreEntry.key ↔ key ∈ listed.map StoreEntry.key := by
  unfold ofEntries
  induction listed using List.reverseRecOn with
  | nil => rfl
  | append_singleton listed entry ih =>
    rw [List.foldl_append, List.foldl_cons, List.foldl_nil, insert, mem_keys_insertEntry, ih,
      List.map_append, List.mem_append, List.map_singleton, List.mem_singleton, or_comm]

/-- There are as many entries as different keys among those listed. -/
theorem size_ofEntries (listed : List (StoreEntry κ ν)) :
    (ofEntries listed).size = (listed.map StoreEntry.key).dedup.length := by
  have same_keys : ((ofEntries listed).entries.map StoreEntry.key).Perm
      (listed.map StoreEntry.key).dedup := by
    refine (List.perm_ext_iff_of_nodup (ofEntries listed).distinct (List.nodup_dedup _)).2 ?_
    intro key
    rw [mem_keys_ofEntries, List.mem_dedup]
  rw [size, ← same_keys.length_eq, List.length_map]

end Store

end FlowEnrichment
