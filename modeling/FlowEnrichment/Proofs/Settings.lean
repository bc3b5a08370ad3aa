import FlowEnrichment.Proofs.Records
import FlowEnrichment.Settings

/-!
# Settings with parts left out

Settings are decoded again from the value that they are written as, and whatever keys are removed
from it, at the top, among the tunables of the engine or among those of the breakers, are decoded as
their defaults and leave everything else as it was (`Settings.decoded_with_defaults`). A chain of
one provider may also stand as one table, under either key of the chain. The parameters of a
provider are kept as they are, however deep they nest: the name of the provider is taken out of
their object, and what is left is the parameters again (`ProviderSettings.reads`).
-/
namespace FlowEnrichment

open Json

/-! ## Tunables of the breakers -/

namespace BreakerSettings

/-- The tunables with the defaults for those that were removed. -/
def reset (settings : BreakerSettings) (removed : String → Bool) : BreakerSettings :=
  let initial : BreakerSettings := {}
  { errorThreshold :=
      if removed "error_threshold" then initial.errorThreshold else settings.errorThreshold
    successThreshold :=
      if removed "success_threshold" then initial.successThreshold else settings.successThreshold
    timeoutSecs := if removed "timeout_secs" then initial.timeoutSecs else settings.timeoutSecs }

/-- The entries of the tunables. -/
def entries (settings : BreakerSettings) : List (String × Value) :=
  [ ("error_threshold", .nat settings.errorThreshold.toNat),
    ("success_threshold", .nat settings.successThreshold.toNat),
    ("timeout_secs", .nat settings.timeoutSecs.toNat) ]

/-- What has been gathered of the tunables when the fields of certain names have been read. -/
def part (settings : BreakerSettings) (got : String → Bool) : Gathered where
  errorThreshold := given (got "error_threshold") settings.errorThreshold
  successThreshold := given (got "success_threshold") settings.successThreshold
  timeoutSecs := given (got "timeout_secs") settings.timeoutSecs

/-- The keys of the tunables differ. -/
theorem nodup_keys (settings : BreakerSettings) : (settings.entries.map Prod.fst).Nodup := by
  show ["error_threshold", "success_threshold", "timeout_secs"].Nodup
  decide

/-- Every entry brings its tunable. -/
theorem fits (depth : Nat) (settings : BreakerSettings) :
    record.Fits settings.part depth settings.entries where
  each entry member := by
    left
    simp only [entries, List.mem_cons, List.not_mem_nil, or_false] at member
    rcases member with rfl | rfl | rfl
    · exact ⟨_, rfl, fun _ => ⟨isSome_given _ _, (Decoder.reads_word32 depth _).map _⟩⟩
    · exact ⟨_, rfl, fun _ => ⟨isSome_given _ _, (Decoder.reads_word32 depth _).map _⟩⟩
    · exact ⟨_, rfl, fun _ => ⟨isSome_given _ _, (Decoder.reads_word64 depth _).map _⟩⟩
  once := settings.nodup_keys

/-- The tunables are read from a value from which some were removed. -/
theorem reads_without (depth : Nat) (settings : BreakerSettings) (removed : String → Bool) :
    decoder.Reads (depth + 1) (settings.toJson.sorted.without removed)
      (settings.reset removed) := by
  refine (settings.fits depth).reads_without (sortEntries_perm settings.nodup_keys) ?_ rfl
    removed ?_
  · simp only [entries, List.forall_mem_cons]
    exact ⟨rfl, rfl, rfl, fun _ member => absurd member List.not_mem_nil⟩
  · simp only [record, part, reset, entries, List.map_cons, List.mem_cons, true_or, or_true,
      decide_true, Bool.true_and, getD_given_not]

end BreakerSettings

/-! ## Tunables of the engine -/

namespace MetadataSettings

/-- The tunables with the defaults for those that were removed. -/
def reset (settings : MetadataSettings) (removed : String → Bool) : MetadataSettings :=
  let initial : MetadataSettings := {}
  { cacheDurationSecs :=
      if removed "cache_duration_secs" then initial.cacheDurationSecs
      else settings.cacheDurationSecs
    cacheRefreshSecs :=
      if removed "cache_refresh_secs" then initial.cacheRefreshSecs else settings.cacheRefreshSecs
    cacheCheckIntervalSecs :=
      if removed "cache_check_interval_secs" then initial.cacheCheckIntervalSecs
      else settings.cacheCheckIntervalSecs
    cachePersistFile :=
      if removed "cache_persist_file" then initial.cachePersistFile else settings.cachePersistFile
    workers := if removed "workers" then initial.workers else settings.workers
    maxBatchRequests :=
      if removed "max_batch_requests" then initial.maxBatchRequests else settings.maxBatchRequests
    queryTimeoutMs :=
      if removed "query_timeout_ms" then initial.queryTimeoutMs else settings.queryTimeoutMs
    initialDelaySecs :=
      if removed "initial_delay_secs" then initial.initialDelaySecs else settings.initialDelaySecs
    breaker := if removed "breaker" then initial.breaker else settings.breaker }

/-- A path that may be absent, as a value. -/
def pathJson : Option String → Value
  | some path => .string path
  | none => .null

/-- The entries of the tunables; those of the breakers are given as a value. -/
def entries (settings : MetadataSettings) (breaker : Value) : List (String × Value) :=
  [ ("cache_duration_secs", .nat settings.cacheDurationSecs.toNat),
    ("cache_refresh_secs", .nat settings.cacheRefreshSecs.toNat),
    ("cache_check_interval_secs", .nat settings.cacheCheckIntervalSecs.toNat),
    ("cache_persist_file", pathJson settings.cachePersistFile),
    ("workers", .nat settings.workers.toNat),
    ("max_batch_requests", .nat settings.maxBatchRequests.toNat),
    ("query_timeout_ms", .nat settings.queryTimeoutMs.toNat),
    ("initial_delay_secs", .nat settings.initialDelaySecs.toNat),
    ("breaker", breaker) ]

/-- The tunables are written as their entries, by ascending keys. -/
theorem sorted_toJson (settings : MetadataSettings) : settings.toJson.sorted =
    .object (sortEntries (settings.entries settings.breaker.toJson.sorted)) := by
  obtain ⟨_, _, _, path, _, _, _, _, _⟩ := settings
  cases path with
  | none => rfl
  | some path => rfl

/-- What has been gathered of the tunables when the fields of certain names have been read. -/
def part (settings : MetadataSettings) (got : String → Bool) : Gathered where
  cacheDurationSecs := given (got "cache_duration_secs") settings.cacheDurationSecs
  cacheRefreshSecs := given (got "cache_refresh_secs") settings.cacheRefreshSecs
  cacheCheckIntervalSecs := given (got "cache_check_interval_secs") settings.cacheCheckIntervalSecs
  cachePersistFile := given (got "cache_persist_file") settings.cachePersistFile
  workers := given (got "workers") settings.workers
  maxBatchRequests := given (got "max_batch_requests") settings.maxBatchRequests
  queryTimeoutMs := given (got "query_timeout_ms") settings.queryTimeoutMs
  initialDelaySecs := given (got "initial_delay_secs") settings.initialDelaySecs
  breaker := given (got "breaker") settings.breaker

/-- A path that may be absent is read. -/
theorem reads_pathJson (depth : Nat) (path : Option String) :
    (Decoder.optional pathDecoder).Reads depth (pathJson path) path := by
  cases path with
  | none => exact Decoder.reads_optional_null depth pathDecoder
  | some path => exact fun _ _ => rfl

/-- The keys of the tunables differ. -/
theorem nodup_keys (settings : MetadataSettings) (breaker : Value) :
    ((settings.entries breaker).map Prod.fst).Nodup := by
  show ["cache_duration_secs", "cache_refresh_secs", "cache_check_interval_secs",
    "cache_persist_file", "workers", "max_batch_requests", "query_timeout_ms",
    "initial_delay_secs", "breaker"].Nodup
  decide

variable {depth : Nat} {settings : MetadataSettings} {breaker : Value}

/-- Every entry brings its tunable. -/
theorem fits (nested : BreakerSettings.decoder.Reads depth breaker settings.breaker) :
    record.Fits settings.part depth (settings.entries breaker) where
  each entry member := by
    left
    simp only [entries, List.mem_cons, List.not_mem_nil, or_false] at member
    rcases member with rfl | rfl | rfl | rfl | rfl | rfl | rfl | rfl | rfl
    · exact ⟨_, rfl, fun _ => ⟨isSome_given _ _, (Decoder.reads_word64 depth _).map _⟩⟩
    · exact ⟨_, rfl, fun _ => ⟨isSome_given _ _, (Decoder.reads_word64 depth _).map _⟩⟩
    · exact ⟨_, rfl, fun _ => ⟨isSome_given _ _, (Decoder.reads_word64 depth _).map _⟩⟩
    · exact ⟨_, rfl, fun _ => ⟨isSome_given _ _, (reads_pathJson depth _).map _⟩⟩
    · exact ⟨_, rfl, fun _ => ⟨isSome_given _ _, (Decoder.reads_word depth "usize" _).map _⟩⟩
    · exact ⟨_, rfl, fun _ => ⟨isSome_given _ _, (Decoder.reads_word depth "usize" _).map _⟩⟩
    · exact ⟨_, rfl, fun _ => ⟨isSome_given _ _, (Decoder.reads_word64 depth _).map _⟩⟩
    · exact ⟨_, rfl, fun _ => ⟨isSome_given _ _, (Decoder.reads_word64 depth _).map _⟩⟩
    · exact ⟨_, rfl, fun _ => ⟨isSome_given _ _, nested.map _⟩⟩
  once := settings.nodup_keys breaker

/-- The tunables are read from entries of which some were removed. -/
theorem reads_entries (nested : BreakerSettings.decoder.Reads depth breaker settings.breaker)
    {written : List (String × Value)} (same : written.Perm (settings.entries breaker))
    (removed : String → Bool) :
    decoder.Reads (depth + 1) ((Value.object written).without removed)
      (settings.reset removed) := by
  refine (fits nested).reads_without same ?_ rfl removed ?_
  · simp only [entries, List.forall_mem_cons]
    exact ⟨rfl, rfl, rfl, rfl, rfl, rfl, rfl, rfl, rfl,
      fun _ member => absurd member List.not_mem_nil⟩
  · simp only [record, part, reset, entries, List.map_cons, List.mem_cons, true_or, or_true,
      decide_true, Bool.true_and, getD_given_not]

/-- The tunables are read from a value from which some were removed, of the engine and of the
breakers. -/
theorem reads_without (depth : Nat) (settings : MetadataSettings)
    (removed breakerRemoved : String → Bool) :
    decoder.Reads (depth + 2)
      ((settings.toJson.sorted.change "breaker" (·.without breakerRemoved)).without removed)
      (({ settings with breaker := settings.breaker.reset breakerRemoved } :
        MetadataSettings).reset removed) := by
  rw [sorted_toJson]
  have nested := settings.breaker.reads_without depth breakerRemoved
  have written := sortEntries_perm (settings.nodup_keys settings.breaker.toJson.sorted)
  exact reads_entries nested (written.map _) removed

end MetadataSettings

/-! ## Providers -/

namespace ProviderSettings

/-- A choice whose parameters can be told from its name and are read as they are written. -/
structure Plain (settings : ProviderSettings) : Prop where
  /-- No parameter stands under the key of the name. -/
  unnamed : "type" ∉ settings.params.map Prod.fst
  /-- All numbers are integers of at most sixty-four bits. -/
  exact : (Value.object settings.params).Exact
  /-- The keys ascend at every level, as they do in any value that is held in memory. -/
  normal : (Value.object settings.params).sorted = .object settings.params

variable {settings : ProviderSettings}

/-- The keys of the parameters ascend. -/
theorem Plain.ascending (plain : settings.Plain) : Ascending settings.params := by
  have same : sortEntries (Value.sortedEntries settings.params) = settings.params :=
    Value.object.inj plain.normal
  rw [← same]
  exact ascending_sortEntries _

/-- The keys within each parameter ascend. -/
theorem Plain.sortedEntries_eq (plain : settings.Plain) :
    Value.sortedEntries settings.params = settings.params := by
  have same : sortEntries (Value.sortedEntries settings.params) = settings.params :=
    Value.object.inj plain.normal
  -- Sorting within the values keeps the keys, which ascend already, so no entry moves.
  have ascending : Ascending (Value.sortedEntries settings.params) := by
    rw [Value.sortedEntries_eq_map]
    exact List.pairwise_map.2 plain.ascending
  rw [← sortEntries_eq_of_perm (.refl _) ascending]
  exact same

/-- The entries of a choice. -/
def entries (settings : ProviderSettings) : List (String × Value) :=
  ("type", .string settings.kind) :: settings.params

/-- A choice is written as its entries, by ascending keys. -/
theorem Plain.sorted_toJson (plain : settings.Plain) :
    settings.toJson.sorted = .object (sortEntries settings.entries) := by
  rw [toJson, Value.sorted, Value.sortedEntries, plain.sortedEntries_eq]
  rfl

/-- The keys of a choice differ. -/
theorem Plain.nodup_keys (plain : settings.Plain) : (settings.entries.map Prod.fst).Nodup :=
  List.nodup_cons.2 ⟨plain.unnamed, plain.ascending.nodup⟩

/-- A parameter belongs to no field of the record. -/
theorem Plain.field?_param (plain : settings.Plain) {entry : String × Value}
    (member : entry ∈ settings.params) : record.field? entry.1 = none := by
  have other : "type" ≠ entry.1 := fun same => plain.unnamed (same ▸ List.mem_map_of_mem member)
  simp [Record.field?, record, other]

/-- The name is brought by its entry, and the parameters are left. -/
theorem Plain.fits (plain : settings.Plain) {depth : Nat}
    (shallow : ∀ entry ∈ settings.params, entry.2.depth ≤ depth) :
    record.Fits (fun got => given (got "type") settings.kind) depth settings.entries where
  each entry member := by
    rcases List.mem_cons.1 member with rfl | param
    · exact .inl ⟨_, rfl, fun _ => ⟨isSome_given _ _, (Decoder.reads_text depth _).map _⟩⟩
    · exact .inr ⟨plain.field?_param param, shallow entry param⟩
  once := by
    have none : record.names settings.params = [] := by
      rw [Record.names, List.filterMap_eq_nil_iff]
      intro entry member
      rw [plain.field?_param member]
      rfl
    have names : record.names settings.entries = "type" :: record.names settings.params := rfl
    rw [names, none]
    decide

/-- The parameters are what the record of the name leaves. -/
theorem Plain.others_entries (plain : settings.Plain) :
    record.others settings.entries = settings.params := by
  have others : record.others settings.entries = record.others settings.params := rfl
  rw [others, Record.others, List.filter_eq_self]
  intro entry member
  rw [plain.field?_param member]
  rfl

/-- The parameters are what is read of them in any order. -/
theorem Plain.paramsOf_eq (plain : settings.Plain) {written : List (String × Value)}
    (same : written.Perm settings.params) :
    paramsOf (Draft.ofEntries written) = settings.params := by
  have exact : Value.ExactEntries written := by
    rw [Value.exactEntries_iff]
    exact fun entry member => Value.exactEntries_iff.1 plain.exact entry (same.mem_iff.1 member)
  rw [paramsOf, Draft.toEntries_ofEntries written exact]
  apply sortEntries_eq_of_perm _ plain.ascending
  rw [← plain.sortedEntries_eq, Value.sortedEntries_eq_map, Value.sortedEntries_eq_map]
  exact same.map _

/-- A choice is read back from the value that it is written as. -/
theorem Plain.reads (plain : settings.Plain) {depth : Nat}
    (shallow : settings.toJson.depth ≤ depth) :
    decoder.Reads depth settings.toJson.sorted settings := by
  obtain ⟨depth, rfl⟩ : ∃ less, depth = less + 1 := by
    rw [toJson, Value.depth] at shallow
    exact ⟨depth - 1, by omega⟩
  have nested : ∀ entry ∈ settings.params, entry.2.depth ≤ depth := by
    intro entry member
    have inside : entry ∈ settings.entries := List.mem_cons_of_mem _ member
    exact (Value.depth_le_depthEntries inside).trans (Nat.le_of_succ_le_succ shallow)
  have same := sortEntries_perm plain.nodup_keys
  rw [plain.sorted_toJson]
  have others : (record.others (sortEntries settings.entries)).Perm settings.params := by
    rw [← plain.others_entries]
    exact same.filter _
  exact (plain.fits nested).reads_shared same rfl rfl
    (congrArg Except.ok (plain.paramsOf_eq others))

/-- A chain of one provider is read from the value of the provider. -/
theorem chainDecoder_reads_single {depth : Nat} {value : Value}
    (single : decoder.Reads depth value settings) :
    chainDecoder.Reads value.depth value [settings] := by
  intro source admits
  have read := single .buffered trivial
  simp only [chainDecoder, bind, Except.bind, Draft.scan_ofValue value source admits, read]

/-- A chain of providers is read from a list of them, which is tried after a single one. -/
theorem chainDecoder_reads_list {depth : Nat} {items : List Value} {chain : List ProviderSettings}
    (listed : (Decoder.list decoder).Reads depth (.array items) chain) :
    chainDecoder.Reads (Value.array items).depth (.array items) chain := by
  intro source admits
  have read := listed .buffered trivial
  -- A single provider is an object, so an array is refused before any item is looked at.
  have single : decoder .buffered (.ofValue (.array items)) =
    .error ((Draft.ofValue (.array items)).mismatch record.label) := rfl
  simp only [chainDecoder, bind, Except.bind, Draft.scan_ofValue _ source admits, single, read]

/-- The list that a chain of providers is written as. -/
def chainJson (chain : List ProviderSettings) : Value :=
  .array (chain.map fun provider => provider.toJson.sorted)

/-- A chain of providers is read back from the list that it is written as. -/
theorem chainDecoder_reads {chain : List ProviderSettings} (plain : ∀ entry ∈ chain, entry.Plain) :
    chainDecoder.Reads (chainJson chain).depth (chainJson chain) chain := by
  have each : ∀ entry ∈ chain, decoder.Reads (Value.depthItems (chain.map toJson))
      entry.toJson.sorted entry := fun entry member =>
    (plain entry member).reads (Value.depth_le_depthItems (List.mem_map_of_mem member))
  exact chainDecoder_reads_list (Decoder.reads_list _ chain each)

end ProviderSettings

/-! ## Documents -/

namespace Settings

/-- Settings whose parameters can be told from the names of their providers and are read as they
are written. -/
def Plain (settings : Settings) : Prop := ∀ provider ∈ settings.providers, provider.Plain

/-- Keys that are removed from settings that were written as a value. -/
structure Removal where
  /-- The keys of the document. -/
  top : String → Bool
  /-- The keys of the tunables of the engine. -/
  metadata : String → Bool
  /-- The keys of the tunables of the breakers. -/
  breaker : String → Bool

namespace Removal

/-- The tunables of the engine without the removed keys. -/
def applyMetadata (removal : Removal) (metadata : Value) : Value :=
  (metadata.change "breaker" (·.without removal.breaker)).without removal.metadata

/-- A value without the removed keys. -/
def apply (removal : Removal) (value : Value) : Value :=
  (value.change "metadata" removal.applyMetadata).without removal.top

/-- Nothing is removed. -/
def nothing : Removal := ⟨fun _ => false, fun _ => false, fun _ => false⟩

/-- If nothing is removed, a value is as it was. -/
theorem apply_nothing (value : Value) : nothing.apply value = value := by
  have engine (metadata : Value) : nothing.applyMetadata metadata = metadata :=
    (Value.without_nothing _).trans (metadata.change_self "breaker" Value.without_nothing)
  exact (Value.without_nothing _).trans (value.change_self "metadata" engine)

end Removal

/-- The settings with the defaults for what was removed. -/
def reset (settings : Settings) (removal : Removal) : Settings :=
  let initial : Settings := {}
  let metadata := { settings.metadata with
    breaker := settings.metadata.breaker.reset removal.breaker }
  { metadata :=
      if removal.top "metadata" then initial.metadata else metadata.reset removal.metadata
    providers := if removal.top "providers" then initial.providers else settings.providers }

/-- Settings as a value whose only provider stands as one table, under a key, instead of a list. -/
def singled (key : String) (value : Value) : Value :=
  match value with
  | .object entries => .object <| entries.map fun entry =>
    match entry.1 == "providers", entry.2 with
    | true, .array [provider] => (key, provider)
    | _, _ => entry
  | value => value

/-- What has been gathered of settings when the fields of certain names have been read. -/
def part (tunables : MetadataSettings) (providers : List ProviderSettings)
    (got : String → Bool) : Gathered where
  metadata := given (got "metadata") tunables
  providers := given (got "providers") providers

/-- The entries of settings that were not removed; the parts are given as values, and the key of
the chain is any. -/
def kept (removal : Removal) (key : String) (metadata chain : Value) : List (String × Value) :=
  [("metadata", metadata)].filter (fun _ => !removal.top "metadata") ++
    [(key, chain)].filter fun _ => !removal.top "providers"

section Parts

variable {depth : Nat} {metadata chain : Value} {tunables : MetadataSettings}
  {providers : List ProviderSettings}

/-- Both parts are brought by their entries, the chain under either of its keys. -/
theorem fits (engine : MetadataSettings.decoder.Reads depth metadata tunables)
    (listed : ProviderSettings.chainDecoder.Reads depth chain providers) {key : String}
    (accepted : key = "provider" ∨ key = "providers") :
    record.Fits (part tunables providers) depth [("metadata", metadata), (key, chain)] := by
  have engine_brings : record.Brings (part tunables providers) depth ("metadata", metadata) :=
    ⟨_, rfl, fun _ => ⟨isSome_given _ _, engine.map _⟩⟩
  have names : ["metadata", "providers"].Nodup := by decide
  rcases accepted with rfl | rfl
  all_goals
    constructor
    · simp only [List.forall_mem_cons]
      refine ⟨.inl engine_brings, .inl ?_, fun _ member => absurd member List.not_mem_nil⟩
      exact ⟨_, rfl, fun _ => ⟨isSome_given _ _, listed.map _⟩⟩
    · exact names

/-- Settings are read from the entries that were kept, with defaults for the others. -/
theorem reads_kept (engine : MetadataSettings.decoder.Reads depth metadata tunables)
    (listed : ProviderSettings.chainDecoder.Reads depth chain providers) {key : String}
    (accepted : key = "provider" ∨ key = "providers") (removal : Removal)
    {written : List (String × Value)} (same : written.Perm (kept removal key metadata chain)) :
    decoder.Reads (depth + 1) (.object written)
      { metadata := if removal.top "metadata" then {} else tunables
        providers := if removal.top "providers" then [{}] else providers } := by
  have fewer : (kept removal key metadata chain).Sublist [("metadata", metadata), (key, chain)] :=
    List.Sublist.append List.filter_sublist List.filter_sublist
  refine ((fits engine listed accepted).sublist fewer).reads same rfl ?_
  -- For each choice of the entries that are kept both sides compute to the same settings.
  unfold kept
  rcases accepted with rfl | rfl
  all_goals
    cases removal.top "metadata"
    all_goals
      cases removal.top "providers"
      all_goals rfl

end Parts

/-- Settings are written as their two parts, by ascending keys. -/
theorem sorted_toJson (settings : Settings) : settings.toJson.sorted =
    .object (sortEntries [("metadata", settings.metadata.toJson.sorted),
      ("providers", ProviderSettings.chainJson settings.providers)]) := by
  simp only [toJson, Value.sorted, Value.sortedEntries, Value.sortedItems_eq_map, List.map_map,
    ProviderSettings.chainJson]
  rfl

/-- What is left of settings are the parts that were kept, and of the tunables of the engine those
that were not removed. -/
theorem apply_toJson (settings : Settings) (removal : Removal) :
    ∃ written, removal.apply settings.toJson.sorted = .object written ∧
      written.Perm (kept removal "providers" (removal.applyMetadata settings.metadata.toJson.sorted)
        (ProviderSettings.chainJson settings.providers)) := by
  rw [sorted_toJson]
  refine ⟨_, rfl, (((sortEntries_perm ?_).map _).filter _).trans (.of_eq ?_)⟩
  · show ["metadata", "providers"].Nodup
    decide
  · exact List.filter_append [_] [_]

/-- A single provider that was kept stands as one table. -/
theorem singled_kept (removal : Removal) (key : String) (metadata : Value)
    (provider : ProviderSettings) {written : List (String × Value)}
    (same : written.Perm
      (kept removal "providers" metadata (ProviderSettings.chainJson [provider]))) :
    ∃ rewritten, singled key (.object written) = .object rewritten ∧
      rewritten.Perm (kept removal key metadata provider.toJson.sorted) := by
  refine ⟨_, rfl, (same.map _).trans (.of_eq ?_)⟩
  unfold kept
  cases removal.top "metadata"
  all_goals
    cases removal.top "providers"
    all_goals rfl

/-- Settings are read from what was kept of them, whatever the chain is written as. -/
theorem ofValue_kept (settings : Settings) (removal : Removal) {chain : Value}
    (listed : ProviderSettings.chainDecoder.Reads chain.depth chain settings.providers)
    {key : String} (accepted : key = "provider" ∨ key = "providers")
    {written : List (String × Value)}
    (same : written.Perm
      (kept removal key (removal.applyMetadata settings.metadata.toJson.sorted) chain)) :
    decoder.ofValue (.object written) = .ok (settings.reset removal) := by
  have engine := settings.metadata.reads_without 0 removal.metadata removal.breaker
  have read := reads_kept (engine.mono (Nat.le_max_left 2 chain.depth))
    (listed.mono (Nat.le_max_right 2 chain.depth)) accepted removal same
  exact read .value trivial

/-- Settings are decoded again from the value that they are written as. Whatever keys are removed
from it, of the document, of the tunables of the engine or of those of the breakers, are decoded as
their defaults and nothing else changes; and a chain of one provider may be written as one table,
under either key of the chain. -/
theorem decoded_with_defaults (settings : Settings) (plain : settings.Plain) :
    decoder.ofValue settings.toJson.sorted = .ok settings ∧
    (∀ removal : Removal,
      decoder.ofValue (removal.apply settings.toJson.sorted) = .ok (settings.reset removal)) ∧
    ∀ provider, settings.providers = [provider] → ∀ key ∈ ["provider", "providers"],
      decoder.ofValue (singled key settings.toJson.sorted) = .ok settings ∧
      ∀ removal : Removal, decoder.ofValue (singled key (removal.apply settings.toJson.sorted)) =
        .ok (settings.reset removal) := by
  have listed := ProviderSettings.chainDecoder_reads plain
  have thinned (removal : Removal) :
      decoder.ofValue (removal.apply settings.toJson.sorted) = .ok (settings.reset removal) := by
    obtain ⟨written, left, same⟩ := settings.apply_toJson removal
    rw [left]
    exact settings.ofValue_kept removal listed (.inr rfl) same
  have single (provider : ProviderSettings) (alone : settings.providers = [provider]) (key : String)
      (accepted : key ∈ ["provider", "providers"]) (removal : Removal) :
      decoder.ofValue (singled key (removal.apply settings.toJson.sorted)) =
        .ok (settings.reset removal) := by
    obtain ⟨written, left, same⟩ := settings.apply_toJson removal
    rw [alone] at same
    obtain ⟨rewritten, moved, same⟩ := singled_kept removal key _ provider same
    have read := (plain provider (alone ▸ List.mem_singleton_self provider)).reads (Nat.le_refl _)
    have table := ProviderSettings.chainDecoder_reads_single read
    rw [← alone] at table
    rw [left, moved]
    exact settings.ofValue_kept removal table (by simpa using accepted) same
  refine ⟨?_, thinned, fun provider alone key accepted => ⟨?_, single provider alone key accepted⟩⟩
  · have whole := thinned .nothing
    rw [Removal.apply_nothing] at whole
    exact whole
  · have whole := single provider alone key accepted .nothing
    rw [Removal.apply_nothing] at whole
    exact whole

/-- Parameters that nest pass unchanged when the provider stands as one table and tunables are
missing. -/
theorem decoded_with_defaults_nested :
    let settings : Settings :=
      { metadata :=
          { workers := 4, cachePersistFile := some "/var/cache/flows"
            breaker := { timeoutSecs := 5 } }
        providers := [⟨"snmp",
          [("communities", .object [("default", .array [.string "public", .null])]),
            ("offset", .int (-1))]⟩] }
    let removal : Removal :=
      { Removal.nothing with metadata := (· == "workers"), breaker := fun _ => true }
    settings.Plain ∧
    decoder.ofValue (singled "provider" (removal.apply settings.toJson.sorted)) =
      .ok { settings with metadata := { settings.metadata with workers := 1, breaker := {} } } := by
  intro settings removal
  have plain : settings.Plain := by
    intro provider member
    rw [List.mem_singleton.1 member]
    have offset : (Value.int (-1)).Exact := ⟨by decide, by decide⟩
    exact ⟨by decide, ⟨⟨⟨trivial, trivial, trivial⟩, trivial⟩, offset, trivial⟩, rfl⟩
  have read := ((decoded_with_defaults settings plain).2.2 _ rfl "provider" (by decide)).2 removal
  exact ⟨plain, read⟩

end Settings

end FlowEnrichment
