import FlowEnrichment.Configuration
import FlowEnrichment.Provider.Registry

/-!
# Settings

The content of a settings document: the tunables of the engine, in whole seconds and
milliseconds, and the chain of providers with their parameters. Everything that is left out has
a default, and a chain of one provider may be written without a list.
-/
namespace FlowEnrichment

open Json (Decoder RecordField Record Value)

/-! ## Breakers -/

/-- The tunables of the breakers. -/
structure BreakerSettings where
  /-- The number of failures that opens a breaker. -/
  errorThreshold : UInt32 := 20
  /-- The number of successful trials that closes a breaker. -/
  successThreshold : UInt32 := 1
  /-- The cool-down in seconds. -/
  timeoutSecs : UInt64 := 60
  deriving DecidableEq, Repr, Inhabited

namespace BreakerSettings

/-- The tunables that were read so far. -/
structure Gathered where
  /-- The error threshold. -/
  errorThreshold : Option UInt32 := none
  /-- The success threshold. -/
  successThreshold : Option UInt32 := none
  /-- The cool-down. -/
  timeoutSecs : Option UInt64 := none

/-- The tunables of the breakers as a record of documents. -/
def record : Record Gathered BreakerSettings where
  label := "struct BreakerSettings"
  fields :=
    [ { name := "error_threshold", isSet := (·.errorThreshold.isSome)
        read := fun g => Decoder.word32.map fun v => { g with errorThreshold := some v } },
      { name := "success_threshold", isSet := (·.successThreshold.isSome)
        read := fun g => Decoder.word32.map fun v => { g with successThreshold := some v } },
      { name := "timeout_secs", isSet := (·.timeoutSecs.isSome)
        read := fun g => Decoder.word64.map fun v => { g with timeoutSecs := some v } } ]
  empty := {}
  build g := .ok
    { errorThreshold := g.errorThreshold.getD 20
      successThreshold := g.successThreshold.getD 1
      timeoutSecs := g.timeoutSecs.getD 60 }

/-- Reads the tunables of the breakers. -/
def decoder : Decoder BreakerSettings := record.decoder

/-- The tunables of the breakers as a value. -/
def toJson (settings : BreakerSettings) : Value :=
  .object
    [ ("error_threshold", .nat settings.errorThreshold.toNat),
      ("success_threshold", .nat settings.successThreshold.toNat),
      ("timeout_secs", .nat settings.timeoutSecs.toNat) ]

/-- The thresholds that the tunables stand for. -/
def config (settings : BreakerSettings) : BreakerConfig where
  errorThreshold := settings.errorThreshold
  successThreshold := settings.successThreshold
  timeout := .seconds settings.timeoutSecs.toNat

end BreakerSettings

/-! ## Engine -/

/-- The tunables of the engine. -/
structure MetadataSettings where
  /-- How long an entry survives, in seconds. -/
  cacheDurationSecs : UInt64 := 1800
  /-- The age for a refresh in seconds, zero for never. -/
  cacheRefreshSecs : UInt64 := 3600
  /-- The period of maintenance in seconds. -/
  cacheCheckIntervalSecs : UInt64 := 120
  /-- The snapshot. -/
  cachePersistFile : Option String := none
  /-- The number of workers. -/
  workers : UInt64 := 1
  /-- The greatest size of a batch. -/
  maxBatchRequests : UInt64 := 10
  /-- The time of a query in milliseconds. -/
  queryTimeoutMs : UInt64 := 5000
  /-- The grace period after the start in seconds. -/
  initialDelaySecs : UInt64 := 60
  /-- The tunables of the breakers. -/
  breaker : BreakerSettings := {}
  deriving DecidableEq, Repr, Inhabited

namespace MetadataSettings

/-- The tunables that were read so far. -/
structure Gathered where
  /-- The cache duration. -/
  cacheDurationSecs : Option UInt64 := none
  /-- The cache refresh. -/
  cacheRefreshSecs : Option UInt64 := none
  /-- The check interval. -/
  cacheCheckIntervalSecs : Option UInt64 := none
  /-- The snapshot. -/
  cachePersistFile : Option (Option String) := none
  /-- The number of workers. -/
  workers : Option UInt64 := none
  /-- The batch size. -/
  maxBatchRequests : Option UInt64 := none
  /-- The query timeout. -/
  queryTimeoutMs : Option UInt64 := none
  /-- The initial delay. -/
  initialDelaySecs : Option UInt64 := none
  /-- The breakers. -/
  breaker : Option BreakerSettings := none

/-- Reads a path. -/
def pathDecoder : Decoder String := Decoder.textNamed "path string"

/-- The tunables of the engine as a record of documents. -/
def record : Record Gathered MetadataSettings where
  label := "struct MetadataSettings"
  fields :=
    [ { name := "cache_duration_secs", isSet := (·.cacheDurationSecs.isSome)
        read := fun g => Decoder.word64.map fun v => { g with cacheDurationSecs := some v } },
      { name := "cache_refresh_secs", isSet := (·.cacheRefreshSecs.isSome)
        read := fun g => Decoder.word64.map fun v => { g with cacheRefreshSecs := some v } },
      { name := "cache_check_interval_secs", isSet := (·.cacheCheckIntervalSecs.isSome)
        read := fun g => Decoder.word64.map fun v => { g with cacheCheckIntervalSecs := some v } },
      { name := "cache_persist_file", isSet := (·.cachePersistFile.isSome)
        read := fun g =>
          (Decoder.optional pathDecoder).map fun v => { g with cachePersistFile := some v } },
      { name := "workers", isSet := (·.workers.isSome)
        read := fun g => Decoder.count.map fun v => { g with workers := some v } },
      { name := "max_batch_requests", isSet := (·.maxBatchRequests.isSome)
        read := fun g => Decoder.count.map fun v => { g with maxBatchRequests := some v } },
      { name := "query_timeout_ms", isSet := (·.queryTimeoutMs.isSome)
        read := fun g => Decoder.word64.map fun v => { g with queryTimeoutMs := some v } },
      { name := "initial_delay_secs", isSet := (·.initialDelaySecs.isSome)
        read := fun g => Decoder.word64.map fun v => { g with initialDelaySecs := some v } },
      { name := "breaker", isSet := (·.breaker.isSome)
        read := fun g => BreakerSettings.decoder.map fun v => { g with breaker := some v } } ]
  empty := {}
  build g := .ok
    { cacheDurationSecs := g.cacheDurationSecs.getD 1800
      cacheRefreshSecs := g.cacheRefreshSecs.getD 3600
      cacheCheckIntervalSecs := g.cacheCheckIntervalSecs.getD 120
      cachePersistFile := g.cachePersistFile.getD none
      workers := g.workers.getD 1
      maxBatchRequests := g.maxBatchRequests.getD 10
      queryTimeoutMs := g.queryTimeoutMs.getD 5000
      initialDelaySecs := g.initialDelaySecs.getD 60
      breaker := g.breaker.getD {} }

/-- Reads the tunables of the engine. -/
def decoder : Decoder MetadataSettings := record.decoder

/-- The tunables of the engine as a value. -/
def toJson (settings : MetadataSettings) : Value :=
  .object
    [ ("cache_duration_secs", .nat settings.cacheDurationSecs.toNat),
      ("cache_refresh_secs", .nat settings.cacheRefreshSecs.toNat),
      ("cache_check_interval_secs", .nat settings.cacheCheckIntervalSecs.toNat),
      ("cache_persist_file",
        match settings.cachePersistFile with
        | some path => .string path
        | none => .null),
      ("workers", .nat settings.workers.toNat),
      ("max_batch_requests", .nat settings.maxBatchRequests.toNat),
      ("query_timeout_ms", .nat settings.queryTimeoutMs.toNat),
      ("initial_delay_secs", .nat settings.initialDelaySecs.toNat),
      ("breaker", settings.breaker.toJson) ]

/-- The configuration that the tunables stand for. -/
def configuration (settings : MetadataSettings) : Configuration where
  cacheDuration := .seconds settings.cacheDurationSecs.toNat
  cacheRefresh := .seconds settings.cacheRefreshSecs.toNat
  cacheCheckInterval := .seconds settings.cacheCheckIntervalSecs.toNat
  cachePersistFile := settings.cachePersistFile
  workers := settings.workers
  maxBatchRequests := settings.maxBatchRequests
  queryTimeout := .millis settings.queryTimeoutMs.toNat
  initialDelay := .seconds settings.initialDelaySecs.toNat
  breaker := settings.breaker.config

end MetadataSettings

/-! ## Providers -/

/-- The choice of a provider: its name, and under the other keys its parameters. -/
structure ProviderSettings where
  /-- The name under which the provider is registered. -/
  kind : String := "static"
  /-- The parameters, by ascending keys. -/
  params : List (String × Value) := []
  deriving Repr, Inhabited

namespace ProviderSettings

/-- The name of a provider as a record whose object also holds the parameters. -/
def record : Record (Option String) String where
  label := "struct ProviderSettings"
  fields :=
    [ { name := "type", required := true, isSet := Option.isSome
        read := fun _ => Decoder.text.map some } ]
  empty := none
  build := Json.requireField "type"

/-- Parameters, as another reader left them. -/
def paramsOf (entries : List (Json.Draft × Json.Draft)) : List (String × Value) :=
  Json.sortEntries (Json.Draft.toEntries entries)

/-- Reads the choice of a provider. -/
def decoder : Decoder ProviderSettings :=
  record.decoderWith (fun entries => .ok (paramsOf entries)) fun kind params => ⟨kind, params⟩

/-- The choice of a provider as a value. -/
def toJson (settings : ProviderSettings) : Value :=
  .object (("type", .string settings.kind) :: settings.params)

/-- Whether the choice is the default, a static provider without parameters. -/
def isDefault (settings : ProviderSettings) : Bool :=
  settings.kind == "static" && settings.params.isEmpty

/-- The plan that a registry makes for the choice. -/
def plan (registry : Registry) (settings : ProviderSettings) : Except Failure ProviderPlan :=
  registry.plan settings.kind (.object settings.params)

/-- Reads a chain of providers: one provider or a list of them. The document is read through
before either is tried. -/
def chainDecoder : Decoder (List ProviderSettings) := fun source draft => do
  draft.scan source
  match decoder .buffered draft with
  | .ok provider => .ok [provider]
  | .error _ =>
    match Decoder.list decoder .buffered draft with
    | .ok providers => .ok providers
    | .error _ =>
      .error (.mistyped "data did not match any variant of untagged enum OneOrMany")

end ProviderSettings

/-! ## Documents -/

/-- The content of a settings document. -/
structure Settings where
  /-- The tunables of the engine. -/
  metadata : MetadataSettings := {}
  /-- The chain of providers, in the order in which they are asked. -/
  providers : List ProviderSettings := [{}]
  deriving Repr, Inhabited

namespace Settings

/-- The parts that were read so far. -/
structure Gathered where
  /-- The tunables. -/
  metadata : Option MetadataSettings := none
  /-- The providers. -/
  providers : Option (List ProviderSettings) := none

/-- Settings as a record of documents. -/
def record : Record Gathered Settings where
  label := "struct Settings"
  fields :=
    [ { name := "metadata", isSet := (·.metadata.isSome)
        read := fun g => MetadataSettings.decoder.map fun v => { g with metadata := some v } },
      { name := "providers", aliases := ["provider"], isSet := (·.providers.isSome)
        read := fun g =>
          ProviderSettings.chainDecoder.map fun v => { g with providers := some v } } ]
  empty := {}
  build g := .ok
    { metadata := g.metadata.getD {}
      providers := g.providers.getD [{}] }

/-- Reads settings. -/
def decoder : Decoder Settings := record.decoder

/-- Settings as a value. -/
def toJson (settings : Settings) : Value :=
  .object
    [ ("metadata", settings.metadata.toJson),
      ("providers", .array (settings.providers.map ProviderSettings.toJson)) ]

/-- Whether the settings are the default. -/
def isDefault (settings : Settings) : Bool :=
  settings.metadata == {} &&
  match settings.providers with
  | [provider] => provider.isDefault
  | _ => false

/-- The configuration of the engine, if it is valid. -/
def configuration (settings : Settings) : Except Failure Configuration := do
  let config := settings.metadata.configuration
  config.validate
  return config

/-- The plans of the chain, in order. -/
def plans (settings : Settings) (registry : Registry) : Except Failure (List ProviderPlan) :=
  settings.providers.mapM (ProviderSettings.plan registry)

end Settings

end FlowEnrichment
