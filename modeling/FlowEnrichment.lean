import FlowEnrichment.Address
import FlowEnrichment.Address.Text
import FlowEnrichment.Binary64
import FlowEnrichment.Breaker
import FlowEnrichment.Breaker.Table
import FlowEnrichment.Cache
import FlowEnrichment.CommandLine.Arguments
import FlowEnrichment.CommandLine.Command
import FlowEnrichment.CommandLine.Help
import FlowEnrichment.CommandLine.Run
import FlowEnrichment.Configuration
import FlowEnrichment.Engine
import FlowEnrichment.Engine.Action
import FlowEnrichment.Engine.Coalesce
import FlowEnrichment.Engine.Event
import FlowEnrichment.Engine.Lifecycle
import FlowEnrichment.Engine.Request
import FlowEnrichment.Engine.Telemetry
import FlowEnrichment.Engine.Timeline
import FlowEnrichment.Engine.Work
import FlowEnrichment.Failure
import FlowEnrichment.FileTree
import FlowEnrichment.FileTree.Path
import FlowEnrichment.Interface
import FlowEnrichment.Json.Decoder
import FlowEnrichment.Json.Draft
import FlowEnrichment.Json.Reader
import FlowEnrichment.Json.Text
import FlowEnrichment.Json.Value
import FlowEnrichment.Main
import FlowEnrichment.Proofs.Breaker.Operations
import FlowEnrichment.Proofs.Breaker.Outage
import FlowEnrichment.Proofs.Breaker.Recovery
import FlowEnrichment.Proofs.Breaker.Traffic
import FlowEnrichment.Proofs.Breaker.Trials
import FlowEnrichment.Provider
import FlowEnrichment.Provider.Registry
import FlowEnrichment.Provider.Scripted
import FlowEnrichment.Query
import FlowEnrichment.Rehearsal
import FlowEnrichment.Settings
import FlowEnrichment.Settings.File
import FlowEnrichment.StaticTable
import FlowEnrichment.Store
import FlowEnrichment.Store.Snapshot
import FlowEnrichment.Subnet
import FlowEnrichment.Text.Decimal
import FlowEnrichment.Text.Hexadecimal
import FlowEnrichment.Text.Printable
import FlowEnrichment.Text.Quoted
import FlowEnrichment.Text.Utf8
import FlowEnrichment.Time
import FlowEnrichment.Toml.Document
import FlowEnrichment.Toml.Scalar
import FlowEnrichment.Version
import FlowEnrichment.Proofs.Json.Strings
import FlowEnrichment.Proofs.Text.Utf8
import FlowEnrichment.Proofs.Json.Documents
import FlowEnrichment.Proofs.Json.Decoding
import FlowEnrichment.Proofs.Address.Groups
import FlowEnrichment.Proofs.Address.Reading
import FlowEnrichment.Proofs.Records
import FlowEnrichment.Proofs.FileTree
import FlowEnrichment.Proofs.Store.Snapshot
import FlowEnrichment.Proofs.Store.Loading
import FlowEnrichment.Proofs.Cache.Persistence
import FlowEnrichment.Proofs.Engine.Coalescing
import FlowEnrichment.Proofs.Engine.Frames
import FlowEnrichment.Proofs.Engine.Queueing
import FlowEnrichment.Proofs.Engine.Requests
import FlowEnrichment.Proofs.Engine.Conservation
import FlowEnrichment.Proofs.Engine.Workforce
import FlowEnrichment.Proofs.Engine.Parts
import FlowEnrichment.Proofs.Subnet
import FlowEnrichment.Proofs.Cache.Contents
import FlowEnrichment.Proofs.StaticTable
import FlowEnrichment.Proofs.Engine.StaticAnswers
import FlowEnrichment.Proofs.Engine.Timeline
import FlowEnrichment.Proofs.FileTree.Places
import FlowEnrichment.Proofs.Store.Saving
import FlowEnrichment.Proofs.Breaker.Lateness
import FlowEnrichment.Proofs.Store.Histories
import FlowEnrichment.Proofs.Breaker.Thresholds
import FlowEnrichment.Proofs.Engine.Crashes
import FlowEnrichment.Proofs.Breaker.Isolation
import FlowEnrichment.Proofs.Engine.Life
import FlowEnrichment.Proofs.Engine.Chronicles
import FlowEnrichment.Proofs.Engine.Refreshing
import FlowEnrichment.Proofs.Engine.Files
import FlowEnrichment.Proofs.Engine.Effects
import FlowEnrichment.Proofs.Engine.LifeCycle
import FlowEnrichment.Proofs.Engine.Accounting
import FlowEnrichment.Proofs.StaticTable.Order
import FlowEnrichment.Proofs.StaticTable.Chain
import FlowEnrichment.Proofs.Breaker.Opening
import FlowEnrichment.Proofs.Engine.Chains
import FlowEnrichment.Proofs.Engine.Rounds
import FlowEnrichment.Proofs.Engine.Upkeep
import FlowEnrichment.Proofs.Address.Characters
import FlowEnrichment.Proofs.Subnet.Text
import FlowEnrichment.Proofs.Breaker.Uniformity
import FlowEnrichment.Proofs.Engine.Asides
import FlowEnrichment.Proofs.Engine.Schedules
import FlowEnrichment.Proofs.Engine.Underway
import FlowEnrichment.Proofs.Engine.Deadlines
import FlowEnrichment.Proofs.Cache.Counting
import FlowEnrichment.Proofs.Query
import FlowEnrichment.Proofs.Json.Sorting
import FlowEnrichment.Proofs.Json.Objects
import FlowEnrichment.Proofs.StaticTable.Documents
import FlowEnrichment.Proofs.Settings
import FlowEnrichment.Proofs.Engine.Sleeping
import FlowEnrichment.Proofs.CommandLine.Sessions
import FlowEnrichment.Proofs.CommandLine.Lines
import FlowEnrichment.Proofs.CommandLine.Lookups
import FlowEnrichment.Proofs.Rehearsal
