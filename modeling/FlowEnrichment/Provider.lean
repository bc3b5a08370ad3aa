import FlowEnrichment.StaticTable
import FlowEnrichment.Time

/-!
# Providers

A provider answers a batch by a reply: what it does in order, and how it ends. Whatever takes
time, the reports that come later and even a crash are part of the reply, so the engine that
runs it decides when each of them happens.
-/
namespace FlowEnrichment

/-- One thing that a provider does while it answers. -/
inductive Effect where
  /-- Notes the call in the journal of its backend. -/
  | note (backend : Nat) (batch : BatchQuery)
  /-- Waits for a permit of its backend and takes it. -/
  | takePermit (backend : Nat)
  /-- Waits for a time. -/
  | pause (time : Duration)
  /-- Reports an update. -/
  | report (update : Update)
  /-- Has an update reported after a time, whether or not the reply has ended by then. -/
  | reportLater (delay : Duration) (update : Update)
  deriving DecidableEq, Repr

/-- How a reply ends. -/
inductive Ending where
  /-- With an outcome. -/
  | done (outcome : Except Failure Unit)
  /-- By a crash of the provider. -/
  | crash

/-- What a provider does for a batch. -/
structure Reply where
  /-- What it does, in order. -/
  effects : List Effect
  /-- How it ends. -/
  ending : Ending

/-- A backend that answers batches. -/
structure Provider where
  /-- Its name. -/
  name : String
  /-- Its reply to a batch. -/
  reply : BatchQuery → Reply

/-- A description of a provider that can be built. -/
structure ProviderPlan where
  /-- The name of the provider. -/
  name : String
  /-- Builds the provider. -/
  build : Except Failure Provider

namespace StaticTable

/-- The name of the static provider. -/
def providerName : String := "static"

/-- The provider that answers from a table at once. -/
def provider (table : StaticTable) : Provider where
  name := providerName
  reply batch :=
    let (updates, outcome) := table.answer batch
    ⟨updates.map .report, .done outcome⟩

/-- The plan of the provider of a table, which must be valid. -/
def plan (table : StaticTable) : ProviderPlan where
  name := providerName
  build := do
    table.validate
    return table.provider

end StaticTable

/-- The indexes that an outcome leaves to the next provider; nothing if it ends the chain. -/
def handedOver? : Except Failure Unit → Option (List UInt32)
  | .error (.skipProvider []) => none
  | .error (.skipProvider (index :: rest)) => some (index :: rest)
  | _ => none

/-- The outcome of a chain that ends with the outcome of a provider: what nobody answers is no
failure. -/
def chainOutcome : Except Failure Unit → Except Failure Unit
  | .error (.skipProvider _) => .ok ()
  | outcome => outcome

end FlowEnrichment
