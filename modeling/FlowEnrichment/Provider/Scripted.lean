import FlowEnrichment.Provider.Registry

/-!
# Scripted providers

A scripted provider answers by rule, so that every way in which a reply can go can be rehearsed:
it may wait for permits, take time, crash, fail, leave out interfaces, skip them or report them
late. Its answers tell which interface of which exporter they are about and which backend gave
them.
-/
namespace FlowEnrichment

open Json (Value)

/-- The rules of a scripted provider. -/
structure Script where
  /-- Whether every call takes a permit first. -/
  gated : Bool := false
  /-- The time that a call takes. -/
  delay : Duration := .zero
  /-- The exporters at which it crashes. -/
  crashing : List Address := []
  /-- The exporters at which it fails. -/
  failing : List Address := []
  /-- How it fails. -/
  failure : Failure := .provider "unreachable"
  /-- The interfaces that it leaves to the next provider. -/
  skipped : List UInt32 := []
  /-- The interfaces that it reports late. -/
  late : List UInt32 := []
  /-- How late it reports them. -/
  lateness : Duration := .zero
  /-- The interfaces that it says nothing about. -/
  silent : List UInt32 := []
  /-- The indexes that it claims to have skipped, whatever it was asked. -/
  claimed : Option (List UInt32) := none
  /-- Why it cannot be built. -/
  unbuildable : Option String := none

namespace Script

/-- The name of a scripted provider. -/
def providerName : String := "mock"

/-- The answer of a backend to a query. -/
def answer (backend : Nat) (query : Query) : Answer where
  exporter :=
    { name := String.ofList (query.exporter.shown.chars.map fun c => if c = '.' then '_' else c) }
  interface :=
    { name := s!"Gi0/0/{query.index.toNat}"
      description := s!"Interface {query.index.toNat}"
      speed := UInt64.ofNat (1000 * (backend + 1)) }

/-- What a backend does before it looks at the batch. -/
def opening (script : Script) (backend : Nat) (batch : BatchQuery) : List Effect :=
  Effect.note backend batch ::
    ((if script.gated then [.takePermit backend] else []) ++
      (if script.delay.isZero then [] else [.pause script.delay]))

/-- What a backend does about one index. -/
def effects (script : Script) (backend : Nat) (query : Query) : List Effect :=
  let update : Update := ⟨query, answer backend query⟩
  if script.skipped.contains query.index then []
  else if script.late.contains query.index then [.reportLater script.lateness update]
  else if script.silent.contains query.index then []
  else [.report update]

/-- The outcome of a call that looked at every index. -/
def outcome (script : Script) (batch : BatchQuery) : Except Failure Unit :=
  match script.claimed with
  | some indexes => .error (.skipProvider indexes)
  | none =>
    match batch.indexes.filter script.skipped.contains with
    | [] => .ok ()
    | indexes => .error (.skipProvider indexes)

/-- The reply of a backend to a batch. -/
def reply (script : Script) (backend : Nat) (batch : BatchQuery) : Reply :=
  let opening := script.opening backend batch
  if script.crashing.contains batch.exporter then ⟨opening, .crash⟩
  else if script.failing.contains batch.exporter then ⟨opening, .done (.error script.failure)⟩
  else
    ⟨opening ++ batch.queries.flatMap (script.effects backend), .done (script.outcome batch)⟩

/-- The provider of a backend. -/
def provider (script : Script) (backend : Nat) : Provider := ⟨providerName, script.reply backend⟩

/-- The plan of the provider of a backend. -/
def plan (script : Script) (backend : Nat) : ProviderPlan where
  name := providerName
  build :=
    match script.unbuildable with
    | some reason => .error (.provider reason)
    | none => .ok (script.provider backend)

end Script

/-- A factory of plans that cannot be built, named by a label after given characters. -/
def Registry.labelled (start : String) : PlanFactory := fun params =>
  match params.get? "label" with
  | some (.string label) =>
    .ok ⟨start ++ label, .error (.provider (start ++ label ++ " cannot be built"))⟩
  | _ => .error (.configuration "provider needs a label")

end FlowEnrichment
