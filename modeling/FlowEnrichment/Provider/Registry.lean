import FlowEnrichment.Provider

/-!
# Registries

A registry maps the names of providers to the ways to make plans of them from parameters. It is
a value that is handed to whoever reads settings; the names are in ascending order.
-/
namespace FlowEnrichment

open Json (Value)

/-- Makes a plan from parameters. -/
abbrev PlanFactory := Value → Except Failure ProviderPlan

/-- Factories by name. -/
structure Registry where
  /-- The factories, by ascending names. -/
  factories : List (String × PlanFactory) := []

namespace Registry

/-- No factories. -/
def empty : Registry := {}

/-- Adds a factory, in place of one of the same name. -/
def register (registry : Registry) (name : String) (factory : PlanFactory) : Registry :=
  ⟨Json.insertEntry name factory registry.factories⟩

/-- Whether there is a factory of a name. -/
def contains (registry : Registry) (name : String) : Bool := (registry.factories.lookup name).isSome

/-- The names of the factories. -/
def names (registry : Registry) : List String := registry.factories.map (·.1)

/-- The plan that the factory of a name makes from parameters. -/
def plan (registry : Registry) (name : String) (params : Value) : Except Failure ProviderPlan :=
  match registry.factories.lookup name with
  | some factory => factory params
  | none => .error (.unknownProvider name)

/-- The reason for which parameters are refused. -/
def refusalReason : Json.Fault → String
  | .mistyped reason => reason
  | .malformed => "malformed document"
  | .truncated => "truncated document"

/-- Makes the plan of a static provider, whose parameters are those of a valid table. -/
def staticFactory : PlanFactory := fun params =>
  match StaticTable.decoder.ofValue params with
  | .error fault =>
    .error (.configuration ("invalid static provider: " ++ refusalReason fault))
  | .ok table => do
    table.validate
    return table.plan

/-- The registry of the providers of this library. -/
def builtin : Registry := empty.register StaticTable.providerName staticFactory

end Registry

end FlowEnrichment
