import FlowEnrichment.Engine.Timeline
import FlowEnrichment.Proofs.Engine.StaticAnswers

/-!
# Engines in time are runs of steps

An engine that settles, sleeps or whose time jumps takes its actions one after the other, and
time passes between them. All of this is made of steps (`Flow.Leads`), so whatever holds of every
state that can be reached by steps holds of an engine that was left to itself for a while.
-/
namespace FlowEnrichment.Flow

open Engine

/-- From one state of an engine steps lead to another, with no round half gathered in either. -/
def Leads (before after : Engine) : Prop :=
  ∀ flow : Flow, flow.gathering = none → flow.engine = before →
    ∃ later, Relation.ReflTransGen Step flow later ∧ later.gathering = none ∧
      later.engine = after

variable {before between after engine : Engine}

namespace Leads

/-- Nothing needs to happen. -/
theorem refl (engine : Engine) : Leads engine engine :=
  fun flow free same => ⟨flow, .refl, free, same⟩

/-- Steps may follow others. -/
theorem trans (first : Leads before between) (second : Leads between after) :
    Leads before after := by
  intro flow free same
  obtain ⟨middle, there, free, reached⟩ := first flow free same
  obtain ⟨later, onwards, free, reached⟩ := second middle free reached
  exact ⟨later, there.trans onwards, free, reached⟩

/-- An action is a step. -/
theorem act {action : Action} (taken : before.step? action = some after) :
    Leads before after := by
  rintro flow free rfl
  exact ⟨flow.afterAction action after, .single (.act (.inl free) taken), free, rfl⟩

/-- So is whatever happens around an engine and is not counted. -/
theorem pass (engine : Engine) {around : Surroundings}
    (counted : around.totals = engine.around.totals) : Leads engine { engine with around } := by
  rintro flow free rfl
  exact ⟨_, .single (.pass counted), free, rfl⟩

/-- An engine that settles takes an action for every unit of fuel, as long as there is one. -/
theorem settleWithin (fuel : Nat) (engine : Engine) : Leads engine (settleWithin fuel engine) := by
  induction fuel generalizing engine with
  | zero => exact refl engine
  | succ fuel ih =>
    unfold Engine.settleWithin
    split
    case h_1 after next =>
      obtain ⟨action, -, taken⟩ := List.exists_of_findSome?_eq_some next
      exact (act taken).trans (ih after)
    case h_2 => exact refl engine

/-- An engine settles by steps. -/
theorem settle (engine : Engine) : Leads engine engine.settle := settleWithin engine.workload engine

/-- Time goes on by a step. -/
theorem elapse (engine : Engine) (wait : Duration) :
    Leads engine { engine with around := (engine.around.later wait).fireTimers } :=
  pass engine rfl

/-- Time goes on to a tick by a step. -/
theorem advanceTo (engine : Engine) (tick : Nat) : Leads engine (engine.advanceTo tick) := by
  unfold Engine.advanceTo
  exact elapse engine _

/-- An engine comes to a tick by steps: it settles and time goes on to its next timer, until that
would be too late. -/
theorem runTo (target fuel : Nat) (engine : Engine) : Leads engine (engine.runTo target fuel) := by
  induction fuel generalizing engine with
  | zero => exact refl engine
  | succ fuel ih =>
    have settled := settle engine
    unfold Engine.runTo
    dsimp only
    split
    case h_1 tick next =>
      by_cases earlier : tick < target
      · rw [if_pos earlier]
        exact (settled.trans (advanceTo engine.settle tick)).trans (ih _)
      · rw [if_neg earlier]
        exact settled.trans (advanceTo engine.settle target)
    case h_2 => exact settled.trans (advanceTo engine.settle target)

/-- An engine sleeps by steps. -/
theorem sleep (engine : Engine) (duration : Duration) : Leads engine (engine.sleep duration) :=
  runTo _ _ engine

/-- Time jumps by steps. -/
theorem jump (engine : Engine) (duration : Duration) : Leads engine (engine.jump duration) := by
  have later : Leads engine { engine with around := engine.around.later duration } :=
    pass engine rfl
  have settled := later.trans (settle { engine with around := engine.around.later duration })
  unfold Engine.jump
  dsimp only
  generalize Engine.settle { engine with around := engine.around.later duration } = calm
    at settled ⊢
  have fired : Leads calm { calm with around := calm.around.fireTimers } := pass calm rfl
  exact (settled.trans fired).trans (sleep _ _)

/-- What holds of a state and is kept by every step holds of the state to which steps lead. -/
theorem within {reached : Flow → Prop}
    (closed : ∀ {flow after : Flow}, reached flow → Step flow after → reached after)
    (leads : Leads before after) {flow : Flow} (here : reached flow)
    (free : flow.gathering = none) (same : flow.engine = before) :
    ∃ later, reached later ∧ later.gathering = none ∧ later.engine = after := by
  obtain ⟨later, run, free, arrived⟩ := leads flow free same
  refine ⟨later, ?_, free, arrived⟩
  clear arrived free
  induction run with
  | refl => exact here
  | tail _ step ih => exact closed ih step

end Leads

/-! ## Runs -/

section Runs

variable {config : Configuration} {plans : List ProviderPlan} {counters : CacheCounters}
  {around : Surroundings} {flow : Flow}

/-- What an engine becomes that is left to itself can be reached by steps: whatever holds of every
such state holds after a sleep, and after time has jumped. -/
theorem Reachable.elapse (reachable : Reachable config plans counters around flow)
    (free : flow.gathering = none) (duration : Duration) :
    (∃ later, Reachable config plans counters around later ∧ later.gathering = none ∧
        later.engine = flow.engine.sleep duration) ∧
      ∃ later, Reachable config plans counters around later ∧ later.gathering = none ∧
        later.engine = flow.engine.jump duration :=
  ⟨(Leads.sleep flow.engine duration).within Reachable.step reachable free rfl,
    (Leads.jump flow.engine duration).within Reachable.step reachable free rfl⟩

/-- So it can in the course of a run that may include the stop. -/
theorem Course.elapse (course : Course config plans counters around flow)
    (free : flow.gathering = none) (duration : Duration) :
    (∃ later, Course config plans counters around later ∧ later.gathering = none ∧
        later.engine = flow.engine.sleep duration) ∧
      ∃ later, Course config plans counters around later ∧ later.gathering = none ∧
        later.engine = flow.engine.jump duration :=
  ⟨(Leads.sleep flow.engine duration).within Course.step course free rfl,
    (Leads.jump flow.engine duration).within Course.step course free rfl⟩

end Runs

end FlowEnrichment.Flow
