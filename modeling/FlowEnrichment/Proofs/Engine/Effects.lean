import FlowEnrichment.Engine.Work

/-!
# What a job that goes on can do

However long the chain of providers and however far it comes, what it does to the engine is made
of a few kinds of single steps: it changes permits and records, stores an update, or leaves one to
be reported later. So a relation between engines that holds across every such step holds across
the whole of it (`Engine.Stepwise.advance`), and each fact about it needs to be shown for single
steps only.
-/
namespace FlowEnrichment.Engine

/-- A relation holds across every single step of what a provider can do, and across any number of
them. -/
structure Stepwise (related : Engine → Engine → Prop) : Prop where
  /-- It holds across nothing. -/
  refl : ∀ engine, related engine engine
  /-- It holds across two parts if it holds across each. -/
  trans : ∀ {before between after}, related before between → related between after →
    related before after
  /-- It holds across changes of permits and records. -/
  around : ∀ engine permits tickets journal events,
    related engine
      { engine with around := { engine.around with permits, tickets, journal, events } }
  /-- It holds across updates that are stored. -/
  store : ∀ engine update, related engine (engine.store update)
  /-- It holds across changes of the updates that are to be reported later. -/
  reports : ∀ engine reports, related engine { engine with reports }

namespace Stepwise

variable {related : Engine → Engine → Prop} (stepwise : Stepwise related)
include stepwise

/-- What holds across single steps holds across the end of a wait. -/
theorem leaveWait (engine : Engine) (wait : Wait) : related engine (engine.leaveWait wait) := by
  cases wait with
  | permit backend ticket => exact stepwise.around engine _ _ _ _
  | _ => exact stepwise.refl engine

/-- It holds across what a provider does until it waits. -/
theorem carryOut (effects : List Effect) (engine : Engine) :
    related engine (carryOut effects engine).1 := by
  induction effects generalizing engine with
  | nil => exact stepwise.refl engine
  | cons effect effects ih =>
    cases effect with
    | note backend batch => exact stepwise.trans (stepwise.around engine _ _ _ _) (ih _)
    | takePermit backend =>
      have numbered := stepwise.around engine engine.around.permits (engine.around.tickets + 1)
        engine.around.journal engine.around.events
      rw [Engine.carryOut]
      dsimp only
      split
      · exact stepwise.trans numbered (stepwise.trans (stepwise.leaveWait _ _) (ih _))
      · exact numbered
    | pause time =>
      rw [Engine.carryOut]
      split
      · exact ih engine
      · exact stepwise.refl engine
    | report update => exact stepwise.trans (stepwise.store engine update) (ih _)
    | reportLater delay update => exact stepwise.trans (stepwise.reports engine _) (ih _)

/-- It holds across what a chain of providers does until one of them waits. -/
theorem proceed (later : List Provider) (name : String) (job : Job) (engine : Engine) :
    related engine (proceed later name job engine).1 := by
  have carries {job : Job} {engine after : Engine} {left : Option (Wait × List Effect)}
      (carried : Engine.carryOut job.effects engine = (after, left)) : related engine after := by
    have holds := stepwise.carryOut job.effects engine
    rw [carried] at holds
    exact holds
  have skips {before after : Engine} (holds : related before after) (event : Event) :
      related before (after.log event) :=
    stepwise.trans holds (stepwise.around after _ _ _ _)
  fun_induction Engine.proceed later name job engine with
  | case1 later name job engine reached wait effects carried => exact carries carried
  | case2 later name job engine reached carried crashes => exact carries carried
  | case3 later name job engine reached carried outcome ends last => exact carries carried
  | case4 name job engine reached carried outcome ends indexes handed =>
    exact skips (carries carried) _
  | case5 name job engine reached carried outcome ends indexes handed _ provider later asked ih =>
    exact stepwise.trans (skips (carries carried) _) ih

/-- It holds across a job that goes on as far as it can. -/
theorem advance (engine : Engine) (job : Job) : related engine (engine.advance job).1 := by
  unfold Engine.advance
  split
  · exact stepwise.trans (stepwise.leaveWait engine job.wait) (stepwise.proceed _ _ _ _)
  · exact stepwise.refl engine

end Stepwise

end FlowEnrichment.Engine
