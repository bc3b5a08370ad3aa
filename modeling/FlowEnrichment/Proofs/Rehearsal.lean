import FlowEnrichment.Proofs.Engine.LifeCycle
import FlowEnrichment.Proofs.Engine.Timeline
import FlowEnrichment.Proofs.Engine.Upkeep
import FlowEnrichment.Rehearsal

/-!
# Rehearsals are lives of engines

Whatever is done in a rehearsal (`Cue`), its engine is one that lives: it was built, and what has
happened to it since then is what may happen to any engine (`Flow.Run`). While time goes on it takes
its actions, a stop that nothing else comes between ends its tasks and closes it, and a script that
replaces another makes its providers answer otherwise. So whatever holds in every life holds of
every engine of every rehearsal (`Rehearsal.lives`).
-/
namespace FlowEnrichment

/-! ## Engines that are stopped -/

namespace Phase

variable {phase : Phase} {happening : Happening}

/-- An engine is being stopped only if it was before or is told to stop. -/
theorem next_ne_stopping (settled : phase ≠ .stopping) (untold : happening ≠ .halt) :
    phase.next happening ≠ .stopping := by
  cases phase <;> cases happening <;> simp_all [next]

/-- An engine is stopped only if it was before, if it is told to, or if its stop ends. -/
theorem eq_stopped_of_next (next : phase.next happening = .stopped) :
    phase = .stopped ∨ happening = .halt ∨ happening = .close := by
  cases phase <;> cases happening <;> simp_all [Phase.next]

end Phase

namespace Engine

variable {engine after : Engine}

/-- An action leaves the queue of an engine that is stopped alone. -/
theorem queue_of_step (stopped : engine.phase = .stopped) {action : Action}
    (taken : engine.step? action = some after) : after.queue = engine.queue := by
  have runs (running : engine.phase = .running) : after.queue = engine.queue :=
    Phase.noConfusion (running.symm.trans stopped)
  cases action with
  | prepare => exact (Untouched.prepare taken).queue
  | work position => exact (Untouched.work taken).queue
  | report => exact (Untouched.report taken).queue
  | join => exact runs (step_join taken).1
  | seek => exact runs (step_seek taken).1
  | listen => exact runs (step_listen taken).1
  | deliver => exact runs (step_deliver taken).1
  | claim => exact runs (step_claim taken).1
  | take => exact runs (step_take taken).1
  | maintain =>
    obtain ⟨_, running, -⟩ := step_maintain taken
    exact runs running

/-- A stop of an engine that is stopped changes nothing if nothing waits. -/
theorem stop_of_stopped (stopped : engine.phase = .stopped) (empty : engine.queue = []) :
    engine.stop = engine := by
  unfold stop
  rw [stopped]
  dsimp only
  rw [← stopped, ← empty]

end Engine

namespace Flow

open Engine

variable {config : Configuration} {plans : List ProviderPlan} {counters : CacheCounters}
  {around : Surroundings} {trace : Trace} {flow after : Flow} {happening : Happening}

/-- Nothing comes to wait in an engine that is stopped. -/
theorem Happens.emptied (happens : Happens happening flow after)
    (empty : flow.engine.phase = .stopped → flow.engine.queue = [])
    (stopped : after.engine.phase = .stopped) : after.engine.queue = [] := by
  have phases := happens.phase
  rw [stopped] at phases
  cases happens with
  | pass _ => exact empty stopped
  | start =>
    have before := (Phase.eq_stopped_of_next phases.symm).resolve_right (by simp)
    have started : flow.engine.phase ≠ .ready := by
      rw [before]
      exact Phase.noConfusion
    dsimp only
    rw [start_eq_self _ started]
    exact empty before
  | halt =>
    dsimp only at stopped ⊢
    unfold Engine.halt at stopped ⊢
    cases here : flow.engine.phase with
    | ready => rfl
    | running =>
      rw [here] at stopped
      cases stopped
    | stopping =>
      rw [here] at stopped
      cases here.symm.trans stopped
    | stopped => exact empty here
  | close =>
    obtain ⟨files, events, closed⟩ := flow.engine.close_parts
    dsimp only
    rw [closed]
  | lookup _ now query =>
    have before := (Phase.eq_stopped_of_next phases.symm).resolve_right (by simp)
    dsimp only
    unfold Engine.lookup
    split
    case h_1 => exact empty before
    case h_2 cache _ =>
      have refused := @enqueue_of_stopped { flow.engine with cache } before query
      dsimp only
      rw [refused]
      exact empty before
  | maintain _ now =>
    have before := (Phase.eq_stopped_of_next phases.symm).resolve_right (by simp)
    obtain ⟨events, maintained⟩ := flow.engine.maintain_eq now
    dsimp only
    rw [maintained, free, if_pos before, List.take_zero, empty before]
    rfl
  | request _ query =>
    have before := (Phase.eq_stopped_of_next phases.symm).resolve_right (by simp)
    dsimp only
    rw [enqueue_of_stopped before]
    exact empty before
  | report _ update => exact empty stopped
  | act _ taken =>
    have before := (Phase.eq_stopped_of_next phases.symm).resolve_right (by simp)
    exact (queue_of_step before taken).trans (empty before)
  | gather gathering =>
    have before := (Phase.eq_stopped_of_next phases.symm).resolve_right (by simp)
    cases gathering with
    | first _ running => cases running.symm.trans before
    | more _ _ waiting => cases (empty before).symm.trans waiting
    | close => exact empty before
  | recast _ => exact empty stopped

/-- Nothing waits in an engine that is stopped. -/
theorem Run.queue_eq_nil (run : Run config plans counters around trace flow)
    (stopped : flow.engine.phase = .stopped) : flow.engine.queue = [] := by
  induction run with
  | built built =>
    obtain ⟨-, providers, -, rfl⟩ := build_eq_ok built
    rfl
  | next _ happens ih => exact happens.emptied ih stopped

/-- Steps go on with a life. -/
theorem Run.steps {later : Flow} (run : Run config plans counters around trace flow)
    (steps : Relation.ReflTransGen Step flow later) :
    ∃ trace, Run config plans counters around trace later := by
  induction steps with
  | refl => exact ⟨trace, run⟩
  | tail _ step ih =>
    obtain ⟨trace, run⟩ := ih
    obtain ⟨happening, happens, -⟩ := step.happens
    exact ⟨_, run.next happens⟩

/-- They do not stop an engine and leave its providers as they are. -/
theorem Leads.kept {before after : Engine} (leads : Leads before after) :
    after.providers = before.providers ∧ (before.phase ≠ .stopping → after.phase ≠ .stopping) := by
  have reached := leads { engine := before } rfl rfl
  clear leads
  obtain ⟨later, steps, -, rfl⟩ := reached
  induction steps with
  | refl => exact ⟨rfl, id⟩
  | tail _ step ih =>
    obtain ⟨happening, happens, untold, fixed⟩ := step.happens
    refine ⟨(happens.made fixed).2.trans ih.1, fun settled => ?_⟩
    rw [happens.phase]
    exact Phase.next_ne_stopping (ih.2 settled) untold

/-- An engine that was running is stopped after the stop, with the same providers. -/
theorem stop_of_running {engine : Engine} (running : engine.phase = .running) :
    engine.stop.phase = .stopped ∧ engine.stop.providers = engine.providers := by
  obtain ⟨files, events, saved⟩ := engine.endTasks.logCrashes.saveCache_parts
  unfold Engine.stop
  rw [running]
  dsimp only
  rw [saved]
  exact ⟨rfl, (Leads.settle { engine with phase := .stopping }).kept.1⟩

end Flow

/-! ## Engines of rehearsals -/

open FlowEnrichment.Flow

/-- A provider fits a seat: in that of a script it has the name of a scripted provider. -/
def Seat.Fits : Seat → Provider → Prop
  | .fixed _, _ => True
  | .scripted _ _, provider => provider.name = Script.providerName

/-- A provider that is built for a seat fits. -/
theorem Seat.fits_of_build {seat : Seat} {provider : Provider}
    (made : seat.plan.build = .ok provider) : seat.Fits provider := by
  cases seat with
  | fixed plan => trivial
  | scripted backend script =>
    unfold Seat.plan Script.plan at made
    dsimp only at made
    split at made
    · cases made
    · cases made
      rfl

/-- When the script of a backend was replaced, the providers have the same names and fit. -/
theorem Seat.recast_fits (backend : Nat) (script : Script) {seats : List Seat}
    {providers : List Provider} (cast : List.Forall₂ Seat.Fits seats providers) :
    (List.zipWith (Seat.recast backend script) seats providers).map Provider.name =
        providers.map Provider.name ∧
      List.Forall₂ Seat.Fits (seats.map (Seat.rescript backend script))
        (List.zipWith (Seat.recast backend script) seats providers) := by
  induction cast with
  | nil => exact ⟨rfl, .nil⟩
  | @cons seat provider seats providers fits _ ih =>
    obtain ⟨names, others⟩ := ih
    have first : (seat.recast backend script provider).name = provider.name ∧
        (seat.rescript backend script).Fits (seat.recast backend script provider) := by
      cases seat with
      | fixed plan => exact ⟨rfl, trivial⟩
      | scripted number old =>
        unfold Seat.recast
        dsimp only
        split
        · exact ⟨Eq.symm fits, rfl⟩
        · exact ⟨rfl, fits⟩
    rw [List.zipWith_cons_cons, List.map_cons, List.map_cons, names, first.1]
    exact ⟨rfl, .cons first.2 others⟩

/-- An engine stands in a rehearsal: it lives, no stop is under way, and its providers fit. -/
structure Engine.Stands (config : Configuration) (seats : List Seat) (engine : Engine) : Prop where
  /-- It came of a life, and no round is gathered. -/
  lives : ∃ plans counters around trace flow, Run config plans counters around trace flow ∧
    flow.gathering = none ∧ flow.engine = engine
  /-- It is not being stopped. -/
  settled : engine.phase ≠ .stopping
  /-- The providers fit. -/
  cast : List.Forall₂ Seat.Fits seats engine.providers

namespace Engine.Stands

variable {config : Configuration} {seats : List Seat} {engine after : Engine}

/-- It stands when something has happened but that it was told to stop or that its providers
answer otherwise. -/
theorem next (stands : Stands config seats engine)
    (goes_on : ∀ flow : Flow, flow.gathering = none → flow.engine = engine →
      ∃ happening later, Happens happening flow later ∧ happening ≠ .halt ∧ happening ≠ .recast ∧
        later.gathering = none ∧ later.engine = after) : Stands config seats after := by
  obtain ⟨⟨plans, counters, around, trace, flow, run, free, rfl⟩, settled, cast⟩ := stands
  obtain ⟨happening, later, happens, untold, fixed, free, rfl⟩ := goes_on flow free rfl
  refine ⟨⟨plans, counters, around, _, later, run.next happens, free, rfl⟩, ?_, ?_⟩
  · rw [happens.phase]
    exact Phase.next_ne_stopping settled untold
  · rw [(happens.made fixed).2]
    exact cast

/-- It stands when something around it has changed that is not counted. -/
theorem pass (stands : Stands config seats engine) {around : Surroundings}
    (counted : around.totals = engine.around.totals) :
    Stands config seats { engine with around } := by
  refine stands.next fun flow free same => ?_
  subst same
  exact ⟨.pass, _, .pass counted, nofun, nofun, free, rfl⟩

/-- It stands when time has gone on. -/
theorem leads (stands : Stands config seats engine) (leads : Leads engine after) :
    Stands config seats after := by
  obtain ⟨⟨plans, counters, around, trace, flow, run, free, rfl⟩, settled, cast⟩ := stands
  obtain ⟨providers, phase⟩ := leads.kept
  obtain ⟨later, steps, free, rfl⟩ := leads flow free rfl
  obtain ⟨trace, run⟩ := run.steps steps
  exact ⟨⟨plans, counters, around, trace, later, run, free, rfl⟩, phase settled, providers ▸ cast⟩

/-- It stands when it has been stopped. -/
theorem stop (stands : Stands config seats engine) : Stands config seats engine.stop := by
  obtain ⟨⟨plans, counters, around, trace, flow, run, free, rfl⟩, settled, cast⟩ := stands
  cases phase : flow.engine.phase with
  | ready =>
    have happens := Happens.halt flow
    have halted : flow.engine.halt.phase = .stopped := by
      rw [Engine.halt, phase]
    rw [stop_of_ready phase]
    refine ⟨⟨plans, counters, around, _, _, run.next happens, free, rfl⟩, ?_, ?_⟩
    · rw [halted]
      exact Phase.noConfusion
    · exact (happens.made (by simp)).2 ▸ cast
  | running =>
    obtain ⟨acts, ended, -, -, free, stops⟩ := run.stop free phase
    obtain ⟨stopped, providers⟩ := stop_of_running phase
    refine ⟨⟨plans, counters, around, _, _, stops, free, rfl⟩, ?_, providers ▸ cast⟩
    rw [stopped]
    exact Phase.noConfusion
  | stopping => exact absurd phase settled
  | stopped =>
    rw [stop_of_stopped phase (run.queue_eq_nil phase)]
    exact ⟨⟨plans, counters, around, trace, flow, run, free, rfl⟩, settled, cast⟩

/-- It stands when the script of a backend was replaced. -/
theorem rescript (stands : Stands config seats engine) (backend : Nat) (script : Script) :
    Stands config (seats.map (Seat.rescript backend script))
      (engine.recast (List.zipWith (Seat.recast backend script) seats engine.providers)) := by
  obtain ⟨⟨plans, counters, around, trace, flow, run, free, rfl⟩, settled, cast⟩ := stands
  obtain ⟨names, fits⟩ := Seat.recast_fits backend script cast
  exact ⟨⟨plans, counters, around, _, _, run.next (.recast names), free, rfl⟩, settled, fits⟩

end Engine.Stands

namespace Rehearsal

/-- Something that is done in a rehearsal. -/
inductive Cue where
  /-- The engine is built, or built again. -/
  | rebuild
  /-- Time goes on for a duration. -/
  | sleep (duration : Duration)
  /-- Time moves on at once. -/
  | jump (duration : Duration)
  /-- The wall clock is set. -/
  | setClock (clock : Timestamp)
  /-- Permits of a backend are released. -/
  | release (backend count : Nat)
  /-- The script of a backend is replaced. -/
  | rescript (backend : Nat) (script : Script)
  /-- The engine is started. -/
  | start
  /-- It is stopped. -/
  | stop
  /-- A query is looked up. -/
  | lookup (now : Timestamp) (query : Query)
  /-- Maintenance runs. -/
  | maintain (now : Timestamp)
  /-- The calls of providers are taken. -/
  | takeJournal
  /-- The events are taken. -/
  | takeEvents

/-- A rehearsal after something was done. -/
def perform (rehearsal : Rehearsal) : Cue → Rehearsal
  | .rebuild => rehearsal.rebuild.1
  | .sleep duration => rehearsal.sleep duration
  | .jump duration => rehearsal.jump duration
  | .setClock clock => rehearsal.mapAround fun around => { around with clock }
  | .release backend count => rehearsal.mapAround (·.release backend count)
  | .rescript backend script => rehearsal.rescript backend script
  | .start => rehearsal.mapEngine (·.start.1)
  | .stop => rehearsal.stop
  | .lookup now query => rehearsal.mapEngine fun engine => (engine.lookup now query).1
  | .maintain now => rehearsal.mapEngine fun engine => (engine.maintain now).1
  | .takeJournal => rehearsal.takeJournal.1
  | .takeEvents => rehearsal.takeEvents.1

/-- If there is an engine, it stands. -/
def Stands (rehearsal : Rehearsal) : Prop :=
  ∀ engine, rehearsal.stage = .ok engine → engine.Stands rehearsal.config rehearsal.seats

variable {rehearsal : Rehearsal}

/-- Where no engine was built, there is none that would have to stand. -/
theorem stands_of_error {around : Surroundings} (none_built : rehearsal.stage = .error around) :
    rehearsal.Stands := by
  intro engine standing
  rw [none_built] at standing
  cases standing

/-- If an engine stands after a change of it, a rehearsal in which it was changed stands. -/
theorem Stands.change (stands : rehearsal.Stands) {after : Rehearsal} (change : Engine → Engine)
    (changed : after.stage.toOption = rehearsal.stage.toOption.map change)
    (keeps : ∀ engine : Engine, engine.Stands rehearsal.config rehearsal.seats →
      (change engine).Stands after.config after.seats) : after.Stands := by
  intro engine standing
  rw [standing] at changed
  obtain ⟨before, here, rfl⟩ := Option.map_eq_some_iff.1 changed.symm
  exact keeps before (stands before (toOption_eq_some_iff.1 here))

/-- The engine of a rehearsal is changed. -/
theorem Stands.mapEngine (stands : rehearsal.Stands) {change : Engine → Engine}
    (keeps : ∀ engine : Engine, engine.Stands rehearsal.config rehearsal.seats →
      (change engine).Stands rehearsal.config rehearsal.seats) :
    (rehearsal.mapEngine change).Stands := by
  refine stands.change change ?_ keeps
  unfold Rehearsal.mapEngine
  cases rehearsal.stage <;> rfl

/-- Something around it has changed that is not counted. -/
theorem Stands.mapAround (stands : rehearsal.Stands) {change : Surroundings → Surroundings}
    (uncounted : ∀ around, (change around).totals = around.totals) :
    (rehearsal.mapAround change).Stands := by
  refine stands.change (fun engine => { engine with around := change engine.around }) ?_
    fun engine standing => standing.pass (uncounted engine.around)
  unfold Rehearsal.mapAround
  cases rehearsal.stage <;> rfl

/-- The events of a former engine are recorded, by which nothing is counted. -/
theorem Stands.flush (stands : rehearsal.Stands) : rehearsal.flush.Stands :=
  @Stands.mapAround rehearsal stands
    (fun around => { around with events := around.events ++ rehearsal.pending }) fun _ => rfl

/-- Time has gone on. -/
theorem Stands.elapse (stands : rehearsal.Stands) {run : Engine → Engine}
    (leads : ∀ engine, Leads engine (run engine)) (duration : Duration) :
    (rehearsal.elapse run duration).Stands := by
  refine stands.flush.change run ?_ fun engine standing => standing.leads (leads engine)
  unfold Rehearsal.elapse
  dsimp only
  cases rehearsal.flush.stage <;> rfl

/-- The engine has been stopped. -/
theorem Stands.stop (stands : rehearsal.Stands) : rehearsal.stop.Stands := by
  unfold Rehearsal.stop
  split
  · split
    · exact stands.flush.mapEngine fun _ => Engine.Stands.stop
    · exact stands.mapEngine fun _ => Engine.Stands.stop
  · exact stands

/-- The script of a backend was replaced. -/
theorem Stands.rescript (stands : rehearsal.Stands) (backend : Nat) (script : Script) :
    (rehearsal.rescript backend script).Stands := by
  refine stands.change _ ?_ fun engine standing => standing.rescript backend script
  unfold Rehearsal.rescript Rehearsal.mapEngine
  cases rehearsal.stage <;> rfl

/-- An engine that was built of seats stands. -/
theorem stands_built {config : Configuration} {seats : List Seat} {counters : CacheCounters}
    {around : Surroundings} {engine : Engine}
    (built : Engine.build config (seats.map Seat.plan) counters around = .ok engine) :
    engine.Stands config seats := by
  refine ⟨⟨_, _, _, _, _, .built built, rfl, rfl⟩, ?_, ?_⟩
  · obtain ⟨-, providers, -, rfl⟩ := build_eq_ok built
    exact Phase.noConfusion
  · obtain ⟨-, providers, planned, rfl⟩ := build_eq_ok built
    have each := List.forall₂_map_left_iff.1 (mapM_eq_ok_iff.1 planned)
    exact each.imp fun seat provider made => seat.fits_of_build made

/-- An engine that is built, or built again, stands. -/
theorem stands_rebuild (rehearsal : Rehearsal) : rehearsal.rebuild.1.Stands := by
  unfold Rehearsal.rebuild assemble
  generalize rehearsal.dismiss = dismissed
  dsimp only
  split
  case h_1 => exact stands_of_error rfl
  case h_2 =>
    split
    case h_1 built =>
      intro engine standing
      cases standing
      exact stands_built built
    case h_2 => exact stands_of_error rfl

/-- Whatever is done in a rehearsal, its engine stands afterwards. -/
theorem Stands.perform (stands : rehearsal.Stands) (cue : Cue) :
    (rehearsal.perform cue).Stands := by
  cases cue with
  | rebuild => exact rehearsal.stands_rebuild
  | sleep duration => exact stands.elapse (fun engine => .sleep engine duration) duration
  | jump duration => exact stands.elapse (fun engine => .jump engine duration) _
  | setClock clock => exact stands.mapAround fun _ => rfl
  | release backend count => exact stands.mapAround fun _ => rfl
  | rescript backend script => exact stands.rescript backend script
  | start =>
    refine stands.mapEngine fun engine standing => standing.next fun flow free same => ?_
    exact ⟨.start, _, .start flow, nofun, nofun, free, by rw [← same]⟩
  | stop => exact stands.stop
  | lookup now query =>
    refine stands.mapEngine fun engine standing => standing.next fun flow free same => ?_
    exact ⟨.lookup now query, _, .lookup flow now query, nofun, nofun, free, by rw [← same]⟩
  | maintain now =>
    refine stands.mapEngine fun engine standing => standing.next fun flow free same => ?_
    exact ⟨.maintain now, _, .maintain flow now, nofun, nofun, free, by rw [← same]⟩
  | takeJournal => exact stands.mapAround fun _ => rfl
  | takeEvents => exact stands.mapAround fun _ => rfl

/-- The tunables are the same whatever is done. -/
theorem perform_config (rehearsal : Rehearsal) (cue : Cue) :
    (rehearsal.perform cue).config = rehearsal.config := by
  cases cue with
  | rebuild =>
    have dismissed : rehearsal.dismiss.config = rehearsal.config := by
      unfold dismiss
      split <;> rfl
    show rehearsal.rebuild.1.config = rehearsal.config
    rw [← dismissed]
    unfold Rehearsal.rebuild assemble
    dsimp only
    split
    · rfl
    · split <;> rfl
  | stop =>
    show rehearsal.stop.config = rehearsal.config
    unfold Rehearsal.stop
    split
    · split <;> rfl
    · rfl
  | _ => rfl

/-- Whatever is done one after the other, the engine stands afterwards, with the same tunables. -/
theorem Stands.run (stands : rehearsal.Stands) (cues : List Cue) :
    (cues.foldl Rehearsal.perform rehearsal).Stands ∧
      (cues.foldl Rehearsal.perform rehearsal).config = rehearsal.config := by
  induction cues generalizing rehearsal with
  | nil => exact ⟨stands, rfl⟩
  | cons cue cues ih =>
    obtain ⟨stands, same⟩ := ih (stands.perform cue)
    exact ⟨stands, same.trans (rehearsal.perform_config cue)⟩

/-- Whatever is done in a rehearsal and in whatever order, its engine lives: what has happened to it
since it was built is what may happen to any engine. -/
theorem lives (seats : List Seat) (config : Configuration) (found : Surroundings)
    (cues : List Cue) {engine : Engine}
    (standing : (cues.foldl perform { seats, config, stage := .error found }).stage = .ok engine) :
    ∃ plans counters around trace flow, Run config plans counters around trace flow ∧
      flow.engine = engine := by
  have before : Stands { seats, config, stage := .error found } := stands_of_error rfl
  obtain ⟨stands, same⟩ := before.run cues
  obtain ⟨plans, counters, around, trace, flow, run, -, here⟩ := (stands engine standing).lives
  rw [same] at run
  exact ⟨plans, counters, around, trace, flow, run, here⟩

/-- There is an engine after it was built with a script that is replaced while it runs. -/
example :
    ([Cue.rebuild, .start, .rescript 0 {}, .lookup .epoch (.of (.v4 ⟨0xc0000201⟩) 7), .stop].foldl
      perform { seats := [.scripted 0 {}], config := {}, stage := .error {} }).stage.isOk := by
  decide +kernel

end Rehearsal

end FlowEnrichment
