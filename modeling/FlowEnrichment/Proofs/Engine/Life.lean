import FlowEnrichment.Proofs.Engine.Crashes

/-!
# Lives of engines

`Flow.Run` is the life of an engine from its build on, with whatever happens to it in order: it is
started and told to stop any number of times and at any time, queries are looked up, providers
report, its parts take actions. A stop takes time. First the tasks are told to end (`Engine.halt`);
then they end one after the other while other things go on; when all of them have ended the stop
itself ends (`Engine.close`). A stop that nothing else comes between is `Engine.stop` (`Run.stop`).
-/
namespace FlowEnrichment

namespace Engine

variable {engine after : Engine}

/-! ## What actions keep -/

/-- The engine is made of the same and where it was in its life. -/
structure Kept (before after : Engine) : Prop where
  /-- The tunables are the same. -/
  config : after.config = before.config
  /-- The providers are the same. -/
  providers : after.providers = before.providers
  /-- The engine is where it was in its life. -/
  phase : after.phase = before.phase

/-- A worker that has its turn keeps what the engine is made of. -/
theorem Turn.kept (turn : Turn engine after) : Kept engine after := by
  cases turn <;> exact ⟨rfl, rfl, rfl⟩

/-- So does every action. -/
theorem kept_step {action : Action} (taken : engine.step? action = some after) :
    Kept engine after := by
  cases action with
  | prepare =>
    obtain ⟨maintenance, crashed, rfl⟩ := step_prepare taken
    exact ⟨rfl, rfl, rfl⟩
  | join =>
    obtain ⟨-, -, rfl⟩ := step_join taken
    exact ⟨rfl, rfl, rfl⟩
  | seek =>
    obtain ⟨-, -, -, rfl⟩ := step_seek taken
    exact ⟨rfl, rfl, rfl⟩
  | listen =>
    obtain ⟨-, -, _, _, -, _, _, -, ⟨_, _, -, rfl⟩ | ⟨-, rfl⟩⟩ := step_listen taken
    · exact ⟨rfl, rfl, rfl⟩
    · exact ⟨rfl, rfl, rfl⟩
  | deliver =>
    obtain ⟨-, _, _, -, -, _, _, rfl, -⟩ := step_deliver taken
    exact ⟨rfl, rfl, rfl⟩
  | claim =>
    obtain ⟨-, _, _, -, -, rfl⟩ := step_claim taken
    exact ⟨rfl, rfl, rfl⟩
  | take =>
    obtain ⟨-, batch, channel, -, -, rfl⟩ := step_take taken
    obtain ⟨config, providers, phase⟩ := (turn_undertake
      { engine with waiting := engine.waiting - 1, channel } batch).kept
    exact ⟨config, providers, phase⟩
  | work position =>
    obtain ⟨job, -, rfl⟩ := step_work taken
    obtain ⟨config, providers, phase⟩ := (turn_resume
      { engine with jobs := engine.jobs.eraseIdx position } job).kept
    exact ⟨config, providers, phase⟩
  | report =>
    obtain ⟨due, later, -, -, rfl⟩ := step_report taken
    obtain ⟨cache, stored⟩ := foldl_store_parts due { engine with reports := later }
    rw [stored]
    exact ⟨rfl, rfl, rfl⟩
  | maintain =>
    obtain ⟨deadline, -, -, rfl⟩ := step_maintain taken
    obtain ⟨count, next, -, served⟩ := engine.serveTicks_eq deadline
    obtain ⟨cache, queue, around, maintained, -⟩ := maintainTimes_parts count engine
    rw [served, maintained]
    exact ⟨rfl, rfl, rfl⟩

/-! ## The stop in parts -/

/-- Tells the tasks to end, if there are any. -/
def halt (engine : Engine) : Engine :=
  match engine.phase with
  | .ready => { engine with phase := .stopped, queue := [] }
  | .running => { engine with phase := .stopping }
  | .stopping | .stopped => engine

/-- Ends the stop, the tasks having ended. -/
def close (engine : Engine) : Engine :=
  { engine.logCrashes.saveCache with
    phase := .stopped, queue := [], maintenance := .idle, reports := [] }.log .stopped

/-- The tasks that are told to end are in another phase, in which there may be no queue. -/
theorem halt_parts (engine : Engine) :
    ∃ phase queue, engine.halt = { engine with phase, queue } := by
  unfold halt
  split <;> exact ⟨_, _, rfl⟩

/-- A snapshot that is saved changes the files and the record of events. -/
theorem saveCache_parts (engine : Engine) :
    ∃ files events,
      engine.saveCache = { engine with around := { engine.around with files, events } } := by
  unfold saveCache
  split
  · exact ⟨engine.around.files, engine.around.events, rfl⟩
  · next path _ =>
    cases engine.cache.save engine.around.files path with
    | mk files outcome => cases outcome <;> exact ⟨files, _, rfl⟩

/-- The end of the stop changes the files and the record of events and drops what is left to do. -/
theorem close_parts (engine : Engine) :
    ∃ files events, engine.close =
      { engine with
        phase := .stopped, queue := [], maintenance := .idle, reports := []
        around := { engine.around with files, events } } := by
  obtain ⟨files, events, saved⟩ := engine.logCrashes.saveCache_parts
  unfold close
  rw [saved]
  exact ⟨files, events ++ [.stopped], rfl⟩

/-- Every task has ended that was told to. -/
structure Ended (engine : Engine) : Prop where
  /-- No worker is busy with a batch. -/
  jobs : engine.jobs = []
  /-- Maintenance is not about to begin. -/
  maintenance : engine.maintenance ≠ .fresh

/-- The number of things that the tasks still do after they were told to end. -/
def unfinished (engine : Engine) : Nat :=
  engine.jobs.length + if engine.maintenance = .fresh then 1 else 0

/-- Nothing is left to do exactly if every task has ended. -/
theorem unfinished_eq_zero_iff : engine.unfinished = 0 ↔ engine.Ended := by
  rw [unfinished, Nat.add_eq_zero_iff, List.length_eq_zero_iff]
  constructor
  · rintro ⟨jobs, begun⟩
    refine ⟨jobs, fun fresh => ?_⟩
    rw [if_pos fresh] at begun
    cases begun
  · rintro ⟨jobs, begun⟩
    exact ⟨jobs, if_neg begun⟩

/-- A worker whose query ends changes neither the phase nor the jobs nor maintenance. -/
theorem finish_unfinished (engine : Engine) (batch : BatchQuery) (outcome : Except Failure Unit) :
    (engine.finish batch outcome).phase = engine.phase ∧
      (engine.finish batch outcome).unfinished = engine.unfinished := by
  rcases engine.finish_parts batch outcome with ⟨_, _, _, finished, -⟩ | ⟨_, finished⟩
  · rw [finished]
    exact ⟨rfl, rfl⟩
  · rw [finished]
    exact ⟨rfl, rfl⟩

/-- Tasks that were told to end do nothing but end: each action is the end of one. -/
theorem step_of_stopping (stopping : engine.phase = .stopping) {action : Action}
    (taken : engine.step? action = some after) :
    after.phase = .stopping ∧ after.unfinished + 1 = engine.unfinished := by
  have waits {phase : Phase} (running : engine.phase = phase) (other : phase ≠ .stopping) :
      False := other (running.symm.trans stopping)
  cases action with
  | prepare =>
    unfold step? at taken
    dsimp only at taken
    split at taken
    case isFalse => cases taken
    case isTrue fresh =>
      split at taken
      · cases taken
        exact ⟨stopping, by simp [unfinished, fresh]⟩
      · cases taken
        exact ⟨stopping, by simp [unfinished, fresh, crash]⟩
  | join => exact (waits (step_join taken).1 nofun).elim
  | seek => exact (waits (step_seek taken).1 nofun).elim
  | listen => exact (waits (step_listen taken).1 nofun).elim
  | deliver => exact (waits (step_deliver taken).1 nofun).elim
  | claim => exact (waits (step_claim taken).1 nofun).elim
  | take => exact (waits (step_take taken).1 nofun).elim
  | work position =>
    obtain ⟨job, found, rfl⟩ := step_work taken
    unfold resume
    rw [if_pos stopping]
    obtain ⟨phase, same⟩ := finish_unfinished
      { engine with jobs := engine.jobs.eraseIdx position } job.batch (.error .cancelled)
    refine ⟨phase.trans stopping, ?_⟩
    have among : position < engine.jobs.length := (List.getElem?_eq_some_iff.1 found).1
    have fewer : (engine.jobs.eraseIdx position).length + 1 = engine.jobs.length := by
      rw [List.length_eraseIdx_of_lt among]
      omega
    rw [same]
    unfold unfinished
    dsimp only
    omega
  | report =>
    unfold step? at taken
    simp [stopping] at taken
  | maintain =>
    obtain ⟨_, running, -⟩ := step_maintain taken
    exact (waits running nofun).elim

/-- While a task has not ended there is an action to take. -/
theorem next_of_stopping (stopping : engine.phase = .stopping) (none_left : engine.next? = none) :
    engine.Ended := by
  have idle (action : Action) (candidate : action ∈ engine.candidates) :
      engine.step? action = none :=
    List.findSome?_eq_none_iff.1 none_left action candidate
  constructor
  · rw [List.eq_nil_iff_forall_not_mem]
    intro job member
    obtain ⟨position, bound, found⟩ := List.getElem_of_mem member
    have resumes : engine.canResume job = true := by simp [canResume, stopping]
    have worked := idle (.work position) ?_
    · unfold step? at worked
      simp [List.getElem?_eq_getElem bound, found, resumes] at worked
    · simp only [candidates, dueActions, List.cons_append, List.mem_cons, reduceCtorEq, false_or,
        List.mem_append, List.mem_map, List.mem_mergeSort, List.mem_filter]
      refine .inl ⟨(engine.resumableSince job, .work position), .inl (.inl ⟨(job, position), ?_⟩),
        rfl⟩
      refine ⟨⟨?_, resumes⟩, rfl⟩
      rw [List.mem_zipIdx_iff_getElem?, List.getElem?_eq_getElem bound, found]
  · intro fresh
    have prepared := idle .prepare (by simp [candidates])
    unfold step? at prepared
    simp only [fresh, if_true] at prepared
    split at prepared <;> cases prepared

/-- Tasks that have ended do nothing more. -/
theorem Ended.step_eq_none (ended : engine.Ended) (stopping : engine.phase = .stopping)
    (action : Action) : engine.step? action = none := by
  rw [Option.eq_none_iff_forall_not_mem]
  intro after taken
  have fewer := (step_of_stopping stopping taken).2
  rw [unfinished_eq_zero_iff.2 ended] at fewer
  cases fewer

/-- The workload covers what the tasks still do. -/
theorem unfinished_le_workload (engine : Engine) : engine.unfinished ≤ engine.workload := by
  have busy (jobs : List Job) : jobs.length ≤ total (jobs.map engine.jobWeight) := by
    induction jobs with
    | nil => exact Nat.le_refl 0
    | cons job jobs ih =>
      have heavy : 1 ≤ engine.jobWeight job := by
        unfold jobWeight
        split
        · decide
        · split <;> decide
        · decide
      rw [List.length_cons, List.map_cons, total]
      omega
  have begins : (if engine.maintenance = .fresh then 1 else 0) ≤ engine.maintenanceWeight := by
    split
    case isTrue fresh => simp [maintenanceWeight, fresh]
    case isFalse => exact Nat.zero_le _
  have weight := busy engine.jobs
  unfold unfinished workload
  omega

end Engine

/-! ## Happenings -/

/-- Something that happens in the life of an engine. -/
inductive Happening where
  /-- Something changes around the engine that is not counted, such as the time. -/
  | pass
  /-- The engine is started, or the start is refused. -/
  | start
  /-- The tasks are told to end. -/
  | halt
  /-- The stop ends. -/
  | close
  /-- A query is looked up. -/
  | lookup (now : Timestamp) (query : Query)
  /-- Maintenance runs. -/
  | maintain (now : Timestamp)
  /-- A request is queued, be it by a lookup or by maintenance, while others go on. -/
  | request (query : Query)
  /-- A provider reports an update by itself. -/
  | report (update : Update)
  /-- A part of the engine takes an action. -/
  | act (action : Engine.Action)
  /-- The dispatcher gathers a round. -/
  | gather
  /-- From now on the providers answer otherwise. -/
  | recast

namespace Flow

open Engine

/-- What something that happens makes of an engine. -/
inductive Happens : Happening → Flow → Flow → Prop where
  /-- Something changes around the engine that is not counted. -/
  | pass {flow : Flow} {around : Surroundings}
      (counted : around.totals = flow.engine.around.totals) :
      Happens .pass flow { flow with engine := { flow.engine with around } }
  /-- The engine is started, or the start is refused. -/
  | start (flow : Flow) : Happens .start flow { flow with engine := flow.engine.start.1 }
  /-- The tasks are told to end. -/
  | halt (flow : Flow) : Happens .halt flow { flow with engine := flow.engine.halt }
  /-- The stop ends when every task has ended. -/
  | close {flow : Flow} (stopping : flow.engine.phase = .stopping) (ended : flow.engine.Ended)
      (free : flow.gathering = none) :
      Happens .close flow { flow with engine := flow.engine.close }
  /-- A query is looked up. -/
  | lookup (flow : Flow) (now : Timestamp) (query : Query) :
      Happens (.lookup now query) flow
        { flow with
          engine := (flow.engine.lookup now query).1
          attempts := flow.attempts ++ flow.engine.lookupAttempts now query }
  /-- Maintenance runs. -/
  | maintain (flow : Flow) (now : Timestamp) :
      Happens (.maintain now) flow
        { flow with
          engine := (flow.engine.maintain now).1
          attempts := flow.attempts ++ flow.engine.maintainAttempts now }
  /-- A request is queued. -/
  | request (flow : Flow) (query : Query) :
      Happens (.request query) flow
        { flow with
          engine := (flow.engine.enqueue query).1
          attempts := flow.attempts ++ [flow.engine.attempt query] }
  /-- A provider reports an update. -/
  | report (flow : Flow) (update : Update) :
      Happens (.report update) flow { flow with engine := flow.engine.store update }
  /-- A part of the engine takes an action; no round begins while another is gathered. -/
  | act {flow : Flow} {action : Action} {after : Engine}
      (free : flow.gathering = none ∨ action ≠ .listen)
      (taken : flow.engine.step? action = some after) :
      Happens (.act action) flow (flow.afterAction action after)
  /-- The dispatcher gathers a round request by request. -/
  | gather {flow after : Flow} (gathering : Gathering flow after) : Happens .gather flow after
  /-- From now on the providers answer otherwise, as they may if they have a state of their own. -/
  | recast {flow : Flow} {providers : List Provider}
      (same : providers.map Provider.name = flow.engine.names) :
      Happens .recast flow { flow with engine := flow.engine.recast providers }

/-- What has happened, in order, each with the state in which it did. -/
abbrev Trace := List (Flow × Happening)

/-- The life of an engine from its build on. -/
inductive Run (config : Configuration) (plans : List ProviderPlan) (counters : CacheCounters)
    (around : Surroundings) : Trace → Flow → Prop where
  /-- The engine was built. -/
  | built {engine : Engine} (built : build config plans counters around = .ok engine) :
      Run config plans counters around [] { engine }
  /-- One more thing has happened. -/
  | next {trace : Trace} {happening : Happening} {before after : Flow}
      (run : Run config plans counters around trace before)
      (happens : Happens happening before after) :
      Run config plans counters around (trace ++ [(before, happening)]) after

variable {config : Configuration} {plans : List ProviderPlan} {counters : CacheCounters}
  {around : Surroundings} {trace : Trace} {flow after : Flow}

/-- A step is something that happens, by which the engine is not told to stop and its providers go
on to answer as they do. -/
theorem Step.happens (step : Step flow after) :
    ∃ happening, Happens happening flow after ∧ happening ≠ .halt ∧ happening ≠ .recast := by
  cases step with
  | pass counted => exact ⟨_, .pass counted, nofun, nofun⟩
  | start ready => exact ⟨_, .start flow, nofun, nofun⟩
  | request query => exact ⟨_, .request flow query, nofun, nofun⟩
  | lookup now query => exact ⟨_, .lookup flow now query, nofun, nofun⟩
  | maintain now => exact ⟨_, .maintain flow now, nofun, nofun⟩
  | act free taken => exact ⟨_, .act free taken, nofun, nofun⟩
  | gather gathering => exact ⟨_, .gather gathering, nofun, nofun⟩

/-- What can be reached by steps is reached in some life. -/
theorem Reachable.run (reachable : Reachable config plans counters around flow) :
    ∃ trace, Run config plans counters around trace flow := by
  induction reachable with
  | built built => exact ⟨[], .built built⟩
  | step _ step ih =>
    obtain ⟨trace, run⟩ := ih
    obtain ⟨happening, happens, -⟩ := step.happens
    exact ⟨_, run.next happens⟩
  | recast _ same ih =>
    obtain ⟨trace, run⟩ := ih
    exact ⟨_, run.next (.recast same)⟩

/-- An engine is made of the same, unless its providers answer otherwise. -/
theorem Happens.made {happening : Happening} (happens : Happens happening flow after)
    (fixed : happening ≠ .recast) :
    after.engine.config = flow.engine.config ∧
      after.engine.providers = flow.engine.providers := by
  cases happens with
  | pass _ => exact ⟨rfl, rfl⟩
  | start =>
    obtain ⟨cache, events, phase, fresh, maintenance, graceDeadline, started⟩ :=
      flow.engine.start_parts
    dsimp only
    rw [started]
    exact ⟨rfl, rfl⟩
  | halt =>
    obtain ⟨phase, queue, halted⟩ := flow.engine.halt_parts
    dsimp only
    rw [halted]
    exact ⟨rfl, rfl⟩
  | close =>
    obtain ⟨files, events, closed⟩ := flow.engine.close_parts
    dsimp only
    rw [closed]
    exact ⟨rfl, rfl⟩
  | lookup _ now query =>
    obtain ⟨queue, around, answered, -⟩ := flow.engine.lookup_parts now query
    dsimp only
    rw [answered]
    exact ⟨rfl, rfl⟩
  | maintain _ now =>
    obtain ⟨queue, around, maintained, -⟩ := flow.engine.maintain_parts now
    dsimp only
    rw [maintained]
    exact ⟨rfl, rfl⟩
  | request _ query =>
    obtain ⟨queue, around, queued, -⟩ := flow.engine.enqueue_parts query
    dsimp only
    rw [queued]
    exact ⟨rfl, rfl⟩
  | report _ update => exact ⟨rfl, rfl⟩
  | act _ taken =>
    obtain ⟨config, providers, -⟩ := kept_step taken
    exact ⟨config, providers⟩
  | gather gathering => cases gathering <;> exact ⟨rfl, rfl⟩
  | recast _ => exact absurd rfl fixed

/-- Whatever happens, an engine has the same tunables, and providers of the same names. -/
theorem Happens.named {happening : Happening} (happens : Happens happening flow after) :
    after.engine.config = flow.engine.config ∧ after.engine.names = flow.engine.names := by
  by_cases otherwise : happening = .recast
  · subst otherwise
    cases happens with
    | recast same => exact ⟨rfl, same⟩
  · obtain ⟨config, providers⟩ := happens.made otherwise
    exact ⟨config, congrArg (List.map Provider.name) providers⟩

/-- An engine has all its life the tunables that it was built with. -/
theorem Run.tunables (run : Run config plans counters around trace flow) :
    flow.engine.config = config := by
  induction run with
  | built built =>
    obtain ⟨-, providers, -, rfl⟩ := build_eq_ok built
    rfl
  | next _ happens ih => exact happens.named.1.trans ih

/-- An engine that was built has a provider. -/
theorem providers_ne_nil_of_build {engine : Engine}
    (built : build config plans counters around = .ok engine) : engine.providers ≠ [] := by
  obtain ⟨_, checked, -⟩ := bind_eq_ok_iff.1 built
  obtain ⟨_, -, some_plan⟩ := bind_eq_ok_iff.1 (mapError_eq_ok_iff.1 checked)
  obtain ⟨-, providers, planned, rfl⟩ := build_eq_ok built
  cases plans with
  | nil => cases some_plan
  | cons plan plans =>
    rw [List.mapM_cons] at planned
    obtain ⟨provider, -, rest⟩ := bind_eq_ok_iff.1 planned
    obtain ⟨others, -, all⟩ := bind_eq_ok_iff.1 rest
    cases all
    exact List.cons_ne_nil _ _

/-- It always has one. -/
theorem Run.providers_ne_nil (run : Run config plans counters around trace flow) :
    flow.engine.providers ≠ [] := by
  induction run with
  | built built => exact providers_ne_nil_of_build built
  | next _ happens ih =>
    intro none_left
    have names := happens.named.2
    rw [Engine.names, none_left] at names
    exact ih (List.map_eq_nil_iff.1 names.symm)

/-- What it was built of is valid. -/
theorem Run.valid (run : Run config plans counters around trace flow) :
    config.validate = .ok () := by
  induction run with
  | built built => exact validate_of_build built
  | next _ _ ih => exact ih

/-! ## Stops without interruption -/

/-- Tasks that were told to end do so by actions. -/
theorem Run.settle {fuel : Nat} (run : Run config plans counters around trace flow)
    (free : flow.gathering = none) (stopping : flow.engine.phase = .stopping)
    (enough : flow.engine.unfinished ≤ fuel) :
    ∃ acts later, Run config plans counters around (trace ++ acts) later ∧
      (∀ entry ∈ acts, ∃ action, entry.2 = .act action) ∧ later.gathering = none ∧
      later.engine = settleWithin fuel flow.engine ∧ later.engine.phase = .stopping ∧
      later.engine.Ended := by
  induction fuel generalizing trace flow with
  | zero =>
    have ended := unfinished_eq_zero_iff.1 (Nat.le_zero.1 enough)
    refine ⟨[], flow, ?_, List.forall_mem_nil _, free, rfl, stopping, ended⟩
    rw [List.append_nil]
    exact run
  | succ fuel ih =>
    unfold settleWithin
    split
    case h_1 after next =>
      obtain ⟨action, -, taken⟩ := List.exists_of_findSome?_eq_some next
      obtain ⟨still, fewer⟩ := step_of_stopping stopping taken
      obtain ⟨acts, later, onwards, each, rest⟩ :=
        ih (run.next (.act (.inl free) taken)) free still (by dsimp only [afterAction]; omega)
      refine ⟨(flow, .act action) :: acts, later, ?_, ?_, rest⟩
      · rw [List.append_assoc] at onwards
        exact onwards
      · rintro entry (_ | ⟨_, member⟩)
        · exact ⟨action, rfl⟩
        · exact each entry member
    case h_2 none_left =>
      refine ⟨[], flow, ?_, List.forall_mem_nil _, free, rfl, stopping,
        next_of_stopping stopping none_left⟩
      rw [List.append_nil]
      exact run

/-- A running engine that is stopped without interruption is told to end its tasks, ends them by
actions and ends the stop. -/
theorem Run.stop (run : Run config plans counters around trace flow)
    (free : flow.gathering = none) (running : flow.engine.phase = .running) :
    ∃ acts ended, (∀ entry ∈ acts, ∃ action, entry.2 = .act action) ∧ ended.engine.Ended ∧
      ended.gathering = none ∧
      Run config plans counters around (trace ++ (flow, .halt) :: acts ++ [(ended, .close)])
        { ended with engine := flow.engine.stop } := by
  have halted : flow.engine.halt = { flow.engine with phase := .stopping } := by
    rw [halt, running]
  have told := run.next (.halt flow)
  rw [halted] at told
  obtain ⟨acts, ended, onwards, each, free, settled, stopping, done⟩ :=
    told.settle free rfl (unfinished_le_workload _)
  refine ⟨acts, ended, each, done, free, ?_⟩
  have stopped : flow.engine.stop = ended.engine.close := by
    rw [Engine.stop, running, settled]
    rfl
  rw [stopped]
  have closed := onwards.next (.close stopping done free)
  simpa using closed

end Flow

end FlowEnrichment
