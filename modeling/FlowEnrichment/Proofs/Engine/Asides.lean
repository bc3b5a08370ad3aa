import FlowEnrichment.Proofs.Breaker.Uniformity
import FlowEnrichment.Proofs.Cache.Contents
import FlowEnrichment.Proofs.Engine.Chronicles
import FlowEnrichment.Proofs.Engine.LifeCycle

/-!
# What happens beside a job

Nothing that an engine does takes time, puts off the deadlines of its queries or changes the
thresholds of a breaker (`Engine.Steady`). And whatever happens while one worker is busy with a job,
other than that this worker goes on with it, leaves the job as it is (`Flow.Happens.aside`). Jobs
are kept in a list, so the position of one is another when a worker goes on with one before it. What
is in the cache stays there until maintenance runs (`Flow.Happens.has`).
-/
namespace FlowEnrichment

namespace Engine

variable {before between after engine : Engine}

/-! ## Time -/

/-- It is as late as before, queries have as much time as before, and the breakers have the same
thresholds. -/
structure Steady (before after : Engine) : Prop where
  /-- The time is the same. -/
  now : after.now = before.now
  /-- The timers have fired up to the same tick. -/
  tick : after.around.tick = before.around.tick
  /-- The time before which no query times out is the same. -/
  grace : after.graceDeadline = before.graceDeadline
  /-- The thresholds of the breakers are the same. -/
  uniform : ∀ config, before.breakers.Uniform config → after.breakers.Uniform config

namespace Steady

/-- Doing nothing takes no time. -/
theorem refl (engine : Engine) : Steady engine engine := ⟨rfl, rfl, rfl, fun _ => id⟩

/-- What takes no time twice takes none. -/
theorem trans (first : Steady before between) (second : Steady between after) :
    Steady before after where
  now := second.now.trans first.now
  tick := second.tick.trans first.tick
  grace := second.grace.trans first.grace
  uniform config uniform := second.uniform config (first.uniform config uniform)

/-- Requests and maintenance take no time. -/
theorem of_served {around : Surroundings} (served : Served before.around around)
    (same : after.around = around) (grace : after.graceDeadline = before.graceDeadline)
    (breakers : after.breakers = before.breakers) : Steady before after := by
  have now : after.now = around.now := congrArg Surroundings.now same
  have tick : after.around.tick = around.tick := congrArg Surroundings.tick same
  cases served
  exact ⟨now, tick, grace, fun _ => breakers ▸ id⟩

/-- A rejection takes no time. -/
theorem reject (engine : Engine) (exporter : Address) :
    Steady engine (engine.reject exporter) := by
  unfold Engine.reject
  dsimp only
  split <;> exact ⟨rfl, rfl, rfl, fun _ => id⟩

/-- The record of an outcome takes no time. -/
theorem conclude (engine : Engine) (batch : BatchQuery) (outcome : Except Failure Unit) :
    Steady engine (engine.conclude batch outcome) := by
  unfold Engine.conclude
  split
  · exact refl engine
  · exact reject engine batch.exporter
  · exact ⟨rfl, rfl, rfl, fun _ => id⟩
  · exact ⟨rfl, rfl, rfl, fun _ => id⟩

/-- The end of a query takes no time. -/
theorem finish (engine : Engine) (batch : BatchQuery) (outcome : Except Failure Unit) :
    Steady engine (engine.finish batch outcome) := by
  have recorded : Steady engine { engine with
      breakers := (engine.breakers.record batch.exporter engine.now outcome.isOk).table } :=
    ⟨rfl, rfl, rfl, fun _ uniform => uniform.record batch.exporter engine.now outcome.isOk⟩
  unfold Engine.finish
  dsimp only
  split
  · exact recorded.trans ⟨rfl, rfl, rfl, fun _ => id⟩
  · exact (recorded.trans (conclude _ batch outcome)).trans ⟨rfl, rfl, rfl, fun _ => id⟩

/-- What a provider can do takes no time. -/
theorem stepwise : Stepwise Steady where
  refl := refl
  trans := trans
  around _ _ _ _ _ := ⟨rfl, rfl, rfl, fun _ => id⟩
  store _ _ := ⟨rfl, rfl, rfl, fun _ => id⟩
  reports _ _ := ⟨rfl, rfl, rfl, fun _ => id⟩

/-- A worker that goes on with a job takes no time. -/
theorem resume (engine : Engine) (job : Job) : Steady engine (engine.resume job) := by
  unfold Engine.resume
  split
  · exact finish engine _ _
  · have advances := stepwise.advance engine job
    cases advanced : engine.advance job with
    | mk reached progress =>
      rw [advanced] at advances
      cases progress with
      | answered outcome => exact advances.trans (finish reached _ _)
      | crashed =>
        exact advances.trans ⟨rfl, rfl, rfl, fun _ uniform => uniform.drop _ reached.now job.call⟩
      | waits later =>
        dsimp only
        split
        · exact advances.trans (finish reached _ _)
        · exact advances.trans ⟨rfl, rfl, rfl, fun _ => id⟩

/-- A worker that begins with a batch takes no time. -/
theorem undertake (engine : Engine) (batch : BatchQuery) :
    Steady engine (engine.undertake batch) := by
  have entered : Steady engine { engine with
      breakers := (engine.breakers.enter batch.exporter engine.now).1 } :=
    ⟨rfl, rfl, rfl, fun _ uniform => uniform.enter batch.exporter engine.now⟩
  unfold Engine.undertake
  split
  case h_1 breakers _ _ _ passed _ =>
    rw [passed] at entered
    exact entered.trans ⟨rfl, rfl, rfl, fun _ => id⟩
  case h_2 breakers _ passed _ =>
    rw [passed] at entered
    exact entered.trans (finish _ batch (.ok ()))
  case h_3 _ breakers passed =>
    rw [passed] at entered
    exact (entered.trans (reject _ batch.exporter)).trans ⟨rfl, rfl, rfl, fun _ => id⟩

/-- No action takes time. -/
theorem step {action : Action} (taken : engine.step? action = some after) :
    Steady engine after := by
  cases action with
  | prepare =>
    obtain ⟨maintenance, crashed, rfl⟩ := step_prepare taken
    exact ⟨rfl, rfl, rfl, fun _ => id⟩
  | join =>
    obtain ⟨-, -, rfl⟩ := step_join taken
    exact ⟨rfl, rfl, rfl, fun _ => id⟩
  | seek =>
    obtain ⟨-, -, -, rfl⟩ := step_seek taken
    exact ⟨rfl, rfl, rfl, fun _ => id⟩
  | listen =>
    obtain ⟨-, -, _, _, -, _, _, -, ⟨_, _, -, rfl⟩ | ⟨-, rfl⟩⟩ := step_listen taken
    · exact ⟨rfl, rfl, rfl, fun _ => id⟩
    · exact ⟨rfl, rfl, rfl, fun _ => id⟩
  | deliver =>
    obtain ⟨-, _, _, -, -, _, _, rfl, -⟩ := step_deliver taken
    exact ⟨rfl, rfl, rfl, fun _ => id⟩
  | claim =>
    obtain ⟨-, _, _, -, -, rfl⟩ := step_claim taken
    exact ⟨rfl, rfl, rfl, fun _ => id⟩
  | take =>
    obtain ⟨-, batch, channel, -, -, rfl⟩ := step_take taken
    have fewer : Steady engine { engine with waiting := engine.waiting - 1, channel } :=
      ⟨rfl, rfl, rfl, fun _ => id⟩
    exact fewer.trans (undertake _ batch)
  | work position =>
    obtain ⟨job, -, rfl⟩ := step_work taken
    have others : Steady engine { engine with jobs := engine.jobs.eraseIdx position } :=
      ⟨rfl, rfl, rfl, fun _ => id⟩
    exact others.trans (resume _ job)
  | report =>
    obtain ⟨due, later, -, -, rfl⟩ := step_report taken
    obtain ⟨cache, stored⟩ := foldl_store_parts due { engine with reports := later }
    rw [stored]
    exact ⟨rfl, rfl, rfl, fun _ => id⟩
  | maintain =>
    obtain ⟨deadline, -, -, rfl⟩ := step_maintain taken
    obtain ⟨count, next, -, served⟩ := engine.serveTicks_eq deadline
    obtain ⟨cache, queue, around, maintained, changed⟩ := maintainTimes_parts count engine
    rw [served, maintained]
    exact of_served changed rfl rfl rfl

end Steady

/-! ## Jobs -/

/-- What is in a list is in a longer one. -/
theorem getElem?_of_prefix {α : Type} {xs ys : List α} {position : Nat} {x : α}
    (begins : xs <+: ys) (found : xs[position]? = some x) : ys[position]? = some x := by
  obtain ⟨bound, rfl⟩ := List.getElem?_eq_some_iff.1 found
  exact List.prefix_iff_getElem?.1 begins position bound

/-- A worker that has its turn adds at most its own job to the others. -/
theorem Turn.jobs (turn : Turn engine after) : engine.jobs <+: after.jobs := by
  cases turn with
  | rests => exact List.prefix_refl _
  | works => exact List.prefix_append _ _
  | goes => exact List.prefix_refl _

/-- An action by which no worker goes on with a job leaves the jobs as they are, but for another one
at the end. -/
theorem step_jobs {action : Action} (taken : engine.step? action = some after)
    (idle : ∀ position, action ≠ .work position) : engine.jobs <+: after.jobs := by
  have same (jobs : after.jobs = engine.jobs) : engine.jobs <+: after.jobs :=
    jobs ▸ List.prefix_refl _
  cases action with
  | prepare =>
    obtain ⟨maintenance, crashed, rfl⟩ := step_prepare taken
    exact same rfl
  | join =>
    obtain ⟨-, -, rfl⟩ := step_join taken
    exact same rfl
  | seek =>
    obtain ⟨-, -, -, rfl⟩ := step_seek taken
    exact same rfl
  | listen =>
    obtain ⟨-, -, _, _, -, _, _, -, ⟨_, _, -, rfl⟩ | ⟨-, rfl⟩⟩ := step_listen taken
    · exact same rfl
    · exact same rfl
  | deliver =>
    obtain ⟨-, _, _, -, -, _, _, rfl, -⟩ := step_deliver taken
    exact same rfl
  | claim =>
    obtain ⟨-, _, _, -, -, rfl⟩ := step_claim taken
    exact same rfl
  | take =>
    obtain ⟨-, batch, channel, -, -, rfl⟩ := step_take taken
    exact (turn_undertake { engine with waiting := engine.waiting - 1, channel } batch).jobs
  | work position => exact absurd rfl (idle position)
  | report =>
    obtain ⟨due, later, -, -, rfl⟩ := step_report taken
    obtain ⟨cache, stored⟩ := foldl_store_parts due { engine with reports := later }
    rw [stored]
  | maintain =>
    obtain ⟨deadline, -, -, rfl⟩ := step_maintain taken
    obtain ⟨count, next, -, served⟩ := engine.serveTicks_eq deadline
    obtain ⟨cache, queue, around, maintained, -⟩ := maintainTimes_parts count engine
    rw [served, maintained]

end Engine

/-- Where a job is after something else has happened, by its position before. -/
def Happening.moves (position : Nat) : Happening → Nat
  | .act (.work other) => if other < position then position - 1 else position
  | _ => position

/-- Maintenance runs, by which answers may leave the cache. -/
def Happening.maintains : Happening → Bool
  | .maintain _ | .act .maintain => true
  | _ => false

/-- Something happens beside the job at a position: it is neither that the worker goes on with it,
nor that time passes, nor that the engine is told to stop, nor that its providers answer
otherwise. -/
structure Happening.Aside (position : Nat) (happening : Happening) : Prop where
  /-- The worker does not go on with the job. -/
  other : happening ≠ .act (.work position)
  /-- Time does not pass. -/
  still : happening ≠ .pass
  /-- The engine is not told to stop. -/
  untold : happening ≠ .halt
  /-- The providers go on to answer as they do. -/
  fixed : happening ≠ .recast

namespace Flow

open Engine

variable {happening : Happening} {flow after : Flow} {position : Nat} {job : Job}

/-- Whatever happens but that time passes or the engine is started takes no time. -/
theorem Happens.steady (happens : Happens happening flow after) (still : happening ≠ .pass)
    (started : happening = .start → flow.engine.phase ≠ .ready) :
    Steady flow.engine after.engine := by
  cases happens with
  | pass _ => exact absurd rfl still
  | start =>
    dsimp only
    rw [start_eq_self _ (started rfl)]
    exact .refl _
  | halt =>
    obtain ⟨phase, queue, halted⟩ := flow.engine.halt_parts
    dsimp only
    rw [halted]
    exact ⟨rfl, rfl, rfl, fun _ => id⟩
  | close =>
    obtain ⟨files, events, closed⟩ := flow.engine.close_parts
    dsimp only
    rw [closed]
    exact ⟨rfl, rfl, rfl, fun _ => id⟩
  | lookup _ now query =>
    obtain ⟨queue, around, answered, served⟩ := flow.engine.lookup_parts now query
    dsimp only
    rw [answered]
    exact .of_served served rfl rfl rfl
  | maintain _ now =>
    obtain ⟨queue, around, maintained, served⟩ := flow.engine.maintain_parts now
    dsimp only
    rw [maintained]
    exact .of_served served rfl rfl rfl
  | request _ query =>
    obtain ⟨queue, around, queued, served⟩ := flow.engine.enqueue_parts query
    dsimp only
    rw [queued]
    exact .of_served served rfl rfl rfl
  | report _ update => exact ⟨rfl, rfl, rfl, fun _ => id⟩
  | act _ taken => exact .step taken
  | gather gathering => cases gathering <;> exact ⟨rfl, rfl, rfl, fun _ => id⟩
  | recast _ => exact ⟨rfl, rfl, rfl, fun _ => id⟩

/-- Whatever happens but that a worker goes on with a job leaves the jobs as they are, but for
another one at the end. -/
theorem Happens.jobs (happens : Happens happening flow after)
    (idle : ∀ position, happening ≠ .act (.work position)) :
    flow.engine.jobs <+: after.engine.jobs := by
  cases happens with
  | pass _ => exact List.prefix_refl _
  | start =>
    obtain ⟨cache, events, phase, fresh, maintenance, graceDeadline, started⟩ :=
      flow.engine.start_parts
    dsimp only
    rw [started]
  | halt =>
    obtain ⟨phase, queue, halted⟩ := flow.engine.halt_parts
    dsimp only
    rw [halted]
  | close =>
    obtain ⟨files, events, closed⟩ := flow.engine.close_parts
    dsimp only
    rw [closed]
  | lookup _ now query =>
    obtain ⟨queue, around, answered, -⟩ := flow.engine.lookup_parts now query
    dsimp only
    rw [answered]
  | maintain _ now =>
    obtain ⟨queue, around, maintained, -⟩ := flow.engine.maintain_parts now
    dsimp only
    rw [maintained]
  | request _ query =>
    obtain ⟨queue, around, queued, -⟩ := flow.engine.enqueue_parts query
    dsimp only
    rw [queued]
  | report _ update => exact List.prefix_refl _
  | act _ taken => exact step_jobs taken fun other same => idle other (congrArg _ same)
  | gather gathering => cases gathering <;> exact List.prefix_refl _
  | recast _ => exact List.prefix_refl _

/-- A running engine goes on running unless it is told to stop. -/
theorem Happens.running (happens : Happens happening flow after) (untold : happening ≠ .halt)
    (running : flow.engine.phase = .running) : after.engine.phase = .running := by
  rw [happens.phase, running]
  cases happening with
  | halt => exact absurd rfl untold
  | close =>
    have stopping := happens.stopping_of_close.1
    rw [running] at stopping
    cases stopping
  | _ => rfl

/-- What happens beside a job leaves it as it is. -/
theorem Happens.aside (happens : Happens happening flow after)
    (aside : happening.Aside position) (found : flow.engine.jobs[position]? = some job) :
    after.engine.jobs[happening.moves position]? = some job := by
  by_cases works : ∃ other, happening = .act (.work other)
  · obtain ⟨other, rfl⟩ := works
    have differs : other ≠ position := fun same => aside.other (by rw [same])
    cases happens with
    | act _ taken =>
      obtain ⟨turned, -, resumed⟩ := step_work taken
      have jobs := (turn_resume
        { flow.engine with jobs := flow.engine.jobs.eraseIdx other } turned).jobs
      rw [← resumed] at jobs
      refine getElem?_of_prefix jobs ?_
      show (flow.engine.jobs.eraseIdx other)[Happening.moves position _]? = some job
      rw [Happening.moves, List.getElem?_eraseIdx]
      split_ifs with before here here
      · omega
      · rw [Nat.sub_add_cancel (Nat.one_le_of_lt before)]
        exact found
      · exact found
      · omega
  · have jobs := happens.jobs fun other same => works ⟨other, same⟩
    have here : happening.moves position = position := by
      unfold Happening.moves
      split
      · next other => exact absurd ⟨other, rfl⟩ works
      · rfl
    rw [here]
    exact getElem?_of_prefix jobs found

/-! ## Answers -/

/-- Reading and writing remove no answer. -/
theorem has_through {operations : List CacheOperation} {store : Store Query Answer} {query : Query}
    (keeps : ∀ operation ∈ operations, (∃ now other answer, operation = .put now other answer) ∨
      ∃ now other, operation = .get now other) (has : store.Has query) :
    (Store.through operations store).Has query := by
  induction operations generalizing store with
  | nil => exact has
  | cons operation operations ih =>
    refine ih (fun other member => keeps other (List.mem_cons_of_mem _ member)) ?_
    rcases keeps operation List.mem_cons_self with ⟨now, other, answer, rfl⟩ | ⟨now, other, rfl⟩
    · exact Store.has_insert.2 (.inr has)
    · show (store.get now other).1.Has query
      unfold Store.get
      split
      · exact Store.has_insert.2 (.inr has)
      · exact has

/-- What is in the cache of a running engine stays there until maintenance runs. -/
theorem Happens.has {query : Query} (happens : Happens happening flow after)
    (running : flow.engine.phase = .running) (idle : happening.maintains = false)
    (has : flow.engine.cache.Has query) : after.engine.cache.Has query := by
  obtain ⟨operations, permits, stored⟩ := happens.permits
  have none_done (same : operations = []) : after.engine.cache.Has query := by
    show after.engine.cache.store.Has query
    rw [stored, same]
    exact has
  have written {updates : List Update}
      (same : operations = Update.writes flow.engine.around.clock updates) :
      after.engine.cache.Has query := by
    show after.engine.cache.store.Has query
    rw [stored]
    refine has_through (fun operation member => .inl ?_) has
    rw [same] at member
    obtain ⟨update, -, rfl⟩ := List.mem_map.1 member
    exact ⟨_, _, _, rfl⟩
  cases happening with
  | maintain => cases idle
  | start =>
    cases happens
    rw [start_eq_self _ fun ready => Phase.noConfusion (running.symm.trans ready)]
    exact has
  | lookup now other =>
    show after.engine.cache.store.Has query
    rw [stored, show operations = [.get now other] from permits]
    refine has_through (fun operation member => .inr ?_) has
    exact ⟨now, other, List.mem_singleton.1 member⟩
  | report update => exact written permits
  | act action =>
    cases action with
    | maintain => cases idle
    | _ =>
      obtain ⟨updates, same⟩ := permits
      exact written same
  | _ => exact none_done permits

/-! ## Runs -/

section Runs

variable {config : Configuration} {plans : List ProviderPlan} {counters : CacheCounters}
  {around : Surroundings} {trace : Trace}

/-- The start of an engine changes no breaker. -/
theorem start_breakers (engine : Engine) : engine.start.1.breakers = engine.breakers := by
  obtain ⟨cache, events, phase, fresh, maintenance, graceDeadline, started⟩ := engine.start_parts
  rw [started]

/-- The start sets the time before which no query times out. -/
theorem start_grace {engine : Engine} (ready : engine.phase = .ready) :
    engine.start.1.graceDeadline = engine.now.addOrFar engine.config.initialDelay := by
  obtain ⟨cache, events, loaded⟩ := engine.loadCache_parts
  unfold Engine.start
  rw [ready, loaded]
  rfl

/-- The breakers of an engine always have the thresholds of its configuration. -/
theorem Run.uniform (run : Run config plans counters around trace flow) :
    flow.engine.breakers.Uniform config.breaker := by
  induction run with
  | built built =>
    obtain ⟨-, providers, -, rfl⟩ := build_eq_ok built
    exact ⟨rfl, nofun⟩
  | @next trace happening before after _ happens ih =>
    by_cases still : happening = .pass
    · subst still
      cases happens
      exact ih
    by_cases started : happening = .start
    · subst started
      cases happens
      exact start_breakers before.engine ▸ ih
    · exact (happens.steady still fun start => absurd start started).uniform _ ih

/-- A running engine was started, and no query times out before the initial delay after that is
over. -/
theorem Run.grace (run : Run config plans counters around trace flow)
    (running : flow.engine.phase = .running) :
    ∃ started, (started, .start) ∈ trace ∧ started.engine.phase = .ready ∧
      flow.engine.graceDeadline = started.engine.now.addOrFar config.initialDelay := by
  induction run with
  | built built =>
    obtain ⟨-, providers, -, rfl⟩ := build_eq_ok built
    cases running
  | @next trace happening before after run happens ih =>
    -- What happened before the last thing happened before the engine was running or after that.
    have onwards (earlier : before.engine.phase = .running)
        (same : after.engine.graceDeadline = before.engine.graceDeadline) :
        ∃ started, (started, .start) ∈ trace ++ [(before, happening)] ∧
          started.engine.phase = .ready ∧
          after.engine.graceDeadline = started.engine.now.addOrFar config.initialDelay := by
      obtain ⟨started, among, ready, grace⟩ := ih earlier
      exact ⟨started, List.mem_append_left _ among, ready, same.trans grace⟩
    have phases := happens.phase
    rw [running] at phases
    by_cases still : happening = .pass
    · subst still
      cases happens
      exact onwards running rfl
    by_cases ready : happening = .start ∧ before.engine.phase = .ready
    · obtain ⟨rfl, ready⟩ := ready
      refine ⟨before, List.mem_append_right _ List.mem_cons_self, ready, ?_⟩
      cases happens
      rw [start_grace ready, run.tunables]
    · have steady := happens.steady still fun start phase => ready ⟨start, phase⟩
      refine onwards ?_ steady.grace
      cases here : before.engine.phase with
      | running => rfl
      | ready =>
        rw [here] at phases
        cases happening with
        | start => exact absurd ⟨rfl, here⟩ ready
        | _ => cases phases
      | stopping | stopped =>
        rw [here] at phases
        cases happening <;> cases phases

end Runs

end Flow

end FlowEnrichment
