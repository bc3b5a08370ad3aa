import FlowEnrichment.Proofs.Cache.Persistence
import FlowEnrichment.Proofs.Engine.Files

/-!
# Starts, stops and the snapshot

What has happened to an engine tells where it is in its life (`Flow.Stage`): it was started if
there was a start before any stop, and it is being stopped from the first stop after that start
until the tasks have ended. So only one start succeeds, the snapshot is read by that start and
written at the end of that stop, and an engine that is started on the snapshot afterwards begins
with the entries that the first one had in the end (`Flow.started_and_saved_once`).
-/
namespace FlowEnrichment

/-- Where an engine is after something has happened. -/
def Phase.next : Phase → Happening → Phase
  | .ready, .start => .running
  | .ready, .halt => .stopped
  | .running, .halt => .stopping
  | _, .close => .stopped
  | phase, _ => phase

namespace Engine

variable {engine : Engine}

/-- A start succeeds exactly if the engine was neither started nor stopped. -/
theorem start_eq_ok_iff : engine.start.2 = .ok () ↔ engine.phase = .ready := by
  unfold start
  cases engine.phase <;> simp

/-- Maintenance that has a first tick waits for it. -/
theorem step_prepare_of_some {deadline : Instant} (fresh : engine.maintenance = .fresh)
    (ticks : engine.now.add? engine.config.cacheCheckInterval = some deadline) :
    engine.step? .prepare = some { engine with maintenance := .ticking deadline } := by
  unfold step?
  dsimp only
  rw [if_pos fresh, ticks]

/-- A start that does not succeed is refused for the state of the engine and changes nothing. -/
theorem start_refused {failure : Failure} (refused : engine.start.2 = .error failure) :
    (∃ reason, failure = .invalidState reason) ∧ engine.start.1 = engine := by
  unfold start at refused ⊢
  split at refused
  · cases refused
  · cases refused
    exact ⟨⟨_, rfl⟩, rfl⟩
  · cases refused
    exact ⟨⟨_, rfl⟩, rfl⟩
  · cases refused
    exact ⟨⟨_, rfl⟩, rfl⟩

/-- The start leaves the files alone. -/
theorem start_files (engine : Engine) : engine.start.1.around.files = engine.around.files := by
  obtain ⟨cache, events, phase, fresh, maintenance, graceDeadline, started⟩ := engine.start_parts
  rw [started]

/-- The end of the stop saves the cache, if there is to be a snapshot. -/
theorem close_files (engine : Engine) : engine.close.around.files =
    match engine.config.cachePersistFile with
    | none => engine.around.files
    | some path => (engine.cache.save engine.around.files path).1 := by
  have same : engine.logCrashes.config = engine.config := rfl
  unfold close saveCache
  rw [same]
  cases engine.config.cachePersistFile with
  | none => rfl
  | some path =>
    dsimp only
    split <;> rfl

/-- An engine that is started on a snapshot that was saved begins with what was saved. -/
theorem start_of_save {cache : Cache} {files after : FileTree} {path : String}
    (saved : cache.save files path = (after, .ok ())) (ready : engine.phase = .ready)
    (persisted : engine.config.cachePersistFile = some path) (disk : engine.around.files = after) :
    engine.start.2 = .ok () ∧ engine.start.1.cache.store.entries = cache.store.entries := by
  subst disk
  have read := Store.load_save Cache.format_lawful (by decide) saved
  have succeeded : engine.cache.load engine.around.files path =
      (engine.cache.measured cache.store, .ok ()) := by
    rw [Cache.load, read]
  have cached : engine.loadCache.cache = engine.cache.measured cache.store := by
    unfold loadCache
    rw [persisted]
    dsimp only
    rw [succeeded]
    rfl
  unfold start
  rw [ready]
  refine ⟨rfl, ?_⟩
  show engine.loadCache.cache.store.entries = cache.store.entries
  rw [cached, Cache.measured]

end Engine

namespace Flow

open Engine

variable {config : Configuration} {plans : List ProviderPlan} {counters : CacheCounters}
  {around : Surroundings} {trace : Trace} {flow after : Flow} {happening : Happening}

/-! ## Phases -/

/-- Whatever happens leads from one phase to the next. -/
theorem Happens.phase (happens : Happens happening flow after) :
    after.engine.phase = flow.engine.phase.next happening := by
  cases happens with
  | pass _ => cases flow.engine.phase <;> rfl
  | start =>
    dsimp only
    unfold Engine.start
    cases here : flow.engine.phase with
    | ready => rfl
    | running => exact here
    | stopping => exact here
    | stopped => exact here
  | halt =>
    dsimp only
    unfold Engine.halt
    cases here : flow.engine.phase with
    | ready => rfl
    | running => rfl
    | stopping => exact here
    | stopped => exact here
  | close stopping =>
    rw [stopping]
    rfl
  | lookup _ now query =>
    obtain ⟨queue, around, answered, -⟩ := flow.engine.lookup_parts now query
    dsimp only
    rw [answered]
    cases flow.engine.phase <;> rfl
  | maintain _ now =>
    obtain ⟨queue, around, maintained, -⟩ := flow.engine.maintain_parts now
    dsimp only
    rw [maintained]
    cases flow.engine.phase <;> rfl
  | request _ query =>
    obtain ⟨queue, around, queued, -⟩ := flow.engine.enqueue_parts query
    dsimp only
    rw [queued]
    cases flow.engine.phase <;> rfl
  | report _ update => show flow.engine.phase = _; cases flow.engine.phase <;> rfl
  | act _ taken =>
    refine (kept_step taken).phase.trans ?_
    cases flow.engine.phase <;> rfl
  | gather gathering => cases gathering <;> (dsimp only; cases flow.engine.phase <;> rfl)
  | recast _ => show flow.engine.phase = _; cases flow.engine.phase <;> rfl

/-- Something has not happened. -/
def Never (happening : Happening) (trace : Trace) : Prop := ∀ entry ∈ trace, entry.2 ≠ happening

/-- What has happened to an engine in a phase. -/
inductive Stage : Trace → Phase → Prop where
  /-- It was neither started nor stopped. -/
  | ready {trace : Trace} (unstarted : Never .start trace) (untold : Never .halt trace)
      (unclosed : Never .close trace) : Stage trace .ready
  /-- It was started and not stopped since. -/
  | running {first last : Trace} {before : Flow} (ready : Stage first .ready)
      (succeeds : before.engine.start.2 = .ok ()) (untold : Never .halt last)
      (unclosed : Never .close last) : Stage (first ++ (before, .start) :: last) .running
  /-- It was stopped after that, and the stop has not ended. -/
  | stopping {first last : Trace} {before : Flow} (running : Stage first .running)
      (unclosed : Never .close last) : Stage (first ++ (before, .halt) :: last) .stopping
  /-- It was stopped without having been started. -/
  | dropped {first last : Trace} {before : Flow} (ready : Stage first .ready)
      (unclosed : Never .close last) : Stage (first ++ (before, .halt) :: last) .stopped
  /-- The stop has ended. -/
  | closed {first last : Trace} {before : Flow} (stopping : Stage first .stopping)
      (unclosed : Never .close last) : Stage (first ++ (before, .close) :: last) .stopped

/-- Nothing has happened in the beginning. -/
theorem never_nil (happening : Happening) : Never happening [] := List.forall_mem_nil _

/-- What has not happened before and does not happen now has not happened afterwards. -/
theorem Never.concat {other : Happening} (never : Never other trace) (differs : happening ≠ other)
    (flow : Flow) : Never other (trace ++ [(flow, happening)]) := by
  intro entry member
  rcases List.mem_append.1 member with before | last
  · exact never entry before
  · rw [List.mem_singleton.1 last]
    exact differs

/-- A stop ends when the tasks were told to and have ended. -/
theorem Happens.stopping_of_close (happens : Happens .close flow after) :
    flow.engine.phase = .stopping ∧ flow.engine.Ended ∧ after.engine = flow.engine.close := by
  cases happens with
  | close stopping ended _ => exact ⟨stopping, ended, rfl⟩

/-- Whatever happens takes what has happened to the next phase. -/
theorem Stage.next (stage : Stage trace flow.engine.phase)
    (happens : Happens happening flow after) :
    Stage (trace ++ [(flow, happening)]) after.engine.phase := by
  rw [happens.phase]
  generalize here : flow.engine.phase = phase at stage
  have closes (closing : happening = .close) : phase = .stopping := by
    subst closing
    exact here.symm.trans happens.stopping_of_close.1
  cases stage with
  | ready unstarted untold unclosed =>
    cases happening with
    | start =>
      exact .running (.ready unstarted untold unclosed) (start_eq_ok_iff.2 here) (never_nil _)
        (never_nil _)
    | halt => exact .dropped (.ready unstarted untold unclosed) (never_nil _)
    | close => cases closes rfl
    | _ =>
      exact .ready (unstarted.concat (by nofun) flow) (untold.concat (by nofun) flow)
        (unclosed.concat (by nofun) flow)
  | running ready succeeds untold unclosed =>
    rw [List.append_assoc, List.cons_append]
    cases happening with
    | halt =>
      rw [← List.cons_append, ← List.append_assoc]
      exact .stopping (.running ready succeeds untold unclosed) (never_nil _)
    | close => cases closes rfl
    | _ =>
      exact .running ready succeeds (untold.concat (by nofun) flow)
        (unclosed.concat (by nofun) flow)
  | stopping running unclosed =>
    rw [List.append_assoc, List.cons_append]
    cases happening with
    | close =>
      rw [← List.cons_append, ← List.append_assoc]
      exact .closed (.stopping running unclosed) (never_nil _)
    | _ => exact .stopping running (unclosed.concat (by nofun) flow)
  | dropped ready unclosed =>
    rw [List.append_assoc, List.cons_append]
    cases happening with
    | close => cases closes rfl
    | _ => exact .dropped ready (unclosed.concat (by nofun) flow)
  | closed stopping unclosed =>
    rw [List.append_assoc, List.cons_append]
    cases happening with
    | close => cases closes rfl
    | _ => exact .closed stopping (unclosed.concat (by nofun) flow)

/-- What has happened tells the phase. -/
theorem Run.stage (run : Run config plans counters around trace flow) :
    Stage trace flow.engine.phase := by
  induction run with
  | built built =>
    obtain ⟨-, providers, -, rfl⟩ := build_eq_ok built
    exact .ready (never_nil _) (never_nil _) (never_nil _)
  | next _ happens ih => exact ih.next happens

/-- An engine is ready exactly if it was neither started nor stopped. -/
theorem Stage.ready_iff {phase : Phase} (stage : Stage trace phase) :
    phase = .ready ↔ Never .start trace ∧ Never .halt trace := by
  constructor
  · rintro rfl
    cases stage with
    | ready unstarted untold _ => exact ⟨unstarted, untold⟩
  · rintro ⟨unstarted, untold⟩
    cases stage with
    | ready => rfl
    | running => exact absurd rfl (unstarted _ (List.mem_append_right _ List.mem_cons_self))
    | stopping => exact absurd rfl (untold _ (List.mem_append_right _ List.mem_cons_self))
    | dropped => exact absurd rfl (untold _ (List.mem_append_right _ List.mem_cons_self))
    | closed stopping =>
      cases stopping with
      | stopping =>
        exact absurd rfl (untold _ (List.mem_append_left _ (List.mem_append_right _
          List.mem_cons_self)))

/-- An engine that is being stopped was started before that, and the stop has not ended. -/
theorem Stage.of_stopping (stage : Stage trace .stopping) :
    (∃ first starting middle stopping last,
      trace = first ++ (starting, .start) :: middle ++ (stopping, .halt) :: last ∧
      starting.engine.start.2 = .ok () ∧ Never .halt first ∧ Never .halt middle) ∧
    Never .close trace := by
  cases stage with
  | @stopping _ last stopping running unclosed =>
    cases running with
    | @running first middle starting ready succeeds untold open_till_then =>
      cases ready with
      | ready unstarted untold_before unclosed_before =>
        refine ⟨⟨first, starting, middle, stopping, last, rfl, succeeds, untold_before, untold⟩, ?_⟩
        intro entry member
        simp only [List.mem_append, List.mem_cons] at member
        rcases member with (before | rfl | between) | rfl | since
        · exact unclosed_before entry before
        · exact Happening.noConfusion
        · exact open_till_then entry between
        · exact Happening.noConfusion
        · exact unclosed entry since

/-! ## Starts -/

/-- Whether a start happened that was not refused. -/
def succeeded : Flow × Happening → Bool
  | (flow, .start) => flow.engine.start.2.isOk
  | _ => false

/-- Only a start of an engine that is ready succeeds. -/
theorem succeeded_eq_false (started : flow.engine.phase ≠ .ready) (happening : Happening) :
    succeeded (flow, happening) = false := by
  cases happening with
  | start =>
    have refused : flow.engine.start.2 ≠ .ok () := fun succeeds =>
      started (start_eq_ok_iff.1 succeeds)
    show flow.engine.start.2.isOk = false
    cases outcome : flow.engine.start.2 with
    | ok _ => exact absurd outcome refused
    | error failure => rfl
  | _ => rfl

/-- At most one start succeeds, and none before an engine that is ready. -/
theorem Run.succeeded_le_one (run : Run config plans counters around trace flow) :
    (flow.engine.phase = .ready → trace.countP succeeded = 0) ∧ trace.countP succeeded ≤ 1 := by
  induction run with
  | built _ => exact ⟨fun _ => rfl, Nat.zero_le 1⟩
  | @next trace happening before after _ happens ih =>
    have phase := happens.phase
    rw [List.countP_append, List.countP_singleton]
    by_cases ready : before.engine.phase = .ready
    · rw [ih.1 ready, Nat.zero_add]
      refine ⟨fun still => ?_, by split <;> decide⟩
      rw [ready, still] at phase
      cases happening with
      | start => cases phase
      | _ => rfl
    · rw [succeeded_eq_false ready happening]
      refine ⟨fun again => ?_, ih.2⟩
      rw [again] at phase
      cases here : before.engine.phase with
      | ready => exact absurd here ready
      | _ => rw [here] at phase; cases happening <;> cases phase

/-! ## The life cycle -/

/-- A stop of an engine that was not started is over when the tasks were told to end. -/
theorem stop_of_ready {engine : Engine} (ready : engine.phase = .ready) :
    engine.stop = engine.halt := by
  unfold Engine.stop Engine.halt
  rw [ready]

/-- Whatever happens to an engine and in whatever order, at most one start succeeds, and only
before the first stop; a start that does not is refused for the state of the engine and changes
nothing. The start that succeeds reads the snapshot. When all tasks have ended after the first stop
that follows it, the cache as it is then is saved, once. Nothing else that the engine does reads or
writes files. If the snapshot was saved, an engine that is started on it begins with the same
entries. A stop that nothing else comes between goes through the same states. -/
theorem started_and_saved_once (run : Run config plans counters around trace flow) :
    (flow.engine.start.2 = .ok () ↔ Never .start trace ∧ Never .halt trace) ∧
    trace.countP succeeded ≤ 1 ∧
    (∀ failure, flow.engine.start.2 = .error failure →
      (∃ reason, failure = .invalidState reason) ∧ flow.engine.start.1 = flow.engine) ∧
    flow.engine.start.1.around.files = flow.engine.around.files ∧
    (∀ happening after, Happens happening flow after → happening ≠ .pass →
      (happening = .start → flow.engine.start.2 ≠ .ok ()) → happening ≠ .close →
      after.engine.around.files = flow.engine.around.files ∧
        ∀ files, Happens happening (flow.onDisk files) (after.onDisk files)) ∧
    (∀ after, Happens .close flow after →
      (∃ first starting middle stopping last,
        trace = first ++ (starting, .start) :: middle ++ (stopping, .halt) :: last ∧
        starting.engine.start.2 = .ok () ∧ Never .halt first ∧ Never .halt middle) ∧
      Never .close trace ∧
      (∀ action, flow.engine.step? action = none) ∧
      after.engine.around.files = (match config.cachePersistFile with
        | none => flow.engine.around.files
        | some path => (flow.engine.cache.save flow.engine.around.files path).1) ∧
      ∀ path, config.cachePersistFile = some path →
        (flow.engine.cache.save flow.engine.around.files path).2 = .ok () →
        ∀ second : Engine, second.phase = .ready → second.config.cachePersistFile = some path →
          second.around.files = after.engine.around.files →
          second.start.2 = .ok () ∧
            second.start.1.cache.store.entries = flow.engine.cache.store.entries) ∧
    (flow.engine.phase = .ready → flow.engine.stop = flow.engine.halt) ∧
    (flow.engine.phase = .running → flow.gathering = none →
      ∃ acts ended, (∀ entry ∈ acts, ∃ action, entry.2 = .act action) ∧ ended.engine.Ended ∧
        Run config plans counters around (trace ++ (flow, .halt) :: acts ++ [(ended, .close)])
          { ended with engine := flow.engine.stop }) := by
  have stage := run.stage
  refine ⟨start_eq_ok_iff.trans stage.ready_iff, run.succeeded_le_one.2,
    fun failure => start_refused, start_files flow.engine, ?apart, ?closes, stop_of_ready, ?stops⟩
  case apart =>
    intro happening after happens inside refused unclosed
    refine happens.apart inside (fun starts ready => ?_) unclosed
    exact refused starts (start_eq_ok_iff.2 ready)
  case closes =>
    intro after closes
    obtain ⟨stopping, ended, closed⟩ := closes.stopping_of_close
    have files := close_files flow.engine
    rw [← closed, run.tunables] at files
    rw [stopping] at stage
    refine ⟨stage.of_stopping.1, stage.of_stopping.2, ended.step_eq_none stopping, files, ?_⟩
    intro path persisted saved second ready same disk
    rw [persisted] at files
    have both : flow.engine.cache.save flow.engine.around.files path =
        (after.engine.around.files, .ok ()) := Prod.ext files.symm saved
    exact start_of_save both ready same disk
  case stops =>
    intro running free
    obtain ⟨acts, ended, each, done, -, stopped⟩ := run.stop free running
    exact ⟨acts, ended, each, done, stopped⟩

/-- What a provider reports to an engine with a snapshot is there when another engine is started on
that snapshot. -/
theorem started_and_saved_once_with_restart :
    let config : Configuration := { cachePersistFile := some "c" }
    let plans := [Script.plan {} 0]
    ∃ trace flow after second, Run config plans {} {} trace flow ∧ Happens .close flow after ∧
      build config plans {} { files := after.engine.around.files } = .ok second ∧
      flow.engine.cache.store.size = 1 ∧ second.start.2 = .ok () ∧
      second.start.1.cache.store.entries = flow.engine.cache.store.entries := by
  intro config plans
  have built : Run config plans {} {} [] _ := .built rfl
  have started := built.next (.start _)
  have reported := started.next (.report _ ⟨⟨⟨1⟩, 7⟩, .empty⟩)
  have told := reported.next (.halt _)
  have ended := told.next (.act (.inl rfl)
    (@step_prepare_of_some _ ⟨120000000000⟩ rfl (by decide +kernel)))
  have saves := (started_and_saved_once ended).2.2.2.2.2.1
  have closes := saves _ (.close rfl ⟨rfl, by decide⟩ rfl)
  refine ⟨_, _, _, _, ended, .close rfl ⟨rfl, by decide⟩ rfl, rfl, rfl, ?_⟩
  exact closes.2.2.2.2 "c" rfl rfl _ rfl rfl rfl

end Flow

end FlowEnrichment
