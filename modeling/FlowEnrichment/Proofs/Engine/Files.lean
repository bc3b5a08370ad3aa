import FlowEnrichment.Proofs.Engine.Life

/-!
# Files and the life of an engine

Apart from the start and the end of the stop, what happens to an engine has nothing to do with
files. With other files around it an engine does the same (`Engine.onDisk`), and the files stay
as they are: every operation commutes with a change of the files, which says both.
-/
namespace FlowEnrichment

namespace Engine

/-- The engine with other files around it. -/
def onDisk (engine : Engine) (files : FileTree) : Engine :=
  { engine with around := { engine.around with files } }

variable (engine : Engine) (files : FileTree)

/-! ## Requests -/

/-- A request is queued without files. -/
theorem enqueue_onDisk (query : Query) : (engine.onDisk files).enqueue query =
    ((engine.enqueue query).1.onDisk files, (engine.enqueue query).2) := by
  unfold enqueue onDisk
  dsimp only
  split_ifs <;> rfl

/-- Requests are queued without files. -/
theorem enqueueAll_onDisk (queries : List Query) : enqueueAll queries (engine.onDisk files) =
    ((enqueueAll queries engine).1.onDisk files, (enqueueAll queries engine).2) := by
  induction queries generalizing engine with
  | nil => rfl
  | cons query queries ih =>
    rw [enqueueAll, enqueue_onDisk]
    dsimp only
    rw [ih]
    rfl

/-- A query is looked up without files. -/
theorem lookup_onDisk (now : Timestamp) (query : Query) : (engine.onDisk files).lookup now query =
    ((engine.lookup now query).1.onDisk files, (engine.lookup now query).2) := by
  have cached (cache : Cache) : ({ engine.onDisk files with cache } : Engine) =
      { engine with cache }.onDisk files := rfl
  have same : (engine.onDisk files).cache = engine.cache := rfl
  unfold lookup
  simp only [cached, enqueue_onDisk, same]
  cases engine.cache.lookup now query with
  | mk cache answer => cases answer <;> rfl

/-- Entries expire without files. -/
theorem expire_onDisk (now : Timestamp) : (engine.onDisk files).expire now =
    ((engine.expire now).1.onDisk files, (engine.expire now).2) := by
  unfold expire onDisk
  dsimp only
  split_ifs <;> rfl

/-- Entries are refreshed without files. -/
theorem refresh_onDisk (now : Timestamp) : (engine.onDisk files).refresh now =
    ((engine.refresh now).1.onDisk files, (engine.refresh now).2) := by
  have counted (engine : Engine) (change : EngineTotals → EngineTotals) :
      (engine.onDisk files).count change = (engine.count change).onDisk files := rfl
  have due : (engine.onDisk files).cache = engine.cache ∧
      (engine.onDisk files).config = engine.config := ⟨rfl, rfl⟩
  unfold refresh
  simp only [counted, due, enqueueAll_onDisk]
  split_ifs <;> rfl

/-- Maintenance runs without files. -/
theorem maintain_onDisk (now : Timestamp) : (engine.onDisk files).maintain now =
    ((engine.maintain now).1.onDisk files, (engine.maintain now).2) := by
  unfold maintain
  simp only [expire_onDisk, refresh_onDisk]
  show (if (engine.expire now).1.config.refreshes then _ else _) = _
  split_ifs <;> rfl

/-- So it does several times. -/
theorem maintainTimes_onDisk (count : Nat) : maintainTimes count (engine.onDisk files) =
    (maintainTimes count engine).onDisk files := by
  induction count generalizing engine with
  | zero => rfl
  | succ count ih =>
    rw [maintainTimes, maintainTimes, maintain_onDisk]
    exact ih _

/-- Ticks come due without files. -/
theorem dueTicks_onDisk (fuel : Nat) (deadline : Instant) :
    (engine.onDisk files).dueTicks fuel deadline = engine.dueTicks fuel deadline := by
  induction fuel generalizing deadline with
  | zero => rfl
  | succ fuel ih =>
    rw [dueTicks, dueTicks]
    simp only [ih]
    rfl

/-- Ticks are served without files. -/
theorem serveTicks_onDisk (deadline : Instant) : (engine.onDisk files).serveTicks deadline =
    (engine.serveTicks deadline).onDisk files := by
  have served (engine : Engine) (fuel : Nat)
      (same : engine.now.nanos + Instant.tickNanos - deadline.nanos = fuel) :
      engine.serveTicks deadline =
        { maintainTimes (engine.dueTicks fuel deadline).1 engine with
          maintenance := .ticking (engine.dueTicks fuel deadline).2 } := by
    subst same
    rfl
  -- The fuel stays a name: to unfold it would be to count through a tick in nanoseconds.
  obtain ⟨fuel, same⟩ : ∃ fuel, engine.now.nanos + Instant.tickNanos - deadline.nanos = fuel :=
    ⟨_, rfl⟩
  have now : (engine.onDisk files).now = engine.now := rfl
  rw [served engine fuel same, served (engine.onDisk files) fuel (now ▸ same),
    maintainTimes_onDisk, dueTicks_onDisk]
  rfl

/-! ## Workers -/

/-- A rejection needs no files. -/
theorem reject_onDisk (exporter : Address) : (engine.onDisk files).reject exporter =
    (engine.reject exporter).onDisk files := by
  unfold reject onDisk count
  dsimp only
  split_ifs <;> rfl

/-- An outcome is recorded without files. -/
theorem conclude_onDisk (batch : BatchQuery) (outcome : Except Failure Unit) :
    (engine.onDisk files).conclude batch outcome =
      (engine.conclude batch outcome).onDisk files := by
  unfold conclude
  split
  · rfl
  · exact reject_onDisk engine files batch.exporter
  · rfl
  · rfl

/-- A query ends without files. -/
theorem finish_onDisk (batch : BatchQuery) (outcome : Except Failure Unit) :
    (engine.onDisk files).finish batch outcome = (engine.finish batch outcome).onDisk files := by
  have recorded (breakers : BreakerTable) : ({ engine.onDisk files with breakers } : Engine) =
      { engine with breakers }.onDisk files := rfl
  unfold finish
  simp only [recorded, conclude_onDisk]
  show (if (engine.breakers.record _ engine.now _).overflow then _ else _) = _
  split_ifs <;> rfl

/-- Waits are over without files. -/
theorem waitOver_onDisk (wait : Wait) :
    (engine.onDisk files).waitOver wait = engine.waitOver wait := by
  cases wait <;> rfl

/-- Waits end without files. -/
theorem leaveWait_onDisk (wait : Wait) :
    (engine.onDisk files).leaveWait wait = (engine.leaveWait wait).onDisk files := by
  cases wait <;> rfl

/-- Providers do what they do without files. -/
theorem carryOut_onDisk (effects : List Effect) : carryOut effects (engine.onDisk files) =
    ((carryOut effects engine).1.onDisk files, (carryOut effects engine).2) := by
  induction effects generalizing engine with
  | nil => rfl
  | cons effect effects ih =>
    cases effect with
    | note backend batch =>
      rw [carryOut, carryOut]
      exact ih { engine with
        around := { engine.around with journal := engine.around.journal ++ [(backend, batch)] } }
    | takePermit backend =>
      have numbered := waitOver_onDisk { engine with
        around := { engine.around with tickets := engine.around.tickets + 1 } } files
        (.permit backend engine.around.tickets)
      have left := leaveWait_onDisk { engine with
        around := { engine.around with tickets := engine.around.tickets + 1 } } files
        (.permit backend engine.around.tickets)
      rw [carryOut, carryOut]
      dsimp only
      unfold onDisk at *
      dsimp only at *
      rw [numbered, left]
      split
      · exact ih _
      · rfl
    | pause time =>
      rw [carryOut, carryOut]
      rw [waitOver_onDisk]
      show (if engine.waitOver (.until (engine.now.addOrFar time)) then _ else _) = _
      split
      · exact ih engine
      · rfl
    | report update =>
      rw [carryOut, carryOut]
      exact ih (engine.store update)
    | reportLater delay update =>
      rw [carryOut, carryOut]
      exact ih { engine with
        reports := engine.reports ++ [(engine.now.addOrFar delay, update)] }

/-- The chain of providers goes on without files. -/
theorem proceed_onDisk (later : List Provider) (name : String) (job : Job) :
    proceed later name job (engine.onDisk files) =
      ((proceed later name job engine).1.onDisk files, (proceed later name job engine).2) := by
  induction later generalizing name job engine with
  | nil =>
    unfold proceed
    rw [carryOut_onDisk]
    cases carryOut job.effects engine with
    | mk reached left =>
      cases left with
      | some left => rfl
      | none =>
        cases job.ending with
        | crash => rfl
        | done outcome =>
          dsimp only
          cases handedOver? outcome <;> rfl
  | cons provider later ih =>
    unfold proceed
    rw [carryOut_onDisk]
    cases carryOut job.effects engine with
    | mk reached left =>
      cases left with
      | some left => rfl
      | none =>
        cases job.ending with
        | crash => rfl
        | done outcome =>
          dsimp only
          cases handedOver? outcome with
          | none => rfl
          | some indexes => exact ih (reached.log _) _ _

/-- Jobs go on without files. -/
theorem advance_onDisk (job : Job) : (engine.onDisk files).advance job =
    ((engine.advance job).1.onDisk files, (engine.advance job).2) := by
  unfold advance
  rw [waitOver_onDisk, leaveWait_onDisk, proceed_onDisk]
  split
  · rfl
  · rfl

/-- Workers resume jobs without files. -/
theorem resume_onDisk (job : Job) :
    (engine.onDisk files).resume job = (engine.resume job).onDisk files := by
  have phase : (engine.onDisk files).phase = engine.phase := rfl
  unfold resume
  rw [phase, advance_onDisk, finish_onDisk]
  split
  · rfl
  · cases engine.advance job with
    | mk reached progress =>
      cases progress with
      | answered outcome => exact finish_onDisk reached files _ _
      | crashed => rfl
      | waits later =>
        have timed : (reached.onDisk files).timedOut later = reached.timedOut later := rfl
        dsimp only
        rw [timed, finish_onDisk]
        split <;> rfl

/-- Workers begin with batches without files. -/
theorem undertake_onDisk (batch : BatchQuery) :
    (engine.onDisk files).undertake batch = (engine.undertake batch).onDisk files := by
  have entered : (engine.onDisk files).breakers.enter batch.exporter (engine.onDisk files).now =
      engine.breakers.enter batch.exporter engine.now := rfl
  have chain : (engine.onDisk files).providers = engine.providers := rfl
  unfold undertake
  rw [entered, chain]
  split
  case h_1 => rfl
  case h_2 breakers _ _ _ => exact finish_onDisk { engine with breakers } files batch (.ok ())
  case h_3 _ breakers _ =>
    have rejected := reject_onDisk { engine with breakers } files batch.exporter
    exact congrArg rest rejected

/-- Late updates are stored without files. -/
theorem foldl_store_onDisk (due : List (Instant × Update)) :
    due.foldl (fun engine (_, update) => engine.store update) (engine.onDisk files) =
      (due.foldl (fun engine (_, update) => engine.store update) engine).onDisk files := by
  induction due generalizing engine with
  | nil => rfl
  | cons first due ih => exact ih (engine.store first.2)

/-! ## Actions -/

/-- Every action is taken without files. -/
theorem step_onDisk (action : Action) :
    (engine.onDisk files).step? action = (engine.step? action).map (·.onDisk files) := by
  cases action with
  | prepare =>
    have sides : (engine.onDisk files).maintenance = engine.maintenance ∧
        (engine.onDisk files).now = engine.now ∧
        (engine.onDisk files).config = engine.config := ⟨rfl, rfl, rfl⟩
    unfold step?
    dsimp only
    rw [sides.1, sides.2.1, sides.2.2]
    split
    · cases engine.now.add? engine.config.cacheCheckInterval <;> rfl
    · rfl
  | join =>
    unfold step? onDisk
    dsimp only
    split <;> rfl
  | seek =>
    unfold step? onDisk
    dsimp only
    split <;> rfl
  | listen =>
    unfold step? onDisk
    dsimp only
    split
    · split <;> rfl
    · rfl
  | deliver =>
    unfold step? onDisk
    dsimp only
    split
    · split <;> rfl
    · rfl
  | claim =>
    unfold step? onDisk
    dsimp only
    split
    · split <;> rfl
    · rfl
  | take =>
    have sides : (engine.onDisk files).phase = engine.phase ∧
        (engine.onDisk files).channel = engine.channel := ⟨rfl, rfl⟩
    unfold step?
    dsimp only
    rw [sides.1, sides.2]
    split
    case h_1 batch channel _ _ =>
      show (if 0 < engine.waiting then _ else _) = _
      split
      · exact congrArg some
          (undertake_onDisk { engine with waiting := engine.waiting - 1, channel } files batch)
      · rfl
    case h_2 => rfl
  | work position =>
    have jobs : (engine.onDisk files).jobs = engine.jobs := rfl
    have able (job : Job) : (engine.onDisk files).canResume job = engine.canResume job := rfl
    unfold step?
    dsimp only
    simp only [jobs, able]
    cases engine.jobs[position]? with
    | none => rfl
    | some job =>
      dsimp only
      split
      · exact congrArg some
          (resume_onDisk { engine with jobs := engine.jobs.eraseIdx position } files job)
      · rfl
  | report =>
    have reached : (engine.onDisk files).reached = engine.reached := rfl
    have phase : (engine.onDisk files).phase = engine.phase := rfl
    have reports : (engine.onDisk files).reports = engine.reports := rfl
    rw [step?, step?, reached, phase, reports]
    generalize engine.reports.partition _ = parts
    obtain ⟨due, later⟩ := parts
    dsimp only
    split
    · exact congrArg some (foldl_store_onDisk { engine with reports := later } files due)
    · rfl
  | maintain =>
    have sides : (engine.onDisk files).phase = engine.phase ∧
        (engine.onDisk files).maintenance = engine.maintenance := ⟨rfl, rfl⟩
    unfold step?
    dsimp only
    rw [sides.1, sides.2]
    split
    case h_1 deadline _ _ =>
      show (if engine.reached deadline then _ else _) = _
      rw [serveTicks_onDisk]
      split <;> rfl
    case h_2 => rfl

/-! ## Attempts -/

/-- An attempt is made without files. -/
theorem attempt_onDisk (query : Query) :
    (engine.onDisk files).attempt query = engine.attempt query := by
  rw [attempt, attempt, enqueue_onDisk]
  rfl

/-- Attempts are made without files. -/
theorem attempts_onDisk (queries : List Query) :
    attempts queries (engine.onDisk files) = attempts queries engine := by
  induction queries generalizing engine with
  | nil => rfl
  | cons query queries ih =>
    rw [attempts, attempts, attempt_onDisk, enqueue_onDisk]
    exact congrArg (engine.attempt query :: ·) (ih _)

/-- Lookups make their attempts without files. -/
theorem lookupAttempts_onDisk (now : Timestamp) (query : Query) :
    (engine.onDisk files).lookupAttempts now query = engine.lookupAttempts now query := by
  unfold lookupAttempts
  rw [attempt_onDisk]
  rfl

/-- Maintenance makes its attempts without files. -/
theorem maintainAttempts_onDisk (now : Timestamp) :
    (engine.onDisk files).maintainAttempts now = engine.maintainAttempts now := by
  unfold maintainAttempts
  rw [expire_onDisk]
  dsimp only
  rw [attempts_onDisk]
  rfl

/-- So does maintenance that runs several times. -/
theorem maintainTimesAttempts_onDisk (count : Nat) :
    maintainTimesAttempts count (engine.onDisk files) = maintainTimesAttempts count engine := by
  induction count generalizing engine with
  | zero => rfl
  | succ count ih =>
    rw [maintainTimesAttempts, maintainTimesAttempts, maintain_onDisk]
    exact congrArg₂ (· ++ ·) (maintainAttempts_onDisk engine files engine.around.clock) (ih _)

/-- Actions make their attempts without files. -/
theorem actionAttempts_onDisk (action : Action) :
    (engine.onDisk files).actionAttempts action = engine.actionAttempts action := by
  have now : (engine.onDisk files).now = engine.now := rfl
  have maintenance : (engine.onDisk files).maintenance = engine.maintenance := rfl
  unfold actionAttempts
  rw [maintenance]
  split
  · dsimp only
    rw [now, dueTicks_onDisk, maintainTimesAttempts_onDisk]
  · rfl

/-! ## The start and the stop -/

/-- A start that is refused changes nothing. -/
theorem start_eq_self (started : engine.phase ≠ .ready) : engine.start.1 = engine := by
  unfold start
  split
  case h_1 ready => exact absurd ready started
  case h_2 => rfl
  case h_3 => rfl
  case h_4 => rfl

/-- The tasks are told to end without files. -/
theorem halt_onDisk : (engine.onDisk files).halt = engine.halt.onDisk files := by
  have phase : (engine.onDisk files).phase = engine.phase := rfl
  unfold halt
  rw [phase]
  split <;> rfl

end Engine

/-! ## Happenings -/

namespace Flow

open Engine

variable {flow after : Flow} {happening : Happening}

/-- An engine and the history of its requests with other files around. -/
def onDisk (flow : Flow) (files : FileTree) : Flow :=
  { flow with engine := flow.engine.onDisk files }

/-- A round is gathered without files. -/
theorem Gathering.onDisk (gathering : Gathering flow after) (files : FileTree) :
    Gathering (flow.onDisk files) (after.onDisk files) := by
  cases gathering with
  | first free running listening waiting => exact .first free running listening waiting
  | more gathering unfilled waiting =>
    exact @Gathering.more (flow.onDisk files) _ _ _ _ gathering unfilled waiting
  | close gathering ended => exact @Gathering.close (flow.onDisk files) _ _ _ gathering ended

/-- An operation that commutes with a change of the files leaves them alone. -/
theorem files_eq_of_onDisk {before after : Engine}
    (same : after = after.onDisk before.around.files) :
    after.around.files = before.around.files := by
  rw [same]
  rfl

/-- What happens to an engine by itself has nothing to do with files, except for a start that is not
refused and the end of the stop: it happens in the same way whatever files there are, and leaves
them alone. -/
theorem Happens.apart (happens : Happens happening flow after) (inside : happening ≠ .pass)
    (refused : happening = .start → flow.engine.phase ≠ .ready) (open_still : happening ≠ .close) :
    after.engine.around.files = flow.engine.around.files ∧
      ∀ files, Happens happening (flow.onDisk files) (after.onDisk files) := by
  cases happens with
  | pass counted => exact absurd rfl inside
  | start =>
    have started := refused rfl
    have same := start_eq_self flow.engine started
    refine ⟨by dsimp only; rw [same], fun files => ?_⟩
    have happens := Happens.start (flow.onDisk files)
    have same' : (flow.onDisk files).engine.start.1 = (flow.onDisk files).engine :=
      start_eq_self _ started
    rw [same'] at happens
    rw [same]
    exact happens
  | halt =>
    refine ⟨files_eq_of_onDisk (halt_onDisk flow.engine flow.engine.around.files), fun files => ?_⟩
    have happens := Happens.halt (flow.onDisk files)
    rw [show (flow.onDisk files).engine.halt = flow.engine.halt.onDisk files from
      halt_onDisk flow.engine files] at happens
    exact happens
  | close => exact absurd rfl open_still
  | lookup _ now query =>
    refine ⟨files_eq_of_onDisk (congrArg Prod.fst
      (lookup_onDisk flow.engine flow.engine.around.files now query)), fun files => ?_⟩
    have happens := Happens.lookup (flow.onDisk files) now query
    have answered : (flow.onDisk files).engine.lookup now query = _ :=
      lookup_onDisk flow.engine files now query
    have attempted : (flow.onDisk files).engine.lookupAttempts now query = _ :=
      lookupAttempts_onDisk flow.engine files now query
    rw [answered, attempted] at happens
    exact happens
  | maintain _ now =>
    refine ⟨files_eq_of_onDisk (congrArg Prod.fst
      (maintain_onDisk flow.engine flow.engine.around.files now)), fun files => ?_⟩
    have happens := Happens.maintain (flow.onDisk files) now
    have maintained : (flow.onDisk files).engine.maintain now = _ :=
      maintain_onDisk flow.engine files now
    have attempted : (flow.onDisk files).engine.maintainAttempts now = _ :=
      maintainAttempts_onDisk flow.engine files now
    rw [maintained, attempted] at happens
    exact happens
  | request _ query =>
    refine ⟨files_eq_of_onDisk (congrArg Prod.fst
      (enqueue_onDisk flow.engine flow.engine.around.files query)), fun files => ?_⟩
    have happens := Happens.request (flow.onDisk files) query
    have queued : (flow.onDisk files).engine.enqueue query = _ :=
      enqueue_onDisk flow.engine files query
    have attempted : (flow.onDisk files).engine.attempt query = _ :=
      attempt_onDisk flow.engine files query
    rw [queued, attempted] at happens
    exact happens
  | report _ update => exact ⟨rfl, fun files => .report (flow.onDisk files) update⟩
  | @act _ action reached free taken =>
    have elsewhere (files : FileTree) :
        (flow.onDisk files).engine.step? action = some (reached.onDisk files) := by
      have stepped : (flow.onDisk files).engine.step? action = _ :=
        step_onDisk flow.engine files action
      rw [stepped, taken]
      rfl
    have same := elsewhere flow.engine.around.files
    refine ⟨files_eq_of_onDisk (Option.some.inj (taken.symm.trans same)), fun files => ?_⟩
    have happens := @Happens.act (flow.onDisk files) action _ free (elsewhere files)
    have attempted : (flow.onDisk files).engine.actionAttempts action = _ :=
      actionAttempts_onDisk flow.engine files action
    unfold afterAction at happens ⊢
    rw [attempted] at happens
    exact happens
  | gather gathering =>
    refine ⟨?_, fun files => .gather (gathering.onDisk files)⟩
    cases gathering <;> rfl
  | recast same => exact ⟨rfl, fun files => @Happens.recast (flow.onDisk files) _ same⟩

end Flow

end FlowEnrichment
