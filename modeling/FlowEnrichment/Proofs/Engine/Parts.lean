import FlowEnrichment.Engine.Lifecycle

/-!
# What an operation changes

Every operation of an engine changes a few of its parts. Each lemma here names those parts and
says that the engine is otherwise the same, so whatever depends on other parts only is kept. Only
requests are turned away, so what changes the surroundings otherwise keeps the count of those that
were. What a worker comes to with a batch in hand is one of three things (`Engine.Turn`): it waits
for another batch, goes on with the job later, or is gone. The lemmas on actions say when an action
can be taken and what it does; whatever is kept by every action is shown with them.
-/
namespace FlowEnrichment.Engine

/-! ## Requests -/

/-- The surroundings after requests and maintenance, which count and record what they do and change
nothing else. -/
inductive Served (around : Surroundings) : Surroundings → Prop where
  /-- These may be different. -/
  | intro (events : List Event) (busy : ExporterTotals) (refreshRuns refreshed : Nat) :
    Served around
      { around with events, totals := { around.totals with busy, refreshRuns, refreshed } }

/-- Nothing was counted or recorded. -/
theorem Served.refl (around : Surroundings) : Served around around :=
  .intro around.events around.totals.busy around.totals.refreshRuns around.totals.refreshed

/-- What is counted and recorded after more of it is no more. -/
theorem Served.trans {before between after : Surroundings} (first : Served before between)
    (second : Served between after) : Served before after := by
  cases first
  cases second
  exact .intro _ _ _ _

/-- A request changes the queue, or the totals if it is turned away. -/
theorem enqueue_parts (engine : Engine) (query : Query) :
    ∃ queue around, (engine.enqueue query).1 = { engine with queue, around } ∧
      Served engine.around around := by
  unfold enqueue
  split
  · exact ⟨engine.queue, engine.around, rfl, .refl _⟩
  · split
    · exact ⟨_, engine.around, rfl, .refl _⟩
    · exact ⟨engine.queue, _, rfl, .intro _ _ _ _⟩

/-- Requests change the queue and the totals. -/
theorem enqueueAll_parts (queries : List Query) (engine : Engine) :
    ∃ queue around, (enqueueAll queries engine).1 = { engine with queue, around } ∧
      Served engine.around around := by
  induction queries generalizing engine with
  | nil => exact ⟨engine.queue, engine.around, rfl, .refl _⟩
  | cons query queries ih =>
    obtain ⟨queue, around, first, served⟩ := engine.enqueue_parts query
    obtain ⟨queue', around', rest, served'⟩ := ih (engine.enqueue query).1
    rw [first] at served'
    refine ⟨queue', around', ?_, served.trans served'⟩
    rw [enqueueAll]
    exact rest.trans (by rw [first])

/-- A lookup changes the cache, and the queue or the totals. -/
theorem lookup_parts (engine : Engine) (now : Timestamp) (query : Query) :
    ∃ queue around,
      (engine.lookup now query).1 =
        { engine with cache := (engine.cache.lookup now query).1, queue, around } ∧
      Served engine.around around := by
  unfold lookup
  cases engine.cache.lookup now query with
  | mk cache answer =>
    cases answer with
    | some answer => exact ⟨engine.queue, engine.around, rfl, .refl _⟩
    | none => exact { engine with cache }.enqueue_parts query

/-- The expiry of entries changes the cache and the record of events. -/
theorem expire_parts (engine : Engine) (now : Timestamp) :
    ∃ events,
      (engine.expire now).1 =
        { engine with
          cache := (engine.cache.expire (since now engine.config.cacheDuration)).1
          around := { engine.around with events } } := by
  unfold expire
  dsimp only
  split
  · exact ⟨_, rfl⟩
  · exact ⟨_, rfl⟩

/-- A refresh changes the queue, the totals and the record of events. -/
theorem refresh_parts (engine : Engine) (now : Timestamp) :
    ∃ queue around, (engine.refresh now).1 = { engine with queue, around } ∧
      Served engine.around around := by
  unfold refresh
  dsimp only
  generalize Cache.planQueries _ = due
  obtain ⟨queue, around, reached, served⟩ := enqueueAll_parts due
    (engine.count fun totals => { totals with refreshRuns := totals.refreshRuns + 1 })
  have counted : Served engine.around around := .trans (.intro _ _ _ _) served
  cases enqueued : enqueueAll due
      (engine.count fun totals => { totals with refreshRuns := totals.refreshRuns + 1 }) with
  | mk after refreshed =>
    rw [enqueued] at reached
    dsimp only at reached ⊢
    subst reached
    split
    · exact ⟨queue, around, rfl, counted⟩
    · exact ⟨queue, _, rfl, counted.trans (.intro _ _ _ _)⟩

/-- Maintenance changes the cache by an expiry, and the queue, the totals and the record of
events. -/
theorem maintain_parts (engine : Engine) (now : Timestamp) :
    ∃ queue around,
      (engine.maintain now).1 =
        { engine with
          cache := (engine.cache.expire (since now engine.config.cacheDuration)).1
          queue, around } ∧
      Served engine.around around := by
  obtain ⟨events, expired⟩ := engine.expire_parts now
  unfold maintain
  cases reached : engine.expire now with
  | mk after count =>
    rw [reached] at expired
    dsimp only at expired ⊢
    subst expired
    have recorded : Served engine.around { engine.around with events } := .intro _ _ _ _
    split
    · obtain ⟨queue, around, refreshed, served⟩ := refresh_parts _ now
      exact ⟨queue, around, refreshed, recorded.trans served⟩
    · exact ⟨engine.queue, _, rfl, recorded⟩

/-- Maintenance runs change no more than one of them does. -/
theorem maintainTimes_parts (count : Nat) (engine : Engine) :
    ∃ cache queue around, maintainTimes count engine = { engine with cache, queue, around } ∧
      Served engine.around around := by
  induction count generalizing engine with
  | zero => exact ⟨engine.cache, engine.queue, engine.around, rfl, .refl _⟩
  | succ count ih =>
    obtain ⟨queue, around, first, served⟩ := engine.maintain_parts engine.around.clock
    obtain ⟨cache', queue', around', rest, served'⟩ := ih (engine.maintain engine.around.clock).1
    rw [first] at served'
    refine ⟨cache', queue', around', ?_, served.trans served'⟩
    rw [maintainTimes]
    exact rest.trans (by rw [first])

/-- Late updates that are stored change the cache. -/
theorem foldl_store_parts (due : List (Instant × Update)) (engine : Engine) :
    ∃ cache, due.foldl (fun engine (_, update) => engine.store update) engine =
      { engine with cache } := by
  induction due generalizing engine with
  | nil => exact ⟨engine.cache, rfl⟩
  | cons first due ih =>
    obtain ⟨cache, rest⟩ := ih (engine.store first.2)
    exact ⟨cache, rest⟩

/-- A snapshot that is loaded changes the cache and the record of events. -/
theorem loadCache_parts (engine : Engine) :
    ∃ cache events,
      engine.loadCache = { engine with cache, around := { engine.around with events } } := by
  unfold loadCache
  split
  · exact ⟨engine.cache, engine.around.events, rfl⟩
  · dsimp only
    split
    · exact ⟨_, _, rfl⟩
    · exact ⟨_, _, rfl⟩

/-- The start changes the cache, the record of events and what the tasks begin with. -/
theorem start_parts (engine : Engine) :
    ∃ cache events phase fresh maintenance graceDeadline,
      engine.start.1 =
        { engine with
          cache, phase, fresh, maintenance, graceDeadline
          around := { engine.around with events } } := by
  obtain ⟨cache, events, loaded⟩ := engine.loadCache_parts
  unfold start
  rw [loaded]
  split
  · exact ⟨cache, _, _, _, _, _, rfl⟩
  all_goals exact ⟨_, _, _, _, _, _, rfl⟩

/-! ## Workers -/

/-- A rejection changes the totals, the record of events and the exporters warned about. -/
theorem reject_parts (engine : Engine) (exporter : Address) :
    ∃ around warned, engine.reject exporter = { engine with around, warned } ∧
      around.totals.busy = engine.around.totals.busy := by
  unfold reject
  dsimp only
  split
  · exact ⟨_, engine.warned, rfl, rfl⟩
  · exact ⟨_, _, rfl, rfl⟩

/-- The record of an outcome changes no more than a rejection does. -/
theorem conclude_parts (engine : Engine) (batch : BatchQuery) (outcome : Except Failure Unit) :
    ∃ around warned, engine.conclude batch outcome = { engine with around, warned } ∧
      around.totals.busy = engine.around.totals.busy := by
  unfold conclude
  split
  · exact ⟨engine.around, engine.warned, rfl, rfl⟩
  · exact engine.reject_parts batch.exporter
  · exact ⟨_, engine.warned, rfl, rfl⟩
  · exact ⟨_, engine.warned, rfl, rfl⟩

/-- A worker whose query ends waits for another batch, and the breakers and what the record of the
outcome changes are different, or is gone. -/
theorem finish_parts (engine : Engine) (batch : BatchQuery) (outcome : Except Failure Unit) :
    (∃ around warned breakers,
        engine.finish batch outcome = { engine with around, warned, breakers }.rest ∧
        around.totals.busy = engine.around.totals.busy) ∨
      ∃ breakers, engine.finish batch outcome = { engine with breakers }.crash := by
  unfold finish
  dsimp only
  split
  · exact .inr ⟨_, rfl⟩
  · obtain ⟨around, warned, concluded, kept⟩ := conclude_parts
      { engine with
        breakers := (engine.breakers.record batch.exporter engine.now outcome.isOk).table }
      batch outcome
    exact .inl ⟨around, warned, _, by rw [concluded], kept⟩

/-- The end of a wait changes the permits that are left. -/
theorem leaveWait_parts (engine : Engine) (wait : Wait) :
    ∃ around, engine.leaveWait wait = { engine with around } ∧
      around.totals.busy = engine.around.totals.busy := by
  cases wait with
  | none => exact ⟨engine.around, rfl, rfl⟩
  | «until» time => exact ⟨engine.around, rfl, rfl⟩
  | permit backend ticket => exact ⟨_, rfl, rfl⟩

/-- What a provider does changes the surroundings, the cache and the late updates. -/
theorem carryOut_parts (effects : List Effect) (engine : Engine) :
    ∃ around cache reports, (carryOut effects engine).1 = { engine with around, cache, reports } ∧
      around.totals.busy = engine.around.totals.busy := by
  induction effects generalizing engine with
  | nil => exact ⟨engine.around, engine.cache, engine.reports, rfl, rfl⟩
  | cons effect effects ih =>
    cases effect with
    | note backend batch =>
      obtain ⟨around, cache, reports, rest, kept⟩ := ih { engine with
        around := { engine.around with journal := engine.around.journal ++ [(backend, batch)] } }
      exact ⟨around, cache, reports, rest, kept⟩
    | takePermit backend =>
      rw [carryOut]
      dsimp only
      split
      · obtain ⟨left, same, kept⟩ := leaveWait_parts { engine with
          around := { engine.around with tickets := engine.around.tickets + 1 } }
          (.permit backend engine.around.tickets)
        rw [same]
        obtain ⟨around, cache, reports, rest, kept'⟩ := ih { engine with around := left }
        exact ⟨around, cache, reports, rest, kept'.trans kept⟩
      · exact ⟨_, engine.cache, engine.reports, rfl, rfl⟩
    | pause time =>
      rw [carryOut]
      split
      · exact ih engine
      · exact ⟨engine.around, engine.cache, engine.reports, rfl, rfl⟩
    | report update =>
      obtain ⟨around, cache, reports, rest, kept⟩ := ih (engine.store update)
      exact ⟨around, cache, reports, rest, kept⟩
    | reportLater delay update =>
      obtain ⟨around, cache, reports, rest, kept⟩ := ih { engine with
        reports := engine.reports ++ [(engine.now.addOrFar delay, update)] }
      exact ⟨around, cache, reports, rest, kept⟩

/-- The chain of providers changes no more than one of them does. -/
theorem proceed_parts (later : List Provider) (name : String) (job : Job) (engine : Engine) :
    ∃ around cache reports,
      (proceed later name job engine).1 = { engine with around, cache, reports } ∧
      around.totals.busy = engine.around.totals.busy := by
  induction later generalizing name job engine with
  | nil =>
    obtain ⟨around, cache, reports, carried, kept⟩ := carryOut_parts job.effects engine
    unfold proceed
    cases reached : carryOut job.effects engine with
    | mk after waits =>
      rw [reached] at carried
      dsimp only at carried
      subst carried
      cases waits with
      | some wait => exact ⟨around, cache, reports, rfl, kept⟩
      | none =>
        cases job.ending with
        | crash => exact ⟨around, cache, reports, rfl, kept⟩
        | done outcome =>
          dsimp only
          split
          · exact ⟨around, cache, reports, rfl, kept⟩
          · exact ⟨_, cache, reports, rfl, kept⟩
  | cons provider later ih =>
    obtain ⟨around, cache, reports, carried, kept⟩ := carryOut_parts job.effects engine
    unfold proceed
    cases reached : carryOut job.effects engine with
    | mk after waits =>
      rw [reached] at carried
      dsimp only at carried
      subst carried
      cases waits with
      | some wait => exact ⟨around, cache, reports, rfl, kept⟩
      | none =>
        cases job.ending with
        | crash => exact ⟨around, cache, reports, rfl, kept⟩
        | done outcome =>
          dsimp only
          split
          · exact ⟨around, cache, reports, rfl, kept⟩
          · obtain ⟨around', cache', reports', rest, kept'⟩ := ih _ _ _
            exact ⟨around', cache', reports', rest, kept'.trans kept⟩

/-- A job that goes on changes no more than a provider does. -/
theorem advance_parts (engine : Engine) (job : Job) :
    ∃ around cache reports, (engine.advance job).1 = { engine with around, cache, reports } ∧
      around.totals.busy = engine.around.totals.busy := by
  unfold advance
  split
  · obtain ⟨left, same, kept⟩ := engine.leaveWait_parts job.wait
    rw [same]
    obtain ⟨around, cache, reports, rest, kept'⟩ :=
      proceed_parts _ _ job { engine with around := left }
    exact ⟨around, cache, reports, rest, kept'.trans kept⟩
  · exact ⟨engine.around, engine.cache, engine.reports, rfl, rfl⟩

/-! ## Turns -/

/-- What a worker that has a batch in hand comes to in one turn, and what else may change. -/
inductive Turn (engine : Engine) : Engine → Prop where
  /-- It waits for another batch. -/
  | rests (around : Surroundings) (cache : Cache) (reports : List (Instant × Update))
      (warned : List Address) (breakers : BreakerTable)
      (kept : around.totals.busy = engine.around.totals.busy) :
      Turn engine { engine with around, cache, reports, warned, breakers }.rest
  /-- It is busy with a job. -/
  | works (around : Surroundings) (cache : Cache) (reports : List (Instant × Update))
      (breakers : BreakerTable) (job : Job)
      (kept : around.totals.busy = engine.around.totals.busy) :
      Turn engine
        { engine with around, cache, reports, breakers, jobs := engine.jobs ++ [job] }
  /-- It is gone. -/
  | goes (around : Surroundings) (cache : Cache) (reports : List (Instant × Update))
      (breakers : BreakerTable) (kept : around.totals.busy = engine.around.totals.busy) :
      Turn engine { engine with around, cache, reports, breakers }.crash

/-- A worker whose query ends waits for another batch or is gone. -/
theorem turn_finish (engine : Engine) {around : Surroundings} (cache : Cache)
    (reports : List (Instant × Update)) (breakers : BreakerTable)
    (kept : around.totals.busy = engine.around.totals.busy) (batch : BatchQuery)
    (outcome : Except Failure Unit) :
    Turn engine ({ engine with around, cache, reports, breakers }.finish batch outcome) := by
  rcases finish_parts { engine with around, cache, reports, breakers } batch outcome with
    ⟨around', warned, breakers', finished, kept'⟩ | ⟨breakers', finished⟩
  · rw [finished]
    exact .rests around' cache reports warned breakers' (kept'.trans kept)
  · rw [finished]
    exact .goes around cache reports breakers' kept

/-- A worker that resumes a job has a turn. -/
theorem turn_resume (engine : Engine) (job : Job) : Turn engine (engine.resume job) := by
  unfold resume
  split
  · exact turn_finish engine engine.cache engine.reports engine.breakers rfl _ _
  · obtain ⟨around, cache, reports, advanced, kept⟩ := engine.advance_parts job
    cases reached : engine.advance job with
    | mk after progress =>
      rw [reached] at advanced
      dsimp only at advanced
      subst advanced
      cases progress with
      | answered outcome => exact turn_finish engine cache reports engine.breakers kept _ _
      | crashed => exact .goes around cache reports _ kept
      | waits later =>
        dsimp only
        split
        · exact turn_finish engine cache reports engine.breakers kept _ _
        · exact .works around cache reports engine.breakers later kept

/-- A worker that begins with a batch has a turn. -/
theorem turn_undertake (engine : Engine) (batch : BatchQuery) :
    Turn engine (engine.undertake batch) := by
  unfold undertake
  split
  case h_1 breakers _ _ _ _ _ =>
    exact .works _ engine.cache engine.reports breakers _ rfl
  case h_2 breakers _ _ _ =>
    exact turn_finish engine engine.cache engine.reports breakers rfl _ _
  case h_3 _ breakers _ =>
    obtain ⟨around, warned, rejected, kept⟩ :=
      reject_parts { engine with breakers } batch.exporter
    rw [rejected]
    exact .rests around engine.cache engine.reports warned breakers kept

/-! ## Actions -/

section Actions

variable {engine after : Engine}

/-- Maintenance that sets its timer changes nothing else, or is gone. -/
theorem step_prepare (taken : engine.step? .prepare = some after) :
    ∃ maintenance crashed, after = { engine with maintenance, crashed } := by
  unfold step? at taken
  dsimp only at taken
  split at taken
  case isFalse => cases taken
  case isTrue =>
    split at taken
    · cases taken
      exact ⟨_, engine.crashed, rfl⟩
    · cases taken
      exact ⟨_, _, rfl⟩

/-- A worker that has not begun joins those that wait. -/
theorem step_join (taken : engine.step? .join = some after) :
    engine.phase = .running ∧ 0 < engine.fresh ∧
      after = { engine with fresh := engine.fresh - 1 }.rest := by
  unfold step? at taken
  dsimp only at taken
  split at taken
  case isFalse => cases taken
  case isTrue joins =>
    cases taken
    exact ⟨joins.1, joins.2, rfl⟩

/-- The dispatcher takes a permit and listens. -/
theorem step_seek (taken : engine.step? .seek = some after) :
    engine.phase = .running ∧ engine.dispatcher = .seeking ∧ 0 < engine.idle ∧
      after = { engine with idle := engine.idle - 1, dispatcher := .listening } := by
  unfold step? at taken
  dsimp only at taken
  split at taken
  case isFalse => cases taken
  case isTrue found =>
    cases taken
    exact ⟨found.1, found.2.1, found.2.2, rfl⟩

/-- The dispatcher takes the first request and those that can be gathered with it. A round
without a batch would go on. -/
theorem step_listen (taken : engine.step? .listen = some after) :
    engine.phase = .running ∧ engine.dispatcher = .listening ∧
      ∃ first waiting, engine.queue = first :: waiting ∧ ∃ round queue,
        Coalesce.round engine.config.maxBatchRequests.toNat first waiting = (round, queue) ∧
          ((∃ batch rest, round = batch :: rest ∧
              after = { engine with queue, dispatcher := .delivering batch rest }) ∨
            round = [] ∧ after = { engine with queue }) := by
  unfold step? at taken
  dsimp only at taken
  split at taken
  case h_2 => cases taken
  case h_1 first waiting running listening queued =>
    refine ⟨running, listening, first, waiting, queued, ?_⟩
    split at taken
    case h_1 batch rest queue gathered =>
      cases taken
      exact ⟨_, queue, gathered, .inl ⟨batch, rest, rfl, rfl⟩⟩
    case h_2 queue gathered =>
      cases taken
      exact ⟨[], queue, gathered, .inr ⟨rfl, rfl⟩⟩

/-- The dispatcher sends the batch that it holds, if there is room, and turns to the next one. -/
theorem step_deliver (taken : engine.step? .deliver = some after) :
    engine.phase = .running ∧ ∃ batch rest, engine.dispatcher = .delivering batch rest ∧
      engine.channel.length < engine.config.workers.toNat ∧
      ∃ dispatcher batched,
        after =
          { engine with
            channel := engine.channel ++ [batch], dispatcher
            around :=
              { engine.around with totals := { engine.around.totals with batched } } } ∧
        (rest = [] ∧ dispatcher = .seeking ∨
          ∃ next others, rest = next :: others ∧ dispatcher = .claiming next others) := by
  unfold step? at taken
  dsimp only at taken
  split at taken
  case h_2 => cases taken
  case h_1 batch rest running delivering =>
    split at taken
    case isFalse => cases taken
    case isTrue room =>
      cases taken
      refine ⟨running, batch, rest, delivering, room, _, _, rfl, ?_⟩
      cases rest with
      | nil => exact .inl ⟨rfl, rfl⟩
      | cons next rest => exact .inr ⟨next, rest, rfl, rfl⟩

/-- The dispatcher takes a permit for the next batch of a round. -/
theorem step_claim (taken : engine.step? .claim = some after) :
    engine.phase = .running ∧ ∃ batch rest, engine.dispatcher = .claiming batch rest ∧
      0 < engine.idle ∧
      after = { engine with idle := engine.idle - 1, dispatcher := .delivering batch rest } := by
  unfold step? at taken
  dsimp only at taken
  split at taken
  case h_2 => cases taken
  case h_1 batch rest running claiming =>
    split at taken
    case isFalse => cases taken
    case isTrue some_idle =>
      cases taken
      exact ⟨running, batch, rest, claiming, some_idle, rfl⟩

/-- A worker that waits takes the first batch and begins with it. -/
theorem step_take (taken : engine.step? .take = some after) :
    engine.phase = .running ∧ ∃ batch channel, engine.channel = batch :: channel ∧
      0 < engine.waiting ∧
      after = { engine with waiting := engine.waiting - 1, channel }.undertake batch := by
  unfold step? at taken
  dsimp only at taken
  split at taken
  case h_2 => cases taken
  case h_1 batch channel running sent =>
    split at taken
    case isFalse => cases taken
    case isTrue waits =>
      cases taken
      exact ⟨running, batch, channel, sent, waits, rfl⟩

/-- A worker resumes the job at a position. -/
theorem step_work {position : Nat} (taken : engine.step? (.work position) = some after) :
    ∃ job, engine.jobs[position]? = some job ∧
      after = { engine with jobs := engine.jobs.eraseIdx position }.resume job := by
  unfold step? at taken
  dsimp only at taken
  split at taken
  case h_2 => cases taken
  case h_1 job found =>
    split at taken
    case isFalse => cases taken
    case isTrue =>
      cases taken
      exact ⟨job, found, rfl⟩

/-- Some of the late updates are stored and the others are left. -/
theorem step_report (taken : engine.step? .report = some after) :
    ∃ due later : List (Instant × Update), (∀ report ∈ due, report ∈ engine.reports) ∧
      (∀ report ∈ later, report ∈ engine.reports) ∧
      after = due.foldl (fun engine (_, update) => engine.store update)
        { engine with reports := later } := by
  rw [step?] at taken
  split at taken
  case h_1 due later parted =>
    rw [List.partition_eq_filter_filter] at parted
    cases parted
    split at taken
    case isFalse => cases taken
    case isTrue =>
      cases taken
      exact ⟨_, _, fun _ member => (List.mem_filter.1 member).1,
        fun _ member => (List.mem_filter.1 member).1, rfl⟩

/-- Maintenance runs as often as its timer has fired. -/
theorem step_maintain (taken : engine.step? .maintain = some after) :
    ∃ deadline, engine.phase = .running ∧ engine.maintenance = .ticking deadline ∧
      after = engine.serveTicks deadline := by
  unfold step? at taken
  dsimp only at taken
  split at taken
  case h_2 => cases taken
  case h_1 deadline running ticking =>
    split at taken
    case isFalse => cases taken
    case isTrue =>
      cases taken
      exact ⟨deadline, running, ticking, rfl⟩

/-- Maintenance runs a number of times, which the timer tells, and sets its timer. -/
theorem serveTicks_eq (engine : Engine) (deadline : Instant) : ∃ count next,
    (engine.dueTicks (engine.now.nanos + Instant.tickNanos - deadline.nanos) deadline).1 = count ∧
      engine.serveTicks deadline =
        { maintainTimes count engine with maintenance := .ticking next } :=
  ⟨_, _, rfl, rfl⟩

end Actions

end FlowEnrichment.Engine
