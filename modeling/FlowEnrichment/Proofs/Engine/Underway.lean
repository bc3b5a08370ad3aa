import FlowEnrichment.Engine.Timeline
import FlowEnrichment.Proofs.Engine.Accounting
import FlowEnrichment.Proofs.Engine.Schedules

/-!
# Jobs under way

A worker is busy with a job whose providers only wait for time (`Engine.Underway`). When it has its
turn it does what the timeline of the journey has for that instant, and then the chain has its
outcome, or the deadline has come, or the job goes on later (`Engine.Underway.resumes`). The job
stays under way while time passes punctually for it (`Engine.Punctual`), and the clock of an engine
is punctual for all its jobs (`Engine.OnTick.punctual`).
-/
namespace FlowEnrichment

namespace Engine

variable {engine before between after : Engine} {job : Job} {wake : Instant} {batch : BatchQuery}
  {outcome : Except Failure Unit}

/-! ## The turns of a worker -/

/-- Effects were done on the cache, the late updates and the journal of calls, and nothing else was
done to those. -/
structure Deeds (before : Engine) (effects : List Effect) (after : Engine) : Prop where
  /-- The cache has the updates that were reported. -/
  cache : after.cache = (before.perform effects).cache
  /-- Other updates were left for later. -/
  reports : after.reports = (before.perform effects).reports
  /-- The calls were noted. -/
  journal : after.around.journal = (before.perform effects).around.journal

/-- The record of an outcome leaves the cache, the late updates and the journal alone. -/
theorem conclude_journal (engine : Engine) (batch : BatchQuery) (outcome : Except Failure Unit) :
    (engine.conclude batch outcome).around.journal = engine.around.journal := by
  unfold conclude
  split
  · rfl
  · unfold reject
    dsimp only
    split <;> rfl
  · rfl
  · rfl

/-- The end of a query records its outcome with the breaker. What was done before is not undone, and
the worker is not gone if the breaker has recorded it. -/
theorem finish_keeps (engine : Engine) (batch : BatchQuery) (outcome : Except Failure Unit) :
    let recorded := engine.breakers.record batch.exporter engine.now outcome.isOk
    let after := engine.finish batch outcome
    after.breakers = recorded.table ∧ after.cache = engine.cache ∧
      after.reports = engine.reports ∧ after.around.journal = engine.around.journal ∧
      (recorded.overflow = false → after.crashed = engine.crashed) := by
  unfold finish
  dsimp only
  generalize engine.breakers.record batch.exporter engine.now outcome.isOk = recorded
  split
  case isTrue gone => exact ⟨rfl, rfl, rfl, rfl, fun kept => absurd (kept ▸ gone) nofun⟩
  case isFalse =>
    have journal := conclude_journal { engine with breakers := recorded.table } batch outcome
    obtain ⟨around, warned, concluded, -⟩ :=
      conclude_parts { engine with breakers := recorded.table } batch outcome
    rw [concluded] at journal ⊢
    exact ⟨rfl, rfl, rfl, journal, fun _ => rfl⟩

/-- Effects after which a query ends were done. -/
theorem Did.deeds_finish {done : List Effect} (did : before.Did done between) (batch : BatchQuery)
    (outcome : Except Failure Unit) : Deeds before done (between.finish batch outcome) := by
  obtain ⟨-, cache, reports, journal, -⟩ := between.finish_keeps batch outcome
  obtain ⟨events, rfl⟩ := did
  exact ⟨cache, reports, journal⟩

/-- The updates that are put into a cache are in it, with what was there. -/
theorem has_foldl_put (clock : Timestamp) {updates : List Update} {cache : Cache} {query : Query}
    (has : (∃ update ∈ updates, update.query = query) ∨ cache.Has query) :
    (updates.foldl (fun cache update => cache.put clock update.query update.answer) cache).Has
      query := by
  induction updates generalizing cache with
  | nil => exact has.resolve_left fun ⟨_, member, _⟩ => List.not_mem_nil member
  | cons first updates ih =>
    refine ih ?_
    rcases has with ⟨update, member, rfl⟩ | has
    · rcases List.mem_cons.1 member with rfl | member
      · exact .inr (Cache.has_put.2 (.inl rfl))
      · exact .inl ⟨update, member, rfl⟩
    · exact .inr (Cache.has_put.2 (.inr has))

/-- The answers of everything that was reported are in a cache. -/
def Answered (done : List (Instant × Effect)) (cache : Cache) : Prop :=
  ∀ entry ∈ done, ∀ update, entry.2 = .report update → cache.Has update.query

/-- What is reported is in the cache afterwards, with what was reported before. -/
theorem Deeds.answered {done : List Effect} {past : List (Instant × Effect)}
    (deeds : Deeds before done after) (answered : Answered past before.cache) (now : Instant) :
    Answered (past ++ done.map (now, ·)) after.cache := by
  intro entry member update reports
  rw [deeds.cache]
  rcases List.mem_append.1 member with earlier | last
  · exact has_foldl_put _ (.inr (answered entry earlier update reports))
  · obtain ⟨effect, among, rfl⟩ := List.mem_map.1 last
    refine has_foldl_put _ (.inl ⟨update, List.mem_filterMap.2 ⟨effect, among, ?_⟩, rfl⟩)
    rw [show effect = .report update from reports]
    rfl

/-- A worker goes on with a job only if there is something to do about it. -/
theorem canResume_of_step {position : Nat} (found : engine.jobs[position]? = some job)
    (taken : engine.step? (.work position) = some after) : engine.canResume job = true := by
  unfold step? at taken
  dsimp only at taken
  rw [found] at taken
  dsimp only at taken
  split at taken
  case isTrue due => exact due
  case isFalse => cases taken

/-- The turn of a worker with a job ends its query for the cause that the job has for it. -/
theorem ending?_work {position : Nat} (found : engine.jobs[position]? = some job) :
    let others := { engine with jobs := engine.jobs.eraseIdx position }
    engine.ending? (.work position) = (others.endCause? job).map (others.endBy job) := by
  unfold ending? jobAt?
  dsimp only
  rw [found]
  rfl

/-- A worker can go on with a job if there is something to do about it. -/
theorem step_of_canResume {position : Nat} (found : engine.jobs[position]? = some job)
    (due : engine.canResume job = true) : ∃ after, engine.step? (.work position) = some after := by
  unfold step?
  dsimp only
  rw [found]
  exact ⟨_, if_pos due⟩

/-- A job with which a worker is busy, all of whose providers only wait for time, and the instant at
which it goes on. -/
structure Underway (engine : Engine) (job : Job) (wake : Instant) : Prop where
  /-- The rest of the reply of the present provider only waits for time. -/
  timed : job.Timed
  /-- So do the replies of the providers after it. -/
  timely : ∀ provider ∈ engine.providers, provider.Timed
  /-- The job waits for the instant, unless that is now. -/
  waits : job.wait = .until wake ∨ job.wait = .none ∧ wake = engine.now
  /-- The instant has not passed. -/
  wakes : engine.now.nanos ≤ wake.nanos
  /-- Nor has the deadline. -/
  deadline : engine.now.nanos ≤ job.deadline.nanos
  /-- It is a whole millisecond. -/
  whole : wake.Whole
  /-- So is the present. -/
  onTick : engine.OnTick
  /-- The engine is running. -/
  running : engine.phase = .running

namespace Underway

/-- The wait is over when the instant has come. -/
theorem waitOver_iff (underway : engine.Underway job wake) :
    engine.waitOver job.wait = true ↔ wake = engine.now := by
  rcases underway.waits with waits | ⟨none_left, same⟩
  · rw [waits, waitOver, underway.onTick.reached_iff]
    constructor
    · intro come
      exact congrArg Instant.mk (Nat.le_antisymm come underway.wakes)
    · rintro rfl
      exact Nat.le_refl _
  · rw [none_left]
    exact iff_of_true rfl same

/-- The query is given up when the deadline has come. -/
theorem timedOut_iff (underway : engine.Underway job wake) :
    engine.timedOut job = true ↔ job.deadline = engine.now := by
  rw [timedOut, underway.onTick.reached_iff]
  constructor
  · intro come
    exact congrArg Instant.mk (Nat.le_antisymm come underway.deadline)
  · intro same
    rw [same]

/-- There is something to do about the job when either has come. -/
theorem canResume_iff (underway : engine.Underway job wake) :
    engine.canResume job = true ↔ wake = engine.now ∨ job.deadline = engine.now := by
  have untold : (Phase.running == .stopping) ≠ true := by decide
  rw [canResume, underway.running, Bool.or_eq_true, Bool.or_eq_true,
    underway.waitOver_iff, underway.timedOut_iff]
  exact ⟨fun due => due.imp_left fun due => due.resolve_left untold, fun due => due.imp_left .inr⟩

end Underway

/-- What comes of the turn of a worker with a job. -/
inductive Resumes (engine : Engine) (job : Job) (wake : Instant) (after : Engine) : Prop where
  /-- The chain has an outcome now. -/
  | answers (done : List Effect) (between : Engine) (did : engine.Did done between)
      (ends : engine.endCause? job =
        some (.answered (job.journey engine.providers wake).outcome))
      (finished : after =
        between.finish job.batch (job.journey engine.providers wake).outcome)
      (timeline : (job.journey engine.providers wake).timeline = done.map (engine.now, ·))
      (returns : (job.journey engine.providers wake).returns = engine.now)
  /-- It has none at the deadline. -/
  | expires (done : List Effect) (between : Engine) (did : engine.Did done between)
      (ends : engine.endCause? job = some .timedOut)
      (finished : after = between.finish job.batch (.error .queryTimeout))
      (due : job.deadline = engine.now) (rest : List (Instant × Effect))
      (timeline : (job.journey engine.providers wake).timeline =
        done.map (engine.now, ·) ++ rest)
      (later : ∀ entry ∈ rest, engine.now.nanos < entry.1.nanos)
      (returns : engine.now.nanos < (job.journey engine.providers wake).returns.nanos)
  /-- It has none yet. -/
  | pauses (done : List Effect) (between : Engine) (did : engine.Did done between)
      (ends : engine.endCause? job = none) (waiting : Job) (next : Instant)
      (kept : after = { between with jobs := between.jobs ++ [waiting] })
      (undue : engine.now.nanos < job.deadline.nanos) (come : wake = engine.now)
      (pauses : Pauses engine.providers engine.now job done waiting next)

/-- A worker that has its turn with a job does what the timeline of its journey has for the
instant. -/
theorem Underway.resumes (underway : engine.Underway job wake)
    (due : engine.canResume job = true) : Resumes engine job wake (engine.resume job) := by
  have running : engine.phase ≠ .stopping := fun stopping =>
    Phase.noConfusion (underway.running.symm.trans stopping)
  have resumed : engine.resume job = _ := if_neg running
  have ends : engine.endCause? job = _ := if_neg running
  by_cases come : wake = engine.now
  case pos =>
    have alone (backend ticket : Nat) : job.wait ≠ .permit backend ticket := by
      rcases underway.waits with waits | ⟨waits, -⟩ <;> rw [waits] <;> exact Wait.noConfusion
    have advances := advance_advances underway.timely underway.timed underway.onTick
      (underway.waitOver_iff.2 come) alone
    subst come
    cases advances with
    | answers done between did answered timeline returns =>
      rw [answered] at resumed ends
      exact .answers done between did ends resumed timeline returns
    | waits done between waiting next did waits pauses =>
      have same : between.timedOut waiting = engine.timedOut job := by
        rw [timedOut, timedOut, reached, reached, pauses.deadline, did.now.2]
      rw [waits] at resumed ends
      dsimp only at resumed ends
      rw [same] at resumed ends
      by_cases expired : job.deadline = engine.now
      · rw [if_pos (underway.timedOut_iff.2 expired)] at resumed ends
        obtain ⟨returns, begins⟩ := waiting.le_journey engine.providers next
        rw [pauses.batch] at resumed
        refine .expires done between did ends resumed expired _ pauses.timeline ?_ ?_
        · exact fun entry member => Nat.lt_of_lt_of_le pauses.later (begins entry member)
        · rw [← pauses.returns]
          exact Nat.lt_of_lt_of_le pauses.later returns
      · rw [if_neg fun reached => expired (underway.timedOut_iff.1 reached)] at resumed ends
        have undue : engine.now.nanos < job.deadline.nanos :=
          Nat.lt_of_le_of_ne underway.deadline fun same => expired (congrArg Instant.mk same.symm)
        exact .pauses done between did ends waiting next resumed undue rfl pauses
  case neg =>
    have expired : job.deadline = engine.now :=
      (underway.canResume_iff.1 due).resolve_left come
    have later : engine.now.nanos < wake.nanos :=
      Nat.lt_of_le_of_ne underway.wakes fun same => come (congrArg Instant.mk same.symm)
    have waits : engine.advance job = (engine, .waits job) :=
      if_neg fun due => come (underway.waitOver_iff.1 due)
    rw [waits] at resumed ends
    dsimp only at resumed ends
    rw [if_pos (underway.timedOut_iff.2 expired)] at resumed ends
    obtain ⟨returns, begins⟩ := job.le_journey engine.providers wake
    refine .expires [] engine ⟨engine.around.events, ?_⟩ ends resumed expired _ rfl ?_ ?_
    · rw [perform_nil]
    · exact fun entry member => Nat.lt_of_lt_of_le later (begins entry member)
    · exact Nat.lt_of_lt_of_le later returns

/-- A worker that begins with a batch that the breaker lets pass asks the first provider about
it. -/
theorem undertake_asks (engine : Engine) {provider : Provider} {others : List Provider}
    (passes : (engine.breakers.enter batch.exporter engine.now).2.isSome)
    (chain : engine.providers = provider :: others) :
    ∃ breakers totals call, ∃ job : Job,
      job =
        { batch, call
          deadline := engine.queryDeadline
          position := 0
          asked := batch
          effects := (provider.reply batch).effects
          ending := (provider.reply batch).ending
          wait := .none } ∧
      engine.undertake batch =
        { engine with
          breakers
          around := { engine.around with totals }
          jobs := engine.jobs ++ [job] } := by
  unfold undertake
  cases entered : engine.breakers.enter batch.exporter engine.now with
  | mk breakers passed =>
    rw [entered] at passes
    obtain ⟨call, rfl⟩ := Option.isSome_iff_exists.1 passes
    rw [chain]
    exact ⟨breakers, _, call, _, rfl, rfl⟩

/-- Time passes punctually for a job: not while there is something to do about it, by whole
milliseconds at which the timers fire, and neither past its deadline nor past the instant for which
it waits. -/
structure Punctual (engine : Engine) (job : Job) (around : Surroundings) : Prop where
  /-- It stands still while there is something to do. -/
  stands : engine.canResume job = true → around.now = engine.now
  /-- It does not go back. -/
  onwards : engine.now.nanos ≤ around.now.nanos
  /-- It goes on to a whole millisecond. -/
  whole : around.now.Whole
  /-- The timers fire up to that. -/
  fired : around.tick = around.now.lastTick
  /-- The deadline does not pass. -/
  deadline : around.now.nanos ≤ job.deadline.nanos
  /-- The instant for which the job waits does not pass. -/
  wakes : ∀ time, job.wait = .until time → around.now.nanos ≤ time.nanos

/-- While time passes punctually for it, a job is under way. -/
theorem Underway.pass (underway : engine.Underway job wake) {around : Surroundings}
    (punctual : engine.Punctual job around) : Underway { engine with around } job wake where
  timed := underway.timed
  timely := underway.timely
  waits := by
    refine underway.waits.imp_right fun ⟨none_left, same⟩ => ⟨none_left, ?_⟩
    exact same.trans (punctual.stands (underway.canResume_iff.2 (.inl same))).symm
  wakes := by
    rcases underway.waits with waits | ⟨-, same⟩
    · exact punctual.wakes wake waits
    · have still := punctual.stands (underway.canResume_iff.2 (.inl same))
      exact Nat.le_of_eq (congrArg Instant.nanos (still.trans same.symm))
  deadline := punctual.deadline
  whole := underway.whole
  onTick := ⟨punctual.whole, punctual.fired⟩
  running := underway.running

/-- A job is under way while nothing happens to it and no time passes. -/
theorem Underway.still (underway : before.Underway job wake) (steady : Steady before after)
    (providers : after.providers = before.providers) (running : after.phase = .running) :
    after.Underway job wake where
  timed := underway.timed
  timely := providers ▸ underway.timely
  waits := steady.now ▸ underway.waits
  wakes := steady.now ▸ underway.wakes
  deadline := steady.now ▸ underway.deadline
  whole := underway.whole
  onTick := underway.onTick.still steady.now steady.tick
  running := running

/-- So it does while the providers answer otherwise, if these only wait for time, too. -/
theorem Underway.recast (underway : engine.Underway job wake) {providers : List Provider}
    (timely : ∀ provider ∈ providers, provider.Timed) :
    (engine.recast providers).Underway job wake where
  timed := underway.timed
  timely := timely
  waits := underway.waits
  wakes := underway.wakes
  deadline := underway.deadline
  whole := underway.whole
  onTick := underway.onTick.still rfl rfl
  running := underway.running

/-! ## The clock of an engine -/

/-- The turn of a worker is a candidate if there is something to do about its job. -/
theorem work_mem_candidates {position : Nat} (found : engine.jobs[position]? = some job)
    (due : engine.canResume job = true) : .work position ∈ engine.candidates := by
  have works : (engine.resumableSince job, .work position) ∈ engine.dueActions := by
    refine List.mem_append_left _ (List.mem_append_left _ (List.mem_map.2 ?_))
    refine ⟨(job, position), List.mem_filter.2 ⟨?_, due⟩, rfl⟩
    exact List.mem_zipIdx_iff_getElem?.2 found
  refine List.mem_append_left _ (List.mem_cons_of_mem _ (List.mem_map.2 ?_))
  exact ⟨_, List.mem_mergeSort.2 works, rfl⟩

/-- If no action can be taken there is nothing to do about any job. -/
theorem canResume_of_calm (calm : engine.next? = none) (member : job ∈ engine.jobs) :
    engine.canResume job = false := by
  obtain ⟨position, found⟩ := List.mem_iff_getElem?.1 member
  refine Bool.eq_false_iff.2 fun due => ?_
  obtain ⟨after, taken⟩ := step_of_canResume found due
  have idle := List.findSome?_eq_none_iff.1 calm _ (work_mem_candidates found due)
  cases taken.symm.trans idle

/-- A timer is set for the deadline of a job, and for the instant for which the job waits. -/
theorem mem_timers (running : engine.phase = .running) (member : job ∈ engine.jobs)
    {time : Instant} (awaited : time = job.deadline ∨ job.wait = .until time) :
    time ∈ engine.timers := by
  unfold timers
  rw [if_pos running]
  refine List.mem_append_left _ (List.mem_append_left _ (List.mem_flatMap.2 ⟨job, member, ?_⟩))
  rcases awaited with rfl | waits
  · split <;> exact List.mem_cons_self
  · rw [waits]
    exact List.mem_cons_of_mem _ List.mem_cons_self

/-- The next timer is not after one that has not fired. -/
theorem nextTimer_le {time : Instant} (member : time ∈ engine.timers)
    (later : engine.reached time = false) :
    ∃ next, engine.nextTimer? = some next ∧ next ≤ time.dueTick := by
  have among : time.dueTick ∈ (engine.timers.map Instant.dueTick).filter (engine.around.tick < ·) :=
    List.mem_filter.2 ⟨List.mem_map_of_mem member,
      decide_eq_true (Nat.lt_of_not_le (of_decide_eq_false later))⟩
  obtain ⟨next, first⟩ := Option.isSome_iff_exists.1 (List.isSome_min?_of_mem among)
  exact ⟨next, first, (List.min?_eq_some_iff.1 first).2 _ among⟩

/-- At a whole millisecond the engine comes to a tick at the tick. -/
theorem OnTick.nanos_advanceTo (onTick : engine.OnTick) {tick : Nat}
    (onwards : engine.around.tick ≤ tick) :
    (engine.advanceTo tick).now.nanos = tick * Instant.tickNanos := by
  obtain ⟨ticks, nanos⟩ := onTick.whole
  have last : engine.now.lastTick = ticks := by
    rw [Instant.lastTick, nanos, Nat.mul_div_cancel_left _ (by decide)]
  rw [onTick.fired, last] at onwards
  have now : (engine.advanceTo tick).now.nanos =
      engine.now.nanos + (tick - engine.now.lastTick) * Instant.tickNanos := rfl
  rw [now, nanos, last, Nat.mul_comm Instant.tickNanos, ← Nat.add_mul, Nat.add_sub_of_le onwards]

/-- The time of an engine passes punctually for each of its jobs: when no action can be taken it
moves on, and no further than to the next timer. -/
theorem OnTick.punctual (onTick : engine.OnTick) (running : engine.phase = .running)
    (calm : engine.next? = none) (member : job ∈ engine.jobs) (limited : job.deadline.Whole)
    (whole : ∀ time, job.wait = .until time → time.Whole) {tick : Nat}
    (onwards : engine.around.tick ≤ tick)
    (first : ∀ next, engine.nextTimer? = some next → tick ≤ next) :
    engine.Punctual job (engine.advanceTo tick).around := by
  have idle := canResume_of_calm calm member
  have nanos := onTick.nanos_advanceTo onwards
  have within {time : Instant} (awaited : time = job.deadline ∨ job.wait = .until time)
      (whole : time.Whole) (later : engine.reached time = false) :
      (engine.advanceTo tick).now.nanos ≤ time.nanos := by
    obtain ⟨next, set, before⟩ := nextTimer_le (mem_timers running member awaited) later
    have come : tick ≤ time.dueTick := Nat.le_trans (first next set) before
    obtain ⟨ticks, same⟩ := whole
    unfold Instant.dueTick Instant.tickNanos at come
    unfold Instant.tickNanos at nanos same
    omega
  have waits : engine.waitOver job.wait = false ∧ engine.timedOut job = false := by
    unfold canResume at idle
    obtain ⟨others, undue⟩ := Bool.or_eq_false_iff.1 idle
    exact ⟨(Bool.or_eq_false_iff.1 others).2, undue⟩
  constructor
  case stands => exact fun due => Bool.noConfusion (idle.symm.trans due)
  case onwards => exact Nat.le_add_right _ _
  case whole => exact ⟨tick, nanos.trans (Nat.mul_comm _ _)⟩
  case fired => rfl
  case deadline => exact within (.inl rfl) limited waits.2
  case wakes =>
    intro time awaited
    have unfired := waits.1
    rw [awaited] at unfired
    exact within (.inr awaited) (whole time awaited) unfired

end Engine

end FlowEnrichment
