import FlowEnrichment.Proofs.Engine.Underway

/-!
# The deadline of a chain

One deadline holds for all providers that are asked about a batch: whatever each of them takes, the
query has the outcome of the chain if they return by then, and is given up at the deadline if they
do not. Time may pass in any way that is punctual for the job (`Engine.Punctual`), as the clock of
an engine is (`Engine.OnTick.punctual`), and anything may happen beside it (`Inquiry.Step`). The
turns of its worker then do what the timeline of the chain has for their instants and nothing else
(`Follows`), up to the end of the query and no further (`Flow.one_deadline`).
-/
namespace FlowEnrichment

/-! ## Inquiries -/

/-- What has become of the query of a batch. -/
inductive Fate where
  /-- A worker is busy with the job at a position. -/
  | pending (position : Nat)
  /-- It has ended at an instant. -/
  | settled (ended : QueryEnd) (time : Instant)

/-- The query of a batch in the life of an engine. -/
structure Inquiry where
  /-- The turns of its worker, each from one state of the engine to another. -/
  turns : List (Engine × Engine)
  /-- The present state. -/
  flow : Flow
  /-- What has become of the query. -/
  fate : Fate
  /-- Whether maintenance has run since it began. -/
  maintained : Bool

namespace Inquiry

/-- Something happens while a query is pending. The engine is not told to stop, and time passes
punctually. -/
inductive Step : Inquiry → Inquiry → Prop where
  /-- Time passes. -/
  | pass {turns : List (Engine × Engine)} {before after : Flow} {position : Nat} {job : Job}
      {maintained : Bool} (happens : Flow.Happens .pass before after)
      (found : before.engine.jobs[position]? = some job)
      (punctual : before.engine.Punctual job after.engine.around) :
      Step ⟨turns, before, .pending position, maintained⟩
        ⟨turns, after, .pending position, maintained⟩
  /-- Something happens beside the query. -/
  | aside {turns : List (Engine × Engine)} {before after : Flow} {happening : Happening}
      {position : Nat} {maintained : Bool} (happens : Flow.Happens happening before after)
      (aside : happening.Aside position) :
      Step ⟨turns, before, .pending position, maintained⟩
        ⟨turns, after, .pending (happening.moves position), maintained || happening.maintains⟩
  /-- The providers answer otherwise from now on, but for what is left of the query. They still only
  wait for time. -/
  | recast {turns : List (Engine × Engine)} {before after : Flow} {position : Nat} {job : Job}
      {maintained : Bool} (happens : Flow.Happens .recast before after)
      (found : before.engine.jobs[position]? = some job)
      (alike : ∀ wake, job.journey after.engine.providers wake =
        job.journey before.engine.providers wake)
      (timely : ∀ provider ∈ after.engine.providers, provider.Timed) :
      Step ⟨turns, before, .pending position, maintained⟩
        ⟨turns, after, .pending position, maintained⟩
  /-- Its worker has a turn with which the query does not end. -/
  | turn {turns : List (Engine × Engine)} {before after : Flow} {position : Nat}
      {maintained : Bool} (happens : Flow.Happens (.act (.work position)) before after)
      (unfinished : before.engine.ending? (.work position) = none) :
      Step ⟨turns, before, .pending position, maintained⟩
        ⟨turns ++ [(before.engine, after.engine)], after,
          .pending (before.engine.jobs.length - 1), maintained⟩
  /-- Its worker has a turn with which it ends. -/
  | last {turns : List (Engine × Engine)} {before after : Flow} {position : Nat}
      {maintained : Bool} {ended : QueryEnd}
      (happens : Flow.Happens (.act (.work position)) before after)
      (ends : before.engine.ending? (.work position) = some ended) :
      Step ⟨turns, before, .pending position, maintained⟩
        ⟨turns ++ [(before.engine, after.engine)], after, .settled ended before.engine.now,
          maintained⟩

/-- The query of a batch begins when a worker takes the batch and the breaker lets it pass. -/
structure Begins (admission : Flow) (batch : BatchQuery) (inquiry : Inquiry) : Prop where
  /-- A worker takes a batch. -/
  takes : Flow.Happens (.act .take) admission inquiry.flow
  /-- This is the batch. -/
  first : admission.engine.channel.head? = some batch
  /-- The breaker of its exporter lets it pass. -/
  passes : (admission.engine.breakers.enter batch.exporter admission.engine.now).2.isSome
  /-- The worker has had no turn with it. -/
  turns : inquiry.turns = []
  /-- It is the last job. -/
  fate : inquiry.fate = .pending admission.engine.jobs.length
  /-- Maintenance has not run since. -/
  unmaintained : inquiry.maintained = false

end Inquiry

/-- Turns do a timeline: each does all that the timeline has for its instant and nothing else, and
none comes twice. -/
inductive Follows : List (Engine × Engine) → List (Instant × Effect) → Prop where
  /-- There was no turn. -/
  | none : Follows [] []
  /-- There was one more turn. -/
  | turn {turns : List (Engine × Engine)} {past : List (Instant × Effect)} {before after : Engine}
      {effects : List Effect} (follows : Follows turns past)
      (deeds : Engine.Deeds before effects after)
      (later : ∀ turn ∈ turns, turn.1.now.nanos < before.now.nanos) :
      Follows (turns ++ [(before, after)]) (past ++ effects.map (before.now, ·))

/-- What turns have done was done by the last of them. -/
theorem Follows.le {turns : List (Engine × Engine)} {past : List (Instant × Effect)}
    {time : Instant} (follows : Follows turns past)
    (before : ∀ turn ∈ turns, turn.1.now.nanos ≤ time.nanos) :
    ∀ entry ∈ past, entry.1.nanos ≤ time.nanos := by
  induction follows with
  | none => exact List.forall_mem_nil _
  | @turn turns past earlier after effects _ _ _ ih =>
    intro entry member
    rcases List.mem_append.1 member with first | last
    · exact ih (fun turn among => before turn (List.mem_append_left _ among)) entry first
    · obtain ⟨effect, -, rfl⟩ := List.mem_map.1 last
      exact before (earlier, after) (List.mem_append_right _ List.mem_cons_self)


namespace Inquiry

variable {journey : Journey} {limit wake time : Instant} {batch : BatchQuery}
  {config : BreakerConfig} {turns : List (Engine × Engine)} {engine between after : Engine}
  {position : Nat} {maintained : Bool} {job : Job} {outcome : Except Failure Unit}

/-- The breaker is told of a query once: the last turn records its outcome, and no turn before it
changes a breaker. The outcome is recorded, and the worker is not lost, if a cool-down that begins
now has an end. -/
def ToldOnce (batch : BatchQuery) (config : BreakerConfig) (turns : List (Engine × Engine))
    (time : Instant) (outcome : Except Failure Unit) (lost : Bool) : Prop :=
  ∃ earlier before after, turns = earlier ++ [(before, after)] ∧ before.now = time ∧
    (∀ turn ∈ earlier, turn.2.breakers = turn.1.breakers) ∧
    after.breakers = (before.breakers.record batch.exporter time outcome.isOk).table ∧
    ((time.add? config.timeout).isSome →
      (before.breakers.record batch.exporter time outcome.isOk).overflow = false ∧ lost = false)

/-- A query that is pending: the turns of its worker have done a part of the timeline of the chain,
and what is left of that is the timeline of its job. -/
structure Halfway (journey : Journey) (limit : Instant) (batch : BatchQuery)
    (config : BreakerConfig) (turns : List (Engine × Engine)) (maintained : Bool) (engine : Engine)
    (position : Nat) (job : Job) (wake : Instant) : Prop where
  /-- The job is at the position. -/
  found : engine.jobs[position]? = some job
  /-- It is under way. -/
  underway : engine.Underway job wake
  /-- It is about the batch. -/
  about : job.batch = batch
  /-- It has the deadline. -/
  deadline : job.deadline = limit
  /-- Some of the timeline has been done, and its answers are in the cache if maintenance has not
  run. -/
  timeline : ∃ past, Follows turns past ∧
    journey.timeline = past ++ (job.journey engine.providers wake).timeline ∧
    (maintained = false → Engine.Answered past engine.cache)
  /-- The chain returns when it would have. -/
  returns : (job.journey engine.providers wake).returns = journey.returns
  /-- It has the outcome that it would have had. -/
  outcome : (job.journey engine.providers wake).outcome = journey.outcome
  /-- The turns were before now, and before the next one. -/
  early : ∀ turn ∈ turns, turn.1.now.nanos ≤ engine.now.nanos ∧
    turn.1.now.nanos < wake.nanos ∧ turn.1.now.nanos < limit.nanos
  /-- They left the breakers alone. -/
  breakers : ∀ turn ∈ turns, turn.2.breakers = turn.1.breakers
  /-- The thresholds of the breakers are the same. -/
  uniform : engine.breakers.Uniform config

/-- A query that has ended, with the outcome of the chain if that returned by the deadline, and at
the deadline otherwise. -/
structure Concluded (journey : Journey) (limit : Instant) (batch : BatchQuery)
    (config : BreakerConfig) (turns : List (Engine × Engine)) (maintained : Bool) (engine : Engine)
    (ended : QueryEnd) (time : Instant) : Prop where
  /-- What the timeline has up to the end was done, and nothing of the rest. -/
  follows : Follows turns (journey.timeline.filter fun entry => entry.1.nanos ≤ time.nanos)
  /-- A chain that returns by the deadline gives its outcome. -/
  answered : journey.returns.nanos ≤ limit.nanos →
    ended.cause = .answered journey.outcome ∧ time = journey.returns
  /-- One that does not is given up at the deadline. -/
  expired : limit.nanos < journey.returns.nanos → ended.cause = .timedOut ∧ time = limit
  /-- The answers that were reported by the end are in the cache if maintenance has not run. -/
  stays : maintained = false →
    Engine.Answered (journey.timeline.filter fun entry => entry.1.nanos ≤ time.nanos) engine.cache
  /-- The breaker is told once. -/
  told : ∃ outcome, ended.cause.recorded? = some outcome ∧
    ToldOnce batch config turns time outcome ended.lost

/-- What is left of a timeline that comes later than an instant was not done by then. -/
theorem filter_timeline {past rest : List (Instant × Effect)}
    (before : ∀ entry ∈ past, entry.1.nanos ≤ time.nanos)
    (later : ∀ entry ∈ rest, time.nanos < entry.1.nanos) :
    (past ++ rest).filter (fun entry => entry.1.nanos ≤ time.nanos) = past := by
  have first : past.filter (fun entry => entry.1.nanos ≤ time.nanos) = past :=
    List.filter_eq_self.2 fun entry member => decide_eq_true (before entry member)
  have last : rest.filter (fun entry => entry.1.nanos ≤ time.nanos) = [] := by
    refine List.filter_eq_nil_iff.2 fun entry member early => ?_
    exact Nat.not_le_of_lt (later entry member) (of_decide_eq_true early)
  rw [List.filter_append, first, last, List.append_nil]

namespace Halfway

/-- A query stays pending while nothing happens to its job and no time passes. -/
theorem still
    (halfway : Halfway journey limit batch config turns maintained engine position job wake)
    (steady : engine.Steady after) (providers : after.providers = engine.providers)
    (running : after.phase = .running) {moved : Nat} (found : after.jobs[moved]? = some job)
    {maintains : Bool}
    (has : maintains = false → ∀ query, engine.cache.Has query → after.cache.Has query) :
    Halfway journey limit batch config turns (maintained || maintains) after moved job wake where
  found := found
  underway := halfway.underway.still steady providers running
  about := halfway.about
  deadline := halfway.deadline
  timeline := by
    obtain ⟨past, follows, whole, answered⟩ := halfway.timeline
    refine ⟨past, follows, providers ▸ whole, fun idle entry member update reports => ?_⟩
    obtain ⟨earlier, now⟩ := Bool.or_eq_false_iff.1 idle
    exact has now _ (answered earlier entry member update reports)
  returns := providers ▸ halfway.returns
  outcome := providers ▸ halfway.outcome
  early := steady.now ▸ halfway.early
  breakers := halfway.breakers
  uniform := steady.uniform config halfway.uniform

/-- It stays pending while the providers answer otherwise, but for what is left of it. -/
theorem recast
    (halfway : Halfway journey limit batch config turns maintained engine position job wake)
    {providers : List Provider} (alike : job.journey providers wake =
      job.journey engine.providers wake) (timely : ∀ provider ∈ providers, provider.Timed) :
    Halfway journey limit batch config turns maintained (engine.recast providers) position job
      wake where
  found := halfway.found
  underway := halfway.underway.recast timely
  about := halfway.about
  deadline := halfway.deadline
  timeline := alike ▸ halfway.timeline
  returns := alike ▸ halfway.returns
  outcome := alike ▸ halfway.outcome
  early := halfway.early
  breakers := halfway.breakers
  uniform := halfway.uniform

/-- It stays pending while time passes punctually for it. -/
theorem pass
    (halfway : Halfway journey limit batch config turns maintained engine position job wake)
    {around : Surroundings} (punctual : engine.Punctual job around) :
    Halfway journey limit batch config turns maintained { engine with around } position job
      wake where
  found := halfway.found
  underway := halfway.underway.pass punctual
  about := halfway.about
  deadline := halfway.deadline
  timeline := halfway.timeline
  returns := halfway.returns
  outcome := halfway.outcome
  early turn member := by
    obtain ⟨before, rest⟩ := halfway.early turn member
    exact ⟨Nat.le_trans before punctual.onwards, rest⟩
  breakers := halfway.breakers
  uniform := halfway.uniform

/-- When there is something to do about its job, every turn was before now. -/
theorem before
    (halfway : Halfway journey limit batch config turns maintained engine position job wake)
    (due : engine.canResume job = true) :
    ∀ turn ∈ turns, turn.1.now.nanos < engine.now.nanos := by
  intro turn member
  obtain ⟨-, before, within⟩ := halfway.early turn member
  rcases halfway.underway.canResume_iff.1 due with come | come
  · exact come ▸ before
  · exact (come ▸ halfway.deadline) ▸ within

/-- A turn with which the query ends does what is left to do now and tells the breaker: the query is
concluded. -/
theorem ends
    (halfway : Halfway journey limit batch config turns maintained engine position job wake)
    (due : engine.canResume job = true) {jobs : List Job} {done : List Effect}
    (did : Engine.Did { engine with jobs } done between) {rest : List (Instant × Effect)}
    (timeline : (job.journey engine.providers wake).timeline =
      done.map (engine.now, ·) ++ rest)
    (later : ∀ entry ∈ rest, engine.now.nanos < entry.1.nanos) {ended : QueryEnd}
    (recorded : ended.cause.recorded? = some outcome)
    (lost : ended.lost = decide (engine.crashed < (between.finish batch outcome).crashed))
    (answered : journey.returns.nanos ≤ limit.nanos →
      ended.cause = .answered journey.outcome ∧ engine.now = journey.returns)
    (expired : limit.nanos < journey.returns.nanos →
      ended.cause = .timedOut ∧ engine.now = limit) :
    let after := between.finish batch outcome
    Concluded journey limit batch config (turns ++ [(engine, after)]) maintained after ended
      engine.now := by
  intro after
  obtain ⟨past, follows, whole, before⟩ := halfway.timeline
  have deeds : Engine.Deeds engine done after :=
    have deeds := did.deeds_finish batch outcome
    ⟨deeds.cache, deeds.reports, deeds.journal⟩
  have onwards : Follows (turns ++ [(engine, after)]) _ :=
    follows.turn deeds (halfway.before due)
  have early : ∀ turn ∈ turns ++ [(engine, after)], turn.1.now.nanos ≤ engine.now.nanos := by
    intro turn member
    rcases List.mem_append.1 member with before | last
    · exact (halfway.early turn before).1
    · rw [List.mem_singleton.1 last]
  have all : journey.timeline.filter (fun entry => entry.1.nanos ≤ engine.now.nanos) =
      past ++ done.map (engine.now, ·) := by
    rw [whole, timeline, ← List.append_assoc]
    exact filter_timeline (onwards.le early) later
  obtain ⟨breakers, -, -, -, kept⟩ := between.finish_keeps batch outcome
  obtain ⟨events, rfl⟩ := did
  constructor
  case follows => exact all ▸ onwards
  case answered => exact answered
  case expired => exact expired
  case stays => exact fun idle => all ▸ deeds.answered (before idle) engine.now
  case told =>
    refine ⟨outcome, recorded, turns, engine, after, rfl, rfl, halfway.breakers, breakers, ?_⟩
    intro cool
    have counted := halfway.uniform.record_overflow cool batch.exporter outcome.isOk
    refine ⟨counted, lost.trans (decide_eq_false ?_)⟩
    rw [kept counted]
    exact Nat.lt_irrefl _

/-- A query whose job is put back stays pending: what its timeline has for now is done, and the job
goes on later. -/
theorem waits
    (halfway : Halfway journey limit batch config turns maintained engine position job wake)
    (due : engine.canResume job = true) (undue : engine.now.nanos < job.deadline.nanos)
    (come : wake = engine.now) {done : List Effect} {waiting : Job} {next : Instant}
    (did : Engine.Did { engine with jobs := engine.jobs.eraseIdx position } done between)
    (pauses : Engine.Pauses engine.providers engine.now job done waiting next) :
    let after := { between with jobs := between.jobs ++ [waiting] }
    Halfway journey limit batch config (turns ++ [(engine, after)]) maintained after
      (engine.jobs.length - 1) waiting next := by
  obtain ⟨events, rfl⟩ := did
  obtain ⟨past, follows, whole, answered⟩ := halfway.timeline
  subst come
  intro after
  have deeds : Engine.Deeds engine done after := ⟨rfl, rfl, rfl⟩
  constructor
  case found =>
    have bound : position < engine.jobs.length :=
      (List.getElem?_eq_some_iff.1 halfway.found).1
    rw [← List.length_eraseIdx_of_lt bound]
    exact List.getElem?_concat_length
  case underway =>
    exact
      { timed := pauses.timed
        timely := halfway.underway.timely
        waits := .inl pauses.wait
        wakes := Nat.le_of_lt pauses.later
        deadline := pauses.deadline ▸ halfway.underway.deadline
        whole := pauses.whole
        onTick := ⟨halfway.underway.onTick.whole, halfway.underway.onTick.fired⟩
        running := halfway.underway.running }
  case about => exact pauses.batch.trans halfway.about
  case deadline => exact pauses.deadline.trans halfway.deadline
  case timeline =>
    refine ⟨past ++ done.map (engine.now, ·), ?_, ?_, fun idle => ?_⟩
    · exact follows.turn deeds (halfway.before due)
    · rw [whole, pauses.timeline, List.append_assoc]
      rfl
    · exact deeds.answered (answered idle) engine.now
  case returns => exact pauses.returns.trans halfway.returns
  case outcome => exact pauses.outcome.trans halfway.outcome
  case early =>
    intro turn member
    rcases List.mem_append.1 member with before | last
    · obtain ⟨earlier, -, within⟩ := halfway.early turn before
      exact ⟨earlier, Nat.lt_of_le_of_lt earlier pauses.later, within⟩
    · rw [List.mem_singleton.1 last]
      exact ⟨Nat.le_refl _, pauses.later, halfway.deadline ▸ undue⟩
  case breakers =>
    intro turn member
    rcases List.mem_append.1 member with before | last
    · exact halfway.breakers turn before
    · rw [List.mem_singleton.1 last]
      rfl
  case uniform => exact halfway.uniform

/-- A turn takes a query further: what its timeline has for now is done, and the query is over or
goes on later. -/
theorem work
    (halfway : Halfway journey limit batch config turns maintained engine position job wake)
    (taken : engine.step? (.work position) = some after) :
    (∃ ended, engine.ending? (.work position) = some ended ∧
        Concluded journey limit batch config (turns ++ [(engine, after)]) maintained after ended
          engine.now) ∨
      engine.ending? (.work position) = none ∧ ∃ waiting next,
        Halfway journey limit batch config (turns ++ [(engine, after)]) maintained after
          (engine.jobs.length - 1) waiting next ∧
        (waiting.journey after.providers next).timeline.length <
          (job.journey engine.providers wake).timeline.length := by
  obtain ⟨same, found, resumed⟩ := Engine.step_work taken
  obtain rfl : same = job := Option.some.inj (found.symm.trans halfway.found)
  have due := Engine.canResume_of_step found taken
  let others := { engine with jobs := engine.jobs.eraseIdx position }
  have ending : engine.ending? (.work position) =
      (others.endCause? same).map (others.endBy same) := Engine.ending?_work found
  have underway : others.Underway same wake :=
    { halfway.underway with
      onTick := ⟨halfway.underway.onTick.whole, halfway.underway.onTick.fired⟩ }
  have lost (cause : EndCause) :
      (others.endBy same cause).lost = decide (engine.crashed < after.crashed) := by
    rw [resumed]
    rfl
  have resumes := underway.resumes (underway.canResume_iff.2 (halfway.underway.canResume_iff.1 due))
  rw [← resumed] at resumes
  cases resumes with
  | answers done between did ends finished timeline returns =>
    rw [halfway.about] at finished
    subst finished
    rw [ends] at ending
    have now : journey.returns = engine.now := halfway.returns.symm.trans returns
    refine .inl ⟨_, ending, halfway.ends due did (timeline.trans (List.append_nil _).symm)
      (List.forall_mem_nil _) rfl (lost _) (fun _ => ?_) fun late => ?_⟩
    · exact ⟨congrArg EndCause.answered halfway.outcome, now.symm⟩
    · have early := halfway.underway.deadline
      rw [halfway.deadline, ← now] at early
      exact absurd late (Nat.not_lt_of_le early)
  | expires done between did ends finished expired rest timeline later returns =>
    rw [halfway.about] at finished
    subst finished
    rw [ends] at ending
    have limited : limit = engine.now := halfway.deadline.symm.trans expired
    have late : engine.now.nanos < journey.returns.nanos := halfway.returns ▸ returns
    refine .inl ⟨_, ending, halfway.ends due did timeline later rfl (lost _) (fun early => ?_)
      fun _ => ⟨rfl, limited.symm⟩⟩
    exact absurd (limited ▸ late) (Nat.not_lt_of_le early)
  | pauses done between did ends waiting next kept undue come pauses =>
    have timeline : (same.journey engine.providers wake).timeline =
        done.map (engine.now, ·) ++ (waiting.journey engine.providers next).timeline :=
      come ▸ pauses.timeline
    subst kept
    rw [ends] at ending
    refine .inr ⟨ending, waiting, next, halfway.waits due undue come did pauses, ?_⟩
    obtain ⟨events, rfl⟩ := did
    rw [timeline, List.length_append, List.length_map]
    exact Nat.lt_add_of_pos_left (List.length_pos_iff.2 pauses.any)

end Halfway

/-- The time may pass punctually for a job until there is something to do about it. -/
theorem Halfway.punctual
    (halfway : Halfway journey limit batch config turns maintained engine position job wake)
    (limited : limit.Whole) : ∃ around : Surroundings, around.totals = engine.around.totals ∧
      engine.Punctual job around ∧ Engine.canResume { engine with around } job = true := by
  obtain ⟨time, first, early, intime⟩ : ∃ time : Instant, (wake = time ∨ limit = time) ∧
      time.nanos ≤ wake.nanos ∧ time.nanos ≤ limit.nanos := by
    rcases Nat.le_total wake.nanos limit.nanos with le | le
    · exact ⟨wake, .inl rfl, Nat.le_refl _, le⟩
    · exact ⟨limit, .inr rfl, le, Nat.le_refl _⟩
  have underway := halfway.underway
  have onwards : engine.now.nanos ≤ time.nanos := by
    rcases first with rfl | rfl
    · exact underway.wakes
    · exact halfway.deadline ▸ underway.deadline
  have whole : time.Whole := by
    rcases first with rfl | rfl
    · exact underway.whole
    · exact limited
  let around := { engine.around with now := time, tick := time.lastTick }
  have punctual : engine.Punctual job around :=
    { stands := by
        intro due
        have here : time.nanos ≤ engine.now.nanos := by
          rcases underway.canResume_iff.1 due with come | come
          · exact come ▸ early
          · exact come ▸ halfway.deadline.symm ▸ intime
        exact congrArg Instant.mk (Nat.le_antisymm here onwards)
      onwards := onwards
      whole := whole
      fired := rfl
      deadline := halfway.deadline ▸ intime
      wakes := by
        intro until_ waits
        rcases underway.waits with waits' | ⟨none_left, -⟩
        · cases waits.symm.trans waits'
          exact early
        · cases waits.symm.trans none_left }
  refine ⟨around, rfl, punctual, (underway.pass punctual).canResume_iff.2 ?_⟩
  rw [halfway.deadline]
  exact first

/-- A query that is pending can end, whatever has happened, with nothing but time and the turns of
its worker. -/
theorem Halfway.concludes {flow : Flow}
    (halfway : Halfway journey limit batch config turns maintained flow.engine position job wake)
    (limited : limit.Whole) : ∃ all later ended time,
      Relation.ReflTransGen Step ⟨turns, flow, .pending position, maintained⟩
        ⟨all, later, .settled ended time, maintained⟩ := by
  -- Each turn with which the query does not end shortens what is left of the timeline.
  induction left : (job.journey flow.engine.providers wake).timeline.length
    using Nat.strong_induction_on generalizing turns flow position job wake with
  | _ left ih =>
    obtain ⟨around, counted, punctual, due⟩ := halfway.punctual limited
    have passed : Step ⟨turns, flow, .pending position, maintained⟩
        ⟨turns, { flow with engine := { flow.engine with around } }, .pending position,
          maintained⟩ :=
      .pass (.pass counted) halfway.found punctual
    have waited := halfway.pass punctual
    obtain ⟨after, taken⟩ := Engine.step_of_canResume waited.found due
    have happens : Flow.Happens (.act (.work position))
        { flow with engine := { flow.engine with around } } _ :=
      .act (.inr nofun) taken
    rcases waited.work taken with ⟨ended, ends, -⟩ | ⟨unfinished, waiting, next, onwards, shorter⟩
    · exact ⟨_, _, ended, _, .head passed (.single (.last happens ends))⟩
    · let reached := Flow.afterAction { flow with engine := { flow.engine with around } }
        (.work position) after
      have onwards :
          Halfway journey limit batch config _ maintained reached.engine _ waiting next := onwards
      obtain ⟨all, later, ended, time, lives⟩ := ih _ (left ▸ shorter) onwards rfl
      exact ⟨all, later, ended, time, .head passed (.head (.turn happens unfinished) lives)⟩

/-- What is known of a query: it is halfway, or it was concluded. -/
def Known (journey : Journey) (limit : Instant) (batch : BatchQuery) (config : BreakerConfig)
    (inquiry : Inquiry) : Prop :=
  match inquiry.fate with
  | .pending position => ∃ job wake,
      Halfway journey limit batch config inquiry.turns inquiry.maintained inquiry.flow.engine
        position job wake
  | .settled ended time =>
    Concluded journey limit batch config inquiry.turns inquiry.maintained inquiry.flow.engine
      ended time

variable {before later : Inquiry}

/-- Whatever happens while a query is pending, it is pending or was concluded afterwards. -/
theorem Known.step (known : Known journey limit batch config before) (step : Step before later) :
    Known journey limit batch config later := by
  cases step with
  | pass happens found punctual =>
    obtain ⟨job, wake, halfway⟩ := known
    cases happens
    obtain rfl := Option.some.inj (found.symm.trans halfway.found)
    exact ⟨_, wake, halfway.pass punctual⟩
  | aside happens aside =>
    obtain ⟨job, wake, halfway⟩ := known
    have running := halfway.underway.running
    have steady := happens.steady aside.still fun _ ready =>
      Phase.noConfusion (running.symm.trans ready)
    exact ⟨job, wake, halfway.still steady (happens.made aside.fixed).2
      (happens.running aside.untold running) (happens.aside aside halfway.found)
      fun idle _ => happens.has running idle⟩
  | recast happens found alike timely =>
    obtain ⟨job, wake, halfway⟩ := known
    cases happens
    obtain rfl := Option.some.inj (found.symm.trans halfway.found)
    exact ⟨_, wake, halfway.recast (alike wake) timely⟩
  | turn happens unfinished =>
    obtain ⟨job, wake, halfway⟩ := known
    cases happens with
    | act _ taken =>
      rcases halfway.work taken with ⟨ended, ends, -⟩ | ⟨-, waiting, next, onwards, -⟩
      · cases unfinished.symm.trans ends
      · exact ⟨waiting, next, onwards⟩
  | last happens ending =>
    obtain ⟨job, wake, halfway⟩ := known
    cases happens with
    | act _ taken =>
      rcases halfway.work taken with ⟨ended, ends, concluded⟩ | ⟨unfinished, -⟩
      · cases ending.symm.trans ends
        exact concluded
      · cases ending.symm.trans unfinished

/-- A query begins while the engine is running. -/
theorem Begins.running {admission : Flow} (begins : before.Begins admission batch) :
    admission.engine.phase = .running := by
  obtain ⟨takes, -⟩ := begins
  generalize before.flow = after at takes
  cases takes with
  | act _ taken => exact (Engine.step_take taken).1

/-- A query that begins is halfway: nothing of the timeline of the chain has been done. -/
theorem Begins.known {admission : Flow} (begins : before.Begins admission batch)
    (any : admission.engine.providers ≠ [])
    (timely : ∀ provider ∈ admission.engine.providers, provider.Timed)
    (onTick : admission.engine.OnTick) (uniform : admission.engine.breakers.Uniform config) :
    Known (chainJourney admission.engine.providers batch admission.engine.now)
      admission.engine.queryDeadline batch config before := by
  obtain ⟨takes, first, passes, turns, fate, unmaintained⟩ := begins
  obtain ⟨turns', flow, fate', maintained⟩ := before
  subst turns fate
  cases takes with
  | act _ taken =>
    have steady := Engine.Steady.step taken
    obtain ⟨running, batch', channel, sent, -, rfl⟩ := Engine.step_take taken
    rw [sent, List.head?_cons, Option.some_inj] at first
    subst first
    obtain ⟨provider, others, chain⟩ := List.exists_cons_of_ne_nil any
    have asked : provider ∈ admission.engine.providers := chain ▸ List.mem_cons_self
    obtain ⟨breakers, totals, call, job, begun, undertaken⟩ := Engine.undertake_asks
      { admission.engine with waiting := admission.engine.waiting - 1, channel } passes chain
    have uniform := steady.uniform config uniform
    rw [undertaken] at uniform ⊢
    refine ⟨job, admission.engine.now, ?_⟩
    subst begun
    constructor
    case found => exact List.getElem?_concat_length
    case underway =>
      exact
        { timed := timely provider asked batch'
          timely := timely
          waits := .inr ⟨rfl, rfl⟩
          wakes := Nat.le_refl _
          deadline := Nat.le_trans (Instant.le_addOrFar _ _) (Nat.le_max_left _ _)
          whole := onTick.whole
          onTick := ⟨onTick.whole, onTick.fired⟩
          running := running }
    case about => rfl
    case deadline => rfl
    case timeline =>
      refine ⟨[], .none, ?_, fun _ => List.forall_mem_nil _⟩
      rw [chain]
      rfl
    case returns =>
      rw [chain]
      rfl
    case outcome =>
      rw [chain]
      rfl
    case early => exact List.forall_mem_nil _
    case breakers => exact List.forall_mem_nil _
    case uniform => exact uniform

end Inquiry

namespace Flow

open Engine Inquiry

variable {config : Configuration} {plans : List ProviderPlan} {counters : CacheCounters}
  {around : Surroundings} {trace : Trace} {admission : Flow} {batch : BatchQuery}
  {begun inquiry : Inquiry}

/-- One deadline holds for the whole chain of providers that are asked about a batch. It is the
later of two instants: when the query timeout is over that begins with the batch, and when the
initial delay is over that begins with the engine. A provider takes as long as its pauses, unless
they lead beyond the last instant. While the query is pending neither the deadline nor the return of
the chain has passed, and whatever has happened, the query can end. If the delays of the providers
that are asked in turn come to no more than is left until the deadline, it ends when they are over,
with the outcome of the chain. If they come to more, it is given up at the deadline. In either case
its worker has done exactly what the providers do up to the end of the query, and the breaker was
told of it once. -/
theorem one_deadline (run : Run config plans counters around trace admission)
    (timely : ∀ provider ∈ admission.engine.providers, provider.Timed)
    (timeout : config.queryTimeout.Whole) (delay : config.initialDelay.Whole)
    (whole : ∀ entry ∈ trace, entry.2 = .start → entry.1.engine.now.Whole)
    (onTick : admission.engine.OnTick) (begins : begun.Begins admission batch)
    (lives : Relation.ReflTransGen Inquiry.Step begun inquiry) :
    ∃ started, (started, .start) ∈ trace ∧ started.engine.phase = .ready ∧
      let now := admission.engine.now
      let deadline := (now.addOrFar config.queryTimeout).later
        (started.engine.now.addOrFar config.initialDelay)
      let chain := chainJourney admission.engine.providers batch now
      chain.returns.nanos = now.nanos + chain.delay ∧
        (now.nanos + chain.pauses < rangeNanos → chain.delay = chain.pauses) ∧
        match inquiry.fate with
        | .pending _ =>
          inquiry.flow.engine.now.nanos ≤ min chain.returns.nanos deadline.nanos ∧
            ∃ turns flow ended time, Relation.ReflTransGen Inquiry.Step inquiry
              ⟨turns, flow, .settled ended time, inquiry.maintained⟩
        | .settled ended time =>
          Concluded chain deadline batch config.breaker inquiry.turns inquiry.maintained
            inquiry.flow.engine ended time := by
  have running : admission.engine.phase = .running := begins.running
  obtain ⟨started, among, ready, grace⟩ := run.grace running
  refine ⟨started, among, ready, ?_⟩
  have limit : admission.engine.queryDeadline =
      (admission.engine.now.addOrFar config.queryTimeout).later
        (started.engine.now.addOrFar config.initialDelay) := by
    rw [queryDeadline, run.tunables, grace]
  have limited : admission.engine.queryDeadline.Whole := by
    rw [limit]
    exact (Instant.whole_addOrFar onTick.whole timeout).later
      (Instant.whole_addOrFar (whole _ among rfl) delay)
  have known : Known (chainJourney admission.engine.providers batch admission.engine.now)
      admission.engine.queryDeadline batch config.breaker inquiry := by
    induction lives with
    | refl => exact begins.known run.providers_ne_nil timely onTick run.uniform
    | tail _ step ih => exact ih.step step
  dsimp only
  rw [← limit]
  refine ⟨nanos_returns_chainJourney admission.engine.providers batch admission.engine.now,
    delay_chainJourney, ?_⟩
  obtain ⟨turns, flow, fate, maintained⟩ := inquiry
  cases fate with
  | settled ended time => exact known
  | pending position =>
    obtain ⟨job, wake, halfway⟩ := known
    refine ⟨Nat.le_min.2 ⟨?_, ?_⟩, halfway.concludes limited⟩
    · rw [← halfway.returns]
      exact Nat.le_trans halfway.underway.wakes (job.le_journey flow.engine.providers wake).1
    · exact halfway.deadline ▸ halfway.underway.deadline

/-- A script of a provider that takes six tenths of a second and hands some interfaces over. -/
def slowScript (skipped : List UInt32) : Script := { delay := .millis 600, skipped }

/-- A worker begins at the start of time to ask three slow providers about two interfaces. -/
theorem exists_slow_admission :
    ∃ trace admission begun,
      Run { queryTimeout := .millis 1000, initialDelay := .zero }
        [(slowScript [2]).plan 0, (slowScript [2]).plan 1, (slowScript []).plan 2] {} {} trace
        admission ∧
      (∀ entry ∈ trace, entry.1.engine.now = .start) ∧
      admission.engine.now = .start ∧ admission.engine.around.tick = 0 ∧
      admission.engine.providers =
        [(slowScript [2]).provider 0, (slowScript [2]).provider 1, (slowScript []).provider 2] ∧
      Inquiry.Begins admission ⟨⟨1⟩, [1, 2]⟩ begun ∧
      begun.fate = .pending 0 ∧ begun.maintained = false := by
  have next {config : Configuration} {plans : List ProviderPlan} {trace : Trace}
      {happening : Happening} {flow after : Flow}
      (known : Run config plans {} {} trace flow ∧ ∀ entry ∈ trace, entry.1.engine.now = .start)
      (now : flow.engine.now = .start) (happens : Happens happening flow after) :
      Run config plans {} {} (trace ++ [(flow, happening)]) after ∧
        ∀ entry ∈ trace ++ [(flow, happening)], entry.1.engine.now = .start :=
    ⟨known.1.next happens, List.forall_mem_append.2 ⟨known.2, List.forall_mem_singleton.2 now⟩⟩
  have built : Run { queryTimeout := .millis 1000, initialDelay := .zero }
      [(slowScript [2]).plan 0, (slowScript [2]).plan 1, (slowScript []).plan 2] {} {} [] _ :=
    .built rfl
  have asked := next ⟨built, List.forall_mem_nil _⟩ rfl (.lookup _ .epoch ⟨⟨1⟩, 1⟩)
  have both := next asked rfl (.lookup _ .epoch ⟨⟨1⟩, 2⟩)
  have started := next both rfl (.start _)
  have joined := next started rfl (.act (.inl rfl) (rfl : step? _ .join = some _))
  have found := next joined rfl (.act (.inl rfl) (rfl : step? _ .seek = some _))
  have heard := next found rfl (.act (.inl rfl) (rfl : step? _ .listen = some _))
  have held := next heard rfl (.act (.inl rfl) (rfl : step? _ .deliver = some _))
  have takes {config : Configuration} {plans : List ProviderPlan} {trace : Trace} {flow : Flow}
      {after : Engine} (_ : Run config plans {} {} trace flow) (free : flow.gathering = none)
      (taken : flow.engine.step? .take = some after) :
      Happens (.act .take) flow (flow.afterAction .take after) := .act (.inl free) taken
  have begins : Inquiry.Begins _ ⟨⟨1⟩, [1, 2]⟩ ⟨[], _, .pending 0, false⟩ :=
    ⟨takes held.1 rfl rfl, rfl, rfl, rfl, rfl, rfl⟩
  exact ⟨_, _, _, held.1, held.2, rfl, rfl, rfl, begins, rfl, rfl⟩

/-- Three providers that take six tenths of a second each, the first two of which answer an
interface and hand another over, are given up after the second that a query may take. -/
theorem one_deadline_of_slow_chain :
    ∃ trace admission begun inquiry ended,
      Run { queryTimeout := .millis 1000, initialDelay := .zero }
        [(slowScript [2]).plan 0, (slowScript [2]).plan 1, (slowScript []).plan 2] {} {} trace
        admission ∧
      Inquiry.Begins admission ⟨⟨1⟩, [1, 2]⟩ begun ∧
      Relation.ReflTransGen Inquiry.Step begun inquiry ∧
      inquiry.fate = .settled ended ⟨1000000000⟩ ∧ ended.cause = .timedOut ∧
      inquiry.flow.engine.cache.Has ⟨⟨1⟩, 1⟩ := by
  obtain ⟨trace, admission, begun, run, still, now, tick, provided, begins, fate, idle⟩ :=
    exists_slow_admission
  have timely : ∀ provider ∈ admission.engine.providers, provider.Timed := by
    have slow (skipped : List UInt32) (backend : Nat) :
        ((slowScript skipped).provider backend).Timed :=
      Script.provider_timed rfl rfl ⟨600, rfl⟩ backend
    rw [provided]
    intro provider member
    simp only [List.mem_cons, List.not_mem_nil, or_false] at member
    rcases member with rfl | rfl | rfl <;> exact slow _ _
  have onTick : admission.engine.OnTick := ⟨⟨0, congrArg Instant.nanos now⟩, now ▸ tick⟩
  have deadline {inquiry : Inquiry} (lives : Relation.ReflTransGen Inquiry.Step begun inquiry) :=
    one_deadline run timely ⟨1000, rfl⟩ ⟨0, rfl⟩
      (fun entry member _ => ⟨0, congrArg Instant.nanos (still entry member)⟩) onTick begins lives
  -- The query can end, and if it ends it is given up.
  obtain ⟨started, among, -, -, -, pending⟩ := deadline .refl
  rw [fate] at pending
  obtain ⟨-, turns, flow, ended, time, lives⟩ := pending
  obtain ⟨started, among, -, -, -, concluded⟩ := deadline lives
  have limit : (Instant.start.addOrFar (.millis 1000)).later (Instant.start.addOrFar .zero) =
      ⟨1000000000⟩ := by decide
  rw [still _ among, now, provided, limit] at concluded
  obtain ⟨cause, rfl⟩ := concluded.expired (by decide)
  refine ⟨trace, admission, begun, _, ended, run, begins, lives, rfl, cause, ?_⟩
  refine concluded.stays idle (⟨600000000⟩, .report ⟨⟨⟨1⟩, 1⟩, Script.answer 0 ⟨⟨1⟩, 1⟩⟩) ?_ _ rfl
  refine List.mem_filter.2 ⟨?_, by decide⟩
  exact .tail _ (.tail _ (.head _))

end Flow

end FlowEnrichment
