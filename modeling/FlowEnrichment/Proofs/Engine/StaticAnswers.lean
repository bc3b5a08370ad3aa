import FlowEnrichment.Proofs.Cache.Contents
import FlowEnrichment.Proofs.Engine.Workforce
import FlowEnrichment.Proofs.StaticTable

/-!
# Answers of engines with static tables

An engine whose providers are static tables answers a lookup from its cache, which is filled in
the background by batches that may mix indexes and go through several tables. Whatever happens to
it, its cache holds answers of the chain of tables only (`Engine.Faithful`): every update that a
table reports is such an answer, because a table is asked only for what none before it answers.
And a table is asked for all of that, so a worker that goes on with a batch leaves none of its
indexes without the answer that the chain has (`Engine.Faithful.work_answers`). A run may also stop
the engine (`Flow.Course`); what was found before is still found after that.
-/
namespace FlowEnrichment

open StaticTable

/-- A worker is about to ask a table for what the tables before it do not answer. -/
structure Job.Asks (earlier : List StaticTable) (table : StaticTable) (job : Job) : Prop where
  /-- The table comes after the others. -/
  position : job.position = earlier.length
  /-- There is nothing to wait for. -/
  wait : job.wait = .none
  /-- The table is asked about the exporter of the batch. -/
  exporter : job.asked.exporter = job.batch.exporter
  /-- The table is asked for the indexes of the batch to which no table before has an answer. -/
  asked : ∀ index, index ∈ job.asked.indexes ↔ index ∈ job.batch.indexes ∧
    ∀ before ∈ earlier, before.answer? ⟨job.asked.exporter, index⟩ = none
  /-- The table reports its answers. -/
  effects : job.effects = (table.answer job.asked).1.map .report
  /-- The table says what it leaves to others. -/
  ending : job.ending = .done (table.answer job.asked).2

/-- What a table reports that is asked for what none before it answers is right. -/
theorem Job.Asks.right {earlier later : List StaticTable} {table : StaticTable} {job : Job}
    (asks : job.Asks earlier table) {update : Update}
    (reported : update ∈ (table.answer job.asked).1) :
    chainAnswer? (earlier ++ table :: later) update.query = some update.answer := by
  obtain ⟨exporter, member, answers⟩ := mem_updates_iff.1 reported
  refine chainAnswer?_of_silent (fun before inside => ?_) answers
  have silent := ((asks.asked _).1 member).2 before inside
  rw [← exporter] at silent
  exact silent

/-- A worker that is handed over what a table does not answer is about to ask the next one. -/
theorem Job.Asks.next {earlier : List StaticTable} {table : StaticTable} {job : Job}
    (asks : job.Asks earlier table) {indexes : List UInt32}
    (handed : handedOver? (table.answer job.asked).2 = some indexes) (next : StaticTable) :
    (Engine.ask job (job.position + 1) next.provider ⟨job.batch.exporter, indexes⟩).Asks
      (earlier ++ [table]) next := by
  refine ⟨?_, rfl, rfl, fun index => ?_, rfl, rfl⟩
  · show job.position + 1 = (earlier ++ [table]).length
    rw [asks.position, List.length_append, List.length_singleton]
  · show index ∈ indexes ↔ index ∈ job.batch.indexes ∧
      ∀ before ∈ earlier ++ [table], before.answer? ⟨job.batch.exporter, index⟩ = none
    have handed_over : index ∈ (handedOver? (table.answer job.asked).2).getD [] ↔ _ :=
      mem_handedOver_iff
    rw [handed, Option.getD_some] at handed_over
    rw [handed_over, asks.asked, asks.exporter, List.forall_mem_append, List.forall_mem_singleton,
      and_assoc]

/-- A worker finds the answer to a query from a chain of tables, the first of which it is about
to ask. -/
def Job.Finds (job : Job) (chain : List StaticTable) (query : Query) : Prop :=
  query.exporter = job.asked.exporter ∧ query.index ∈ job.asked.indexes ∧
    ∃ answer, chainAnswer? chain query = some answer

/-- What a worker finds from a chain is reported by the first table, or handed over and found from
the others. -/
theorem Job.Finds.cases {table : StaticTable} {later : List StaticTable} {job : Job} {query : Query}
    (finds : job.Finds (table :: later) query) :
    query ∈ (table.answer job.asked).1.map Update.query ∨
      ∃ indexes, handedOver? (table.answer job.asked).2 = some indexes ∧ query.index ∈ indexes ∧
        ∃ answer, chainAnswer? later query = some answer := by
  obtain ⟨exporter, member, answer, chain⟩ := finds
  rw [chainAnswer?, List.findSome?_cons] at chain
  cases own : table.answer? query with
  | some reported =>
    have update := mem_updates_iff.2 (⟨exporter, member, own⟩ :
      (Update.mk query reported).query.exporter = job.asked.exporter ∧ _)
    exact .inl (List.mem_map.2 ⟨_, update, rfl⟩)
  | none =>
    rw [own] at chain
    have silent : table.answer? ⟨job.asked.exporter, query.index⟩ = none := by
      rw [← exporter]
      exact own
    have handed := mem_handedOver_iff.2 ⟨member, silent⟩
    cases indexes : handedOver? (table.answer job.asked).2 with
    | none =>
      rw [indexes] at handed
      cases handed
    | some indexes' =>
      rw [indexes] at handed
      exact .inr ⟨indexes', rfl, handed, answer, chain⟩

namespace Engine

/-- An engine holds answers of a chain of tables only, and is about to get no others. -/
structure Faithful (tables : List StaticTable) (engine : Engine) : Prop where
  /-- The tables are the providers. -/
  providers : engine.providers = tables.map provider
  /-- No snapshot is loaded. -/
  unpersisted : engine.config.cachePersistFile = none
  /-- The cache holds answers of the chain. -/
  cached : engine.cache.Holds fun query answer => chainAnswer? tables query = some answer
  /-- Every job begins with the first table. -/
  jobs : ∀ job ∈ engine.jobs, ∃ table later, tables = table :: later ∧ job.Asks [] table
  /-- Late updates are answers of the chain. -/
  reports : ∀ report ∈ engine.reports,
    chainAnswer? tables report.2.query = some report.2.answer

variable {tables : List StaticTable} {engine after : Engine}

/-- What an engine holds and asks does not depend on its other parts. -/
theorem Faithful.elsewhere (faithful : Faithful tables engine)
    (providers : after.providers = engine.providers) (config : after.config = engine.config)
    (cache : after.cache = engine.cache) (jobs : after.jobs = engine.jobs)
    (reports : after.reports = engine.reports) : Faithful tables after where
  providers := providers.trans faithful.providers
  unpersisted := config ▸ faithful.unpersisted
  cached := cache ▸ faithful.cached
  jobs := jobs ▸ faithful.jobs
  reports := reports ▸ faithful.reports

/-- An event has nothing to do with answers. -/
theorem Faithful.log (faithful : Faithful tables engine) (event : Event) :
    Faithful tables (engine.log event) :=
  faithful.elsewhere rfl rfl rfl rfl rfl

/-! ## Updates -/

/-- An answer of the chain may be stored. -/
theorem Faithful.store (faithful : Faithful tables engine) {update : Update}
    (right : chainAnswer? tables update.query = some update.answer) :
    Faithful tables (engine.store update) :=
  ⟨faithful.providers, faithful.unpersisted, faithful.cached.put _ right, faithful.jobs,
    faithful.reports⟩

/-- Answers of the chain may be stored. -/
theorem Faithful.foldl_store (updates : List Update) (faithful : Faithful tables engine)
    (right : ∀ update ∈ updates, chainAnswer? tables update.query = some update.answer) :
    Faithful tables (updates.foldl Engine.store engine) := by
  induction updates generalizing engine with
  | nil => exact faithful
  | cons update updates ih =>
    have stored := faithful.store (right update List.mem_cons_self)
    exact ih stored fun other member => right other (List.mem_cons_of_mem update member)

/-- Answers that are stored are there, with those that were there. -/
theorem has_foldl_store {updates : List Update} {engine : Engine} {query : Query} :
    (updates.foldl Engine.store engine).cache.Has query ↔
      query ∈ updates.map Update.query ∨ engine.cache.Has query := by
  induction updates generalizing engine with
  | nil => simp
  | cons update updates ih =>
    rw [List.foldl_cons, ih, List.map_cons, List.mem_cons, or_assoc, or_left_comm]
    exact or_congr_right Cache.has_put

/-- A provider that only reports updates has no reason to wait. -/
theorem carryOut_reports (updates : List Update) (engine : Engine) :
    carryOut (updates.map .report) engine = (updates.foldl Engine.store engine, none) := by
  induction updates generalizing engine with
  | nil => rfl
  | cons update updates ih => exact ih (engine.store update)

/-! ## Workers -/

/-- The chain has an outcome. Whatever it reports on the way is right, and what can be found is
there in the end, with what was there. -/
theorem Faithful.proceed {earlier later : List StaticTable} {table : StaticTable} {job : Job}
    (faithful : Faithful tables engine) (split : tables = earlier ++ table :: later)
    (asks : job.Asks earlier table) (name : String) :
    ∃ reached outcome,
      proceed (later.map provider) name job engine = (reached, .answered outcome) ∧
        Faithful tables reached ∧
        ∀ query, engine.cache.Has query ∨ job.Finds (table :: later) query →
          reached.cache.Has query := by
  induction later generalizing earlier table job name engine with
  | nil =>
    have kept := faithful.foldl_store (table.answer job.asked).1
      fun update reported => split ▸ asks.right reported
    have found (query : Query) (there : engine.cache.Has query ∨ job.Finds [table] query) :
        ((table.answer job.asked).1.foldl Engine.store engine).cache.Has query := by
      rcases there with before | finds
      · exact has_foldl_store.2 (.inr before)
      · rcases finds.cases with reported | ⟨_, _, _, _, none_left⟩
        · exact has_foldl_store.2 (.inl reported)
        · cases none_left
    unfold Engine.proceed
    rw [asks.effects, carryOut_reports, asks.ending]
    dsimp only [List.map_nil]
    cases handed : handedOver? (table.answer job.asked).2 with
    | none => exact ⟨_, _, rfl, kept, found⟩
    | some indexes => exact ⟨_, _, rfl, kept.log _, found⟩
  | cons next later ih =>
    have kept := faithful.foldl_store (table.answer job.asked).1
      fun update reported => split ▸ asks.right reported
    unfold Engine.proceed
    rw [asks.effects, carryOut_reports, asks.ending]
    dsimp only [List.map_cons]
    cases handed : handedOver? (table.answer job.asked).2 with
    | none =>
      refine ⟨_, _, rfl, kept, fun query there => has_foldl_store.2 ?_⟩
      rcases there with before | finds
      · exact .inr before
      · rcases finds.cases with reported | ⟨_, some_handed, _⟩
        · exact .inl reported
        · rw [handed] at some_handed
          cases some_handed
    | some indexes =>
      have split' : tables = (earlier ++ [table]) ++ next :: later := by
        rw [split, List.append_assoc, List.singleton_append]
      obtain ⟨reached, outcome, proceeded, faithful', found⟩ :=
        ih (kept.log _) split' (asks.next handed next) _
      refine ⟨reached, outcome, proceeded, faithful', fun query there => found query ?_⟩
      rcases there with before | finds
      · exact .inl (has_foldl_store.2 (.inr before))
      · rcases finds.cases with reported | ⟨_, same, member, answered⟩
        · exact .inl (has_foldl_store.2 (.inl reported))
        · cases handed.symm.trans same
          exact .inr ⟨finds.1.trans asks.exporter, member, answered⟩

/-- A worker whose query ends stores nothing. -/
theorem finish_cache (engine : Engine) (batch : BatchQuery) (outcome : Except Failure Unit) :
    (engine.finish batch outcome).cache = engine.cache := by
  rcases engine.finish_parts batch outcome with ⟨around, warned, breakers, finished, -⟩ |
    ⟨breakers, finished⟩
  · rw [finished]
    rfl
  · rw [finished]
    rfl

/-- A worker whose query ends stores nothing and asks nothing. -/
theorem Faithful.finish (faithful : Faithful tables engine) (batch : BatchQuery)
    (outcome : Except Failure Unit) : Faithful tables (engine.finish batch outcome) := by
  rcases engine.finish_parts batch outcome with ⟨around, warned, breakers, finished, -⟩ |
    ⟨breakers, finished⟩
  · rw [finished]
    exact faithful.elsewhere rfl rfl rfl rfl rfl
  · rw [finished]
    exact faithful.elsewhere rfl rfl rfl rfl rfl

/-- A worker that resumes a job before the tasks are told to end finishes it, and what the chain
answers of the batch is there. -/
theorem Faithful.resume_eq (faithful : Faithful tables engine) {table : StaticTable}
    {later : List StaticTable} {job : Job} (split : tables = table :: later)
    (asks : job.Asks [] table) (ongoing : engine.phase ≠ .stopping) :
    ∃ reached outcome, engine.resume job = reached.finish job.batch outcome ∧
      Faithful tables reached ∧
      ∀ query, job.Finds tables query → reached.cache.Has query := by
  have no_wait : engine.waitOver job.wait = true := by
    rw [asks.wait]
    rfl
  have rest : engine.providers.drop (job.position + 1) = later.map provider := by
    rw [faithful.providers, split, asks.position]
    rfl
  have left : engine.leaveWait job.wait = engine := by
    rw [asks.wait]
    rfl
  obtain ⟨reached, outcome, proceeded, kept, found⟩ := faithful.proceed split asks
    ((engine.providers[job.position]?.map (·.name)).getD "")
  refine ⟨reached, outcome, ?_, kept, fun query finds => found query (.inr (split ▸ finds))⟩
  unfold Engine.resume advance
  rw [if_neg ongoing, if_pos no_wait, rest, left, proceeded]

/-- A worker that resumes a job stores answers of the chain and is done with it. -/
theorem Faithful.resume (faithful : Faithful tables engine) {table : StaticTable}
    {later : List StaticTable} {job : Job} (split : tables = table :: later)
    (asks : job.Asks [] table) : Faithful tables (engine.resume job) := by
  by_cases stopping : engine.phase = .stopping
  · rw [Engine.resume, if_pos stopping]
    exact faithful.finish job.batch _
  · obtain ⟨reached, outcome, resumed, kept, -⟩ := faithful.resume_eq split asks stopping
    rw [resumed]
    exact kept.finish job.batch outcome

/-- A worker may take up one of the jobs. -/
theorem Faithful.withoutJob (faithful : Faithful tables engine) (position : Nat) :
    Faithful tables { engine with jobs := engine.jobs.eraseIdx position } :=
  ⟨faithful.providers, faithful.unpersisted, faithful.cached,
    fun other member => faithful.jobs other (List.mem_of_mem_eraseIdx member), faithful.reports⟩

/-- A worker that begins with a batch is about to ask the first table. -/
theorem Faithful.undertake (faithful : Faithful tables engine) (batch : BatchQuery) :
    Faithful tables (engine.undertake batch) := by
  unfold Engine.undertake
  split
  case h_1 breakers call provider others entered providers =>
    have chain := faithful.providers.symm.trans providers
    obtain ⟨table, later, split, rfl, -⟩ := List.map_eq_cons_iff.1 chain
    refine ⟨faithful.providers, faithful.unpersisted, faithful.cached, fun job member => ?_,
      faithful.reports⟩
    rcases List.mem_append.1 member with before | begun
    · exact faithful.jobs job before
    · rw [List.mem_singleton.1 begun]
      refine ⟨table, later, split, rfl, rfl, rfl, fun index => ?_, rfl, rfl⟩
      exact ⟨fun member => ⟨member, fun _ none_before => nomatch none_before⟩, And.left⟩
  case h_2 breakers call _ none_left =>
    have entered : Faithful tables { engine with breakers } :=
      faithful.elsewhere rfl rfl rfl rfl rfl
    exact entered.finish batch _
  case h_3 breakers entered =>
    obtain ⟨around, warned, rejected, -⟩ := reject_parts { engine with breakers } batch.exporter
    rw [rejected]
    exact faithful.elsewhere rfl rfl rfl rfl rfl

/-! ## Lookups and maintenance -/

/-- A lookup holds and finds answers of the chain only. -/
theorem Faithful.lookup (faithful : Faithful tables engine) (now : Timestamp) (query : Query) :
    Faithful tables (engine.lookup now query).1 := by
  obtain ⟨queue, around, answered, -⟩ := engine.lookup_parts now query
  rw [answered]
  exact ⟨faithful.providers, faithful.unpersisted, faithful.cached.lookup now query,
    faithful.jobs, faithful.reports⟩

/-- What a lookup finds is an answer of the chain. -/
theorem Faithful.of_lookup (faithful : Faithful tables engine) {now : Timestamp} {query : Query}
    {answer : Answer} (found : (engine.lookup now query).2 = some answer) :
    chainAnswer? tables query = some answer := by
  apply faithful.cached.of_lookup
  unfold Engine.lookup at found
  split at found
  case h_1 cache value looked =>
    cases found
    exact congrArg Prod.snd looked
  case h_2 => cases found

/-- What is in the cache is found. -/
theorem lookup_of_has {engine : Engine} {query : Query} (has : engine.cache.Has query)
    (now : Timestamp) : ∃ answer, (engine.lookup now query).2 = some answer := by
  obtain ⟨answer, found⟩ := has.lookup now
  unfold Engine.lookup
  cases looked : engine.cache.lookup now query with
  | mk cache hit =>
    rw [looked] at found
    cases found
    exact ⟨answer, rfl⟩

/-- A maintenance run removes entries and leaves the others. -/
theorem Faithful.maintain (faithful : Faithful tables engine) (now : Timestamp) :
    Faithful tables (engine.maintain now).1 := by
  obtain ⟨queue, around, maintained, -⟩ := engine.maintain_parts now
  rw [maintained]
  exact ⟨faithful.providers, faithful.unpersisted, faithful.cached.expire _, faithful.jobs,
    faithful.reports⟩

/-- So do several. -/
theorem Faithful.maintainTimes (count : Nat) (faithful : Faithful tables engine) :
    Faithful tables (maintainTimes count engine) := by
  induction count generalizing engine with
  | zero => exact faithful
  | succ count ih => exact ih (faithful.maintain engine.around.clock)

/-! ## Actions, the start and the stop -/

/-- Every action leaves an engine with answers of the chain only. -/
theorem Faithful.act (faithful : Faithful tables engine) {action : Action}
    (taken : engine.step? action = some after) : Faithful tables after := by
  cases action with
  | prepare =>
    obtain ⟨maintenance, crashed, rfl⟩ := step_prepare taken
    exact faithful.elsewhere rfl rfl rfl rfl rfl
  | join =>
    obtain ⟨-, -, rfl⟩ := step_join taken
    exact faithful.elsewhere rfl rfl rfl rfl rfl
  | seek =>
    obtain ⟨-, -, -, rfl⟩ := step_seek taken
    exact faithful.elsewhere rfl rfl rfl rfl rfl
  | listen =>
    obtain ⟨-, -, first, waiting, -, round, queue, -, turns⟩ := step_listen taken
    rcases turns with ⟨batch, rest, -, rfl⟩ | ⟨-, rfl⟩
    · exact faithful.elsewhere rfl rfl rfl rfl rfl
    · exact faithful.elsewhere rfl rfl rfl rfl rfl
  | deliver =>
    obtain ⟨-, batch, rest, -, -, dispatcher, batched, rfl, -⟩ := step_deliver taken
    exact faithful.elsewhere rfl rfl rfl rfl rfl
  | claim =>
    obtain ⟨-, batch, rest, -, -, rfl⟩ := step_claim taken
    exact faithful.elsewhere rfl rfl rfl rfl rfl
  | take =>
    obtain ⟨-, batch, channel, -, -, rfl⟩ := step_take taken
    have taken : Faithful tables { engine with waiting := engine.waiting - 1, channel } :=
      faithful.elsewhere rfl rfl rfl rfl rfl
    exact taken.undertake batch
  | work position =>
    obtain ⟨job, found, rfl⟩ := step_work taken
    obtain ⟨table, later, split, asks⟩ := faithful.jobs job (List.mem_of_getElem? found)
    exact (faithful.withoutJob position).resume split asks
  | report =>
    obtain ⟨due, later, were_due, were_later, rfl⟩ := step_report taken
    have left : Faithful tables { engine with reports := later } :=
      ⟨faithful.providers, faithful.unpersisted, faithful.cached, faithful.jobs,
        fun report member => faithful.reports report (were_later report member)⟩
    have stored := left.foldl_store (due.map Prod.snd) fun update member => by
      obtain ⟨report, due, rfl⟩ := List.mem_map.1 member
      exact faithful.reports report (were_due report due)
    rw [List.foldl_map] at stored
    exact stored
  | maintain =>
    obtain ⟨deadline, -, -, rfl⟩ := step_maintain taken
    obtain ⟨count, next, -, served⟩ := engine.serveTicks_eq deadline
    rw [served]
    exact (faithful.maintainTimes count).elsewhere rfl rfl rfl rfl rfl

/-- An engine that settles takes actions only. -/
theorem Faithful.settleWithin (fuel : Nat) (faithful : Faithful tables engine) :
    Faithful tables (settleWithin fuel engine) := by
  induction fuel generalizing engine with
  | zero => exact faithful
  | succ fuel ih =>
    unfold Engine.settleWithin
    split
    case h_1 after next =>
      obtain ⟨action, -, taken⟩ := List.exists_of_findSome?_eq_some next
      exact ih (faithful.act taken)
    case h_2 => exact faithful

/-- The start loads nothing. -/
theorem Faithful.start (faithful : Faithful tables engine) :
    Faithful tables engine.start.1 := by
  have loaded : engine.loadCache = engine := by
    unfold loadCache
    rw [faithful.unpersisted]
  unfold Engine.start
  split
  case h_1 =>
    rw [loaded]
    exact faithful.elsewhere rfl rfl rfl rfl rfl
  case h_2 => exact faithful
  case h_3 => exact faithful
  case h_4 => exact faithful

/-- A stopped engine holds what it held when its tasks had ended. -/
theorem Faithful.stop (faithful : Faithful tables engine) : Faithful tables engine.stop := by
  unfold Engine.stop
  split
  case h_1 =>
    have stopping : Faithful tables { engine with phase := .stopping } :=
      faithful.elsewhere rfl rfl rfl rfl rfl
    have ended : Faithful tables engine.endTasks.logCrashes :=
      (stopping.settleWithin _).elsewhere rfl rfl rfl rfl rfl
    have unsaved : engine.endTasks.logCrashes.saveCache = engine.endTasks.logCrashes := by
      unfold saveCache
      rw [ended.unpersisted]
    rw [unsaved]
    exact ⟨ended.providers, ended.unpersisted, ended.cached, ended.jobs,
      fun report none_left => nomatch none_left⟩
  case h_2 => exact faithful.elsewhere rfl rfl rfl rfl rfl

/-- When a worker has gone on with a batch, a lookup finds to each of its queries the answer of the
chain if there is one, and nothing otherwise. -/
theorem Faithful.work_answers (faithful : Faithful tables engine) {position : Nat} {job : Job}
    (found : engine.jobs[position]? = some job) (ongoing : engine.phase ≠ .stopping)
    (taken : engine.step? (.work position) = some after) (now : Timestamp) {query : Query}
    (member : query ∈ job.batch.queries) (answer : Answer) :
    (after.lookup now query).2 = some answer ↔ ChainGives tables query answer := by
  obtain ⟨index, inside, rfl⟩ := List.mem_map.1 member
  obtain ⟨table, later, split, asks⟩ := faithful.jobs job (List.mem_of_getElem? found)
  have faithful' := faithful.act taken
  constructor
  · exact fun looked_up => chainAnswer?_eq_some_iff.1 (faithful'.of_lookup looked_up)
  · intro gives
    have chain := chainAnswer?_eq_some_iff.2 gives
    have asked : index ∈ job.asked.indexes :=
      (asks.asked index).2 ⟨inside, fun _ none_before => nomatch none_before⟩
    have finds : job.Finds tables ⟨job.batch.exporter, index⟩ :=
      ⟨asks.exporter.symm, asked, answer, chain⟩
    obtain ⟨same, found', rfl⟩ := step_work taken
    cases found.symm.trans found'
    have others : Faithful tables { engine with jobs := engine.jobs.eraseIdx position } :=
      faithful.withoutJob position
    obtain ⟨reached, outcome, resumed, -, has⟩ := others.resume_eq split asks ongoing
    have there : (Engine.resume { engine with
        jobs := engine.jobs.eraseIdx position } job).cache.Has
        ⟨job.batch.exporter, index⟩ := by
      rw [resumed, finish_cache]
      exact has _ finds
    obtain ⟨looked_up, hit⟩ := lookup_of_has there now
    have right := faithful'.of_lookup hit
    rw [hit, ← right, chain]

/-- The providers of tables are built if the tables are valid. -/
theorem providers_of_plans {providers : List Provider}
    (planned : (tables.map plan).mapM ProviderPlan.build = .ok providers) :
    providers = tables.map provider := by
  have each := mapM_eq_ok_iff.1 planned
  clear planned
  induction tables generalizing providers with
  | nil =>
    cases each
    rfl
  | cons table tables ih =>
    rw [List.map_cons, List.forall₂_cons_left_iff] at each
    obtain ⟨first, others, built, rest, rfl⟩ := each
    obtain ⟨_, -, same⟩ := bind_eq_ok_iff.1 built
    cases same
    rw [List.map_cons, ih rest]

/-- An engine that was built holds nothing. -/
theorem faithful_built {config : Configuration} {counters : CacheCounters} {around : Surroundings}
    (unpersisted : config.cachePersistFile = none)
    (built : build config (tables.map plan) counters around = .ok engine) :
    Faithful tables engine := by
  obtain ⟨-, providers, planned, rfl⟩ := Flow.build_eq_ok built
  exact ⟨providers_of_plans planned, unpersisted, Cache.holds_fresh counters,
    (fun _ member => nomatch member), fun _ member => nomatch member⟩

end Engine

/-! ## Runs -/

namespace Flow

open Engine

variable {config : Configuration} {tables : List StaticTable} {counters : CacheCounters}
  {around : Surroundings} {flow after : Flow}

/-- What can come of an engine as it was built, its stop included. -/
inductive Course (config : Configuration) (plans : List ProviderPlan) (counters : CacheCounters)
    (around : Surroundings) : Flow → Prop where
  /-- The engine was built. -/
  | built {engine : Engine} (built : build config plans counters around = .ok engine) :
      Course config plans counters around { engine }
  /-- Something else has happened than the stop. -/
  | step {before after : Flow} (course : Course config plans counters around before)
      (step : Step before after) : Course config plans counters around after
  /-- The tasks are told to end, and others go on while they do. -/
  | halt {flow : Flow} (course : Course config plans counters around flow) :
      Course config plans counters around
        { flow with engine := { flow.engine with phase := .stopping } }
  /-- The engine was stopped. -/
  | stop {flow : Flow} (course : Course config plans counters around flow) :
      Course config plans counters around
        { flow with engine := flow.engine.stop, gathering := none }

/-- Whatever happens leaves an engine with answers of the chain only. -/
theorem faithful_step (faithful : Faithful tables flow.engine) (step : Step flow after) :
    Faithful tables after.engine := by
  cases step with
  | pass counted => exact faithful.elsewhere rfl rfl rfl rfl rfl
  | start ready => exact faithful.start
  | request query =>
    obtain ⟨queue, around, queued, -⟩ := flow.engine.enqueue_parts query
    show Faithful tables (flow.engine.enqueue query).1
    rw [queued]
    exact faithful.elsewhere rfl rfl rfl rfl rfl
  | lookup now query => exact faithful.lookup now query
  | maintain now => exact faithful.maintain now
  | act free taken => exact faithful.act taken
  | gather gathering =>
    cases gathering with
    | first => exact faithful.elsewhere rfl rfl rfl rfl rfl
    | more => exact faithful.elsewhere rfl rfl rfl rfl rfl
    | close => exact faithful.elsewhere rfl rfl rfl rfl rfl

/-- In the course of a run there are answers of the chain only. -/
theorem faithful_of_course (unpersisted : config.cachePersistFile = none)
    (course : Course config (tables.map plan) counters around flow) :
    Faithful tables flow.engine := by
  induction course with
  | built built => exact faithful_built unpersisted built
  | step _ step faithful => exact faithful_step faithful step
  | halt _ faithful => exact faithful.elsewhere rfl rfl rfl rfl rfl
  | stop _ faithful => exact faithful.stop

/-- In whatever order things happen to an engine without a snapshot whose providers are static
tables, a lookup finds nothing else than the answer of the chain to the exporter and the index,
and so nothing if the chain has no answer. An IPv4 address and its mapped form are the same
exporter. When a worker has gone on with a batch that asks for them, a lookup finds the answer of
the chain if there is one. -/
theorem lookup_gives_chain_answer (unpersisted : config.cachePersistFile = none)
    (course : Course config (tables.map plan) counters around flow) (now : Timestamp)
    (exporter : IpAddress) (index : UInt32) :
    (∀ answer, (flow.engine.lookup now (Query.of exporter index)).2 = some answer →
        ChainGives tables (Query.of exporter index) answer) ∧
      ((∀ answer, ¬ ChainGives tables (Query.of exporter index) answer) →
        (flow.engine.lookup now (Query.of exporter index)).2 = none) ∧
      (∀ v4 : Ipv4, exporter = .v4 v4 →
        flow.engine.lookup now (Query.of (.v6 v4.mapped) index) =
          flow.engine.lookup now (Query.of exporter index)) ∧
      ∀ position job after, flow.engine.jobs[position]? = some job →
        flow.engine.phase ≠ .stopping → flow.engine.step? (.work position) = some after →
        Query.of exporter index ∈ job.batch.queries →
        ∀ answer, (after.lookup now (Query.of exporter index)).2 = some answer ↔
          ChainGives tables (Query.of exporter index) answer := by
  have faithful := faithful_of_course unpersisted course
  have sound {answer : Answer}
      (found : (flow.engine.lookup now (Query.of exporter index)).2 = some answer) :
      ChainGives tables (Query.of exporter index) answer :=
    chainAnswer?_eq_some_iff.1 (faithful.of_lookup found)
  refine ⟨fun answer => sound, fun silent => ?_, ?_, ?_⟩
  · rw [Option.eq_none_iff_forall_not_mem]
    exact fun answer found => silent answer (sound found)
  · rintro v4 rfl
    rfl
  · intro position job after found ongoing taken member
    exact faithful.work_answers found ongoing taken now member

/-- A table that lists one interface of the exporters in a subnet and leaves the others. -/
def nearTable : StaticTable :=
  ⟨[⟨.v4 (.around 0xc0000200 24 (by decide)), { name := "near" }, {},
    [⟨7, { name := "seven" }⟩], true⟩]⟩

/-- A table with a default for every exporter. -/
def farTable : StaticTable :=
  ⟨[⟨.v6 (.around 0 0 (by decide)), { name := "far" }, { name := "any" }, [], false⟩]⟩

/-- Two interfaces of an exporter are asked for in one batch. The first table answers one of them
and leaves the other to the second table, and both are found after the stop. -/
theorem lookup_gives_chain_answer_of_two :
    ∃ flow, Course {} ([nearTable, farTable].map plan) {} {} flow ∧
      (flow.engine.lookup .epoch (Query.of (.v4 ⟨0xc0000201⟩) 7)).2 =
        some ⟨{ name := "near" }, { name := "seven" }⟩ ∧
      (flow.engine.lookup .epoch (Query.of (.v4 ⟨0xc0000201⟩) 9)).2 =
        some ⟨{ name := "far" }, { name := "any" }⟩ ∧
      ChainGives [nearTable, farTable] (Query.of (.v4 ⟨0xc0000201⟩) 7)
        ⟨{ name := "near" }, { name := "seven" }⟩ ∧
      ChainGives [nearTable, farTable] (Query.of (.v4 ⟨0xc0000201⟩) 9)
        ⟨{ name := "far" }, { name := "any" }⟩ := by
  have built : Course {} ([nearTable, farTable].map plan) {} {} _ := .built rfl
  have asked := (built.step (.lookup _ .epoch (Query.of (.v4 ⟨0xc0000201⟩) 7))).step
    (.lookup _ .epoch (Query.of (.v4 ⟨0xc0000201⟩) 9))
  have started := asked.step (.start rfl)
  have joined := started.step (.act (.inl rfl) (rfl : step? _ .join = some _))
  have found := joined.step (.act (.inl rfl) (rfl : step? _ .seek = some _))
  have gathered := found.step (.act (.inl rfl) (rfl : step? _ .listen = some _))
  have sent := gathered.step (.act (.inl rfl) (rfl : step? _ .deliver = some _))
  have taken := sent.step (.act (.inl rfl) (rfl : step? _ .take = some _))
  have worked := taken.step (.act (.inl rfl) (rfl : step? _ (.work 0) = some _))
  have stopped := worked.stop
  have sound (index : UInt32) :=
    (lookup_gives_chain_answer rfl stopped .epoch (.v4 ⟨0xc0000201⟩) index).1
  refine ⟨_, stopped, ?seven, ?nine, sound 7 _ ?seven, sound 9 _ ?nine⟩
  case seven => decide +kernel
  case nine => decide +kernel

end Flow

end FlowEnrichment
