import FlowEnrichment.Proofs.Engine.StaticAnswers
import FlowEnrichment.Proofs.StaticTable.Chain

/-!
# Queries of chains of static tables

A worker that goes on with a batch asks the providers of the engine one after the other. A static
table never waits, so a chain of tables is gone through at once: what it does to the engine is to
store the reports of the chain and to write down the hand-overs (`queryChain_tables`). What comes
after some tables, whatever provider it is, is asked only if they leave something, and then for
exactly that (`queryChain_before`).
-/
namespace FlowEnrichment

open StaticTable

namespace Engine

/-- The query of the batch of a job: the first provider is asked for all of it, and the chain gone
through as far as it goes without waiting. -/
def queryChain (engine : Engine) (job : Job) : Engine × Progress :=
  match engine.providers with
  | [] => (engine, .answered (.ok ()))
  | provider :: _ => engine.advance (ask job 0 provider job.batch)

/-- An engine that was told updates and events. -/
def told (engine : Engine) (updates : List Update) (events : List Event) : Engine :=
  events.foldl log (updates.foldl store engine)

variable {engine : Engine} {tables : List StaticTable} {table : StaticTable} {batch : BatchQuery}
  {job : Job} {next : Provider} {rest : List Provider}

/-- Whether an update is stored before or after an event is all the same. -/
theorem foldl_store_log (updates : List Update) (events : List Event) (engine : Engine) :
    updates.foldl store (events.foldl log engine) =
      events.foldl log (updates.foldl store engine) := by
  have one (update : Update) (engine : Engine) :
      (events.foldl log engine).store update = events.foldl log (engine.store update) := by
    induction events generalizing engine with
    | nil => rfl
    | cons event events ih => exact ih (engine.log event)
  induction updates generalizing engine with
  | nil => rfl
  | cons update updates ih => rw [List.foldl_cons, one, ih, List.foldl_cons]

/-- An engine may be told things one after the other. -/
theorem told_told (engine : Engine) (updates updates' : List Update) (events events' : List Event) :
    (engine.told updates events).told updates' events' =
      engine.told (updates ++ updates') (events ++ events') := by
  rw [told, told, told, foldl_store_log, List.foldl_append, List.foldl_append]

/-- A worker that is let pass with a batch begins with the query of the batch, which is over at
once if there is no provider. -/
theorem undertake_begins {breakers : BreakerTable} {call : BreakerCall}
    (entered : engine.breakers.enter batch.exporter engine.now = (breakers, some call)) :
    (engine.providers = [] ∧
        engine.undertake batch = { engine with breakers }.finish batch (.ok ())) ∨
      ∃ job : Job, job.batch = batch ∧ (engine.undertake batch).jobs = engine.jobs ++ [job] ∧
        ∀ after : Engine, after.providers = engine.providers →
          after.advance job = after.queryChain job := by
  unfold undertake
  rw [entered]
  cases providers : engine.providers with
  | nil => exact .inl ⟨rfl, rfl⟩
  | cons provider others =>
    refine .inr ⟨_, rfl, rfl, fun after same => ?_⟩
    rw [queryChain, same]
    rfl

/-- A table that is the last of a chain stores its updates. -/
theorem proceed_last (name : String) (job : Job) (position : Nat) (table : StaticTable)
    (asked : BatchQuery) (engine : Engine) :
    ∃ events, proceed [] name (ask job position table.provider asked) engine =
      (engine.told (table.answer asked).1 events, .answered (.ok ())) := by
  unfold proceed
  rw [ask, provider_reply]
  dsimp only
  rw [carryOut_reports]
  dsimp only
  rw [chainOutcome_answer]
  cases handedOver? (table.answer asked).2 with
  | none => exact ⟨[], rfl⟩
  | some left => exact ⟨[_], rfl⟩

/-- A table that is asked for what others leave stores its part. If anything is left then, the
next provider is asked for it, and otherwise the chain ends. -/
theorem proceed_next (name : String) (job : Job) (tables : List StaticTable) (table : StaticTable)
    (engine : Engine) :
    ∃ events, proceed (next :: rest) name (ask job tables.length table.provider
        ⟨job.batch.exporter, unanswered tables job.batch⟩) engine =
      let reached := engine.told ((reportsAfter tables table job.batch).map (·.update)) events
      if unanswered (tables ++ [table]) job.batch = [] then (reached, .answered (.ok ()))
      else proceed rest next.name (ask job (tables.length + 1) next
        ⟨job.batch.exporter, unanswered (tables ++ [table]) job.batch⟩) reached := by
  conv in proceed _ _ _ _ => unfold proceed
  rw [ask, provider_reply]
  dsimp only
  rw [carryOut_reports, chainOutcome_answer, handedOver?_unanswered, answer_unanswered]
  by_cases all : unanswered (tables ++ [table]) job.batch = []
  · rw [if_pos all]
    exact ⟨[], (if_pos all).symm⟩
  · rw [if_neg all]
    exact ⟨[_], (if_neg all).symm⟩

/-- What comes after some tables is asked only if they leave anything of the batch, and then for
exactly that. -/
theorem queryChain_before (nonempty : job.batch.indexes ≠ [])
    (providers : engine.providers = tables.map provider ++ next :: rest) :
    ∃ events, engine.queryChain job =
      let reached := engine.told ((chainReports tables job.batch).map (·.update)) events
      if unanswered tables job.batch = [] then (reached, .answered (.ok ()))
      else proceed rest next.name (ask job tables.length next
        ⟨job.batch.exporter, unanswered tables job.batch⟩) reached := by
  -- The last table is what comes after the tables before it.
  induction tables using List.reverseRecOn generalizing next rest with
  | nil =>
    have first : engine.providers = next :: rest := providers
    have begun : engine.queryChain job = engine.advance (ask job 0 next job.batch) := by
      rw [queryChain, first]
    refine ⟨[], ?_⟩
    rw [unanswered_nil, if_neg nonempty, begun, advance, first]
    rfl
  | append_singleton tables table ih =>
    have before : engine.providers = tables.map provider ++ table.provider :: next :: rest := by
      rw [providers, List.map_append, List.append_assoc]
      rfl
    obtain ⟨events, asked⟩ := ih before
    rw [asked, chainReports_concat, List.map_append, List.length_append, List.length_singleton]
    by_cases all : unanswered tables job.batch = []
    · have none_left : unanswered (tables ++ [table]) job.batch = [] := by
        rw [unanswered_concat, all, List.filter_nil]
      refine ⟨events, ?_⟩
      rw [if_pos all, if_pos none_left, reportsAfter_of_unanswered all, List.map_nil,
        List.append_nil]
    · rw [if_neg all]
      obtain ⟨events', proceeded⟩ := proceed_next table.provider.name job tables table
        (engine.told ((chainReports tables job.batch).map (·.update)) events)
      exact ⟨events ++ events', by rw [proceeded, told_told]⟩

/-- A chain of tables stores its reports, and never fails. -/
theorem queryChain_tables (nonempty : job.batch.indexes ≠ [])
    (providers : engine.providers = tables.map provider) :
    ∃ events, engine.queryChain job =
      (engine.told ((chainReports tables job.batch).map (·.update)) events,
        .answered (.ok ())) := by
  rcases List.eq_nil_or_concat' tables with rfl | ⟨tables, table, rfl⟩
  · refine ⟨[], ?_⟩
    rw [queryChain, providers]
    rfl
  · have before : engine.providers = tables.map provider ++ table.provider :: [] := by
      rw [providers, List.map_append]
      rfl
    obtain ⟨events, asked⟩ := queryChain_before nonempty before
    rw [asked, chainReports_concat, List.map_append]
    by_cases all : unanswered tables job.batch = []
    · rw [if_pos all, reportsAfter_of_unanswered all, List.map_nil, List.append_nil]
      exact ⟨events, rfl⟩
    · rw [if_neg all]
      obtain ⟨events', proceeded⟩ := proceed_last table.provider.name job tables.length table
        ⟨job.batch.exporter, unanswered tables job.batch⟩
        (engine.told ((chainReports tables job.batch).map (·.update)) events)
      exact ⟨events ++ events', by rw [proceeded, told_told, answer_unanswered]⟩

/-- The query of a batch by a chain of tables always succeeds, and what it stores are the reports
of the chain, which are a partition of the batch. What comes after the tables, be it one more
table or any provider, is asked only if they leave something of the batch, and then for exactly
that in the order of the batch; and a table leaves what neither it nor those before it answer. A
worker that is let pass with the batch goes through the chain in this way when it goes on. -/
theorem queryChain_partitions (tables : List StaticTable) {batch : BatchQuery}
    (nonempty : batch.indexes ≠ []) :
    Partitions tables batch (chainReports tables batch) ∧
      (∀ (engine : Engine) (job : Job), engine.providers = tables.map provider →
        job.batch = batch → ∃ events, engine.queryChain job =
          (engine.told ((chainReports tables batch).map (·.update)) events,
            .answered (.ok ()))) ∧
      (∀ (engine : Engine) (job : Job) (next : Provider) (rest : List Provider),
        engine.providers = tables.map provider ++ next :: rest →
        job.batch = batch → ∃ events, engine.queryChain job =
          let reached := engine.told ((chainReports tables batch).map (·.update)) events
          if unanswered tables batch = [] then (reached, .answered (.ok ()))
          else proceed rest next.name (ask job tables.length next
            ⟨batch.exporter, unanswered tables batch⟩) reached) ∧
      (∀ table : StaticTable,
        handedOver? (table.answer ⟨batch.exporter, unanswered tables batch⟩).2 =
          if unanswered (tables ++ [table]) batch = [] then none
          else some (unanswered (tables ++ [table]) batch)) ∧
      ∀ (engine : Engine) (breakers : BreakerTable) (call : BreakerCall),
        engine.providers = tables.map provider →
        engine.breakers.enter batch.exporter engine.now = (breakers, some call) →
        tables = [] ∧ engine.undertake batch = { engine with breakers }.finish batch (.ok ()) ∨
          ∃ job : Job, job.batch = batch ∧ (engine.undertake batch).jobs = engine.jobs ++ [job] ∧
            ∀ after : Engine, after.providers = tables.map provider → ∃ events,
              after.advance job =
                (after.told ((chainReports tables batch).map (·.update)) events,
                  .answered (.ok ())) := by
  refine ⟨partitions_chainReports tables batch, fun engine job providers same => ?_,
    fun engine job next rest providers same => ?_, fun table => handedOver?_unanswered,
    fun engine breakers call providers entered => ?_⟩
  · subst same
    exact queryChain_tables nonempty providers
  · subst same
    exact queryChain_before nonempty providers
  · rcases undertake_begins entered with ⟨none_asked, ended⟩ | ⟨job, rfl, begun, goes⟩
    · rw [providers, List.map_eq_nil_iff] at none_asked
      exact .inl ⟨none_asked, ended⟩
    · refine .inr ⟨job, rfl, begun, fun after same => ?_⟩
      rw [goes after (same.trans providers.symm)]
      exact queryChain_tables nonempty same

/-- A batch repeats an index that the first of two tables lists. The second table is asked for the
other index only. -/
theorem queryChain_partitions_of_repeated :
    let batch : BatchQuery := ⟨Ipv4.mapped ⟨0xc0000201⟩, [7, 9, 7]⟩
    let tables := [Flow.nearTable, Flow.farTable]
    let engine : Engine :=
      { config := {}, providers := tables.map provider, cache := {}, breakers := { config := {} } }
    let job : Job := ⟨batch, ⟨false⟩, .start, 0, batch, [], .done (.ok ()), .none⟩
    batch.indexes ≠ [] ∧
      (chainReports tables batch).map (fun report => (report.table, report.place)) =
        [(0, 0), (0, 2), (1, 1)] ∧
      unanswered [Flow.nearTable] batch = [9] ∧
      ∃ events, engine.queryChain job =
        (engine.told ((chainReports tables batch).map (·.update)) events,
          .answered (.ok ())) := by
  intro batch tables engine job
  have nonempty : batch.indexes ≠ [] := by decide
  exact ⟨nonempty, by decide +kernel, by decide +kernel,
    (queryChain_partitions tables nonempty).2.1 engine job rfl rfl⟩

end Engine

end FlowEnrichment
