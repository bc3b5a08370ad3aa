import FlowEnrichment.Proofs.CommandLine.Lines
import FlowEnrichment.Proofs.CommandLine.Sessions
import FlowEnrichment.Proofs.Engine.Crashes
import FlowEnrichment.Proofs.Engine.Timeline
import Mathlib.Data.List.Count

/-!
# Lookups of the command line

The rounds of a lookup are a session: nothing happens while queries are looked up, and the engine
goes on while the lookup sleeps (`CommandLine.lookupRounds_session`). It stops after as many rounds
as its wait leaves time for, because every sleep takes its time. So a lookup with settings that load
and build prints one line for every query that it was asked for, and an answer in a line is that of
the tables of the settings (`Outcome.Accounts`, `CommandLine.lookup_accounts_for_queries`).
-/
namespace FlowEnrichment

/-! ## Chains of static providers -/

/-- The choice of a static provider has the parameters of a valid table. -/
structure ProviderSettings.Tabulates (settings : ProviderSettings) (table : StaticTable) :
    Prop where
  /-- The provider is static. -/
  kind : settings.kind = StaticTable.providerName
  /-- Its parameters are those of the table. -/
  decoded : StaticTable.decoder.ofValue (.object settings.params) = .ok table
  /-- The table is valid. -/
  valid : table.validate = .ok ()

/-- There are no other plans than those of valid tables. -/
theorem ProviderSettings.plan_eq_ok {settings : ProviderSettings} {plan : ProviderPlan}
    (planned : settings.plan .builtin = .ok plan) :
    ∃ table, settings.Tabulates table ∧ plan = table.plan := by
  unfold ProviderSettings.plan Registry.plan at planned
  split at planned
  case h_1 factory found =>
    have builtin : Registry.builtin.factories =
      [(StaticTable.providerName, Registry.staticFactory)] := rfl
    rw [builtin, List.lookup_cons] at found
    cases same : settings.kind == StaticTable.providerName with
    | false =>
      rw [same] at found
      cases found
    | true =>
      rw [same] at found
      cases found
      unfold Registry.staticFactory at planned
      split at planned
      case h_1 => cases planned
      case h_2 table decoded =>
        obtain ⟨_, valid, made⟩ := bind_eq_ok_iff.1 planned
        cases made
        exact ⟨table, ⟨eq_of_beq same, decoded, valid⟩, rfl⟩
  case h_2 => cases planned

/-- Nor are there in a chain. -/
theorem Settings.plans_eq_ok {settings : Settings} {plans : List ProviderPlan}
    (planned : settings.plans .builtin = .ok plans) :
    ∃ tables, List.Forall₂ ProviderSettings.Tabulates settings.providers tables ∧
      plans = tables.map StaticTable.plan := by
  have each := mapM_eq_ok_iff.1 planned
  clear planned
  generalize settings.providers = providers at each ⊢
  induction each with
  | nil => exact ⟨[], .nil, rfl⟩
  | cons first _ ih =>
    obtain ⟨table, tabulates, rfl⟩ := ProviderSettings.plan_eq_ok first
    obtain ⟨tables, others, rfl⟩ := ih
    exact ⟨table :: tables, .cons tabulates others, rfl⟩

/-! ## Clocks -/

namespace Engine

variable {engine : Engine}

/-- The start takes no time. -/
theorem start_now (engine : Engine) : engine.start.1.now = engine.now := by
  obtain ⟨cache, events, phase, fresh, maintenance, graceDeadline, started⟩ := engine.start_parts
  rw [started]
  rfl

/-- A start at a whole millisecond ends at it. -/
theorem OnTick.start (onTick : engine.OnTick) : engine.start.1.OnTick := by
  obtain ⟨cache, events, phase, fresh, maintenance, graceDeadline, started⟩ := engine.start_parts
  rw [started]
  exact onTick.still rfl rfl

/-- An engine whose wall clock is set. -/
def setClock (engine : Engine) (clock : Timestamp) : Engine :=
  { engine with around := { engine.around with clock } }

/-- Deadlines are kept on another clock. -/
theorem setClock_now (engine : Engine) (clock : Timestamp) :
    (engine.setClock clock).now = engine.now := rfl

/-- So the engine stays at a whole millisecond. -/
theorem OnTick.setClock (onTick : engine.OnTick) (clock : Timestamp) :
    (engine.setClock clock).OnTick := onTick.still rfl rfl

/-- The wall clock is set by a step. -/
theorem leads_setClock (engine : Engine) (clock : Timestamp) :
    Flow.Leads engine (engine.setClock clock) := .pass engine rfl

end Engine

namespace CommandLine

open FlowEnrichment.Flow Engine StaticTable

/-! ## Rounds -/

variable {flow : Flow} {deadline : Instant}

/-- The lines for queries with their answers. -/
def answerLines (found : List (Query × Answer)) : List String :=
  found.map fun entry => answerLine entry.1 entry.2

/-- What a round of lookups does is a sweep, and it takes no time. -/
theorem lookupRound_sweep (pending : List Query) (free : flow.gathering = none) :
    ∃ round after, Sweep flow round after ∧ round.pending = pending ∧
      lookupRound pending flow.engine =
        (after.engine, answerLines round.answered, round.missing) ∧
      after.gathering = none ∧ Steady flow.engine after.engine := by
  induction pending generalizing flow with
  | nil => exact ⟨_, flow, .finish (.refl flow), rfl, rfl, free, .refl _⟩
  | cons query rest ih =>
    have looked := flow.lookedUp_steady flow.engine.around.clock query
    obtain ⟨round, after, sweep, rfl, swept, free, steady⟩ :=
      @ih (flow.lookedUp flow.engine.around.clock query) free
    have swept : lookupRound round.pending
        (flow.engine.lookup flow.engine.around.clock query).1 = _ := swept
    have onwards := looked.trans steady
    unfold lookupRound
    dsimp only
    rw [swept]
    cases found : (flow.engine.lookup flow.engine.around.clock query).2 with
    | some answer =>
      exact ⟨_, after, .hit (.refl flow) found sweep, rfl, rfl, free, onwards⟩
    | none => exact ⟨_, after, .miss (.refl flow) found sweep, rfl, rfl, free, onwards⟩

/-- The pause between two rounds is a sleep, after which the wall clock is set. -/
theorem pause_eq (engine : Engine) :
    ∃ clock, pause engine = (engine.sleep pollInterval).setClock clock := ⟨_, rfl⟩

/-- It ends at a whole millisecond again, and not too early. -/
theorem onTick_pause {engine : Engine} (onTick : engine.OnTick) :
    (pause engine).OnTick ∧ engine.now.nanos + pollInterval.nanos ≤ (pause engine).now.nanos := by
  have lasts : pollInterval.Whole := ⟨50, rfl⟩
  have positive : 0 < pollInterval.nanos := by decide
  have long : engine.now.nanos + pollInterval.nanos ≤ (engine.now.addOrFar pollInterval).nanos :=
    Instant.add_le_addOrFar engine.now (by decide)
  have some_time := Nat.lt_of_lt_of_le (Nat.lt_add_of_pos_right positive) long
  obtain ⟨slept, nanos⟩ := onTick.sleep lasts some_time
  obtain ⟨clock, paused⟩ := pause_eq engine
  rw [← nanos] at long
  rw [paused, setClock_now]
  exact ⟨slept.setClock clock, long⟩

/-- What happens in the meantime takes its time. -/
theorem passes_pause (free : flow.gathering = none) (onTick : flow.engine.OnTick) :
    ∃ later, Passes flow later ∧ later.gathering = none ∧ later.engine = pause flow.engine := by
  have leads : Leads flow.engine (pause flow.engine) := by
    obtain ⟨clock, paused⟩ := pause_eq flow.engine
    rw [paused]
    exact (Leads.sleep flow.engine pollInterval).trans (leads_setClock _ clock)
  obtain ⟨later, steps, free, arrived⟩ := leads flow free rfl
  refine ⟨later, ⟨steps, ?_⟩, free, arrived⟩
  rw [arrived]
  exact Nat.le_trans (Nat.le_add_right _ _) (onTick_pause onTick).2

/-! ## Sessions -/

/-- What the rounds of a lookup do is a session, if there may be as many as there is time for. -/
theorem lookupRounds_session (fuel : Nat) (queries : List Query) (free : flow.gathering = none)
    (onTick : flow.engine.OnTick)
    (enough : deadline.nanos ≤ flow.engine.now.nanos + fuel * pollInterval.nanos) :
    ∃ rounds after, Session deadline queries flow rounds after ∧
      lookupRounds deadline fuel queries flow.engine =
        (after.engine, answerLines (answered rounds), left rounds) := by
  induction fuel generalizing flow queries with
  | zero =>
    obtain ⟨round, after, sweep, about, swept, -, steady⟩ := lookupRound_sweep queries free
    rw [Nat.zero_mul, Nat.add_zero, ← steady.now] at enough
    refine ⟨[round], after, .last about sweep (.inr enough), ?_⟩
    unfold lookupRounds
    rw [swept, answered, List.flatMap_singleton]
    rfl
  | succ fuel ih =>
    obtain ⟨round, between, sweep, about, swept, free, steady⟩ := lookupRound_sweep queries free
    unfold lookupRounds
    rw [swept]
    dsimp only
    have stops : (round.missing.isEmpty || decide (deadline.nanos ≤ between.engine.now.nanos))
        = true ↔ round.missing = [] ∨ deadline.nanos ≤ between.engine.now.nanos := by simp
    by_cases ends : round.missing = [] ∨ deadline.nanos ≤ between.engine.now.nanos
    · refine ⟨[round], between, .last about sweep ends, ?_⟩
      rw [if_pos (stops.2 ends), answered, List.flatMap_singleton]
      rfl
    · obtain ⟨some_missing, early⟩ := not_or.1 ends
      have onTick := onTick.still steady.now steady.tick
      obtain ⟨later, background, free, paused⟩ := passes_pause free onTick
      obtain ⟨onTick, slept⟩ := onTick_pause onTick
      rw [← paused] at onTick slept
      have enough : deadline.nanos ≤ later.engine.now.nanos + fuel * pollInterval.nanos := by
        rw [Nat.succ_mul, ← steady.now] at enough
        omega
      obtain ⟨rounds, after, rest, others⟩ := ih round.missing free onTick enough
      have both : answered (round :: rounds) = round.answered ++ answered rounds :=
        List.flatMap_cons
      have retry : Retry deadline flow round later :=
        .sleep sweep some_missing (Nat.lt_of_not_le early) background slept
      refine ⟨round :: rounds, after, .more about retry rest, ?_⟩
      rw [if_neg (mt stops.1 ends), ← paused, others, left_cons round rest.ne_nil, both,
        answerLines, answerLines, answerLines, List.map_append]

/-- The rounds that a wait leaves time for are not too few. -/
theorem le_roundsWithin (wait : Duration) :
    wait.nanos ≤ roundsWithin wait * pollInterval.nanos := by
  simp only [roundsWithin, pollInterval, Duration.millis]
  omega

/-! ## The command -/

/-- What was built can be started, at a whole millisecond. -/
theorem ready_of_build {config : Configuration} {plans : List ProviderPlan}
    {counters : CacheCounters} {clock : Timestamp} {files : FileTree} {engine : Engine}
    (built : Engine.build config plans counters { clock, files } = .ok engine) :
    engine.start.2 = .ok () ∧ engine.OnTick := by
  obtain ⟨-, providers, -, rfl⟩ := build_eq_ok built
  exact ⟨start_eq_ok_iff.2 rfl, ⟨0, rfl⟩, (by decide : 0 = Instant.start.lastTick)⟩

/-- The command prints what came of rounds and ends with them: on the standard output a line for
every answer, and on the standard error one for every query that is left. -/
structure Outcome.Prints (outcome : Outcome) (rounds : List Round) (after : Engine) : Prop where
  /-- It succeeds. -/
  code : outcome.code = 0
  /-- The answers. -/
  output : outcome.output = answerLines (answered rounds)
  /-- The queries without an answer. -/
  errors : outcome.errors = (left rounds).map missingLine
  /-- The last line is printed when the rounds have ended. -/
  ended : outcome.ended = after.now
  /-- Then the engine is stopped. -/
  files : outcome.files = after.stop.around.files

/-- What is made of the results of rounds. -/
theorem prints_of_rounds (rounds : List Round) (after : Engine) :
    Outcome.Prints
      { output := answerLines (answered rounds), errors := (left rounds).map missingLine
        files := after.stop.around.files, ended := after.now }
      rounds after := ⟨rfl, rfl, rfl, rfl, rfl⟩

/-- With settings that load and build, the outcome is what the rounds came to. -/
theorem lookup_eq {host : Host} {config : Option String} {settings : Settings}
    {plans : List ProviderPlan} {engine after : Engine} {wait : Duration} {queries : List Query}
    {output : List String} {missing : List Query}
    (loaded : Settings.load host.files host.home config = .ok settings)
    (planned : settings.plans .builtin = .ok plans)
    (built : Engine.build settings.metadata.configuration plans {}
      { clock := host.clock, files := host.files } = .ok engine)
    (came : lookupRounds ⟨engine.now.nanos + wait.nanos⟩ (roundsWithin wait) queries
      engine.start.1 = (after, output, missing)) :
    CommandLine.lookup host config wait queries =
      .ok
        { output, errors := missing.map missingLine, files := after.stop.around.files
          ended := after.now } := by
  have configured : settings.configuration = .ok settings.metadata.configuration := by
    unfold Settings.configuration
    dsimp only
    rw [validate_of_build built]
    rfl
  obtain ⟨started, -⟩ := ready_of_build built
  rw [← start_now] at came
  unfold CommandLine.lookup
  refine bind_eq_ok_iff.2 ⟨settings, loaded, bind_eq_ok_iff.2 ⟨_, configured,
    bind_eq_ok_iff.2 ⟨plans, planned, ?_⟩⟩⟩
  split
  case h_1 failed => cases built.symm.trans failed
  case h_2 failed => cases built.symm.trans failed
  case h_3 same =>
    cases built.symm.trans same
    cases pair : engine.start with
    | mk running outcome =>
      rw [pair] at started came
      refine bind_eq_ok_iff.2 ⟨(), started, ?_⟩
      -- The results are put in before they are taken apart, so that no round is evaluated.
      simp -iota only [came]
      rfl

/-! ## What is printed -/

/-- The outcome accounts for queries: every occurrence of one has its line, which says what a chain
of tables answers or, after the deadline only, that there is no answer. -/
structure Outcome.Accounts (tables : List StaticTable) (queries : List Query) (deadline : Instant)
    (outcome : Outcome) : Prop where
  /-- A line on the standard output is the answer of the chain to one of the queries. -/
  output : ∀ line ∈ outcome.output, ∃ query ∈ queries, ∃ answer, ChainGives tables query answer ∧
    line = answerLine query answer
  /-- The lines on the standard error are about some of the queries, in their order. -/
  errors : ∃ missing : List Query, missing.Sublist queries ∧
    outcome.errors = missing.map missingLine
  /-- A query that the chain answers has as many lines as occurrences, with the answer or
  without. -/
  answered : ∀ query answer, ChainGives tables query answer →
    outcome.output.count (answerLine query answer) + outcome.errors.count (missingLine query) =
      queries.count query
  /-- A query that it does not answer has as many lines without an answer. -/
  unanswered : ∀ query, (∀ answer, ¬ ChainGives tables query answer) →
    outcome.errors.count (missingLine query) = queries.count query
  /-- There are no other lines. -/
  length : outcome.output.length + outcome.errors.length = queries.length
  /-- A line without an answer is printed when the deadline has passed. -/
  waited : outcome.errors ≠ [] → deadline.nanos ≤ outcome.ended.nanos
  /-- None of the lines breaks into several. -/
  lines : ∀ line ∈ outcome.output ++ outcome.errors, '\n' ∉ line.toList

variable {tables : List StaticTable} {queries : List Query}

/-- The line with the answer of a chain is printed as often as its query was answered. -/
theorem count_answerLines {found : List (Query × Answer)} {query : Query} {answer : Answer}
    (right : ∀ entry ∈ found, ChainGives tables entry.1 entry.2)
    (gives : ChainGives tables query answer) :
    (answerLines found).count (answerLine query answer) = (found.map Prod.fst).count query := by
  induction found with
  | nil => rfl
  | cons entry found ih =>
    obtain ⟨first, others⟩ := List.forall_mem_cons.1 right
    -- The chain has one answer, so a line with the same query is the same line.
    have same : answerLine entry.1 entry.2 = answerLine query answer ↔ entry.1 = query := by
      constructor
      · exact fun same => (answerLine_injective same).1
      · rintro rfl
        have once := (chainAnswer?_eq_some_iff.2 first).symm.trans
          (chainAnswer?_eq_some_iff.2 gives)
        rw [Option.some.inj once]
    have rest : (found.map fun entry => answerLine entry.1 entry.2).count
        (answerLine query answer) = (found.map Prod.fst).count query := ih others
    rw [answerLines, List.map_cons, List.map_cons, List.count_cons, List.count_cons, rest]
    simp only [beq_iff_eq, same]

/-- What is printed of rounds that account for queries accounts for them, if none is left before the
deadline. -/
theorem Outcome.Prints.accounts {outcome : Outcome} {rounds : List Round} {after : Engine}
    (prints : outcome.Prints rounds after) (accounted : Accounted tables queries rounds)
    (late : left rounds ≠ [] → deadline.nanos ≤ after.now.nanos) :
    outcome.Accounts tables queries deadline := by
  have both (query : Query) : ((answered rounds).map Prod.fst).count query +
      (left rounds).count query = queries.count query := by
    rw [← List.count_append]
    exact accounted.once.count_eq query
  have missing (query : Query) :
      outcome.errors.count (missingLine query) = (left rounds).count query := by
    rw [prints.errors]
    exact List.count_map_of_injective _ _ missingLine_injective query
  constructor
  case output =>
    intro line member
    rw [prints.output] at member
    obtain ⟨found, inside, rfl⟩ := List.mem_map.1 member
    have asked := accounted.once.mem_iff.1
      (List.mem_append_left (left rounds) (List.mem_map_of_mem inside))
    exact ⟨found.1, asked, found.2, accounted.right found inside, rfl⟩
  case errors => exact ⟨left rounds, accounted.order, prints.errors⟩
  case answered =>
    intro query answer gives
    rw [missing, prints.output, count_answerLines accounted.right gives, both]
  case unanswered =>
    intro query silent
    have none_found : query ∉ (answered rounds).map Prod.fst := by
      intro member
      obtain ⟨found, inside, rfl⟩ := List.mem_map.1 member
      exact silent found.2 (accounted.right found inside)
    rw [missing, ← both, List.count_eq_zero_of_not_mem none_found, Nat.zero_add]
  case length =>
    rw [prints.output, prints.errors, answerLines, List.length_map, List.length_map,
      ← accounted.once.length_eq, List.length_append, List.length_map]
  case waited =>
    intro some_error
    rw [prints.errors] at some_error
    rw [prints.ended]
    exact late fun none_left => some_error (by rw [none_left, List.map_nil])
  case lines =>
    intro line member
    rw [prints.output, prints.errors] at member
    rcases List.mem_append.1 member with inside | inside
    · obtain ⟨found, -, rfl⟩ := List.mem_map.1 inside
      exact (oneLine_answerLine found.1 found.2).no_break
    · obtain ⟨query, -, rfl⟩ := List.mem_map.1 inside
      exact (oneLine_missingLine query).no_break

/-- With settings that load, build and keep no snapshot, a lookup ends whatever the queries are,
repeated ones included, and however long it waits: it goes through rounds as a session does, prints
what they came to and is over when the last one is. So it prints one line for every occurrence of a
query, either the answer of the chain of tables in the settings or, once the wait has elapsed, that
there is none. In every round and in the end the unanswered queries are in their order. All of this
holds however the lookups of the rounds fall between what the engine does, and then too the rounds
come to an end. -/
theorem lookup_accounts_for_queries {host : Host} {config : Option String} {settings : Settings}
    {plans : List ProviderPlan} {engine : Engine}
    (loaded : Settings.load host.files host.home config = .ok settings)
    (planned : settings.plans .builtin = .ok plans)
    (built : Engine.build settings.metadata.configuration plans {}
      { clock := host.clock, files := host.files } = .ok engine)
    (unpersisted : settings.metadata.cachePersistFile = none) (wait : Duration)
    (queries : List Query) :
    let flow : Flow := { engine := engine.start.1 }
    let deadline : Instant := ⟨engine.now.nanos + wait.nanos⟩
    ∃ tables, List.Forall₂ ProviderSettings.Tabulates settings.providers tables ∧
      (∃ rounds after outcome, Session deadline queries flow rounds after ∧
        lookupRounds deadline (roundsWithin wait) queries flow.engine =
          (after.engine, answerLines (answered rounds), left rounds) ∧
        CommandLine.lookup host config wait queries = .ok outcome ∧
        outcome.Prints rounds after.engine ∧ outcome.Accounts tables queries deadline) ∧
      (∀ rounds pending later, Ongoing deadline queries flow rounds pending later →
        rounds.length ≤ roundsWithin wait) ∧
      ∀ rounds after, Session deadline queries flow rounds after →
        Accounted tables queries rounds ∧ rounds.length ≤ roundsWithin wait + 1 ∧
          (left rounds ≠ [] → deadline.nanos ≤ after.engine.now.nanos) := by
  intro flow deadline
  obtain ⟨tables, tabulates, rfl⟩ := Settings.plans_eq_ok planned
  obtain ⟨started, onTick⟩ := ready_of_build built
  have now := engine.start_now
  have faithful : flow.engine.Faithful tables := (faithful_built unpersisted built).start
  have enough : deadline.nanos ≤
      flow.engine.now.nanos + roundsWithin wait * pollInterval.nanos := by
    rw [now]
    exact Nat.add_le_add_left (le_roundsWithin wait) _
  have room : deadline.nanos - flow.engine.now.nanos = wait.nanos := by
    show engine.now.nanos + wait.nanos - engine.start.1.now.nanos = wait.nanos
    rw [now, Nat.add_sub_cancel_left]
  refine ⟨tables, tabulates, ?_, ?_, ?_⟩
  · obtain ⟨rounds, after, session, came⟩ :=
      @lookupRounds_session flow deadline (roundsWithin wait) queries rfl onTick.start enough
    have prints := prints_of_rounds rounds after.engine
    exact ⟨rounds, after, _, session, came, lookup_eq loaded planned built came, prints,
      prints.accounts (session.accounted faithful) session.deadline_le⟩
  · intro rounds pending later ongoing
    have few := ongoing.length_le
    rw [room] at few
    exact few
  · intro rounds after session
    have few := session.length_le
    rw [room] at few
    exact ⟨session.accounted faithful, few, session.deadline_le⟩

/-- A host with a settings file whose table has a default for every exporter. -/
def catchAllHost : Host where
  files :=
    { nodes :=
        [ (["settings"], .file
            ("provider=\x7btype=\"static\",exporters=[" ++
              "\x7bsubnet=\"::/0\",name=\"any\"\x7d]\x7d").toUTF8.toList) ] }

/-- Of three queries, one of which is repeated, every occurrence is accounted for within three
rounds, which take a tenth of a second if a line without an answer is printed. -/
theorem lookup_accounts_for_queries_of_repeated :
    let queries : List Query :=
      [.of (.v4 ⟨0xc0000201⟩) 7, .of (.v4 ⟨0xc0000201⟩) 9, .of (.v4 ⟨0xc0000201⟩) 7]
    let wait : Duration := .millis 100
    ∃ settings plans engine tables rounds after outcome,
      Settings.load catchAllHost.files catchAllHost.home (some "settings") = .ok settings ∧
      settings.plans .builtin = .ok plans ∧
      Engine.build settings.metadata.configuration plans {}
        { clock := catchAllHost.clock, files := catchAllHost.files } = .ok engine ∧
      settings.metadata.cachePersistFile = none ∧
      List.Forall₂ ProviderSettings.Tabulates settings.providers tables ∧
      Session ⟨engine.now.nanos + wait.nanos⟩ queries { engine := engine.start.1 } rounds after ∧
      lookupRounds ⟨engine.now.nanos + wait.nanos⟩ (roundsWithin wait) queries engine.start.1 =
        (after.engine, answerLines (answered rounds), left rounds) ∧
      CommandLine.lookup catchAllHost (some "settings") wait queries = .ok outcome ∧
      outcome.Prints rounds after.engine ∧
      outcome.Accounts tables queries ⟨engine.now.nanos + wait.nanos⟩ ∧
      Accounted tables queries rounds ∧ rounds.length ≤ 3 ∧
      outcome.output.length + outcome.errors.length = 3 := by
  intro queries wait
  have ready : (do
      let settings ← (Settings.load catchAllHost.files catchAllHost.home (some "settings")).toOption
      let plans ← (settings.plans .builtin).toOption
      let _ ← (Engine.build settings.metadata.configuration plans {}
        { clock := catchAllHost.clock, files := catchAllHost.files }).toOption
      return settings.metadata.cachePersistFile) = some none := by decide +kernel
  simp only [Option.bind_eq_bind, Option.bind_eq_some_iff, toOption_eq_some_iff, pure,
    Option.some.injEq] at ready
  obtain ⟨settings, loaded, plans, planned, engine, built, unpersisted⟩ := ready
  obtain ⟨tables, tabulates, ⟨rounds, after, outcome, session, came, looked_up, prints, accounts⟩,
    -, all⟩ := lookup_accounts_for_queries loaded planned built unpersisted wait queries
  obtain ⟨accounted, few, -⟩ := all rounds after session
  have two : roundsWithin (.millis 100) = 2 := by decide
  have few : rounds.length ≤ roundsWithin (.millis 100) + 1 := few
  rw [two] at few
  exact ⟨settings, plans, engine, tables, rounds, after, outcome, loaded, planned, built,
    unpersisted, tabulates, session, came, looked_up, prints, accounts, accounted, few,
    accounts.length⟩

end CommandLine

end FlowEnrichment
