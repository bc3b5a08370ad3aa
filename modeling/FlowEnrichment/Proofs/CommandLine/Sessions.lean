import FlowEnrichment.CommandLine.Run
import FlowEnrichment.Proofs.Engine.Sleeping
import FlowEnrichment.Proofs.Engine.StaticAnswers
import Mathlib.Data.List.Chain

/-!
# Sessions of lookups

A session looks queries up in rounds, each about those that the one before it left without an
answer, while the engine goes on in the background: between any two lookups anything may have
happened to it, so of two occurrences of a query one may be answered and the other not. Whatever
happens, every round sorts its queries into answered and missing ones (`Sweep.sorts`), and so does
the session (`Session.accounted`). Between two rounds it sleeps (`Retry`), so it does not go on
after more rounds than its wait leaves time for (`Ongoing.length_le`).
-/
namespace FlowEnrichment

namespace Flow

/-- Things have happened in the background, in the course of which time has not gone back. -/
structure Passes (flow later : Flow) : Prop where
  /-- They were steps. -/
  steps : Relation.ReflTransGen Step flow later
  /-- Time has not gone back. -/
  onwards : flow.engine.now.nanos ≤ later.engine.now.nanos

/-- What has happened after a query was looked up. -/
def lookedUp (flow : Flow) (now : Timestamp) (query : Query) : Flow :=
  { flow with
    engine := (flow.engine.lookup now query).1
    attempts := flow.attempts ++ flow.engine.lookupAttempts now query }

variable {flow between later : Flow} {tables : List StaticTable}

/-- Nothing needs to happen. -/
theorem Passes.refl (flow : Flow) : Passes flow flow := ⟨.refl, Nat.le_refl _⟩

/-- More may happen after that. -/
theorem Passes.trans (first : Passes flow between) (second : Passes between later) :
    Passes flow later :=
  ⟨first.steps.trans second.steps, Nat.le_trans first.onwards second.onwards⟩

/-- A lookup takes no time. -/
theorem lookedUp_steady (flow : Flow) (now : Timestamp) (query : Query) :
    Engine.Steady flow.engine (flow.lookedUp now query).engine :=
  (Happens.lookup flow now query).steady nofun nofun

/-- A lookup may happen. -/
theorem passes_lookedUp (flow : Flow) (now : Timestamp) (query : Query) :
    Passes flow (flow.lookedUp now query) :=
  ⟨.single (.lookup flow now query),
    Nat.le_of_eq (congrArg Instant.nanos (lookedUp_steady flow now query).now).symm⟩

/-- Whatever happens leaves an engine with answers of the chain only. -/
theorem Passes.faithful (passes : Passes flow later) (faithful : flow.engine.Faithful tables) :
    later.engine.Faithful tables := by
  obtain ⟨steps, -⟩ := passes
  induction steps with
  | refl => exact faithful
  | tail _ step ih => exact faithful_step ih step

end Flow

namespace CommandLine

open FlowEnrichment.Flow StaticTable

/-! ## Rounds -/

/-- What a round of lookups made of its queries. -/
structure Round where
  /-- The queries that it was about. -/
  pending : List Query
  /-- The queries that were answered, each with its answer. -/
  answered : List (Query × Answer)
  /-- The other queries. -/
  missing : List Query

/-- A round sorts its queries, each of which is answered or missing. -/
structure Round.Sorts (round : Round) : Prop where
  /-- Every occurrence of a query is answered or missing, and not both. -/
  once : (round.answered.map Prod.fst ++ round.missing).Perm round.pending
  /-- The answered ones keep their order. -/
  answers : (round.answered.map Prod.fst).Sublist round.pending
  /-- The missing ones keep their order. -/
  order : round.missing.Sublist round.pending

/-- Looks queries up one after the other, each at some time of the wall clock, while anything may
happen in the background. -/
inductive Sweep : Flow → Round → Flow → Prop where
  /-- There is no other query. -/
  | finish {flow after : Flow} (background : Passes flow after) : Sweep flow ⟨[], [], []⟩ after
  /-- The next query is answered. -/
  | hit {flow ready after : Flow} {query : Query} {answer : Answer} {now : Timestamp}
      {round : Round} (background : Passes flow ready)
      (found : (ready.engine.lookup now query).2 = some answer)
      (rest : Sweep (ready.lookedUp now query) round after) :
      Sweep flow
        ⟨query :: round.pending, (query, answer) :: round.answered, round.missing⟩ after
  /-- The next query is not answered. -/
  | miss {flow ready after : Flow} {query : Query} {now : Timestamp} {round : Round}
      (background : Passes flow ready) (missing : (ready.engine.lookup now query).2 = none)
      (rest : Sweep (ready.lookedUp now query) round after) :
      Sweep flow ⟨query :: round.pending, round.answered, query :: round.missing⟩ after

variable {flow later after : Flow} {round : Round} {rounds : List Round}
  {queries pending : List Query} {deadline : Instant} {tables : List StaticTable}

/-- A round sorts its queries, whatever happens. -/
theorem Sweep.sorts (sweep : Sweep flow round after) : round.Sorts := by
  induction sweep with
  | finish _ => exact ⟨.refl _, .refl _, .refl _⟩
  | @hit _ _ _ query _ _ _ _ _ _ sorts =>
    exact ⟨sorts.once.cons query, sorts.answers.cons_cons query, sorts.order.cons query⟩
  | @miss _ _ _ query _ _ _ _ _ sorts =>
    exact ⟨List.perm_middle.trans (sorts.once.cons query), sorts.answers.cons query,
      sorts.order.cons_cons query⟩

/-- A round is something that happens. -/
theorem Sweep.passes (sweep : Sweep flow round after) : Passes flow after := by
  induction sweep with
  | finish background => exact background
  | hit background _ _ ih => exact (background.trans (passes_lookedUp _ _ _)).trans ih
  | miss background _ _ ih => exact (background.trans (passes_lookedUp _ _ _)).trans ih

/-- A round finds answers of the chain only. -/
theorem Sweep.right (sweep : Sweep flow round after) (faithful : flow.engine.Faithful tables) :
    ∀ found ∈ round.answered, ChainGives tables found.1 found.2 := by
  induction sweep with
  | finish _ => exact List.forall_mem_nil _
  | hit background found _ ih =>
    have ready := background.faithful faithful
    rw [List.forall_mem_cons]
    exact ⟨chainAnswer?_eq_some_iff.1 (ready.of_lookup found), ih (ready.lookup _ _)⟩
  | miss background _ _ ih => exact ih ((background.faithful faithful).lookup _ _)

/-! ## Sessions -/

/-- A round of lookups that is not the last: queries are missing and the deadline has not passed, so
there is a sleep after it. -/
inductive Retry (deadline : Instant) : Flow → Round → Flow → Prop where
  /-- The round and the sleep. -/
  | sleep {flow between later : Flow} {round : Round} (sweep : Sweep flow round between)
      (some_missing : round.missing ≠ []) (early : between.engine.now.nanos < deadline.nanos)
      (background : Passes between later)
      (slept : between.engine.now.nanos + pollInterval.nanos ≤ later.engine.now.nanos) :
      Retry deadline flow round later

/-- Looks queries up in rounds until none is missing or the deadline has passed. -/
inductive Session (deadline : Instant) : List Query → Flow → List Round → Flow → Prop where
  /-- There is no other round. -/
  | last {queries : List Query} {flow after : Flow} {round : Round}
      (about : round.pending = queries) (sweep : Sweep flow round after)
      (ends : round.missing = [] ∨ deadline.nanos ≤ after.engine.now.nanos) :
      Session deadline queries flow [round] after
  /-- Another round is about the missing queries. -/
  | more {queries : List Query} {flow later after : Flow} {round : Round} {rounds : List Round}
      (about : round.pending = queries) (retry : Retry deadline flow round later)
      (rest : Session deadline round.missing later rounds after) :
      Session deadline queries flow (round :: rounds) after

/-- A session that has had rounds, none of which was its last, and goes on with other queries. -/
inductive Ongoing (deadline : Instant) :
    List Query → Flow → List Round → List Query → Flow → Prop where
  /-- It has had none. -/
  | fresh {queries : List Query} {flow : Flow} : Ongoing deadline queries flow [] queries flow
  /-- It went on after another one. -/
  | more {queries pending : List Query} {flow later after : Flow} {round : Round}
      {rounds : List Round} (about : round.pending = queries)
      (retry : Retry deadline flow round later)
      (rest : Ongoing deadline round.missing later rounds pending after) :
      Ongoing deadline queries flow (round :: rounds) pending after

/-- The queries that were answered in rounds, each with its answer. -/
def answered (rounds : List Round) : List (Query × Answer) := rounds.flatMap Round.answered

/-- The queries that the last of several rounds left without an answer. -/
def left (rounds : List Round) : List Query := (rounds.getLast?.map Round.missing).getD []

/-- Rounds account for all queries, with answers of a chain of tables. -/
structure Accounted (tables : List StaticTable) (queries : List Query) (rounds : List Round) :
    Prop where
  /-- The first round is about all of them. -/
  first : rounds.head?.map Round.pending = some queries
  /-- Every other round is about those that are missing after the one before it. -/
  linked : rounds.IsChain fun earlier later => later.pending = earlier.missing
  /-- Every round sorts its queries. -/
  sorts : ∀ round ∈ rounds, round.Sorts
  /-- Every occurrence of a query is answered once or left in the end, and not both. -/
  once : ((answered rounds).map Prod.fst ++ left rounds).Perm queries
  /-- Those that are left keep their order. -/
  order : (left rounds).Sublist queries
  /-- The answers are those of the chain. -/
  right : ∀ found ∈ answered rounds, ChainGives tables found.1 found.2

/-- What is left in the end is what the rounds after the first leave. -/
theorem left_cons (round : Round) (some_round : rounds ≠ []) :
    left (round :: rounds) = left rounds := by
  unfold left
  rw [List.getLast?_cons_of_ne_nil some_round]

/-- A session has a round. -/
theorem Session.ne_nil (session : Session deadline queries flow rounds after) : rounds ≠ [] := by
  cases session <;> exact List.cons_ne_nil _ _

/-! ### What comes of the queries -/

/-- A round before the last sorts its queries, too. -/
theorem Retry.sorts (retry : Retry deadline flow round later) : round.Sorts := by
  cases retry with
  | sleep sweep _ _ _ _ => exact sweep.sorts

/-- It finds answers of the chain only, and leaves the engine with none but those. -/
theorem Retry.right (retry : Retry deadline flow round later)
    (faithful : flow.engine.Faithful tables) :
    (∀ found ∈ round.answered, ChainGives tables found.1 found.2) ∧
      later.engine.Faithful tables := by
  cases retry with
  | sleep sweep _ _ background _ =>
    exact ⟨sweep.right faithful, background.faithful (sweep.passes.faithful faithful)⟩

/-- A session accounts for its queries. -/
theorem Session.accounted (session : Session deadline queries flow rounds after)
    (faithful : flow.engine.Faithful tables) : Accounted tables queries rounds := by
  induction session with
  | @last queries flow after round about sweep _ =>
    subst about
    have sorts := sweep.sorts
    have alone : answered [round] = round.answered := List.flatMap_singleton _ _
    refine ⟨rfl, .singleton _, List.forall_mem_singleton.2 sorts, ?_, sorts.order, ?_⟩
    · rw [alone]
      exact sorts.once
    · rw [alone]
      exact sweep.right faithful
  | @more queries flow later after round rounds about retry rest ih =>
    subst about
    have sorts := retry.sorts
    obtain ⟨right, faithful⟩ := retry.right faithful
    have others := ih faithful
    have both : answered (round :: rounds) = round.answered ++ answered rounds :=
      List.flatMap_cons
    refine ⟨rfl, ?_, List.forall_mem_cons.2 ⟨sorts, others.sorts⟩, ?_, ?_, ?_⟩
    · refine List.isChain_cons.2 ⟨fun next second => ?_, others.linked⟩
      have first := others.first
      rw [second] at first
      exact Option.some.inj first
    · rw [both, left_cons round rest.ne_nil, List.map_append, List.append_assoc]
      exact (others.once.append_left _).trans sorts.once
    · rw [left_cons round rest.ne_nil]
      exact others.order.trans sorts.order
    · rw [both]
      exact List.forall_mem_append.2 ⟨right, others.right⟩

/-- If a query is left, the deadline has passed. -/
theorem Session.deadline_le (session : Session deadline queries flow rounds after)
    (some_left : left rounds ≠ []) : deadline.nanos ≤ after.engine.now.nanos := by
  induction session with
  | last _ _ ends => exact ends.resolve_left some_left
  | more _ _ rest ih =>
    rw [left_cons _ rest.ne_nil] at some_left
    exact ih some_left

/-! ### How long sessions last -/

/-- After a round and a sleep there is time for one round less. -/
theorem Retry.roundsWithin_lt (retry : Retry deadline flow round later) :
    roundsWithin ⟨deadline.nanos - later.engine.now.nanos⟩ <
      roundsWithin ⟨deadline.nanos - flow.engine.now.nanos⟩ := by
  cases retry with
  | sleep sweep _ early _ slept =>
    have onwards := sweep.passes.onwards
    simp only [roundsWithin, pollInterval, Duration.millis] at slept ⊢
    omega

/-- A session does not go on after more rounds than the time before its deadline leaves room for. -/
theorem Ongoing.length_le (ongoing : Ongoing deadline queries flow rounds pending after) :
    rounds.length ≤ roundsWithin ⟨deadline.nanos - flow.engine.now.nanos⟩ := by
  induction ongoing with
  | fresh => exact Nat.zero_le _
  | more _ retry _ ih =>
    rw [List.length_cons]
    exact Nat.le_trans (Nat.succ_le_succ ih) retry.roundsWithin_lt

/-- A session goes on until its last round. -/
theorem Session.ongoing (session : Session deadline queries flow rounds after) :
    ∃ earlier last pending later, rounds = earlier ++ [last] ∧
      Ongoing deadline queries flow earlier pending later ∧ Sweep later last after := by
  induction session with
  | last _ sweep _ => exact ⟨[], _, _, _, rfl, .fresh, sweep⟩
  | more about retry _ ih =>
    obtain ⟨earlier, last, pending, later, rfl, ongoing, final⟩ := ih
    exact ⟨_ :: earlier, last, pending, later, rfl, .more about retry ongoing, final⟩

/-- So it has at most one round more. -/
theorem Session.length_le (session : Session deadline queries flow rounds after) :
    rounds.length ≤ roundsWithin ⟨deadline.nanos - flow.engine.now.nanos⟩ + 1 := by
  obtain ⟨earlier, last, pending, later, rfl, ongoing, -⟩ := session.ongoing
  rw [List.length_append]
  exact Nat.succ_le_succ ongoing.length_le

end CommandLine

end FlowEnrichment
