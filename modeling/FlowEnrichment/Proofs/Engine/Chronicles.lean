import FlowEnrichment.Proofs.Engine.Effects
import FlowEnrichment.Proofs.Engine.Life
import FlowEnrichment.Proofs.Store.Histories

/-!
# The history of a cache

The cache of an engine is a store, and whatever happens to the engine does a few operations on it:
a lookup reads, maintenance deletes, what providers report is written at the time of the wall clock,
and the start replaces all entries or none (`Flow.Permits`). So in the life of an engine the cache
has a history of operations (`Flow.Chronicle`), from which everything about it follows.
-/
namespace FlowEnrichment

/-- An operation on the entries of a cache. -/
abbrev CacheOperation := Store.Operation Query Answer

/-- The operations by which updates are written at a time. -/
def Update.writes (clock : Timestamp) (updates : List Update) : List CacheOperation :=
  updates.map fun update => .put clock update.query update.answer

namespace Store

variable {κ ν : Type} [DecidableEq κ]

/-- The store after more operations. -/
def through (operations : List (Operation κ ν)) (store : Store κ ν) : Store κ ν :=
  operations.foldl (fun store operation => operation.apply store) store

/-- Operations may be done in two parts. -/
theorem through_append (first second : List (Operation κ ν)) (store : Store κ ν) :
    through (first ++ second) store = through second (through first store) :=
  List.foldl_append

end Store

namespace Engine

open Store (through)

variable {before between after engine : Engine}

/-! ## What is written -/

/-- The cache was written to at the time of the wall clock, which stands still, and not changed
otherwise. -/
def Stores (before after : Engine) : Prop :=
  after.around.clock = before.around.clock ∧
    ∃ updates, after.cache.store =
      through (Update.writes before.around.clock updates) before.cache.store

/-- What leaves the cache and the clock alone writes nothing. -/
theorem stores_of_eq (clock : after.around.clock = before.around.clock)
    (cache : after.cache = before.cache) : Stores before after :=
  ⟨clock, [], by rw [cache]; rfl⟩

/-- What is written in two parts is written. -/
theorem Stores.trans (first : Stores before between) (second : Stores between after) :
    Stores before after := by
  obtain ⟨clock, updates, written⟩ := first
  obtain ⟨clock', updates', written'⟩ := second
  refine ⟨clock'.trans clock, updates ++ updates', ?_⟩
  rw [written', written, clock, Update.writes, Update.writes, Update.writes, List.map_append,
    Store.through_append]

/-- An update is written. -/
theorem stores_store (engine : Engine) (update : Update) : Stores engine (engine.store update) :=
  ⟨rfl, [update], rfl⟩

/-- Late updates are written. -/
theorem stores_foldl (due : List (Instant × Update)) (engine : Engine) :
    Stores engine (due.foldl (fun engine (_, update) => engine.store update) engine) := by
  induction due generalizing engine with
  | nil => exact stores_of_eq rfl rfl
  | cons first due ih => exact (stores_store engine first.2).trans (ih _)

/-- What comes of a rejection writes nothing. -/
theorem stores_reject (engine : Engine) (exporter : Address) :
    Stores engine (engine.reject exporter) := by
  unfold reject
  dsimp only
  split <;> exact stores_of_eq rfl rfl

/-- The record of an outcome writes nothing. -/
theorem stores_conclude (engine : Engine) (batch : BatchQuery) (outcome : Except Failure Unit) :
    Stores engine (engine.conclude batch outcome) := by
  unfold conclude
  split
  · exact stores_of_eq rfl rfl
  · exact stores_reject engine batch.exporter
  · exact stores_of_eq rfl rfl
  · exact stores_of_eq rfl rfl

/-- A query that ends writes nothing. -/
theorem stores_finish (engine : Engine) (batch : BatchQuery) (outcome : Except Failure Unit) :
    Stores engine (engine.finish batch outcome) := by
  unfold finish
  dsimp only
  split
  · exact stores_of_eq rfl rfl
  · have concluded := stores_conclude { engine with
      breakers := (engine.breakers.record batch.exporter engine.now outcome.isOk).table }
      batch outcome
    exact ⟨concluded.1, concluded.2⟩

/-- A job that goes on writes what its providers report. -/
theorem stepwise_stores : Stepwise Stores where
  refl _ := stores_of_eq rfl rfl
  trans := Stores.trans
  around _ _ _ _ _ := stores_of_eq rfl rfl
  store := stores_store
  reports _ _ := stores_of_eq rfl rfl

/-- A worker that resumes a job writes what its providers report. -/
theorem stores_resume (engine : Engine) (job : Job) : Stores engine (engine.resume job) := by
  unfold resume
  split
  · exact stores_finish engine _ _
  · have stores := stepwise_stores.advance engine job
    cases advanced : engine.advance job with
    | mk reached progress =>
      rw [advanced] at stores
      cases progress with
      | answered outcome => exact stores.trans (stores_finish reached _ _)
      | crashed => exact stores.trans (stores_of_eq rfl rfl)
      | waits later =>
        dsimp only
        split
        · exact stores.trans (stores_finish reached _ _)
        · exact stores.trans (stores_of_eq rfl rfl)

/-- A worker that begins with a batch writes nothing. -/
theorem stores_undertake (engine : Engine) (batch : BatchQuery) :
    Stores engine (engine.undertake batch) := by
  unfold undertake
  split
  case h_1 => exact stores_of_eq rfl rfl
  case h_2 => exact (stores_of_eq rfl rfl).trans (stores_finish _ batch (.ok ()))
  case h_3 _ breakers _ =>
    have rejected := stores_reject { engine with breakers } batch.exporter
    exact ⟨rejected.1, rejected.2⟩

/-- Every action but maintenance writes what providers report. -/
theorem stores_step {action : Action} (other : action ≠ .maintain)
    (taken : engine.step? action = some after) : Stores engine after := by
  cases action with
  | prepare =>
    obtain ⟨maintenance, crashed, rfl⟩ := step_prepare taken
    exact stores_of_eq rfl rfl
  | join =>
    obtain ⟨-, -, rfl⟩ := step_join taken
    exact stores_of_eq rfl rfl
  | seek =>
    obtain ⟨-, -, -, rfl⟩ := step_seek taken
    exact stores_of_eq rfl rfl
  | listen =>
    obtain ⟨-, -, _, _, -, _, _, -, ⟨_, _, -, rfl⟩ | ⟨-, rfl⟩⟩ := step_listen taken
    · exact stores_of_eq rfl rfl
    · exact stores_of_eq rfl rfl
  | deliver =>
    obtain ⟨-, _, _, -, -, _, _, rfl, -⟩ := step_deliver taken
    exact stores_of_eq rfl rfl
  | claim =>
    obtain ⟨-, _, _, -, -, rfl⟩ := step_claim taken
    exact stores_of_eq rfl rfl
  | take =>
    obtain ⟨-, batch, channel, -, -, rfl⟩ := step_take taken
    exact (stores_of_eq rfl rfl).trans (stores_undertake _ batch)
  | work position =>
    obtain ⟨job, -, rfl⟩ := step_work taken
    exact (stores_of_eq rfl rfl).trans (stores_resume _ job)
  | report =>
    obtain ⟨due, later, -, -, rfl⟩ := step_report taken
    exact (stores_of_eq rfl rfl).trans (stores_foldl due _)
  | maintain => exact absurd rfl other

/-! ## What is deleted -/

/-- Maintenance leaves the clock alone. -/
theorem maintain_clock (engine : Engine) (now : Timestamp) :
    (engine.maintain now).1.around.clock = engine.around.clock := by
  obtain ⟨queue, around, maintained, served⟩ := engine.maintain_parts now
  rw [maintained]
  cases served
  rfl

/-- The deletion of what has expired. -/
def expiry (engine : Engine) (now : Timestamp) : CacheOperation :=
  .deleteAccessedBefore (since now engine.config.cacheDuration)

/-- Maintenance deletes what has expired. -/
theorem maintain_store (engine : Engine) (now : Timestamp) :
    (engine.maintain now).1.cache.store = (engine.expiry now).apply engine.cache.store := by
  obtain ⟨queue, around, maintained, -⟩ := engine.maintain_parts now
  rw [maintained]
  rfl

/-- Maintenance runs at the time of the wall clock delete what has expired by then. -/
theorem maintainTimes_store (count : Nat) (engine : Engine) :
    (maintainTimes count engine).cache.store =
      through (List.replicate count (engine.expiry engine.around.clock)) engine.cache.store := by
  induction count generalizing engine with
  | zero => rfl
  | succ count ih =>
    obtain ⟨queue, around, maintained, -⟩ := engine.maintain_parts engine.around.clock
    have same : (engine.maintain engine.around.clock).1.expiry
        (engine.maintain engine.around.clock).1.around.clock =
        engine.expiry engine.around.clock := by
      rw [maintain_clock, maintained]
      rfl
    rw [maintainTimes, ih, same, maintain_store, List.replicate_succ]
    rfl

/-! ## What is read and replaced -/

/-- A lookup reads. -/
theorem lookup_store (engine : Engine) (now : Timestamp) (query : Query) :
    (engine.lookup now query).1.cache.store =
      (Store.Operation.get now query).apply engine.cache.store := by
  obtain ⟨queue, around, answered, -⟩ := engine.lookup_parts now query
  rw [answered]
  show (engine.cache.lookup now query).1.store = (engine.cache.store.get now query).1
  unfold Cache.lookup
  cases engine.cache.store.get now query with
  | mk store answer => cases answer <;> rfl

/-- The start leaves the entries as they are or replaces all of them. -/
theorem start_store (engine : Engine) :
    engine.start.1.cache.store = engine.cache.store ∨
      ∃ entries, engine.start.1.cache.store = Store.ofStored entries := by
  have loaded : engine.loadCache.cache.store = engine.cache.store ∨
      ∃ entries, engine.loadCache.cache.store = Store.ofStored entries := by
    unfold loadCache
    split
    · exact .inl rfl
    · next path _ =>
      unfold Cache.load
      cases Store.load Cache.format engine.around.files path with
      | ok store => exact .inr ⟨store.stored, (Store.ofStored_stored store).symm⟩
      | error failure => exact .inl rfl
  unfold start
  split
  · exact loaded
  · exact .inl rfl
  · exact .inl rfl
  · exact .inl rfl

end Engine

/-! ## Histories -/

namespace Flow

open Engine
open Store (through)

variable {config : Configuration} {plans : List ProviderPlan} {counters : CacheCounters}
  {around : Surroundings} {trace : Trace} {flow after : Flow}

/-- Operations on the cache may be all that something that happens does to it. -/
def Permits (flow : Flow) (operations : List CacheOperation) : Happening → Prop
  | .start => operations = [] ∨ ∃ entries, operations = [.replace entries]
  | .lookup now query => operations = [.get now query]
  | .maintain now => operations = [flow.engine.expiry now]
  | .report update => operations = Update.writes flow.engine.around.clock [update]
  | .act .maintain => ∃ count,
      operations = List.replicate count (flow.engine.expiry flow.engine.around.clock)
  | .act _ => ∃ updates, operations = Update.writes flow.engine.around.clock updates
  | .pass | .halt | .close | .request _ | .gather | .recast => operations = []

/-- Whatever happens does to the cache what it may. -/
theorem Happens.permits {happening : Happening} (happens : Happens happening flow after) :
    ∃ operations, flow.Permits operations happening ∧
      after.engine.cache.store = through operations flow.engine.cache.store := by
  cases happens with
  | pass _ => exact ⟨[], rfl, rfl⟩
  | start =>
    rcases flow.engine.start_store with same | ⟨entries, replaced⟩
    · exact ⟨[], .inl rfl, same⟩
    · exact ⟨_, .inr ⟨entries, rfl⟩, replaced⟩
  | halt =>
    obtain ⟨phase, queue, halted⟩ := flow.engine.halt_parts
    refine ⟨[], rfl, ?_⟩
    dsimp only
    rw [halted]
    rfl
  | close =>
    obtain ⟨files, events, closed⟩ := flow.engine.close_parts
    refine ⟨[], rfl, ?_⟩
    dsimp only
    rw [closed]
    rfl
  | lookup _ now query => exact ⟨_, rfl, flow.engine.lookup_store now query⟩
  | maintain _ now => exact ⟨_, rfl, flow.engine.maintain_store now⟩
  | request _ query =>
    obtain ⟨queue, around, queued, -⟩ := flow.engine.enqueue_parts query
    refine ⟨[], rfl, ?_⟩
    dsimp only
    rw [queued]
    rfl
  | report _ update => exact ⟨_, rfl, rfl⟩
  | @act _ action reached _ taken =>
    by_cases ticks : action = .maintain
    · subst ticks
      obtain ⟨deadline, -, -, rfl⟩ := step_maintain taken
      obtain ⟨count, next, -, served⟩ := flow.engine.serveTicks_eq deadline
      refine ⟨_, ⟨count, rfl⟩, ?_⟩
      show (flow.engine.serveTicks deadline).cache.store = _
      rw [served]
      exact maintainTimes_store count flow.engine
    · obtain ⟨-, updates, written⟩ := stores_step ticks taken
      refine ⟨_, ?_, written⟩
      cases action with
      | maintain => exact absurd rfl ticks
      | _ => exact ⟨updates, rfl⟩
  | gather gathering => cases gathering <;> exact ⟨[], rfl, rfl⟩
  | recast _ => exact ⟨[], rfl, rfl⟩

/-- A history of the cache is one of operations that may be all that has happened to it. -/
inductive Chronicle : Trace → List CacheOperation → Prop where
  /-- Nothing has happened. -/
  | nil : Chronicle [] []
  /-- One more thing has happened, which did some operations. -/
  | next {trace : Trace} {history operations : List CacheOperation} {before : Flow}
      {happening : Happening} (chronicle : Chronicle trace history)
      (permits : before.Permits operations happening) :
      Chronicle (trace ++ [(before, happening)]) (history ++ operations)

/-- The cache of an engine has a history. -/
theorem Run.chronicle (run : Run config plans counters around trace flow) :
    ∃ history, Chronicle trace history ∧ flow.engine.cache.store = Store.after history := by
  induction run with
  | built built =>
    obtain ⟨-, providers, -, rfl⟩ := build_eq_ok built
    exact ⟨[], .nil, rfl⟩
  | next _ happens ih =>
    obtain ⟨history, chronicle, reached⟩ := ih
    obtain ⟨operations, permits, done⟩ := happens.permits
    refine ⟨history ++ operations, chronicle.next permits, ?_⟩
    rw [done, reached]
    exact (Store.through_append history operations .empty).symm

end Flow

end FlowEnrichment
