import FlowEnrichment.Proofs.Engine.Coalescing
import FlowEnrichment.Proofs.Engine.Queueing

/-!
# Requests on their way

No request is lost, duplicated or moved before another one of its exporter on the way from the
queue through the dispatcher to the workers. `Flow.Step` lets everything happen to an engine in
any order until it is stopped; the dispatcher gathers a round request by request, and others may
go on between two of them. `Flow.Conserved` is the invariant, kept by every step.
-/
namespace FlowEnrichment

open Coalesce

/-- The batches that the dispatcher holds, in the order in which it will send them. -/
def Dispatcher.held : Dispatcher → List BatchQuery
  | .seeking | .listening => []
  | .delivering batch rest | .claiming batch rest => batch :: rest

/-- An engine with the history of its requests. -/
structure Flow where
  /-- The engine. -/
  engine : Engine
  /-- The round that the dispatcher gathers, if any, and the size of its batch that grew last. -/
  gathering : Option (List BatchQuery × Nat) := none
  /-- The attempts to queue a request so far. -/
  attempts : List Attempt := []
  /-- The batches sent to the workers so far. -/
  sent : List BatchQuery := []

namespace Flow

/-- The batches that the dispatcher holds: those it gathers, and those it will send. -/
def held (flow : Flow) : List BatchQuery :=
  (flow.gathering.map Prod.fst).getD [] ++ flow.engine.dispatcher.held

/-- Whether the round that the dispatcher gathers takes no more requests. -/
def isFull (flow : Flow) (size : Nat) (round : List BatchQuery) : Bool :=
  Coalesce.isFull flow.engine.config.maxBatchRequests.toNat size round

/-- What has happened after an action of the engine: its attempts were made, and what came to the
end of the channel was sent. -/
def afterAction (flow : Flow) (action : Engine.Action) (after : Engine) : Flow :=
  { flow with
    engine := after
    attempts := flow.attempts ++ flow.engine.actionAttempts action
    sent := flow.sent ++ after.channel.drop flow.engine.channel.length }

/-- One thing that the dispatcher does while it gathers a round. -/
inductive Gathering : Flow → Flow → Prop where
  /-- It takes the first request of a round. -/
  | first {flow : Flow} {query : Query} {queue : List Query} (free : flow.gathering = none)
      (running : flow.engine.phase = .running) (listening : flow.engine.dispatcher = .listening)
      (waiting : flow.engine.queue = query :: queue) :
      Gathering flow
        { flow with
          engine := { flow.engine with queue }, gathering := some (add query []) }
  /-- It takes one more request for a round that is not full. -/
  | more {flow : Flow} {round : List BatchQuery} {size : Nat} {query : Query}
      {queue : List Query} (gathering : flow.gathering = some (round, size))
      (unfilled : flow.isFull size round = false) (waiting : flow.engine.queue = query :: queue) :
      Gathering flow
        { flow with
          engine := { flow.engine with queue }, gathering := some (add query round) }
  /-- It ends a round that is full, or for which nothing waits any more. -/
  | close {flow : Flow} {batch : BatchQuery} {rest : List BatchQuery} {size : Nat}
      (gathering : flow.gathering = some (batch :: rest, size))
      (ended : flow.isFull size (batch :: rest) = true ∨ flow.engine.queue = []) :
      Gathering flow
        { flow with
          engine := { flow.engine with dispatcher := .delivering batch rest }, gathering := none }

/-- One thing that happens to an engine that is not stopped. -/
inductive Step : Flow → Flow → Prop where
  /-- Something changes around the engine that is not counted, such as the time. -/
  | pass {flow : Flow} {around : Surroundings}
      (counted : around.totals = flow.engine.around.totals) :
      Step flow { flow with engine := { flow.engine with around } }
  /-- The engine is started. -/
  | start {flow : Flow} (ready : flow.engine.phase = .ready) :
      Step flow { flow with engine := flow.engine.start.1 }
  /-- A request is queued, be it by a lookup or by maintenance, while others go on. -/
  | request (flow : Flow) (query : Query) :
      Step flow
        { flow with
          engine := (flow.engine.enqueue query).1
          attempts := flow.attempts ++ [flow.engine.attempt query] }
  /-- A query is looked up. -/
  | lookup (flow : Flow) (now : Timestamp) (query : Query) :
      Step flow
        { flow with
          engine := (flow.engine.lookup now query).1
          attempts := flow.attempts ++ flow.engine.lookupAttempts now query }
  /-- Maintenance runs. -/
  | maintain (flow : Flow) (now : Timestamp) :
      Step flow
        { flow with
          engine := (flow.engine.maintain now).1
          attempts := flow.attempts ++ flow.engine.maintainAttempts now }
  /-- A part of the engine takes an action; no round begins while another is gathered. -/
  | act {flow : Flow} {action : Engine.Action} {after : Engine}
      (free : flow.gathering = none ∨ action ≠ .listen)
      (taken : flow.engine.step? action = some after) :
      Step flow (flow.afterAction action after)
  /-- The dispatcher gathers a round request by request. -/
  | gather {flow after : Flow} (gathering : Gathering flow after) : Step flow after

/-- What can be reached from an engine as it was built. -/
inductive Reachable (config : Configuration) (plans : List ProviderPlan) (counters : CacheCounters)
    (around : Surroundings) : Flow → Prop where
  /-- The engine was built. -/
  | built {engine : Engine} (built : Engine.build config plans counters around = .ok engine) :
      Reachable config plans counters around { engine }
  /-- One more thing has happened. -/
  | step {before after : Flow} (reachable : Reachable config plans counters around before)
      (step : Step before after) : Reachable config plans counters around after
  /-- From now on the providers answer otherwise, as they may if they have a state of their own. -/
  | recast {flow : Flow} {providers : List Provider}
      (reachable : Reachable config plans counters around flow)
      (same : providers.map Provider.name = flow.engine.names) :
      Reachable config plans counters around
        { flow with engine := flow.engine.recast providers }

/-! ## The invariant -/

/-- The requests of every exporter are accounted for, each in one place. -/
structure Conserved (capacity : Nat) (busy : ExporterTotals) (flow : Flow) : Prop where
  /-- The queue has the capacity. -/
  limit : flow.engine.config.queueCapacity = capacity
  /-- The engine is not stopped. -/
  running : flow.engine.phase ≠ .stopped
  /-- The queue does not hold more than its capacity. -/
  room : flow.engine.queue.length ≤ capacity
  /-- Every attempt was turned away by a full queue or accepted by another. -/
  fair : ∀ attempt ∈ flow.attempts, attempt.Fair capacity
  /-- Every attempt that was turned away was counted once for its exporter. -/
  counted : ∀ exporter, flow.engine.around.totals.busy.of exporter =
    busy.of exporter + (Attempt.refusedOf exporter flow.attempts).length
  /-- A round is gathered by a dispatcher that holds no other. -/
  single : flow.gathering ≠ none → flow.engine.dispatcher = .listening
  /-- The dispatcher holds no two batches of one exporter. -/
  distinct : Distinct flow.held
  /-- What was accepted was sent, is held or waits, in this order. -/
  order : ∀ exporter, waitingIndexes exporter (Attempt.acceptedOf flow.attempts) =
    batchIndexes exporter flow.sent ++ batchIndexes exporter flow.held ++
      waitingIndexes exporter flow.engine.queue

variable {capacity : Nat} {busy : ExporterTotals} {flow : Flow}

/-- Attempts to queue requests conserve them. -/
theorem Conserved.queued (conserved : Conserved capacity busy flow) {attempts : List Attempt}
    {after : Engine} (queued : flow.engine.Queued attempts after) :
    Conserved capacity busy
      { flow with engine := after, attempts := flow.attempts ++ attempts } where
  limit := by
    show after.config.queueCapacity = capacity
    rw [queued.config]
    exact conserved.limit
  running := by
    show after.phase ≠ .stopped
    rw [queued.phase]
    exact conserved.running
  room := by
    have room : flow.engine.queue.length ≤ flow.engine.config.queueCapacity := by
      rw [conserved.limit]
      exact conserved.room
    have later := queued.room conserved.running room
    rw [queued.config, conserved.limit] at later
    exact later
  fair attempt member := by
    have room : flow.engine.queue.length ≤ flow.engine.config.queueCapacity := by
      rw [conserved.limit]
      exact conserved.room
    rcases List.mem_append.1 member with earlier | later
    · exact conserved.fair attempt earlier
    · rw [← conserved.limit]
      exact queued.fair conserved.running room attempt later
  counted exporter := by
    show after.around.totals.busy.of exporter = _
    rw [queued.busy, conserved.counted, Attempt.length_refusedOf_append, Nat.add_assoc]
  single gathering := by
    show after.dispatcher = .listening
    rw [queued.dispatcher]
    exact conserved.single gathering
  distinct := by
    show Distinct ((flow.gathering.map Prod.fst).getD [] ++ after.dispatcher.held)
    rw [queued.dispatcher]
    exact conserved.distinct
  order exporter := by
    show waitingIndexes exporter (Attempt.acceptedOf (flow.attempts ++ attempts)) =
      batchIndexes exporter flow.sent ++
        batchIndexes exporter ((flow.gathering.map Prod.fst).getD [] ++ after.dispatcher.held) ++
        waitingIndexes exporter after.queue
    rw [queued.dispatcher, queued.queue, Attempt.acceptedOf_append, waitingIndexes_append,
      waitingIndexes_append, conserved.order, List.append_assoc _ _ (waitingIndexes _ _)]
    rfl

/-- Requests that move on from one place to the next are conserved. -/
theorem Conserved.moved (conserved : Conserved capacity busy flow) {after : Flow}
    (config : after.engine.config = flow.engine.config)
    (running : after.engine.phase ≠ .stopped)
    (totals : after.engine.around.totals.busy = flow.engine.around.totals.busy)
    (attempts : after.attempts = flow.attempts)
    (fewer : after.engine.queue.length ≤ flow.engine.queue.length)
    (single : after.gathering ≠ none → after.engine.dispatcher = .listening)
    (distinct : Distinct after.held)
    (kept : ∀ exporter, batchIndexes exporter after.sent ++ batchIndexes exporter after.held ++
        waitingIndexes exporter after.engine.queue =
      batchIndexes exporter flow.sent ++ batchIndexes exporter flow.held ++
        waitingIndexes exporter flow.engine.queue) :
    Conserved capacity busy after where
  limit := by
    rw [config]
    exact conserved.limit
  running := running
  room := Nat.le_trans fewer conserved.room
  fair := by
    rw [attempts]
    exact conserved.fair
  counted := by
    rw [attempts, totals]
    exact conserved.counted
  single := single
  distinct := distinct
  order exporter := by
    rw [attempts, kept exporter]
    exact conserved.order exporter

/-- Requests are conserved by what leaves them alone. -/
theorem Conserved.untouched (conserved : Conserved capacity busy flow) {after : Engine}
    (untouched : flow.engine.Untouched after) :
    Conserved capacity busy { flow with engine := after } := by
  have quiet := conserved.queued untouched.queued
  rw [List.append_nil] at quiet
  exact quiet

/-- An action that neither makes attempts nor sends anything changes the engine only. -/
theorem afterAction_eq {action : Engine.Action} {after : Engine} (other : action ≠ .maintain)
    (unsent : after.channel.length ≤ flow.engine.channel.length) :
    flow.afterAction action after = { flow with engine := after } := by
  rw [afterAction, flow.engine.actionAttempts_eq_nil other, List.drop_eq_nil_of_le unsent,
    List.append_nil, List.append_nil]

/-- An action that neither makes attempts nor sends anything is judged by the engine only. -/
theorem Conserved.engine_only {action : Engine.Action} {after : Engine}
    (conserved : Conserved capacity busy { flow with engine := after })
    (other : action ≠ .maintain) (unsent : after.channel.length ≤ flow.engine.channel.length) :
    Conserved capacity busy (flow.afterAction action after) := by
  rw [afterAction_eq other unsent]
  exact conserved

/-- A round is not gathered by a dispatcher that is about something else. -/
theorem Conserved.idle (conserved : Conserved capacity busy flow)
    (other : flow.engine.dispatcher ≠ .listening) : flow.gathering = none := by
  cases gathering : flow.gathering with
  | none => rfl
  | some round =>
    have listening := conserved.single (by rw [gathering]; exact Option.some_ne_none round)
    exact absurd listening other

/-- A dispatcher that gathers a round holds this round only. -/
theorem Conserved.held_of_gathering (conserved : Conserved capacity busy flow)
    {round : List BatchQuery} {size : Nat} (gathering : flow.gathering = some (round, size)) :
    flow.engine.dispatcher = .listening ∧ flow.held = round := by
  have listening : flow.engine.dispatcher = .listening := by
    apply conserved.single
    rw [gathering]
    exact Option.some_ne_none _
  refine ⟨listening, ?_⟩
  rw [held, gathering, listening]
  exact List.append_nil _

end Flow

end FlowEnrichment
