import Mathlib.Logic.Relation
import FlowEnrichment.Proofs.Engine.Requests

/-!
# The dispatcher and requests

The dispatcher moves requests from the queue into the batches of a round and the batches to the
workers, and keeps their order. What it does at once when it gathers a round comes to the same
as a number of steps between which others may go on, so only these have to be looked at.
-/
namespace FlowEnrichment.Flow

open Coalesce

variable {capacity : Nat} {busy : ExporterTotals} {flow : Flow}

/-! ## Workers found and batches sent -/

/-- A dispatcher that holds the same batches conserves requests. -/
theorem Conserved.same_held (conserved : Conserved capacity busy flow) {idle : Nat}
    {dispatcher : Dispatcher} (same : dispatcher.held = flow.engine.dispatcher.held)
    (single : flow.gathering ≠ none → dispatcher = .listening) :
    Conserved capacity busy { flow with engine := { flow.engine with idle, dispatcher } } := by
  have held_same : held { flow with engine := { flow.engine with idle, dispatcher } } =
      flow.held := by
    rw [held, held, ← same]
  refine conserved.moved rfl conserved.running rfl rfl (Nat.le_refl _) single ?_ ?_
  · rw [held_same]
    exact conserved.distinct
  · intro exporter
    rw [held_same]

/-- A dispatcher that finds a worker conserves requests. -/
theorem Conserved.seek (conserved : Conserved capacity busy flow) {after : Engine}
    (taken : flow.engine.step? .seek = some after) :
    Conserved capacity busy (flow.afterAction .seek after) := by
  obtain ⟨-, seeking, -, rfl⟩ := Engine.step_seek taken
  have same : Dispatcher.held .listening = flow.engine.dispatcher.held := by
    rw [seeking]
    rfl
  refine Conserved.engine_only ?_ (by decide) (Nat.le_refl _)
  exact conserved.same_held same fun _ => rfl

/-- A dispatcher that finds a worker for the rest of a round conserves requests. -/
theorem Conserved.claim (conserved : Conserved capacity busy flow) {after : Engine}
    (taken : flow.engine.step? .claim = some after) :
    Conserved capacity busy (flow.afterAction .claim after) := by
  obtain ⟨-, batch, rest, claiming, -, rfl⟩ := Engine.step_claim taken
  have free : flow.gathering = none := by
    apply conserved.idle
    rw [claiming]
    exact Dispatcher.noConfusion
  have same : (Dispatcher.delivering batch rest).held = flow.engine.dispatcher.held := by
    rw [claiming]
    rfl
  refine Conserved.engine_only ?_ (by decide) (Nat.le_refl _)
  exact conserved.same_held same fun gathering => absurd free gathering

/-- A batch that moves from the dispatcher to the end of the channel is conserved. -/
theorem Conserved.sent (conserved : Conserved capacity busy flow) {after : Engine}
    {batch : BatchQuery} (before : flow.engine.dispatcher.held = batch :: after.dispatcher.held)
    (config : after.config = flow.engine.config) (phase : after.phase = flow.engine.phase)
    (totals : after.around.totals.busy = flow.engine.around.totals.busy)
    (queue : after.queue = flow.engine.queue)
    (channel : after.channel = flow.engine.channel ++ [batch]) :
    Conserved capacity busy
      { flow with
        engine := after, sent := flow.sent ++ after.channel.drop flow.engine.channel.length } := by
  have free : flow.gathering = none := by
    apply conserved.idle
    intro listening
    rw [listening] at before
    cases before
  have held_before : flow.held = batch :: after.dispatcher.held := by
    rw [held, free, before]
    rfl
  rw [channel, List.drop_left]
  -- The batch leaves the front of what is held for the end of what was sent: the order is the same.
  have held_after : held { flow with engine := after, sent := flow.sent ++ [batch] } =
      after.dispatcher.held := by
    rw [held, free]
    rfl
  refine conserved.moved config ?_ totals rfl ?_ (fun gathering => absurd free gathering) ?_ ?_
  · rw [phase]
    exact conserved.running
  · exact Nat.le_of_eq (congrArg List.length queue)
  · have distinct := conserved.distinct
    rw [held_before, Distinct, List.map_cons, List.nodup_cons] at distinct
    rw [held_after]
    exact distinct.2
  · intro exporter
    rw [held_after, held_before, queue, batchIndexes_append,
      batchIndexes_cons exporter batch after.dispatcher.held, List.append_assoc (batchIndexes _ _)]

/-- A dispatcher that sends a batch conserves requests. -/
theorem Conserved.deliver (conserved : Conserved capacity busy flow) {after : Engine}
    (taken : flow.engine.step? .deliver = some after) :
    Conserved capacity busy (flow.afterAction .deliver after) := by
  obtain ⟨-, batch, rest, delivering, -, dispatcher, batched, rfl, turns⟩ :=
    Engine.step_deliver taken
  have holds_rest : dispatcher.held = rest := by
    rcases turns with ⟨rfl, rfl⟩ | ⟨next, others, rfl, rfl⟩
    · rfl
    · rfl
  have before : flow.engine.dispatcher.held = batch :: dispatcher.held := by
    rw [delivering, holds_rest]
    rfl
  rw [afterAction, Engine.actionAttempts_eq_nil _ (by decide), List.append_nil]
  exact conserved.sent before rfl rfl rfl rfl rfl

/-! ## Rounds request by request -/

/-- A dispatcher that takes a request for its round conserves requests. -/
theorem Conserved.gathered (conserved : Conserved capacity busy flow) {query : Query}
    {queue : List Query} {round : List BatchQuery}
    (listening : flow.engine.dispatcher = .listening) (held_before : flow.held = round)
    (waiting : flow.engine.queue = query :: queue) :
    Conserved capacity busy
      { flow with
        engine := { flow.engine with queue }, gathering := some (add query round) } := by
  have distinct := conserved.distinct
  rw [held_before] at distinct
  have held_after : held { flow with
      engine := { flow.engine with queue }, gathering := some (add query round) } =
      (add query round).1 := by
    show (add query round).1 ++ flow.engine.dispatcher.held = (add query round).1
    rw [listening]
    exact List.append_nil _
  refine conserved.moved rfl conserved.running rfl rfl ?_ (fun _ => listening) ?_ ?_
  · show queue.length ≤ flow.engine.queue.length
    rw [waiting, List.length_cons]
    omega
  · rw [held_after]
    exact distinct_add distinct
  · intro exporter
    rw [held_after, held_before, waiting, batchIndexes_add exporter query distinct,
      waitingIndexes_cons exporter query queue]
    simp only [List.append_assoc]

/-- A dispatcher that ends a round conserves requests. -/
theorem Conserved.closed (conserved : Conserved capacity busy flow) {batch : BatchQuery}
    {rest : List BatchQuery} {size : Nat}
    (gathering : flow.gathering = some (batch :: rest, size)) :
    Conserved capacity busy
      { flow with
        engine := { flow.engine with dispatcher := .delivering batch rest }
        gathering := none } := by
  obtain ⟨_, held_before⟩ := conserved.held_of_gathering gathering
  have held_after : held { flow with
      engine := { flow.engine with dispatcher := .delivering batch rest }
      gathering := none } = batch :: rest := rfl
  refine conserved.moved rfl conserved.running rfl rfl (Nat.le_refl _) (absurd rfl) ?_ ?_
  · rw [held_after, ← held_before]
    exact conserved.distinct
  · intro exporter
    rw [held_after, held_before]

/-- A dispatcher that gathers a round conserves requests. -/
theorem Conserved.gather (conserved : Conserved capacity busy flow) {after : Flow}
    (gathering : Gathering flow after) : Conserved capacity busy after := by
  cases gathering with
  | first free running listening waiting =>
    have nothing : flow.held = [] := by
      rw [held, free, listening]
      rfl
    exact conserved.gathered listening nothing waiting
  | more gathering unfilled waiting =>
    obtain ⟨listening, round_held⟩ := conserved.held_of_gathering gathering
    exact conserved.gathered listening round_held waiting
  | close gathering ended => exact conserved.closed gathering

/-! ## Rounds at once -/

/-- A round that was begun can be gathered to its end without a pause. -/
theorem gathers_of_gather {queue : List Query} {round : List BatchQuery} {size : Nat}
    (gathering : flow.gathering = some (round, size)) (begun : round ≠ [])
    (waiting : flow.engine.queue = queue) :
    ∃ batch rest left,
      Coalesce.gather flow.engine.config.maxBatchRequests.toNat round size queue =
          (batch :: rest, left) ∧
        Relation.ReflTransGen Gathering flow
          { flow with
            engine := { flow.engine with queue := left, dispatcher := .delivering batch rest }
            gathering := none } := by
  -- A round never gets empty again, so whatever ends it there is a batch to send first.
  induction queue generalizing flow round size with
  | nil =>
    obtain ⟨batch, rest, rfl⟩ := List.exists_cons_of_ne_nil begun
    refine ⟨batch, rest, [], rfl, ?_⟩
    rw [← waiting]
    exact .single (.close gathering (.inr waiting))
  | cons query queue ih =>
    by_cases full : flow.isFull size round = true
    · obtain ⟨batch, rest, rfl⟩ := List.exists_cons_of_ne_nil begun
      refine ⟨batch, rest, query :: queue, if_pos full, ?_⟩
      rw [← waiting]
      exact .single (.close gathering (.inl full))
    · have taken := Gathering.more gathering (Bool.not_eq_true _ ▸ full) waiting
      have grown : Flow.gathering { flow with
          engine := { flow.engine with queue }, gathering := some (add query round) } =
          some (add query round) := rfl
      obtain ⟨batch, rest, left, gathered, reached⟩ := ih grown (add_ne_nil query round) rfl
      exact ⟨batch, rest, left, (if_neg full).trans gathered, .head taken reached⟩

/-- What the dispatcher does when it gathers a round at once, it can do request by request. -/
theorem gathers_of_listen {after : Engine} (free : flow.gathering = none)
    (taken : flow.engine.step? .listen = some after) :
    Relation.ReflTransGen Gathering flow (flow.afterAction .listen after) := by
  obtain ⟨engine, gathering, attempts, sent⟩ := flow
  cases free
  obtain ⟨running, listening, first, queue, waiting, round, left, gathered, turns⟩ :=
    Engine.step_listen taken
  have begun : Gathering ⟨engine, none, attempts, sent⟩
      ⟨{ engine with queue }, some (add first []), attempts, sent⟩ :=
    .first rfl running listening waiting
  have grown : Flow.gathering ⟨{ engine with queue }, some (add first []), attempts, sent⟩ =
      some (add first []) := rfl
  obtain ⟨batch, rest, left', gathered', reached⟩ :=
    gathers_of_gather grown (add_ne_nil first []) rfl
  obtain ⟨rfl, rfl⟩ := Prod.mk.inj (gathered'.symm.trans gathered)
  have ended : after = { engine with queue := left', dispatcher := .delivering batch rest } := by
    rcases turns with ⟨_, _, same, ended⟩ | ⟨none_left, -⟩
    · cases same
      exact ended
    · cases none_left
  have unsent : after.channel.length ≤ engine.channel.length :=
    Nat.le_of_eq (congrArg (·.channel.length) ended)
  rw [afterAction_eq (by decide) unsent, ended]
  exact .head begun reached

/-- A dispatcher that gathers for a while conserves requests. -/
theorem Conserved.gathers (conserved : Conserved capacity busy flow) {after : Flow}
    (run : Relation.ReflTransGen Gathering flow after) : Conserved capacity busy after := by
  induction run with
  | refl => exact conserved
  | tail _ gathering ih => exact ih.gather gathering

/-- A dispatcher that gathers a round at once conserves requests. -/
theorem Conserved.listen (conserved : Conserved capacity busy flow) {after : Engine}
    (free : flow.gathering = none) (taken : flow.engine.step? .listen = some after) :
    Conserved capacity busy (flow.afterAction .listen after) :=
  conserved.gathers (gathers_of_listen free taken)

end FlowEnrichment.Flow
