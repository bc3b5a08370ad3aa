import FlowEnrichment.Proofs.Engine.Parts

/-!
# What work leaves alone

Workers, providers, late reports and the expiry of entries have nothing to do with requests on
their way: `Untouched` lists the parts of an engine in which requests are kept and counted, and
every operation here leaves them as they are, because it changes other parts only.
-/
namespace FlowEnrichment.Engine

/-- Nothing has happened to requests on their way, nor to what decides about them. -/
structure Untouched (before after : Engine) : Prop where
  /-- The tunables are the same. -/
  config : after.config = before.config
  /-- The engine is where it was in its life. -/
  phase : after.phase = before.phase
  /-- The same requests wait. -/
  queue : after.queue = before.queue
  /-- The dispatcher is about the same. -/
  dispatcher : after.dispatcher = before.dispatcher
  /-- The same batches have been sent and not taken. -/
  channel : after.channel = before.channel
  /-- The same requests have been turned away. -/
  busy : after.around.totals.busy = before.around.totals.busy

namespace Untouched

variable {before between after engine : Engine}

/-- Doing nothing touches nothing. -/
theorem refl (engine : Engine) : Untouched engine engine := ⟨rfl, rfl, rfl, rfl, rfl, rfl⟩

/-- What is untouched twice is untouched. -/
theorem trans (first : Untouched before between) (second : Untouched between after) :
    Untouched before after where
  config := second.config.trans first.config
  phase := second.phase.trans first.phase
  queue := second.queue.trans first.queue
  dispatcher := second.dispatcher.trans first.dispatcher
  channel := second.channel.trans first.channel
  busy := second.busy.trans first.busy

/-! ## Parts -/

/-- Counting something else than requests that were turned away touches nothing. -/
theorem count (engine : Engine) (change : EngineTotals → EngineTotals)
    (other : ∀ totals, (change totals).busy = totals.busy) :
    Untouched engine (engine.count change) :=
  ⟨rfl, rfl, rfl, rfl, rfl, other engine.around.totals⟩

/-- A timer of maintenance touches nothing. -/
theorem ticking (engine : Engine) (maintenance : Maintenance) :
    Untouched engine { engine with maintenance } :=
  ⟨rfl, rfl, rfl, rfl, rfl, rfl⟩

/-- The expiry of entries touches nothing. -/
theorem expire (engine : Engine) (now : Timestamp) : Untouched engine (engine.expire now).1 := by
  obtain ⟨events, expired⟩ := engine.expire_parts now
  rw [expired]
  exact ⟨rfl, rfl, rfl, rfl, rfl, rfl⟩

/-- A worker with a batch in hand touches nothing. -/
theorem turn (turn : Turn engine after) : Untouched engine after := by
  cases turn with
  | rests around cache reports warned breakers kept => exact ⟨rfl, rfl, rfl, rfl, rfl, kept⟩
  | works around cache reports breakers job kept => exact ⟨rfl, rfl, rfl, rfl, rfl, kept⟩
  | goes around cache reports breakers kept => exact ⟨rfl, rfl, rfl, rfl, rfl, kept⟩

/-- The start of an engine that was built sets it running and touches nothing else. -/
theorem start (ready : engine.phase = .ready) :
    Untouched { engine with phase := .running } engine.start.1 := by
  obtain ⟨cache, events, loaded⟩ := engine.loadCache_parts
  unfold Engine.start
  rw [ready, loaded]
  exact ⟨rfl, rfl, rfl, rfl, rfl, rfl⟩

/-! ## Actions -/

/-- Maintenance that sets its timer touches nothing. -/
theorem prepare (taken : engine.step? .prepare = some after) : Untouched engine after := by
  obtain ⟨maintenance, crashed, rfl⟩ := step_prepare taken
  exact ⟨rfl, rfl, rfl, rfl, rfl, rfl⟩

/-- A worker that joins touches nothing. -/
theorem join (taken : engine.step? .join = some after) : Untouched engine after := by
  obtain ⟨-, -, rfl⟩ := step_join taken
  exact ⟨rfl, rfl, rfl, rfl, rfl, rfl⟩

/-- A worker that goes on with a job touches nothing. -/
theorem work {position : Nat} (taken : engine.step? (.work position) = some after) :
    Untouched engine after := by
  obtain ⟨job, -, rfl⟩ := step_work taken
  have removed : Untouched engine { engine with jobs := engine.jobs.eraseIdx position } :=
    ⟨rfl, rfl, rfl, rfl, rfl, rfl⟩
  exact removed.trans (.turn (turn_resume _ job))

/-- Late updates that are reported touch nothing. -/
theorem report (taken : engine.step? .report = some after) : Untouched engine after := by
  obtain ⟨due, later, -, -, rfl⟩ := step_report taken
  obtain ⟨cache, stored⟩ := foldl_store_parts due { engine with reports := later }
  rw [stored]
  exact ⟨rfl, rfl, rfl, rfl, rfl, rfl⟩

/-- A worker that takes a batch takes the first one and touches nothing else. -/
theorem take (taken : engine.step? .take = some after) :
    ∃ batch channel, engine.channel = batch :: channel ∧
      Untouched { engine with channel } after := by
  obtain ⟨-, batch, channel, sent, -, rfl⟩ := step_take taken
  have fewer : Untouched { engine with channel }
      { engine with waiting := engine.waiting - 1, channel } :=
    ⟨rfl, rfl, rfl, rfl, rfl, rfl⟩
  exact ⟨batch, channel, sent, fewer.trans (.turn (turn_undertake _ batch))⟩

end Untouched

end FlowEnrichment.Engine
