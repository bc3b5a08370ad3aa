import FlowEnrichment.Proofs.Breaker.Operations
import FlowEnrichment.Proofs.Breaker.Thresholds

/-!
# Thresholds and cool-downs of a table

A table makes every breaker with its own thresholds and no operation changes them, so all breakers
of a table have the same (`BreakerTable.Uniform`), whether or not a cool-down has ever had no end.
The end of a call is recorded by any of them if the cool-down that would begin now has an end.
-/
namespace FlowEnrichment

/-- The end of a call is recorded if a cool-down that begins now has an end. -/
theorem Breaker.record_overflow {breaker : Breaker} {now : Instant}
    (ends : (now.add? breaker.config.timeout).isSome) (success : Bool) :
    (breaker.record now success).overflow = false := by
  obtain ⟨deadline, added⟩ := Option.isSome_iff_exists.1 ends
  have trips (status : BreakerStatus) : ({ breaker with status }.trip now).overflow = false := by
    rw [trip, added]
  unfold record
  split
  · split
    · rfl
    · dsimp only
      split
      · exact trips _
      · rfl
  · split
    · exact trips breaker.status
    · split <;> rfl
  · rfl

namespace BreakerTable

variable {config : BreakerConfig} {table : BreakerTable} {breaker : Breaker}

/-- Every breaker of a table has the thresholds of the table. -/
structure Uniform (config : BreakerConfig) (table : BreakerTable) : Prop where
  /-- The table has the thresholds. -/
  thresholds : table.config = config
  /-- So do the breakers. -/
  breakers : ∀ entry ∈ table.breakers, entry.2.config = config

namespace Uniform

/-- A breaker that is needed has the thresholds. -/
theorem get (uniform : Uniform config table) (exporter : Address) :
    (table.get exporter).config = config := by
  unfold BreakerTable.get
  cases found : table.find? exporter with
  | some breaker => exact uniform.breakers _ (mem_of_find? found)
  | none => exact uniform.thresholds

/-- A breaker with the thresholds may be put. -/
theorem set (uniform : Uniform config table) (same : breaker.config = config)
    (exporter : Address) : Uniform config (table.set exporter breaker) := by
  refine ⟨uniform.thresholds, fun entry member => ?_⟩
  rcases mem_put member with new | before
  · rw [new]
    exact same
  · exact uniform.breakers entry before

/-- A call that is let pass or rejected changes no threshold. -/
theorem enter (uniform : Uniform config table) (exporter : Address) (now : Instant) :
    Uniform config (table.enter exporter now).1 := by
  have needed := uniform.get exporter
  unfold BreakerTable.enter
  split
  case h_1 breaker call entered =>
    exact uniform.set ((Breaker.enter_config entered).trans needed) exporter
  case h_2 => exact uniform.set needed exporter

/-- Neither does the end of a call. -/
theorem record (uniform : Uniform config table) (exporter : Address) (now : Instant)
    (success : Bool) : Uniform config (table.record exporter now success).table :=
  uniform.set ((Breaker.record_config _ now success).trans (uniform.get exporter)) exporter

/-- Neither does a call that is dropped. -/
theorem drop (uniform : Uniform config table) (exporter : Address) (now : Instant)
    (call : BreakerCall) : Uniform config (table.drop exporter now call).table :=
  uniform.set ((Breaker.drop_config _ now call).trans (uniform.get exporter)) exporter

/-- The end of a call is recorded if a cool-down that begins now has an end. -/
theorem record_overflow (uniform : Uniform config table) {now : Instant}
    (ends : (now.add? config.timeout).isSome) (exporter : Address) (success : Bool) :
    (table.record exporter now success).overflow = false := by
  rw [← uniform.get exporter] at ends
  exact Breaker.record_overflow ends success

end Uniform

end BreakerTable

end FlowEnrichment
