import FlowEnrichment.Proofs.Engine.Underway

/-!
# How long an engine sleeps

An engine that is left to itself settles at each of its timers on the way, and none of what it does
takes time. So a sleep of whole milliseconds ends when it is to end, however many timers fire in
between (`Engine.OnTick.sleep`), and the stretches that it is made of never run out.
-/
namespace FlowEnrichment

/-- What is added to an instant is added in full, unless it is longer than a time far away. -/
theorem Instant.add_le_addOrFar {duration : Duration} (now : Instant)
    (short : duration.nanos ≤ farAway.nanos) :
    now.nanos + duration.nanos ≤ (now.addOrFar duration).nanos := by
  unfold addOrFar
  cases added : now.add? duration with
  | some next =>
    rw [Option.getD_some, nanos_of_add? added]
  | none => exact Nat.add_le_add_left short now.nanos

/-- A whole millisecond is the tick at which a timer for it fires. -/
theorem Instant.Whole.dueTick_mul {instant : Instant} (whole : instant.Whole) :
    instant.dueTick * tickNanos = instant.nanos := by
  obtain ⟨ticks, nanos⟩ := whole
  unfold dueTick
  rw [nanos]
  unfold tickNanos
  omega

namespace Engine

variable {engine : Engine}

/-- An engine that settles takes no time. -/
theorem Steady.settleWithin (fuel : Nat) (engine : Engine) :
    Steady engine (settleWithin fuel engine) := by
  induction fuel generalizing engine with
  | zero => exact refl engine
  | succ fuel ih =>
    unfold Engine.settleWithin
    split
    case h_1 after next =>
      obtain ⟨action, -, taken⟩ := List.exists_of_findSome?_eq_some next
      exact (step taken).trans (ih after)
    case h_2 => exact refl engine

/-- At a whole millisecond an engine that settles stays at it. -/
theorem OnTick.settle (onTick : engine.OnTick) : engine.settle.OnTick :=
  have steady := Steady.settleWithin engine.workload engine
  onTick.still steady.now steady.tick

/-- At a whole millisecond an engine comes to another one at a tick. -/
theorem OnTick.advanceTo (onTick : engine.OnTick) {tick : Nat}
    (onwards : engine.around.tick ≤ tick) :
    (engine.advanceTo tick).OnTick ∧ (engine.advanceTo tick).around.tick = tick := by
  have nanos := onTick.nanos_advanceTo onwards
  have fired : (engine.advanceTo tick).around.tick = (engine.advanceTo tick).now.lastTick := rfl
  refine ⟨⟨⟨tick, nanos.trans (Nat.mul_comm _ _)⟩, fired⟩, ?_⟩
  rw [fired, Instant.lastTick, nanos, Nat.mul_div_cancel _ (by decide)]

/-- The next timer fires later. -/
theorem lt_nextTimer {tick : Nat} (next : engine.nextTimer? = some tick) :
    engine.around.tick < tick := by
  obtain ⟨among, -⟩ := List.min?_eq_some_iff.1 next
  exact of_decide_eq_true (List.mem_filter.1 among).2

/-- An engine comes to a tick that lies ahead. There are no more timers on the way than ticks, so it
takes no more stretches than that. -/
theorem OnTick.runTo (onTick : engine.OnTick) {target fuel : Nat}
    (ahead : engine.around.tick < target) (enough : target ≤ engine.around.tick + fuel) :
    (engine.runTo target fuel).OnTick ∧
      (engine.runTo target fuel).now.nanos = target * Instant.tickNanos := by
  induction fuel generalizing engine with
  | zero => exact absurd ahead (Nat.not_lt_of_le enough)
  | succ fuel ih =>
    have settled := onTick.settle
    have tick : engine.settle.around.tick = engine.around.tick :=
      (Steady.settleWithin engine.workload engine).tick
    have arrived (later : engine.settle.around.tick ≤ target) :
        (engine.settle.advanceTo target).OnTick ∧
          (engine.settle.advanceTo target).now.nanos = target * Instant.tickNanos :=
      ⟨(settled.advanceTo later).1, settled.nanos_advanceTo later⟩
    rw [← tick] at ahead enough
    unfold Engine.runTo
    dsimp only
    split
    case h_1 next timer =>
      have later := lt_nextTimer timer
      by_cases earlier : next < target
      · rw [if_pos earlier]
        obtain ⟨onNext, reached⟩ := settled.advanceTo (Nat.le_of_lt later)
        exact ih onNext (reached.symm ▸ earlier) (by omega)
      · rw [if_neg earlier]
        exact arrived (Nat.le_of_lt ahead)
    case h_2 => exact arrived (Nat.le_of_lt ahead)

/-- A sleep of whole milliseconds ends at a whole millisecond, when it is to end. -/
theorem OnTick.sleep (onTick : engine.OnTick) {duration : Duration} (lasts : duration.Whole)
    (some_time : engine.now.nanos < (engine.now.addOrFar duration).nanos) :
    (engine.sleep duration).OnTick ∧
      (engine.sleep duration).now.nanos = (engine.now.addOrFar duration).nanos := by
  have whole := Instant.whole_addOrFar onTick.whole lasts
  have ahead : engine.around.tick < (engine.now.addOrFar duration).dueTick := by
    rw [onTick.fired]
    refine Nat.lt_of_not_le fun early => ?_
    have past := (Instant.dueTick_le_lastTick_iff onTick.whole _).1 early
    exact absurd past (Nat.not_le_of_lt some_time)
  obtain ⟨later, nanos⟩ :=
    onTick.runTo ahead (Nat.le_of_eq (Nat.add_sub_of_le (Nat.le_of_lt ahead)).symm)
  exact ⟨later, nanos.trans whole.dueTick_mul⟩

end Engine

end FlowEnrichment
