import FlowEnrichment.Proofs.Engine.Asides

/-!
# What a chain of providers does in time

A provider that only waits for time does each of its effects at an instant that is known as soon as
it is asked (`Effect.schedule`), and so does a chain of such providers (`journey`): each is asked
when the one before it has returned. Timers fire at whole milliseconds. If every pause lasts whole
milliseconds, a worker that goes on with a job does exactly the effects whose instant has come, and
then waits for the next one or has the outcome of the chain (`Engine.advance_advances`).
-/
namespace FlowEnrichment

/-! ## Whole milliseconds -/

/-- A whole number of milliseconds. -/
def Duration.Whole (duration : Duration) : Prop := Instant.tickNanos ∣ duration.nanos

namespace Instant

variable {now time : Instant} {duration : Duration}

/-- A whole number of milliseconds after the start. -/
def Whole (instant : Instant) : Prop := tickNanos ∣ instant.nanos

/-- At a whole millisecond a timer has fired if its time has come. -/
theorem dueTick_le_lastTick_iff (whole : now.Whole) (time : Instant) :
    time.dueTick ≤ now.lastTick ↔ time.nanos ≤ now.nanos := by
  obtain ⟨ticks, nanos⟩ := whole
  unfold dueTick lastTick
  rw [nanos]
  unfold tickNanos
  omega

/-- What comes whole milliseconds later is whole, also if it is far away. -/
theorem whole_addOrFar (whole : now.Whole) (lasts : duration.Whole) :
    (now.addOrFar duration).Whole := by
  unfold addOrFar
  cases added : now.add? duration with
  | some next =>
    rw [Option.getD_some, Whole, nanos_of_add? added]
    exact Nat.dvd_add whole lasts
  | none => exact Nat.dvd_add whole (by decide : tickNanos ∣ farAway.nanos)

/-- Nothing that comes later comes earlier. -/
theorem le_addOrFar (now : Instant) (duration : Duration) :
    now.nanos ≤ (now.addOrFar duration).nanos := by
  unfold addOrFar
  cases added : now.add? duration with
  | some next =>
    rw [Option.getD_some, nanos_of_add? added]
    exact Nat.le_add_right _ _
  | none => exact Nat.le_add_right _ _

/-- An instant that is in range is as much later as it is to be. -/
theorem nanos_addOrFar (inside : now.nanos + duration.nanos < rangeNanos) :
    (now.addOrFar duration).nanos = now.nanos + duration.nanos := by
  rw [addOrFar, add?, if_pos inside]
  rfl

/-- The later of two whole instants is whole. -/
theorem Whole.later (whole : now.Whole) (whole' : time.Whole) : (now.later time).Whole := by
  unfold Instant.later Whole
  rcases Nat.le_total now.nanos time.nanos with le | le
  · rw [Nat.max_eq_right le]
    exact whole'
  · rw [Nat.max_eq_left le]
    exact whole

end Instant

/-! ## Schedules -/

namespace Effect

/-- When an effect is over that begins at an instant. -/
def overAt (now : Instant) : Effect → Instant
  | .pause time => now.addOrFar time
  | _ => now

/-- How long an effect takes. -/
def nanos : Effect → Nat
  | .pause time => time.nanos
  | _ => 0

/-- The call that an effect notes. -/
def noted? : Effect → Option (Nat × BatchQuery)
  | .note backend batch => some (backend, batch)
  | _ => none

/-- The update that it reports. -/
def update? : Effect → Option Update
  | .report update => some update
  | _ => none

/-- The update that it leaves to be reported later, with the time for that. -/
def late? (now : Instant) : Effect → Option (Instant × Update)
  | .reportLater delay update => some (now.addOrFar delay, update)
  | _ => none

/-- When effects are over that begin at an instant and come one after the other. -/
def allOver (now : Instant) (effects : List Effect) : Instant := effects.foldl overAt now

/-- Such effects, each with the instant at which it begins. -/
def schedule : Instant → List Effect → List (Instant × Effect)
  | _, [] => []
  | now, effect :: rest => (now, effect) :: schedule (effect.overAt now) rest

/-- No effect is over before it begins. -/
theorem le_overAt (now : Instant) (effect : Effect) : now.nanos ≤ (effect.overAt now).nanos := by
  cases effect with
  | pause time => exact now.le_addOrFar time
  | _ => exact Nat.le_refl _

/-- Nor are effects. -/
theorem le_allOver (now : Instant) (effects : List Effect) :
    now.nanos ≤ (allOver now effects).nanos := by
  induction effects generalizing now with
  | nil => exact Nat.le_refl _
  | cons effect effects ih => exact Nat.le_trans (effect.le_overAt now) (ih _)

/-- No effect of a schedule begins before the first one. -/
theorem le_of_mem_schedule {now : Instant} {effects : List Effect} {entry : Instant × Effect}
    (member : entry ∈ schedule now effects) : now.nanos ≤ entry.1.nanos := by
  induction effects generalizing now with
  | nil => cases member
  | cons effect effects ih =>
    rcases List.mem_cons.1 member with rfl | later
    · exact Nat.le_refl _
    · exact Nat.le_trans (effect.le_overAt now) (ih later)

/-- Effects take as long as their pauses, if their end is in range. -/
theorem nanos_allOver {now : Instant} {effects : List Effect}
    (inside : now.nanos + Engine.total (effects.map nanos) < rangeNanos) :
    (allOver now effects).nanos = now.nanos + Engine.total (effects.map nanos) := by
  induction effects generalizing now with
  | nil => rfl
  | cons effect effects ih =>
    rw [List.map_cons, Engine.total] at inside ⊢
    have first : (effect.overAt now).nanos = now.nanos + effect.nanos := by
      cases effect with
      | pause time =>
        refine Instant.nanos_addOrFar (Nat.lt_of_le_of_lt ?_ inside)
        exact Nat.add_le_add_left (Nat.le_add_right _ _) _
      | _ => rfl
    rw [← Nat.add_assoc] at inside ⊢
    rw [← first] at inside ⊢
    exact ih inside

end Effect

/-- A reply that only waits for time, for whole milliseconds each time, and then returns. -/
structure Reply.Timed (reply : Reply) : Prop where
  /-- It waits for no permit. -/
  alone : ∀ backend, .takePermit backend ∉ reply.effects
  /-- Every pause lasts whole milliseconds. -/
  whole : ∀ time, .pause time ∈ reply.effects → time.Whole
  /-- It ends with an outcome. -/
  returns : reply.ending ≠ .crash

/-- A provider that takes some time for every batch and then returns. -/
def Provider.Timed (provider : Provider) : Prop := ∀ batch, (provider.reply batch).Timed

/-- What a scripted provider does that takes no permit: it notes the call, pauses and reports. -/
theorem Script.effect_cases {script : Script} (free : script.gated = false) {backend : Nat}
    {batch : BatchQuery} {effect : Effect}
    (member : effect ∈ (script.reply backend batch).effects) :
    effect = .note backend batch ∨ effect = .pause script.delay ∨
      (∃ update, effect = .report update) ∨ ∃ delay update, effect = .reportLater delay update := by
  have opens (first : effect ∈ script.opening backend batch) :
      effect = .note backend batch ∨ effect = .pause script.delay := by
    have either : effect = .note backend batch ∨
        script.delay.isZero = false ∧ effect = .pause script.delay := by
      simpa [opening, free] using first
    exact either.imp_right And.right
  unfold reply at member
  dsimp only at member
  split_ifs at member
  · exact (opens member).imp_right .inl
  · exact (opens member).imp_right .inl
  · rcases List.mem_append.1 member with first | later
    · exact (opens first).imp_right .inl
    · obtain ⟨query, -, among⟩ := List.mem_flatMap.1 later
      unfold effects at among
      dsimp only at among
      split_ifs at among
      · cases among
      · exact .inr (.inr (.inr ⟨_, _, List.mem_singleton.1 among⟩))
      · cases among
      · exact .inr (.inr (.inl ⟨_, List.mem_singleton.1 among⟩))

/-- Such a provider that never crashes only waits for the time that a call takes. -/
theorem Script.provider_timed {script : Script} (peaceful : script.crashing = [])
    (free : script.gated = false) (whole : script.delay.Whole) (backend : Nat) :
    (script.provider backend).Timed := by
  intro batch
  refine ⟨fun other member => ?_, fun time member => ?_, provider_reliable peaceful backend batch⟩
  · rcases effect_cases free member with same | same | ⟨_, same⟩ | ⟨_, _, same⟩ <;> cases same
  · rcases effect_cases free member with same | same | ⟨_, same⟩ | ⟨_, _, same⟩ <;> cases same
    exact whole

/-- What is left of a reply when some of its effects have been done. -/
theorem Reply.Timed.rest {effects rest : List Effect} {ending : Ending}
    (timed : (⟨effects, ending⟩ : Reply).Timed) (within : ∀ effect ∈ rest, effect ∈ effects) :
    (⟨rest, ending⟩ : Reply).Timed where
  alone backend member := timed.alone backend (within _ member)
  whole time member := timed.whole time (within _ member)
  returns := timed.returns

/-! ## Journeys -/

/-- The outcome with which a reply ends, if it does not crash. -/
def Ending.outcome : Ending → Except Failure Unit
  | .done outcome => outcome
  | .crash => .ok ()

/-- A provider that is asked, or what it still does. -/
structure Visit where
  /-- What it is asked. -/
  asked : BatchQuery
  /-- When it begins. -/
  begins : Instant
  /-- What it does. -/
  effects : List Effect
  /-- How it returns. -/
  outcome : Except Failure Unit

namespace Visit

/-- When the provider returns. -/
def returns (visit : Visit) : Instant := Effect.allOver visit.begins visit.effects

/-- What it does and when. -/
def schedule (visit : Visit) : List (Instant × Effect) := Effect.schedule visit.begins visit.effects

/-- How long it takes to return. -/
def delay (visit : Visit) : Nat := visit.returns.nanos - visit.begins.nanos

/-- It returns when the time has passed that it takes. -/
theorem nanos_returns (visit : Visit) :
    visit.returns.nanos = visit.begins.nanos + visit.delay :=
  (Nat.add_sub_of_le (Effect.le_allOver visit.begins visit.effects)).symm

/-- How long its pauses are together. -/
def pauses (visit : Visit) : Nat := Engine.total (visit.effects.map Effect.nanos)

/-- It takes as long as its pauses, if its return is in range. -/
theorem delay_eq {visit : Visit} (inside : visit.begins.nanos + visit.pauses < rangeNanos) :
    visit.delay = visit.pauses := by
  unfold pauses at inside ⊢
  unfold delay returns
  rw [Effect.nanos_allOver inside, Nat.add_sub_cancel_left]

end Visit

/-- A provider that is asked about a batch at an instant. -/
def Provider.visit (provider : Provider) (asked : BatchQuery) (begins : Instant) : Visit :=
  ⟨asked, begins, (provider.reply asked).effects, (provider.reply asked).ending.outcome⟩

/-- What becomes of a query of a chain that is given all the time it takes. -/
structure Journey where
  /-- The providers that are asked, in order. -/
  visits : List Visit
  /-- When the last of them returns. -/
  returns : Instant
  /-- The outcome of the chain. -/
  outcome : Except Failure Unit

/-- The journey that begins with a visit, other providers coming after it. -/
def journey (exporter : Address) : List Provider → Visit → Journey
  | [], visit =>
    { visits := [visit]
      returns := visit.returns
      outcome :=
        match handedOver? visit.outcome with
        | some _ => .ok ()
        | none => chainOutcome visit.outcome }
  | provider :: later, visit =>
    match handedOver? visit.outcome with
    | some indexes =>
      let rest := journey exporter later (provider.visit ⟨exporter, indexes⟩ visit.returns)
      { rest with visits := visit :: rest.visits }
    | none => ⟨[visit], visit.returns, chainOutcome visit.outcome⟩

namespace Journey

/-- Everything that the providers do and when. -/
def timeline (journey : Journey) : List (Instant × Effect) := journey.visits.flatMap Visit.schedule

/-- The time that all of them take together. -/
def delay (journey : Journey) : Nat := Engine.total (journey.visits.map Visit.delay)

/-- How long the pauses of all of them are together. -/
def pauses (journey : Journey) : Nat := Engine.total (journey.visits.map Visit.pauses)

end Journey

section Journeys

variable {exporter : Address} {later : List Provider} {visit : Visit}

/-- A visit that hands nothing over is the last one. -/
theorem journey_of_last (last : handedOver? visit.outcome = none) :
    journey exporter later visit = ⟨[visit], visit.returns, chainOutcome visit.outcome⟩ := by
  cases later <;> rw [journey, last]

/-- No provider begins before the first one, and the last one does not return before it. -/
theorem le_of_journey (exporter : Address) (later : List Provider) (visit : Visit) :
    visit.begins.nanos ≤ (journey exporter later visit).returns.nanos ∧
      ∀ entry ∈ (journey exporter later visit).timeline, visit.begins.nanos ≤ entry.1.nanos := by
  have alone (visit : Visit) (outcome : Except Failure Unit) (entry : Instant × Effect)
      (member : entry ∈ Journey.timeline ⟨[visit], visit.returns, outcome⟩) :
      visit.begins.nanos ≤ entry.1.nanos := by
    rw [Journey.timeline, List.flatMap_cons, List.flatMap_nil, List.append_nil] at member
    exact Effect.le_of_mem_schedule member
  induction later generalizing visit with
  | nil => exact ⟨Effect.le_allOver _ _, alone visit _⟩
  | cons provider later ih =>
    rw [journey]
    cases handedOver? visit.outcome with
    | none => exact ⟨Effect.le_allOver _ _, alone visit _⟩
    | some indexes =>
      obtain ⟨returns, begins⟩ := ih (provider.visit ⟨exporter, indexes⟩ visit.returns)
      have first : visit.begins.nanos ≤ visit.returns.nanos := Effect.le_allOver _ _
      refine ⟨Nat.le_trans first returns, fun entry member => ?_⟩
      rcases List.mem_append.1 member with own | others
      · exact Effect.le_of_mem_schedule own
      · exact Nat.le_trans first (begins entry others)

/-- A journey takes as long as its providers take together. -/
theorem nanos_returns_journey (exporter : Address) (later : List Provider) (visit : Visit) :
    (journey exporter later visit).returns.nanos =
      visit.begins.nanos + (journey exporter later visit).delay := by
  have alone (visit : Visit) (outcome : Except Failure Unit) :
      visit.returns.nanos = visit.begins.nanos + Journey.delay ⟨[visit], visit.returns, outcome⟩ :=
    visit.nanos_returns
  induction later generalizing visit with
  | nil => exact alone visit _
  | cons provider later ih =>
    rw [journey]
    cases handedOver? visit.outcome with
    | none => exact alone visit _
    | some indexes =>
      let rest := journey exporter later (provider.visit ⟨exporter, indexes⟩ visit.returns)
      have all : Journey.delay { rest with visits := visit :: rest.visits } =
          visit.delay + rest.delay := rfl
      rw [all, ← Nat.add_assoc, ← visit.nanos_returns]
      exact ih _

/-- That is as long as their pauses together, if its return is in range. -/
theorem delay_journey {exporter : Address} {later : List Provider} {visit : Visit}
    (inside : visit.begins.nanos + (journey exporter later visit).pauses < rangeNanos) :
    (journey exporter later visit).delay = (journey exporter later visit).pauses := by
  have alone {visit : Visit} {outcome : Except Failure Unit}
      (inside : visit.begins.nanos + Journey.pauses ⟨[visit], visit.returns, outcome⟩ <
        rangeNanos) :
      Journey.delay ⟨[visit], visit.returns, outcome⟩ =
        Journey.pauses ⟨[visit], visit.returns, outcome⟩ :=
    Visit.delay_eq inside
  induction later generalizing visit with
  | nil => exact alone inside
  | cons provider later ih =>
    rw [journey] at inside ⊢
    cases handed : handedOver? visit.outcome with
    | none =>
      rw [handed] at inside
      exact alone inside
    | some indexes =>
      rw [handed] at inside
      let rest := journey exporter later (provider.visit ⟨exporter, indexes⟩ visit.returns)
      have inside : visit.begins.nanos + (visit.pauses + rest.pauses) < rangeNanos := inside
      have first : visit.delay = visit.pauses :=
        Visit.delay_eq (Nat.lt_of_le_of_lt
          (Nat.add_le_add_left (Nat.le_add_right visit.pauses rest.pauses) _) inside)
      have others : rest.delay = rest.pauses := by
        refine ih ?_
        rw [show (provider.visit _ visit.returns).begins = visit.returns from rfl,
          visit.nanos_returns, first, Nat.add_assoc]
        exact inside
      exact congrArg₂ (· + ·) first others

/-- A visit that has been begun is the rest of itself, and so is the journey. -/
theorem journey_resumed (visit rested : Visit) {done : List (Instant × Effect)}
    (outcome : rested.outcome = visit.outcome) (returns : rested.returns = visit.returns)
    (schedule : visit.schedule = done ++ rested.schedule) :
    (journey exporter later visit).timeline = done ++ (journey exporter later rested).timeline ∧
      (journey exporter later rested).returns = (journey exporter later visit).returns ∧
      (journey exporter later rested).outcome = (journey exporter later visit).outcome := by
  have split (visits : List Visit) : (visit :: visits).flatMap Visit.schedule =
      done ++ (rested :: visits).flatMap Visit.schedule := by
    rw [List.flatMap_cons, schedule, List.append_assoc, List.flatMap_cons]
  cases later with
  | nil =>
    rw [journey, journey, outcome]
    exact ⟨split [], returns, rfl⟩
  | cons provider later =>
    rw [journey, journey, outcome]
    cases handedOver? visit.outcome with
    | none => exact ⟨split [], returns, rfl⟩
    | some indexes =>
      dsimp only
      rw [returns]
      exact ⟨split _, rfl, rfl⟩

end Journeys

/-- What becomes of the query of a batch that a chain of providers is asked about at an instant, if
it is given all the time it takes. -/
def chainJourney (providers : List Provider) (batch : BatchQuery) (begins : Instant) : Journey :=
  match providers with
  | [] => ⟨[], begins, .ok ()⟩
  | provider :: later => journey batch.exporter later (provider.visit batch begins)

/-- A chain returns when the time has passed that its providers take together. -/
theorem nanos_returns_chainJourney (providers : List Provider) (batch : BatchQuery)
    (begins : Instant) :
    (chainJourney providers batch begins).returns.nanos =
      begins.nanos + (chainJourney providers batch begins).delay := by
  cases providers with
  | nil => rfl
  | cons provider later => exact nanos_returns_journey _ _ _

/-- It takes as long as their pauses together, if its return is in range. -/
theorem delay_chainJourney {providers : List Provider} {batch : BatchQuery} {begins : Instant}
    (inside : begins.nanos + (chainJourney providers batch begins).pauses < rangeNanos) :
    (chainJourney providers batch begins).delay =
      (chainJourney providers batch begins).pauses := by
  cases providers with
  | nil => rfl
  | cons provider later => exact delay_journey inside

/-! ## Jobs -/

/-- What the present provider of a job still does that goes on at an instant. -/
def Job.visit (job : Job) (begins : Instant) : Visit :=
  ⟨job.asked, begins, job.effects, job.ending.outcome⟩

/-- What becomes of the query of a job that goes on at an instant, if it is given all the time it
takes. -/
def Job.journey (providers : List Provider) (job : Job) (begins : Instant) : Journey :=
  FlowEnrichment.journey job.batch.exporter (providers.drop (job.position + 1)) (job.visit begins)

/-- Nothing of the journey of a job comes before the instant at which the job goes on. -/
theorem Job.le_journey (providers : List Provider) (job : Job) (begins : Instant) :
    begins.nanos ≤ (job.journey providers begins).returns.nanos ∧
      ∀ entry ∈ (job.journey providers begins).timeline, begins.nanos ≤ entry.1.nanos :=
  le_of_journey job.batch.exporter (providers.drop (job.position + 1)) (job.visit begins)

/-- The journey of a job whose provider hands nothing over is over with it. -/
theorem Job.journey_last (providers : List Provider) {job : Job} {outcome : Except Failure Unit}
    (ending : job.ending = .done outcome) (last : handedOver? outcome = none) (begins : Instant) :
    job.journey providers begins =
      ⟨[job.visit begins], (job.visit begins).returns, chainOutcome outcome⟩ := by
  have same : (job.visit begins).outcome = outcome := congrArg Ending.outcome ending
  rw [← same] at last ⊢
  exact journey_of_last last

/-- So it is if there is nobody to hand anything over to. -/
theorem Job.journey_left {providers : List Provider} {job : Job} {outcome : Except Failure Unit}
    {indexes : List UInt32} (ending : job.ending = .done outcome)
    (handed : handedOver? outcome = some indexes)
    (rest : providers.drop (job.position + 1) = []) (begins : Instant) :
    job.journey providers begins = ⟨[job.visit begins], (job.visit begins).returns, .ok ()⟩ := by
  have same : (job.visit begins).outcome = outcome := congrArg Ending.outcome ending
  rw [← same] at handed
  rw [Job.journey, rest, FlowEnrichment.journey, handed]

/-- The journey of a job whose provider hands something over goes on with the next provider. -/
theorem Job.journey_next {providers later : List Provider} {provider : Provider} {job : Job}
    {outcome : Except Failure Unit} {indexes : List UInt32} (ending : job.ending = .done outcome)
    (handed : handedOver? outcome = some indexes)
    (rest : providers.drop (job.position + 1) = provider :: later) (begins : Instant) :
    let next := Engine.ask job (job.position + 1) provider ⟨job.batch.exporter, indexes⟩
    let onwards := next.journey providers (job.visit begins).returns
    providers.drop (next.position + 1) = later ∧
      job.journey providers begins =
        { onwards with visits := job.visit begins :: onwards.visits } := by
  have same : (job.visit begins).outcome = outcome := congrArg Ending.outcome ending
  rw [← same] at handed
  have further : providers.drop (job.position + 1 + 1) = later := by
    rw [← List.tail_drop, rest, List.tail_cons]
  refine ⟨further, ?_⟩
  rw [Job.journey, rest, FlowEnrichment.journey, handed, Job.journey]
  dsimp only [Engine.ask]
  rw [further]
  rfl

/-- The rest of the reply of the present provider only waits for time and then returns. -/
def Job.Timed (job : Job) : Prop := (⟨job.effects, job.ending⟩ : Reply).Timed

namespace Engine

variable {engine before between after : Engine}

/-- The time is a whole millisecond, and the timers have fired up to it. -/
structure OnTick (engine : Engine) : Prop where
  /-- The time is a whole millisecond. -/
  whole : engine.now.Whole
  /-- The timers have fired up to it. -/
  fired : engine.around.tick = engine.now.lastTick

/-- Then a time has been reached when it has come. -/
theorem OnTick.reached_iff (onTick : engine.OnTick) (time : Instant) :
    engine.reached time = true ↔ time.nanos ≤ engine.now.nanos := by
  rw [reached, decide_eq_true_eq, onTick.fired]
  exact Instant.dueTick_le_lastTick_iff onTick.whole time

/-- The engine after effects: updates have been put into the cache or left to be reported later, and
calls have been noted. -/
def perform (engine : Engine) (effects : List Effect) : Engine :=
  { engine with
    cache := (effects.filterMap Effect.update?).foldl
      (fun cache update => cache.put engine.around.clock update.query update.answer) engine.cache
    reports := engine.reports ++ effects.filterMap (Effect.late? engine.now)
    around :=
      { engine.around with
        journal := engine.around.journal ++ effects.filterMap Effect.noted? } }

/-- Without effects it is the same. -/
theorem perform_nil (engine : Engine) : engine.perform [] = engine := by
  show { engine with
    reports := engine.reports ++ []
    around := { engine.around with journal := engine.around.journal ++ [] } } = engine
  rw [List.append_nil, List.append_nil]

/-- A pause changes nothing. -/
theorem perform_pause (engine : Engine) (time : Duration) :
    engine.perform [.pause time] = engine := engine.perform_nil

/-- A call is noted. -/
theorem perform_note (engine : Engine) (backend : Nat) (batch : BatchQuery) :
    engine.perform [.note backend batch] = { engine with
      around := { engine.around with
        journal := engine.around.journal ++ [(backend, batch)] } } := by
  show { engine with
    reports := engine.reports ++ []
    around := { engine.around with
      journal := engine.around.journal ++ [(backend, batch)] } } = _
  rw [List.append_nil]

/-- An update is stored. -/
theorem perform_report (engine : Engine) (update : Update) :
    engine.perform [.report update] = engine.store update := (engine.store update).perform_nil

/-- An update is left for later. -/
theorem perform_reportLater (engine : Engine) (delay : Duration) (update : Update) :
    engine.perform [.reportLater delay update] =
      { engine with reports := engine.reports ++ [(engine.now.addOrFar delay, update)] } := by
  show { engine with
    reports := engine.reports ++ [(engine.now.addOrFar delay, update)]
    around := { engine.around with journal := engine.around.journal ++ [] } } = _
  rw [List.append_nil]

/-- Effects may be done one after the other. -/
theorem perform_append (engine : Engine) (effects others : List Effect) :
    engine.perform (effects ++ others) = (engine.perform effects).perform others := by
  unfold perform
  simp only [List.filterMap_append, List.foldl_append, List.append_assoc]
  rfl

/-- Effects were done, and events were recorded. -/
def Did (before : Engine) (effects : List Effect) (after : Engine) : Prop :=
  ∃ events, after =
    { before.perform effects with around := { (before.perform effects).around with events } }

/-- Effects were done. -/
theorem did_perform (engine : Engine) (effects : List Effect) :
    engine.Did effects (engine.perform effects) := ⟨_, rfl⟩

/-- An event was recorded after effects. -/
theorem Did.log {effects : List Effect} (did : before.Did effects after) (event : Event) :
    before.Did effects (after.log event) := by
  obtain ⟨events, rfl⟩ := did
  exact ⟨events ++ [event], rfl⟩

/-- Effects were done one after the other. -/
theorem Did.trans {effects others : List Effect} (first : before.Did effects between)
    (second : between.Did others after) : before.Did (effects ++ others) after := by
  obtain ⟨events, rfl⟩ := first
  obtain ⟨events', rfl⟩ := second
  refine ⟨events', ?_⟩
  rw [perform_append]
  rfl

/-- Effects take no time. -/
theorem Did.now {effects : List Effect} (did : before.Did effects after) :
    after.now = before.now ∧ after.around.tick = before.around.tick := by
  obtain ⟨events, rfl⟩ := did
  exact ⟨rfl, rfl⟩

/-- If the time was a whole millisecond, then so it is as long as it is the same. -/
theorem OnTick.still (onTick : before.OnTick) (now : after.now = before.now)
    (tick : after.around.tick = before.around.tick) : after.OnTick where
  whole := now ▸ onTick.whole
  fired := by rw [tick, now, onTick.fired]

/-- What a provider that only waits for time does at an instant: what its schedule has for it. -/
inductive Carries (engine : Engine) (effects : List Effect) : Prop where
  /-- It does everything. -/
  | all (carried : carryOut effects engine = (engine.perform effects, none))
      (schedule : Effect.schedule engine.now effects = effects.map (engine.now, ·))
      (spent : Effect.allOver engine.now effects = engine.now)
  /-- It does some of it and waits for the instant at which it goes on. -/
  | some (done rest : List Effect) (wake : Instant) (any : done ≠ [])
      (within : ∀ effect ∈ rest, effect ∈ effects)
      (carried : carryOut effects engine = (engine.perform done, some (.until wake, rest)))
      (later : engine.now.nanos < wake.nanos) (whole : wake.Whole)
      (schedule : Effect.schedule engine.now effects =
        done.map (engine.now, ·) ++ Effect.schedule wake rest)
      (spent : Effect.allOver engine.now effects = Effect.allOver wake rest)

/-- An effect that is over at once leaves the others to the same instant. -/
theorem Carries.cons {effect : Effect} {effects : List Effect}
    (carries : (engine.perform [effect]).Carries effects)
    (spent : effect.overAt engine.now = engine.now)
    (first : carryOut (effect :: effects) engine = carryOut effects (engine.perform [effect])) :
    engine.Carries (effect :: effects) := by
  have now : (engine.perform [effect]).now = engine.now := rfl
  have both (others : List Effect) :
      engine.perform (effect :: others) = (engine.perform [effect]).perform others :=
    engine.perform_append [effect] others
  have schedule : Effect.schedule engine.now (effect :: effects) =
      (engine.now, effect) :: Effect.schedule (engine.perform [effect]).now effects := by
    rw [Effect.schedule, spent, now]
  have returns : Effect.allOver engine.now (effect :: effects) =
      Effect.allOver (engine.perform [effect]).now effects := by
    rw [Effect.allOver, List.foldl_cons, spent, now]
    rfl
  cases carries with
  | all carried same done =>
    rw [now] at same
    rw [← both] at carried
    refine .all (first.trans carried) ?_ ((returns.trans done).trans now)
    rw [schedule, now, same]
    rfl
  | some done rest wake _ within carried later whole same spent =>
    rw [now] at later same
    rw [← both] at carried
    refine .some (effect :: done) rest wake (List.cons_ne_nil _ _)
      (fun other member => List.mem_cons_of_mem _ (within other member)) (first.trans carried)
      later whole ?_ (returns.trans spent)
    rw [schedule, now, same]
    rfl

/-- A provider that only waits for time does at an instant what its schedule has for it. -/
theorem carries_of_timed {effects : List Effect} {ending : Ending} (onTick : engine.OnTick)
    (timed : (⟨effects, ending⟩ : Reply).Timed) : engine.Carries effects := by
  induction effects generalizing engine with
  | nil =>
    refine .all ?_ rfl rfl
    rw [perform_nil]
    rfl
  | cons effect effects ih =>
    have others : (engine.perform [effect]).Carries effects :=
      ih ⟨onTick.whole, onTick.fired⟩
        (timed.rest fun _ member => List.mem_cons_of_mem effect member)
    cases effect with
    | note backend batch =>
      exact others.cons rfl (by rw [carryOut, perform_note])
    | takePermit backend => exact absurd List.mem_cons_self (timed.alone backend)
    | pause time =>
      have whole : (engine.now.addOrFar time).Whole :=
        Instant.whole_addOrFar onTick.whole (timed.whole time List.mem_cons_self)
      have reached := onTick.reached_iff (engine.now.addOrFar time)
      by_cases passed : (engine.now.addOrFar time).nanos ≤ engine.now.nanos
      · have none_left : engine.now.addOrFar time = engine.now :=
          congrArg Instant.mk (Nat.le_antisymm passed (engine.now.le_addOrFar time))
        refine others.cons none_left ?_
        rw [carryOut, waitOver, reached.2 passed, if_pos rfl, perform_pause]
      · have waits : engine.reached (engine.now.addOrFar time) = false :=
          Bool.eq_false_iff.2 fun spent => passed (reached.1 spent)
        refine .some [.pause time] effects (engine.now.addOrFar time) (List.cons_ne_nil _ _)
          (fun other member => List.mem_cons_of_mem _ member) ?_ (Nat.lt_of_not_le passed) whole
          rfl rfl
        rw [carryOut, waitOver, waits, if_neg Bool.false_ne_true, perform_pause]
    | report update =>
      exact others.cons rfl (by rw [carryOut, perform_report])
    | reportLater delay update =>
      exact others.cons rfl (by rw [carryOut, perform_reportLater])

/-! ## What a worker does at an instant -/

/-- A job comes to a wait at an instant: effects are done, and what is left of its journey begins
when it wakes. -/
structure Pauses (providers : List Provider) (now : Instant) (job : Job) (done : List Effect)
    (waiting : Job) (wake : Instant) : Prop where
  /-- The batch is the same. -/
  batch : waiting.batch = job.batch
  /-- So is the deadline. -/
  deadline : waiting.deadline = job.deadline
  /-- The provider still only waits for time. -/
  timed : waiting.Timed
  /-- It waits for an instant. -/
  wait : waiting.wait = .until wake
  /-- The instant has not come. -/
  later : now.nanos < wake.nanos
  /-- It is a whole millisecond. -/
  whole : wake.Whole
  /-- Something is done. -/
  any : done ≠ []
  /-- It is what the timeline has for this instant. -/
  timeline : (job.journey providers now).timeline =
    done.map (now, ·) ++ (waiting.journey providers wake).timeline
  /-- The chain returns when it would have. -/
  returns : (waiting.journey providers wake).returns = (job.journey providers now).returns
  /-- It has the outcome that it would have had. -/
  outcome : (waiting.journey providers wake).outcome = (job.journey providers now).outcome

/-- What a worker that goes on with a job does at an instant. -/
inductive Advances (providers : List Provider) (engine : Engine) (job : Job)
    (reached : Engine × Progress) : Prop where
  /-- It does everything and has the outcome of the chain. -/
  | answers (done : List Effect) (after : Engine) (did : engine.Did done after)
      (answered : reached = (after, .answered (job.journey providers engine.now).outcome))
      (timeline : (job.journey providers engine.now).timeline = done.map (engine.now, ·))
      (returns : (job.journey providers engine.now).returns = engine.now)
  /-- It does some of it and waits for the instant at which it goes on. -/
  | waits (done : List Effect) (after : Engine) (waiting : Job) (wake : Instant)
      (did : engine.Did done after) (waits : reached = (after, .waits waiting))
      (pauses : Pauses providers engine.now job done waiting wake)

section Advancing

variable {providers later : List Provider} {job : Job}

/-- A worker whose provider does the last things of a chain at once has the outcome of the chain. -/
theorem Did.answers {outcome : Except Failure Unit}
    (did : engine.Did job.effects after)
    (schedule : Effect.schedule engine.now job.effects = job.effects.map (engine.now, ·))
    (spent : Effect.allOver engine.now job.effects = engine.now)
    (last : job.journey providers engine.now =
      ⟨[job.visit engine.now], (job.visit engine.now).returns, outcome⟩) :
    Advances providers engine job (after, .answered outcome) := by
  refine .answers job.effects after did ?_ ?_ ?_
  · rw [last]
  · rw [last, Journey.timeline, List.flatMap_cons, List.flatMap_nil, List.append_nil]
    exact schedule
  · rw [last]
    exact spent

/-- What a worker does with the next provider at the same instant comes after what it has done. -/
theorem Advances.next {reached : Engine × Progress} {next : Job}
    (advances : Advances providers between next reached) (did : engine.Did job.effects between)
    (schedule : Effect.schedule engine.now job.effects = job.effects.map (engine.now, ·))
    (batch : next.batch = job.batch) (deadline : next.deadline = job.deadline)
    (timeline : (job.journey providers engine.now).timeline =
      (job.visit engine.now).schedule ++ (next.journey providers engine.now).timeline)
    (returns : (next.journey providers engine.now).returns =
      (job.journey providers engine.now).returns)
    (outcome : (next.journey providers engine.now).outcome =
      (job.journey providers engine.now).outcome) :
    Advances providers engine job reached := by
  have now := did.now.1
  have first : (job.visit engine.now).schedule = job.effects.map (engine.now, ·) := schedule
  cases advances with
  | answers done after did' answered all spent =>
    rw [now] at answered all spent
    refine .answers (job.effects ++ done) after (did.trans did') ?_ ?_ (returns ▸ spent)
    · rw [answered, outcome]
    · rw [timeline, first, all, List.map_append]
  | waits done after waiting wake did' waits pauses =>
    rw [now] at pauses
    refine .waits (job.effects ++ done) after waiting wake (did.trans did') waits ?_
    refine ⟨pauses.batch.trans batch, pauses.deadline.trans deadline, pauses.timed, pauses.wait,
      pauses.later, pauses.whole, List.append_ne_nil_of_right_ne_nil _ pauses.any, ?_,
      pauses.returns.trans returns, pauses.outcome.trans outcome⟩
    rw [timeline, first, pauses.timeline, List.map_append, List.append_assoc]

/-- A worker that goes on with a chain of providers that only wait for time does what the timeline
of its journey has for the instant. -/
theorem proceed_advances (name : String) (timely : ∀ provider ∈ providers, provider.Timed)
    (rest : providers.drop (job.position + 1) = later) (timed : job.Timed)
    (onTick : engine.OnTick) :
    Advances providers engine job (proceed later name job engine) := by
  fun_induction proceed later name job engine with
  | case1 later name job engine reached wait effects carried =>
    cases carries_of_timed onTick timed with
    | all carried' => cases carried.symm.trans carried'
    | some done rest wake any within carried' later whole schedule spent =>
      cases carried.symm.trans carried'
      obtain ⟨timeline, returns, outcome⟩ := journey_resumed (job.visit engine.now)
        (Job.visit { job with wait := .until wake, effects } wake) rfl spent.symm schedule
      exact .waits done _ _ wake (engine.did_perform done) rfl
        ⟨rfl, rfl, timed.rest within, rfl, later, whole, any, timeline, returns, outcome⟩
  | case2 later name job engine reached carried crashes => exact absurd crashes timed.returns
  | case3 later name job engine reached carried outcome ends last =>
    cases carries_of_timed onTick timed with
    | some _ _ _ _ _ carried' => cases carried.symm.trans carried'
    | all carried' schedule spent =>
      cases carried.symm.trans carried'
      exact (engine.did_perform job.effects).answers schedule spent
        (Job.journey_last providers ends last engine.now)
  | case4 name job engine reached carried outcome ends indexes handed =>
    cases carries_of_timed onTick timed with
    | some _ _ _ _ _ carried' => cases carried.symm.trans carried'
    | all carried' schedule spent =>
      cases carried.symm.trans carried'
      exact ((engine.did_perform job.effects).log _).answers schedule spent
        (Job.journey_left ends handed rest engine.now)
  | case5 name job engine reached carried outcome ends indexes handed logged provider later asked
      ih =>
    cases carries_of_timed onTick timed with
    | some _ _ _ _ _ carried' => cases carried.symm.trans carried'
    | all carried' schedule spent =>
      cases carried.symm.trans carried'
      have did := (engine.did_perform job.effects).log
        (.skipped job.batch.exporter name indexes.length)
      obtain ⟨further, onwards⟩ := Job.journey_next ends handed rest engine.now
      have returns : (job.visit engine.now).returns = engine.now := spent
      rw [returns] at onwards
      have next : provider ∈ providers := by
        have among : provider ∈ providers.drop (job.position + 1) := rest ▸ List.mem_cons_self
        exact List.mem_of_mem_drop among
      have advances := ih further (timely provider next asked) (onTick.still did.now.1 did.now.2)
      exact advances.next did schedule rfl rfl (by rw [onwards]; rfl) (by rw [onwards])
        (by rw [onwards])

/-- So does a worker that goes on with a job that waits for nothing or for a time. -/
theorem advance_advances (timely : ∀ provider ∈ engine.providers, provider.Timed)
    (timed : job.Timed) (onTick : engine.OnTick) (spent : engine.waitOver job.wait = true)
    (alone : ∀ backend ticket, job.wait ≠ .permit backend ticket) :
    Advances engine.providers engine job (engine.advance job) := by
  have left : engine.leaveWait job.wait = engine := by
    cases wait : job.wait with
    | permit backend ticket => exact absurd wait (alone backend ticket)
    | _ => rfl
  rw [advance, if_pos spent, left]
  exact proceed_advances _ timely rfl timed onTick

end Advancing

end Engine

end FlowEnrichment
