import FlowEnrichment.Proofs.Engine.Frames

/-!
# Attempts to queue a request

A lookup that misses and an entry that is due for a refresh are attempts to queue a request. An
attempt notes how many requests waited when it was made and how it went; `Queued` says what a
number of attempts do to an engine: the accepted ones come to the end of the queue in their
order, the others are counted for their exporters, and only a full queue turns one away.
-/
namespace FlowEnrichment

/-- An attempt to queue a request. -/
structure Attempt where
  /-- The request. -/
  query : Query
  /-- How many requests waited when the attempt was made. -/
  waiting : Nat
  /-- Whether the request was accepted. -/
  accepted : Bool
  deriving DecidableEq, Repr

namespace Attempt

/-- The requests that were accepted, in order. -/
def acceptedOf (attempts : List Attempt) : List Query :=
  (attempts.filter Attempt.accepted).map Attempt.query

/-- The attempts for an exporter that were turned away. -/
def refusedOf (exporter : Address) (attempts : List Attempt) : List Attempt :=
  attempts.filter fun attempt => !attempt.accepted && attempt.query.exporter == exporter

/-- Whether an attempt went as the number of waiting requests demands: it is turned away by a
full queue and by no other. -/
def Fair (capacity : Nat) (attempt : Attempt) : Prop :=
  if attempt.accepted then attempt.waiting < capacity else attempt.waiting = capacity

/-- The accepted requests of two parts are those of the first and then those of the second. -/
theorem acceptedOf_append (first second : List Attempt) :
    acceptedOf (first ++ second) = acceptedOf first ++ acceptedOf second := by
  rw [acceptedOf, List.filter_append, List.map_append, acceptedOf, acceptedOf]

/-- As many attempts were turned away as in both parts together. -/
theorem length_refusedOf_append (exporter : Address) (first second : List Attempt) :
    (refusedOf exporter (first ++ second)).length =
      (refusedOf exporter first).length + (refusedOf exporter second).length := by
  rw [refusedOf, List.filter_append, List.length_append, refusedOf, refusedOf]

end Attempt

/-- One more for an exporter is one more for that exporter only. -/
theorem ExporterTotals.of_bump (totals : ExporterTotals) (exporter other : Address) :
    ExporterTotals.of (totals.bump exporter) other =
      totals.of other + if exporter = other then 1 else 0 := by
  induction totals with
  | nil =>
    by_cases same : exporter = other
    · simp [bump, of, same]
    · have passed : (other == exporter) = false := by simp [Ne.symm same]
      simp [bump, of, same, List.lookup_cons, passed]
  | cons first rest ih =>
    obtain ⟨key, total⟩ := first
    unfold of at ih ⊢
    by_cases own : key = exporter
    · by_cases same : exporter = other
      · simp [bump, own, same]
      · have passed : (other == exporter) = false := by simp [Ne.symm same]
        simp [bump, own, same, List.lookup_cons, passed]
    · by_cases found : other = key
      · simp [bump, own, found, Ne.symm own]
      · have passed : (other == key) = false := by simp [found]
        simp only [bump, own, if_false, List.lookup_cons, passed]
        exact ih

namespace Engine

/-! ## The attempts of an operation -/

/-- The attempt to queue a request. -/
def attempt (engine : Engine) (query : Query) : Attempt :=
  ⟨query, engine.queue.length, (engine.enqueue query).2⟩

/-- The attempts to queue requests in order. -/
def attempts : List Query → Engine → List Attempt
  | [], _ => []
  | query :: rest, engine => engine.attempt query :: attempts rest (engine.enqueue query).1

/-- The attempt of a lookup, if it misses. -/
def lookupAttempts (engine : Engine) (now : Timestamp) (query : Query) : List Attempt :=
  if (engine.cache.lookup now query).2.isSome then [] else [engine.attempt query]

/-- The attempts of a maintenance run: those for the entries due after others have expired. -/
def maintainAttempts (engine : Engine) (now : Timestamp) : List Attempt :=
  let expired := (engine.expire now).1
  if engine.config.refreshes then
    attempts (Cache.planQueries (expired.cache.needUpdates (since now engine.config.cacheRefresh)))
      expired
  else []

/-- The attempts of a number of maintenance runs. -/
def maintainTimesAttempts : Nat → Engine → List Attempt
  | 0, _ => []
  | count + 1, engine =>
    engine.maintainAttempts engine.around.clock ++
      maintainTimesAttempts count (engine.maintain engine.around.clock).1

/-- The attempts of an action: those of the maintenance runs that it makes up for. -/
def actionAttempts (engine : Engine) (action : Action) : List Attempt :=
  match action, engine.maintenance with
  | .maintain, .ticking deadline =>
    let fuel := engine.now.nanos + Instant.tickNanos - deadline.nanos
    maintainTimesAttempts (engine.dueTicks fuel deadline).1 engine
  | _, _ => []

/-- Only maintenance makes attempts by itself. -/
theorem actionAttempts_eq_nil (engine : Engine) {action : Action} (other : action ≠ .maintain) :
    engine.actionAttempts action = [] := by
  cases action with
  | maintain => exact absurd rfl other
  | _ => rfl

/-! ## What attempts do -/

/-- What attempts do to an engine that has not been stopped. -/
structure Queued (before : Engine) (attempts : List Attempt) (after : Engine) : Prop where
  /-- The tunables are the same. -/
  config : after.config = before.config
  /-- The engine is where it was in its life. -/
  phase : after.phase = before.phase
  /-- The dispatcher is about the same. -/
  dispatcher : after.dispatcher = before.dispatcher
  /-- The same batches have been sent and not taken. -/
  channel : after.channel = before.channel
  /-- What was accepted comes after what waited. -/
  queue : after.queue = before.queue ++ Attempt.acceptedOf attempts
  /-- What was turned away is counted once, for its exporter. -/
  busy : ∀ exporter, after.around.totals.busy.of exporter =
    before.around.totals.busy.of exporter + (Attempt.refusedOf exporter attempts).length
  /-- A queue with room does not overflow. -/
  room : before.phase ≠ .stopped → before.queue.length ≤ before.config.queueCapacity →
    after.queue.length ≤ after.config.queueCapacity
  /-- A queue with room turns a request away only when it is full. -/
  fair : before.phase ≠ .stopped → before.queue.length ≤ before.config.queueCapacity →
    ∀ attempt ∈ attempts, attempt.Fair before.config.queueCapacity

variable {before between after engine : Engine}

/-- Without attempts nothing happens to requests. -/
theorem Untouched.queued (untouched : Untouched before after) : Queued before [] after where
  config := untouched.config
  phase := untouched.phase
  dispatcher := untouched.dispatcher
  channel := untouched.channel
  queue := by
    rw [untouched.queue]
    exact (List.append_nil before.queue).symm
  busy exporter := by
    rw [untouched.busy]
    rfl
  room _ room := by
    rw [untouched.queue, untouched.config]
    exact room
  fair _ _ attempt member := by cases member

/-- Attempts after attempts are the attempts together. -/
theorem Queued.append {first second : List Attempt} (earlier : Queued before first between)
    (later : Queued between second after) : Queued before (first ++ second) after where
  config := later.config.trans earlier.config
  phase := later.phase.trans earlier.phase
  dispatcher := later.dispatcher.trans earlier.dispatcher
  channel := later.channel.trans earlier.channel
  queue := by
    rw [later.queue, earlier.queue, Attempt.acceptedOf_append, List.append_assoc]
  busy exporter := by
    rw [later.busy, earlier.busy, Attempt.length_refusedOf_append, Nat.add_assoc]
  room running room := by
    have still : between.phase ≠ .stopped := by
      rw [earlier.phase]
      exact running
    exact later.room still (earlier.room running room)
  fair running room attempt member := by
    have still : between.phase ≠ .stopped := by
      rw [earlier.phase]
      exact running
    rcases List.mem_append.1 member with before_it | after_it
    · exact earlier.fair running room attempt before_it
    · rw [← earlier.config]
      exact later.fair still (earlier.room running room) attempt after_it

/-- An attempt goes as the queue demands. -/
theorem queued_enqueue (engine : Engine) (query : Query) (running : engine.phase ≠ .stopped) :
    Queued engine [engine.attempt query] (engine.enqueue query).1 := by
  by_cases free : engine.queue.length < engine.config.queueCapacity
  · have accepted : engine.enqueue query =
        ({ engine with queue := engine.queue ++ [query] }, true) := by
      rw [enqueue, if_neg running, if_pos free]
    rw [attempt, accepted]
    refine ⟨rfl, rfl, rfl, rfl, rfl, fun _ => rfl, ?_, ?_⟩
    · intro _ _
      simp only [List.length_append, List.length_singleton]
      omega
    · intro _ _ made member
      rw [List.mem_singleton.1 member]
      exact free
  · have refused : engine.enqueue query =
        (engine.count fun totals => { totals with busy := totals.busy.bump query.exporter },
          false) := by
      rw [enqueue, if_neg running, if_neg free]
    rw [attempt, refused]
    refine ⟨rfl, rfl, rfl, rfl, (List.append_nil engine.queue).symm, ?_, fun _ room => room, ?_⟩
    · intro exporter
      have bumped := ExporterTotals.of_bump engine.around.totals.busy query.exporter exporter
      by_cases own : query.exporter = exporter
      · simpa [count, Attempt.refusedOf, own] using bumped
      · simpa [count, Attempt.refusedOf, own] using bumped
    · intro _ room made member
      rw [List.mem_singleton.1 member]
      show engine.queue.length = engine.config.queueCapacity
      omega

/-- Requests that are queued in order are so many attempts. -/
theorem queued_enqueueAll (queries : List Query) (engine : Engine)
    (running : engine.phase ≠ .stopped) :
    Queued engine (attempts queries engine) (enqueueAll queries engine).1 := by
  induction queries generalizing engine with
  | nil => exact (Untouched.refl engine).queued
  | cons query queries ih =>
    have first := queued_enqueue engine query running
    have still : (engine.enqueue query).1.phase ≠ .stopped := by
      rw [first.phase]
      exact running
    exact first.append (ih (engine.enqueue query).1 still)

/-! ## Operations that queue requests -/

/-- A request is judged by what is listed in `Untouched`, and leaves that equal. -/
theorem Untouched.enqueue (untouched : Untouched before after) (query : Query) :
    (after.enqueue query).2 = (before.enqueue query).2 ∧
      Untouched (before.enqueue query).1 (after.enqueue query).1 := by
  unfold Engine.enqueue
  rw [untouched.phase, untouched.queue, untouched.config]
  by_cases stopped : before.phase = .stopped
  · rw [if_pos stopped, if_pos stopped]
    exact ⟨rfl, untouched⟩
  · rw [if_neg stopped, if_neg stopped]
    by_cases free : before.queue.length < before.config.queueCapacity
    · rw [if_pos free, if_pos free]
      exact ⟨rfl, rfl, rfl, rfl, untouched.dispatcher, untouched.channel, untouched.busy⟩
    · rw [if_neg free, if_neg free]
      exact ⟨rfl, untouched.config, untouched.phase, untouched.queue, untouched.dispatcher,
        untouched.channel, congrArg (·.bump query.exporter) untouched.busy⟩

/-- What is untouched makes the same attempt. -/
theorem Untouched.attempt (untouched : Untouched before after) (query : Query) :
    after.attempt query = before.attempt query := by
  rw [Engine.attempt, Engine.attempt, untouched.queue, (untouched.enqueue query).1]

/-- What is untouched makes the same attempts. -/
theorem Untouched.attempts (untouched : Untouched before after) (queries : List Query) :
    attempts queries after = attempts queries before := by
  induction queries generalizing before after with
  | nil => rfl
  | cons query queries ih =>
    rw [Engine.attempts, Engine.attempts, untouched.attempt query,
      ih (untouched.enqueue query).2]

/-- A lookup makes one attempt if it misses and none otherwise. -/
theorem queued_lookup (engine : Engine) (now : Timestamp) (query : Query)
    (running : engine.phase ≠ .stopped) :
    Queued engine (engine.lookupAttempts now query) (engine.lookup now query).1 := by
  have cached (cache : Cache) : Untouched engine { engine with cache } :=
    ⟨rfl, rfl, rfl, rfl, rfl, rfl⟩
  unfold lookup lookupAttempts
  cases engine.cache.lookup now query with
  | mk cache answer =>
    cases answer with
    | some answer => exact (cached cache).queued
    | none =>
      have queued := queued_enqueue { engine with cache } query running
      rw [(cached cache).attempt query] at queued
      exact (cached cache).queued.append queued

/-- A refresh makes an attempt for every entry that is due. -/
theorem queued_refresh (engine : Engine) (now : Timestamp) (running : engine.phase ≠ .stopped) :
    Queued engine
      (attempts (Cache.planQueries
        (engine.cache.needUpdates (since now engine.config.cacheRefresh))) engine)
      (engine.refresh now).1 := by
  have untouched : Untouched engine (engine.count fun totals =>
      { totals with refreshRuns := totals.refreshRuns + 1 }) :=
    Untouched.count engine _ fun _ => rfl
  unfold refresh
  dsimp only
  generalize Cache.planQueries _ = due
  generalize (engine.count fun totals =>
    { totals with refreshRuns := totals.refreshRuns + 1 }) = counted at untouched ⊢
  have running' : counted.phase ≠ .stopped := by
    rw [untouched.phase]
    exact running
  have queued := queued_enqueueAll due counted running'
  rw [untouched.attempts due] at queued
  have both := untouched.queued.append queued
  rw [List.nil_append] at both
  cases enqueued : enqueueAll due counted with
  | mk reached refreshed =>
    rw [enqueued] at both
    dsimp only
    split
    · exact both
    · have recorded : Untouched reached ((reached.count fun totals =>
          { totals with refreshed := totals.refreshed + refreshed }).log (.requeued refreshed)) :=
        ⟨rfl, rfl, rfl, rfl, rfl, rfl⟩
      have all := both.append recorded.queued
      rw [List.append_nil] at all
      exact all

/-- A maintenance run makes an attempt for every entry that is due after others have expired. -/
theorem queued_maintain (engine : Engine) (now : Timestamp) (running : engine.phase ≠ .stopped) :
    Queued engine (engine.maintainAttempts now) (engine.maintain now).1 := by
  have expiry := Untouched.expire engine now
  unfold maintain maintainAttempts
  cases expired : engine.expire now with
  | mk reached count =>
    rw [expired] at expiry
    dsimp only at expiry ⊢
    rw [expiry.config]
    split
    · have running' : reached.phase ≠ .stopped := by
        rw [expiry.phase]
        exact running
      have queued := expiry.queued.append (queued_refresh reached now running')
      rw [List.nil_append, expiry.config] at queued
      exact queued
    · exact expiry.queued

/-- Maintenance runs one after the other make their attempts one after the other. -/
theorem queued_maintainTimes (count : Nat) (engine : Engine) (running : engine.phase ≠ .stopped) :
    Queued engine (maintainTimesAttempts count engine) (maintainTimes count engine) := by
  induction count generalizing engine with
  | zero => exact (Untouched.refl engine).queued
  | succ count ih =>
    have first := queued_maintain engine engine.around.clock running
    have still : (engine.maintain engine.around.clock).1.phase ≠ .stopped := by
      rw [first.phase]
      exact running
    exact first.append (ih _ still)

/-- Maintenance that runs as often as its timer has fired makes the attempts of all its runs. -/
theorem queued_serveTicks (engine : Engine) (deadline : Instant)
    (running : engine.phase ≠ .stopped) :
    Queued engine
      (maintainTimesAttempts
        (engine.dueTicks (engine.now.nanos + Instant.tickNanos - deadline.nanos) deadline).1 engine)
      (engine.serveTicks deadline) := by
  -- The number of ticks stays a name here: only that it is the same on both sides matters.
  obtain ⟨count, next, due, served⟩ := serveTicks_eq engine deadline
  rw [due, served]
  have all := (queued_maintainTimes count engine running).append
    (Untouched.ticking (maintainTimes count engine) (.ticking next)).queued
  rw [List.append_nil] at all
  exact all

end Engine

end FlowEnrichment
