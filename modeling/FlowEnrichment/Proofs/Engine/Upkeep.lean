import FlowEnrichment.Proofs.Engine.Refreshing

/-!
# A maintenance run

A maintenance run removes what was not accessed since one time and asks again for what was not
updated since another (`Engine.threshold`). The entries that are due are offered to the queue one by
one in ascending order; those that find room are accepted, and the others are counted for their
exporters. `Engine.Maintained` says all of this of an engine before and after a run, and
`Engine.maintain_maintains` that it holds whatever the cache, the queue and the times are.
-/
namespace FlowEnrichment

/-! ## The order of queries -/

namespace Query

variable {a b c : Query}

/-- A query comes before another: its exporter does, or the exporters are the same and its index is
smaller. -/
def Precedes (a b : Query) : Prop :=
  a.exporter.bits < b.exporter.bits ∨ a.exporter = b.exporter ∧ a.index < b.index

/-- Queries are ordered by the numbers of their exporters and then by their indexes. -/
theorem le_iff : le a b = true ↔
    a.exporter.bits.toNat < b.exporter.bits.toNat ∨
      a.exporter.bits.toNat = b.exporter.bits.toNat ∧ a.index.toNat ≤ b.index.toNat := by
  have order : le a b = true ↔
      ((Ord.compare a.exporter.bits.toNat b.exporter.bits.toNat).then
        (Ord.compare a.index.toNat b.index.toNat)) ≠ .gt := bne_iff_ne
  rw [order, Ne, Ordering.then_eq_gt, Nat.compare_eq_gt, Nat.compare_eq_eq, Nat.compare_eq_gt]
  omega

/-- Of different queries in order the first comes before the second. -/
theorem Precedes.of_le (order : le a b = true) (differ : a ≠ b) : a.Precedes b := by
  rcases le_iff.1 order with lower | ⟨same, lower⟩
  · exact .inl (BitVec.lt_def.2 lower)
  · have exporters : a.exporter = b.exporter := congrArg Address.mk (BitVec.toNat_inj.1 same)
    refine .inr ⟨exporters, UInt32.lt_iff_toNat_lt.2 (Nat.lt_of_le_of_ne lower fun equal => ?_)⟩
    exact differ (congrArg₂ Query.mk exporters (UInt32.toNat_inj.1 equal))

/-- Different queries that are sorted come one before the other. -/
theorem precedes_mergeSort {α : Type} {queries : List (Query × α)}
    (distinct : (queries.map Prod.fst).Nodup) :
    ((queries.mergeSort fun a b => le a.1 b.1).map Prod.fst).Pairwise Precedes := by
  have sorted : ((queries.mergeSort fun a b => le a.1 b.1).map Prod.fst).Pairwise
      fun a b => le a b = true := by
    refine List.pairwise_map.2 (List.pairwise_mergeSort ?_ ?_ queries)
    · intro a b c
      rw [le_iff, le_iff, le_iff]
      omega
    · intro a b
      rw [Bool.or_eq_true, le_iff, le_iff]
      omega
  have different : ((queries.mergeSort fun a b => le a.1 b.1).map Prod.fst).Nodup :=
    ((List.mergeSort_perm queries _).map Prod.fst).nodup_iff.2 distinct
  exact (sorted.and different).imp fun ⟨order, differ⟩ => .of_le order differ

end Query

/-! ## Totals by exporter -/

namespace ExporterTotals

/-- The totals with one more for the exporter of each of some requests. -/
def bumpAll (queries : List Query) (totals : ExporterTotals) : ExporterTotals :=
  queries.foldl (fun totals query => totals.bump query.exporter) totals

/-- The total of an exporter grows by the number of its requests. -/
theorem of_bumpAll (queries : List Query) (totals : ExporterTotals) (exporter : Address) :
    ExporterTotals.of (totals.bumpAll queries) exporter =
      totals.of exporter + queries.countP fun query => query.exporter = exporter := by
  induction queries generalizing totals with
  | nil => rfl
  | cons query queries ih =>
    rw [bumpAll, List.foldl_cons]
    refine (ih (totals.bump query.exporter)).trans ?_
    rw [of_bump, List.countP_cons]
    simp only [decide_eq_true_eq]
    omega

end ExporterTotals

/-- Old entries are asked for again unless the age is zero. -/
theorem Configuration.refreshes_iff (config : Configuration) :
    config.refreshes ↔ config.cacheRefresh ≠ .zero := by
  unfold refreshes Duration.isZero Duration.zero
  rw [Bool.not_eq_true', beq_eq_false_iff_ne, ne_eq, ne_eq, Duration.mk.injEq]

namespace Engine

variable {engine : Engine} {now : Timestamp} {queries : List Query}

/-! ## Thresholds -/

/-- The time that lies an age before another, in nanoseconds since the epoch and within the range of
words; the epoch if there is no such time. -/
def threshold (now : Timestamp) (age : Duration) : Nat :=
  let past := now.nanos - age.nanos
  if Timestamp.inRange past then min past.toNat (UInt64.size - 1) else 0

/-- What entries are compared with is the threshold. -/
theorem toNat_since_word (now : Timestamp) (age : Duration) :
    (since now age).word.toNat = threshold now age := by
  unfold since Timestamp.sub? threshold
  dsimp only
  split
  · exact Timestamp.toNat_word _
  · rfl

/-! ## Offers to the queue -/

/-- An engine that is stopped accepts nothing and counts nothing. -/
theorem enqueue_of_stopped (stopped : engine.phase = .stopped) (query : Query) :
    engine.enqueue query = (engine, false) := by
  rw [enqueue, if_pos stopped]

/-- So it is with several requests. -/
theorem enqueueAll_of_stopped (stopped : engine.phase = .stopped) (queries : List Query) :
    enqueueAll queries engine = (engine, 0) := by
  induction queries with
  | nil => rfl
  | cons query queries ih =>
    rw [enqueueAll, enqueue_of_stopped stopped]
    dsimp only
    rw [ih]
    rfl

/-- The places in the queue that are free; none once the engine is stopped. -/
def free (engine : Engine) : Nat :=
  if engine.phase = .stopped then 0 else engine.config.queueCapacity - engine.queue.length

/-- The offered requests that find no place in the queue; once the engine is stopped they are not
looked at. -/
def turnedAway (engine : Engine) (offered : List Query) : List Query :=
  if engine.phase = .stopped then [] else offered.drop engine.free

/-- Of the requests that are offered the first ones fill the queue, and the others are counted for
their exporters. -/
theorem enqueueAll_of_running (running : engine.phase ≠ .stopped) (queries : List Query) :
    let free := engine.config.queueCapacity - engine.queue.length
    enqueueAll queries engine =
      ({ engine with queue := engine.queue ++ queries.take free }.count fun totals =>
          { totals with busy := totals.busy.bumpAll (queries.drop free) },
        (queries.take free).length) := by
  induction queries generalizing engine with
  | nil =>
    simp only [List.take_nil, List.drop_nil, List.append_nil]
    rfl
  | cons query queries ih =>
    dsimp only at ih ⊢
    rw [enqueueAll]
    by_cases room : engine.queue.length < engine.config.queueCapacity
    · have accepted : engine.enqueue query =
          ({ engine with queue := engine.queue ++ [query] }, true) := by
        rw [enqueue, if_neg running, if_pos room]
      obtain ⟨free, left⟩ : ∃ free, engine.config.queueCapacity - engine.queue.length = free + 1 :=
        Nat.exists_eq_add_one.2 (Nat.sub_pos_of_lt room)
      have fewer : engine.config.queueCapacity - (engine.queue ++ [query]).length = free := by
        rw [List.length_append, List.length_singleton]
        omega
      have rest := @ih { engine with queue := engine.queue ++ [query] } running
      rw [fewer] at rest
      rw [accepted]
      dsimp only
      rw [rest, left, List.take_succ_cons, List.drop_succ_cons, List.length_cons,
        List.append_assoc, if_pos rfl, Nat.add_comm]
      rfl
    · have refused : engine.enqueue query = (engine.count fun totals =>
          { totals with busy := totals.busy.bump query.exporter }, false) := by
        rw [enqueue, if_neg running, if_neg room]
      have full : engine.config.queueCapacity - engine.queue.length = 0 := by omega
      have rest := @ih (engine.count fun totals =>
        { totals with busy := totals.busy.bump query.exporter }) running
      rw [refused]
      dsimp only
      rw [rest]
      simp only [count, full, List.take_zero, List.drop_zero, List.append_nil]
      rfl

/-- Requests that are offered to any engine fill the queue, and those that find no place are counted
for their exporters. -/
theorem enqueueAll_eq (queries : List Query) (engine : Engine) :
    enqueueAll queries engine =
      ({ engine with queue := engine.queue ++ queries.take engine.free }.count fun totals =>
          { totals with busy := totals.busy.bumpAll (engine.turnedAway queries) },
        (queries.take engine.free).length) := by
  by_cases stopped : engine.phase = .stopped
  · rw [enqueueAll_of_stopped stopped, turnedAway, free, if_pos stopped, if_pos stopped,
      List.take_zero, List.append_nil]
    rfl
  · rw [enqueueAll_of_running stopped, turnedAway, free, if_neg stopped, if_neg stopped]

/-- The attempts to queue requests are made for them, in their order. -/
theorem map_query_attempts (queries : List Query) (engine : Engine) :
    (attempts queries engine).map Attempt.query = queries := by
  induction queries generalizing engine with
  | nil => rfl
  | cons query queries ih => rw [attempts, List.map_cons, ih, attempt]

/-! ## A run -/

/-- A refresh offers what is due, and counts itself and what was accepted. -/
theorem refresh_eq (engine : Engine) (now : Timestamp) :
    let offered :=
      Cache.planQueries (engine.cache.needUpdates (since now engine.config.cacheRefresh))
    let accepted := (offered.take engine.free).length
    ∃ events, engine.refresh now =
      ({ engine with
          queue := engine.queue ++ offered.take engine.free
          around :=
            { engine.around with
              events
              totals :=
                { engine.around.totals with
                  refreshRuns := engine.around.totals.refreshRuns + 1
                  refreshed := engine.around.totals.refreshed + accepted
                  busy := engine.around.totals.busy.bumpAll (engine.turnedAway offered) } } },
        accepted) := by
  intro offered accepted
  unfold refresh
  dsimp only
  rw [enqueueAll_eq]
  dsimp only
  by_cases none : accepted = 0
  · refine ⟨engine.around.events, (if_pos none).trans ?_⟩
    rw [none]
    rfl
  · exact ⟨_, if_neg none⟩

/-- What a maintenance run offers to the queue: the requests for what is due after others have
expired. -/
def offers (engine : Engine) (now : Timestamp) : List Query :=
  if engine.config.refreshes then
    Cache.planQueries
      ((engine.expire now).1.cache.needUpdates (since now engine.config.cacheRefresh))
  else []

/-- A run removes what has expired and then offers what is due. -/
theorem maintain_eq (engine : Engine) (now : Timestamp) :
    let accepted := ((engine.offers now).take engine.free).length
    ∃ events, engine.maintain now =
      ({ engine with
          cache := (engine.cache.expire (since now engine.config.cacheDuration)).1
          queue := engine.queue ++ (engine.offers now).take engine.free
          around :=
            { engine.around with
              events
              totals :=
                { engine.around.totals with
                  refreshRuns := engine.around.totals.refreshRuns +
                    if engine.config.refreshes then 1 else 0
                  refreshed := engine.around.totals.refreshed + accepted
                  busy := engine.around.totals.busy.bumpAll
                    (engine.turnedAway (engine.offers now)) } } },
        ⟨(engine.cache.expire (since now engine.config.cacheDuration)).2, accepted⟩) := by
  intro accepted
  obtain ⟨before, expired⟩ := engine.expire_parts now
  by_cases refreshes : engine.config.refreshes
  · obtain ⟨events, refreshed⟩ := (engine.expire now).1.refresh_eq now
    have offered : engine.offers now = Cache.planQueries
        ((engine.expire now).1.cache.needUpdates (since now engine.config.cacheRefresh)) :=
      if_pos refreshes
    have ran : engine.maintain now =
        (((engine.expire now).1.refresh now).1,
          ⟨(engine.expire now).2, ((engine.expire now).1.refresh now).2⟩) := by
      unfold maintain
      dsimp only
      rw [expired]
      exact if_pos refreshes
    refine ⟨events, ?_⟩
    rw [ran, refreshed, if_pos refreshes]
    subst accepted
    rw [offered, expired]
    rfl
  · have offered : engine.offers now = [] := if_neg refreshes
    have nothing : engine.turnedAway [] = [] := by
      unfold turnedAway
      rw [List.drop_nil, ite_self]
    have ran : engine.maintain now = ((engine.expire now).1, ⟨(engine.expire now).2, 0⟩) := by
      unfold maintain
      dsimp only
      rw [expired]
      exact if_neg refreshes
    refine ⟨before, ?_⟩
    subst accepted
    rw [ran, if_neg refreshes, offered, List.take_nil, List.append_nil, nothing, expired]
    rfl

/-- What is offered is in ascending order. -/
theorem offers_ascending (engine : Engine) (now : Timestamp) :
    (engine.offers now).Pairwise Query.Precedes := by
  unfold offers
  split
  · rw [Cache.needUpdates, Cache.planQueries_groupByExporter, List.map_map]
    exact Query.precedes_mergeSort (Store.updatedBefore_lists _ _).1
  · exact .nil

/-- What is offered are the requests for the entries that were not updated since the threshold. -/
theorem mem_offers_iff (refreshes : engine.config.refreshes) {query : Query} :
    query ∈ engine.offers now ↔
      ∃ entry ∈ (engine.expire now).1.cache.store.entries, entry.key = query ∧
        entry.lastUpdate.toNat < threshold now engine.config.cacheRefresh := by
  unfold offers
  rw [if_pos refreshes, Cache.mem_planQueries_iff]
  simp only [Store.find?_eq_some_iff, UInt64.lt_iff_toNat_lt, toNat_since_word, and_assoc]

/-- The attempts of a run are made for what it offers. -/
theorem map_query_maintainAttempts (engine : Engine) (now : Timestamp) :
    (engine.maintainAttempts now).map Attempt.query = engine.offers now := by
  unfold maintainAttempts offers
  dsimp only
  split
  · exact map_query_attempts _ _
  · rfl

/-- What a maintenance run at a time does: it begins with an engine, offers requests to the queue,
and ends with another engine and a report. -/
structure Maintained (engine : Engine) (now : Timestamp) (offered : List Query) (after : Engine)
    (report : MaintenanceReport) : Prop where
  /-- Entries stay as they are if they were accessed since the first threshold. -/
  kept : after.cache.store.entries = engine.cache.store.entries.filter fun entry =>
    threshold now engine.config.cacheDuration ≤ entry.lastAccess.toNat
  /-- The others are removed and reported. -/
  expired : report.expired = engine.cache.store.entries.countP fun entry =>
    entry.lastAccess.toNat < threshold now engine.config.cacheDuration
  /-- The cache counts them and measures its size. -/
  counters : after.cache.counters =
    { engine.cache.counters with
      expired := engine.cache.counters.expired + report.expired
      size := after.cache.size }
  /-- The requests are those that the run tries to queue. -/
  attempts : (engine.maintainAttempts now).map Attempt.query = offered
  /-- Without refreshes there are none. -/
  never : engine.config.cacheRefresh = .zero → offered = []
  /-- Otherwise they are for the entries that stay and were not updated since the second
  threshold. -/
  due : engine.config.cacheRefresh ≠ .zero → ∀ query, query ∈ offered ↔
    ∃ entry ∈ after.cache.store.entries, entry.key = query ∧
      entry.lastUpdate.toNat < threshold now engine.config.cacheRefresh
  /-- They come in ascending order, each of them once. -/
  ascending : offered.Pairwise Query.Precedes
  /-- The first ones fill the queue. -/
  queue : after.queue = engine.queue ++ offered.take engine.free
  /-- They are reported. -/
  refreshed : report.refreshed = (offered.take engine.free).length
  /-- Each of the others is one more for its exporter. -/
  busy : ∀ exporter, after.around.totals.busy.of exporter =
    engine.around.totals.busy.of exporter +
      (engine.turnedAway offered).countP fun query => query.exporter = exporter
  /-- The totals grow by the run and by what it reports. -/
  totals : after.around.totals =
    { engine.around.totals with
      refreshRuns := engine.around.totals.refreshRuns +
        if engine.config.cacheRefresh = .zero then 0 else 1
      refreshed := engine.around.totals.refreshed + report.refreshed
      busy := after.around.totals.busy }
  /-- Nothing else changes, apart from the record of events. -/
  rest : after =
    { engine with
      cache := after.cache
      queue := after.queue
      around :=
        { engine.around with events := after.around.events, totals := after.around.totals } }

/-- A maintenance run maintains, whatever the cache holds, however full the queue is and whatever
time it is. -/
theorem maintain_maintains (engine : Engine) (now : Timestamp) :
    ∃ offered, Maintained engine now offered (engine.maintain now).1 (engine.maintain now).2 := by
  obtain ⟨events, maintained⟩ := engine.maintain_eq now
  obtain ⟨before, left⟩ := engine.expire_parts now
  have refreshes_iff : engine.config.refreshes ↔ engine.config.cacheRefresh ≠ .zero :=
    engine.config.refreshes_iff
  refine ⟨engine.offers now, ?_⟩
  rw [maintained]
  refine
    { kept := ?_
      expired := ?_
      counters := rfl
      attempts := engine.map_query_maintainAttempts now
      never := fun never => if_neg fun refreshes => refreshes_iff.1 refreshes never
      due := fun refreshes query => ?_
      ascending := engine.offers_ascending now
      queue := rfl
      refreshed := rfl
      busy := ExporterTotals.of_bumpAll _ _
      totals := ?_
      rest := rfl }
  · refine List.filter_congr fun entry _ => ?_
    simp only [UInt64.le_iff_toNat_le, toNat_since_word]
  · refine (Store.deleteAccessedBefore_count _ _).trans (List.countP_congr fun entry _ => ?_)
    simp only [UInt64.lt_iff_toNat_lt, toNat_since_word]
  · rw [mem_offers_iff (refreshes_iff.2 refreshes), left]
  · by_cases never : engine.config.cacheRefresh = .zero
    · rw [if_pos never, if_neg fun refreshes => refreshes_iff.1 refreshes never]
    · rw [if_neg never, if_pos (refreshes_iff.2 never)]

end Engine

end FlowEnrichment
