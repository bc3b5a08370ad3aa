import FlowEnrichment.Proofs.Engine.Chronicles
import FlowEnrichment.Proofs.Engine.Crashes

/-!
# Refreshes and idle entries

A refresh asks again for entries that are looked up, and it must not keep others alive: an answer
to it is written like any other, which also counts as an access. It does not, for three reasons. A
valid configuration has entries expire no later than they are refreshed, so the time before which
an entry has expired is never earlier than the one before which it is due, also where one of them
lies before the epoch (`since_word_le`). A maintenance run removes what has expired before it looks
for what is due. And both clocks are compared strictly. So what is due was accessed after it was
written (`accessed_of_mem_maintainAttempts`), and an entry that nobody has read since it was
written is left alone until it is removed (`Flow.idle_entries_expire`).
-/
namespace FlowEnrichment

/-! ## Idle entries -/

namespace Store

variable {κ ν : Type} [DecidableEq κ] {key : κ} {store : Store κ ν}

/-- Whatever is under a key was not accessed after it was written. -/
def Idle (store : Store κ ν) (key : κ) : Prop :=
  ∀ entry, store.find? key = some entry → entry.lastAccess = entry.lastUpdate

/-- A key stays idle when entries are deleted. -/
theorem Idle.deleteAccessedBefore (idle : store.Idle key) (before : Timestamp) :
    (store.deleteAccessedBefore before).1.Idle key :=
  fun entry found => idle entry (find?_deleteAccessedBefore.1 found).1

/-- What writes a key overwrites it. -/
theorem overwrites_of_written? {operation : Operation κ ν} {entry : StoreEntry κ ν}
    (written : operation.written? key = some entry) : operation.Overwrites key := by
  cases operation with
  | put now other value =>
    by_contra other_key
    have unwritten : (Operation.put now other value).written? key = none := if_neg other_key
    rw [unwritten] at written
    cases written
  | replace entries => trivial
  | _ => cases written

/-- What was written last under a key and not read since is as it was written. -/
theorem eq_of_unread {before since : List (Operation κ ν)} {time : Timestamp} {value : ν}
    {entry : StoreEntry κ ν}
    (unread : ∀ operation ∈ since, ¬ operation.Overwrites key ∧ operation.read? key = none)
    (found : (after (before ++ .put time key value :: since)).find? key = some entry) :
    entry = ⟨key, value, time.word, time.word⟩ := by
  induction since using List.reverseRecOn generalizing entry with
  | nil =>
    rw [after_append, find?_apply_eq_some_iff] at found
    rcases found with written | ⟨_, -, ⟨spared, -⟩, -⟩
    · have own : (Operation.put time key value).written? key =
          some ⟨key, value, time.word, time.word⟩ := if_pos rfl
      exact Option.some.inj (written.symm.trans own)
    · exact absurd rfl spared
  | append_singleton since operation ih =>
    have last := unread operation (by simp)
    rw [← List.cons_append, ← List.append_assoc, after_append, find?_apply_eq_some_iff] at found
    rcases found with written | ⟨earlier, found, -, rfl⟩
    · exact absurd (overwrites_of_written? written) last.1
    · rw [aged_of_unread earlier last.2]
      exact ih (fun other among => unread other (List.mem_append_left _ among)) found

end Store

/-! ## Times -/

namespace Timestamp

/-- A word of nanoseconds is their number if that fits. -/
theorem toNat_word (time : Timestamp) :
    time.word.toNat = min time.nanos.toNat (UInt64.size - 1) := by
  have size : UInt64.size = 18446744073709551616 := rfl
  rw [word, UInt64.toNat_ofNat_of_lt']
  omega

/-- A later time has no smaller word. -/
theorem word_le_word {earlier later : Timestamp} (le : earlier.nanos ≤ later.nanos) :
    earlier.word ≤ later.word := by
  rw [UInt64.le_iff_toNat_le, toNat_word, toNat_word]
  omega

/-- Later times within the range of words have greater words. -/
theorem word_lt_word {earlier later : Timestamp} (start : 0 ≤ earlier.nanos)
    (lt : earlier.nanos < later.nanos) (fits : later.nanos < UInt64.size) :
    earlier.word < later.word := by
  have size : UInt64.size = 18446744073709551616 := rfl
  rw [UInt64.lt_iff_toNat_lt, toNat_word, toNat_word]
  omega

end Timestamp

namespace Engine

/-- What is older lies no later, also if one of both times cannot be told. -/
theorem since_word_le {now : Timestamp} (inside : Timestamp.inRange now.nanos)
    {age longer : Duration} (le : age.nanos ≤ longer.nanos) :
    (since now longer).word ≤ (since now age).word := by
  unfold since Timestamp.sub?
  by_cases old : Timestamp.inRange (now.nanos - longer.nanos)
  · have young : Timestamp.inRange (now.nanos - age.nanos) := by
      unfold Timestamp.inRange at *
      simp only [decide_eq_true_eq] at *
      omega
    rw [if_pos old, if_pos young]
    apply Timestamp.word_le_word
    show now.nanos - longer.nanos ≤ now.nanos - age.nanos
    omega
  · rw [if_neg old]
    exact Nat.zero_le _

end Engine

/-! ## Plans -/

namespace Cache

/-- A plan has the queries of which it was made, in their order. -/
theorem planQueries_groupByExporter (due : List (Query × Interface)) :
    planQueries (groupByExporter due) = due.map Prod.fst := by
  induction due with
  | nil => rfl
  | cons first due ih =>
    obtain ⟨query, interface⟩ := first
    rw [List.map_cons, ← ih, groupByExporter]
    cases groupByExporter due with
    | nil => rfl
    | cons group others =>
      obtain ⟨exporter, interfaces⟩ := group
      dsimp only
      split
      case isTrue own =>
        subst own
        rfl
      case isFalse => rfl

/-- A plan has the queries whose entries were last updated before a time. -/
theorem mem_planQueries_iff {cache : Cache} {before : Timestamp} {query : Query} :
    query ∈ planQueries (cache.needUpdates before) ↔
      ∃ entry, cache.store.find? query = some entry ∧ entry.lastUpdate < before.word := by
  rw [needUpdates, planQueries_groupByExporter, List.map_map]
  constructor
  · intro member
    obtain ⟨⟨key, value⟩, listed, rfl⟩ := List.mem_map.1 member
    have due := List.mem_mergeSort.1 listed
    obtain ⟨entry, found, -, early⟩ :=
      ((Store.updatedBefore_lists cache.store before).2 key value).1 due
    exact ⟨entry, found, early⟩
  · rintro ⟨entry, found, early⟩
    have due := ((Store.updatedBefore_lists cache.store before).2 query entry.value).2
      ⟨entry, found, rfl, early⟩
    exact List.mem_map.2 ⟨_, List.mem_mergeSort.2 due, rfl⟩

end Cache

/-- A valid configuration has entries expire no later than they are refreshed. -/
theorem Configuration.duration_le_refresh {config : Configuration}
    (valid : config.validate = .ok ()) (refreshes : config.refreshes) :
    config.cacheDuration.nanos ≤ config.cacheRefresh.nanos := by
  unfold validate at valid
  split_ifs at valid with early
  rw [not_and, Nat.not_lt] at early
  exact early refreshes

namespace Engine

variable {engine : Engine} {now : Timestamp} {attempt : Attempt}

/-! ## What a maintenance run asks for -/

/-- Attempts are made for the queries that are to be queued. -/
theorem mem_of_mem_attempts {queries : List Query} (member : attempt ∈ attempts queries engine) :
    attempt.query ∈ queries := by
  induction queries generalizing engine with
  | nil => cases member
  | cons query queries ih =>
    rcases List.mem_cons.1 member with rfl | later
    · exact List.mem_cons_self
    · exact List.mem_cons_of_mem query (ih later)

/-- Maintenance asks only for entries that it leaves and that were accessed after they were
written. -/
theorem accessed_of_mem_maintainAttempts (valid : engine.config.validate = .ok ())
    (inside : Timestamp.inRange now.nanos) (member : attempt ∈ engine.maintainAttempts now) :
    ∃ entry, (engine.maintain now).1.cache.store.find? attempt.query = some entry ∧
      entry.lastUpdate < entry.lastAccess := by
  obtain ⟨events, expired⟩ := engine.expire_parts now
  unfold maintainAttempts at member
  dsimp only at member
  split at member
  case isFalse => cases member
  case isTrue refreshes =>
    have due := mem_of_mem_attempts member
    rw [expired, Cache.mem_planQueries_iff] at due
    obtain ⟨entry, found, early⟩ := due
    have left : (engine.maintain now).1.cache.store.find? attempt.query = some entry := by
      rw [maintain_store]
      exact found
    have recent : (since now engine.config.cacheDuration).word ≤ entry.lastAccess :=
      (Store.find?_deleteAccessedBefore.1 found).2
    have order := since_word_le inside (engine.config.duration_le_refresh valid refreshes)
    refine ⟨entry, left, ?_⟩
    rw [UInt64.lt_iff_toNat_lt] at early ⊢
    rw [UInt64.le_iff_toNat_le] at recent order
    omega

/-- Maintenance asks for no idle entry. -/
theorem ne_of_mem_maintainAttempts {query : Query} (valid : engine.config.validate = .ok ())
    (inside : Timestamp.inRange now.nanos) (idle : engine.cache.store.Idle query)
    (member : attempt ∈ engine.maintainAttempts now) : attempt.query ≠ query := by
  rintro rfl
  obtain ⟨entry, found, accessed⟩ := accessed_of_mem_maintainAttempts valid inside member
  rw [maintain_store] at found
  have same := idle.deleteAccessedBefore (since now engine.config.cacheDuration) entry found
  rw [same] at accessed
  exact UInt64.lt_irrefl _ accessed

/-- Nor does maintenance that runs several times. -/
theorem ne_of_mem_maintainTimesAttempts {count : Nat} {query : Query}
    (valid : engine.config.validate = .ok ())
    (inside : Timestamp.inRange engine.around.clock.nanos) (idle : engine.cache.store.Idle query)
    (member : attempt ∈ maintainTimesAttempts count engine) : attempt.query ≠ query := by
  induction count generalizing engine with
  | zero => cases member
  | succ count ih =>
    rcases List.mem_append.1 member with first | later
    · exact ne_of_mem_maintainAttempts valid inside idle first
    · obtain ⟨queue, around, maintained, -⟩ := engine.maintain_parts engine.around.clock
      refine ih ?_ ?_ ?_ later
      · rw [maintained]
        exact valid
      · rw [maintain_clock]
        exact inside
      · rw [maintain_store]
        exact idle.deleteAccessedBefore _

/-- No action asks for an idle entry. -/
theorem ne_of_mem_actionAttempts {action : Action} {query : Query}
    (valid : engine.config.validate = .ok ())
    (inside : Timestamp.inRange engine.around.clock.nanos) (idle : engine.cache.store.Idle query)
    (member : attempt ∈ engine.actionAttempts action) : attempt.query ≠ query := by
  unfold actionAttempts at member
  split at member
  · exact ne_of_mem_maintainTimesAttempts valid inside idle member
  · cases member

/-- Maintenance removes an entry that was last accessed before the time before which entries have
expired. -/
theorem maintain_removes {query : Query} {access : Timestamp} (start : 0 ≤ access.nanos)
    (old : access.nanos < now.nanos - engine.config.cacheDuration.nanos)
    (fits : now.nanos - engine.config.cacheDuration.nanos < UInt64.size)
    (last : ∀ entry, engine.cache.store.find? query = some entry →
      entry.lastAccess = access.word) :
    (engine.maintain now).1.cache.store.find? query = none := by
  have inside : Timestamp.inRange (now.nanos - engine.config.cacheDuration.nanos) := by
    unfold Timestamp.inRange rangeNanos nanosPerSecond
    have size : UInt64.size = 18446744073709551616 := rfl
    rw [decide_eq_true_eq]
    omega
  have threshold : since now engine.config.cacheDuration =
      ⟨now.nanos - engine.config.cacheDuration.nanos⟩ := by
    unfold since Timestamp.sub?
    rw [if_pos inside, Option.getD_some]
  rw [Option.eq_none_iff_forall_not_mem]
  intro entry found
  rw [maintain_store, expiry, threshold] at found
  obtain ⟨there, recent⟩ := Store.find?_deleteAccessedBefore.1 found
  rw [last entry there] at recent
  exact UInt64.not_lt.2 recent (Timestamp.word_lt_word start old fits)

end Engine

namespace Flow

open Engine

variable {config : Configuration} {plans : List ProviderPlan} {counters : CacheCounters}
  {around : Surroundings} {trace : Trace} {flow : Flow}

/-- At any moment in the life of an engine, maintenance asks only for entries that it leaves and
that were accessed after they were written. So an entry that was written and that nobody has read
since is never asked for, and the first maintenance run that finds its age beyond the limit removes
it. What was written and read is told by the history of the cache. -/
theorem idle_entries_expire (run : Run config plans counters around trace flow) :
    (∀ now, Timestamp.inRange now.nanos →
      (flow.engine.phase ≠ .stopped → (flow.engine.maintain now).1.queue =
        flow.engine.queue ++ Attempt.acceptedOf (flow.engine.maintainAttempts now)) ∧
      ∀ attempt ∈ flow.engine.maintainAttempts now, ∃ entry,
        (flow.engine.maintain now).1.cache.store.find? attempt.query = some entry ∧
          entry.lastUpdate < entry.lastAccess) ∧
    (∃ history, Chronicle trace history ∧ flow.engine.cache.store = Store.after history) ∧
    ∀ history, flow.engine.cache.store = Store.after history →
      ∀ before (time : Timestamp) query answer since,
        history = before ++ .put time query answer :: since →
        (∀ operation ∈ since, ¬ operation.Overwrites query ∧ operation.read? query = none) →
        (∀ now, Timestamp.inRange now.nanos →
          ∀ attempt ∈ flow.engine.maintainAttempts now, attempt.query ≠ query) ∧
        (Timestamp.inRange flow.engine.around.clock.nanos →
          ∀ action, ∀ attempt ∈ flow.engine.actionAttempts action, attempt.query ≠ query) ∧
        ∀ now : Timestamp, 0 ≤ time.nanos → time.nanos < now.nanos - config.cacheDuration.nanos →
          now.nanos - config.cacheDuration.nanos < UInt64.size →
          (flow.engine.maintain now).1.cache.store.find? query = none := by
  have valid : flow.engine.config.validate = .ok () := by
    rw [run.tunables]
    exact run.valid
  refine ⟨fun now inside => ⟨fun running => ?_, fun attempt member => ?_⟩, run.chronicle, ?_⟩
  · exact (queued_maintain flow.engine now running).queue
  · exact accessed_of_mem_maintainAttempts valid inside member
  · rintro history reached before time query answer since rfl unread
    have written (entry : StoreEntry Query Answer)
        (found : flow.engine.cache.store.find? query = some entry) :
        entry = ⟨query, answer, time.word, time.word⟩ := by
      rw [reached] at found
      exact Store.eq_of_unread unread found
    have idle : flow.engine.cache.store.Idle query := fun entry found => by
      rw [written entry found]
    refine ⟨fun now inside attempt member => ?_, fun inside action attempt member => ?_,
      fun now start old fits => ?_⟩
    · exact ne_of_mem_maintainAttempts valid inside idle member
    · exact ne_of_mem_actionAttempts valid inside idle member
    · rw [← run.tunables] at old fits
      refine maintain_removes start old fits fun entry found => ?_
      rw [written entry found]

/-- Two answers are written at the epoch and one of them is read fifty minutes later. After another
twelve minutes maintenance asks for that one again and removes the other one. -/
theorem idle_entries_expire_beside_used :
    ∃ trace flow, Run {} [Script.plan {} 0] {} {} trace flow ∧
      (flow.engine.cache.store.find? ⟨⟨1⟩, 1⟩).isSome ∧
      flow.engine.maintainAttempts ⟨3720000000000⟩ = [⟨⟨⟨1⟩, 2⟩, 0, true⟩] ∧
      (flow.engine.maintain ⟨3720000000000⟩).1.cache.store.find? ⟨⟨1⟩, 1⟩ = none ∧
      ∀ attempt ∈ flow.engine.maintainAttempts ⟨3720000000000⟩, ∃ entry,
        (flow.engine.maintain ⟨3720000000000⟩).1.cache.store.find? attempt.query = some entry ∧
          entry.lastUpdate < entry.lastAccess := by
  have built : Run {} [Script.plan {} 0] {} {} [] _ := .built rfl
  have first := built.next (.report _ ⟨⟨⟨1⟩, 1⟩, .empty⟩)
  have second := first.next (.report _ ⟨⟨⟨1⟩, 2⟩, .empty⟩)
  have looked := second.next (.lookup _ ⟨3000000000000⟩ ⟨⟨1⟩, 2⟩)
  obtain ⟨asked, -, told⟩ := idle_entries_expire looked
  have idle := told
    [.put ⟨0⟩ ⟨⟨1⟩, 1⟩ .empty, .put ⟨0⟩ ⟨⟨1⟩, 2⟩ .empty, .get ⟨3000000000000⟩ ⟨⟨1⟩, 2⟩] rfl
    [] ⟨0⟩ ⟨⟨1⟩, 1⟩ .empty _ rfl (by simp [Store.Operation.Overwrites, Store.Operation.read?])
  refine ⟨_, _, looked, rfl, by decide +kernel, ?_, ?_⟩
  · exact idle.2.2 ⟨3720000000000⟩ (by decide) (by decide) (by decide)
  · exact (asked ⟨3720000000000⟩ (by decide)).2

end Flow

end FlowEnrichment
