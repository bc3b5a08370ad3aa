import FlowEnrichment.Breaker.Table
import FlowEnrichment.Proofs.Breaker.Lateness

/-!
# Thresholds and counts

As long as the ends of cool-downs are instants, the counts of a breaker stay below its thresholds:
the count that reaches a threshold opens or closes it instead (`Breaker.Below`). This holds in every
run of a breaker, in whatever state it is when a call ends (`Traffic.counts_below_thresholds`), so
no count leaves the range of the thresholds, which is that of words. The breakers of a table have
the thresholds of the table, so it holds of every breaker that is ever made (`BreakerTable.Below`).
-/
namespace FlowEnrichment

/-- Neither threshold is zero. -/
structure BreakerConfig.Positive (config : BreakerConfig) : Prop where
  /-- Some failures are needed to open a breaker. -/
  errors : 0 < config.errorThreshold.toNat
  /-- Some successes are needed to close a breaker. -/
  successes : 0 < config.successThreshold.toNat

/-- What is added to an instant in range gives an instant in range, if it gives any. -/
theorem Instant.lt_of_add? {instant next : Instant} {duration : Duration}
    (added : instant.add? duration = some next) : next.nanos < rangeNanos := by
  unfold add? at added
  dsimp only at added
  split at added
  case isTrue inside =>
    cases added
    exact inside
  case isFalse => cases added

/-- The counts of a status are below the thresholds, the last failure is known if one counts, and
a cool-down ends at an instant. -/
def BreakerStatus.Below (config : BreakerConfig) : BreakerStatus → Prop
  | .closed failures last =>
    failures < config.errorThreshold.toNat ∧ (last.isSome = true ↔ 0 < failures)
  | .opened deadline => deadline.nanos < rangeNanos
  | .halfOpen successes _ => successes < config.successThreshold.toNat

namespace Breaker

variable {config : BreakerConfig} {breaker next : Breaker} {now : Instant} {call : BreakerCall}

/-- A breaker has the given thresholds and its counts are below them. -/
structure Below (config : BreakerConfig) (breaker : Breaker) : Prop where
  /-- It has the thresholds. -/
  thresholds : breaker.config = config
  /-- Its counts are below them. -/
  counts : breaker.status.Below config

/-- A new breaker has counted nothing. -/
theorem below_fresh (positive : config.Positive) : Below config { config } :=
  ⟨rfl, positive.errors, by simp⟩

/-- A call that passes counts nothing. -/
theorem Below.enter (below : Below config breaker) (positive : config.Positive)
    (entered : breaker.enter now = some (next, call)) : Below config next := by
  refine ⟨(enter_config entered).trans below.thresholds, ?_⟩
  have counts := below.counts
  rcases enter_cases entered with ⟨-, rfl, -⟩ | ⟨-, ⟨successes, reached⟩, -⟩
  · exact counts
  · rw [reached]
    rcases enter_halfOpen entered reached with ⟨-, none_yet⟩ | earlier
    · rw [none_yet]
      exact positive.successes
    · rw [earlier] at counts
      exact counts

/-- A breaker that opens is below its thresholds, and its cool-down ends. -/
theorem below_trip (thresholds : breaker.config = config)
    (ends : (now.add? config.timeout).isSome) :
    Below config (breaker.trip now).breaker ∧ (breaker.trip now).overflow = false := by
  obtain ⟨deadline, added⟩ := Option.isSome_iff_exists.1 ends
  rw [← thresholds] at added
  unfold trip
  rw [added]
  exact ⟨⟨thresholds, Instant.lt_of_add? added⟩, rfl⟩

/-- An outcome that completes a threshold opens or closes the breaker, and any other is counted
below it. -/
theorem Below.record (below : Below config breaker) (positive : config.Positive)
    (ends : (now.add? config.timeout).isSome) (success : Bool) :
    Below config (breaker.record now success).breaker ∧
      (breaker.record now success).overflow = false := by
  obtain ⟨thresholds, counts⟩ := below
  have closed : Below config { breaker with status := .closed 0 none } :=
    ⟨thresholds, positive.errors, by simp⟩
  unfold Breaker.record
  split
  case h_1 failures last known =>
    split
    · exact ⟨closed, rfl⟩
    · dsimp only
      split
      · exact below_trip thresholds ends
      case isFalse few =>
        rw [thresholds] at few
        exact ⟨⟨thresholds, Nat.lt_of_not_le few, by simp⟩, rfl⟩
  case h_2 successes running known =>
    split
    · exact below_trip thresholds ends
    · split
      · exact ⟨closed, rfl⟩
      case isFalse few =>
        rw [thresholds] at few
        exact ⟨⟨thresholds, Nat.lt_of_not_le few⟩, rfl⟩
  case h_3 => exact ⟨⟨thresholds, counts⟩, rfl⟩

/-- A call that is dropped counts nothing. -/
theorem Below.drop (below : Below config breaker) (ends : (now.add? config.timeout).isSome)
    (call : BreakerCall) : Below config (breaker.drop now call).breaker := by
  unfold Breaker.drop abandon
  split
  · split
    · exact (below_trip below.thresholds ends).1
    · exact below
  · exact below

/-- No more failures count than were counted. -/
theorem remembered_le (breaker : Breaker) (now : Instant) (failures : Nat)
    (last : Option Instant) : breaker.remembered now failures last ≤ failures := by
  unfold remembered
  split
  · split
    · exact Nat.zero_le failures
    · exact Nat.le_refl failures
  · exact Nat.le_refl failures

/-! ## Runs -/

namespace Traffic

variable {traffic : Traffic} {acts : List Act}

/-- Whatever happens leaves a breaker below its thresholds. -/
theorem below_step (below : Below config traffic.breaker) (positive : config.Positive)
    (ends : (traffic.now.add? config.timeout).isSome) (act : Act) :
    Below config (traffic.step act).breaker := by
  rcases step_cases traffic act with same | ⟨_, _, -, entered, stepped⟩ |
    ⟨_, success, _, -, -, -, stepped⟩ | ⟨_, live, -, -, -, stepped⟩ | ⟨_, -, stepped⟩
  · rw [same]
    exact below
  · rw [stepped]
    exact below.enter positive entered
  · rw [stepped]
    exact (below.record positive ends success).1
  · rw [stepped]
    exact below.drop ends live.call
  · rw [stepped]
    exact below

/-- A breaker is below its thresholds throughout a run at whose end a cool-down would end. -/
theorem below_after (positive : config.Positive)
    (ends : ((after config acts).now.add? config.timeout).isSome = true) :
    Below config (after config acts).breaker := by
  induction acts using List.reverseRecOn with
  | nil => exact below_fresh positive
  | append_singleton acts act ih =>
    rw [after_concat] at ends ⊢
    have earlier := Instant.add?_isSome_of_le (now_le_step _ act) ends
    exact below_step (ih earlier) positive earlier act

/-- The outcome of an unfinished call is recorded by the breaker. -/
theorem step_finish {live : LiveCall} (member : live ∈ traffic.calls) (success : Bool) :
    (traffic.step (.finish live.number success)).breaker =
      (traffic.breaker.record traffic.now success).breaker := by
  cases found : traffic.find? live.number with
  | none => exact absurd (List.find?_eq_none.1 found live member) (by simp)
  | some other => simp only [step, found, endCall]

/-- In every run of a breaker, a closed one has counted fewer failures than open it and knows the
last one exactly if there is one, and a half-open one has counted fewer successes than close it. One
more of either is still a word. If it is as many as the threshold says, then the call that ended
with it has opened or closed the breaker, and otherwise it has been counted. -/
theorem counts_below_thresholds (config : BreakerConfig) (positive : config.Positive)
    (acts : List Act) (ends : ((after config acts).now.add? config.timeout).isSome = true) :
    (∀ failures last, (after config acts).breaker.status = .closed failures last →
      failures < config.errorThreshold.toNat ∧ (last.isSome = true ↔ 0 < failures) ∧
      ∀ count, count =
          (after config acts).breaker.remembered (after config acts).now failures last + 1 →
        count < UInt32.size ∧ ∀ live ∈ (after config acts).calls,
          (after config (acts ++ [.finish live.number false])).breaker.status =
            if count = config.errorThreshold.toNat then
              .opened ⟨(after config acts).now.nanos + config.timeout.nanos⟩
            else .closed count (some (after config acts).now)) ∧
    ∀ successes running, (after config acts).breaker.status = .halfOpen successes running →
      successes < config.successThreshold.toNat ∧ successes + 1 < UInt32.size ∧
      ∀ live ∈ (after config acts).calls,
        (after config (acts ++ [.finish live.number true])).breaker.status =
          if successes + 1 = config.successThreshold.toNat then .closed 0 none
          else .halfOpen (successes + 1) false := by
  have counts := (below_after positive ends).counts
  have thresholds := after_config config acts
  obtain ⟨deadline, added⟩ := Option.isSome_iff_exists.1 ends
  constructor
  · rintro failures last closed
    rw [closed] at counts
    obtain ⟨few, known⟩ := counts
    refine ⟨few, known, ?_⟩
    rintro count rfl
    have reaches : (after config acts).breaker.remembered (after config acts).now failures last + 1
        ≤ config.errorThreshold.toNat :=
      Nat.lt_of_le_of_lt (remembered_le _ _ failures last) few
    refine ⟨Nat.lt_of_le_of_lt reaches config.errorThreshold.toNat_lt, fun live member => ?_⟩
    rw [after_concat, step_finish member, record_failure_closed closed (by rwa [thresholds]),
      thresholds, ← Instant.nanos_of_add? added]
    exact if_congr ⟨Nat.le_antisymm reaches, Nat.le_of_eq ∘ Eq.symm⟩ rfl rfl
  · intro successes running halfOpen
    rw [halfOpen] at counts
    have few : successes < config.successThreshold.toNat := counts
    refine ⟨few, Nat.lt_of_le_of_lt few config.successThreshold.toNat_lt, fun live member => ?_⟩
    rw [after_concat, step_finish member, record_success_halfOpen halfOpen, thresholds]
    exact if_congr ⟨Nat.le_antisymm few, Nat.le_of_eq ∘ Eq.symm⟩ rfl rfl

/-- A call that was admitted before the breaker opened ends during the half-open period, when the
trial has already been counted. The thresholds are the greatest there are but for the one that
opens the breaker. -/
theorem counts_below_thresholds_of_late_success :
    let config : BreakerConfig :=
      { errorThreshold := 1, successThreshold := 4294967295, timeout := ⟨10⟩ }
    let acts : List Act :=
      [.call, .call, .finish 0 false, .wait ⟨10⟩, .call, .finish 2 true]
    config.Positive ∧ ((after config acts).now.add? config.timeout).isSome = true ∧
      (after config acts).breaker.status = .halfOpen 1 false ∧
      1 < config.successThreshold.toNat ∧ 1 + 1 < UInt32.size ∧
      (after config (acts ++ [.finish 1 true])).breaker.status = .halfOpen 2 false := by
  intro config acts
  have positive : config.Positive := ⟨by decide, by decide⟩
  have ends : ((after config acts).now.add? config.timeout).isSome = true := by decide +kernel
  have halfOpen : (after config acts).breaker.status = .halfOpen 1 false := by decide +kernel
  have late : (⟨1, ⟨false⟩⟩ : LiveCall) ∈ (after config acts).calls := by decide +kernel
  obtain ⟨few, word, ended⟩ :=
    (counts_below_thresholds config positive acts ends).2 1 false halfOpen
  exact ⟨positive, ends, halfOpen, few, word, (ended _ late).trans (if_neg (by decide))⟩

end Traffic

end Breaker

namespace BreakerTable

variable {config : BreakerConfig} {table : BreakerTable} {exporter : Address} {breaker : Breaker}
  {now : Instant}

/-- Every breaker of a table has the thresholds of the table and is below them. -/
structure Below (config : BreakerConfig) (table : BreakerTable) : Prop where
  /-- The table has the thresholds. -/
  thresholds : table.config = config
  /-- The breakers are below them. -/
  breakers : ∀ entry ∈ table.breakers, entry.2.Below config

/-- A breaker that is found is among those that were made. -/
theorem mem_of_find? (found : table.find? exporter = some breaker) :
    (exporter, breaker) ∈ table.breakers := by
  obtain ⟨earlier, later, split, -⟩ := List.lookup_eq_some_iff.1 found
  rw [split]
  exact List.mem_append_right _ List.mem_cons_self

/-- Where a breaker is put there are that one and others that were there. -/
theorem mem_put {entry : Address × Breaker} {breakers : List (Address × Breaker)}
    (member : entry ∈ put exporter breaker breakers) : entry.2 = breaker ∨ entry ∈ breakers := by
  induction breakers with
  | nil =>
    rw [put, List.mem_singleton] at member
    exact .inl (member ▸ rfl)
  | cons first rest ih =>
    rw [put] at member
    split at member
    · rcases List.mem_cons.1 member with same | inside
      · exact .inl (same ▸ rfl)
      · exact .inr (List.mem_cons_of_mem first inside)
    · rcases List.mem_cons.1 member with same | inside
      · exact .inr (same ▸ List.mem_cons_self)
      · exact (ih inside).imp_right (List.mem_cons_of_mem first)

/-- A breaker that is needed is below its thresholds. -/
theorem Below.get (below : Below config table) (positive : config.Positive) (exporter : Address) :
    (table.get exporter).Below config := by
  unfold BreakerTable.get
  cases found : table.find? exporter with
  | some breaker => exact below.breakers _ (mem_of_find? found)
  | none =>
    rw [Option.getD_none, below.thresholds]
    exact Breaker.below_fresh positive

/-- A breaker below its thresholds may be put. -/
theorem Below.set (below : Below config table) (new : breaker.Below config) (exporter : Address) :
    (table.set exporter breaker).Below config := by
  refine ⟨below.thresholds, fun entry member => ?_⟩
  rcases mem_put member with same | before
  · rw [same]
    exact new
  · exact below.breakers entry before

/-- A call that is let pass or rejected counts nothing. -/
theorem Below.enter (below : Below config table) (positive : config.Positive) (exporter : Address)
    (now : Instant) : (table.enter exporter now).1.Below config := by
  have needed := below.get positive exporter
  unfold BreakerTable.enter
  split
  case h_1 breaker call entered => exact below.set (needed.enter positive entered) exporter
  case h_2 => exact below.set needed exporter

/-- An outcome leaves every breaker below its thresholds. -/
theorem Below.record (below : Below config table) (positive : config.Positive)
    (ends : (now.add? config.timeout).isSome) (exporter : Address) (success : Bool) :
    (table.record exporter now success).table.Below config ∧
      (table.record exporter now success).overflow = false := by
  obtain ⟨counted, settled⟩ := (below.get positive exporter).record positive ends success
  exact ⟨below.set counted exporter, settled⟩

end BreakerTable

end FlowEnrichment
