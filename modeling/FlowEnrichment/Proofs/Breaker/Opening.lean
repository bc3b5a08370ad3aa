import FlowEnrichment.Proofs.Breaker.Outage
import Mathlib.Data.List.Chain

/-!
# When a closed breaker opens

A closed breaker keeps a count and the time of the last failure. What it counts is told here by
the outcomes of the calls alone: the count is the length of the longest run of failures at the end
of the history, with no success between them and each at most the time-out after the one before it
(`Tally`). So a breaker that was closed all the time opens with the first outcome that completes a
run of as many failures as its threshold says (`opens_with_first_run`). Calls that are let pass or
dropped and the time that goes on make no difference to it.
-/
namespace FlowEnrichment.Breaker

/-- The end of a call with an outcome. -/
structure Outcome where
  /-- When the call ended. -/
  instant : Instant
  /-- Whether it was successful. -/
  success : Bool
  deriving DecidableEq, Repr

/-! ## Runs of failures -/

/-- Failures that follow one another closely. -/
structure FailureRun (config : BreakerConfig) (run : List Outcome) : Prop where
  /-- None of the outcomes is a success. -/
  failed : ∀ outcome ∈ run, outcome.success = false
  /-- Each comes at most the time-out after the one before it. -/
  close : run.IsChain fun earlier later =>
    later.instant.nanos ≤ earlier.instant.nanos + config.timeout.nanos

/-- The outcomes end with a run of as many failures as open a breaker. -/
def CompletesRun (config : BreakerConfig) (outcomes : List Outcome) : Prop :=
  ∃ run, run <:+ outcomes ∧ run.length = config.errorThreshold.toNat ∧ FailureRun config run

variable {config : BreakerConfig} {run history : List Outcome} {outcome : Outcome}
  {failures : Nat} {last : Option Instant}

/-- The end of a run is a run. -/
theorem FailureRun.suffix {rest : List Outcome} (running : FailureRun config run)
    (ends : rest <:+ run) : FailureRun config rest :=
  ⟨fun outcome member => running.failed outcome (ends.subset member), running.close.suffix ends⟩

/-- No failures are a run. -/
theorem failureRun_nil : FailureRun config [] := ⟨nofun, .nil⟩

/-- A run goes on with a failure that follows its last one closely. -/
theorem failureRun_concat_iff : FailureRun config (run ++ [outcome]) ↔
    FailureRun config run ∧ outcome.success = false ∧
      ∀ earlier ∈ run.getLast?.map Outcome.instant,
        outcome.instant.nanos ≤ earlier.nanos + config.timeout.nanos := by
  constructor
  · rintro ⟨failed, close⟩
    obtain ⟨before, -, link⟩ := List.isChain_append.1 close
    refine ⟨⟨fun earlier member => failed earlier (List.mem_append_left _ member), before⟩,
      failed outcome (by simp), fun instant ended => ?_⟩
    obtain ⟨earlier, final, rfl⟩ := Option.map_eq_some_iff.1 ended
    exact link earlier final outcome rfl
  · rintro ⟨running, failure, link⟩
    refine ⟨fun earlier member => ?_, List.isChain_append.2 ⟨running.close, .singleton _, ?_⟩⟩
    · rcases List.mem_append.1 member with before | same
      · exact running.failed earlier before
      · rwa [List.mem_singleton.1 same]
    · rintro earlier ended _ ⟨⟩
      exact link earlier.instant (Option.map_eq_some_iff.2 ⟨earlier, ended, rfl⟩)

/-! ## Tallies -/

/-- A number of failures and a time are those of the longest run at the end of the outcomes. -/
structure Tally (config : BreakerConfig) (outcomes : List Outcome) (failures : Nat)
    (last : Option Instant) : Prop where
  /-- There is such a run. -/
  counted : ∃ run, run <:+ outcomes ∧ FailureRun config run ∧ run.length = failures ∧
    run.getLast?.map Outcome.instant = last
  /-- None is longer. -/
  longest : ∀ run, run <:+ outcomes → FailureRun config run → run.length ≤ failures

/-- Before the first outcome nothing is counted. -/
theorem tally_nil : Tally config [] 0 none :=
  ⟨⟨[], List.nil_suffix, failureRun_nil, rfl, rfl⟩, fun run ends _ => by
    rw [List.suffix_nil.1 ends, List.length_nil]⟩

/-- A run is completed when the count has reached the threshold. -/
theorem Tally.completesRun_iff (tally : Tally config history failures last) :
    CompletesRun config history ↔ config.errorThreshold.toNat ≤ failures := by
  constructor
  · rintro ⟨run, ends, enough, running⟩
    rw [← enough]
    exact tally.longest run ends running
  · intro enough
    obtain ⟨run, ends, running, length, -⟩ := tally.counted
    have short := List.drop_suffix (failures - config.errorThreshold.toNat) run
    refine ⟨_, short.trans ends, ?_, running.suffix short⟩
    rw [List.length_drop, length]
    omega

/-- A success begins the count anew. -/
theorem tally_success (config : BreakerConfig) (history : List Outcome) (now : Instant) :
    Tally config (history ++ [⟨now, true⟩]) 0 none := by
  refine ⟨⟨[], List.nil_suffix, failureRun_nil, rfl, rfl⟩, fun run ends running => ?_⟩
  rcases List.suffix_concat_iff.1 ends with rfl | ⟨before, rfl, -⟩
  · exact Nat.le_refl _
  · cases (failureRun_concat_iff.1 running).2.1

/-- Any failures at the end that are a run end with the last one that is counted. -/
theorem Tally.last_eq (tally : Tally config history failures last) (ends : run <:+ history)
    (running : FailureRun config run) (some_there : run ≠ []) :
    run.getLast?.map Outcome.instant = last := by
  obtain ⟨⟨longest, ends', -, length, rfl⟩, bound⟩ := tally
  have shorter : run.length ≤ longest.length := length ▸ bound run ends running
  obtain ⟨front, rfl⟩ := List.suffix_of_suffix_length_le ends ends' shorter
  rw [List.getLast?_append_of_ne_nil _ some_there]

/-- A failure that follows the last one closely is one more. -/
theorem Tally.failure_of_close (tally : Tally config history failures last) {now : Instant}
    (close : ∀ earlier ∈ last, now.nanos ≤ earlier.nanos + config.timeout.nanos) :
    Tally config (history ++ [⟨now, false⟩]) (failures + 1) (some now) := by
  obtain ⟨run, ends, running, length, rfl⟩ := tally.counted
  refine ⟨⟨run ++ [⟨now, false⟩], List.suffix_concat_iff.2 (.inr ⟨run, rfl, ends⟩),
    failureRun_concat_iff.2 ⟨running, rfl, close⟩, ?_, ?_⟩, fun other within failed => ?_⟩
  · rw [List.length_append, length, List.length_singleton]
  · rw [List.getLast?_concat]
    rfl
  · rcases List.suffix_concat_iff.1 within with rfl | ⟨before, rfl, earlier⟩
    · exact Nat.zero_le _
    · rw [List.length_append, List.length_singleton]
      exact Nat.succ_le_succ (tally.longest before earlier (failureRun_concat_iff.1 failed).1)

/-- A failure that comes too long after the last one is the first of its run. -/
theorem Tally.failure_of_late {earlier now : Instant}
    (tally : Tally config history failures (some earlier))
    (late : earlier.nanos + config.timeout.nanos < now.nanos) :
    Tally config (history ++ [⟨now, false⟩]) 1 (some now) := by
  have alone : FailureRun config ([] ++ [⟨now, false⟩]) :=
    failureRun_concat_iff.2 ⟨failureRun_nil, rfl, by simp⟩
  refine ⟨⟨_, List.suffix_append _ _, alone, rfl, rfl⟩, fun other within failed => ?_⟩
  rcases List.suffix_concat_iff.1 within with rfl | ⟨before, rfl, inside⟩
  · exact Nat.zero_le _
  · obtain ⟨failed, -, link⟩ := failureRun_concat_iff.1 failed
    by_cases nothing : before = []
    · rw [nothing]
      exact Nat.le_refl _
    · rw [tally.last_eq inside failed nothing] at link
      exact absurd (link earlier rfl) (Nat.not_le_of_lt late)

/-- A failure is counted as a breaker counts it, which forgets those before it if they are too far
back. -/
theorem Tally.failure {breaker : Breaker} (tally : Tally config history failures last)
    (thresholds : breaker.config = config) (now : Instant) :
    Tally config (history ++ [⟨now, false⟩]) (breaker.remembered now failures last + 1)
      (some now) := by
  subst thresholds
  cases last with
  | none => exact tally.failure_of_close (by simp)
  | some earlier =>
    by_cases recent : now.nanos ≤ earlier.nanos + breaker.config.timeout.nanos
    · rw [remembered_of_recent recent]
      exact tally.failure_of_close fun _ same => Option.some.inj same ▸ recent
    · have late := Nat.lt_of_not_le recent
      have old : breaker.config.timeout.nanos < now.nanos - earlier.nanos := by omega
      have forgotten : breaker.remembered now failures (some earlier) = 0 := by
        simp [remembered, old]
      rw [forgotten]
      exact tally.failure_of_late late

namespace Traffic

/-! ## Outcomes of a run -/

/-- The outcome with which an act ends a call; nothing if it ends none with an outcome. -/
def outcome? (traffic : Traffic) : Act → Option Outcome
  | .finish number success => (traffic.find? number).map fun _ => ⟨traffic.now, success⟩
  | .call | .drop _ | .wait _ => none

/-- The outcomes of calls in the course of acts. -/
def outcomesFrom : Traffic → List Act → List Outcome
  | _, [] => []
  | traffic, act :: acts => (traffic.outcome? act).toList ++ outcomesFrom (traffic.step act) acts

/-- The outcomes of calls to a new breaker. -/
def outcomesOf (config : BreakerConfig) (acts : List Act) : List Outcome :=
  outcomesFrom (fresh config) acts

variable {traffic : Traffic} {acts : List Act} {act : Act}

/-- Outcomes in the course of acts and one more are those before and that of the last act. -/
theorem outcomesFrom_concat (traffic : Traffic) (acts : List Act) (act : Act) :
    outcomesFrom traffic (acts ++ [act]) =
      outcomesFrom traffic acts ++ ((acts.foldl step traffic).outcome? act).toList := by
  induction acts generalizing traffic with
  | nil => simp [outcomesFrom]
  | cons first acts ih =>
    rw [List.cons_append, outcomesFrom, outcomesFrom, ih, List.foldl_cons, List.append_assoc]

/-- An act on a closed breaker leaves its status as it is, unless it ends a call with an outcome,
which is recorded. -/
theorem step_of_closed (closed : traffic.breaker.status = .closed failures last) (act : Act) :
    (traffic.outcome? act = none ∧ (traffic.step act).breaker.status = .closed failures last) ∨
      ∃ success, traffic.outcome? act = some ⟨traffic.now, success⟩ ∧
        (traffic.step act).breaker = (traffic.breaker.record traffic.now success).breaker := by
  cases act with
  | call =>
    refine .inl ⟨rfl, ?_⟩
    cases entered : traffic.breaker.enter traffic.now with
    | none => simpa only [step, entered] using closed
    | some passed =>
      obtain ⟨next, call⟩ := passed
      simp only [enter, closed, Option.some.injEq, Prod.mk.injEq] at entered
      simp only [step, enter, closed]
  | finish number success =>
    cases found : traffic.find? number with
    | none => exact .inl ⟨by simp [outcome?, found], by simpa only [step, found] using closed⟩
    | some live =>
      exact .inr ⟨success, by simp [outcome?, found], by simp only [step, found, endCall]⟩
  | drop number =>
    refine .inl ⟨rfl, ?_⟩
    cases found : traffic.find? number with
    | none => simpa only [step, found] using closed
    | some live =>
      have same : (traffic.breaker.drop traffic.now live.call).breaker = traffic.breaker := by
        simp [Breaker.drop, abandon, closed]
      simpa only [step, found, endCall, same] using closed
  | wait duration => exact .inl ⟨rfl, closed⟩

/-- After acts a breaker is closed, with a count below the threshold that is the tally of the
outcomes. -/
def Counting (config : BreakerConfig) (acts : List Act) : Prop :=
  ∃ failures last, (after config acts).breaker.status = .closed failures last ∧
    Tally config (outcomesOf config acts) failures last ∧
    failures < config.errorThreshold.toNat

/-- A breaker that counts has seen no whole run. -/
theorem Counting.not_completesRun (counting : Counting config acts) :
    ¬ CompletesRun config (outcomesOf config acts) := by
  obtain ⟨failures, last, -, tally, low⟩ := counting
  rw [tally.completesRun_iff]
  exact Nat.not_le_of_lt low

/-- A breaker that counts is closed. -/
theorem Counting.closed (counting : Counting config acts) (now : Instant) :
    (after config acts).breaker.state now = .closed := by
  obtain ⟨failures, last, closed, -⟩ := counting
  simp [state, closed]

/-- An act leaves a breaker that counts so, or it completes a run and opens the breaker. -/
theorem Counting.concat (counting : Counting config acts) {deadline : Instant}
    (ends : (after config acts).now.add? config.timeout = some deadline) (act : Act) :
    Counting config (acts ++ [act]) ∨
      CompletesRun config (outcomesOf config (acts ++ [act])) ∧
        (after config (acts ++ [act])).breaker.status = .opened deadline := by
  obtain ⟨failures, last, closed, tally, low⟩ := counting
  have thresholds := after_config config acts
  unfold Counting outcomesOf
  rw [after_concat, outcomesFrom_concat]
  show (∃ failures last, _ ∧
      Tally config (_ ++ ((after config acts).outcome? act).toList) _ _ ∧ _) ∨
    CompletesRun config (_ ++ ((after config acts).outcome? act).toList) ∧ _
  rcases step_of_closed closed act with ⟨none_there, kept⟩ | ⟨success, ended, recorded⟩
  · rw [none_there, Option.toList_none, List.append_nil]
    exact .inl ⟨failures, last, kept, tally, low⟩
  · rw [ended, Option.toList_some, recorded]
    cases success with
    | true =>
      refine .inl ⟨0, none, ?_, tally_success _ _ _, Nat.lt_of_le_of_lt (Nat.zero_le _) low⟩
      simp [record, closed]
    | false =>
      have counted := tally.failure thresholds (after config acts).now
      have status := record_failure_closed closed (by rw [thresholds]; exact ends)
      rw [thresholds] at status
      rw [status]
      by_cases enough : config.errorThreshold.toNat ≤
          (after config acts).breaker.remembered (after config acts).now failures last + 1
      · rw [if_pos enough]
        exact .inr ⟨counted.completesRun_iff.2 enough, rfl⟩
      · rw [if_neg enough]
        exact .inl ⟨_, _, rfl, counted, Nat.lt_of_not_le enough⟩

/-- If a cool-down has an end after acts it has one in the course of them. -/
theorem ends_before {prior : List Act} (begins : prior <+: acts)
    (ends : ((after config acts).now.add? config.timeout).isSome = true) :
    ((after config prior).now.add? config.timeout).isSome = true := by
  obtain ⟨rest, rfl⟩ := begins
  induction rest using List.reverseRecOn with
  | nil => rwa [List.append_nil] at ends
  | append_singleton rest act ih =>
    rw [← List.append_assoc, after_concat] at ends
    exact ih (Instant.add?_isSome_of_le (now_le_step _ act) ends)

/-- A breaker counts until an outcome completes a run and opens it. -/
theorem counting_or_opened (positive : 0 < config.errorThreshold.toNat)
    (ends : ((after config acts).now.add? config.timeout).isSome = true) :
    Counting config acts ∨ ∃ prior, prior <+: acts ∧
      CompletesRun config (outcomesOf config prior) ∧
      ∃ deadline, (after config prior).breaker.status = .opened deadline := by
  induction acts using List.reverseRecOn with
  | nil => exact .inl ⟨0, none, rfl, tally_nil, positive⟩
  | append_singleton acts act ih =>
    have begins : acts <+: acts ++ [act] := List.prefix_append _ _
    have earlier := ends_before begins ends
    obtain ⟨deadline, added⟩ := Option.isSome_iff_exists.1 earlier
    rcases ih earlier with counting | ⟨prior, within, rest⟩
    · rcases counting.concat added act with still | ⟨completed, opened⟩
      · exact .inl still
      · exact .inr ⟨_, List.prefix_rfl, completed, deadline, opened⟩
    · exact .inr ⟨prior, within.trans begins, rest⟩

/-- A new breaker is closed at all times as long as the outcomes of its calls complete no run of
failures, and the first outcome that completes one opens it for its cool-down, whatever else
happens in between and afterwards. -/
theorem opens_with_first_run (positive : 0 < config.errorThreshold.toNat)
    (ends : ((after config acts).now.add? config.timeout).isSome = true) :
    ((∀ prior, prior <+: acts → ¬ CompletesRun config (outcomesOf config prior)) ↔
        ∀ prior, prior <+: acts →
          (after config prior).breaker.state (after config prior).now = .closed) ∧
      ∀ before act, before ++ [act] <+: acts →
        (∀ prior, prior <+: before → ¬ CompletesRun config (outcomesOf config prior)) →
        CompletesRun config (outcomesOf config (before ++ [act])) →
        (after config (before ++ [act])).breaker.status =
          .opened ⟨(after config before).now.nanos + config.timeout.nanos⟩ := by
  have counts {prior : List Act} (within : prior <+: acts)
      (no_run : ∀ earlier, earlier <+: prior →
        ¬ CompletesRun config (outcomesOf config earlier)) : Counting config prior := by
    rcases counting_or_opened positive (ends_before within ends) with
      counting | ⟨earlier, begins, completed, -⟩
    · exact counting
    · exact absurd completed (no_run earlier begins)
  refine ⟨⟨fun no_run prior within => ?_, fun closed prior within => ?_⟩,
    fun before act within no_run completed => ?_⟩
  · exact (counts within fun earlier begins => no_run earlier (begins.trans within)).closed _
  · rcases counting_or_opened positive (ends_before within ends) with
      counting | ⟨earlier, begins, -, deadline, opened⟩
    · exact counting.not_completesRun
    · have state := closed earlier (begins.trans within)
      rw [Breaker.state, opened] at state
      dsimp only at state
      split at state <;> cases state
  · have begins : before <+: acts := (List.prefix_append before [act]).trans within
    obtain ⟨deadline, added⟩ := Option.isSome_iff_exists.1 (ends_before begins ends)
    rcases (counts begins no_run).concat added act with still | ⟨-, opened⟩
    · exact absurd completed still.not_completesRun
    · rw [opened, ← Instant.nanos_of_add? added]

/-- Of three failures the first is too far back when the second comes, and a call that is dropped
does not count. The third failure comes exactly the time-out after the second, and opens the
breaker. -/
theorem opens_with_first_run_of_close_failures :
    let config : BreakerConfig := { errorThreshold := 2, timeout := ⟨10⟩ }
    let before : List Act :=
      [.call, .call, .call, .call, .finish 0 false, .wait ⟨11⟩, .finish 1 false, .drop 2,
        .wait ⟨10⟩]
    0 < config.errorThreshold.toNat ∧
      ((after config (before ++ [.finish 3 false])).now.add? config.timeout).isSome = true ∧
      (∀ prior, prior <+: before →
        (after config prior).breaker.state (after config prior).now = .closed) ∧
      (after config (before ++ [.finish 3 false])).breaker.status = .opened ⟨31⟩ := by
  intro config before
  have positive : 0 < config.errorThreshold.toNat := by decide
  have ends : ((after config (before ++ [.finish 3 false])).now.add? config.timeout).isSome =
      true := by decide +kernel
  have closed : ∀ prior, prior <+: before →
      (after config prior).breaker.state (after config prior).now = .closed := by
    simp only [← List.mem_inits]
    decide +kernel
  have no_run := (opens_with_first_run positive
    (ends_before (List.prefix_append before _) ends)).1.2 closed
  have outcomes : outcomesOf config (before ++ [.finish 3 false]) =
      [⟨⟨0⟩, false⟩, ⟨⟨11⟩, false⟩, ⟨⟨21⟩, false⟩] := by decide +kernel
  have running : FailureRun config [⟨⟨11⟩, false⟩, ⟨⟨21⟩, false⟩] :=
    ⟨by simp, by simp [config]⟩
  have completed : CompletesRun config (outcomesOf config (before ++ [.finish 3 false])) :=
    ⟨_, outcomes ▸ List.suffix_cons _ _, rfl, running⟩
  exact ⟨positive, ends, closed,
    (opens_with_first_run positive ends).2 before _ List.prefix_rfl no_run completed⟩

end Traffic

end FlowEnrichment.Breaker
