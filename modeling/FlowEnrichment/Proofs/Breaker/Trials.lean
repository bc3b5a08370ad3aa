import FlowEnrichment.Proofs.Breaker.Operations
import FlowEnrichment.Proofs.Breaker.Traffic
import Mathlib.Data.List.Induction

/-!
# Trials of a half-open breaker

A half-open breaker lets one trial pass at a time, and it takes the outcome of any call for that
of the trial. A call that passed while the breaker was closed can therefore end the turn of a
trial that goes on. `single_trial_iff` says that this is the only way to two unfinished trials:
such a stray outcome is recorded beside a trial, and another trial passes before the first has
ended.
-/
namespace FlowEnrichment.Breaker.Traffic

/-- Whether a trial is running and a call with this number is unfinished that is no trial. -/
def Stray (traffic : Traffic) (number : Nat) : Prop :=
  (∃ successes, traffic.breaker.status = .halfOpen successes true) ∧
    ∃ live ∈ traffic.calls, live.number = number ∧ live.call.trial = false

/-- Whether a call made now would pass as a trial. -/
def TriesNext (traffic : Traffic) : Prop :=
  ∃ breaker call, traffic.breaker.enter traffic.now = some (breaker, call) ∧ call.trial = true

/-- Whether a stray outcome was recorded beside a trial in the course of the acts. -/
def Orphaned (config : BreakerConfig) (acts : List Act) (trial : LiveCall) : Prop :=
  ∃ before number success between, acts = before ++ .finish number success :: between ∧
    (after config before).Stray number ∧ trial ∈ (after config before).trials

/-- Whether a trial passes in the course of the acts while another one is unfinished beside
which a stray outcome was recorded. -/
def Overlapping (config : BreakerConfig) (acts : List Act) : Prop :=
  ∃ prior trial, prior ++ [.call] <+: acts ∧ Orphaned config prior trial ∧
    trial ∈ (after config prior).trials ∧ (after config prior).TriesNext

/-- A stray outcome stays recorded. -/
theorem Orphaned.concat {config : BreakerConfig} {acts : List Act} {trial : LiveCall}
    (orphaned : Orphaned config acts trial) (act : Act) :
    Orphaned config (acts ++ [act]) trial := by
  obtain ⟨before, number, success, between, rfl, stray, unfinished⟩ := orphaned
  exact ⟨before, number, success, between ++ [act], by simp, stray, unfinished⟩

/-- Acts without an overlap have none in their beginnings. -/
theorem Overlapping.mono {config : BreakerConfig} {acts more : List Act} (begins : acts <+: more)
    (overlapping : Overlapping config acts) : Overlapping config more := by
  obtain ⟨prior, trial, within, rest⟩ := overlapping
  exact ⟨prior, trial, within.trans begins, rest⟩

/-- The trials after the end of a call are those before it without that call. -/
theorem trials_endCall (traffic : Traffic) (number : Nat) (recorded : Recorded) :
    (traffic.endCall number recorded).trials =
      traffic.trials.filter fun live => live.number ≠ number := by
  simp only [endCall, trials, others, List.filter_filter]
  exact List.filter_congr fun live _ => Bool.and_comm _ _

/-- The end of the only unfinished trial leaves none. -/
theorem trials_endCall_single {traffic : Traffic} {live : LiveCall} (recorded : Recorded)
    (single : traffic.trials.length ≤ 1) (member : live ∈ traffic.calls)
    (trial : live.call.trial = true) :
    (traffic.endCall live.number recorded).trials = [] := by
  have unfinished : live ∈ traffic.trials := List.mem_filter.2 ⟨member, trial⟩
  obtain ⟨only, alone⟩ := List.length_eq_one_iff.1
    (Nat.le_antisymm single (List.length_pos_of_mem unfinished))
  rw [alone, List.mem_singleton] at unfinished
  simp [trials_endCall, alone, unfinished]

/-- A trial is unfinished after the end of a call only if it was so before. -/
theorem mem_trials_of_endCall {traffic : Traffic} {number : Nat} {recorded : Recorded}
    {trial : LiveCall} (unfinished : trial ∈ (traffic.endCall number recorded).trials) :
    trial ∈ traffic.trials := by
  rw [trials_endCall] at unfinished
  exact (List.mem_filter.1 unfinished).1

/-- What holds of a run without an overlap: at most one trial is unfinished, and unless a stray
outcome was recorded beside it, it is the one that the breaker takes to be running. -/
structure Orderly (config : BreakerConfig) (acts : List Act) : Prop where
  /-- At most one trial is unfinished. -/
  single : (after config acts).trials.length ≤ 1
  /-- An unfinished trial is running or was orphaned. -/
  running : ∀ trial ∈ (after config acts).trials,
    (∃ successes, (after config acts).breaker.status = .halfOpen successes true) ∨
      Orphaned config acts trial

/-- The end of a call keeps order, if the trials that stay are still accounted for. -/
theorem Orderly.endCall {config : BreakerConfig} {acts : List Act} {act : Act} {number : Nat}
    {recorded : Recorded} (orderly : Orderly config acts)
    (stepped : (after config acts).step act = (after config acts).endCall number recorded)
    (accounted : ∀ trial ∈ ((after config acts).endCall number recorded).trials,
      (∃ successes, recorded.breaker.status = .halfOpen successes true) ∨
        Orphaned config (acts ++ [act]) trial) :
    Orderly config (acts ++ [act]) := by
  constructor
  · rw [after_concat, stepped, trials_endCall]
    exact Nat.le_trans (List.length_filter_le _ _) orderly.single
  · intro trial unfinished
    rw [after_concat, stepped] at unfinished ⊢
    exact accounted trial unfinished

/-- Every act keeps order, unless it makes trials overlap. -/
theorem Orderly.concat {config : BreakerConfig} {acts : List Act} (orderly : Orderly config acts)
    (act : Act) (apart : ¬ Overlapping config (acts ++ [act])) :
    Orderly config (acts ++ [act]) := by
  rcases step_cases (after config acts) act with same | ⟨breaker, call, rfl, entered, stepped⟩ |
    ⟨number, success, live, rfl, member, rfl, stepped⟩ |
    ⟨number, live, rfl, member, rfl, stepped⟩ | ⟨duration, rfl, stepped⟩
  · -- The call was rejected, or none of that number is unfinished.
    constructor
    · rw [after_concat, same]
      exact orderly.single
    · intro trial unfinished
      rw [after_concat, same] at unfinished ⊢
      exact (orderly.running trial unfinished).imp_right (·.concat act)
  · rcases enter_cases entered with ⟨other, rfl, -⟩ | ⟨trial, running, allowed⟩
    · have trials : ((after config acts).step .call).trials = (after config acts).trials := by
        simp [stepped, Traffic.trials, other]
      constructor
      · rw [after_concat, trials]
        exact orderly.single
      · intro trial unfinished
        rw [after_concat, trials] at unfinished
        rw [after_concat, stepped]
        exact (orderly.running trial unfinished).imp_right (·.concat .call)
    · -- A trial passes only while none is running, so one that is unfinished was orphaned.
      have idle : ∀ successes, (after config acts).breaker.status ≠ .halfOpen successes true := by
        rintro successes known
        rcases allowed with ⟨_, opened, _⟩ | ⟨_, halfOpen⟩ <;> simp_all
      have none_left : (after config acts).trials = [] := by
        rw [List.eq_nil_iff_forall_not_mem]
        intro earlier unfinished
        rcases orderly.running earlier unfinished with ⟨successes, known⟩ | orphaned
        · exact idle successes known
        · exact apart ⟨acts, earlier, List.prefix_refl _, orphaned, unfinished, breaker, call,
            entered, trial⟩
      constructor
      · rw [after_concat, stepped]
        simp only [Traffic.trials, List.filter_cons, trial, if_true, List.length_cons]
        exact Nat.succ_le_succ (Nat.le_of_eq (congrArg List.length none_left))
      · intro _ _
        rw [after_concat, stepped]
        exact .inl running
  · refine orderly.endCall stepped fun trial unfinished => ?_
    have earlier := mem_trials_of_endCall unfinished
    cases kind : live.call.trial with
    | true =>
      rw [trials_endCall_single _ orderly.single member kind] at unfinished
      simp at unfinished
    | false =>
      rcases orderly.running trial earlier with running | orphaned
      · exact .inr ⟨acts, live.number, success, [], rfl, ⟨running, live, member, rfl, kind⟩,
          earlier⟩
      · exact .inr (orphaned.concat _)
  · refine orderly.endCall stepped fun trial unfinished => ?_
    have earlier := mem_trials_of_endCall unfinished
    cases kind : live.call.trial with
    | true =>
      rw [trials_endCall_single _ orderly.single member kind] at unfinished
      simp at unfinished
    | false =>
      rw [drop_other kind]
      exact (orderly.running trial earlier).imp_right (·.concat _)
  · constructor
    · rw [after_concat, stepped]
      exact orderly.single
    · intro trial unfinished
      rw [after_concat, stepped] at unfinished ⊢
      exact (orderly.running trial unfinished).imp_right (·.concat _)

/-- A run without an overlap is orderly throughout. -/
theorem orderly_of_not_overlapping {config : BreakerConfig} {acts : List Act}
    (apart : ¬ Overlapping config acts) : Orderly config acts := by
  induction acts using List.reverseRecOn with
  | nil => exact ⟨by simp [fresh, trials], by simp [fresh, trials]⟩
  | append_singleton acts act ih =>
    have earlier := ih fun overlapping => apart (overlapping.mono (List.prefix_append _ _))
    exact earlier.concat act apart

/-- A trial that passes beside an unfinished one makes two. -/
theorem two_trials_of_overlapping {config : BreakerConfig} {acts : List Act}
    (overlapping : Overlapping config acts) :
    ∃ prior, prior <+: acts ∧ 1 < (after config prior).trials.length := by
  obtain ⟨prior, trial, within, -, unfinished, breaker, call, entered, passed⟩ := overlapping
  refine ⟨prior ++ [.call], within, ?_⟩
  have some_trial := List.length_pos_of_mem unfinished
  rw [after_concat]
  simp only [step, entered, trials, List.filter_cons, passed, if_true, List.length_cons]
  exact Nat.succ_lt_succ some_trial

/-- At most one trial is unfinished at every moment of a run exactly if no trial passes while
another one is unfinished beside which a stray outcome was recorded. -/
theorem single_trial_iff (config : BreakerConfig) (acts : List Act) :
    (∀ prior, prior <+: acts → (after config prior).trials.length ≤ 1) ↔
      ¬ Overlapping config acts := by
  constructor
  · intro single overlapping
    obtain ⟨prior, begins, two⟩ := two_trials_of_overlapping overlapping
    exact absurd (single prior begins) (Nat.not_le_of_lt two)
  · intro apart prior begins
    exact (orderly_of_not_overlapping fun overlapping => apart (overlapping.mono begins)).single

/-- A success of a call that passed while the breaker was closed ends the turn of a trial, and the
next call passes as a second one. -/
theorem two_trials_after_stray_success :
    (after { errorThreshold := 1, successThreshold := 2, timeout := .seconds 10 }
      [.call, .call, .finish 0 false, .wait (.seconds 10), .call, .finish 1 true, .call]).trials =
        [⟨3, ⟨true⟩⟩, ⟨2, ⟨true⟩⟩] := by
  decide

end FlowEnrichment.Breaker.Traffic
