import FlowEnrichment.Proofs.Breaker.Outage

/-!
# Calls that end late

A call may go on while its breaker changes its state, and end late. Only an open breaker passes
over such an end; a closed one counts it among the outcomes of the calls that it let pass itself,
and a half-open one takes it for the end of its trial. `late_ends_ignored_iff` says in which runs
late ends leave no trace, and by which successes a half-open breaker closes: in a run without such
traces they are those of trials that passed in the same half-open period.

The state that changes here is that of the status. An open breaker lets no call pass before it is
half open, so it makes no difference to a call whether the state is taken to change when the
cool-down is over or when the first trial passes.
-/
namespace FlowEnrichment

/-- The state that a status belongs to. -/
def BreakerStatus.kind : BreakerStatus → BreakerState
  | .closed _ _ => .closed
  | .opened _ => .opened
  | .halfOpen _ _ => .halfOpen

/-- A half-open status tells how many trials were successful and whether one is running. -/
theorem BreakerStatus.eq_halfOpen {status : BreakerStatus} (halfOpen : status.kind = .halfOpen) :
    ∃ successes running, status = .halfOpen successes running := by
  cases status with
  | closed failures last => cases halfOpen
  | opened deadline => cases halfOpen
  | halfOpen successes running => exact ⟨successes, running, rfl⟩

namespace Breaker

variable {breaker : Breaker} {now : Instant} {success : Bool} {call : BreakerCall}
  {successes : Nat} {running : Bool}

/-! ## Outcomes -/

/-- An outcome makes a difference to a breaker: a closed one counts failures until a success, and
a half-open one takes it for the outcome of its trial. -/
def Heeds (breaker : Breaker) (now : Instant) (success : Bool) : Prop :=
  match breaker.status with
  | .closed failures last => success = true → ¬ (failures = 0 ∧ last = none)
  | .opened _ => False
  | .halfOpen _ _ => success = false → (now.add? breaker.config.timeout).isSome

/-- Opening changes a half-open breaker if its cool-down has an end. -/
theorem trip_status_eq_iff (halfOpen : breaker.status.kind = .halfOpen) :
    (breaker.trip now).breaker.status = breaker.status ↔
      ¬ (now.add? breaker.config.timeout).isSome := by
  cases ends : now.add? breaker.config.timeout with
  | none => simp [trip, ends]
  | some deadline =>
    have opened : (breaker.trip now).breaker.status = .opened deadline := by simp [trip, ends]
    obtain ⟨successes, running, known⟩ := BreakerStatus.eq_halfOpen halfOpen
    simp [opened, known]

/-- A failure that is counted is not the one that was counted last. -/
theorem counted_ne (breaker : Breaker) (now : Instant) (failures : Nat) (last : Option Instant) :
    BreakerStatus.closed (breaker.remembered now failures last + 1) (some now) ≠
      .closed failures last := by
  intro same
  injection same with counted known
  subst known
  rw [remembered_of_recent (Nat.le_add_right _ _)] at counted
  exact absurd counted (Nat.succ_ne_self failures)

/-- A failure that a closed breaker counts changes its status, whether or not it opens. -/
theorem record_failure_ne {failures : Nat} {last : Option Instant}
    (closed : breaker.status = .closed failures last) :
    (breaker.record now false).breaker.status ≠ .closed failures last := by
  have counted := counted_ne breaker now failures last
  by_cases enough : breaker.config.errorThreshold.toNat ≤ breaker.remembered now failures last + 1
  · cases ends : now.add? breaker.config.timeout with
    | none => simpa [record, closed, enough, trip, ends] using counted
    | some deadline => simp [record, closed, enough, trip, ends]
  · simpa [record, closed, enough] using counted

/-- A failure opens a half-open breaker, if the cool-down has an end. -/
theorem record_failure_eq_trip (halfOpen : breaker.status = .halfOpen successes running) :
    breaker.record now false = breaker.trip now := by
  simp [record, halfOpen]

/-- A success changes the status of a half-open breaker: it closes, or one more is counted. -/
theorem record_success_halfOpen (halfOpen : breaker.status = .halfOpen successes running) :
    (breaker.record now true).breaker.status =
      if breaker.config.successThreshold.toNat ≤ successes + 1 then .closed 0 none
      else .halfOpen (successes + 1) false := by
  by_cases enough : breaker.config.successThreshold.toNat ≤ successes + 1
  · simp [record, halfOpen, enough]
  · simp [record, halfOpen, enough]

/-- An outcome changes the status exactly if it makes a difference. -/
theorem record_status_eq_iff (breaker : Breaker) (now : Instant) (success : Bool) :
    (breaker.record now success).breaker.status = breaker.status ↔ ¬ breaker.Heeds now success := by
  cases known : breaker.status with
  | closed failures last =>
    cases success with
    | true => simp [record, Heeds, known, eq_comm]
    | false => exact iff_of_false (record_failure_ne known) (by simp [Heeds, known])
  | opened deadline => simp [record, Heeds, known]
  | halfOpen successes running =>
    cases success with
    | true =>
      refine iff_of_false (fun same => ?_) (by simp [Heeds, known])
      rw [record_success_halfOpen known] at same
      split at same
      · cases same
      · injection same with more
        exact absurd more (Nat.succ_ne_self successes)
    | false =>
      have halfOpen : breaker.status.kind = .halfOpen := by rw [known]; rfl
      rw [record_failure_eq_trip known, ← known, trip_status_eq_iff halfOpen]
      simp [Heeds, known]

/-- Dropping a call changes the status exactly if the call is a trial and the breaker is half open
and can open. -/
theorem drop_status_eq_iff (breaker : Breaker) (now : Instant) (call : BreakerCall) :
    (breaker.drop now call).breaker.status = breaker.status ↔
      ¬ (call.trial = true ∧ breaker.status.kind = .halfOpen ∧
        (now.add? breaker.config.timeout).isSome) := by
  cases trial : call.trial with
  | false => simp [drop, trial]
  | true =>
    cases known : breaker.status with
    | closed failures last => simp [drop, trial, abandon, known, BreakerStatus.kind]
    | opened deadline => simp [drop, trial, abandon, known, BreakerStatus.kind]
    | halfOpen successes running =>
      have halfOpen : breaker.status.kind = .halfOpen := by rw [known]; rfl
      have tripped : breaker.drop now call = breaker.trip now := by
        simp [drop, trial, abandon, known]
      rw [tripped, ← known, trip_status_eq_iff halfOpen]
      simp [halfOpen]

/-! ## Half-open breakers -/

/-- Opening leaves a breaker half open only if it is so already. -/
theorem trip_halfOpen (reached : (breaker.trip now).breaker.status = .halfOpen successes running) :
    breaker.status = .halfOpen successes running := by
  unfold trip at reached
  split at reached
  · cases reached
  · exact reached

/-- A breaker is half open after an outcome only if it was so before, and a success is counted. -/
theorem record_halfOpen
    (reached : (breaker.record now success).breaker.status = .halfOpen successes running) :
    ∃ earlier before, breaker.status = .halfOpen earlier before ∧
      successes = earlier + success.toNat := by
  cases known : breaker.status with
  | closed failures last =>
    cases success with
    | true => simp [record, known] at reached
    | false =>
      by_cases enough : breaker.config.errorThreshold.toNat ≤
          breaker.remembered now failures last + 1
      · simp only [record, known, enough, Bool.false_eq_true, if_false, if_true] at reached
        cases trip_halfOpen reached
      · simp [record, known, enough] at reached
  | opened deadline => simp [record, known] at reached
  | halfOpen earlier before =>
    refine ⟨earlier, before, rfl, ?_⟩
    cases success with
    | true =>
      rw [record_success_halfOpen known] at reached
      split at reached
      · cases reached
      · injection reached with counted
        exact counted.symm
    | false =>
      rw [record_failure_eq_trip known] at reached
      injection known.symm.trans (trip_halfOpen reached) with kept
      exact kept.symm

/-- A half-open breaker is closed only by the success that completes the threshold. -/
theorem record_closed (halfOpen : breaker.status = .halfOpen successes running)
    (closed : (breaker.record now success).breaker.status.kind = .closed) :
    breaker.config.successThreshold.toNat ≤ successes + success.toNat := by
  cases success with
  | true =>
    rw [record_success_halfOpen halfOpen] at closed
    split at closed
    case isTrue enough => exact enough
    case isFalse => cases closed
  | false =>
    rw [record_failure_eq_trip halfOpen, trip] at closed
    split at closed
    · cases closed
    · rw [halfOpen] at closed
      cases closed

/-- Dropping a call leaves a breaker half open only if it is so already. -/
theorem drop_halfOpen
    (reached : (breaker.drop now call).breaker.status = .halfOpen successes running) :
    breaker.status = .halfOpen successes running := by
  unfold drop abandon at reached
  split at reached
  · split at reached
    · exact trip_halfOpen reached
    · exact reached
  · exact reached

/-- Dropping a call does not close a half-open breaker. -/
theorem drop_not_closed (halfOpen : breaker.status = .halfOpen successes running) :
    (breaker.drop now call).breaker.status.kind ≠ .closed := by
  intro closed
  unfold drop abandon at closed
  split at closed
  · rw [halfOpen] at closed
    dsimp only at closed
    rw [trip] at closed
    split at closed
    · cases closed
    · rw [halfOpen] at closed
      cases closed
  · rw [halfOpen] at closed
    cases closed

/-- A call that passes leaves a breaker half open if it is the first trial, or another one. -/
theorem enter_halfOpen {next : Breaker} (entered : breaker.enter now = some (next, call))
    (reached : next.status = .halfOpen successes running) :
    ((∃ deadline, breaker.status = .opened deadline) ∧ successes = 0) ∨
      breaker.status = .halfOpen successes false := by
  cases known : breaker.status with
  | closed failures last =>
    simp only [enter, known, Option.some.injEq, Prod.mk.injEq] at entered
    rw [← entered.1, known] at reached
    cases reached
  | opened deadline =>
    simp only [enter, known] at entered
    split at entered
    · cases entered
    · cases entered
      cases reached
      exact .inl ⟨⟨deadline, rfl⟩, rfl⟩
  | halfOpen earlier before =>
    simp only [enter, known] at entered
    split at entered
    · cases entered
    case isFalse idle =>
      cases entered
      cases reached
      exact .inr (by simpa using idle)

namespace Traffic

variable {traffic : Traffic} {act : Act} {live : LiveCall} {config : BreakerConfig}
  {first period acts : List Act}

/-! ## Successes of a half-open period -/

/-- The unfinished call that an act ends with success: one or none. -/
def succeeded (traffic : Traffic) : Act → List LiveCall
  | .finish number true => (traffic.find? number).toList
  | _ => []

/-- The calls that end with success in the course of acts. -/
def successesOf : Traffic → List Act → List LiveCall
  | _, [] => []
  | traffic, act :: acts => succeeded traffic act ++ successesOf (traffic.step act) acts

/-- An act leaves a breaker half open if it lets the first trial pass, or if the breaker was half
open before and counts the success. -/
theorem halfOpen_step
    (reached : (traffic.step act).breaker.status = .halfOpen successes running) :
    (act = .call ∧ (∃ deadline, traffic.breaker.status = .opened deadline) ∧ successes = 0) ∨
      ∃ earlier before, traffic.breaker.status = .halfOpen earlier before ∧
        successes = earlier + (traffic.succeeded act).length := by
  cases act with
  | call =>
    cases entered : traffic.breaker.enter traffic.now with
    | none =>
      simp only [step, entered] at reached
      exact .inr ⟨successes, running, reached, rfl⟩
    | some passed =>
      simp only [step, entered] at reached
      rcases enter_halfOpen entered reached with ⟨opened, none_yet⟩ | earlier
      · exact .inl ⟨rfl, opened, none_yet⟩
      · exact .inr ⟨successes, false, earlier, rfl⟩
  | finish number success =>
    right
    cases found : traffic.find? number with
    | none =>
      simp only [step, found] at reached
      refine ⟨successes, running, reached, ?_⟩
      cases success <;> simp [succeeded, found]
    | some live =>
      simp only [step, found, endCall] at reached
      obtain ⟨earlier, before, halfOpen, counted⟩ := record_halfOpen reached
      refine ⟨earlier, before, halfOpen, ?_⟩
      cases success <;> simp [succeeded, found, counted]
  | drop number =>
    right
    cases found : traffic.find? number with
    | none =>
      simp only [step, found] at reached
      exact ⟨successes, running, reached, rfl⟩
    | some live =>
      simp only [step, found, endCall] at reached
      exact ⟨successes, running, drop_halfOpen reached, rfl⟩
  | wait duration => exact .inr ⟨successes, running, reached, rfl⟩

/-- An act closes a half-open breaker only if it completes the threshold of successes. -/
theorem closed_step (halfOpen : traffic.breaker.status = .halfOpen successes running)
    (closed : (traffic.step act).breaker.status.kind = .closed) :
    traffic.breaker.config.successThreshold.toNat ≤
      successes + (traffic.succeeded act).length := by
  have stays : traffic.breaker.status.kind ≠ .closed := by
    rw [halfOpen]
    exact nofun
  cases act with
  | call =>
    cases entered : traffic.breaker.enter traffic.now with
    | none =>
      simp only [step, entered] at closed
      exact absurd closed stays
    | some passed =>
      obtain ⟨next, call⟩ := passed
      simp only [step, entered] at closed
      rcases enter_cases entered with ⟨-, rfl, -⟩ | ⟨-, ⟨_, still⟩, -⟩
      · exact absurd closed stays
      · rw [still] at closed
        cases closed
  | finish number success =>
    cases found : traffic.find? number with
    | none =>
      simp only [step, found] at closed
      exact absurd closed stays
    | some live =>
      simp only [step, found, endCall] at closed
      have enough := record_closed halfOpen closed
      cases success with
      | true => simpa [succeeded, found] using enough
      | false => simpa [succeeded] using enough
  | drop number =>
    cases found : traffic.find? number with
    | none =>
      simp only [step, found] at closed
      exact absurd closed stays
    | some live =>
      simp only [step, found, endCall] at closed
      exact absurd closed (drop_not_closed halfOpen)
  | wait duration => exact absurd closed stays

/-- Successes in the course of acts and one more are those before and that of the last act. -/
theorem successesOf_concat (traffic : Traffic) (acts : List Act) (act : Act) :
    successesOf traffic (acts ++ [act]) =
      successesOf traffic acts ++ succeeded (acts.foldl step traffic) act := by
  induction acts generalizing traffic with
  | nil => simp [successesOf]
  | cons first acts ih =>
    rw [List.cons_append, successesOf, successesOf, ih, List.foldl_cons, List.append_assoc]

/-- Every success is that of a call that was unfinished when an act ended it. -/
theorem mem_successesOf (member : live ∈ successesOf traffic acts) :
    ∃ earlier later, acts = earlier ++ .finish live.number true :: later ∧
      (earlier.foldl step traffic).find? live.number = some live := by
  induction acts generalizing traffic with
  | nil => cases member
  | cons act acts ih =>
    rw [successesOf, List.mem_append] at member
    rcases member with now | later
    · unfold succeeded at now
      split at now
      case h_1 number =>
        rw [Option.mem_toList] at now
        obtain ⟨-, named⟩ := mem_of_find? now
        subst named
        exact ⟨[], acts, rfl, now⟩
      case h_2 => cases now
    · obtain ⟨earlier, rest, rfl, found⟩ := ih later
      exact ⟨act :: earlier, rest, rfl, found⟩

/-- An unfinished call was so before an act or has just passed, as a trial if the breaker was not
closed. -/
theorem mem_calls_step (unfinished : live ∈ (traffic.step act).calls) :
    live ∈ traffic.calls ∨ live.number = traffic.admitted ∧
      (traffic.breaker.status.kind ≠ .closed → live.call.trial = true) := by
  rcases step_cases traffic act with same | ⟨breaker, call, -, entered, stepped⟩ |
    ⟨_, _, _, -, -, -, stepped⟩ | ⟨_, _, -, -, -, stepped⟩ | ⟨_, -, stepped⟩
  · rw [same] at unfinished
    exact .inl unfinished
  · rw [stepped] at unfinished
    rcases List.mem_cons.1 unfinished with rfl | earlier
    · refine .inr ⟨rfl, fun other => ?_⟩
      rcases enter_cases entered with ⟨-, -, failures, last, closed⟩ | ⟨trial, -⟩
      · rw [closed] at other
        exact absurd rfl other
      · exact trial
    · exact .inl earlier
  · rw [stepped] at unfinished
    exact .inl (List.mem_filter.1 unfinished).1
  · rw [stepped] at unfinished
    exact .inl (List.mem_filter.1 unfinished).1
  · rw [stepped] at unfinished
    exact .inl unfinished

/-- A call that ends with success in the course of acts was unfinished before or passes then. -/
theorem mem_calls_of_successesOf (member : live ∈ successesOf traffic acts) :
    live ∈ traffic.calls ∨ traffic.admitted ≤ live.number := by
  induction acts generalizing traffic with
  | nil => cases member
  | cons act acts ih =>
    rw [successesOf, List.mem_append] at member
    rcases member with now | later
    · unfold succeeded at now
      split at now
      · rw [Option.mem_toList] at now
        exact .inl (mem_of_find? now).1
      · cases now
    · rcases ih later with unfinished | passes
      · exact (mem_calls_step unfinished).imp_right fun new => Nat.le_of_eq new.1.symm
      · exact .inr (Nat.le_trans (admitted_le_step traffic act) passes)

/-- No call ends with success twice. -/
theorem nodup_successesOf (numbered : traffic.Numbered) (acts : List Act) :
    ((successesOf traffic acts).map LiveCall.number).Nodup := by
  induction acts generalizing traffic with
  | nil => exact List.nodup_nil
  | cons act acts ih =>
    rw [successesOf]
    unfold succeeded
    split
    case h_1 number =>
      cases found : traffic.find? number with
      | none => simpa using ih (numbered.step _)
      | some ended =>
        obtain ⟨unfinished, rfl⟩ := mem_of_find? found
        rw [Option.toList_some, List.singleton_append, List.map_cons, List.nodup_cons]
        refine ⟨fun again => ?_, ih (numbered.step _)⟩
        -- A call that has ended is not among the unfinished ones, and its number is taken.
        obtain ⟨other, later, same⟩ := List.mem_map.1 again
        rcases mem_calls_of_successesOf later with left | new
        · simp only [step, found, endCall, others, List.mem_filter, same] at left
          simp at left
        · simp only [step, found, endCall, same] at new
          exact absurd (numbered.bounded ended unfinished) (Nat.not_lt_of_le new)
    case h_2 => exact ih (numbered.step act)

/-- The acts after a call go on from where that has come to. -/
theorem after_call_append (config : BreakerConfig) (first period : List Act) :
    after config (first ++ .call :: period) =
      period.foldl step (after config (first ++ [.call])) := by
  rw [← after_append, List.append_assoc, List.singleton_append]

/-- A half-open period: it begins when a call passes an open breaker after some acts, and lasts
in the course of others. -/
structure Period (config : BreakerConfig) (first period : List Act) : Prop where
  /-- The breaker was open. -/
  opened : ∃ deadline, (after config first).breaker.status = .opened deadline
  /-- It is half open from then on. -/
  halfOpen : ∀ mid, mid <+: period →
    (after config (first ++ .call :: mid)).breaker.status.kind = .halfOpen

/-- A half-open period has begun with what begins it. -/
theorem Period.mono {mid : List Act} (lasts : Period config first period)
    (begins : mid <+: period) : Period config first mid :=
  ⟨lasts.opened, fun shorter within => lasts.halfOpen shorter (within.trans begins)⟩

/-- A half-open breaker is so since a call passed while it was open, and it has counted every
success since then. -/
theorem period_of_halfOpen
    (reached : (after config acts).breaker.status = .halfOpen successes running) :
    ∃ first period, acts = first ++ .call :: period ∧ Period config first period ∧
      successes = (successesOf (after config (first ++ [.call])) period).length := by
  induction acts using List.reverseRecOn generalizing successes running with
  | nil => cases reached
  | append_singleton acts act ih =>
    have kind : (after config (acts ++ [act])).breaker.status.kind = .halfOpen := by
      rw [reached]
      rfl
    rw [after_concat] at reached
    rcases halfOpen_step reached with ⟨rfl, opened, none_yet⟩ | ⟨earlier, before, halfOpen, counted⟩
    · refine ⟨acts, [], rfl, ⟨opened, fun mid begins => ?_⟩, none_yet⟩
      rw [List.prefix_nil.1 begins]
      exact kind
    · obtain ⟨first, period, rfl, lasts, all⟩ := ih halfOpen
      refine ⟨first, period ++ [act], by simp, ⟨lasts.opened, fun mid begins => ?_⟩, ?_⟩
      · rcases List.prefix_concat_iff.1 begins with rfl | within
        · simpa using kind
        · exact lasts.halfOpen mid within
      · rw [successesOf_concat, List.length_append, ← all, ← after_call_append]
        exact counted

/-- What passes in a half-open period passes as a trial. -/
theorem Period.trial (lasts : Period config first period)
    (unfinished : live ∈ (after config (first ++ .call :: period)).calls)
    (own : (after config first).admitted ≤ live.number) : live.call.trial = true := by
  induction period using List.reverseRecOn with
  | nil =>
    obtain ⟨deadline, opened⟩ := lasts.opened
    rw [after_concat] at unfinished
    rcases mem_calls_step unfinished with earlier | ⟨-, trial⟩
    · exact absurd ((numbered_after config first).bounded live earlier) (Nat.not_lt_of_le own)
    · exact trial (by rw [opened]; exact nofun)
  | append_singleton period act ih =>
    have shorter := lasts.mono (List.prefix_append period [act])
    rw [← List.cons_append, ← List.append_assoc, after_concat] at unfinished
    rcases mem_calls_step unfinished with earlier | ⟨-, trial⟩
    · exact ih shorter earlier
    · exact trial (by rw [shorter.halfOpen period List.prefix_rfl]; exact nofun)

/-! ## Late ends -/

/-- An act ends an unfinished call. -/
def Ends (traffic : Traffic) (act : Act) (live : LiveCall) : Prop :=
  traffic.find? live.number = some live ∧
    (act = .drop live.number ∨ ∃ success, act = .finish live.number success)

/-- A call passed before a change of state in the course of acts. -/
def Late (config : BreakerConfig) (acts : List Act) (live : LiveCall) : Prop :=
  ∃ first act later, acts = first ++ act :: later ∧
    (after config (first ++ [act])).breaker.status.kind ≠
      (after config first).breaker.status.kind ∧
    live.number < (after config first).admitted

/-- Late ends leave the status as it is throughout the acts. -/
def IgnoresLate (config : BreakerConfig) (acts : List Act) : Prop :=
  ∀ prior act live, prior ++ [act] <+: acts → (after config prior).Ends act live →
    Late config prior live →
    (after config (prior ++ [act])).breaker.status = (after config prior).breaker.status

/-- The end of a call makes a difference to the breaker: its outcome does, or it is a trial that
is dropped while the breaker is half open and can open. -/
def HeedsEnd (traffic : Traffic) (live : LiveCall) : Act → Prop
  | .finish _ success => traffic.breaker.Heeds traffic.now success
  | .drop _ => live.call.trial = true ∧ traffic.breaker.status.kind = .halfOpen ∧
      (traffic.now.add? traffic.breaker.config.timeout).isSome
  | .call | .wait _ => False

/-- A late end makes a difference in the course of the acts. -/
def Misled (config : BreakerConfig) (acts : List Act) : Prop :=
  ∃ prior act live, prior ++ [act] <+: acts ∧ (after config prior).Ends act live ∧
    Late config prior live ∧ (after config prior).HeedsEnd live act

/-- The end of a call changes the status exactly if it makes a difference. -/
theorem step_status_eq_iff (ends : traffic.Ends act live) :
    (traffic.step act).breaker.status = traffic.breaker.status ↔ ¬ traffic.HeedsEnd live act := by
  obtain ⟨found, rfl | ⟨success, rfl⟩⟩ := ends
  · simp only [step, found, endCall]
    exact drop_status_eq_iff _ _ _
  · simp only [step, found, endCall]
    exact record_status_eq_iff _ _ _

/-- A call that succeeds in the course of a half-open period, or closes it, was unfinished while
the breaker was half open. -/
theorem Period.ended {act : Act}
    (member : live ∈ successesOf (after config (first ++ [.call])) (period ++ [act])) :
    ∃ mid, mid <+: period ∧
      (first ++ .call :: mid) ++ [.finish live.number true] <+:
        first ++ .call :: (period ++ [act]) ∧
      (after config (first ++ .call :: mid)).find? live.number = some live := by
  obtain ⟨mid, later, split, found⟩ := mem_successesOf member
  rw [← after_call_append] at found
  have begins : mid <+: period ++ [act] := ⟨_, split.symm⟩
  have short : mid.length ≤ period.length := by
    have lengths := congrArg List.length split
    simp only [List.length_append, List.length_cons, List.length_nil] at lengths
    omega
  refine ⟨mid, List.prefix_of_prefix_length_le begins (List.prefix_append _ _) short, ?_, found⟩
  exact ⟨later, by simp [split]⟩

/-- A call that succeeded in a half-open period of a run that passes over late ends passed in
that period. -/
theorem Period.own (lasts : Period config first period) {act : Act}
    (ignores : IgnoresLate config (first ++ .call :: (period ++ [act])))
    (member : live ∈ successesOf (after config (first ++ [.call])) (period ++ [act])) :
    (after config first).admitted ≤ live.number := by
  obtain ⟨mid, within, begins, found⟩ := Period.ended member
  have halfOpen := lasts.halfOpen mid within
  by_contra early
  have late : Late config (first ++ .call :: mid) live := by
    refine ⟨first, .call, mid, rfl, ?_, Nat.lt_of_not_le early⟩
    obtain ⟨deadline, opened⟩ := lasts.opened
    rw [lasts.halfOpen [] (List.nil_prefix), opened]
    exact nofun
  have ends : (after config (first ++ .call :: mid)).Ends (.finish live.number true) live :=
    ⟨found, .inr ⟨true, rfl⟩⟩
  have kept := ignores _ _ live begins ends late
  rw [after_concat, step_status_eq_iff ends] at kept
  -- Every success makes a difference to a half-open breaker.
  apply kept
  obtain ⟨successes, running, known⟩ := BreakerStatus.eq_halfOpen halfOpen
  simp [HeedsEnd, Heeds, known]

/-- What passes over late ends throughout a run does so in what begins it. -/
theorem IgnoresLate.mono {more : List Act} (ignores : IgnoresLate config more)
    (begins : acts <+: more) : IgnoresLate config acts :=
  fun prior act live within => ignores prior act live (within.trans begins)

/-- Late ends leave the status as it is throughout a run exactly if none of them comes while it
makes a difference. Whenever a half-open breaker closes, the calls that succeeded since it became
half open reach the threshold, no call being counted twice; those of them that passed since then
are trials, and all of them did if late ends left the status as it is. -/
theorem late_ends_ignored_iff (config : BreakerConfig) (acts : List Act) :
    (IgnoresLate config acts ↔ ¬ Misled config acts) ∧
    ∀ prior act, prior ++ [act] <+: acts →
      (after config prior).breaker.status.kind = .halfOpen →
      (after config (prior ++ [act])).breaker.status.kind = .closed →
      ∃ first period ended, prior = first ++ .call :: period ∧ Period config first period ∧
        ended = successesOf (after config (first ++ [.call])) (period ++ [act]) ∧
        config.successThreshold.toNat ≤ ended.length ∧ (ended.map LiveCall.number).Nodup ∧
        (∀ live ∈ ended, (after config first).admitted ≤ live.number → live.call.trial = true) ∧
        (IgnoresLate config acts →
          ∀ live ∈ ended, (after config first).admitted ≤ live.number) := by
  constructor
  · constructor
    · rintro ignores ⟨prior, act, live, begins, ends, late, heeds⟩
      have kept := ignores prior act live begins ends late
      rw [after_concat, step_status_eq_iff ends] at kept
      exact kept heeds
    · intro misled prior act live begins ends late
      rw [after_concat, step_status_eq_iff ends]
      exact fun heeds => misled ⟨prior, act, live, begins, ends, late, heeds⟩
  · intro prior act begins halfOpen closed
    obtain ⟨successes, running, known⟩ := BreakerStatus.eq_halfOpen halfOpen
    obtain ⟨first, period, rfl, lasts, counted⟩ := period_of_halfOpen known
    refine ⟨first, period, _, rfl, lasts, rfl, ?_, ?_, ?_, ?_⟩
    · rw [after_concat] at closed
      have enough := closed_step known closed
      rw [after_config] at enough
      rw [successesOf_concat, List.length_append, ← counted, ← after_call_append]
      exact enough
    · exact nodup_successesOf (numbered_after config _) _
    · intro live member own
      obtain ⟨mid, within, -, found⟩ := Period.ended member
      exact (lasts.mono within).trial (mem_of_find? found).1 own
    · intro ignores live member
      rw [List.append_assoc, List.cons_append] at begins
      exact lasts.own (ignores.mono begins) member

/-- Two calls pass a closed breaker, the first fails and opens it, and when the cool-down is over a
third one passes as the trial. The success of the second then closes the breaker while the trial
goes on. -/
theorem closed_by_late_success :
    let config : BreakerConfig :=
      { errorThreshold := 1, successThreshold := 1, timeout := .seconds 10 }
    let acts : List Act := [.call, .call, .finish 0 false, .wait (.seconds 10), .call]
    (after config acts).calls = [⟨2, ⟨true⟩⟩, ⟨1, ⟨false⟩⟩] ∧
      (after config acts).breaker.status = .halfOpen 0 true ∧
      (after config (acts ++ [.finish 1 true])).breaker.status = .closed 0 none ∧
      ¬ IgnoresLate config (acts ++ [.finish 1 true]) := by
  intro config acts
  have changed : (after config (acts ++ [.finish 1 true])).breaker.status ≠
      (after config acts).breaker.status := by decide
  have late : Late config acts ⟨1, ⟨false⟩⟩ :=
    ⟨[.call, .call], .finish 0 false, [.wait (.seconds 10), .call], rfl, by decide, by decide⟩
  refine ⟨by decide, by decide, by decide, fun ignores => changed ?_⟩
  exact ignores acts (.finish 1 true) ⟨1, ⟨false⟩⟩ List.prefix_rfl
    ⟨by decide, .inr ⟨true, rfl⟩⟩ late

end Traffic

end Breaker

end FlowEnrichment
