import FlowEnrichment.Proofs.Breaker.Recovery
import Mathlib.Data.List.Infix

/-!
# Calls during an outage

While every call to an exporter fails, its breaker lets only a few of them pass. A window that is
as long as the time-out may begin in any state of the breaker and with calls that go on. Within
it a closed breaker counts every failure and forgets none that fell into the window, and once it
opens it stays open up to the end of the window. `admitted_during_outage` bounds the calls that
pass by the failures that open the breaker and the calls that overlap.
-/
namespace FlowEnrichment.Breaker

/-- A stretch of time. -/
structure Window where
  /-- Its first instant. -/
  begins : Instant
  /-- How long it lasts. -/
  length : Duration

namespace Window

/-- The nanoseconds at which a window is over. -/
def ends (window : Window) : Nat := window.begins.nanos + window.length.nanos

/-- Whether an instant falls into a window. -/
def Contains (window : Window) (instant : Instant) : Prop :=
  window.begins.nanos ≤ instant.nanos ∧ instant.nanos < window.ends

instance (window : Window) (instant : Instant) : Decidable (window.Contains instant) :=
  inferInstanceAs (Decidable (_ ∧ _))

end Window

/-! ## Failures -/

variable {breaker : Breaker} {now deadline : Instant}

/-- A failure of a call to a closed breaker counts, after older ones may have been forgotten, and
opens the breaker if it completes the threshold. -/
theorem record_failure_closed {failures : Nat} {last : Option Instant}
    (closed : breaker.status = .closed failures last)
    (ends : now.add? breaker.config.timeout = some deadline) :
    (breaker.record now false).breaker.status =
      if breaker.config.errorThreshold.toNat ≤ breaker.remembered now failures last + 1 then
        .opened deadline
      else .closed (breaker.remembered now failures last + 1) (some now) := by
  by_cases enough : breaker.config.errorThreshold.toNat ≤ breaker.remembered now failures last + 1
  · simp [record, closed, enough, trip, ends]
  · simp [record, closed, enough]

/-- A failure of any call opens a half-open breaker. -/
theorem record_failure_halfOpen {successes : Nat} {running : Bool}
    (halfOpen : breaker.status = .halfOpen successes running)
    (ends : now.add? breaker.config.timeout = some deadline) :
    (breaker.record now false).breaker.status = .opened deadline := by
  simp [record, halfOpen, trip, ends]

/-- A failure of any call leaves an open breaker as it is. -/
theorem record_opened {until_ : Instant} (opened : breaker.status = .opened until_)
    (success : Bool) : (breaker.record now success).breaker = breaker := by
  simp [record, opened]

/-- A failure no older than the time-out keeps those before it in memory. -/
theorem remembered_of_recent {failures : Nat} {earlier : Instant}
    (recent : now.nanos ≤ earlier.nanos + breaker.config.timeout.nanos) :
    breaker.remembered now failures (some earlier) = failures := by
  have young : ¬ breaker.config.timeout.nanos < now.nanos - earlier.nanos := by omega
  simp [remembered, young]

namespace Traffic

/-! ## Outages -/

/-- The calls that an act lets pass within a window: one or none. -/
def passedIn (window : Window) (traffic : Traffic) (act : Act) : Nat :=
  if window.Contains traffic.now then (traffic.step act).admitted - traffic.admitted else 0

/-- The calls that pass within a window in the course of acts. -/
def admittedIn (window : Window) : Traffic → List Act → Nat
  | _, [] => 0
  | traffic, act :: acts =>
    passedIn window traffic act + admittedIn window (traffic.step act) acts

/-- Whether an act ends no call otherwise than by a failure. -/
def EndsByFailureOnly (traffic : Traffic) : Act → Prop
  | .finish number success => success = true → ∀ live ∈ traffic.calls, live.number ≠ number
  | .drop number => ∀ live ∈ traffic.calls, live.number ≠ number
  | .call | .wait _ => True

/-- In the course of acts that follow others, at most a number of calls are unfinished at any
moment, and every call that ends within the window fails. -/
structure Outage (window : Window) (limit : Nat) (config : BreakerConfig)
    (before acts : List Act) : Prop where
  /-- At most so many calls are unfinished. -/
  crowd : ∀ prior, prior <+: acts → (after config (before ++ prior)).calls.length ≤ limit
  /-- Whatever ends within the window fails. -/
  failing : ∀ prior act, prior ++ [act] <+: acts →
    window.Contains (after config (before ++ prior)).now →
    (after config (before ++ prior)).EndsByFailureOnly act

variable {window : Window} {limit count : Nat} {config : BreakerConfig} {before acts : List Act}

/-- What begins an outage is one. -/
theorem Outage.mono {more : List Act} (outage : Outage window limit config before more)
    (begins : acts <+: more) : Outage window limit config before acts where
  crowd prior within := outage.crowd prior (within.trans begins)
  failing prior act within := outage.failing prior act (within.trans begins)

/-- The calls that pass in the course of acts and one more are those before and those of the
last act. -/
theorem admittedIn_concat (window : Window) (traffic : Traffic) (acts : List Act) (act : Act) :
    admittedIn window traffic (acts ++ [act]) =
      admittedIn window traffic acts + passedIn window (acts.foldl step traffic) act := by
  induction acts generalizing traffic with
  | nil => simp [admittedIn]
  | cons first acts ih =>
    rw [List.cons_append, admittedIn, admittedIn, ih, List.foldl_cons, Nat.add_assoc]

/-- The acts after others go on from where those have come to. -/
theorem after_append (config : BreakerConfig) (before acts : List Act) :
    after config (before ++ acts) = acts.foldl step (after config before) := by
  rw [after, after, List.foldl_append]

/-! ## The invariant -/

/-- How many calls can have passed within a window, by what the breaker knows. A closed breaker
has counted the failures within the window; an open one that let calls pass before stays open
up to the end of the window; and of a half-open one no trial has ended. -/
def Spent (window : Window) (limit count : Nat) (traffic : Traffic) : Prop :=
  match traffic.breaker.status with
  | .closed failures last =>
    ∃ recent, count ≤ recent + traffic.calls.length ∧ recent ≤ failures ∧
      recent < traffic.breaker.config.errorThreshold.toNat ∧
      (0 < recent → ∃ earlier, last = some earlier ∧ window.begins.nanos ≤ earlier.nanos)
  | .opened deadline =>
    count = 0 ∨
      count < traffic.breaker.config.errorThreshold.toNat + limit ∧ window.ends ≤ deadline.nanos
  | .halfOpen _ running => count = 0 ∨ running = true ∧ count ≤ limit

/-- Before the first call has passed nothing is spent, whatever the breaker knows. -/
theorem spent_zero {traffic : Traffic}
    (positive : 0 < traffic.breaker.config.errorThreshold.toNat) :
    Spent window limit 0 traffic := by
  unfold Spent
  split
  · exact ⟨0, Nat.zero_le _, Nat.zero_le _, positive, fun none_yet => absurd none_yet (by decide)⟩
  · exact .inl rfl
  · exact .inl rfl

/-- What is spent stays below the bound. -/
theorem Spent.bound {traffic : Traffic} (spent : Spent window limit count traffic)
    (positive : 0 < traffic.breaker.config.errorThreshold.toNat)
    (crowd : traffic.calls.length ≤ limit) :
    count < traffic.breaker.config.errorThreshold.toNat + limit := by
  unfold Spent at spent
  split at spent
  · obtain ⟨recent, few, -, low, -⟩ := spent
    omega
  · omega
  · omega

/-- A call that passes within the window is accounted for. -/
theorem Spent.admit {traffic : Traffic} {next : Breaker} {call : BreakerCall}
    (spent : Spent window limit count traffic) (inside : window.Contains traffic.now)
    (entered : traffic.breaker.enter traffic.now = some (next, call))
    (crowd : traffic.calls.length + 1 ≤ limit) :
    Spent window limit (count + 1)
      { traffic with
        breaker := next
        calls := ⟨traffic.admitted, call⟩ :: traffic.calls
        admitted := traffic.admitted + 1 } := by
  rcases enter_cases entered with ⟨-, rfl, failures, last, closed⟩ |
    ⟨-, ⟨successes, trying⟩, allowed⟩
  · simp only [Spent, closed] at spent ⊢
    obtain ⟨recent, few, rest⟩ := spent
    exact ⟨recent, by rw [List.length_cons]; omega, rest⟩
  · -- A trial passes only where no call has passed within the window, so it is the first one.
    have first : count = 0 := by
      rcases allowed with ⟨deadline, opened, ended⟩ | ⟨earlier, idle⟩
      · simp only [Spent, opened] at spent
        have early := inside.2
        omega
      · simpa [Spent, idle] using spent
    simp only [Spent, trying]
    exact .inr ⟨trivial, by omega⟩

/-- One of the unfinished calls is gone when it has ended. -/
theorem Numbered.length_others {traffic : Traffic} (numbered : traffic.Numbered) {live : LiveCall}
    (member : live ∈ traffic.calls) :
    (traffic.others live.number).length + 1 = traffic.calls.length := by
  have erased : traffic.others live.number = traffic.calls.erase live := by
    rw [(numbered.distinct.of_map _).erase_eq_filter]
    refine List.filter_congr fun other unfinished => ?_
    by_cases same : other = live
    · simp [same]
    · have apart : other.number ≠ live.number :=
        fun named => same (numbered.eq_of_number_eq unfinished member named)
      simp [same, apart]
  rw [erased, List.length_erase_of_mem member]
  have some_call := List.length_pos_of_mem member
  omega

/-- A call that fails within the window is accounted for. -/
theorem Spent.fail {traffic : Traffic} {live : LiveCall} {deadline : Instant}
    (spent : Spent window limit count traffic) (inside : window.Contains traffic.now)
    (whole : window.length = traffic.breaker.config.timeout)
    (positive : 0 < traffic.breaker.config.errorThreshold.toNat) (numbered : traffic.Numbered)
    (member : live ∈ traffic.calls) (crowd : traffic.calls.length ≤ limit)
    (ends : traffic.now.add? traffic.breaker.config.timeout = some deadline) :
    Spent window limit count
      (traffic.endCall live.number (traffic.breaker.record traffic.now false)) := by
  have one_less := numbered.length_others member
  have reopening : window.ends ≤ deadline.nanos := by
    rw [Instant.nanos_of_add? ends, Window.ends, whole]
    exact Nat.add_le_add_right inside.1 _
  cases known : traffic.breaker.status with
  | closed failures last =>
    simp only [Spent, known] at spent
    obtain ⟨recent, few, counted, low, since⟩ := spent
    -- The failures within the window are closer to one another than the time-out.
    have kept : recent ≤ traffic.breaker.remembered traffic.now failures last := by
      rcases Nat.eq_zero_or_pos recent with rfl | some_failure
      · exact Nat.zero_le _
      · obtain ⟨earlier, rfl, within⟩ := since some_failure
        have close := inside.2
        rw [Window.ends, whole] at close
        rw [remembered_of_recent (by omega)]
        exact counted
    have status := record_failure_closed known ends
    by_cases enough : traffic.breaker.config.errorThreshold.toNat ≤
        traffic.breaker.remembered traffic.now failures last + 1
    · rw [if_pos enough] at status
      simp only [Spent, endCall, status, record_config]
      exact .inr ⟨by omega, reopening⟩
    · rw [if_neg enough] at status
      simp only [Spent, endCall, status, record_config]
      exact ⟨recent + 1, by omega, by omega, by omega, fun _ => ⟨traffic.now, rfl, inside.1⟩⟩
  | opened until_ =>
    have same : (traffic.breaker.record traffic.now false).breaker = traffic.breaker :=
      record_opened known false
    simpa only [Spent, endCall, same, known] using spent
  | halfOpen successes running =>
    have status := record_failure_halfOpen known ends
    simp only [Spent, known] at spent
    simp only [Spent, endCall, status, record_config]
    exact .inr ⟨by omega, reopening⟩

/-- Every act within the window is accounted for. -/
theorem Spent.step {traffic : Traffic} {act : Act} (spent : Spent window limit count traffic)
    (inside : window.Contains traffic.now)
    (whole : window.length = traffic.breaker.config.timeout)
    (positive : 0 < traffic.breaker.config.errorThreshold.toNat) (numbered : traffic.Numbered)
    (failing : traffic.EndsByFailureOnly act) (crowd : traffic.calls.length ≤ limit)
    (crowd_after : (traffic.step act).calls.length ≤ limit)
    (ends : (traffic.now.add? traffic.breaker.config.timeout).isSome = true) :
    Spent window limit (count + ((traffic.step act).admitted - traffic.admitted))
      (traffic.step act) := by
  obtain ⟨deadline, ends⟩ := Option.isSome_iff_exists.1 ends
  rcases step_cases traffic act with same | ⟨next, call, -, entered, stepped⟩ |
    ⟨number, success, live, rfl, member, rfl, stepped⟩ | ⟨number, live, rfl, member, named, -⟩ |
    ⟨duration, -, stepped⟩
  · rw [same, Nat.sub_self]
    exact spent
  · rw [stepped] at crowd_after ⊢
    rw [Nat.add_sub_cancel_left]
    exact spent.admit inside entered crowd_after
  · cases success with
    | true => exact absurd rfl (failing rfl live member)
    | false =>
      rw [stepped]
      simp only [endCall, Nat.sub_self]
      exact spent.fail inside whole positive numbered member crowd ends
  · exact absurd named (failing live member)
  · rw [stepped, Nat.sub_self]
    exact spent

/-! ## Runs -/

/-- Throughout an outage the calls that have passed within the window stay below the bound, they
are accounted for until the window is over, and there are none before it begins. -/
theorem spent_during_outage (outage : Outage window limit config before acts)
    (whole : window.length = config.timeout) (positive : 0 < config.errorThreshold.toNat)
    (ends : ((after config (before ++ acts)).now.add? config.timeout).isSome = true) :
    admittedIn window (after config before) acts < config.errorThreshold.toNat + limit ∧
      ((after config (before ++ acts)).now.nanos < window.ends →
        Spent window limit (admittedIn window (after config before) acts)
          (after config (before ++ acts))) ∧
      ((after config (before ++ acts)).now.nanos < window.begins.nanos →
        admittedIn window (after config before) acts = 0) := by
  induction acts using List.reverseRecOn with
  | nil =>
    refine ⟨Nat.lt_add_right limit positive, fun _ => spent_zero ?_, fun _ => rfl⟩
    rw [after_config]
    exact positive
  | append_singleton acts act ih =>
    have crowd := outage.crowd acts (List.prefix_append _ _)
    have crowd_after := outage.crowd (acts ++ [act]) (List.prefix_refl _)
    have failing := outage.failing acts act (List.prefix_refl _)
    have known := after_config config (before ++ acts)
    rw [← List.append_assoc, after_concat] at ends crowd_after ⊢
    have later := now_le_step (after config (before ++ acts)) act
    have earlier := Instant.add?_isSome_of_le later ends
    obtain ⟨bound, spent, none_before⟩ := ih (outage.mono (List.prefix_append _ _)) earlier
    rw [admittedIn_concat, ← after_append, passedIn]
    by_cases inside : window.Contains (after config (before ++ acts)).now
    · rw [if_pos inside]
      have positive' : 0 < (after config (before ++ acts)).breaker.config.errorThreshold.toNat := by
        rw [known]
        exact positive
      have next := (spent inside.2).step inside (whole.trans (by rw [known])) positive'
        (numbered_after config _) (failing inside) crowd crowd_after (by rw [known]; exact earlier)
      have kept := after_config config (before ++ acts ++ [act])
      rw [after_concat] at kept
      have low := next.bound (by rw [kept]; exact positive) crowd_after
      rw [kept] at low
      exact ⟨low, fun _ => next, fun early => absurd inside.1 (by omega)⟩
    · rw [if_neg inside, Nat.add_zero]
      refine ⟨bound, fun open_ => ?_, fun early => none_before (Nat.lt_of_le_of_lt later early)⟩
      have early : (after config (before ++ acts)).now.nanos < window.begins.nanos := by
        by_contra begun
        exact inside ⟨Nat.le_of_not_lt begun, Nat.lt_of_le_of_lt later open_⟩
      rw [none_before early]
      have kept := after_config config (before ++ acts ++ [act])
      rw [after_concat] at kept
      refine spent_zero ?_
      rw [kept]
      exact positive

/-- While every call that ends within a window as long as the time-out fails, and never more than
`limit` calls are unfinished, at most `errorThreshold + limit - 1` calls are let through within
the window. -/
theorem admitted_during_outage (config : BreakerConfig) (before acts : List Act)
    (positive : 1 ≤ config.errorThreshold.toNat) (window : Window)
    (whole : window.length = config.timeout) (limit : Nat)
    (outage : Outage window limit config before acts)
    (ends : ((after config (before ++ acts)).now.add? config.timeout).isSome = true) :
    admittedIn window (after config before) acts ≤ config.errorThreshold.toNat + limit - 1 := by
  have below := (spent_during_outage outage whole positive ends).1
  omega

/-- Two calls go on beside one another and two failures open the breaker: three calls pass within
the window, which is as many as may. -/
theorem admitted_during_outage_of_two :
    let config : BreakerConfig := { errorThreshold := 2, timeout := .seconds 10 }
    let acts : List Act :=
      [.call, .call, .finish 0 false, .call, .wait (.seconds 9), .finish 1 false, .call]
    let window : Window := ⟨.start, .seconds 10⟩
    Outage window 2 config [] acts ∧ admittedIn window (after config []) acts = 3 ∧
      admittedIn window (after config []) acts ≤ 2 + 2 - 1 := by
  intro config acts window
  have crowd : ∀ prior ∈ acts.inits, (after config ([] ++ prior)).calls.length ≤ 2 := by decide
  have outage : Outage window 2 config [] acts := by
    constructor
    · intro prior within
      exact crowd prior ((List.mem_inits _ _).2 within)
    · intro prior act within _
      have member : act ∈ acts := within.subset (by simp)
      simp only [acts, List.mem_cons, List.not_mem_nil, or_false] at member
      rcases member with rfl | rfl | rfl | rfl | rfl | rfl | rfl <;> simp [EndsByFailureOnly]
  exact ⟨outage, by decide,
    admitted_during_outage config [] acts (by decide) window rfl 2 outage (by decide)⟩

end Traffic

end FlowEnrichment.Breaker
