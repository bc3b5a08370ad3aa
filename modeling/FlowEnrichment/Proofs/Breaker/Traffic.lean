import FlowEnrichment.Proofs.Breaker.Operations
import Mathlib.Data.List.Induction
import Mathlib.Data.List.Nodup

/-!
# Traffic through a breaker

The calls to one exporter overlap: a call is made, and if the breaker lets it pass it goes on for
a while and then ends with an outcome or is dropped. `Traffic` is a breaker together with the
time and the calls that have not ended; a run is a list of acts in any order. Every act of a
run acts on the breaker by one of its own operations, so what a breaker can come to know is what
the runs from a closed breaker make it know.
-/
namespace FlowEnrichment.Breaker

/-- A call that was let pass and has not ended. -/
structure LiveCall where
  /-- The number of calls that were let pass before it. -/
  number : Nat
  /-- What the breaker handed out. -/
  call : BreakerCall
  deriving DecidableEq, Repr

/-- A breaker in use. -/
structure Traffic where
  /-- The breaker. -/
  breaker : Breaker
  /-- The time. -/
  now : Instant := .start
  /-- The calls that have not ended, the newest first. -/
  calls : List LiveCall := []
  /-- The number of calls that were let pass. -/
  admitted : Nat := 0
  /-- When the last call ended; nothing if none has. -/
  lastEnd : Option Instant := none
  deriving DecidableEq, Repr

namespace Traffic

/-- Something that happens to a breaker in use. -/
inductive Act where
  /-- A call is made. -/
  | call
  /-- A call ends with an outcome. -/
  | finish (number : Nat) (success : Bool)
  /-- A call is dropped before its end. -/
  | drop (number : Nat)
  /-- Time goes on. -/
  | wait (duration : Duration)
  deriving DecidableEq, Repr

/-- The unfinished call with a number. -/
def find? (traffic : Traffic) (number : Nat) : Option LiveCall :=
  traffic.calls.find? fun live => live.number = number

/-- The unfinished calls without one. -/
def others (traffic : Traffic) (number : Nat) : List LiveCall :=
  traffic.calls.filter fun live => live.number ≠ number

/-- The traffic after a call has come to an end that left the breaker as given. -/
def endCall (traffic : Traffic) (number : Nat) (recorded : Recorded) : Traffic :=
  { traffic with
    breaker := recorded.breaker
    calls := traffic.others number
    lastEnd := some traffic.now }

/-- The traffic after an act. A call that is rejected leaves no trace, and a call that is not
among the unfinished ones cannot end. -/
def step (traffic : Traffic) : Act → Traffic
  | .call =>
    match traffic.breaker.enter traffic.now with
    | none => traffic
    | some (breaker, call) =>
      { traffic with
        breaker
        calls := ⟨traffic.admitted, call⟩ :: traffic.calls
        admitted := traffic.admitted + 1 }
  | .finish number success =>
    match traffic.find? number with
    | none => traffic
    | some _ => traffic.endCall number (traffic.breaker.record traffic.now success)
  | .drop number =>
    match traffic.find? number with
    | none => traffic
    | some live => traffic.endCall number (traffic.breaker.drop traffic.now live.call)
  | .wait duration => { traffic with now := ⟨traffic.now.nanos + duration.nanos⟩ }

/-- The traffic of a closed breaker that was not used. -/
def fresh (config : BreakerConfig) : Traffic := { breaker := { config } }

/-- The traffic of a new breaker after acts in order. -/
def after (config : BreakerConfig) (acts : List Act) : Traffic := acts.foldl step (fresh config)

/-- The unfinished calls that are trials. -/
def trials (traffic : Traffic) : List LiveCall := traffic.calls.filter fun live => live.call.trial

/-! ## One step -/

/-- No act is no step. -/
@[simp] theorem after_nil (config : BreakerConfig) : after config [] = fresh config := rfl

/-- The last act is the last step. -/
@[simp] theorem after_concat (config : BreakerConfig) (acts : List Act) (act : Act) :
    after config (acts ++ [act]) = (after config acts).step act := by
  simp [after]

/-- A call that was found is one of the unfinished calls, under its number. -/
theorem mem_of_find? {traffic : Traffic} {number : Nat} {live : LiveCall}
    (found : traffic.find? number = some live) : live ∈ traffic.calls ∧ live.number = number := by
  have named := List.find?_some found
  exact ⟨List.mem_of_find?_eq_some found, by simpa using named⟩

/-- Everything that a step can do: nothing, a call that passes, an outcome, a drop, or time. -/
theorem step_cases (traffic : Traffic) (act : Act) :
    traffic.step act = traffic ∨
    (∃ breaker call, act = .call ∧ traffic.breaker.enter traffic.now = some (breaker, call) ∧
      traffic.step act =
        { traffic with
          breaker
          calls := ⟨traffic.admitted, call⟩ :: traffic.calls
          admitted := traffic.admitted + 1 }) ∨
    (∃ number success live, act = .finish number success ∧ live ∈ traffic.calls ∧
      live.number = number ∧
      traffic.step act =
        traffic.endCall number (traffic.breaker.record traffic.now success)) ∨
    (∃ number live, act = .drop number ∧ live ∈ traffic.calls ∧ live.number = number ∧
      traffic.step act = traffic.endCall number (traffic.breaker.drop traffic.now live.call)) ∨
    (∃ duration : Duration, act = .wait duration ∧
      traffic.step act = { traffic with now := ⟨traffic.now.nanos + duration.nanos⟩ }) := by
  cases act with
  | call =>
    cases entered : traffic.breaker.enter traffic.now with
    | none => exact .inl (by simp [step, entered])
    | some passed =>
      obtain ⟨breaker, call⟩ := passed
      exact .inr (.inl ⟨breaker, call, rfl, rfl, by simp [step, entered]⟩)
  | finish number success =>
    cases found : traffic.find? number with
    | none => exact .inl (by simp [step, found])
    | some live =>
      obtain ⟨member, named⟩ := mem_of_find? found
      exact .inr (.inr (.inl ⟨number, success, live, rfl, member, named, by simp [step, found]⟩))
  | drop number =>
    cases found : traffic.find? number with
    | none => exact .inl (by simp [step, found])
    | some live =>
      obtain ⟨member, named⟩ := mem_of_find? found
      exact .inr (.inr (.inr (.inl ⟨number, live, rfl, member, named, by simp [step, found]⟩)))
  | wait duration => exact .inr (.inr (.inr (.inr ⟨duration, rfl, rfl⟩)))

/-- Time does not go back. -/
theorem now_le_step (traffic : Traffic) (act : Act) :
    traffic.now.nanos ≤ (traffic.step act).now.nanos := by
  rcases step_cases traffic act with same | ⟨_, _, -, -, stepped⟩ | ⟨_, _, _, -, -, -, stepped⟩ |
    ⟨_, _, -, -, -, stepped⟩ | ⟨_, -, stepped⟩
  · exact Nat.le_of_eq (by rw [same])
  · exact Nat.le_of_eq (by rw [stepped])
  · exact Nat.le_of_eq (by rw [stepped, endCall])
  · exact Nat.le_of_eq (by rw [stepped, endCall])
  · rw [stepped]
    exact Nat.le_add_right _ _

/-- No number is given back. -/
theorem admitted_le_step (traffic : Traffic) (act : Act) :
    traffic.admitted ≤ (traffic.step act).admitted := by
  rcases step_cases traffic act with same | ⟨_, _, -, -, stepped⟩ | ⟨_, _, _, -, -, -, stepped⟩ |
    ⟨_, _, -, -, -, stepped⟩ | ⟨_, -, stepped⟩
  · exact Nat.le_of_eq (by rw [same])
  · rw [stepped]
    exact Nat.le_succ _
  · exact Nat.le_of_eq (by rw [stepped, endCall])
  · exact Nat.le_of_eq (by rw [stepped, endCall])
  · exact Nat.le_of_eq (by rw [stepped])

/-! ## Runs -/

/-- Thresholds stay as they are. -/
theorem after_config (config : BreakerConfig) (acts : List Act) :
    (after config acts).breaker.config = config := by
  induction acts using List.reverseRecOn with
  | nil => rfl
  | append_singleton acts act ih =>
    rw [after_concat]
    rcases step_cases (after config acts) act with same | ⟨breaker, call, -, entered, stepped⟩ |
      ⟨_, _, _, -, -, -, stepped⟩ | ⟨_, _, -, -, -, stepped⟩ | ⟨_, -, stepped⟩
    · rw [same, ih]
    · rw [stepped]
      exact (enter_config entered).trans ih
    · rw [stepped]
      exact (record_config _ _ _).trans ih
    · rw [stepped]
      exact (drop_config _ _ _).trans ih
    · rw [stepped, ih]

/-- The unfinished calls have numbers of their own, and the next call has another one. -/
structure Numbered (traffic : Traffic) : Prop where
  /-- A call was let pass before the next one. -/
  bounded : ∀ live ∈ traffic.calls, live.number < traffic.admitted
  /-- No two calls have the same number. -/
  distinct : (traffic.calls.map LiveCall.number).Nodup

/-- The end of a call takes no number. -/
theorem Numbered.endCall {traffic : Traffic} (numbered : traffic.Numbered) (number : Nat)
    (recorded : Recorded) : (traffic.endCall number recorded).Numbered where
  bounded live member := numbered.bounded live (List.mem_filter.1 member).1
  distinct := numbered.distinct.sublist (List.Sublist.map _ List.filter_sublist)

/-- Calls stay numbered at every act. -/
theorem Numbered.step {traffic : Traffic} (numbered : traffic.Numbered) (act : Act) :
    (traffic.step act).Numbered := by
  rcases step_cases traffic act with same | ⟨breaker, call, -, -, stepped⟩ |
    ⟨number, _, _, -, -, -, stepped⟩ | ⟨number, _, -, -, -, stepped⟩ | ⟨_, -, stepped⟩
  · rw [same]
    exact numbered
  · rw [stepped]
    constructor
    · intro live member
      rcases List.mem_cons.1 member with rfl | earlier
      · exact Nat.lt_succ_self _
      · exact Nat.lt_succ_of_lt (numbered.bounded live earlier)
    · rw [List.map_cons, List.nodup_cons]
      refine ⟨fun taken => ?_, numbered.distinct⟩
      obtain ⟨live, member, named⟩ := List.mem_map.1 taken
      exact absurd named (Nat.ne_of_lt (numbered.bounded live member))
  · rw [stepped]
    exact numbered.endCall _ _
  · rw [stepped]
    exact numbered.endCall _ _
  · rw [stepped]
    exact ⟨numbered.bounded, numbered.distinct⟩

/-- Calls are numbered throughout a run. -/
theorem numbered_after (config : BreakerConfig) (acts : List Act) :
    (after config acts).Numbered := by
  induction acts using List.reverseRecOn with
  | nil => exact ⟨by simp [fresh], by simp [fresh]⟩
  | append_singleton acts act ih =>
    rw [after_concat]
    exact ih.step act

/-- Unfinished calls with the same number are the same. -/
theorem Numbered.eq_of_number_eq {traffic : Traffic} (numbered : traffic.Numbered)
    {one other : LiveCall} (first : one ∈ traffic.calls) (second : other ∈ traffic.calls)
    (same : one.number = other.number) : one = other :=
  List.inj_on_of_nodup_map numbered.distinct first second same

end Traffic

end FlowEnrichment.Breaker
