import FlowEnrichment.Breaker.Table
import FlowEnrichment.Proofs.Breaker.Traffic

/-!
# Breakers do not affect one another

The breakers of a table share the time and nothing else. `BreakerTable.Usage` is a table in use:
calls to any number of exporters overlap, and an unfinished call is known by its exporter and its
number among the calls to that exporter that were let pass. What happens to one exporter is traffic
through a single breaker (`Usage.Mirrors`): every operation on the table is an act on that breaker
or does not concern it, so after any operations its status and what came of its calls are those of
the acts that concern it (`breakers_isolated`).
-/
namespace FlowEnrichment

open BreakerTable (CallResult)

namespace Breaker.Traffic

/-- What comes of a call that ends, given what the breaker records and what comes of that. -/
def endResult (traffic : Traffic) (number : Nat) (record : BreakerCall → Recorded)
    (result : CallResult) : CallResult :=
  match traffic.find? number with
  | none => .unknown
  | some live => if (record live.call).overflow then .overflow else result

/-- What comes of an act; nothing if no call is concerned. -/
def result? (traffic : Traffic) : Act → Option CallResult
  | .call => some (if (traffic.breaker.enter traffic.now).isSome then .running else .rejected)
  | .finish number success =>
    some (traffic.endResult number (fun _ => traffic.breaker.record traffic.now success)
      (.ended success))
  | .drop number =>
    some (traffic.endResult number (traffic.breaker.drop traffic.now) .dropped)
  | .wait _ => none

/-- What comes of acts in order. -/
def results : List Act → Traffic → List CallResult
  | [], _ => []
  | act :: acts, traffic => (traffic.result? act).toList ++ results acts (traffic.step act)

end Breaker.Traffic

namespace BreakerTable

open Breaker (LiveCall Traffic)

/-- Something that is done with a table. -/
inductive Operation where
  /-- The breaker of an exporter is needed. -/
  | get (exporter : Address)
  /-- The breaker of an exporter is looked for. -/
  | find (exporter : Address)
  /-- A call to an exporter is made. -/
  | call (exporter : Address)
  /-- A call to an exporter ends with an outcome. -/
  | finish (exporter : Address) (number : Nat) (success : Bool)
  /-- A call to an exporter is dropped before its end. -/
  | drop (exporter : Address) (number : Nat)
  /-- Time goes on. -/
  | wait (duration : Duration)
  deriving DecidableEq, Repr

namespace Operation

/-- The exporter whose breaker is made by an operation, unless it was made before. -/
def maker? : Operation → Option Address
  | .get exporter | .call exporter => some exporter
  | _ => none

/-- What an operation does to the breaker of an exporter. Looking for a breaker does nothing to it,
and neither does needing it. -/
def act? (exporter : Address) : Operation → Option Traffic.Act
  | .call other => if other = exporter then some .call else none
  | .finish other number success =>
    if other = exporter then some (.finish number success) else none
  | .drop other number => if other = exporter then some (.drop number) else none
  | .wait duration => some (.wait duration)
  | .get _ | .find _ => none

/-- The exporters whose breakers are made by operations. -/
def makers (operations : List Operation) : List Address := operations.filterMap maker?

/-- What operations do to the breaker of an exporter, in order. -/
def actsOf (exporter : Address) (operations : List Operation) : List Traffic.Act :=
  operations.filterMap (act? exporter)

end Operation

/-- A table in use. -/
structure Usage where
  /-- The breakers. -/
  table : BreakerTable
  /-- The time. -/
  now : Instant := .start
  /-- The calls that have not ended, each with its exporter, the newest first. -/
  calls : List (Address × LiveCall) := []
  /-- The exporters of the calls that were let pass. -/
  admitted : List Address := []

namespace Usage

/-- The unfinished call to an exporter with a number. -/
def find? (usage : Usage) (exporter : Address) (number : Nat) : Option (Address × LiveCall) :=
  usage.calls.find? fun entry => entry.1 = exporter ∧ entry.2.number = number

/-- The unfinished calls without one. -/
def others (usage : Usage) (exporter : Address) (number : Nat) : List (Address × LiveCall) :=
  usage.calls.filter fun entry => ¬ (entry.1 = exporter ∧ entry.2.number = number)

/-- The table in use after a call has come to an end that was recorded. -/
def endCall (usage : Usage) (exporter : Address) (number : Nat) (recorded : Recorded) : Usage :=
  { usage with table := recorded.table, calls := usage.others exporter number }

/-- The table in use after a call has come to an end, if there is such a call, and what came of it,
given what is recorded and what comes of that. -/
def ended (usage : Usage) (exporter : Address) (number : Nat) (record : BreakerCall → Recorded)
    (result : CallResult) : Usage × Option (Address × CallResult) :=
  match usage.find? exporter number with
  | none => (usage, some (exporter, .unknown))
  | some (_, live) =>
    let recorded := record live.call
    (usage.endCall exporter number recorded,
      some (exporter, if recorded.overflow then .overflow else result))

/-- The table in use after an operation, and what came of the call that it is about. -/
def step (usage : Usage) : Operation → Usage × Option (Address × CallResult)
  | .get exporter => ({ usage with table := usage.table.ensure exporter }, none)
  | .find _ => (usage, none)
  | .call exporter =>
    match usage.table.enter exporter usage.now with
    | (table, none) => ({ usage with table }, some (exporter, .rejected))
    | (table, some call) =>
      ({ usage with
          table
          calls := (exporter, ⟨usage.admitted.count exporter, call⟩) :: usage.calls
          admitted := exporter :: usage.admitted },
        some (exporter, .running))
  | .finish exporter number success =>
    usage.ended exporter number (fun _ => usage.table.record exporter usage.now success)
      (.ended success)
  | .drop exporter number =>
    usage.ended exporter number (usage.table.drop exporter usage.now) .dropped
  | .wait duration => ({ usage with now := ⟨usage.now.nanos + duration.nanos⟩ }, none)

/-- A table without breakers that was not used. -/
def fresh (config : BreakerConfig) : Usage := { table := { config } }

/-- The table in use after operations in order. -/
def run (usage : Usage) (operations : List Operation) : Usage :=
  operations.foldl (fun usage operation => (usage.step operation).1) usage

/-- What comes of the calls to an exporter in the course of operations. -/
def resultsOf (exporter : Address) : List Operation → Usage → List CallResult
  | [], _ => []
  | operation :: operations, usage =>
    ((usage.step operation).2.toList.filter fun entry => entry.1 = exporter).map Prod.snd ++
      resultsOf exporter operations (usage.step operation).1

/-- The unfinished calls to an exporter. -/
def callsOf (usage : Usage) (exporter : Address) : List LiveCall :=
  (usage.calls.filter fun entry => entry.1 = exporter).map Prod.snd

end Usage

/-! ## Tables -/

variable {table : BreakerTable} {exporter other : Address} {breaker : Breaker}

/-- The breaker of an exporter is found where it was put, and every other one where it was. -/
theorem find?_set (table : BreakerTable) (exporter other : Address) (breaker : Breaker) :
    (table.set exporter breaker).find? other =
      if other = exporter then some breaker else table.find? other := by
  unfold set find?
  dsimp only
  induction table.breakers with
  | nil =>
    by_cases own : other = exporter
    · simp [put, own]
    · have passed : (other == exporter) = false := by simp [own]
      simp [put, own, List.lookup_cons, passed]
  | cons first rest ih =>
    obtain ⟨key, old⟩ := first
    by_cases here : key = exporter
    · subst here
      by_cases own : other = key
      · simp [put, own]
      · have passed : (other == key) = false := by simp [own]
        simp [put, own, List.lookup_cons, passed]
    · by_cases found : other = key
      · simp [put, here, found]
      · have passed : (other == key) = false := by simp [found]
        simp only [put, here, if_false, List.lookup_cons, passed]
        exact ih

/-- So it is with the breaker that is needed. -/
theorem get_set (table : BreakerTable) (exporter other : Address) (breaker : Breaker) :
    (table.set exporter breaker).get other =
      if other = exporter then breaker else table.get other := by
  unfold get
  rw [find?_set]
  split
  · rfl
  · rfl

/-- A breaker that is needed is the same afterwards. -/
theorem get_ensure (table : BreakerTable) (exporter other : Address) :
    (table.ensure exporter).get other = table.get other := by
  unfold ensure
  rw [get_set]
  split
  case isTrue same => rw [same]
  case isFalse => rfl

/-- A breaker that is needed is made, unless it was made before. -/
theorem find?_ensure (table : BreakerTable) (exporter other : Address) :
    (table.ensure exporter).find? other =
      if other = exporter then some (table.get exporter) else table.find? other :=
  table.find?_set exporter other _

/-- A call that is let pass or rejected concerns its exporter, whose breaker decides. -/
theorem enter_get (table : BreakerTable) (exporter other : Address) (now : Instant) :
    (table.enter exporter now).2 = ((table.get exporter).enter now).map Prod.snd ∧
      (table.enter exporter now).1.get other =
        if other = exporter then
          (((table.get exporter).enter now).map Prod.fst).getD (table.get exporter)
        else table.get other := by
  unfold enter
  split
  case h_1 breaker call passed =>
    rw [get_set, passed]
    exact ⟨rfl, rfl⟩
  case h_2 rejected =>
    rw [get_ensure, rejected]
    refine ⟨rfl, ?_⟩
    split
    case isTrue same => exact congrArg table.get same
    case isFalse => rfl

/-- The breaker of a call is made, whether or not it is let pass. -/
theorem find?_enter_isSome (table : BreakerTable) (exporter other : Address) (now : Instant) :
    ((table.enter exporter now).1.find? other).isSome ↔
      other = exporter ∨ (table.find? other).isSome := by
  unfold enter
  split
  · rw [find?_set]
    split <;> simp_all
  · rw [find?_ensure]
    split <;> simp_all

namespace Usage

variable {usage : Usage} {traffic : Traffic}

/-! ## One exporter -/

/-- As far as an exporter is concerned, a table in use is a single breaker in use. -/
structure Mirrors (exporter : Address) (usage : Usage) (traffic : Traffic) : Prop where
  /-- The breaker is the same. -/
  breaker : usage.table.get exporter = traffic.breaker
  /-- The time is the same. -/
  now : usage.now = traffic.now
  /-- The same calls have not ended. -/
  calls : usage.callsOf exporter = traffic.calls
  /-- As many calls were let pass. -/
  admitted : usage.admitted.count exporter = traffic.admitted

/-- The unfinished call with a number is the same. -/
theorem Mirrors.find? (mirrors : usage.Mirrors exporter traffic) (number : Nat) :
    (usage.find? exporter number).map Prod.snd = traffic.find? number := by
  unfold Usage.find? Traffic.find?
  rw [← mirrors.calls, callsOf, List.find?_map, List.find?_filter]
  simp

/-- The other unfinished calls to an exporter are those without the one. -/
theorem Mirrors.others (mirrors : usage.Mirrors exporter traffic) (number : Nat) :
    ((usage.others exporter number).filter fun entry => entry.1 = exporter).map Prod.snd =
      traffic.others number := by
  unfold Usage.others Traffic.others
  rw [← mirrors.calls, callsOf, List.filter_map, List.filter_filter, List.filter_filter]
  congr 1
  apply List.filter_congr
  intro entry _
  by_cases own : entry.1 = exporter <;> simp [own]

/-- The calls to other exporters stay when one ends. -/
theorem callsOf_others (usage : Usage) {key : Address} (other : exporter ≠ key) (number : Nat) :
    ((usage.others key number).filter fun entry => entry.1 = exporter).map Prod.snd =
      usage.callsOf exporter := by
  unfold Usage.others callsOf
  rw [List.filter_filter]
  congr 1
  apply List.filter_congr
  intro entry _
  by_cases own : entry.1 = exporter
  · have away : entry.1 ≠ key := own ▸ other
    simp [own, other]
  · simp [own]

/-- The end of a call to the exporter is the end of that call of its breaker. -/
theorem Mirrors.endCall (mirrors : usage.Mirrors exporter traffic) (number : Nat)
    (recorded : Breaker.Recorded) :
    (usage.endCall exporter number (usage.table.settle exporter recorded)).Mirrors exporter
      (traffic.endCall number recorded) where
  breaker := (get_set _ _ _ _).trans (if_pos rfl)
  now := mirrors.now
  calls := mirrors.others number
  admitted := mirrors.admitted

/-- The end of a call to another exporter is nothing to it. -/
theorem Mirrors.endOther (mirrors : usage.Mirrors exporter traffic) {key : Address}
    (other : exporter ≠ key) (number : Nat) (recorded : Breaker.Recorded) :
    (usage.endCall key number (usage.table.settle key recorded)).Mirrors exporter traffic where
  breaker := (get_set _ _ _ _).trans ((if_neg other).trans mirrors.breaker)
  now := mirrors.now
  calls := (callsOf_others usage other number).trans mirrors.calls
  admitted := mirrors.admitted

/-- What an operation does, and what comes of it, is as an act on the breaker of the exporter or
does not concern it. -/
def Follows (exporter : Address) (traffic : Traffic) (operation : Operation)
    (after : Usage × Option (Address × CallResult)) : Prop :=
  after.1.Mirrors exporter ((operation.act? exporter).elim traffic traffic.step) ∧
    (after.2.toList.filter fun entry => entry.1 = exporter).map Prod.snd =
      ((operation.act? exporter).bind traffic.result?).toList

/-- A call is let pass or rejected by the breaker of its exporter. -/
theorem Mirrors.call (mirrors : usage.Mirrors exporter traffic) (key : Address) :
    Follows exporter traffic (.call key) (usage.step (.call key)) := by
  obtain ⟨decided, breakers⟩ := usage.table.enter_get key exporter usage.now
  unfold Usage.step
  dsimp only
  by_cases own : key = exporter
  · subst own
    have act : Operation.act? key (.call key) = some .call := if_pos rfl
    rw [if_pos rfl] at breakers
    rw [mirrors.breaker, mirrors.now] at decided breakers
    unfold Follows
    rw [act, Option.elim_some, Option.bind_some]
    cases entered : traffic.breaker.enter traffic.now with
    | none =>
      rw [entered] at decided breakers
      rw [mirrors.now]
      cases passed : usage.table.enter key traffic.now with
      | mk table call =>
        rw [passed] at decided breakers
        cases decided
        refine ⟨?_, by simp [Traffic.result?, entered]⟩
        simp only [Traffic.step, entered]
        exact ⟨breakers, rfl, mirrors.calls, mirrors.admitted⟩
    | some passing =>
      rw [entered] at decided breakers
      rw [mirrors.now]
      cases passed : usage.table.enter key traffic.now with
      | mk table call =>
        rw [passed] at decided breakers
        cases decided
        refine ⟨?_, by simp [Traffic.result?, entered]⟩
        simp only [Traffic.step, entered]
        refine ⟨breakers, rfl, ?_, ?_⟩
        · simpa [callsOf, mirrors.admitted] using mirrors.calls
        · simpa using mirrors.admitted
  · have act : Operation.act? exporter (.call key) = none := if_neg own
    rw [if_neg (Ne.symm own)] at breakers
    unfold Follows
    rw [act]
    cases passed : usage.table.enter key usage.now with
    | mk table call =>
      rw [passed] at breakers
      cases call with
      | none =>
        exact ⟨⟨breakers.trans mirrors.breaker, mirrors.now, mirrors.calls, mirrors.admitted⟩,
          by simp [own]⟩
      | some call =>
        refine ⟨⟨breakers.trans mirrors.breaker, mirrors.now, ?_, ?_⟩, by simp [own]⟩
        · simpa [callsOf, own] using mirrors.calls
        · simpa [List.count_cons, own] using mirrors.admitted

/-- A call to the exporter that ends is recorded by its breaker. -/
theorem Mirrors.ended (mirrors : usage.Mirrors exporter traffic) (number : Nat)
    (record : BreakerCall → Breaker.Recorded) (result : CallResult) :
    let after := usage.ended exporter number
      (fun call => usage.table.settle exporter (record call)) result
    after.1.Mirrors exporter
        ((traffic.find? number).elim traffic fun live =>
          traffic.endCall number (record live.call)) ∧
      after.2 = some (exporter, traffic.endResult number record result) := by
  have same := mirrors.find? number
  unfold Usage.ended Traffic.endResult
  cases found : usage.find? exporter number with
  | none =>
    rw [found] at same
    rw [← same]
    exact ⟨mirrors, rfl⟩
  | some entry =>
    rw [found] at same
    rw [← same]
    exact ⟨mirrors.endCall number (record entry.2.call), rfl⟩

/-- A call to another exporter that ends is nothing to it. -/
theorem Mirrors.ended_other (mirrors : usage.Mirrors exporter traffic) {key : Address}
    (other : exporter ≠ key) (number : Nat) (record : BreakerCall → Breaker.Recorded)
    (result : CallResult) :
    let after := usage.ended key number (fun call => usage.table.settle key (record call)) result
    after.1.Mirrors exporter traffic ∧ ∃ given, after.2 = some (key, given) := by
  unfold Usage.ended
  cases usage.find? key number with
  | none => exact ⟨mirrors, _, rfl⟩
  | some entry => exact ⟨mirrors.endOther other number (record entry.2.call), _, rfl⟩

/-- The end of a call is recorded by the breaker of its exporter and concerns no other. -/
theorem Mirrors.follows_ended (mirrors : usage.Mirrors exporter traffic) {key : Address}
    {number : Nat} {operation : Operation} {act : Traffic.Act} {result : CallResult}
    (record : BreakerCall → Breaker → Breaker.Recorded)
    (concerns : operation.act? exporter = if key = exporter then some act else none)
    (ends : usage.step operation = usage.ended key number
      (fun call => usage.table.settle key (record call (usage.table.get key))) result)
    (acts : traffic.step act = (traffic.find? number).elim traffic fun live =>
      traffic.endCall number (record live.call traffic.breaker))
    (gives : traffic.result? act =
      some (traffic.endResult number (record · traffic.breaker) result)) :
    Follows exporter traffic operation (usage.step operation) := by
  unfold Follows
  rw [concerns, ends]
  by_cases own : key = exporter
  · subst own
    obtain ⟨later, given⟩ := mirrors.ended number (record · traffic.breaker) result
    rw [if_pos rfl, Option.elim_some, Option.bind_some, acts, gives, mirrors.breaker]
    exact ⟨later, by simp [given]⟩
  · obtain ⟨later, given, named⟩ :=
      mirrors.ended_other (Ne.symm own) number (record · (usage.table.get key)) result
    rw [if_neg own]
    exact ⟨later, by simp [named, own]⟩

/-- Every operation is as an act on the breaker of an exporter or does not concern it. -/
theorem Mirrors.step (mirrors : usage.Mirrors exporter traffic) (operation : Operation) :
    Follows exporter traffic operation (usage.step operation) := by
  cases operation with
  | get key =>
    refine ⟨⟨?_, mirrors.now, mirrors.calls, mirrors.admitted⟩, rfl⟩
    exact (get_ensure _ _ _).trans mirrors.breaker
  | find key => exact ⟨mirrors, rfl⟩
  | call key => exact mirrors.call key
  | finish key number success =>
    refine mirrors.follows_ended (fun _ breaker => breaker.record traffic.now success) rfl ?_ ?_ rfl
    · rw [← mirrors.now]
      rfl
    · rw [Traffic.step]
      cases traffic.find? number <;> rfl
  | drop key number =>
    refine mirrors.follows_ended (fun call breaker => breaker.drop traffic.now call) rfl ?_ ?_ rfl
    · rw [← mirrors.now]
      rfl
    · rw [Traffic.step]
      cases traffic.find? number <;> rfl
  | wait duration =>
    refine ⟨⟨mirrors.breaker, ?_, mirrors.calls, mirrors.admitted⟩, rfl⟩
    show Instant.mk (usage.now.nanos + duration.nanos) = ⟨traffic.now.nanos + duration.nanos⟩
    rw [mirrors.now]

/-- So are operations in order. -/
theorem Mirrors.run (mirrors : usage.Mirrors exporter traffic) (operations : List Operation) :
    (usage.run operations).Mirrors exporter
        ((Operation.actsOf exporter operations).foldl Traffic.step traffic) ∧
      resultsOf exporter operations usage =
        Traffic.results (Operation.actsOf exporter operations) traffic := by
  induction operations generalizing usage traffic with
  | nil => exact ⟨mirrors, rfl⟩
  | cons operation operations ih =>
    obtain ⟨stepped, results⟩ := mirrors.step operation
    obtain ⟨ran, others⟩ := ih stepped
    unfold Operation.actsOf at ran others ⊢
    rw [resultsOf, results, others]
    cases act : operation.act? exporter with
    | none =>
      rw [act] at ran
      rw [List.filterMap_cons_none act]
      exact ⟨ran, rfl⟩
    | some act' =>
      rw [act] at ran
      rw [List.filterMap_cons_some act]
      exact ⟨ran, rfl⟩

/-- A table that was not used is to every exporter a breaker that was not used. -/
theorem mirrors_fresh (config : BreakerConfig) (exporter : Address) :
    (fresh config).Mirrors exporter (Traffic.fresh config) :=
  ⟨rfl, rfl, rfl, rfl⟩

/-! ## Made breakers -/

/-- Every unfinished call has a breaker. -/
def Founded (usage : Usage) : Prop :=
  ∀ entry ∈ usage.calls, (usage.table.find? entry.1).isSome

/-- The end of a call makes no breaker, since the call has one. -/
theorem Founded.ended (founded : usage.Founded) (key : Address) (number : Nat)
    (record : BreakerCall → Breaker.Recorded) (result : CallResult) :
    let after := usage.ended key number (fun call => usage.table.settle key (record call)) result
    after.1.Founded ∧
      ∀ exporter, (after.1.table.find? exporter).isSome ↔
        (usage.table.find? exporter).isSome := by
  unfold Usage.ended
  cases found : usage.find? key number with
  | none => exact ⟨founded, fun _ => Iff.rfl⟩
  | some entry =>
    have named : entry.1 = key := by
      have satisfied := List.find?_some found
      simp only [decide_eq_true_eq] at satisfied
      exact satisfied.1
    have made : (usage.table.find? key).isSome := by
      rw [← named]
      exact founded entry (List.mem_of_find?_eq_some found)
    have kept (exporter : Address) :
        ((usage.table.set key (record entry.2.call).breaker).find? exporter).isSome ↔
          (usage.table.find? exporter).isSome := by
      rw [find?_set]
      split
      case isTrue own => simp [own, made]
      case isFalse => rfl
    exact ⟨fun other member => (kept _).2 (founded other (List.mem_filter.1 member).1), kept⟩

/-- An operation makes the breaker that it needs and no other, and forgets none. -/
theorem Founded.step (founded : usage.Founded) (operation : Operation) :
    (usage.step operation).1.Founded ∧
      ∀ exporter, ((usage.step operation).1.table.find? exporter).isSome ↔
        operation.maker? = some exporter ∨ (usage.table.find? exporter).isSome := by
  cases operation with
  | get key =>
    have made (exporter : Address) : ((usage.table.ensure key).find? exporter).isSome ↔
        some key = some exporter ∨ (usage.table.find? exporter).isSome := by
      rw [find?_ensure, Option.some.injEq, @eq_comm _ key]
      split <;> simp_all
    exact ⟨fun entry member => (made _).2 (.inr (founded entry member)), made⟩
  | find key => exact ⟨founded, by simp [Usage.step, Operation.maker?]⟩
  | call key =>
    have made (exporter : Address) :
        ((usage.table.enter key usage.now).1.find? exporter).isSome ↔
          some key = some exporter ∨ (usage.table.find? exporter).isSome := by
      rw [find?_enter_isSome, Option.some.injEq, @eq_comm _ key]
    unfold Usage.step
    dsimp only
    cases passed : usage.table.enter key usage.now with
    | mk table call =>
      rw [passed] at made
      cases call with
      | none => exact ⟨fun entry member => (made _).2 (.inr (founded entry member)), made⟩
      | some call =>
        refine ⟨fun entry member => (made _).2 ?_, made⟩
        rcases List.mem_cons.1 member with rfl | earlier
        · exact .inl rfl
        · exact .inr (founded entry earlier)
  | finish key number success =>
    obtain ⟨later, kept⟩ := founded.ended key number
      (fun _ => (usage.table.get key).record usage.now success) (.ended success)
    exact ⟨later, fun exporter => (kept exporter).trans (by simp [Operation.maker?])⟩
  | drop key number =>
    obtain ⟨later, kept⟩ := founded.ended key number
      ((usage.table.get key).drop usage.now) .dropped
    exact ⟨later, fun exporter => (kept exporter).trans (by simp [Operation.maker?])⟩
  | wait duration => exact ⟨founded, by simp [Usage.step, Operation.maker?]⟩

/-- Operations make the breakers that they need and no others, and forget none. -/
theorem Founded.run (founded : usage.Founded) (operations : List Operation) (exporter : Address) :
    ((usage.run operations).table.find? exporter).isSome ↔
      exporter ∈ Operation.makers operations ∨ (usage.table.find? exporter).isSome := by
  induction operations generalizing usage with
  | nil => simp [Usage.run, Operation.makers]
  | cons operation operations ih =>
    obtain ⟨later, made⟩ := founded.step operation
    have among : exporter ∈ Operation.makers (operation :: operations) ↔
        operation.maker? = some exporter ∨ exporter ∈ Operation.makers operations := by
      simp [Operation.makers]
    rw [among, or_assoc, or_left_comm, ← made exporter]
    exact ih later

/-- After operations on a table that was not used, the breaker of an exporter is found exactly if
an operation needed it. It is the single breaker to which happens what concerns the exporter, at
the same times, and what comes of the calls is the same; and no breaker is forgotten. -/
theorem breakers_isolated (config : BreakerConfig) (operations : List Operation)
    (exporter : Address) :
    ((fresh config).run operations).table.find? exporter =
        (if exporter ∈ Operation.makers operations then
          some (Traffic.after config (Operation.actsOf exporter operations)).breaker
        else none) ∧
      ((fresh config).run operations).now =
        (Traffic.after config (Operation.actsOf exporter operations)).now ∧
      resultsOf exporter operations (fresh config) =
        Traffic.results (Operation.actsOf exporter operations) (Traffic.fresh config) ∧
      ∀ more, (((fresh config).run operations).table.find? exporter).isSome →
        (((fresh config).run (operations ++ more)).table.find? exporter).isSome := by
  have founded : (fresh config).Founded := nofun
  have made (operations : List Operation) :
      (((fresh config).run operations).table.find? exporter).isSome ↔
        exporter ∈ Operation.makers operations :=
    (founded.run operations exporter).trans (or_iff_left (Bool.false_ne_true))
  obtain ⟨mirrors, results⟩ := (mirrors_fresh config exporter).run operations
  refine ⟨?_, mirrors.now, results, fun more found => ?_⟩
  · cases found : ((fresh config).run operations).table.find? exporter with
    | none => rw [if_neg fun needed => by simpa [found] using (made operations).2 needed]
    | some breaker =>
      rw [if_pos ((made operations).1 (by rw [found]; rfl))]
      have needed := mirrors.breaker
      rw [BreakerTable.get, found] at needed
      exact congrArg some needed
  · rw [made] at found ⊢
    rw [Operation.makers, List.filterMap_append]
    exact List.mem_append_left _ found

/-- A call to one exporter fails and opens its breaker. Another exporter, whose call was let pass
before, is still called, and so is the first one when its cool-down is over. -/
example :
    let one : Address := ⟨1⟩
    let other : Address := ⟨2⟩
    let operations : List Operation :=
      [.call one, .call other, .finish one 0 false, .call one, .call other, .wait (.seconds 10),
        .finish other 0 true, .call one]
    let usage := fresh { errorThreshold := 1, timeout := .seconds 10 }
    resultsOf one operations usage = [.running, .ended false, .rejected, .running] ∧
      resultsOf other operations usage = [.running, .running, .ended true] := by
  decide

end Usage

end BreakerTable

end FlowEnrichment
