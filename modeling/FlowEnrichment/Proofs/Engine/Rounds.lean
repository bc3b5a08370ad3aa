import FlowEnrichment.Proofs.Engine.Coalescing

/-!
# What a round is made of

A round is told by the requests that it took: it has one batch for each of their exporters, in the
order in which the exporters first came, with the indexes of the exporter in order (`Gathered`).
Only the batch that grew last is looked at before another request is taken. That is enough to keep
every batch within the limit, since no batch grows that was not looked at after it grew before. So
a round takes requests exactly until it is complete (`Complete`) or none waits any more
(`round_gathers`).
-/
namespace FlowEnrichment.Coalesce

/-- Batches are those of the requests that were taken. -/
structure Gathered (taken : List Query) (batches : List BatchQuery) : Prop where
  /-- No exporter has two batches. -/
  distinct : Distinct batches
  /-- The exporters are those of the requests, in the order in which they first came. -/
  exporters : batches.map BatchQuery.exporter = (taken.map Query.exporter).eraseDups
  /-- The indexes of a batch are all that were taken of its exporter, in order. -/
  indexes : ∀ batch ∈ batches, batch.indexes = waitingIndexes batch.exporter taken

/-- A round takes no more requests: nothing is to be gathered, the batch of the last request has as
many indexes as a batch may have, or there are as many exporters as a round may have. -/
def Complete (limit : Nat) (taken : List Query) (batches : List BatchQuery) : Prop :=
  limit = 0 ∨
    (∃ last ∈ taken.getLast?, ∃ batch ∈ batches,
      batch.exporter = last.exporter ∧ batch.indexes.length = limit) ∨
    batches.length = maxExporters

variable {limit size : Nat} {taken queue : List Query} {query : Query}
  {batches : List BatchQuery}

/-! ## One more request -/

/-- The exporter of a request comes behind the others, unless it is one of them. -/
theorem exporters_add (query : Query) (batches : List BatchQuery) :
    (add query batches).1.map BatchQuery.exporter =
      if query.exporter ∈ batches.map BatchQuery.exporter then batches.map BatchQuery.exporter
      else batches.map BatchQuery.exporter ++ [query.exporter] := by
  induction batches with
  | nil => rfl
  | cons batch rest ih =>
    by_cases own : batch.exporter = query.exporter
    · simp [add, own]
    · have other : ¬ query.exporter = batch.exporter := fun same => own same.symm
      simp only [add, own, if_false, List.map_cons, List.mem_cons, other, false_or, ih]
      split
      · rfl
      · rfl

/-- The size that is told is that of the batch of the request. -/
theorem size_add (query : Query) {batches : List BatchQuery} (distinct : Distinct batches) :
    (add query batches).2 = (batchIndexes query.exporter batches).length + 1 := by
  induction batches with
  | nil => rfl
  | cons batch rest ih =>
    rw [Distinct, List.map_cons, List.nodup_cons] at distinct
    obtain ⟨new, others⟩ := distinct
    rw [batchIndexes_cons, batchIndexes_singleton]
    by_cases own : batch.exporter = query.exporter
    · have alone : batchIndexes query.exporter rest = [] := batchIndexes_of_notMem (own ▸ new)
      simp [add, own, alone]
    · simp [add, own, ih others]

/-- The indexes of an exporter that has a batch are those of the batch. -/
theorem batchIndexes_of_mem (distinct : Distinct batches) {batch : BatchQuery}
    (member : batch ∈ batches) : batchIndexes batch.exporter batches = batch.indexes := by
  induction batches with
  | nil => cases member
  | cons first rest ih =>
    rw [Distinct, List.map_cons, List.nodup_cons] at distinct
    obtain ⟨new, others⟩ := distinct
    rw [batchIndexes_cons, batchIndexes_singleton]
    rcases List.mem_cons.1 member with rfl | later
    · rw [if_pos rfl, batchIndexes_of_notMem new, List.append_nil]
    · have other : ¬ first.exporter = batch.exporter := fun same =>
        new (same ▸ List.mem_map_of_mem later)
      rw [if_neg other, List.nil_append, ih others later]

/-- What comes last is left out if it came before. -/
theorem eraseDups_concat {α : Type} [DecidableEq α] (xs : List α) (x : α) :
    (xs ++ [x]).eraseDups = if x ∈ xs then xs.eraseDups else xs.eraseDups ++ [x] := by
  rw [List.eraseDups_append]
  by_cases before : x ∈ xs
  · simp [before, List.removeAll]
  · simp [before, List.removeAll, List.eraseDups_cons]

namespace Gathered

/-- The indexes of an exporter in the batches are those that were taken of it. -/
theorem batchIndexes_eq (gathered : Gathered taken batches) (exporter : Address) :
    batchIndexes exporter batches = waitingIndexes exporter taken := by
  by_cases has : exporter ∈ batches.map BatchQuery.exporter
  · obtain ⟨batch, member, rfl⟩ := List.mem_map.1 has
    rw [batchIndexes_of_mem gathered.distinct member, gathered.indexes batch member]
  · rw [batchIndexes_of_notMem has]
    rw [gathered.exporters, List.mem_eraseDups] at has
    have untaken : (taken.filter fun query => query.exporter = exporter) = [] := by
      rw [List.filter_eq_nil_iff]
      intro query member own
      exact has (List.mem_map.2 ⟨query, member, of_decide_eq_true own⟩)
    rw [waitingIndexes, untaken, List.map_nil]

/-- Batches to which a request is added are those with one more request taken. -/
theorem add (gathered : Gathered taken batches) (query : Query) :
    Gathered (taken ++ [query]) (Coalesce.add query batches).1 where
  distinct := distinct_add gathered.distinct
  exporters := by
    rw [exporters_add, gathered.exporters, List.map_append, List.map_singleton, eraseDups_concat]
    simp only [List.mem_eraseDups]
  indexes batch member := by
    rw [← batchIndexes_of_mem (distinct_add gathered.distinct) member,
      batchIndexes_add _ query gathered.distinct, gathered.batchIndexes_eq, waitingIndexes_append]

end Gathered

/-! ## The bounds of a round -/

/-- A round that is being gathered: the requests that it took, the last of them, the size of its
batch, and the bounds that were not crossed. -/
structure Growing (limit : Nat) (taken : List Query) (last : Query) (batches : List BatchQuery)
    (size : Nat) : Prop where
  /-- The batches are those of the requests. -/
  gathered : Gathered taken batches
  /-- The last request is the last. -/
  ends : taken.getLast? = some last
  /-- The size is that of its batch. -/
  sized : (waitingIndexes last.exporter taken).length = size
  /-- This batch is not larger than it may be. -/
  within : size ≤ max 1 limit
  /-- The others are smaller: each was looked at after it grew. -/
  others : ∀ exporter, exporter ≠ last.exporter →
    (waitingIndexes exporter taken).length < max 1 limit
  /-- There are no more exporters than there may be. -/
  exporters : batches.length ≤ maxExporters

namespace Growing

variable {last : Query}

/-- A round grows from its first request. -/
theorem first (limit : Nat) (query : Query) :
    Growing limit [query] query (Coalesce.add query []).1 (Coalesce.add query []).2 where
  gathered :=
    have nothing : Gathered [] [] := ⟨List.nodup_nil, rfl, List.forall_mem_nil _⟩
    nothing.add query
  ends := rfl
  sized := by
    rw [waitingIndexes_singleton, if_pos rfl]
    rfl
  within := Nat.le_max_left 1 limit
  others exporter other := by
    rw [waitingIndexes_singleton, if_neg fun own => other own.symm]
    exact Nat.lt_of_lt_of_le Nat.zero_lt_one (Nat.le_max_left 1 limit)
  exporters := Nat.le_add_left 1 3

/-- A round is full exactly if it is complete. -/
theorem isFull_iff (growing : Growing limit taken last batches size) :
    isFull limit size batches = true ↔ Complete limit taken batches := by
  have within := growing.within
  have exporters := growing.exporters
  have has_batch : ∃ batch ∈ batches, batch.exporter = last.exporter := by
    have among : last.exporter ∈ batches.map BatchQuery.exporter := by
      rw [growing.gathered.exporters, List.mem_eraseDups]
      exact List.mem_map_of_mem (List.mem_of_getLast? growing.ends)
    exact List.mem_map.1 among
  have reached : (∃ last ∈ taken.getLast?, ∃ batch ∈ batches,
      batch.exporter = last.exporter ∧ batch.indexes.length = limit) ↔ size = limit := by
    rw [← growing.sized]
    constructor
    · rintro ⟨other, same, batch, member, own, length⟩
      cases growing.ends.symm.trans same
      rw [← length, growing.gathered.indexes batch member, own]
    · intro length
      obtain ⟨batch, member, own⟩ := has_batch
      refine ⟨last, growing.ends, batch, member, own, ?_⟩
      rw [growing.gathered.indexes batch member, own, length]
  rw [Complete, reached]
  simp only [isFull, Bool.or_eq_true, beq_iff_eq, decide_eq_true_eq]
  omega

/-- A round that is not full stays within its bounds with one more request. -/
theorem add (growing : Growing limit taken last batches size)
    (unfilled : isFull limit size batches = false) (query : Query) :
    Growing limit (taken ++ [query]) query (Coalesce.add query batches).1
      (Coalesce.add query batches).2 := by
  simp only [isFull, Bool.or_eq_false_iff, beq_eq_false_iff_ne, decide_eq_false_iff_not] at unfilled
  obtain ⟨⟨any, room⟩, few⟩ := unfilled
  have below (exporter : Address) : (waitingIndexes exporter taken).length < limit := by
    by_cases own : exporter = last.exporter
    · rw [own, growing.sized]
      omega
    · have other := growing.others exporter own
      omega
  have sized : (Coalesce.add query batches).2 =
      (waitingIndexes query.exporter taken).length + 1 := by
    rw [size_add query growing.gathered.distinct, growing.gathered.batchIndexes_eq]
  refine ⟨growing.gathered.add query, List.getLast?_concat, ?_, ?_, fun exporter other => ?_, ?_⟩
  · rw [sized, waitingIndexes_append, waitingIndexes_singleton, if_pos rfl, List.length_append]
    rfl
  · rw [sized]
    exact Nat.le_trans (below query.exporter) (Nat.le_max_right 1 limit)
  · rw [waitingIndexes_append, waitingIndexes_singleton, if_neg fun own => other own.symm,
      List.append_nil]
    exact Nat.lt_of_lt_of_le (below exporter) (Nat.le_max_right 1 limit)
  · have one_more : (Coalesce.add query batches).1.length ≤ batches.length + 1 := by
      have exporters := congrArg List.length (exporters_add query batches)
      split at exporters
      · rw [List.length_map, List.length_map] at exporters
        omega
      · rw [List.length_append, List.length_map, List.length_map] at exporters
        exact Nat.le_of_eq exporters
    omega

/-- No batch of a round is larger than it may be. -/
theorem length_le (growing : Growing limit taken last batches size) {batch : BatchQuery}
    (member : batch ∈ batches) : batch.indexes.length ≤ max 1 limit := by
  rw [growing.gathered.indexes batch member]
  by_cases own : batch.exporter = last.exporter
  · rw [own, growing.sized]
    exact growing.within
  · exact Nat.le_of_lt (growing.others batch.exporter own)

/-- A round that is gathered takes requests from the front of the queue as long as it is not
complete, and leaves the others. -/
theorem gather (growing : Growing limit taken last batches size) (queue : List Query) :
    let (grown, left) := Coalesce.gather limit batches size queue
    ∃ more last size, queue = more ++ left ∧ Growing limit (taken ++ more) last grown size ∧
      (left ≠ [] → Complete limit (taken ++ more) grown) ∧
      ∀ before query after, more = before ++ query :: after →
        ∃ batches, Gathered (taken ++ before) batches ∧
          ¬ Complete limit (taken ++ before) batches := by
  induction queue generalizing taken last batches size with
  | nil =>
    refine ⟨[], last, size, rfl, ?_, fun waits => absurd rfl waits, ?_⟩
    · rw [List.append_nil]
      exact growing
    · intro before query after split
      simp at split
  | cons query queue ih =>
    unfold Coalesce.gather
    cases full : isFull limit size batches with
    | true =>
      rw [if_pos rfl]
      refine ⟨[], last, size, rfl, ?_, fun _ => ?_, ?_⟩
      · rw [List.append_nil]
        exact growing
      · rw [List.append_nil]
        exact growing.isFull_iff.1 full
      · intro before query after split
        simp at split
    | false =>
      rw [if_neg Bool.false_ne_true]
      obtain ⟨more, last', size', parts, grown, complete, earlier⟩ := ih (growing.add full query)
      rw [List.append_assoc, List.singleton_append] at grown complete
      refine ⟨query :: more, last', size', congrArg (query :: ·) parts, grown, complete, ?_⟩
      intro before other after split
      cases before with
      | nil =>
        refine ⟨batches, ?_, ?_⟩
        · rw [List.append_nil]
          exact growing.gathered
        · rw [List.append_nil, ← growing.isFull_iff, full]
          exact Bool.false_ne_true
      | cons first before =>
        obtain ⟨rfl, later⟩ := List.cons.inj split
        have unfinished := earlier before other after later
        rw [List.append_assoc] at unfinished
        exact unfinished

end Growing

/-- A round takes requests from the front of the queue, the first of all included, and leaves the
others as they are. It has one batch for each exporter among those that it took, in the order in
which the exporters first came, with the indexes of the exporter in order. No batch is larger than
the limit, or one, and no round has more exporters than it may have. If requests are left the round
is complete, and it was not before it took its last request. -/
theorem round_gathers (limit : Nat) (first : Query) (queue : List Query) :
    let (batches, left) := round limit first queue
    ∃ taken, queue = taken ++ left ∧ Gathered (first :: taken) batches ∧
      (∀ batch ∈ batches, batch.indexes.length ≤ max 1 limit) ∧
      batches.length ≤ maxExporters ∧
      (left ≠ [] → Complete limit (first :: taken) batches) ∧
      ∀ before query after, taken = before ++ query :: after →
        ∃ batches, Gathered (first :: before) batches ∧
          ¬ Complete limit (first :: before) batches := by
  obtain ⟨taken, last, size, parts, grown, complete, earlier⟩ :=
    (Growing.first limit first).gather queue
  exact ⟨taken, parts, grown.gathered, fun _ member => grown.length_le member, grown.exporters,
    complete, earlier⟩

/-- A round of batches of two takes a third request of another exporter, and stops when the batch
of the first exporter has two indexes. -/
example :
    round 2 ⟨⟨1⟩, 7⟩ [⟨⟨2⟩, 5⟩, ⟨⟨1⟩, 7⟩, ⟨⟨2⟩, 6⟩] =
      ([⟨⟨1⟩, [7, 7]⟩, ⟨⟨2⟩, [5]⟩], [⟨⟨2⟩, 6⟩]) := by
  decide

end FlowEnrichment.Coalesce
