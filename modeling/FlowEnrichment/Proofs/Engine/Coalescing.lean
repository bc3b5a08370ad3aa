import FlowEnrichment.Engine.Coalesce

/-!
# What a round keeps

A round takes requests from the front of the queue and puts each of them at the end of the batch
of its exporter. So no exporter has two batches, and for every exporter the index of a request
comes after those that the round took before.
-/
namespace FlowEnrichment.Coalesce

/-- The indexes of an exporter among requests that wait, in order. -/
def waitingIndexes (exporter : Address) (queue : List Query) : List UInt32 :=
  (queue.filter fun query => query.exporter = exporter).map Query.index

/-- The indexes of an exporter in batches, in order. -/
def batchIndexes (exporter : Address) (batches : List BatchQuery) : List UInt32 :=
  (batches.filter fun batch => batch.exporter = exporter).flatMap BatchQuery.indexes

/-- Whether no exporter has two batches. -/
def Distinct (batches : List BatchQuery) : Prop := (batches.map BatchQuery.exporter).Nodup

/-! ## Indexes -/

/-- The indexes of requests in two parts are those of the first and then those of the second. -/
theorem waitingIndexes_append (exporter : Address) (first second : List Query) :
    waitingIndexes exporter (first ++ second) =
      waitingIndexes exporter first ++ waitingIndexes exporter second := by
  rw [waitingIndexes, List.filter_append, List.map_append, waitingIndexes, waitingIndexes]

/-- The indexes of batches in two parts are those of the first and then those of the second. -/
theorem batchIndexes_append (exporter : Address) (first second : List BatchQuery) :
    batchIndexes exporter (first ++ second) =
      batchIndexes exporter first ++ batchIndexes exporter second := by
  rw [batchIndexes, List.filter_append, List.flatMap_append, batchIndexes, batchIndexes]

/-- The indexes of a request and others are those of the request first. -/
theorem waitingIndexes_cons (exporter : Address) (query : Query) (queue : List Query) :
    waitingIndexes exporter (query :: queue) =
      waitingIndexes exporter [query] ++ waitingIndexes exporter queue :=
  waitingIndexes_append exporter [query] queue

/-- The indexes of a batch and others are those of the batch first. -/
theorem batchIndexes_cons (exporter : Address) (batch : BatchQuery) (batches : List BatchQuery) :
    batchIndexes exporter (batch :: batches) =
      batchIndexes exporter [batch] ++ batchIndexes exporter batches :=
  batchIndexes_append exporter [batch] batches

/-- The indexes of one request are its own for its exporter. -/
theorem waitingIndexes_singleton (exporter : Address) (query : Query) :
    waitingIndexes exporter [query] = if query.exporter = exporter then [query.index] else [] := by
  by_cases own : query.exporter = exporter
  · simp [waitingIndexes, own]
  · simp [waitingIndexes, own]

/-- The indexes of one batch are its own for its exporter. -/
theorem batchIndexes_singleton (exporter : Address) (batch : BatchQuery) :
    batchIndexes exporter [batch] = if batch.exporter = exporter then batch.indexes else [] := by
  by_cases own : batch.exporter = exporter
  · simp [batchIndexes, own]
  · simp [batchIndexes, own]

/-- An exporter without a batch has no indexes in batches. -/
theorem batchIndexes_of_notMem {exporter : Address} {batches : List BatchQuery}
    (absent : exporter ∉ batches.map BatchQuery.exporter) : batchIndexes exporter batches = [] := by
  have none_left : (batches.filter fun batch => batch.exporter = exporter) = [] := by
    rw [List.filter_eq_nil_iff]
    intro batch member own
    exact absent (List.mem_map.2 ⟨batch, member, by simpa using own⟩)
  rw [batchIndexes, none_left, List.flatMap_nil]

/-! ## Gathering -/

/-- The exporters of a round that grew are the old ones and that of the request. -/
theorem mem_exporters_add {exporter : Address} {query : Query} {round : List BatchQuery} :
    exporter ∈ (add query round).1.map BatchQuery.exporter ↔
      exporter = query.exporter ∨ exporter ∈ round.map BatchQuery.exporter := by
  induction round with
  | nil => simp [add]
  | cons batch rest ih =>
    by_cases own : batch.exporter = query.exporter
    · simp [add, own]
    · simp only [add, own, if_false, List.map_cons, List.mem_cons, ih]
      constructor
      · rintro (first | grown | other)
        · exact .inr (.inl first)
        · exact .inl grown
        · exact .inr (.inr other)
      · rintro (grown | first | other)
        · exact .inr (.inl grown)
        · exact .inl first
        · exact .inr (.inr other)

/-- A round that grew has no two batches of an exporter either. -/
theorem distinct_add {query : Query} {round : List BatchQuery} (distinct : Distinct round) :
    Distinct (add query round).1 := by
  induction round with
  | nil => simp [Distinct, add]
  | cons batch rest ih =>
    rw [Distinct, List.map_cons, List.nodup_cons] at distinct
    obtain ⟨new, others⟩ := distinct
    by_cases own : batch.exporter = query.exporter
    · simp only [Distinct, add, own, if_true, List.map_cons, List.nodup_cons]
      exact ⟨own ▸ new, others⟩
    · simp only [Distinct, add, own, if_false, List.map_cons, List.nodup_cons]
      refine ⟨?_, ih others⟩
      intro member
      rcases mem_exporters_add.1 member with same | before
      · exact own same
      · exact new before

/-- The index of a request comes after the others of its exporter. -/
theorem batchIndexes_add (exporter : Address) (query : Query) {round : List BatchQuery}
    (distinct : Distinct round) :
    batchIndexes exporter (add query round).1 =
      batchIndexes exporter round ++ waitingIndexes exporter [query] := by
  induction round with
  | nil => rw [add, batchIndexes_singleton, waitingIndexes_singleton]; rfl
  | cons batch rest ih =>
    rw [Distinct, List.map_cons, List.nodup_cons] at distinct
    obtain ⟨new, others⟩ := distinct
    by_cases own : batch.exporter = query.exporter
    · simp only [add, own, if_true]
      rw [batchIndexes_cons, batchIndexes_cons exporter batch, batchIndexes_singleton,
        batchIndexes_singleton, waitingIndexes_singleton]
      by_cases asked : query.exporter = exporter
      · have alone : batchIndexes exporter rest = [] := by
          apply batchIndexes_of_notMem
          rw [← asked, ← own]
          exact new
        rw [alone, if_pos asked, if_pos (own.trans asked), if_pos asked, List.append_nil,
          List.append_nil]
      · have other : ¬ batch.exporter = exporter := fun same => asked (own.symm.trans same)
        rw [if_neg asked, if_neg other, if_neg asked, List.append_nil]
    · simp only [add, own, if_false]
      rw [batchIndexes_cons, batchIndexes_cons exporter batch rest, ih others, List.append_assoc]

/-- A round that grew is not empty. -/
theorem add_ne_nil (query : Query) (round : List BatchQuery) : (add query round).1 ≠ [] := by
  intro nothing
  have member : query.exporter ∈ (add query round).1.map BatchQuery.exporter :=
    mem_exporters_add.2 (.inl rfl)
  rw [nothing] at member
  cases member

end FlowEnrichment.Coalesce
