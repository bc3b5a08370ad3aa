import FlowEnrichment.Proofs.StaticTable

/-!
# Batches that go through chains of tables

A table that is asked for what the tables before it leave answers some of the indexes and leaves
the others, in the order of the batch (`answer_unanswered`, `handedOver?_unanswered`). The reports
of a chain are those of its tables one after the other. They are a partition of the batch
(`partitions_chainReports`): whatever index the chain has an answer to is reported once for each
of its places in the batch, by the first table that answers it, and the other indexes are not
reported at all.
-/
namespace FlowEnrichment

/-- An update that a chain of tables reports of a batch. -/
structure ChainReport where
  /-- The number of the table that reports it. -/
  table : Nat
  /-- The place in the batch of the index that is answered. -/
  place : Nat
  /-- The update. -/
  update : Update

namespace StaticTable

/-- The indexes of a batch to which no table has an answer, in the order of the batch. -/
def unanswered (tables : List StaticTable) (batch : BatchQuery) : List UInt32 :=
  batch.indexes.filter fun index => (chainAnswer? tables ⟨batch.exporter, index⟩).isNone

/-- The answer of a table to a query to which the tables before it have none. -/
def answerAfter? (earlier : List StaticTable) (table : StaticTable) (query : Query) :
    Option Answer :=
  if (chainAnswer? earlier query).isNone then table.answer? query else none

/-- The report of a table about an index of a batch to which the tables before it have no
answer. -/
def reportAfter? (earlier : List StaticTable) (table : StaticTable) (exporter : Address)
    (index : UInt32) (place : Nat) : Option ChainReport :=
  (answerAfter? earlier table ⟨exporter, index⟩).map fun answer =>
    ⟨earlier.length, place, ⟨⟨exporter, index⟩, answer⟩⟩

/-- The reports of a table about what the tables before it leave of a batch. -/
def reportsAfter (earlier : List StaticTable) (table : StaticTable) (batch : BatchQuery) :
    List ChainReport :=
  batch.indexes.zipIdx.filterMap fun indexed =>
    reportAfter? earlier table batch.exporter indexed.1 indexed.2

/-- The reports of a chain of tables about a batch. -/
def chainReports (tables : List StaticTable) (batch : BatchQuery) : List ChainReport :=
  tables.zipIdx.flatMap fun numbered => reportsAfter (tables.take numbered.2) numbered.1 batch

variable {tables earlier : List StaticTable} {table : StaticTable} {batch : BatchQuery}
  {query : Query} {index : UInt32} {place : Nat} {report : ChainReport}

/-! ## One more table -/

/-- A chain with one more table answers as before, or as the last table if it did not answer. -/
theorem chainAnswer?_concat : chainAnswer? (tables ++ [table]) query =
    (chainAnswer? tables query).or (answerAfter? tables table query) := by
  unfold chainAnswer? answerAfter? chainAnswer?
  rw [List.findSome?_append, List.findSome?_singleton]
  cases tables.findSome? (·.answer? query) <;> rfl

/-- No table leaves the whole batch. -/
theorem unanswered_nil : unanswered [] batch = batch.indexes :=
  List.filter_eq_self.2 fun _ _ => rfl

/-- One more table leaves those of the indexes left before to which it has no answer. -/
theorem unanswered_concat : unanswered (tables ++ [table]) batch =
    (unanswered tables batch).filter fun index =>
      (table.answer? ⟨batch.exporter, index⟩).isNone := by
  rw [unanswered, unanswered, List.filter_filter]
  refine List.filter_congr fun index _ => ?_
  rw [chainAnswer?_concat, answerAfter?]
  cases chainAnswer? tables ⟨batch.exporter, index⟩ <;> simp

/-- A provider that hands anything over hands something over. -/
theorem handedOver?_eq_ite (outcome : Except Failure Unit) :
    handedOver? outcome =
      if (handedOver? outcome).getD [] = [] then none
      else some ((handedOver? outcome).getD []) := by
  unfold handedOver?
  split <;> rfl

/-- A table never fails: what it leaves at the end of a chain is left unanswered. -/
theorem chainOutcome_answer (table : StaticTable) (batch : BatchQuery) :
    chainOutcome (table.answer batch).2 = .ok () := by
  unfold answer
  cases table.lookup batch.exporter with
  | none => rfl
  | some entry =>
    dsimp only
    split <;> rfl

/-- A table that is asked for what others leave reports what is its part. -/
theorem answer_unanswered : (table.answer ⟨batch.exporter, unanswered earlier batch⟩).1 =
    (reportsAfter earlier table batch).map ChainReport.update := by
  have places : batch.indexes = batch.indexes.zipIdx.map Prod.fst :=
    (List.zipIdx_map_fst 0 _).symm
  rw [updates_eq, unanswered, List.filterMap_filter, reportsAfter, List.map_filterMap]
  dsimp only
  conv_lhs => rw [places, List.filterMap_map]
  refine List.filterMap_congr fun indexed _ => ?_
  dsimp only [Function.comp_apply, reportAfter?, answerAfter?]
  split
  case isTrue => rw [Option.map_map]; rfl
  case isFalse => rfl

/-- When nothing is left a table has nothing to report. -/
theorem reportsAfter_of_unanswered (all : unanswered earlier batch = []) :
    reportsAfter earlier table batch = [] := by
  rw [← List.map_eq_nil_iff, ← answer_unanswered, updates_eq, all, List.filterMap_nil]

/-- A table that is asked for what others leave hands over what they and it leave, unless that is
nothing. -/
theorem handedOver?_unanswered :
    handedOver? (table.answer ⟨batch.exporter, unanswered earlier batch⟩).2 =
      if unanswered (earlier ++ [table]) batch = [] then none
      else some (unanswered (earlier ++ [table]) batch) := by
  rw [handedOver?_eq_ite, handedOver?_eq, unanswered_concat]

/-- One more table reports its part after the others. -/
theorem chainReports_concat : chainReports (tables ++ [table]) batch =
    chainReports tables batch ++ reportsAfter tables table batch := by
  rw [chainReports, chainReports, List.zipIdx_append, List.flatMap_append]
  congr 1
  · refine List.flatMap_congr fun ⟨other, number⟩ member => ?_
    have before : number ≤ tables.length := Nat.le_of_lt (List.snd_lt_of_mem_zipIdx member)
    dsimp only
    rw [List.take_append_of_le_length before]
  · simp

/-! ## The partition -/

/-- A report of a table is its answer to the index at the place that it names. -/
theorem mem_reportsAfter_iff : report ∈ reportsAfter earlier table batch ↔
    ∃ index answer, report = ⟨earlier.length, report.place, ⟨⟨batch.exporter, index⟩, answer⟩⟩ ∧
      batch.indexes[report.place]? = some index ∧
      answerAfter? earlier table ⟨batch.exporter, index⟩ = some answer := by
  rw [reportsAfter, List.mem_filterMap]
  constructor
  · rintro ⟨⟨index, place⟩, member, reported⟩
    obtain ⟨answer, answered, rfl⟩ := Option.map_eq_some_iff.1 reported
    exact ⟨index, answer, rfl, List.mem_zipIdx_iff_getElem?.1 member, answered⟩
  · rintro ⟨index, answer, same, there, answered⟩
    refine ⟨(index, report.place), List.mem_zipIdx_iff_getElem?.2 there, ?_⟩
    rw [same]
    exact Option.map_eq_some_iff.2 ⟨answer, answered, rfl⟩

/-- A report of a chain is one of the tables of the chain. -/
theorem mem_chainReports_iff : report ∈ chainReports tables batch ↔
    ∃ table, tables[report.table]? = some table ∧
      report ∈ reportsAfter (tables.take report.table) table batch := by
  rw [chainReports, List.mem_flatMap]
  constructor
  · rintro ⟨⟨table, number⟩, member, reported⟩
    have there := List.mem_zipIdx_iff_getElem?.1 member
    have named : report.table = number := by
      obtain ⟨_, _, same, -⟩ := mem_reportsAfter_iff.1 reported
      rw [same]
      exact List.length_take_of_le (Nat.le_of_lt (List.snd_lt_of_mem_zipIdx member))
    rw [named]
    exact ⟨table, there, reported⟩
  · rintro ⟨table, there, reported⟩
    exact ⟨(table, report.table), List.mem_zipIdx_iff_getElem?.2 there, reported⟩

/-- Reports of a chain go through the tables, and those of a table through the batch. -/
theorem chainReports_ordered (tables : List StaticTable) (batch : BatchQuery) :
    (chainReports tables batch).Pairwise fun one other =>
      one.table < other.table ∨ one.table = other.table ∧ one.place < other.place := by
  induction tables using List.reverseRecOn with
  | nil => exact .nil
  | append_singleton tables table ih =>
    rw [chainReports_concat, List.pairwise_append]
    have owned {report : ChainReport} (reported : report ∈ reportsAfter tables table batch) :
        report.table = tables.length := by
      obtain ⟨_, _, same, -⟩ := mem_reportsAfter_iff.1 reported
      rw [same]
    refine ⟨ih, ?_, fun one before other last => .inl ?_⟩
    · have places : batch.indexes.zipIdx.Pairwise fun one other => one.2 < other.2 := by
        rw [← List.pairwise_map, List.zipIdx_map_snd]
        exact List.pairwise_lt_range'
      refine places.filterMap _ fun one other lt report reported report' reported' => .inr ?_
      obtain ⟨_, -, rfl⟩ := Option.map_eq_some_iff.1 reported
      obtain ⟨_, -, rfl⟩ := Option.map_eq_some_iff.1 reported'
      exact ⟨rfl, lt⟩
    · obtain ⟨_, there, -⟩ := mem_chainReports_iff.1 before
      rw [owned last]
      exact (List.getElem?_eq_some_iff.1 there).1

/-- What a list holds at a place is all that it holds with the number of the place. -/
theorem filter_zipIdx {α : Type} {xs : List α} {x : α} {place : Nat} (there : xs[place]? = some x) :
    (xs.zipIdx.filter fun indexed => indexed.2 == place) = [(x, place)] := by
  obtain ⟨inside, rfl⟩ := List.getElem?_eq_some_iff.1 there
  have split : xs.zipIdx = (xs.take place).zipIdx ++
      (xs[place], place) :: (xs.drop (place + 1)).zipIdx (place + 1) := by
    conv_lhs => rw [← List.take_append_drop place xs, List.drop_eq_getElem_cons inside]
    rw [List.zipIdx_append, List.zipIdx_cons, List.length_take_of_le (Nat.le_of_lt inside),
      Nat.zero_add]
  have before : ((xs.take place).zipIdx.filter fun indexed => indexed.2 == place) = [] := by
    refine List.filter_eq_nil_iff.2 fun indexed member same => ?_
    have lt := List.snd_lt_of_mem_zipIdx member
    rw [List.length_take, eq_of_beq same] at lt
    omega
  have after : (((xs.drop (place + 1)).zipIdx (place + 1)).filter fun indexed =>
      indexed.2 == place) = [] := by
    refine List.filter_eq_nil_iff.2 fun indexed member same => ?_
    have le := List.le_snd_of_mem_zipIdx member
    rw [eq_of_beq same] at le
    omega
  rw [split, List.filter_append, before, List.filter_cons_of_pos (by simp), after, List.nil_append]

/-- A table has at most one report about a place of a batch. -/
theorem reportsAfter_place (there : batch.indexes[place]? = some index) :
    ((reportsAfter earlier table batch).filter fun report => report.place == place) =
      (reportAfter? earlier table batch.exporter index place).toList := by
  have at_place (indexed : UInt32 × Nat) :
      (reportAfter? earlier table batch.exporter indexed.1 indexed.2).filter
          (fun report => report.place == place) =
        if indexed.2 == place then reportAfter? earlier table batch.exporter indexed.1 indexed.2
        else none := by
    unfold reportAfter?
    cases answerAfter? earlier table ⟨batch.exporter, indexed.1⟩ with
    | none => simp
    | some answer => rfl
  rw [reportsAfter, List.filter_filterMap]
  simp only [at_place]
  rw [← List.filterMap_filter, filter_zipIdx there]
  cases reported : reportAfter? earlier table batch.exporter index place <;> simp [reported]

/-- The reports about a place of a batch are what the chain answers to the index there. -/
theorem chainReports_place (tables : List StaticTable)
    (there : batch.indexes[place]? = some index) :
    ((chainReports tables batch).filter fun report => report.place == place).map
        ChainReport.update =
      ((chainAnswer? tables ⟨batch.exporter, index⟩).map fun answer =>
        ⟨⟨batch.exporter, index⟩, answer⟩).toList := by
  induction tables using List.reverseRecOn with
  | nil => rfl
  | append_singleton tables table ih =>
    rw [chainReports_concat, List.filter_append, List.map_append, ih, chainAnswer?_concat,
      reportsAfter_place there, reportAfter?, answerAfter?]
    -- The last table reports something only if the tables before it have reported nothing.
    cases chainAnswer? tables ⟨batch.exporter, index⟩ with
    | none => cases table.answer? ⟨batch.exporter, index⟩ <;> rfl
    | some answer => rfl

/-- Reports are a partition of a batch by the tables of a chain. -/
structure Partitions (tables : List StaticTable) (batch : BatchQuery)
    (reports : List ChainReport) : Prop where
  /-- The reports of one table are in the order of the batch and before those of later tables. -/
  ordered : reports.Pairwise fun one other =>
    one.table < other.table ∨ one.table = other.table ∧ one.place < other.place
  /-- A report is the answer of its table to the index at its place, and no table before has an
  answer to it. -/
  first : ∀ report ∈ reports, ∃ table index answer,
    tables[report.table]? = some table ∧ batch.indexes[report.place]? = some index ∧
      report.update = ⟨⟨batch.exporter, index⟩, answer⟩ ∧
      table.Gives ⟨batch.exporter, index⟩ answer ∧
      ∀ earlier ∈ tables.take report.table, ∀ other,
        ¬ earlier.Gives ⟨batch.exporter, index⟩ other
  /-- If a table has an answer to the index at a place, there is one report for the place. -/
  once : ∀ place index, batch.indexes[place]? = some index →
    (∃ table ∈ tables, ∃ answer, table.Gives ⟨batch.exporter, index⟩ answer) →
      ∃ report, (reports.filter fun report => report.place == place) = [report]
  /-- If none has, there is none. -/
  never : ∀ place index, batch.indexes[place]? = some index →
    (∀ table ∈ tables, ∀ answer, ¬ table.Gives ⟨batch.exporter, index⟩ answer) →
      ∀ report ∈ reports, report.place ≠ place

/-- A chain has no answer if none of its tables gives one. -/
theorem isNone_chainAnswer?_iff : (chainAnswer? tables query).isNone = true ↔
    ∀ table ∈ tables, ∀ answer, ¬ table.Gives query answer := by
  rw [Option.isNone_iff_eq_none, chainAnswer?, List.findSome?_eq_none_iff]
  simp only [Option.eq_none_iff_forall_ne_some, ne_eq, answer?_eq_some_iff]

/-- The reports of a chain are a partition of the batch. -/
theorem partitions_chainReports (tables : List StaticTable) (batch : BatchQuery) :
    Partitions tables batch (chainReports tables batch) where
  ordered := chainReports_ordered tables batch
  first report reported := by
    obtain ⟨table, there, own⟩ := mem_chainReports_iff.1 reported
    obtain ⟨index, answer, same, at_place, answered⟩ := mem_reportsAfter_iff.1 own
    obtain ⟨nobody, gives⟩ := Option.ite_none_right_eq_some.1 answered
    exact ⟨table, index, answer, there, at_place, by rw [same], answer?_eq_some_iff.1 gives,
      isNone_chainAnswer?_iff.1 nobody⟩
  once place index there answered := by
    obtain ⟨table, member, answer, gives⟩ := answered
    have about := chainReports_place tables there
    cases chain : chainAnswer? tables ⟨batch.exporter, index⟩ with
    | none =>
      have nobody := isNone_chainAnswer?_iff.1 (Option.isNone_iff_eq_none.2 chain)
      exact absurd gives (nobody table member answer)
    | some first =>
      rw [chain] at about
      obtain ⟨report, only, -⟩ := List.map_eq_singleton_iff.1 about
      exact ⟨report, only⟩
  never place index there nobody report reported same := by
    have about := chainReports_place tables there
    rw [Option.isNone_iff_eq_none.1 (isNone_chainAnswer?_iff.2 nobody)] at about
    exact List.filter_eq_nil_iff.1 (List.map_eq_nil_iff.1 about) report reported
      (beq_iff_eq.2 same)

end StaticTable

end FlowEnrichment
