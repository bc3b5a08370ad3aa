import Mathlib.Data.List.Basic
import Mathlib.Data.List.Induction
import FlowEnrichment.Proofs.Subnet
import FlowEnrichment.Provider

/-!
# What static tables say

A table answers for an exporter by its most specific entry, that is by the one whose addresses all
other entries about the exporter have too, and of several such entries by the first. A chain of
tables answers by the first table that has an answer. All of this is said here of sets of
addresses and of places in lists; the lookups of the tables come to the same.
-/
namespace FlowEnrichment

/-! ## Interfaces -/

/-- What is found from the end of a list is the last element with a property. -/
theorem find?_reverse_eq_some_iff {α : Type} {p : α → Bool} {xs : List α} {x : α} :
    xs.reverse.find? p = some x ↔
      p x = true ∧
        ∃ before after, xs = before ++ x :: after ∧ ∀ later ∈ after, p later = false := by
  rw [List.find?_eq_some_iff_append]
  constructor
  · rintro ⟨found, after, before, split, last⟩
    refine ⟨found, before.reverse, after.reverse, ?_, fun later member => ?_⟩
    · rw [← List.reverse_reverse xs, split, List.reverse_append, List.reverse_cons,
        List.append_assoc, List.singleton_append]
    · simpa using last later (List.mem_reverse.1 member)
  · rintro ⟨found, before, after, rfl, last⟩
    refine ⟨found, after.reverse, before.reverse, ?_, fun later member => ?_⟩
    · rw [List.reverse_append, List.reverse_cons, List.append_assoc, List.singleton_append]
    · simpa using last later (List.mem_reverse.1 member)

/-- The interface with which an entry answers an index: the last that is listed for the index, or
the default if none is and the entry does not leave such indexes to others. -/
inductive StaticExporter.Answers (entry : StaticExporter) (index : UInt32) : Interface → Prop where
  /-- The index is listed. -/
  | listed {before after : List StaticInterface} {item : StaticInterface}
      (split : entry.interfaces = before ++ item :: after) (named : item.index = index)
      (last : ∀ later ∈ after, later.index ≠ index) : Answers entry index item.interface
  /-- The index is not listed. -/
  | fallback (missing : ∀ item ∈ entry.interfaces, item.index ≠ index)
      (kept : entry.skipMissing = false) : Answers entry index entry.fallback

/-- An entry answers as it is said to. -/
theorem StaticExporter.interface?_eq_some_iff {entry : StaticExporter} {index : UInt32}
    {interface : Interface} :
    entry.interface? index = some interface ↔ entry.Answers index interface := by
  unfold interface? listed?
  constructor
  · intro answered
    cases found : entry.interfaces.reverse.find? (·.index == index) with
    | some item =>
      obtain ⟨named, before, after, split, last⟩ := find?_reverse_eq_some_iff.1 found
      simp only [found, Option.map_some, Option.some.injEq] at answered
      rw [← answered]
      exact .listed split (by simpa using named) fun later member => by
        simpa using last later member
    | none =>
      have missing := List.find?_eq_none.1 found
      simp only [found, Option.map_none] at answered
      cases skips : entry.skipMissing with
      | true =>
        rw [skips] at answered
        cases answered
      | false =>
        rw [skips] at answered
        cases answered
        exact .fallback (fun item member => by
          simpa using missing item (List.mem_reverse.2 member)) skips
  · rintro (⟨split, named, last⟩ | ⟨missing, kept⟩)
    · rename_i before after item
      have found : entry.interfaces.reverse.find? (·.index == index) = some item :=
        find?_reverse_eq_some_iff.2
          ⟨by simpa using named, before, after, split, fun later member => by
            simpa using last later member⟩
      rw [found]
      rfl
    · have found : entry.interfaces.reverse.find? (·.index == index) = none :=
        List.find?_eq_none.2 fun item member => by
          simpa using missing item (List.mem_reverse.1 member)
      rw [found, kept]
      rfl

/-! ## Entries -/

namespace StaticTable

/-- An entry of a table is the most specific one about an exporter: whatever entry is about the
exporter has all of its addresses, and one that comes before it has more. -/
structure MostSpecific (table : StaticTable) (exporter : Address) (entry : StaticExporter) :
    Prop where
  /-- The entry is about the exporter. -/
  contains : entry.subnet.contains exporter = true
  /-- No entry about the exporter has fewer addresses. -/
  least : ∀ other ∈ table.exporters, other.subnet.contains exporter = true →
    ∀ address, entry.subnet.contains address = true → other.subnet.contains address = true
  /-- Those before it have more. -/
  first : ∃ before after, table.exporters = before ++ entry :: after ∧
    ∀ other ∈ before, other.subnet.contains exporter = true →
      ∃ address, other.subnet.contains address = true ∧ entry.subnet.contains address = false

/-- There is one most specific entry. -/
theorem MostSpecific.unique {table : StaticTable} {exporter : Address} {a b : StaticExporter}
    (specific_a : table.MostSpecific exporter a) (specific_b : table.MostSpecific exporter b) :
    a = b := by
  -- Of two different ones the earlier would have more addresses than the later and no more.
  have earlier {a b : StaticExporter} (specific_a : table.MostSpecific exporter a)
      {before after : List StaticExporter}
      (inside : a ∈ before) (split : table.exporters = before ++ b :: after)
      (first : ∀ other ∈ before, other.subnet.contains exporter = true →
        ∃ address, other.subnet.contains address = true ∧
          b.subnet.contains address = false)
      (contains : b.subnet.contains exporter = true) : False := by
    obtain ⟨address, in_a, outside⟩ := first a inside specific_a.contains
    have member : b ∈ table.exporters := by
      rw [split]
      exact List.mem_append_right before List.mem_cons_self
    have in_b := specific_a.least b member contains address in_a
    rw [in_b] at outside
    cases outside
  obtain ⟨before_a, after_a, split_a, first_a⟩ := specific_a.first
  obtain ⟨before_b, after_b, split_b, first_b⟩ := specific_b.first
  rcases List.append_eq_append_iff.1 (split_a.symm.trans split_b) with
    ⟨between, rfl, rest⟩ | ⟨between, rfl, rest⟩
  · cases between with
    | nil => exact (List.cons.inj rest).1
    | cons other between =>
      obtain ⟨rfl, -⟩ := List.cons.inj rest
      exact (earlier specific_a (by simp) split_b first_b specific_b.contains).elim
  · cases between with
    | nil => exact (List.cons.inj rest).1.symm
    | cons other between =>
      obtain ⟨rfl, -⟩ := List.cons.inj rest
      exact (earlier specific_b (by simp) split_a first_a specific_a.contains).elim

/-- The entry of the highest rank among those about an exporter, of several the first. -/
structure HighestRank (exporter : Address) (entries : List StaticExporter)
    (entry : StaticExporter) : Prop where
  /-- The entry is about the exporter. -/
  contains : entry.subnet.contains exporter = true
  /-- Those before it have lower ranks and those after it no higher ones. -/
  split : ∃ before after, entries = before ++ entry :: after ∧
    (∀ other ∈ before, other.subnet.contains exporter = true →
      other.subnet.rank < entry.subnet.rank) ∧
    ∀ other ∈ after, other.subnet.contains exporter = true →
      other.subnet.rank ≤ entry.subnet.rank

/-- Whatever entry is about the exporter has no higher rank. -/
theorem HighestRank.rank_le {exporter : Address} {entries : List StaticExporter}
    {entry other : StaticExporter} (highest : HighestRank exporter entries entry)
    (member : other ∈ entries) (contains : other.subnet.contains exporter = true) :
    other.subnet.rank ≤ entry.subnet.rank := by
  obtain ⟨before, after, rfl, lower, no_higher⟩ := highest.split
  rcases List.mem_append.1 member with early | late
  · exact Nat.le_of_lt (lower other early contains)
  · rcases List.mem_cons.1 late with rfl | late
    · exact Nat.le_refl _
    · exact no_higher other late contains

/-- An entry keeps the highest rank if none of a higher one comes after it. -/
theorem HighestRank.append {exporter : Address} {entries : List StaticExporter}
    {entry last : StaticExporter} (highest : HighestRank exporter entries entry)
    (no_higher : last.subnet.contains exporter = true →
      last.subnet.rank ≤ entry.subnet.rank) :
    HighestRank exporter (entries ++ [last]) entry := by
  obtain ⟨before, after, rfl, lower, below⟩ := highest.split
  refine ⟨highest.contains, before, after ++ [last], ?_, lower, fun other member contains => ?_⟩
  · rw [List.append_assoc, List.cons_append]
  · rcases List.mem_append.1 member with early | late
    · exact below other early contains
    · rw [List.mem_singleton.1 late] at contains ⊢
      exact no_higher contains

/-- A lookup goes through the entries and keeps the one of the highest rank. -/
theorem lookup_highest (exporter : Address) (entries : List StaticExporter) :
    match lookup ⟨entries⟩ exporter with
    | some entry => HighestRank exporter entries entry
    | none => ∀ entry ∈ entries, entry.subnet.contains exporter = false := by
  induction entries using List.reverseRecOn with
  | nil => exact fun entry member => nomatch member
  | append_singleton entries last ih =>
    have step : lookup ⟨entries ++ [last]⟩ exporter =
        if last.subnet.contains exporter then some (better (lookup ⟨entries⟩ exporter) last)
        else lookup ⟨entries⟩ exporter := by
      simp only [lookup, List.foldl_append, List.foldl_cons, List.foldl_nil]
    rw [step]
    cases contains : last.subnet.contains exporter with
    | false =>
      cases found : lookup ⟨entries⟩ exporter with
      | some entry =>
        rw [found] at ih
        exact HighestRank.append ih fun inside => absurd (inside.symm.trans contains) (by decide)
      | none =>
        rw [found] at ih
        intro entry member
        rcases List.mem_append.1 member with early | late
        · exact ih entry early
        · rw [List.mem_singleton.1 late]
          exact contains
    | true =>
      have highest (lower : ∀ other ∈ entries, other.subnet.contains exporter = true →
          other.subnet.rank < last.subnet.rank) :
          HighestRank exporter (entries ++ [last]) last :=
        ⟨contains, entries, [], rfl, lower, fun _ member => nomatch member⟩
      cases found : lookup ⟨entries⟩ exporter with
      | none =>
        rw [found] at ih
        exact highest fun other member inside =>
          absurd (inside.symm.trans (ih other member)) (by decide)
      | some current =>
        rw [found] at ih
        by_cases le : last.subnet.rank ≤ current.subnet.rank
        · simp only [better, if_pos le, if_true]
          exact HighestRank.append ih fun _ => le
        · simp only [better, if_neg le, if_true]
          exact highest fun other member inside =>
            Nat.lt_of_le_of_lt (ih.rank_le member inside) (Nat.lt_of_not_le le)

/-- A lookup finds the most specific entry. -/
theorem lookup_eq_some_iff {table : StaticTable} {exporter : Address} {entry : StaticExporter} :
    table.lookup exporter = some entry ↔ table.MostSpecific exporter entry := by
  have specific {entry : StaticExporter} (found : table.lookup exporter = some entry) :
      table.MostSpecific exporter entry := by
    have highest := lookup_highest exporter table.exporters
    rw [found] at highest
    obtain ⟨before, after, split, lower, -⟩ := highest.split
    refine ⟨highest.contains, fun other member contains address inside => ?_,
      before, after, split, fun other member contains => ?_⟩
    · exact Subnet.contains_of_rank_le contains highest.contains
        (highest.rank_le member contains) inside
    · exact Subnet.exists_of_rank_lt contains (lower other member contains)
  constructor
  · exact specific
  · intro most
    cases found : table.lookup exporter with
    | some other => rw [(specific found).unique most]
    | none =>
      have nobody := lookup_highest exporter table.exporters
      rw [found] at nobody
      obtain ⟨before, after, split, -⟩ := most.first
      have member : entry ∈ table.exporters := by
        rw [split]
        exact List.mem_append_right before List.mem_cons_self
      have outside := nobody entry member
      rw [most.contains] at outside
      cases outside

/-! ## Tables and chains -/

/-- The answer of a table to a query. -/
def answer? (table : StaticTable) (query : Query) : Option Answer :=
  (table.lookup query.exporter).bind fun entry =>
    (entry.interface? query.index).map fun interface => ⟨entry.exporter, interface⟩

/-- A table has an answer to a query: the attributes of the most specific entry about the exporter
and the interface with which it answers the index. -/
inductive Gives (table : StaticTable) (query : Query) : Answer → Prop where
  /-- The most specific entry answers. -/
  | intro {entry : StaticExporter} {interface : Interface}
      (specific : table.MostSpecific query.exporter entry)
      (answers : entry.Answers query.index interface) :
      Gives table query ⟨entry.exporter, interface⟩

/-- A table answers as it is said to. -/
theorem answer?_eq_some_iff {table : StaticTable} {query : Query} {answer : Answer} :
    table.answer? query = some answer ↔ table.Gives query answer := by
  unfold answer?
  constructor
  · intro answered
    obtain ⟨entry, found, answered⟩ := Option.bind_eq_some_iff.1 answered
    obtain ⟨interface, answers, rfl⟩ := Option.map_eq_some_iff.1 answered
    exact .intro (lookup_eq_some_iff.1 found) (StaticExporter.interface?_eq_some_iff.1 answers)
  · rintro ⟨specific, answers⟩
    rw [lookup_eq_some_iff.2 specific, Option.bind_some,
      StaticExporter.interface?_eq_some_iff.2 answers, Option.map_some]

/-- The answer of a chain of tables to a query. -/
def chainAnswer? (tables : List StaticTable) (query : Query) : Option Answer :=
  tables.findSome? (·.answer? query)

/-- The answer of a chain of tables is that of the first table that has one. -/
inductive ChainGives (tables : List StaticTable) (query : Query) (answer : Answer) : Prop where
  /-- No table before has an answer. -/
  | intro {before after : List StaticTable} {table : StaticTable}
      (split : tables = before ++ table :: after) (gives : table.Gives query answer)
      (first : ∀ earlier ∈ before, ∀ other, ¬ earlier.Gives query other)

/-- A chain answers as it is said to. -/
theorem chainAnswer?_eq_some_iff {tables : List StaticTable} {query : Query} {answer : Answer} :
    chainAnswer? tables query = some answer ↔ ChainGives tables query answer := by
  rw [chainAnswer?, List.findSome?_eq_some_iff]
  constructor
  · rintro ⟨before, table, after, split, answers, nobody⟩
    refine ⟨split, answer?_eq_some_iff.1 answers, fun earlier member other gives => ?_⟩
    have silent := nobody earlier member
    rw [answer?_eq_some_iff.2 gives] at silent
    cases silent
  · rintro ⟨split, gives, first⟩
    refine ⟨_, _, _, split, answer?_eq_some_iff.2 gives, fun earlier member => ?_⟩
    rw [Option.eq_none_iff_forall_not_mem]
    exact fun other answers => first earlier member other (answer?_eq_some_iff.1 answers)

/-- A table answers after tables that do not. -/
theorem chainAnswer?_of_silent {earlier later : List StaticTable} {table : StaticTable}
    {query : Query} {answer : Answer} (silent : ∀ before ∈ earlier, before.answer? query = none)
    (answers : table.answer? query = some answer) :
    chainAnswer? (earlier ++ table :: later) query = some answer :=
  List.findSome?_eq_some_iff.2 ⟨earlier, table, later, rfl, answers, silent⟩

/-! ## Batches -/

variable {table : StaticTable} {batch : BatchQuery}

/-- The provider of a table reports the updates of the table at once and ends as it does. -/
theorem provider_reply (table : StaticTable) (batch : BatchQuery) : table.provider.reply batch =
    ⟨(table.answer batch).1.map .report, .done (table.answer batch).2⟩ := rfl

/-- What a table reports of a batch, in the order of the batch. -/
theorem updates_eq : (table.answer batch).1 = batch.indexes.filterMap fun index =>
    (table.answer? ⟨batch.exporter, index⟩).map fun answer =>
      ⟨⟨batch.exporter, index⟩, answer⟩ := by
  unfold answer answer?
  dsimp only
  cases table.lookup batch.exporter with
  | none => simp
  | some entry =>
    refine List.filterMap_congr fun index _ => ?_
    rw [Option.bind_some, Option.map_map]
    rfl

/-- What a table reports of a batch are its answers to the indexes of the batch. -/
theorem mem_updates_iff {update : Update} :
    update ∈ (table.answer batch).1 ↔
      update.query.exporter = batch.exporter ∧ update.query.index ∈ batch.indexes ∧
        table.answer? update.query = some update.answer := by
  rw [updates_eq, List.mem_filterMap]
  constructor
  · rintro ⟨index, member, reported⟩
    obtain ⟨answer, answers, rfl⟩ := Option.map_eq_some_iff.1 reported
    exact ⟨rfl, member, answers⟩
  · rintro ⟨exporter, member, answers⟩
    refine ⟨update.query.index, member, ?_⟩
    rw [← exporter, answers, Option.map_some]

/-- An outcome that says that indexes were skipped hands these over, and no other hands any. -/
theorem handedOver?_skipProvider (indexes : List UInt32) :
    (handedOver? (.error (.skipProvider indexes))).getD [] = indexes := by
  cases indexes with
  | nil => rfl
  | cons index rest => rfl

/-- What a table hands over of a batch, in the order of the batch. -/
theorem handedOver?_eq : (handedOver? (table.answer batch).2).getD [] =
    batch.indexes.filter fun index => (table.answer? ⟨batch.exporter, index⟩).isNone := by
  unfold answer answer?
  dsimp only
  cases table.lookup batch.exporter with
  | none =>
    rw [handedOver?_skipProvider]
    exact (List.filter_eq_self.2 fun _ _ => rfl).symm
  | some entry =>
    simp only [Option.bind_some, Option.isNone_map]
    split
    case isTrue all => exact all.symm
    case isFalse => exact handedOver?_skipProvider _

/-- What a table hands over are the indexes of the batch to which it has no answer. -/
theorem mem_handedOver_iff {index : UInt32} :
    index ∈ (handedOver? (table.answer batch).2).getD [] ↔
      index ∈ batch.indexes ∧ table.answer? ⟨batch.exporter, index⟩ = none := by
  rw [handedOver?_eq, List.mem_filter, Option.isNone_iff_eq_none]

end StaticTable

end FlowEnrichment
