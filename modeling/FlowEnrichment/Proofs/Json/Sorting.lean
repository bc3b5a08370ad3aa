import Mathlib.Data.List.Induction
import Mathlib.Data.String.Basic
import FlowEnrichment.Proofs.Json.Decoding

/-!
# Values with sorted keys

Sorting the entries of an object whose keys differ rearranges them (`sortEntries_perm`), and entries
with ascending keys are the only ones that sorting makes of themselves in any order
(`sortEntries_eq_of_perm`). What a document says of a value is the value with sorted keys
(`Draft.toValue_ofValue`), and it can be read through where as many containers may be nested as the
value nests (`Draft.scan_ofValue`).
-/
namespace FlowEnrichment.Json

/-! ## Ascending keys -/

/-- Entries with ascending keys, each once. -/
def Ascending {α : Type} (entries : List (String × α)) : Prop :=
  entries.Pairwise fun a b => a.1 < b.1

/-- Ascending keys differ. -/
theorem Ascending.nodup {α : Type} {entries : List (String × α)} (ascending : Ascending entries) :
    (entries.map Prod.fst).Nodup :=
  List.pairwise_map.2 (ascending.imp fun less => less.ne)

section Sorting

variable {α : Type} {key : String} {value : α} {entries : List (String × α)}

/-- A value under a new key is one more entry. -/
theorem insertEntry_perm (new : key ∉ entries.map Prod.fst) :
    (insertEntry key value entries).Perm ((key, value) :: entries) := by
  induction entries with
  | nil => exact .refl _
  | cons first rest ih =>
    rw [List.map_cons, List.mem_cons, not_or] at new
    rw [insertEntry]
    split
    · exact .refl _
    · rw [if_neg new.1]
      exact ((ih new.2).cons first).trans (.swap _ _ _)

/-- The keys after an entry was inserted are its key and those before. -/
theorem mem_keys_insertEntry {other : String} :
    other ∈ (insertEntry key value entries).map Prod.fst ↔
      other = key ∨ other ∈ entries.map Prod.fst := by
  induction entries with
  | nil => simp [insertEntry]
  | cons first rest ih =>
    rw [insertEntry]
    split
    · simp
    · split
      case isTrue same => simp [same]
      case isFalse => simp only [List.map_cons, List.mem_cons, ih, or_left_comm]

/-- An entry that is inserted keeps the keys ascending. -/
theorem Ascending.insertEntry (ascending : Ascending entries) (key : String) (value : α) :
    Ascending (insertEntry key value entries) := by
  induction entries with
  | nil => exact List.pairwise_singleton _ _
  | cons first rest ih =>
    have tail : Ascending rest := List.Pairwise.of_cons ascending
    have above := (List.pairwise_cons.1 ascending).1
    rw [Json.insertEntry]
    split
    case isTrue less =>
      refine List.pairwise_cons.2 ⟨fun other member => ?_, ascending⟩
      rcases List.mem_cons.1 member with rfl | later
      · exact less
      · exact less.trans (above other later)
    case isFalse notLess =>
      split
      case isTrue same => exact List.pairwise_cons.2 ⟨same ▸ above, tail⟩
      case isFalse other =>
        have less : first.1 < key := lt_of_le_of_ne (not_lt.1 notLess) (Ne.symm other)
        refine List.pairwise_cons.2 ⟨fun entry member => ?_, ih tail⟩
        rcases mem_keys_insertEntry.1 (List.mem_map_of_mem member) with same | later
        · exact same ▸ less
        · obtain ⟨old, inside, same⟩ := List.mem_map.1 later
          exact same ▸ above old inside

/-- The last entry is sorted in after the others. -/
theorem sortEntries_append (entries : List (String × α)) (entry : String × α) :
    sortEntries (entries ++ [entry]) = insertEntry entry.1 entry.2 (sortEntries entries) := by
  rw [sortEntries, List.foldl_append]
  rfl

/-- Sorted entries have ascending keys. -/
theorem ascending_sortEntries (entries : List (String × α)) : Ascending (sortEntries entries) := by
  induction entries using List.reverseRecOn with
  | nil => exact List.Pairwise.nil
  | append_singleton entries entry ih =>
    rw [sortEntries_append]
    exact ih.insertEntry entry.1 entry.2

/-- Entries whose keys differ are rearranged when they are sorted. -/
theorem sortEntries_perm (distinct : (entries.map Prod.fst).Nodup) :
    (sortEntries entries).Perm entries := by
  induction entries using List.reverseRecOn with
  | nil => exact .refl _
  | append_singleton entries entry ih =>
    rw [List.map_append, List.nodup_append] at distinct
    obtain ⟨others, -, apart⟩ := distinct
    have new : entry.1 ∉ (sortEntries entries).map Prod.fst := by
      intro member
      have among := ((ih others).map Prod.fst).mem_iff.1 member
      exact apart _ among _ (List.mem_singleton.2 rfl) rfl
    rw [sortEntries_append]
    exact (insertEntry_perm new).trans (((ih others).cons entry).trans
      (List.perm_append_singleton entry entries).symm)

/-- Entries with ascending keys are what sorting makes of them in any order. -/
theorem sortEntries_eq_of_perm {target : List (String × α)} (same : entries.Perm target)
    (ascending : Ascending target) : sortEntries entries = target := by
  have distinct : (entries.map Prod.fst).Nodup := (same.map Prod.fst).nodup_iff.2 ascending.nodup
  refine List.Perm.eq_of_pairwise ?_ (ascending_sortEntries entries) ascending
    ((sortEntries_perm distinct).trans same)
  intro a b _ _ less greater
  exact absurd greater less.asymm

/-- After an entry was inserted there are it and those before. -/
theorem mem_of_mem_insertEntry {entry : String × α}
    (member : entry ∈ insertEntry key value entries) : entry = (key, value) ∨ entry ∈ entries := by
  induction entries with
  | nil => exact .inl (List.mem_singleton.1 member)
  | cons first rest ih =>
    rw [insertEntry] at member
    split at member
    · exact List.mem_cons.1 member
    · split at member
      · exact (List.mem_cons.1 member).imp_right (List.mem_cons_of_mem first)
      · rcases List.mem_cons.1 member with same | later
        · exact .inr (same ▸ List.mem_cons_self)
        · exact (ih later).imp_right (List.mem_cons_of_mem first)

/-- What is sorted was there. -/
theorem mem_of_mem_sortEntries {entry : String × α} (member : entry ∈ sortEntries entries) :
    entry ∈ entries := by
  induction entries using List.reverseRecOn with
  | nil => cases member
  | append_singleton entries last ih =>
    rw [sortEntries_append] at member
    rcases mem_of_mem_insertEntry member with same | inside
    · exact List.mem_append_right entries (List.mem_singleton.2 same)
    · exact List.mem_append_left [last] (ih inside)

end Sorting

/-! ## Values as drafts -/

/-- The values of entries are sorted one by one. -/
theorem Value.sortedEntries_eq_map (entries : List (String × Value)) :
    sortedEntries entries = entries.map fun entry => (entry.1, entry.2.sorted) := by
  induction entries with
  | nil => rfl
  | cons entry rest ih => rw [sortedEntries, ih, List.map_cons]

/-- Items are sorted one by one. -/
theorem Value.sortedItems_eq_map (items : List Value) : sortedItems items = items.map sorted := by
  induction items with
  | nil => rfl
  | cons item rest ih => rw [sortedItems, ih, List.map_cons]

/-- Entries are exact if the values are. -/
theorem Value.exactEntries_iff {entries : List (String × Value)} :
    ExactEntries entries ↔ ∀ entry ∈ entries, entry.2.Exact := by
  induction entries with
  | nil => simp [ExactEntries]
  | cons entry rest ih => simp only [ExactEntries, ih, List.forall_mem_cons]

namespace Value

mutual

/-- Sorting leaves a value exact. -/
theorem Exact.sorted : ∀ {value : Value}, value.Exact → value.sorted.Exact
  | .null, _ => trivial
  | .bool _, _ => trivial
  | .number _, exact => exact
  | .string _, _ => trivial
  | .array _, exact => ExactItems.sorted exact
  | .object _, exact =>
    exactEntries_iff.2 fun entry member =>
      exactEntries_iff.1 (ExactEntries.sorted exact) entry (mem_of_mem_sortEntries member)

/-- Sorting leaves the values of a list exact. -/
theorem ExactItems.sorted :
    ∀ {items : List Value}, ExactItems items → ExactItems (sortedItems items)
  | [], _ => trivial
  | _ :: _, exact => ⟨Exact.sorted exact.1, ExactItems.sorted exact.2⟩

/-- Sorting leaves the values of an object exact. -/
theorem ExactEntries.sorted :
    ∀ {entries : List (String × Value)}, ExactEntries entries → ExactEntries (sortedEntries entries)
  | [], _ => trivial
  | _ :: _, exact => ⟨Exact.sorted exact.1, ExactEntries.sorted exact.2⟩

end

end Value

/-- The entries of an object become drafts one by one. -/
theorem Draft.ofEntries_eq_map (entries : List (String × Value)) :
    ofEntries entries = entries.map fun entry => (.string (some entry.1), ofValue entry.2) := by
  induction entries with
  | nil => rfl
  | cons entry rest ih => rw [ofEntries, ih, List.map_cons]

namespace Draft

mutual

/-- A document says of a value the value with sorted keys. -/
theorem toValue_ofValue : ∀ value : Value, value.Exact → (ofValue value).toValue = value.sorted
  | .null, _ => rfl
  | .bool _, _ => rfl
  | .number (.integer _), _ => rfl
  | .string _, _ => rfl
  | .array items, exact => by
    rw [ofValue, toValue, toItems_ofItems items exact, Value.sorted]
  | .object entries, exact => by
    rw [ofValue, toValue, toEntries_ofEntries entries exact, Value.sorted]

/-- A document says of a list the values with sorted keys. -/
theorem toItems_ofItems :
    ∀ items : List Value, Value.ExactItems items → toItems (ofItems items) = Value.sortedItems items
  | [], _ => rfl
  | item :: rest, exact => by
    rw [ofItems, toItems, toValue_ofValue item exact.1, toItems_ofItems rest exact.2,
      Value.sortedItems]

/-- A document says of entries the values with sorted keys, in order. -/
theorem toEntries_ofEntries :
    ∀ entries : List (String × Value), Value.ExactEntries entries →
      toEntries (ofEntries entries) = Value.sortedEntries entries
  | [], _ => rfl
  | (_, value) :: rest, exact => by
    rw [ofEntries, toEntries, toValue_ofValue value exact.1, toEntries_ofEntries rest exact.2,
      Value.sortedEntries]

end

end Draft

/-! ## Nesting -/

namespace Value

mutual

/-- How many containers a value nests. -/
def depth : Value → Nat
  | .array items => depthItems items + 1
  | .object entries => depthEntries entries + 1
  | _ => 0

/-- How many containers the values of a list nest at most. -/
def depthItems : List Value → Nat
  | [] => 0
  | item :: rest => max (depth item) (depthItems rest)

/-- How many containers the values of an object nest at most. -/
def depthEntries : List (String × Value) → Nat
  | [] => 0
  | (_, value) :: rest => max (depth value) (depthEntries rest)

end

/-- An item nests no more than the items of its list. -/
theorem depth_le_depthItems {item : Value} {items : List Value} (member : item ∈ items) :
    item.depth ≤ depthItems items := by
  induction items with
  | nil => cases member
  | cons first rest ih =>
    rcases List.mem_cons.1 member with rfl | later
    · exact Nat.le_max_left _ _
    · exact (ih later).trans (Nat.le_max_right _ _)

/-- The value of an entry nests no more than the values of its object. -/
theorem depth_le_depthEntries {entry : String × Value} {entries : List (String × Value)}
    (member : entry ∈ entries) : entry.2.depth ≤ depthEntries entries := by
  induction entries with
  | nil => cases member
  | cons first rest ih =>
    rcases List.mem_cons.1 member with rfl | later
    · exact Nat.le_max_left _ _
    · exact (ih later).trans (Nat.le_max_right _ _)

end Value

namespace Draft

mutual

/-- A value can be read through where its containers may be nested. -/
theorem scan_ofValue : ∀ (value : Value) (source : Source), source.Admits value.depth →
    (ofValue value).scan source = .ok ()
  | .null, _, _ => rfl
  | .bool _, _, _ => rfl
  | .number _, _, _ => rfl
  | .string _, _, _ => rfl
  | .array items, _, admits => by
    obtain ⟨inner, entered, room⟩ := Source.Admits.enter admits
    rw [ofValue, scan, entered]
    exact congrArg (· >>= _) (scanItems_ofItems items inner room)
  | .object entries, _, admits => by
    obtain ⟨inner, entered, room⟩ := Source.Admits.enter admits
    rw [ofValue, scan, entered]
    exact congrArg (· >>= _) (scanEntries_ofEntries entries inner room)

/-- The items of an array can be read through where their containers may be nested. -/
theorem scanItems_ofItems : ∀ (items : List Value) (source : Source),
    source.Admits (Value.depthItems items) → scanItems source (ofItems items) = .ok ()
  | [], _, _ => rfl
  | item :: rest, source, admits => by
    rw [ofItems, scanItems, scan_ofValue item source (admits.mono (Nat.le_max_left _ _))]
    exact scanItems_ofItems rest source (admits.mono (Nat.le_max_right _ _))

/-- The entries of an object can be read through where their containers may be nested. -/
theorem scanEntries_ofEntries : ∀ (entries : List (String × Value)) (source : Source),
    source.Admits (Value.depthEntries entries) → scanEntries source (ofEntries entries) = .ok ()
  | [], _, _ => rfl
  | (_, value) :: rest, source, admits => by
    rw [ofEntries, scanEntries, scan_ofValue value source (admits.mono (Nat.le_max_left _ _))]
    exact scanEntries_ofEntries rest source (admits.mono (Nat.le_max_right _ _))

end

end Draft

end FlowEnrichment.Json
