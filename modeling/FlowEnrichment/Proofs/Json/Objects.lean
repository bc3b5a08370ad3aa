import FlowEnrichment.Proofs.Json.Sorting

/-!
# Objects in any order

What has been gathered of a record does not depend on the order in which its fields were read, only
on which of them were. `part got` stands for what has been gathered of a certain record when the
fields named by `got` have been read; an entry brings its field if it takes `part got` to `part` of
one field more (`Record.Brings`). The entries of an object then add up to the part of all their
fields, wherever each of them stands (`Record.Fits.readEntries`), and a record that is decoded from
some of its fields has its defaults for the others (`Record.Fits.reads`,
`Record.Fits.reads_without`). Entries that belong to no field are passed over, or left to another
record that shares the object (`Record.Fits.reads_shared`, `Record.Fits.ofLeftovers_eq`).
-/
namespace FlowEnrichment.Json

/-! ## Values with parts removed or changed -/

namespace Value

/-- A value without the entries under certain keys of its object. -/
def without (value : Value) (removed : String → Bool) : Value :=
  match value with
  | .object entries => .object (entries.filter fun entry => !removed entry.1)
  | value => value

/-- A value with what stands under a key of its object changed. -/
def change (value : Value) (key : String) (f : Value → Value) : Value :=
  match value with
  | .object entries =>
    .object (entries.map fun entry => (entry.1, if entry.1 = key then f entry.2 else entry.2))
  | value => value

/-- Without removed keys a value is as it was. -/
theorem without_nothing (value : Value) : value.without (fun _ => false) = value := by
  cases value with
  | object entries => exact congrArg object (List.filter_eq_self.2 fun _ _ => rfl)
  | _ => rfl

/-- A value with a part changed to itself is as it was. -/
theorem change_self (value : Value) (key : String) {f : Value → Value} (same : ∀ v, f v = v) :
    value.change key f = value := by
  cases value with
  | object entries => simp [change, same]
  | _ => rfl

end Value

/-! ## Parts of a record -/

/-- What has been gathered of a field: its value, once it has been read. -/
def given {α : Type} (got : Bool) (x : α) : Option α := if got then some x else none

/-- A field has been gathered once it has been read. -/
@[simp] theorem isSome_given {α : Type} (got : Bool) (x : α) : (given got x).isSome = got := by
  cases got <;> rfl

/-- A field that was not removed has its value, and one that was has its default. -/
theorem getD_given_not {α : Type} (removed : Bool) (x default : α) :
    (given (!removed) x).getD default = if removed then default else x := by
  cases removed <;> rfl

/-- The names of the fields that were read, and one more. -/
def gotten (got : String → Bool) (name : String) : String → Bool :=
  fun other => other == name || got other

namespace Record

variable {α β : Type} {record : Record β α} {part : (String → Bool) → β} {depth : Nat}
  {entries full : List (String × Value)}

/-- The names of the fields to which entries belong. -/
def names (record : Record β α) (entries : List (String × Value)) : List String :=
  entries.filterMap fun entry => (record.field? entry.1).map RecordField.name

/-- The entries that belong to no field. -/
def others (record : Record β α) (entries : List (String × Value)) : List (String × Value) :=
  entries.filter fun entry => (record.field? entry.1).isNone

/-- An entry belongs to a field that is missing until it is read, and adds it to whatever other
fields have been gathered. -/
def Brings (record : Record β α) (part : (String → Bool) → β) (depth : Nat)
    (entry : String × Value) : Prop :=
  ∃ field, record.field? entry.1 = some field ∧ ∀ got,
    field.isSet (part got) = got field.name ∧
      (field.read (part got)).Reads depth entry.2 (part (gotten got field.name))

/-- Entries of an object that a record is read from: each brings a field or belongs to none, and no
two belong to the same. -/
structure Fits (record : Record β α) (part : (String → Bool) → β) (depth : Nat)
    (entries : List (String × Value)) : Prop where
  /-- An entry belongs to no field, or brings one. -/
  each : ∀ entry ∈ entries, record.Brings part depth entry ∨
    record.field? entry.1 = none ∧ entry.2.depth ≤ depth
  /-- There is one entry at most for each field. -/
  once : (record.names entries).Nodup

/-- Entries that stand under the names of their fields have them as keys. -/
theorem names_eq_keys
    (named : ∀ entry ∈ entries, (record.field? entry.1).map RecordField.name = some entry.1) :
    record.names entries = entries.map Prod.fst := by
  rw [names, List.filterMap_congr named]
  exact congrFun List.filterMap_eq_map' _

/-- The order of the entries plays no part. -/
theorem Fits.perm (fits : record.Fits part depth full) (same : entries.Perm full) :
    record.Fits part depth entries where
  each entry member := fits.each entry (same.mem_iff.1 member)
  once := (same.filterMap _).nodup_iff.2 fits.once

/-- Entries may be missing. -/
theorem Fits.sublist (fits : record.Fits part depth full) (fewer : entries.Sublist full) :
    record.Fits part depth entries where
  each entry member := fits.each entry (fewer.subset member)
  once := fits.once.sublist (fewer.filterMap _)

/-- An entry that belongs to no field is passed over or kept. -/
theorem readEntries_other {source : Source} {keep : Bool} {key : String} {value : Value}
    {rest left : List (Draft × Draft)} {before after : β} (unknown : record.field? key = none)
    (scanned : (Draft.ofValue value).scan source = .ok ())
    (read : record.readEntries source keep rest before = .ok (after, left)) :
    record.readEntries source keep ((.string (some key), .ofValue value) :: rest) before =
      .ok (after, if keep then (.string (some key), .ofValue value) :: left else left) := by
  cases keep with
  | true =>
    simp only [readEntries, Draft.key, bind, Except.bind, unknown, if_true, scanned, read, pure,
      Except.pure]
  | false =>
    rw [readEntries_unknown unknown, read]
    rfl

/-- The entries of an object add their fields to those that have been gathered, and the others are
left if they are asked for. -/
theorem Fits.readEntries (fits : record.Fits part depth entries) {source : Source}
    (admits : source.Admits depth) (keep : Bool) (got : String → Bool)
    (missing : ∀ name ∈ record.names entries, got name = false) :
    record.readEntries source keep (Draft.ofEntries entries) (part got) =
      .ok (part fun name => decide (name ∈ record.names entries) || got name,
        if keep then Draft.ofEntries (record.others entries) else []) := by
  induction entries generalizing got with
  | nil =>
    cases keep
    all_goals rfl
  | cons entry rest ih =>
    obtain ⟨key, value⟩ := entry
    have rest_fits := fits.sublist (List.sublist_cons_self (key, value) rest)
    rw [Draft.ofEntries]
    rcases fits.each (key, value) List.mem_cons_self with
      ⟨field, known, brings⟩ | ⟨unknown, shallow⟩
    · have names : record.names ((key, value) :: rest) = field.name :: record.names rest :=
        List.filterMap_cons_some (by rw [known]; rfl)
      have others : record.others ((key, value) :: rest) = record.others rest :=
        List.filter_cons_of_neg (by rw [known]; exact Bool.false_ne_true)
      have first := fits.once
      rw [names, List.nodup_cons] at first
      rw [names] at missing
      have unset : field.isSet (part got) = false :=
        (brings got).1.trans (missing _ List.mem_cons_self)
      have later : ∀ name ∈ record.names rest, gotten got field.name name = false := by
        intro name member
        have other : name ≠ field.name := fun same => first.1 (same ▸ member)
        rw [gotten, missing name (List.mem_cons_of_mem _ member), Bool.or_false]
        exact beq_eq_false_iff_ne.2 other
      rw [readEntries_known known unset ((brings got).2 source admits), ih rest_fits _ later, names,
        others]
      congr 3
      funext name
      simp only [gotten, List.mem_cons, Bool.decide_or]
      rw [Bool.or_left_comm, ← Bool.or_assoc]
      rfl
    · have names : record.names ((key, value) :: rest) = record.names rest :=
        List.filterMap_cons_none (by rw [unknown]; rfl)
      have others : record.others ((key, value) :: rest) = (key, value) :: record.others rest :=
        List.filter_cons_of_pos (by rw [unknown]; rfl)
      rw [names] at missing ⊢
      rw [readEntries_other unknown (Draft.scan_ofValue value source (admits.mono shallow))
        (ih rest_fits got missing), others, Draft.ofEntries]
      cases keep
      all_goals rfl

/-- The entries of an object add up to the part of their fields, in whatever order they stand. -/
theorem Fits.readEntries_perm (fits : record.Fits part depth full) (same : entries.Perm full)
    (empty : part (fun _ => false) = record.empty) {source : Source} (admits : source.Admits depth)
    (keep : Bool) :
    record.readEntries source keep (Draft.ofEntries entries) record.empty =
      .ok (part fun name => decide (name ∈ record.names full),
        if keep then Draft.ofEntries (record.others entries) else []) := by
  have read := (fits.perm same).readEntries admits keep (fun _ => false) fun _ _ => rfl
  have among (name : String) : name ∈ record.names entries ↔ name ∈ record.names full :=
    (same.filterMap _).mem_iff
  simp only [Bool.or_false, among] at read
  rw [← empty]
  exact read

/-- A record is decoded from an object by what its entries add up to. -/
theorem Fits.reads (fits : record.Fits part depth full) (same : entries.Perm full)
    (empty : part (fun _ => false) = record.empty) {x : α}
    (built : record.build (part fun name => decide (name ∈ record.names full)) = .ok x) :
    record.decoder.Reads (depth + 1) (.object entries) x := by
  intro source admits
  obtain ⟨inner, entered, room⟩ := admits.enter
  have read := fits.readEntries_perm same empty room false
  simp only [decoder, Draft.ofValue, entered, read, bind, Except.bind, Fault.check, built]

/-- A record is decoded from the entries that were not removed from an object in which each field
stands under its name. -/
theorem Fits.reads_without (fits : record.Fits part depth full) (same : entries.Perm full)
    (named : ∀ entry ∈ full, (record.field? entry.1).map RecordField.name = some entry.1)
    (empty : part (fun _ => false) = record.empty) (removed : String → Bool) {x : α}
    (built : record.build
      (part fun name => decide (name ∈ full.map Prod.fst) && !removed name) = .ok x) :
    record.decoder.Reads (depth + 1) ((Value.object entries).without removed) x := by
  have fewer : (full.filter fun entry => !removed entry.1).Sublist full := List.filter_sublist
  refine (fits.sublist fewer).reads (same.filter _) empty ?_
  rw [← built, names_eq_keys fun entry member => named entry (fewer.subset member)]
  congr 2
  funext name
  rw [Bool.eq_iff_iff, decide_eq_true_iff, Bool.and_eq_true, decide_eq_true_iff, List.mem_map,
    List.mem_map]
  constructor
  · rintro ⟨entry, member, rfl⟩
    obtain ⟨inside, kept⟩ := List.mem_filter.1 member
    exact ⟨⟨entry, inside, rfl⟩, kept⟩
  · rintro ⟨⟨entry, inside, rfl⟩, kept⟩
    exact ⟨entry, List.mem_filter.2 ⟨inside, kept⟩, rfl⟩

/-- A record that shares its object is decoded by what its own entries add up to, and by what
another reader makes of the others. -/
theorem Fits.reads_shared {γ δ : Type} {record : Record β γ}
    {rest : List (Draft × Draft) → Except Fault δ} {join : γ → δ → α}
    (fits : record.Fits part depth full) (same : entries.Perm full)
    (empty : part (fun _ => false) = record.empty) {x : γ} {y : δ}
    (built : record.build (part fun name => decide (name ∈ record.names full)) = .ok x)
    (left : rest (Draft.ofEntries (record.others entries)) = .ok y) :
    (record.decoderWith rest join).Reads (depth + 1) (.object entries) (join x y) := by
  intro source admits
  obtain ⟨inner, entered, room⟩ := admits.enter
  have read := fits.readEntries_perm same empty room true
  simp only [decoderWith, Draft.ofValue, entered, read, bind, Except.bind, Fault.check, built,
    if_true, left, pure, Except.pure]

/-- A record is decoded from the entries that another one left, if all of them are its own. -/
theorem Fits.ofLeftovers_eq (fits : record.Fits part depth full) (same : entries.Perm full)
    (own : record.others full = []) (empty : part (fun _ => false) = record.empty) {x : α}
    (built : record.build (part fun name => decide (name ∈ record.names full)) = .ok x) :
    record.ofLeftovers (Draft.ofEntries entries) = .ok x := by
  have buffered : Source.buffered.Admits depth := trivial
  have read := fits.readEntries_perm same empty buffered false
  rw [ofLeftovers, List.filter_eq_self.2, read]
  · exact built
  · intro entry member
    rw [Draft.ofEntries_eq_map] at member
    obtain ⟨written, inside, rfl⟩ := List.mem_map.1 member
    have known := List.filter_eq_nil_iff.1 own written (same.mem_iff.1 inside)
    show (record.field? written.1).isSome = true
    exact Option.isSome_iff_ne_none.2 fun none => known (Option.isNone_iff_eq_none.2 none)

end Record

end FlowEnrichment.Json
