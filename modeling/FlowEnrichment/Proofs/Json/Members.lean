import FlowEnrichment.Json.Decoder
import FlowEnrichment.Proofs.Except

/-!
# What documents must say

A decoder is a computation that stops at the first fault; here is what it comes to, said of the
document as a whole. A text is decoded if it is one value and no more. An object is decoded if its
keys are texts, what stands under the key of a field is decoded and stands there once, and the
rest can be passed over. The order of the entries plays no part in it.
-/
namespace FlowEnrichment.Json

/-- There is no fault where none is found. -/
theorem check_eq_ok_iff {ending : Option Fault} {done : Unit} :
    Fault.check ending = .ok done ↔ ending = none := by
  cases ending <;> simp [Fault.check]

/-- A required field is there if something has been gathered of it. -/
theorem requireField_eq_ok_iff {α : Type} {name : String} {gathered : Option α} {x : α} :
    requireField name gathered = .ok x ↔ gathered = some x := by
  cases gathered <;> simp [requireField]

/-! ## Texts and values -/

/-- A text that is one value and nothing else. -/
def Whole (symbols : List Utf8.Symbol) (draft : Draft) : Prop :=
  Document.read symbols = ⟨draft, false⟩

namespace Decoder

variable {α : Type} {decoder : Decoder α}

/-- A text is decoded if it is one value that is decoded. -/
theorem ofSymbols_eq_ok_iff {symbols : List Utf8.Symbol} {x : α} :
    decoder.ofSymbols symbols = .ok x ↔
      ∃ draft, Whole symbols draft ∧ decoder (.text Source.textRoom) draft = .ok x := by
  unfold ofSymbols Whole
  cases Document.read symbols with
  | mk root trailing =>
    simp only [bind_eq_ok_iff, Document.mk.injEq]
    cases trailing with
    | true => simp [bind, Except.bind]
    | false => simp [pure, Except.pure]

/-- What is decoded with a function is decoded before. -/
theorem map_eq_ok_iff {β : Type} {f : α → β} {source : Source} {draft : Draft} {y : β} :
    decoder.map f source draft = .ok y ↔ ∃ x, decoder source draft = .ok x ∧ f x = y := by
  simp only [Decoder.map, bind_eq_ok_iff, pure, Except.pure, Except.ok.injEq]

/-- A word of thirty-two bits is decoded from its number and from nothing else. -/
theorem word32_eq_ok_iff {source : Source} {draft : Draft} {n : UInt32} :
    word32 source draft = .ok n ↔ draft = .number (some (.integer n.toNat)) := by
  constructor
  · intro decoded
    obtain ⟨m, read, rfl⟩ := map_eq_ok_iff.1 decoded
    unfold integer at read
    split at read
    case h_2 => cases read
    case h_1 m' =>
      by_cases within : 0 ≤ m' ∧ m' ≤ (UInt32.size - 1 : Int)
      · rw [if_pos within] at read
        cases read
        have small : m.toNat < UInt32.size := by omega
        show _ = Draft.number (some (.integer (UInt32.ofNat m.toNat).toNat))
        rw [UInt32.toNat_ofNat_of_lt' small, Int.toNat_of_nonneg within.1]
      · rw [if_neg within] at read
        cases read
  · rintro rfl
    have bound : n.toNat < UInt32.size := n.toNat_lt
    have within : (0 : Int) ≤ n.toNat ∧ (n.toNat : Int) ≤ UInt32.size - 1 := by omega
    refine map_eq_ok_iff.2 ⟨n.toNat, if_pos within, ?_⟩
    rw [Int.toNat_natCast, UInt32.ofNat_toNat]

/-- A list is decoded from an array of which every item is. -/
theorem list_eq_ok_iff {source : Source} {draft : Draft} {xs : List α} :
    list decoder source draft = .ok xs ↔
      ∃ items inner, draft = .array items none ∧ source.enter = .ok inner ∧
        List.Forall₂ (fun item x => decoder inner item = .ok x) items xs := by
  cases draft with
  | array items ending =>
    rw [list]
    simp only [bind_eq_ok_iff, mapM_eq_ok_iff, check_eq_ok_iff, pure, Except.pure,
      Except.ok.injEq, Draft.array.injEq]
    constructor
    · rintro ⟨inner, entered, ys, read, -, ended, rfl⟩
      exact ⟨items, inner, ⟨rfl, ended⟩, entered, read⟩
    · rintro ⟨_, inner, ⟨rfl, ended⟩, entered, read⟩
      exact ⟨inner, entered, xs, read, (), ended, rfl⟩
  | _ => simp [list]

end Decoder

/-! ## Objects -/

/-- What stands under a key, in the order of the document. -/
def valuesUnder (name : String) : List (Draft × Draft) → List Draft
  | [] => []
  | (.string (some key), value) :: rest =>
    if key = name then value :: valuesUnder name rest else valuesUnder name rest
  | _ :: rest => valuesUnder name rest

/-- The keys are texts, and what stands under others than the given ones can be passed over. -/
def Passable (names : List String) (entries : List (Draft × Draft)) : Prop :=
  ∀ entry ∈ entries, ∃ key, entry.1 = .string (some key) ∧ (key ∈ names ∨ entry.2.skip = .ok ())

/-- What is gathered of a field for which there are certain values: one value at most may be
there, and only if nothing has been gathered before. -/
def Filled {γ : Type} (read : Draft → Except Fault γ) : Option γ → List Draft → Option γ → Prop
  | before, [], after => after = before
  | none, value :: rest, after => ∃ x, read value = .ok x ∧ Filled read (some x) rest after
  | some _, _ :: _, _ => False

/-- A value is read for a field for which nothing has been gathered. -/
theorem filled_cons_iff {γ : Type} {read : Draft → Except Fault γ} {before after : Option γ}
    {value : Draft} {rest : List Draft} :
    Filled read before (value :: rest) after ↔
      before.isSome = false ∧ ∃ x, read value = .ok x ∧ Filled read (some x) rest after := by
  cases before <;> simp [Filled]

/-- A field for which nothing had been gathered has a value if there is one that is decoded. -/
theorem filled_some_iff {γ : Type} {read : Draft → Except Fault γ} {values : List Draft} {x : γ} :
    Filled read none values (some x) ↔ ∃ value, values = [value] ∧ read value = .ok x := by
  match values with
  | [] => simp [Filled]
  | [value] => simp [Filled]
  | _ :: _ :: _ => simp [Filled]

/-- Entries are passable if the first one and the others are. -/
theorem passable_cons_iff {names : List String} {key : String} {value : Draft}
    {rest : List (Draft × Draft)} :
    Passable names ((.string (some key), value) :: rest) ↔
      (key ∈ names ∨ value.skip = .ok ()) ∧ Passable names rest := by
  simp [Passable]

/-- The keys of passable entries are texts. -/
theorem Passable.key {names : List String} {name value : Draft} {rest : List (Draft × Draft)}
    (passable : Passable names ((name, value) :: rest)) : ∃ key, name = .string (some key) := by
  obtain ⟨key, named, -⟩ := passable _ List.mem_cons_self
  exact ⟨key, named⟩

namespace Record

variable {α β : Type} {record : Record β α} {source : Source} {before after : β}

/-- The entries of an object add to what was gathered of a record. -/
def Takes (record : Record β α) (source : Source) (entries : List (Draft × Draft))
    (before after : β) : Prop :=
  ∃ others, record.readEntries source false entries before = .ok (after, others)

/-- No entries add nothing. -/
theorem takes_nil_iff : record.Takes source [] before after ↔ after = before := by
  simp [Takes, readEntries, eq_comm]

/-- An entry is read if it stands under the key of a field that is still missing, and passed over
if it stands under no such key. -/
theorem takes_cons_iff {key : String} {value : Draft} {rest : List (Draft × Draft)} :
    record.Takes source ((.string (some key), value) :: rest) before after ↔
      match record.field? key with
      | some field => field.isSet before = false ∧ ∃ between,
          field.read before source value = .ok between ∧ record.Takes source rest between after
      | none => value.skip = .ok () ∧ record.Takes source rest before after := by
  simp only [Takes, readEntries, Draft.key, bind, Except.bind]
  cases record.field? key with
  | none => cases value.skip <;> simp
  | some field =>
    cases missing : field.isSet before with
    | true => simp [missing]
    | false => cases read : field.read before source value <;> simp [missing, read]

/-- The keys of an object are texts. -/
theorem Takes.key {name value : Draft} {rest : List (Draft × Draft)}
    (takes : record.Takes source ((name, value) :: rest) before after) :
    ∃ key, name = .string (some key) := by
  obtain ⟨others, read⟩ := takes
  rw [readEntries, bind_eq_ok_iff] at read
  obtain ⟨key, named, -⟩ := read
  unfold Draft.key at named
  split at named
  case h_1 => exact ⟨_, rfl⟩
  all_goals cases named

/-- What entries add is told by a relation that goes through them in the same way. -/
theorem takes_iff_of_cons (relation : List (Draft × Draft) → β → β → Prop)
    (nil : ∀ before after, relation [] before after ↔ after = before)
    (keys : ∀ name value rest before after, relation ((name, value) :: rest) before after →
      ∃ key, name = .string (some key))
    (cons : ∀ key value rest before after,
      relation ((.string (some key), value) :: rest) before after ↔
        match record.field? key with
        | some field => field.isSet before = false ∧ ∃ between,
            field.read before source value = .ok between ∧ relation rest between after
        | none => value.skip = .ok () ∧ relation rest before after)
    {entries : List (Draft × Draft)} :
    record.Takes source entries before after ↔ relation entries before after := by
  induction entries generalizing before with
  | nil => rw [takes_nil_iff, nil]
  | cons entry rest ih =>
    obtain ⟨name, value⟩ := entry
    by_cases named : ∃ key, name = .string (some key)
    · obtain ⟨key, rfl⟩ := named
      rw [takes_cons_iff, cons]
      cases record.field? key with
      | none => simp only [ih]
      | some field => simp only [ih]
    · exact ⟨fun takes => absurd takes.key named,
        fun relates => absurd (keys _ _ _ _ _ relates) named⟩

/-- A record is decoded from an object whose entries are taken and add up to it. -/
theorem decoder_object_iff {entries : List (Draft × Draft)} {ending : Option Fault} {x : α} :
    record.decoder source (.object entries ending) = .ok x ↔
      ∃ inner gathered, source.enter = .ok inner ∧ ending = none ∧
        record.Takes inner entries record.empty gathered ∧ record.build gathered = .ok x := by
  simp only [decoder, bind_eq_ok_iff, check_eq_ok_iff]
  constructor
  · rintro ⟨inner, entered, ⟨gathered, others⟩, read, -, ended, built⟩
    exact ⟨inner, gathered, entered, ended, ⟨others, read⟩, built⟩
  · rintro ⟨inner, gathered, entered, ended, ⟨others, read⟩, built⟩
    exact ⟨inner, entered, (gathered, others), read, (), ended, built⟩

/-- A record is decoded from an array whose items add up to it and are no more than its fields. -/
theorem decoder_array_iff {items : List Draft} {ending : Option Fault} {x : α} :
    record.decoder source (.array items ending) = .ok x ↔
      ∃ inner gathered, source.enter = .ok inner ∧ ending = none ∧
        record.readItems inner ending record.fields items record.empty = .ok gathered ∧
        record.build gathered = .ok x ∧
        source.surplus record.fields.length items.length = .ok () := by
  simp only [decoder, bind_eq_ok_iff, check_eq_ok_iff, pure, Except.pure, Except.ok.injEq]
  constructor
  · rintro ⟨inner, entered, gathered, read, _, built, _, few, _, ended, rfl⟩
    exact ⟨inner, gathered, entered, ended, read, built, few⟩
  · rintro ⟨inner, gathered, entered, ended, read, built, few⟩
    exact ⟨inner, entered, gathered, read, x, built, (), few, (), ended, rfl⟩

end Record

end FlowEnrichment.Json
