import FlowEnrichment.Json.Decoder
import FlowEnrichment.Proofs.Json.Documents
import FlowEnrichment.Proofs.Text.Utf8

/-!
# Decoders that read what was written

`Decoder.Reads` says that a decoder makes a certain value of a document value, in whatever
source the document stands as long as its containers may be entered. Each combinator keeps the
property. `Decoder.ofText_compact` carries it over to texts, and `Decoder.ofSymbols_encode` to
encoded ones.
-/
namespace FlowEnrichment.Json

/-- A source in which a number of containers may still be nested. -/
def Source.Admits (depth : Nat) : Source → Prop
  | .text room => depth ≤ room
  | _ => True

/-- A container may be entered where one more may be nested than it holds. -/
theorem Source.Admits.enter {depth : Nat} {source : Source} (admits : source.Admits (depth + 1)) :
    ∃ inner, source.enter = .ok inner ∧ inner.Admits depth := by
  match source, admits with
  | .text (room + 1), admits => exact ⟨.text room, rfl, Nat.le_of_succ_le_succ admits⟩
  | .value, _ => exact ⟨.value, rfl, trivial⟩
  | .buffered, _ => exact ⟨.buffered, rfl, trivial⟩
  | .table, _ => exact ⟨.table, rfl, trivial⟩

/-- Where many containers may be nested fewer may be. -/
theorem Source.Admits.mono {source : Source} {less depth : Nat} (admits : source.Admits depth)
    (le : less ≤ depth) : source.Admits less := by
  cases source with
  | text room => exact Nat.le_trans le admits
  | value => trivial
  | buffered => trivial
  | table => trivial

namespace Decoder

/-- A decoder reads a document value, nested to a depth, as a certain value. -/
def Reads {α : Type} (decoder : Decoder α) (depth : Nat) (value : Value) (x : α) : Prop :=
  ∀ source : Source, source.Admits depth → decoder source (.ofValue value) = .ok x

variable {α β : Type} {decoder : Decoder α} {depth : Nat} {value : Value} {x : α}

/-- What is read where few containers may be nested is read where more may be. -/
theorem Reads.mono {more : Nat} (reads : decoder.Reads depth value x) (le : depth ≤ more) :
    decoder.Reads more value x :=
  fun source admits => reads source (admits.mono le)

/-- A text is read. -/
theorem reads_text (depth : Nat) (s : String) : text.Reads depth (.string s) s :=
  fun _ _ => rfl

/-- A text is read whatever name messages give it. -/
theorem reads_textNamed (depth : Nat) (name s : String) :
    (textNamed name).Reads depth (.string s) s :=
  fun _ _ => rfl

/-- What is read is read before a function is applied to it. -/
theorem Reads.map (reads : decoder.Reads depth value x) (f : α → β) :
    (decoder.map f).Reads depth value (f x) := by
  intro source admits
  rw [Decoder.map, reads source admits]
  rfl

/-- What is read and passes a check is read with the check. -/
theorem Reads.refine (reads : decoder.Reads depth value x) {verify : α → Except String β} {y : β}
    (passes : verify x = .ok y) : (decoder.refine verify).Reads depth value y := by
  intro source admits
  rw [Decoder.refine, reads source admits]
  simp only [bind, Except.bind, passes]

/-- An integer between the bounds is read. -/
theorem reads_integer (depth : Nat) (name : String) (low high n : Int) (above : low ≤ n)
    (below : n ≤ high) : (integer low high name).Reads depth (.int n) n := by
  intro source admits
  simp only [integer, Value.int, Draft.ofValue, above, below, and_self, if_true]

/-- A word of thirty-two bits is read. -/
theorem reads_word32 (depth : Nat) (n : UInt32) : word32.Reads depth (.nat n.toNat) n := by
  have bound : n.toNat < UInt32.size := n.toNat_lt
  have reads := reads_integer depth "u32" 0 (UInt32.size - 1) n.toNat (by omega)
    (by omega)
  have same : UInt32.ofNat ((n.toNat : Int).toNat) = n := by
    rw [Int.toNat_natCast, UInt32.ofNat_toNat]
  have mapped : word32.Reads depth (.nat n.toNat) (UInt32.ofNat (n.toNat : Int).toNat) :=
    reads.map fun n => UInt32.ofNat n.toNat
  rw [same] at mapped
  exact mapped

/-- A word of sixty-four bits is read, by whatever name messages give its type. -/
theorem reads_word (depth : Nat) (name : String) (n : UInt64) :
    (word name).Reads depth (.nat n.toNat) n := by
  have bound : n.toNat < UInt64.size := n.toNat_lt
  have reads := reads_integer depth name 0 (UInt64.size - 1) n.toNat (by omega)
    (by omega)
  have same : UInt64.ofNat ((n.toNat : Int).toNat) = n := by
    rw [Int.toNat_natCast, UInt64.ofNat_toNat]
  have mapped : (word name).Reads depth (.nat n.toNat) (UInt64.ofNat (n.toNat : Int).toNat) :=
    reads.map fun n => UInt64.ofNat n.toNat
  rw [same] at mapped
  exact mapped

/-- A word of sixty-four bits is read. -/
theorem reads_word64 (depth : Nat) (n : UInt64) : word64.Reads depth (.nat n.toNat) n :=
  reads_word depth "u64" n

/-- A truth value is read. -/
theorem reads_bool (depth : Nat) (b : Bool) : bool.Reads depth (.bool b) b :=
  fun _ _ => rfl

/-- The absent value is read as nothing. -/
theorem reads_optional_null (depth : Nat) (decoder : Decoder α) :
    (optional decoder).Reads depth .null none :=
  fun _ _ => rfl

/-- A choice is read by its name. -/
theorem reads_oneOf (depth : Nat) {choices : List (String × α)} {name : String}
    (chosen : choices.lookup name = some x) : (oneOf choices).Reads depth (.string name) x := by
  intro source admits
  cases source
  all_goals simp only [oneOf, Draft.ofValue, chosen]

/-- Items that are read one by one are read in order. -/
theorem reads_list (write : α → Value) (xs : List α)
    (reads : ∀ x ∈ xs, decoder.Reads depth (write x) x) :
    (list decoder).Reads (depth + 1) (.array (xs.map write)) xs := by
  intro source admits
  obtain ⟨inner, entered, room⟩ := admits.enter
  have items : (Draft.ofItems (xs.map write)).mapM (decoder inner) = .ok xs := by
    clear entered admits
    induction xs with
    | nil => rfl
    | cons x xs ih =>
      have first := reads x List.mem_cons_self inner room
      have others := ih fun y member => reads y (List.mem_cons_of_mem x member)
      rw [List.map_cons, Draft.ofItems, List.mapM_cons, first, others]
      rfl
  simp only [list, Draft.ofValue, entered, items, bind, Except.bind, Fault.check, pure, Except.pure]

end Decoder

/-! ## Passing over -/

namespace Draft

mutual

/-- A document value can be passed over. -/
theorem skip_ofValue : ∀ value : Value, (ofValue value).skip = .ok ()
  | .null => rfl
  | .bool _ => rfl
  | .number _ => rfl
  | .string _ => rfl
  | .array items => by
    rw [ofValue, skip, skipItems_ofItems items]
    rfl
  | .object entries => by
    rw [ofValue, skip, skipEntries_ofEntries entries]
    rfl

/-- The items of an array can be passed over. -/
theorem skipItems_ofItems : ∀ items : List Value, skipItems (ofItems items) = .ok ()
  | [] => rfl
  | item :: rest => by
    rw [ofItems, skipItems, skip_ofValue item]
    exact skipItems_ofItems rest

/-- The entries of an object can be passed over. -/
theorem skipEntries_ofEntries :
    ∀ entries : List (String × Value), skipEntries (ofEntries entries) = .ok ()
  | [] => rfl
  | (_, value) :: rest => by
    rw [ofEntries, skipEntries, skip_ofValue value]
    exact skipEntries_ofEntries rest

end

end Draft

/-! ## Records -/

namespace Record

variable {α β : Type} {record : Record β α}

/-- An entry under the key of a field that is still missing is gathered. -/
theorem readEntries_known {source : Source} {keep : Bool} {key : String} {value : Draft}
    {rest : List (Draft × Draft)} {before after : β} {field : RecordField β}
    (known : record.field? key = some field) (missing : field.isSet before = false)
    (read : field.read before source value = .ok after) :
    record.readEntries source keep ((.string (some key), value) :: rest) before =
      record.readEntries source keep rest after := by
  simp only [readEntries, Draft.key, bind, Except.bind, known, missing, Bool.false_eq_true,
    if_false, read]

/-- An entry under another key is passed over. -/
theorem readEntries_unknown {source : Source} {key : String} {value : Value}
    {rest : List (Draft × Draft)} {gathered : β} (unknown : record.field? key = none) :
    record.readEntries source false ((.string (some key), .ofValue value) :: rest) gathered =
      record.readEntries source false rest gathered := by
  simp only [readEntries, Draft.key, bind, Except.bind, unknown, Bool.false_eq_true, if_false,
    Draft.skip_ofValue]

end Record

/-! ## Texts -/

/-- What is read of a value is read of the text of the value. -/
theorem Decoder.ofText_compact {α : Type} {decoder : Decoder α} {value : Value} {x : α}
    (exact : value.Exact) (reads : decoder.Reads Source.textRoom value x) :
    decoder.ofText value.compact = .ok x := by
  have root := reads (.text Source.textRoom) (Nat.le_refl Source.textRoom)
  rw [Decoder.ofText, Decoder.ofSymbols, Document.read_compact exact]
  simp only [root, bind, Except.bind, Bool.false_eq_true, if_false, pure, Except.pure]

/-- What is read of a value is read of the encoded text of the value. -/
theorem Decoder.ofSymbols_encode {α : Type} {decoder : Decoder α} {value : Value} {x : α}
    (exact : value.Exact) (reads : decoder.Reads Source.textRoom value x) :
    decoder.ofSymbols (Utf8.symbols (Utf8.encode value.compact)) = .ok x := by
  rw [Utf8.symbols_encode]
  exact Decoder.ofText_compact exact reads

end FlowEnrichment.Json
