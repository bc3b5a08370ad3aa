import FlowEnrichment.Proofs.Json.Numbers
import FlowEnrichment.Proofs.Json.Strings

/-!
# Reading written values

`Document.read_compact` is the round trip of documents: the text of a value, written without
blanks, is read as the draft of the value and nothing is left. The values are those whose
numbers are exact. The recursion is that of the writer; at each step the text that is still to
be read bounds what the reader needs.
-/
namespace FlowEnrichment.Json

open Utf8 (Symbol)

namespace Value

mutual

/-- Whether all numbers in a value are read back as written. -/
def Exact : Value → Prop
  | .number n => n.Exact
  | .array items => ExactItems items
  | .object entries => ExactEntries entries
  | _ => True

/-- Whether all numbers in a list of values are read back as written. -/
def ExactItems : List Value → Prop
  | [] => True
  | item :: rest => Exact item ∧ ExactItems rest

/-- Whether all numbers in the entries of an object are read back as written. -/
def ExactEntries : List (String × Value) → Prop
  | [] => True
  | (_, value) :: rest => Exact value ∧ ExactEntries rest

end

/-- A list is exact if its items are. -/
theorem exactItems_of_forall {items : List Value} (exact : ∀ item ∈ items, item.Exact) :
    ExactItems items := by
  induction items with
  | nil => trivial
  | cons item rest ih =>
    refine ⟨exact item List.mem_cons_self, ih ?_⟩
    intro other member
    exact exact other (List.mem_cons_of_mem item member)

/-- A natural number of at most sixty-four bits is exact. -/
theorem exact_nat {n : Nat} (small : n ≤ maxWord) : (Value.nat n).Exact := exact_natCast small

end Value

/-! ## First characters -/

/-- A character with which a value begins. -/
def Opens (c : Char) : Prop :=
  c ∈ ['n', 't', 'f', '"', '[', '\x7b', '-'] ∨ Decimal.isDigit c = true

/-- The text of an exact value begins with a character that opens a value. -/
theorem compactChars_eq_cons {value : Value} (exact : value.Exact) :
    ∃ c more, value.compactChars = c :: more ∧ Opens c := by
  match value, exact with
  | .null, _ => exact ⟨'n', _, rfl, .inl (by decide)⟩
  | .bool true, _ => exact ⟨'t', _, rfl, .inl (by decide)⟩
  | .bool false, _ => exact ⟨'f', _, rfl, .inl (by decide)⟩
  | .string _, _ => exact ⟨'"', _, rfl, .inl (by decide)⟩
  | .array [], _ => exact ⟨'[', _, rfl, .inl (by decide)⟩
  | .array (_ :: _), _ => exact ⟨'[', _, rfl, .inl (by decide)⟩
  | .object [], _ => exact ⟨'\x7b', _, rfl, .inl (by decide)⟩
  | .object (_ :: _), _ => exact ⟨'\x7b', _, rfl, .inl (by decide)⟩
  | .number (.float _), exact => exact exact.elim
  | .number (.integer n), _ =>
    by_cases negative : n < 0
    · exact ⟨'-', Decimal.digits n.natAbs, if_pos negative, .inl (by decide)⟩
    · obtain ⟨c, more, digits⟩ :=
        List.exists_cons_of_ne_nil (Nat.toDigits_ne_nil (b := 10) (n := n.natAbs))
      have first : c ∈ Decimal.digits n.natAbs := by
        rw [Decimal.digits, digits]
        exact List.mem_cons_self
      exact ⟨c, more, (if_neg negative).trans digits,
        .inr (Decimal.isDigit_of_mem_digits first)⟩

/-- A digit is none of the characters that open something else. -/
theorem ne_of_isDigit {c : Char} (digit : Decimal.isDigit c = true) (other : Char)
    (plain : Decimal.isDigit other = false) : c ≠ other := by
  rintro rfl
  rw [plain] at digit
  cases digit

/-- A character that opens a value is no blank, and it ends no array. -/
theorem Opens.visible {c : Char} (opens : Opens c) :
    ¬ (c = ' ' ∨ c = '\n' ∨ c = '\t' ∨ c = '\r') ∧ c ≠ ']' := by
  rcases opens with letter | digit
  · simp only [List.mem_cons, List.not_mem_nil, or_false] at letter
    rcases letter with rfl | rfl | rfl | rfl | rfl | rfl | rfl
    all_goals decide
  · refine ⟨?_, ne_of_isDigit digit ']' (by decide)⟩
    rintro (same | same | same | same)
    all_goals exact absurd same (ne_of_isDigit digit _ (by decide))

/-- Before a character that is no blank there is nothing to skip. -/
theorem skipBlank_cons {c : Char} (visible : ¬ (c = ' ' ∨ c = '\n' ∨ c = '\t' ∨ c = '\r'))
    (rest : List Symbol) : skipBlank (some c :: rest) = some c :: rest := by
  rw [skipBlank, if_neg visible]

/-! ## One step of the reader -/

/-- A written string is read as a value. -/
theorem readValue_stringText (fuel : Nat) (text : String) (rest : List Symbol) :
    readValue (fuel + 1) ((stringText text).map some ++ rest) =
      (.string (some text), some rest) := by
  rw [stringText, List.map_cons, List.cons_append, readValue, skipBlank_cons (by decide)]
  simp only [if_true]
  exact readString_stringText text rest

/-- The letters of a word are read as what the word means. -/
theorem readWord_map_some (meaning : Draft) (letters : List Char) (rest : List Symbol) :
    readWord meaning letters (letters.map some ++ rest) = (meaning, some rest) := by
  induction letters with
  | nil => rfl
  | cons letter letters ih =>
    rw [List.map_cons, List.cons_append, readWord, if_pos rfl]
    exact ih

/-- A written integer is read as a value. -/
theorem readValue_integerText (fuel : Nat) {n : Int} (exact : (Number.integer n).Exact)
    {rest : List Symbol} (ended : Ended rest) :
    readValue (fuel + 1) ((integerText n).map some ++ rest) =
      (.number (some (.integer n)), some rest) := by
  obtain ⟨low, high⟩ := exact
  unfold integerText
  by_cases negative : n < 0
  · have number := numberOf_neg_digits (n := n.natAbs) (by omega) (by omega)
    have value : -(n.natAbs : Int) = n := by omega
    rw [if_pos negative, List.map_cons, List.cons_append, readValue, skipBlank_cons (by decide)]
    simp only [show '-' ≠ '"' by decide, show '-' ≠ '[' by decide, show '-' ≠ '\x7b' by decide,
      if_false, if_true]
    rw [readNumber_digits true n.natAbs ended, number, value]
  · have number := numberOf_digits (n := n.natAbs) (by omega)
    have value : (n.natAbs : Int) = n := by omega
    have read := readNumber_digits false n.natAbs ended
    obtain ⟨c, more, digits⟩ :=
      List.exists_cons_of_ne_nil (Nat.toDigits_ne_nil (b := 10) (n := n.natAbs))
    have digit : Decimal.isDigit c = true := by
      apply Decimal.isDigit_of_mem_digits (n := n.natAbs)
      rw [Decimal.digits, digits]
      exact List.mem_cons_self
    have opens : Opens c := .inr digit
    rw [number, value, Decimal.digits, digits] at read
    rw [if_neg negative, Decimal.digits, digits, List.map_cons, List.cons_append, readValue,
      skipBlank_cons opens.visible.1]
    simp only [ne_of_isDigit digit '"' (by decide), ne_of_isDigit digit '[' (by decide),
      ne_of_isDigit digit '\x7b' (by decide), ne_of_isDigit digit '-' (by decide), digit,
      if_false, if_true]
    exact read

/-- An array whose first item begins is read item by item. -/
theorem readValue_array (fuel : Nat) {c : Char} (opens : Opens c) (more : List Symbol) :
    readValue (fuel + 1) (some '[' :: some c :: more) =
      (.array (readItems fuel (some c :: more)).1 (readItems fuel (some c :: more)).2.1,
        (readItems fuel (some c :: more)).2.2) := by
  rw [readValue, skipBlank_cons (by decide)]
  simp only [show '[' ≠ '"' by decide, if_false, if_true]
  rw [skipBlank_cons opens.visible.1]
  split
  case h_1 same =>
    cases same
    exact absurd rfl opens.visible.2
  case h_2 => rfl

/-- An object whose first key begins is read entry by entry. -/
theorem readValue_object (fuel : Nat) (more : List Symbol) :
    readValue (fuel + 1) (some '\x7b' :: some '"' :: more) =
      (.object (readEntries fuel (some '"' :: more)).1 (readEntries fuel (some '"' :: more)).2.1,
        (readEntries fuel (some '"' :: more)).2.2) := by
  rw [readValue, skipBlank_cons (by decide)]
  simp only [show '\x7b' ≠ '"' by decide, show '\x7b' ≠ '[' by decide, if_false, if_true]
  rw [skipBlank_cons (by decide)]
  rfl

/-- The last item of an array is followed by its end. -/
theorem readItems_last {fuel : Nat} {text rest : List Symbol} {item : Draft}
    (read : readValue fuel text = (item, some (some ']' :: rest))) :
    readItems (fuel + 1) text = ([item], none, some rest) := by
  rw [readItems, read]
  simp only
  rw [skipBlank_cons (by decide)]
  rfl

/-- An item that is followed by another is read before the others. -/
theorem readItems_more {fuel : Nat} {text more : List Symbol} {item : Draft} {c : Char}
    (read : readValue fuel text = (item, some (some ',' :: some c :: more))) (opens : Opens c) :
    readItems (fuel + 1) text =
      (item :: (readItems fuel (some c :: more)).1, (readItems fuel (some c :: more)).2) := by
  rw [readItems, read]
  simp only
  rw [skipBlank_cons (by decide)]
  simp only
  rw [skipBlank_cons opens.visible.1]
  split
  case h_1 same =>
    cases same
    exact absurd rfl opens.visible.2
  case h_2 => rfl

/-- The last entry of an object is followed by its end. -/
theorem readEntries_last {fuel : Nat} {key : String} {text rest : List Symbol} {value : Draft}
    (read : readValue fuel text = (value, some (some '\x7d' :: rest))) :
    readEntries (fuel + 1) ((stringText key).map some ++ some ':' :: text) =
      ([(.string (some key), value)], none, some rest) := by
  rw [stringText, List.map_cons, List.cons_append, readEntries, readString_stringText]
  simp only
  rw [skipBlank_cons (by decide)]
  simp only [read]
  rw [skipBlank_cons (by decide)]
  rfl

/-- An entry that is followed by another is read before the others. -/
theorem readEntries_more {fuel : Nat} {key : String} {text more : List Symbol} {value : Draft}
    (read : readValue fuel text = (value, some (some ',' :: some '"' :: more))) :
    readEntries (fuel + 1) ((stringText key).map some ++ some ':' :: text) =
      ((.string (some key), value) :: (readEntries fuel (some '"' :: more)).1,
        (readEntries fuel (some '"' :: more)).2) := by
  rw [stringText, List.map_cons, List.cons_append, readEntries, readString_stringText]
  simp only
  rw [skipBlank_cons (by decide)]
  simp only [read]
  rw [skipBlank_cons (by decide)]
  simp only
  rw [skipBlank_cons (by decide)]
  rfl

/-! ## The round trip -/

/-- The items of an array begin with a character that opens a value. -/
theorem tail_compactItems {item : Value} (exact : item.Exact) (items : List Value)
    (rest : List Symbol) : ∃ c more, Opens c ∧
      (Value.compactItems (item :: items)).tail.map some ++ rest = some c :: more := by
  obtain ⟨c, more, start, opens⟩ := compactChars_eq_cons exact
  rw [Value.compactItems, List.tail_cons, start, List.cons_append, List.map_cons, List.cons_append]
  exact ⟨c, _, opens, rfl⟩

/-- The entries of an object begin with the quote of the first key. -/
theorem tail_compactEntries (entry : String × Value) (entries : List (String × Value))
    (rest : List Symbol) : ∃ more,
      (Value.compactEntries (entry :: entries)).tail.map some ++ rest = some '"' :: more := by
  rw [Value.compactEntries, List.tail_cons, stringText, List.cons_append, List.map_cons,
    List.cons_append]
  exact ⟨_, rfl⟩

/-- What follows an item does not go on with a number. -/
theorem ended_compactItems (items : List Value) (rest : List Symbol) :
    Ended ((Value.compactItems items).map some ++ rest) := by
  cases items with
  | nil => exact ended_bracket rest
  | cons item items => exact ended_comma _

/-- What follows an entry does not go on with a number. -/
theorem ended_compactEntries (entries : List (String × Value)) (rest : List Symbol) :
    Ended ((Value.compactEntries entries).map some ++ rest) := by
  cases entries with
  | nil => exact ended_brace rest
  | cons entry entries => exact ended_comma _

mutual

/-- A written value is read back, whatever follows it. -/
theorem readValue_compactChars (value : Value) (exact : value.Exact) (fuel : Nat)
    (enough : value.compactChars.length ≤ fuel) {rest : List Symbol} (ended : Ended rest) :
    readValue fuel (value.compactChars.map some ++ rest) = (.ofValue value, some rest) := by
  obtain ⟨first, others, written, -⟩ := compactChars_eq_cons exact
  obtain ⟨fuel, rfl⟩ : ∃ less, fuel = less + 1 := by
    rw [written, List.length_cons] at enough
    exact ⟨fuel - 1, by omega⟩
  match value, exact with
  | .null, _ => exact readWord_map_some .null ['u', 'l', 'l'] rest
  | .bool true, _ => exact readWord_map_some (.bool true) ['r', 'u', 'e'] rest
  | .bool false, _ => exact readWord_map_some (.bool false) ['a', 'l', 's', 'e'] rest
  | .number (.integer n), exact => exact readValue_integerText fuel exact ended
  | .string text, _ => exact readValue_stringText fuel text rest
  | .array [], _ => rfl
  | .array (item :: items), exact =>
    have length : (Value.compactItems (item :: items)).length ≤ fuel + 1 := enough
    have read := readItems_compactItems (item :: items) (List.cons_ne_nil item items) exact fuel
      length rest
    obtain ⟨c, more, opens, begins⟩ := tail_compactItems exact.1 items rest
    have text : (Value.array (item :: items)).compactChars.map some ++ rest =
        some '[' :: some c :: more := congrArg (some '[' :: ·) begins
    rw [begins] at read
    rw [text, readValue_array fuel opens, read, Draft.ofValue]
  | .object [], _ => rfl
  | .object (entry :: entries), exact =>
    have length : (Value.compactEntries (entry :: entries)).length ≤ fuel + 1 := enough
    have read := readEntries_compactEntries (entry :: entries) (List.cons_ne_nil entry entries)
      exact fuel length rest
    obtain ⟨more, begins⟩ := tail_compactEntries entry entries rest
    have text : (Value.object (entry :: entries)).compactChars.map some ++ rest =
        some '\x7b' :: some '"' :: more := congrArg (some '\x7b' :: ·) begins
    rw [begins] at read
    rw [text, readValue_object, read, Draft.ofValue]

/-- The written items of an array are read back up to the end of the array. -/
theorem readItems_compactItems (items : List Value) (some_item : items ≠ [])
    (exact : Value.ExactItems items) (fuel : Nat)
    (enough : (Value.compactItems items).length ≤ fuel + 1) (rest : List Symbol) :
    readItems fuel ((Value.compactItems items).tail.map some ++ rest) =
      (Draft.ofItems items, none, some rest) := by
  match items, exact with
  | [], _ => exact absurd rfl some_item
  | item :: items, exact =>
    obtain ⟨first, others, written, -⟩ := compactChars_eq_cons exact.1
    have some_char : 0 < item.compactChars.length := by
      rw [written]
      exact Nat.zero_lt_succ others.length
    rw [Value.compactItems, List.length_cons, List.length_append] at enough
    obtain ⟨fuel, rfl⟩ : ∃ less, fuel = less + 1 := ⟨fuel - 1, by omega⟩
    rw [Value.compactItems, List.tail_cons, List.map_append, List.append_assoc]
    match items, exact.2 with
    | [], _ =>
      rw [Value.compactItems, List.length_singleton] at enough
      have read := readValue_compactChars item exact.1 fuel (by omega)
        (ended_bracket rest)
      exact readItems_last read
    | next :: items, exact_next =>
      have some_comma : 0 < (Value.compactItems (next :: items)).length := by
        rw [Value.compactItems]
        exact Nat.zero_lt_succ _
      have read := readValue_compactChars item exact.1 fuel (by omega)
        (ended_compactItems (next :: items) rest)
      have tail := readItems_compactItems (next :: items) (List.cons_ne_nil next items)
        exact_next fuel (by omega) rest
      obtain ⟨c, more, opens, begins⟩ := tail_compactItems exact_next.1 items rest
      have comma : (Value.compactItems (next :: items)).map some ++ rest =
          some ',' :: some c :: more := congrArg (some ',' :: ·) begins
      rw [begins] at tail
      rw [comma] at read ⊢
      rw [readItems_more read opens, tail]
      rfl

/-- The written entries of an object are read back up to the end of the object. -/
theorem readEntries_compactEntries (entries : List (String × Value)) (some_entry : entries ≠ [])
    (exact : Value.ExactEntries entries) (fuel : Nat)
    (enough : (Value.compactEntries entries).length ≤ fuel + 1) (rest : List Symbol) :
    readEntries fuel ((Value.compactEntries entries).tail.map some ++ rest) =
      (Draft.ofEntries entries, none, some rest) := by
  match entries, exact with
  | [], _ => exact absurd rfl some_entry
  | (key, value) :: entries, exact =>
    rw [Value.compactEntries, List.length_cons, List.length_append, List.length_cons,
      List.length_append] at enough
    obtain ⟨fuel, rfl⟩ : ∃ less, fuel = less + 1 := ⟨fuel - 1, by
      rw [stringText, List.length_cons] at enough
      omega⟩
    rw [Value.compactEntries, List.tail_cons, List.map_append, List.append_assoc, List.map_cons,
      List.cons_append, List.map_append, List.append_assoc]
    match entries, exact.2 with
    | [], _ =>
      have read := readValue_compactChars value exact.1 fuel (by omega)
        (ended_brace rest)
      exact readEntries_last read
    | next :: entries, exact_next =>
      have read := readValue_compactChars value exact.1 fuel (by omega)
        (ended_compactEntries (next :: entries) rest)
      have tail := readEntries_compactEntries (next :: entries) (List.cons_ne_nil next entries)
        exact_next fuel (by omega) rest
      obtain ⟨more, begins⟩ := tail_compactEntries next entries rest
      have comma : (Value.compactEntries (next :: entries)).map some ++ rest =
          some ',' :: some '"' :: more := congrArg (some ',' :: ·) begins
      rw [begins] at tail
      rw [comma] at read ⊢
      rw [readEntries_more read, tail]
      rfl

end

/-- The text of a value is read as the draft of the value, with nothing after it. -/
theorem Document.read_compact {value : Value} (exact : value.Exact) :
    Document.read (Utf8.symbolsOf value.compact) = ⟨.ofValue value, false⟩ := by
  have symbols : Utf8.symbolsOf value.compact = value.compactChars.map some := by
    rw [Utf8.symbolsOf, Value.compact, String.toList_ofList]
  have length : value.compactChars.length ≤ 2 * (value.compactChars.map some).length + 1 := by
    rw [List.length_map]
    omega
  have read := readValue_compactChars value exact _ length ended_nil
  rw [List.append_nil] at read
  rw [symbols, Document.read, read]
  rfl

end FlowEnrichment.Json
