import FlowEnrichment.CommandLine.Run
import FlowEnrichment.Proofs.Json.Sorting
import FlowEnrichment.Proofs.Query
import FlowEnrichment.Proofs.Records

/-!
# Lines

What a lookup prints for a query is one line, whatever texts its answer holds: a value that is
written without blanks has no control character, because its strings are escaped
(`Json.oneLine_compactChars`), and the text of a query has none either. The line tells which query
it is for, and what the answer is (`CommandLine.answerLine_injective`,
`CommandLine.missingLine_injective`).
-/
namespace FlowEnrichment

/-- A text has no control character, so it does not break into several lines. -/
def OneLine (text : List Char) : Prop := ∀ c ∈ text, 0x20 ≤ c.toNat

instance (text : List Char) : Decidable (OneLine text) :=
  List.decidableBAll (fun c : Char => 0x20 ≤ c.toNat) text

/-- There is no line break in one line. -/
theorem OneLine.no_break {text : List Char} (line : OneLine text) : '\n' ∉ text :=
  fun member => absurd (line '\n' member) (by decide)

/-- One line goes on with another character. -/
theorem OneLine.cons {c : Char} {rest : List Char} (visible : 0x20 ≤ c.toNat)
    (line : OneLine rest) : OneLine (c :: rest) := List.forall_mem_cons.2 ⟨visible, line⟩

/-- One line goes on with another text. -/
theorem OneLine.append {first second : List Char} (line : OneLine first) (more : OneLine second) :
    OneLine (first ++ second) := List.forall_mem_append.2 ⟨line, more⟩

/-- A decimal digit is no control character. -/
theorem Decimal.visible_of_digit? {c : Char} (digit : (digit? c).isSome) : 0x20 ≤ c.toNat := by
  unfold digit? at digit
  split at digit
  case isTrue between => exact Nat.le_trans (by decide) between.1
  case isFalse => cases digit

/-- A number is one line. -/
theorem Decimal.oneLine_digits (n : Nat) : OneLine (digits n) :=
  fun _ member => visible_of_digit? (isDigit_of_mem_digits member)

/-- A hexadecimal digit is no control character either. -/
theorem Hexadecimal.visible_of_digit? {c : Char} (digit : (digit? c).isSome) : 0x20 ≤ c.toNat := by
  unfold digit? at digit
  split_ifs at digit with decimal lower upper
  case pos => exact Nat.le_trans (by decide) decimal.1
  case pos => exact Nat.le_trans (by decide) lower.1
  case pos => exact Nat.le_trans (by decide) upper.1
  case neg => cases digit

/-- The digits of an escape are one line. -/
theorem Json.oneLine_fourHexDigits (n : Nat) : OneLine (fourHexDigits n) := by
  intro c member
  obtain ⟨value, inside, rfl⟩ := List.mem_map.1 member
  have small : value < 16 := by
    simp only [List.mem_cons, List.not_mem_nil, or_false] at inside
    rcases inside with rfl | rfl | rfl | rfl
    all_goals exact Nat.mod_lt _ (by decide)
  refine Hexadecimal.visible_of_digit? ?_
  rw [Hexadecimal.digit?_digitChar small, Option.isSome_some]

/-! ## Values -/

namespace Json

/-- A control character is escaped, and no other one is made of it. -/
theorem oneLine_escapedChar (c : Char) : OneLine (escapedChar c) := by
  unfold escapedChar
  split_ifs with quote backslash newline carriage tab backspace feed control
  -- The first seven escapes are letters after a backslash.
  iterate 7 decide
  case pos => exact .cons (by decide) (.cons (by decide) (oneLine_fourHexDigits _))
  case neg => exact List.forall_mem_singleton.2 (Nat.le_of_not_lt control)

/-- A string between its quotes is one line. -/
theorem oneLine_stringText (text : String) : OneLine (stringText text) := by
  refine .cons (by decide) (.append ?_ (by decide))
  intro c member
  obtain ⟨source, -, inside⟩ := List.mem_flatMap.1 member
  exact oneLine_escapedChar source c inside

/-- An exact number is one line. -/
theorem oneLine_number {n : Number} (exact : n.Exact) : OneLine n.text := by
  cases n with
  | float x => exact exact.elim
  | integer n =>
    unfold Number.text integerText
    dsimp only
    split
    · exact .cons (by decide) (Decimal.oneLine_digits _)
    · exact Decimal.oneLine_digits _

mutual

/-- An exact value without blanks is one line. -/
theorem oneLine_compactChars : ∀ {value : Value}, value.Exact → OneLine value.compactChars
  | .null, _ => by decide
  | .bool true, _ => by decide
  | .bool false, _ => by decide
  | .number _, exact => oneLine_number exact
  | .string text, _ => oneLine_stringText text
  | .array [], _ => by decide
  | .array (_ :: _), exact =>
    .cons (by decide) ((oneLine_compactChars exact.1).append (oneLine_compactItems exact.2))
  | .object [], _ => by decide
  | .object ((key, _) :: _), exact =>
    .cons (by decide) ((oneLine_stringText key).append (.cons (by decide)
      ((oneLine_compactChars exact.1).append (oneLine_compactEntries exact.2))))

/-- So are the other items of an array. -/
theorem oneLine_compactItems :
    ∀ {items : List Value}, Value.ExactItems items → OneLine (Value.compactItems items)
  | [], _ => by decide
  | _ :: _, exact =>
    .cons (by decide) ((oneLine_compactChars exact.1).append (oneLine_compactItems exact.2))

/-- So are the other entries of an object. -/
theorem oneLine_compactEntries :
    ∀ {entries : List (String × Value)}, Value.ExactEntries entries →
      OneLine (Value.compactEntries entries)
  | [], _ => by decide
  | (key, _) :: _, exact =>
    .cons (by decide) ((oneLine_stringText key).append (.cons (by decide)
      ((oneLine_compactChars exact.1).append (oneLine_compactEntries exact.2))))

end

end Json

/-! ## Queries -/

/-- An address is one line. -/
theorem IpAddress.oneLine_chars (address : IpAddress) : OneLine address.chars := by
  intro c member
  rcases isCharacter_of_mem_chars member with digit | rfl | rfl
  · exact Hexadecimal.visible_of_digit? digit
  · decide
  · decide

/-- A query is one line. -/
theorem Query.oneLine_chars (query : Query) : OneLine query.chars :=
  query.exporter.shown.oneLine_chars.append (.cons (by decide) (Decimal.oneLine_digits _))

namespace CommandLine

open Json

/-! ### Without an answer -/

/-- The line for a query without an answer is one. -/
theorem oneLine_missingLine (query : Query) : OneLine (missingLine query).toList := by
  unfold missingLine Query.text
  rw [String.toList_append, String.toList_ofList]
  exact query.oneLine_chars.append (by decide)

/-- It tells the query. -/
theorem missingLine_injective : Function.Injective missingLine := by
  intro query other same
  have texts := congrArg String.toList same
  rw [missingLine, missingLine, String.toList_append, String.toList_append,
    List.append_cancel_right_eq] at texts
  exact Query.text_injective (String.toList_inj.1 texts)

/-! ### With an answer -/

/-- The value in the line for an answered query. -/
def answerValue (query : Query) (answer : Answer) : Value :=
  .object
    [ ("exporter", .string query.exporter.shown.text),
      ("if_index", .nat query.index.toNat),
      ("answer", answer.toJson) ]

/-- It is exact. -/
theorem exact_answerValue (query : Query) (answer : Answer) : (answerValue query answer).Exact :=
  ⟨trivial, exact_word32 query.index, answer.exact_toJson, trivial⟩

/-- The line for an answered query is one. -/
theorem oneLine_answerLine (query : Query) (answer : Answer) :
    OneLine (answerLine query answer).toList := by
  unfold answerLine Value.compact
  rw [String.toList_ofList]
  exact oneLine_compactChars (exact_answerValue query answer).sorted

/-- It says the exporter, the index and the answer. -/
theorem read_answerLine (query : Query) (answer : Answer) :
    Document.read (Utf8.symbolsOf (answerLine query answer)) =
      ⟨.object
        [ (.string (some "answer"), .ofValue answer.toJson.sorted),
          (.string (some "exporter"), .string (some query.exporter.shown.text)),
          (.string (some "if_index"), .number (some (.integer query.index.toNat))) ] none,
        false⟩ :=
  Document.read_compact (exact_answerValue query answer).sorted

/-- So it tells the query and the answer. -/
theorem answerLine_injective {query other : Query} {answer further : Answer}
    (same : answerLine query answer = answerLine other further) :
    query = other ∧ answer = further := by
  have read := congrArg (fun line => Document.read (Utf8.symbolsOf line)) same
  simp only [read_answerLine, Document.mk.injEq, Draft.object.injEq, List.cons.injEq,
    Prod.mk.injEq, Draft.string.injEq, Draft.number.injEq, Option.some.injEq,
    Number.integer.injEq, true_and, and_true] at read
  obtain ⟨answers, exporters, indexes⟩ := read
  have exporter := Address.shown_injective
    (IpAddress.chars_injective (String.ofList_injective exporters))
  have index := UInt32.toNat_inj.1 (Int.ofNat.inj indexes)
  constructor
  · cases query
    cases other
    rw [Query.mk.injEq]
    exact ⟨exporter, index⟩
  · have first := answer.reads_sorted 0 .value trivial
    have second := further.reads_sorted 0 .value trivial
    rw [answers, second] at first
    exact (Except.ok.inj first).symm

end CommandLine

end FlowEnrichment
