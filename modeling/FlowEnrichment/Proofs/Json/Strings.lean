import FlowEnrichment.Json.Reader
import FlowEnrichment.Proofs.Text.Numerals

/-!
# Reading written strings and numbers

The reader takes back what the writer makes of a string, character by character, and of an
integer of at most sixty-four bits. A string ends at its quote whatever follows; a number ends
where the text goes on with something that cannot belong to it.
-/
namespace FlowEnrichment.Json

open Utf8 (Symbol)

/-! ## Strings -/

/-- The hexadecimal digits of an escape are read as its unit. -/
theorem hexUnit_fourHexDigits {n : Nat} (small : n < 65536) (rest : List Symbol) :
    hexUnit ((fourHexDigits n).map some ++ rest) = .ok n := by
  have long : ¬ Utf8.byteLength ((fourHexDigits n).map some ++ rest) < 4 := by
    have first := Char.utf8Size_pos (Nat.digitChar (n / 4096 % 16))
    have second := Char.utf8Size_pos (Nat.digitChar (n / 256 % 16))
    have third := Char.utf8Size_pos (Nat.digitChar (n / 16 % 16))
    have fourth := Char.utf8Size_pos (Nat.digitChar (n % 16))
    simp only [fourHexDigits, List.map_cons, List.map_nil, List.cons_append, List.nil_append,
      Utf8.byteLength, Option.map_some, Option.getD_some]
    omega
  have digit (m : Nat) : symbolDigit? (some (Nat.digitChar (m % 16))) = some (m % 16) :=
    Hexadecimal.digit?_digitChar (Nat.mod_lt m (by decide))
  unfold hexUnit
  rw [if_neg long]
  simp only [fourHexDigits, List.map_cons, List.map_nil, List.cons_append, List.nil_append, digit]
  congr 1
  omega

/-- An escaped character that is no half of a pair stands for itself. -/
theorem pushUnit_of_lt {state : StringState} (whole : state.pending = none) {c : Char}
    (small : c.toNat < 0xd800) : state.pushUnit c.toNat = state.push c := by
  have high : ¬ (0xd800 ≤ c.toNat ∧ c.toNat ≤ 0xdbff) := by omega
  have low : ¬ (0xdc00 ≤ c.toNat ∧ c.toNat ≤ 0xdfff) := by omega
  simp only [StringState.pushUnit, StringState.push, whole, if_neg high, if_neg low,
    Char.ofNat_toNat, Option.isSome_none, Bool.or_false]

/-! ### One character -/

/-- A quote ends the string. -/
theorem readString_quote (state : StringState) (rest : List Symbol) :
    readString state (some '"' :: rest) = (state.close, some rest) := by
  rw [readString.eq_def]
  simp

/-- A letter after a backslash is read as the character that it means. -/
theorem readString_simpleEscape {state : StringState} {letter c : Char} (simple : letter ≠ 'u')
    (means : simpleEscape? letter = some c) (rest : List Symbol) :
    readString state (some '\\' :: some letter :: rest) = readString (state.push c) rest := by
  rw [readString.eq_def]
  simp [simple, means]

/-- Four hexadecimal digits are read as the control character that they number. -/
theorem readString_unit {state : StringState} (whole : state.pending = none) {c : Char}
    (control : c.toNat < 0x20) (rest : List Symbol) :
    readString state (some '\\' :: some 'u' :: ((fourHexDigits c.toNat).map some ++ rest)) =
      readString (state.push c) rest := by
  have unit := hexUnit_fourHexDigits (show c.toNat < 65536 by omega) rest
  have char := pushUnit_of_lt whole (show c.toNat < 0xd800 by omega)
  have after : ((fourHexDigits c.toNat).map some ++ rest).drop 4 = rest := by simp [fourHexDigits]
  rw [readString.eq_def]
  simp [unit, char, after]

/-- Any other character is read as itself. -/
theorem readString_visible {state : StringState} {c : Char} (quote : c ≠ '"')
    (backslash : c ≠ '\\') (visible : ¬ c.toNat < 0x20) (rest : List Symbol) :
    readString state (some c :: rest) = readString (state.push c) rest := by
  rw [readString.eq_def]
  simp only [quote, backslash, visible, if_false]

/-- A character of a string is read as itself in whichever way it is written. -/
theorem readString_escapedChar {state : StringState} (whole : state.pending = none) (c : Char)
    (rest : List Symbol) :
    readString state ((escapedChar c).map some ++ rest) = readString (state.push c) rest := by
  -- The cases are those of the writer; all but the last two are letters after a backslash.
  unfold escapedChar
  by_cases quote : c = '"'
  · rw [if_pos quote, quote]
    exact readString_simpleEscape (by decide) (by decide) rest
  rw [if_neg quote]
  by_cases backslash : c = '\\'
  · rw [if_pos backslash, backslash]
    exact readString_simpleEscape (by decide) (by decide) rest
  rw [if_neg backslash]
  by_cases newline : c = '\n'
  · rw [if_pos newline, newline]
    exact readString_simpleEscape (by decide) (by decide) rest
  rw [if_neg newline]
  by_cases carriage : c = '\r'
  · rw [if_pos carriage, carriage]
    exact readString_simpleEscape (by decide) (by decide) rest
  rw [if_neg carriage]
  by_cases tab : c = '\t'
  · rw [if_pos tab, tab]
    exact readString_simpleEscape (by decide) (by decide) rest
  rw [if_neg tab]
  by_cases backspace : c = '\x08'
  · rw [if_pos backspace, backspace]
    exact readString_simpleEscape (by decide) (by decide) rest
  rw [if_neg backspace]
  by_cases feed : c = '\x0c'
  · rw [if_pos feed, feed]
    exact readString_simpleEscape (by decide) (by decide) rest
  rw [if_neg feed]
  by_cases control : c.toNat < 0x20
  · rw [if_pos control]
    exact readString_unit whole control rest
  · rw [if_neg control]
    exact readString_visible quote backslash control rest

/-! ### Whole strings -/

/-- The characters of a written string are read one after the other. -/
theorem readString_flatMap (chars : List Char) {state : StringState}
    (whole : state.pending = none) (rest : List Symbol) :
    readString state ((chars.flatMap escapedChar).map some ++ rest) =
      readString { state with content := chars.reverse ++ state.content } rest := by
  induction chars generalizing state with
  | nil => rfl
  | cons c chars ih =>
    rw [List.flatMap_cons, List.map_append, List.append_assoc, readString_escapedChar whole,
      @ih (state.push c) rfl]
    simp [StringState.push, whole]

/-- A written string is read back after its opening quote, up to its closing one. -/
theorem readString_stringText (text : String) (rest : List Symbol) :
    readString {} ((text.toList.flatMap escapedChar ++ ['"']).map some ++ rest) =
      (.string (some text), some rest) := by
  rw [List.map_append, List.append_assoc, readString_flatMap _ rfl, List.map_cons, List.map_nil,
    List.cons_append, List.nil_append, readString_quote]
  simp [StringState.close]

end FlowEnrichment.Json
