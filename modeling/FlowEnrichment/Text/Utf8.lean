/-!
# UTF-8

Files hold bytes; formats read characters. A byte text is read as a list of symbols: a symbol
is a character, or nothing for a byte that belongs to no character. Malformed bytes therefore
stay where they are, so that a reader which skips over them can still go on.
-/
namespace FlowEnrichment.Utf8

/-- A character of a byte text, or nothing for a byte that belongs to no character. -/
abbrev Symbol := Option Char

/-- The bytes of a text. -/
def encode (text : String) : List UInt8 := text.toList.flatMap String.utf8EncodeChar

/-- The character that the first bytes of a byte text encode. -/
def firstChar? (bytes : List UInt8) : Option Char := (bytes.take 4).toByteArray.utf8DecodeChar? 0

/-- The symbols of a byte text. -/
def symbols : List UInt8 → List Symbol
  | [] => []
  | byte :: rest =>
    match firstChar? (byte :: rest) with
    | some c => some c :: symbols (rest.drop (c.utf8Size - 1))
    | none => none :: symbols rest
termination_by bytes => bytes.length
decreasing_by all_goals simp; try omega

/-- The symbols of a text, every one a character. -/
def symbolsOf (text : String) : List Symbol := text.toList.map some

/-- The text that symbols spell, if every symbol is a character. -/
def spell? (symbols : List Symbol) : Option String := (symbols.mapM id).map String.ofList

/-- The text that bytes encode, if they are well-formed. -/
def decode? (bytes : List UInt8) : Option String := spell? (symbols bytes)

/-- The number of bytes that symbols take up. -/
def byteLength : List Symbol → Nat
  | [] => 0
  | symbol :: rest => (symbol.map Char.utf8Size).getD 1 + byteLength rest

end FlowEnrichment.Utf8
