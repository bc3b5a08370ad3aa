import FlowEnrichment.Json.Value
import FlowEnrichment.Text.Decimal

/-!
# The text of a value

`Value.compact` writes a value without any blank, `Value.pretty` on lines indented by two
spaces. In a string only the quote, the backslash and the control characters are escaped.
-/
namespace FlowEnrichment.Json

/-- The four hexadecimal digits of a number below 65536. -/
def fourHexDigits (n : Nat) : List Char :=
  [n / 4096 % 16, n / 256 % 16, n / 16 % 16, n % 16].map Nat.digitChar

/-- One character inside a string. -/
def escapedChar (c : Char) : List Char :=
  if c = '"' then ['\\', '"']
  else if c = '\\' then ['\\', '\\']
  else if c = '\n' then ['\\', 'n']
  else if c = '\r' then ['\\', 'r']
  else if c = '\t' then ['\\', 't']
  else if c = '\x08' then ['\\', 'b']
  else if c = '\x0c' then ['\\', 'f']
  else if c.toNat < 0x20 then '\\' :: 'u' :: fourHexDigits c.toNat
  else [c]

/-- A string between its quotes. -/
def stringText (text : String) : List Char := '"' :: (text.toList.flatMap escapedChar ++ ['"'])

/-- An integer in decimal digits. -/
def integerText (n : Int) : List Char :=
  if n < 0 then '-' :: Decimal.digits n.natAbs else Decimal.digits n.natAbs

/-- A number. -/
def Number.text : Number → List Char
  | .integer n => integerText n
  | .float x => x.text

namespace Value

mutual

/-- A value without blanks. -/
def compactChars : Value → List Char
  | .null => "null".toList
  | .bool true => "true".toList
  | .bool false => "false".toList
  | .number n => n.text
  | .string s => stringText s
  | .array [] => ['[', ']']
  | .array (item :: rest) => '[' :: (compactChars item ++ compactItems rest)
  | .object [] => ['\x7b', '\x7d']
  | .object ((key, value) :: rest) =>
    '\x7b' :: (stringText key ++ ':' :: (compactChars value ++ compactEntries rest))

/-- The items of an array after the first, and its end. -/
def compactItems : List Value → List Char
  | [] => [']']
  | item :: rest => ',' :: (compactChars item ++ compactItems rest)

/-- The entries of an object after the first, and its end. -/
def compactEntries : List (String × Value) → List Char
  | [] => ['\x7d']
  | (key, value) :: rest =>
    ',' :: (stringText key ++ ':' :: (compactChars value ++ compactEntries rest))

end

/-- The text of a value without blanks. -/
def compact (value : Value) : String := String.ofList value.compactChars

/-- A line break and the indentation of a nesting depth. -/
def newLine (depth : Nat) : List Char := '\n' :: List.replicate (2 * depth) ' '

mutual

/-- A value on indented lines. -/
def prettyChars (depth : Nat) : Value → List Char
  | .array [] => ['[', ']']
  | .array (item :: rest) =>
    '[' :: (newLine (depth + 1) ++ prettyChars (depth + 1) item ++ prettyItems depth rest)
  | .object [] => ['\x7b', '\x7d']
  | .object ((key, value) :: rest) =>
    '\x7b' :: (newLine (depth + 1) ++ stringText key ++ ':' :: ' ' ::
      (prettyChars (depth + 1) value ++ prettyEntries depth rest))
  | value => value.compactChars

/-- The lines of an array after its first item. -/
def prettyItems (depth : Nat) : List Value → List Char
  | [] => newLine depth ++ [']']
  | item :: rest =>
    ',' :: (newLine (depth + 1) ++ prettyChars (depth + 1) item ++ prettyItems depth rest)

/-- The lines of an object after its first entry. -/
def prettyEntries (depth : Nat) : List (String × Value) → List Char
  | [] => newLine depth ++ ['\x7d']
  | (key, value) :: rest =>
    ',' :: (newLine (depth + 1) ++ stringText key ++ ':' :: ' ' ::
      (prettyChars (depth + 1) value ++ prettyEntries depth rest))

end

/-- The text of a value on indented lines. -/
def pretty (value : Value) : String := String.ofList (value.prettyChars 0)

end Value

end FlowEnrichment.Json
