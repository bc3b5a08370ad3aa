import FlowEnrichment.Binary64
import FlowEnrichment.Text.Decimal
import FlowEnrichment.Text.Hexadecimal

/-!
# Scalars and keys of settings files

The parts of a TOML document that stand on their own: blanks and comments, keys, strings,
numbers, and dates and times. Every reader returns what it read and the text after it, or
nothing if the text is no such part.
-/
namespace FlowEnrichment.Toml

/-! ## Blanks, comments and line ends -/

/-- The text after spaces and tabs. -/
def skipBlanks : List Char → List Char
  | c :: rest => if c = ' ' ∨ c = '\t' then skipBlanks rest else c :: rest
  | [] => []

/-- Whether a character may stand in a comment. -/
def isCommentChar (c : Char) : Bool := c = '\t' || (0x20 ≤ c.toNat && c.toNat ≠ 0x7f)

/-- The text after a comment, if there is one. -/
def skipComment : List Char → List Char
  | '#' :: rest => rest.dropWhile isCommentChar
  | text => text

/-- The text after a line end. -/
def lineEnd? : List Char → Option (List Char)
  | '\n' :: rest => some rest
  | '\r' :: '\n' :: rest => some rest
  | _ => none

/-- The text after blanks, a comment and a line end, or after them at the end of the document. -/
def restOfLine? (text : List Char) : Option (List Char) :=
  match skipComment (skipBlanks text) with
  | [] => some []
  | rest => lineEnd? rest

/-- The text after blanks, comments and line ends. -/
def skipLines (text : List Char) : List Char :=
  go text.length text
where
  /-- Skips with a bound on the number of lines. -/
  go : Nat → List Char → List Char
    | 0, text => text
    | fuel + 1, text =>
      let rest := skipComment (skipBlanks text)
      match lineEnd? rest with
      | some rest => go fuel rest
      | none => rest

/-! ## Strings -/

/-- Whether a character may stand in a string of a line. -/
def isStringChar (c : Char) : Bool := c = '\t' || (0x20 ≤ c.toNat && c.toNat ≠ 0x7f)

/-- The character of some hexadecimal digits. -/
def scalarOf? (digits : List Char) : Option Char := do
  let values ← digits.mapM Hexadecimal.digit?
  let point := values.foldl (fun total digit => total * 16 + digit) 0
  if point.isValidChar then some (Char.ofNat point) else none

/-- Reads an escape after its backslash. -/
def readEscape : List Char → Option (Char × List Char)
  | 'b' :: rest => some ('\x08', rest)
  | 't' :: rest => some ('\t', rest)
  | 'n' :: rest => some ('\n', rest)
  | 'f' :: rest => some ('\x0c', rest)
  | 'r' :: rest => some ('\r', rest)
  | '"' :: rest => some ('"', rest)
  | '\\' :: rest => some ('\\', rest)
  | 'u' :: rest =>
    if rest.length < 4 then none else (scalarOf? (rest.take 4)).map fun c => (c, rest.drop 4)
  | 'U' :: rest =>
    if rest.length < 8 then none else (scalarOf? (rest.take 8)).map fun c => (c, rest.drop 8)
  | _ => none

/-- Reads a string with escapes up to its closing quote; the characters so far come last first. -/
def readBasic : Nat → List Char → List Char → Option (String × List Char)
  | 0, _, _ => none
  | fuel + 1, content, text =>
    match text with
    | '"' :: rest => some (String.ofList content.reverse, rest)
    | '\\' :: rest =>
      match readEscape rest with
      | some (c, rest) => readBasic fuel (c :: content) rest
      | none => none
    | c :: rest => if isStringChar c then readBasic fuel (c :: content) rest else none
    | [] => none

/-- Reads a string without escapes up to its closing quote. -/
def readLiteral (text : List Char) : Option (String × List Char) :=
  match text.span (fun c => isStringChar c && c ≠ '\'') with
  | (content, '\'' :: rest) => some (String.ofList content, rest)
  | _ => none

/-- The text after the rest of a line of blanks and the blank lines after it. -/
def continuation? (text : List Char) : Option (List Char) :=
  (lineEnd? (skipBlanks text)).map skipEmpty
where
  /-- Skips blanks and line ends. -/
  skipEmpty : List Char → List Char
    | '\r' :: '\n' :: rest => skipEmpty rest
    | c :: rest => if c = ' ' ∨ c = '\t' ∨ c = '\n' then skipEmpty rest else c :: rest
    | [] => []

/-- The number of quotes at the front of a text. -/
def countQuotes (quote : Char) (text : List Char) : Nat := (text.takeWhile (· = quote)).length

/-- Reads a string of several lines up to its three closing quotes, before which two more may
stand. -/
def readLines (quote : Char) (escapes : Bool) :
    Nat → List Char → List Char → Option (String × List Char)
  | 0, _, _ => none
  | fuel + 1, content, text =>
    let quotes := countQuotes quote text
    if 3 ≤ quotes then
      let extra := min (quotes - 3) 2
      some (String.ofList (content.reverse ++ List.replicate extra quote), text.drop (extra + 3))
    else if 0 < quotes then
      readLines quote escapes fuel (List.replicate quotes quote ++ content) (text.drop quotes)
    else
      match text with
      | [] => none
      | '\\' :: rest =>
        if escapes then
          match continuation? rest with
          | some rest => readLines quote escapes fuel content rest
          | none =>
            match readEscape rest with
            | some (c, rest) => readLines quote escapes fuel (c :: content) rest
            | none => none
        else readLines quote escapes fuel ('\\' :: content) rest
      | c :: rest =>
        match lineEnd? (c :: rest) with
        | some rest => readLines quote escapes fuel ('\n' :: content) rest
        | none => if isStringChar c then readLines quote escapes fuel (c :: content) rest else none

/-- The text without a line end at its front. -/
def dropLineEnd (text : List Char) : List Char := (lineEnd? text).getD text

/-- Reads a string of one line. -/
def readLineString : List Char → Option (String × List Char)
  | '"' :: rest => readBasic (rest.length + 1) [] rest
  | '\'' :: rest => readLiteral rest
  | _ => none

/-- Reads a string of any kind. -/
def readString : List Char → Option (String × List Char)
  | '"' :: '"' :: '"' :: rest => readLines '"' true (rest.length + 1) [] (dropLineEnd rest)
  | '\'' :: '\'' :: '\'' :: rest => readLines '\'' false (rest.length + 1) [] (dropLineEnd rest)
  | text => readLineString text

/-! ## Keys -/

/-- Whether a character may stand in a key without quotes. -/
def isBareChar (c : Char) : Bool := c.isAlphanum || c = '_' || c = '-'

/-- Reads one name of a key. -/
def readName (text : List Char) : Option (String × List Char) :=
  match text.span isBareChar with
  | ([], _) => readLineString text
  | (name, rest) => some (String.ofList name, rest)

/-- Reads the names of a key, between which points and blanks stand. -/
def readKey : Nat → List Char → Option (List String × List Char)
  | 0, _ => none
  | fuel + 1, text =>
    match readName (skipBlanks text) with
    | none => none
    | some (name, rest) =>
      match skipBlanks rest with
      | '.' :: rest =>
        match readKey fuel rest with
        | some (names, rest) => some (name :: names, rest)
        | none => none
      | rest => some ([name], rest)

/-! ## Numbers -/

/-- The digits of a numeral in which single underscores stand between digits. -/
def plainDigits? (isDigit : Char → Bool) : List Char → Option (List Char)
  | [] => none
  | [c] => if isDigit c then some [c] else none
  | c :: '_' :: rest => if isDigit c then (plainDigits? isDigit rest).map (c :: ·) else none
  | c :: rest => if isDigit c then (plainDigits? isDigit rest).map (c :: ·) else none

/-- The value of digits in a base. -/
def valueOf (base : Nat) (digits : List Char) : Nat :=
  digits.foldl (fun total c => total * base + (Hexadecimal.digit? c).getD 0) 0

/-- A sign and the text after it. -/
def splitSign : List Char → Bool × List Char
  | '-' :: rest => (true, rest)
  | '+' :: rest => (false, rest)
  | text => (false, text)

/-- The digits of a decimal numeral without a leading zero. -/
def wholeDigits? (text : List Char) : Option (List Char) :=
  match plainDigits? Decimal.isDigit text with
  | some ('0' :: _ :: _) => none
  | digits => digits

/-- Whether a character is a digit of a base of at most sixteen. -/
def isDigitOf (base : Nat) (c : Char) : Bool :=
  match Hexadecimal.digit? c with
  | some digit => digit < base
  | none => false

/-- The integer that a word is, of sixty-four bits. -/
def integer? (word : List Char) : Option Int :=
  let inRange (n : Int) : Option Int :=
    if -(UInt64.size / 2) ≤ n ∧ n < UInt64.size / 2 then some n else none
  let based (base : Nat) (digits : List Char) : Option Int :=
    (plainDigits? (isDigitOf base) digits).bind fun digits => inRange (valueOf base digits)
  match word with
  | '0' :: 'x' :: digits => based 16 digits
  | '0' :: 'o' :: digits => based 8 digits
  | '0' :: 'b' :: digits => based 2 digits
  | word =>
    let (negative, digits) := splitSign word
    (wholeDigits? digits).bind fun digits =>
      let n : Int := valueOf 10 digits
      inRange (if negative then -n else n)

/-- The exponent that a word is. -/
def exponent? (word : List Char) : Option Int :=
  let (negative, digits) := splitSign word
  (plainDigits? Decimal.isDigit digits).map fun digits =>
    let n : Int := valueOf 10 digits
    if negative then -n else n

/-- The bits of a number that is none. -/
def notANumber : Binary64 := ⟨0x7ff8000000000000⟩

/-- The floating point number that a word is. -/
def float? (word : List Char) : Option Binary64 :=
  let (negative, body) := splitSign word
  let signed (x : Binary64) : Binary64 := if negative then x.neg else x
  if body = ['i', 'n', 'f'] then some (signed .infinity)
  else if body = ['n', 'a', 'n'] then some (signed notANumber)
  else
    let (mantissa, power) := body.span fun c => c ≠ 'e' ∧ c ≠ 'E'
    let (whole, fraction) := mantissa.span (· ≠ '.')
    if power = [] ∧ fraction = [] then none else do
      let whole ← wholeDigits? whole
      let fraction ←
        if fraction = [] then some [] else plainDigits? Decimal.isDigit (fraction.drop 1)
      let power ← if power = [] then some 0 else exponent? (power.drop 1)
      let x := signed (.ofDecimal (valueOf 10 (whole ++ fraction)) (power - fraction.length))
      if x = .infinity then none else some x

/-! ## Dates and times -/

/-- The number that exactly so many digits write. -/
def fixed? (width : Nat) (text : List Char) : Option Nat :=
  if text.length = width ∧ text.all Decimal.isDigit then some (valueOf 10 text) else none

/-- The number of days of a month. -/
def daysOf (year month : Nat) : Nat :=
  if month = 2 then
    if (year % 4 = 0 ∧ year % 100 ≠ 0) ∨ year % 400 = 0 then 29 else 28
  else if month = 4 ∨ month = 6 ∨ month = 9 ∨ month = 11 then 30
  else 31

/-- Whether a word is a date. -/
def isDate (word : List Char) : Bool :=
  word.length == 10 && word[4]? == some '-' && word[7]? == some '-' &&
  match fixed? 4 (word.take 4), fixed? 2 ((word.drop 5).take 2), fixed? 2 (word.drop 8) with
  | some year, some month, some day => 1 ≤ month && month ≤ 12 && 1 ≤ day && day ≤ daysOf year month
  | _, _, _ => false

/-- The nanosecond digits of a fraction of a second, without zeros at the end. -/
def fractionText (digits : List Char) : List Char :=
  let kept := ((digits.take 9).reverse.dropWhile (· = '0')).reverse
  if kept = [] then [] else '.' :: kept

/-- The written form of a time of day. -/
def timeText? (word : List Char) : Option (List Char) :=
  if word[2]? ≠ some ':' ∨ word[5]? ≠ some ':' then none else
  match fixed? 2 (word.take 2), fixed? 2 ((word.drop 3).take 2),
    fixed? 2 ((word.drop 6).take 2) with
  | some hour, some minute, some second =>
    if 23 < hour ∨ 59 < minute ∨ 60 < second then none else
    match word.drop 8 with
    | [] => some (word.take 8)
    | '.' :: digits =>
      if digits ≠ [] ∧ digits.all Decimal.isDigit then some (word.take 8 ++ fractionText digits)
      else none
    | _ => none
  | _, _, _ => none

/-- The written form of an offset from universal time. -/
def offsetText? (word : List Char) : Option (List Char) :=
  match word with
  | ['Z'] | ['z'] => some ['Z']
  | sign :: rest =>
    if (sign = '+' ∨ sign = '-') ∧ rest.length = 5 ∧ rest[2]? = some ':' then
      match fixed? 2 (rest.take 2), fixed? 2 (rest.drop 3) with
      | some hour, some minute => if hour ≤ 23 ∧ minute ≤ 59 then some word else none
      | _, _ => none
    else none
  | [] => none

/-- The written form of a time of day with or without an offset. -/
def timeWithOffset? (word : List Char) : Option (List Char) :=
  let (time, offset) := word.span fun c => c ≠ 'Z' ∧ c ≠ 'z' ∧ c ≠ '+' ∧ c ≠ '-'
  do
    let time ← timeText? time
    let offset ← if offset = [] then some [] else offsetText? offset
    return time ++ offset

/-- The written form of the date, time or both that a word is. -/
def moment? (word : List Char) : Option String :=
  if isDate word then some (String.ofList word)
  else if isDate (word.take 10) then
    match word.drop 10 with
    | mark :: time =>
      if mark = 'T' ∨ mark = 't' ∨ mark = ' ' then
        (timeWithOffset? time).map fun time => String.ofList (word.take 10 ++ 'T' :: time)
      else none
    | [] => none
  else (timeText? word).map String.ofList

/-! ## Words -/

/-- Whether a character may stand in a number or a moment. -/
def isWordChar (c : Char) : Bool :=
  c.isAlphanum || c = '_' || c = '+' || c = '-' || c = ':' || c = '.'

/-- Reads a word; a date takes in a time after a space. -/
def readWord (text : List Char) : List Char × List Char :=
  match text.span isWordChar with
  | (word, ' ' :: a :: b :: ':' :: rest) =>
    if isDate word ∧ Decimal.isDigit a ∧ Decimal.isDigit b then
      let (time, rest) := (a :: b :: ':' :: rest).span isWordChar
      (word ++ ' ' :: time, rest)
    else (word, ' ' :: a :: b :: ':' :: rest)
  | found => found

end FlowEnrichment.Toml
