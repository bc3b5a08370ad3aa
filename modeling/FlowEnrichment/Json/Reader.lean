import FlowEnrichment.Json.Draft
import FlowEnrichment.Text.Hexadecimal
import FlowEnrichment.Text.Utf8

/-!
# Reading the text of a document

The reader turns symbols into a draft. It stops at the first fault that no reader of the draft
can pass and leaves the fault there; scalars that can be passed over but not read leave the
reading going on. The amount of text bounds the recursion, because every value takes at least
one symbol.
-/
namespace FlowEnrichment.Json

open Utf8 (Symbol)

/-- The symbols after leading blanks. -/
def skipBlank : List Symbol → List Symbol
  | some c :: rest =>
    if c = ' ' ∨ c = '\n' ∨ c = '\t' ∨ c = '\r' then skipBlank rest else some c :: rest
  | text => text

/-! ## Strings -/

/-- The value of a symbol as a hexadecimal digit. -/
def symbolDigit? (symbol : Symbol) : Option Nat := symbol.bind Hexadecimal.digit?

/-- The unit that four hexadecimal digits write. Too little text is a text that ends early,
whatever it holds. -/
def hexUnit (text : List Symbol) : Except Fault Nat :=
  if Utf8.byteLength text < 4 then .error .truncated
  else match text with
    | a :: b :: c :: d :: _ =>
      match symbolDigit? a, symbolDigit? b, symbolDigit? c, symbolDigit? d with
      | some a, some b, some c, some d => .ok (a * 4096 + b * 256 + c * 16 + d)
      | _, _, _, _ => .error .malformed
    | _ => .error .malformed

/-- The character of a one-letter escape. -/
def simpleEscape? (c : Char) : Option Char :=
  if c = '"' ∨ c = '\\' ∨ c = '/' then some c
  else if c = 'b' then some '\x08'
  else if c = 'f' then some '\x0c'
  else if c = 'n' then some '\n'
  else if c = 'r' then some '\r'
  else if c = 't' then some '\t'
  else none

/-- What is known of a string while its symbols are read. -/
structure StringState where
  /-- The characters read so far, the last one first. -/
  content : List Char := []
  /-- A leading surrogate that waits for its other half. -/
  pending : Option Nat := none
  /-- An escape has been met that makes reading fail where it stands. -/
  unpaired : Bool := false
  /-- A byte has been met that belongs to no character. -/
  stray : Bool := false

namespace StringState

/-- A character that is written as itself or as a one-letter escape. -/
def push (state : StringState) (c : Char) : StringState :=
  { state with
    content := c :: state.content
    pending := none
    unpaired := state.unpaired || state.pending.isSome }

/-- An escaped unit: a character of its own, or half of a pair. -/
def pushUnit (state : StringState) (unit : Nat) : StringState :=
  match state.pending with
  | some high =>
    if 0xdc00 ≤ unit ∧ unit ≤ 0xdfff then
      { state with
        content := Char.ofNat ((high - 0xd800) * 1024 + (unit - 0xdc00) + 0x10000) :: state.content
        pending := none }
    else { state with pending := none, unpaired := true }
  | none =>
    if 0xd800 ≤ unit ∧ unit ≤ 0xdbff then { state with pending := some unit }
    else if 0xdc00 ≤ unit ∧ unit ≤ 0xdfff then { state with unpaired := true }
    else { state with content := Char.ofNat unit :: state.content }

/-- A byte that belongs to no character. -/
def pushStray (state : StringState) : StringState :=
  { state with pending := none, unpaired := state.unpaired || state.pending.isSome, stray := true }

/-- The string at its closing quote. -/
def close (state : StringState) : Draft :=
  if state.unpaired ∨ state.pending.isSome ∨ state.stray then .string none
  else .string (some (String.ofList state.content.reverse))

/-- The string whose reading stops at a fault; an unpaired half has failed before. -/
def stop (state : StringState) (fault : Fault) : Draft :=
  let read := if state.unpaired then .malformed else fault
  .broken ⟨read, fault, read⟩

end StringState

/-- Reads a string after its opening quote. -/
def readString (state : StringState) : List Symbol → Draft × Option (List Symbol)
  | [] => (state.stop .truncated, none)
  | none :: rest => readString state.pushStray rest
  | some c :: rest =>
    if c = '"' then (state.close, some rest)
    else if c = '\\' then
      match rest with
      | [] => (state.stop .truncated, none)
      | none :: _ => ((state.stop .malformed), none)
      | some e :: rest =>
        if e = 'u' then
          match hexUnit rest with
          | .error fault => (state.stop fault, none)
          | .ok unit => readString (state.pushUnit unit) (rest.drop 4)
        else
          match simpleEscape? e with
          | some c => readString (state.push c) rest
          | none => (state.stop .malformed, none)
    else if c.toNat < 0x20 then
      ({ state with unpaired := state.unpaired || state.pending.isSome }.stop .malformed, none)
    else readString (state.push c) rest
termination_by text => text.length
decreasing_by all_goals simp; try omega

/-! ## Numbers -/

/-- The leading digits of a text, and the text after them. -/
def spanDigits : List Symbol → List Char × List Symbol
  | some c :: rest =>
    if Decimal.isDigit c then
      let (digits, rest) := spanDigits rest
      (c :: digits, rest)
    else ([], some c :: rest)
  | text => ([], text)

/-- The greatest integer of sixty-four bits. -/
def maxWord : Nat := UInt64.size - 1

/-- Takes in digits until the next would exceed sixty-four bits; the number so far, and the
digits that are left. -/
def takeDigits (total : Nat) : List Char → Nat × List Char
  | [] => (total, [])
  | c :: rest =>
    let next := total * 10 + (c.toNat - '0'.toNat)
    if maxWord < next then (total, c :: rest) else takeDigits next rest

/-- Divides or multiplies by powers of ten of at most 308 digits, rounding after each; nothing if
the number is too large. -/
def scaleDecimal : Nat → Binary64 → Int → Option Binary64
  | 0, x, _ => some x
  | fuel + 1, x, exponent =>
    if exponent.natAbs ≤ 308 then
      let power := Binary64.ofNat (Nat.pow 10 exponent.natAbs)
      if 0 ≤ exponent then
        let product := x.mul power
        if product.isFinite then some product else none
      else some (x.div power)
    else if x.isZero then some x
    else if 0 ≤ exponent then none
    else scaleDecimal fuel (x.div (Binary64.ofNat (Nat.pow 10 308))) (exponent + 308)

/-- The floating point number of a decimal significand and exponent; nothing if it is too large.
The significand is rounded first, and the scaling rounds again. -/
def floatOf (negative : Bool) (significand : Nat) (exponent : Int) : Option Number :=
  (scaleDecimal 4 (Binary64.ofNat significand) exponent).map fun x =>
    .float (if negative then x.neg else x)

/-- The greatest exponent that is counted with. -/
def maxExponent : Nat := UInt32.size / 2 - 1

/-- The number that a sign, whole digits, digits after the point and an exponent write; nothing
if no numeric type holds it. -/
def numberOf (negative : Bool) (whole : List Char) (fraction : Option (List Char))
    (power : Option (Bool × List Char)) : Option Number :=
  let (significand, dropped) := takeDigits 0 whole
  match fraction, power, dropped with
  | none, none, [] =>
    if negative then
      if significand = 0 ∨ UInt64.size / 2 < significand then floatOf true significand 0
      else some (.integer (-significand))
    else some (.integer significand)
  | _, _, _ =>
    let digits := fraction.getD []
    let (significand, left) := takeDigits significand digits
    let start : Int := (dropped.length : Int) - (digits.length - left.length : Nat)
    match power with
    | none => floatOf negative significand start
    | some (down, digits) =>
      let size := Decimal.value 0 digits
      if maxExponent < size then
        if significand ≠ 0 ∧ !down then none
        else floatOf negative 0 0
      else
        let total := if down then start - size else start + size
        floatOf negative significand (max (-(maxExponent : Int) - 1) (min maxExponent total))

/-- The number in place of which a digit is missing: a reader of the number that finds no text
reports its end, and one that passes over it a broken number. -/
def missingDigit (text : List Symbol) : Draft :=
  match text with
  | [] => .cut .truncated .malformed
  | _ => .cut .malformed .malformed

/-- Reads the exponent of a number, after its mark. -/
def readExponent (negative : Bool) (whole : List Char) (fraction : Option (List Char))
    (text : List Symbol) : Draft × Option (List Symbol) :=
  let (down, text) :=
    match text with
    | some '-' :: rest => (true, rest)
    | some '+' :: rest => (false, rest)
    | text => (false, text)
  match spanDigits text with
  | ([], rest) => (missingDigit rest, none)
  | (digits, rest) => (.number (numberOf negative whole fraction (some (down, digits))), some rest)

/-- Reads what follows the mantissa of a number. -/
def readMantissaEnd (negative : Bool) (whole : List Char) (fraction : Option (List Char)) :
    List Symbol → Draft × Option (List Symbol)
  | some 'e' :: rest | some 'E' :: rest => readExponent negative whole fraction rest
  | rest => (.number (numberOf negative whole fraction none), some rest)

/-- Reads a number after its sign. -/
def readNumber (negative : Bool) (text : List Symbol) : Draft × Option (List Symbol) :=
  match spanDigits text with
  | ([], rest) => (missingDigit rest, none)
  | ('0' :: _ :: _, _) => (.cut .malformed .malformed, none)
  | (whole, some '.' :: rest) =>
    match spanDigits rest with
    | ([], rest) => (missingDigit rest, none)
    | (fraction, rest) => readMantissaEnd negative whole (some fraction) rest
  | (whole, rest) => readMantissaEnd negative whole none rest

/-! ## Documents -/

/-- Reads the letters of a word. -/
def readWord (meaning : Draft) : List Char → List Symbol → Draft × Option (List Symbol)
  | [], text => (meaning, some text)
  | _ :: _, [] => (.cut .truncated .truncated, none)
  | expected :: letters, found :: rest =>
    if found = some expected then readWord meaning letters rest
    else (.cut .malformed .malformed, none)

mutual

/-- Reads a value. -/
def readValue : Nat → List Symbol → Draft × Option (List Symbol)
  | 0, _ => (.absent .truncated, none)
  | fuel + 1, text =>
    match skipBlank text with
    | [] => (.absent .truncated, none)
    | none :: _ => (.absent .malformed, none)
    | some c :: rest =>
      if c = '"' then readString {} rest
      else if c = '[' then
        match skipBlank rest with
        | some ']' :: rest => (.array [] none, some rest)
        | _ =>
          let (items, ending, rest) := readItems fuel rest
          (.array items ending, rest)
      else if c = '\x7b' then
        match skipBlank rest with
        | some '\x7d' :: rest => (.object [] none, some rest)
        | rest =>
          let (entries, ending, rest) := readEntries fuel rest
          (.object entries ending, rest)
      else if c = '-' then readNumber true rest
      else if Decimal.isDigit c then readNumber false (some c :: rest)
      else if c = 't' then readWord (.bool true) ['r', 'u', 'e'] rest
      else if c = 'f' then readWord (.bool false) ['a', 'l', 's', 'e'] rest
      else if c = 'n' then readWord .null ['u', 'l', 'l'] rest
      else (.absent .malformed, none)

/-- Reads the items of an array up to its end. -/
def readItems : Nat → List Symbol → List Draft × Option Fault × Option (List Symbol)
  | 0, _ => ([], some .truncated, none)
  | fuel + 1, text =>
    match readValue fuel text with
    | (item, none) => ([item], none, none)
    | (item, some rest) =>
      match skipBlank rest with
      | [] => ([item], some .truncated, none)
      | some ']' :: rest => ([item], none, some rest)
      | some ',' :: rest =>
        match skipBlank rest with
        | some ']' :: _ => ([item, .absent .malformed], none, none)
        | _ =>
          let (items, ending, rest) := readItems fuel rest
          (item :: items, ending, rest)
      | _ => ([item], some .malformed, none)

/-- Reads the entries of an object from where its first key should be up to its end. -/
def readEntries : Nat → List Symbol → List (Draft × Draft) × Option Fault × Option (List Symbol)
  | 0, _ => ([], some .truncated, none)
  | fuel + 1, text =>
    match text with
    | [] => ([], some .truncated, none)
    | some '"' :: rest =>
      match readString {} rest with
      | (key, none) => ([(key, .absent .malformed)], none, none)
      | (key, some rest) =>
        match skipBlank rest with
        | [] => ([(key, .absent .truncated)], none, none)
        | some ':' :: rest =>
          match readValue fuel rest with
          | (value, none) => ([(key, value)], none, none)
          | (value, some rest) =>
            match skipBlank rest with
            | [] => ([(key, value)], some .truncated, none)
            | some '\x7d' :: rest => ([(key, value)], none, some rest)
            | some ',' :: rest =>
              match skipBlank rest with
              | [] => ([(key, value), Draft.noKey .truncated], none, none)
              | some '"' :: rest =>
                let (entries, ending, rest) := readEntries fuel (some '"' :: rest)
                ((key, value) :: entries, ending, rest)
              | _ => ([(key, value), Draft.noKey .malformed], none, none)
            | _ => ([(key, value)], some .malformed, none)
        | _ => ([(key, .absent .malformed)], none, none)
    | text => ([((readValue fuel text).1, .absent .malformed)], none, none)

end

/-- A whole text: its draft, and whether anything but blanks follows it. -/
structure Document where
  /-- What the text says. -/
  root : Draft
  /-- Whether there is more text. -/
  trailing : Bool
  deriving Repr

/-- Reads a whole text. -/
def Document.read (text : List Symbol) : Document :=
  match readValue (2 * text.length + 1) text with
  | (root, none) => ⟨root, false⟩
  | (root, some rest) => ⟨root, !(skipBlank rest).isEmpty⟩

end FlowEnrichment.Json
