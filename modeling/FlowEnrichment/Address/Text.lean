import FlowEnrichment.Address
import FlowEnrichment.Text.Hexadecimal

/-!
# The text of an address

IPv4 addresses are four decimal parts without leading zeros. IPv6 addresses are hexadecimal
groups; on output the first longest run of two or more zero groups is written as two colons and
a mapped form ends in its IPv4 address, on input any one run may be left out and the last two
groups may be written as an IPv4 address.
-/
namespace FlowEnrichment

/-! ## Writing -/

namespace Ipv4

/-- The four parts in decimal, between points. -/
def chars (address : Ipv4) : List Char :=
  Decimal.digits (address.part 0) ++ '.' :: (Decimal.digits (address.part 1) ++ '.' ::
    (Decimal.digits (address.part 2) ++ '.' :: Decimal.digits (address.part 3)))

end Ipv4

namespace Address

/-- Groups in hexadecimal, between colons. -/
def groupsText : List Nat → List Char
  | [] => []
  | [group] => Hexadecimal.digits group
  | group :: rest => Hexadecimal.digits group ++ ':' :: groupsText rest

/-- The number of zeros at the front. -/
def leadingZeros (groups : List Nat) : Nat := (groups.takeWhile (· == 0)).length

/-- The first longest run of zeros, as its position and its length. -/
def longestZeroRun (groups : List Nat) : Nat × Nat :=
  (List.range groups.length).foldl
    (fun best index =>
      let count := leadingZeros (groups.drop index)
      if best.2 < count then (index, count) else best)
    (0, 0)

/-- The text of an address. -/
def chars (address : Address) : List Char :=
  match address.unmapped? with
  | some v4 => [':', ':', 'f', 'f', 'f', 'f', ':'] ++ v4.chars
  | none =>
    let groups := address.groups
    let (start, count) := longestZeroRun groups
    if 1 < count then
      groupsText (groups.take start) ++ ':' :: ':' :: groupsText (groups.drop (start + count))
    else groupsText groups

/-- The text of an address. -/
def text (address : Address) : String := String.ofList address.chars

end Address

/-- The text of an address of either family. -/
def IpAddress.chars : IpAddress → List Char
  | .v4 address => address.chars
  | .v6 address => address.chars

/-- The text of an address of either family. -/
def IpAddress.text (address : IpAddress) : String := String.ofList address.chars

/-! ## Reading -/

/-- The values of the leading digits, and the text after them. -/
def spanValues (digit? : Char → Option Nat) : List Char → List Nat × List Char
  | [] => ([], [])
  | c :: rest =>
    match digit? c with
    | some value =>
      let (values, rest) := spanValues digit? rest
      (value :: values, rest)
    | none => ([], c :: rest)

/-- The number that digits of a base write. -/
def numberOfDigits (base : Nat) (digits : List Nat) : Nat :=
  digits.foldl (fun total digit => total * base + digit) 0

/-- Reads a decimal part: at most three digits, no leading zero, at most 255. -/
def readPart (text : List Char) : Option (UInt8 × List Char) :=
  let (digits, rest) := spanValues Decimal.digit? text
  let value := numberOfDigits 10 digits
  if digits = [] ∨ 3 < digits.length ∨ (1 < digits.length ∧ digits.head? = some 0) ∨
      255 < value then
    none
  else some (UInt8.ofNat value, rest)

/-- Reads one expected character. -/
def readExpected (expected : Char) : List Char → Option (List Char)
  | c :: rest => if c = expected then some rest else none
  | [] => none

/-- Reads an IPv4 address. -/
def readIpv4 (text : List Char) : Option (Ipv4 × List Char) := do
  let (a, text) ← readPart text
  let (b, text) ← readPart (← readExpected '.' text)
  let (c, text) ← readPart (← readExpected '.' text)
  let (d, text) ← readPart (← readExpected '.' text)
  return (.ofParts a b c d, text)

/-- Reads a hexadecimal group of at most four digits. -/
def readGroup (text : List Char) : Option (Nat × List Char) :=
  let (digits, rest) := spanValues Hexadecimal.digit? text
  if digits = [] ∨ 4 < digits.length then none else some (numberOfDigits 16 digits, rest)

/-- Groups read from a text, whether an IPv4 address ended them, and the text after them. -/
structure GroupRun where
  /-- The groups in order. -/
  groups : List Nat := []
  /-- Whether the last two groups were written as an IPv4 address. -/
  dotted : Bool := false
  /-- The text after the groups. -/
  rest : List Char
  deriving Repr

/-- Reads up to `limit` groups; all but the first follow a colon. -/
def readGroups (first : Bool) : Nat → List Char → GroupRun
  | 0, text => { rest := text }
  | limit + 1, text =>
    match (if first then some text else readExpected ':' text) with
    | none => { rest := text }
    | some start =>
      match (if limit = 0 then none else readIpv4 start) with
      | some (v4, rest) =>
        { groups := [v4.part 0 * 256 + v4.part 1, v4.part 2 * 256 + v4.part 3]
          dotted := true, rest }
      | none =>
        match readGroup start with
        | none => { rest := text }
        | some (group, rest) =>
          let run := readGroups false limit rest
          { run with groups := group :: run.groups }

/-- Reads an IPv6 address. -/
def readIpv6 (text : List Char) : Option (Address × List Char) :=
  let head := readGroups true 8 text
  if head.groups.length = 8 then some (.ofGroups head.groups, head.rest)
  else if head.dotted then none
  else
    match head.rest with
    | ':' :: ':' :: rest =>
      let tail := readGroups true (7 - head.groups.length) rest
      let gap := List.replicate (8 - head.groups.length - tail.groups.length) 0
      some (.ofGroups (head.groups ++ gap ++ tail.groups), tail.rest)
    | _ => none

/-- What a reader reads if it takes the whole text. -/
def whole? {α : Type} (read : Option (α × List Char)) : Option α :=
  match read with
  | some (value, []) => some value
  | _ => none

/-- The IPv4 address that a text is. -/
def Ipv4.parse? (text : List Char) : Option Ipv4 := whole? (readIpv4 text)

/-- The IPv6 address that a text is. -/
def Address.parse? (text : List Char) : Option Address := whole? (readIpv6 text)

/-- The address that a text is, of either family. -/
def IpAddress.parse? (text : List Char) : Option IpAddress :=
  whole? <|
    match readIpv4 text with
    | some (address, rest) => some (.v4 address, rest)
    | none => (readIpv6 text).map fun (address, rest) => (.v6 address, rest)

/-- The wording of a text that is no address. -/
def IpAddress.refusal : String := "invalid IP address syntax"

end FlowEnrichment
