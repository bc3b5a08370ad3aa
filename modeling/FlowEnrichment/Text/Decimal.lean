/-!
# Decimal numerals

Unsigned integers as decimal text. `digits` writes a number without leading zeros; `parse`
reads a bounded unsigned integer in the way configuration values are read: an optional plus
sign, at least one digit, leading zeros allowed, and a refusal at the first character that is
no digit or at which the bound is exceeded, whichever comes first.
-/
namespace FlowEnrichment.Decimal

/-- The decimal digits of a number, most significant first. -/
def digits (n : Nat) : List Char := Nat.toDigits 10 n

/-- The value of a decimal digit. -/
def digit? (c : Char) : Option Nat :=
  if '0' ≤ c ∧ c ≤ '9' then some (c.toNat - '0'.toNat) else none

/-- Whether a character is an ASCII decimal digit. -/
def isDigit (c : Char) : Bool := (digit? c).isSome

/-- The number that a run of digits writes, read from the value of the digits before it. -/
def value (start : Nat) (run : List Char) : Nat :=
  run.foldl (fun total c => total * 10 + (c.toNat - '0'.toNat)) start

/-- Why a text is no unsigned integer. -/
inductive Fault where
  /-- There is no text. -/
  | empty
  /-- A character is no digit, or a sign stands alone. -/
  | invalidDigit
  /-- The number exceeds its bound. -/
  | tooLarge
  deriving DecidableEq, Repr

/-- The wording of a refusal. -/
def Fault.message : Fault → String
  | .empty => "cannot parse integer from empty string"
  | .invalidDigit => "invalid digit found in string"
  | .tooLarge => "number too large to fit in target type"

/-- Reads digits after a value, refusing the first character that is no digit or that takes the
value above the bound. -/
def parseDigits (bound : Nat) : Nat → List Char → Except Fault Nat
  | total, [] => .ok total
  | total, c :: rest =>
    match digit? c with
    | none => .error .invalidDigit
    | some d =>
      if bound < total * 10 + d then .error .tooLarge else parseDigits bound (total * 10 + d) rest

/-- Reads an unsigned integer of at most `bound`. -/
def parse (bound : Nat) : List Char → Except Fault Nat
  | [] => .error .empty
  | ['+'] => .error .invalidDigit
  | '+' :: rest => parseDigits bound 0 rest
  | text => parseDigits bound 0 text

end FlowEnrichment.Decimal
