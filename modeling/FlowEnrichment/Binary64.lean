/-!
# Binary floating point numbers of 64 bits

A finite number is a sign and a magnitude m · 2^e. All arithmetic here is exact arithmetic on
ratios of natural numbers followed by one rounding, to the nearest number and on a tie to the
one with an even last bit. `Binary64.shortest` finds the fewest decimal digits that read back
as the number.
-/
namespace FlowEnrichment

/-- A binary floating point number, by its bits: a sign, eleven of exponent, fifty-two of
fraction. -/
structure Binary64 where
  /-- The sign bit, the exponent and the fraction. -/
  bits : UInt64
  deriving DecidableEq, Repr, Inhabited

namespace Binary64

/-- The bits of positive infinity. -/
def infinityBits : Nat := 0x7ff0000000000000

/-- The weight of the sign bit. -/
def signWeight : Nat := 0x8000000000000000

/-- The weight of the first bit of a magnitude that is not small, which is left out of the bits. -/
def hiddenBit : Nat := 0x10000000000000

/-- Positive infinity. -/
def infinity : Binary64 := ⟨UInt64.ofNat infinityBits⟩

/-- Whether the sign bit is set. -/
def isNegative (x : Binary64) : Bool := signWeight ≤ x.bits.toNat

/-- The number with the sign bit cleared. -/
def abs (x : Binary64) : Binary64 := ⟨UInt64.ofNat (x.bits.toNat % signWeight)⟩

/-- The number with the sign bit inverted. -/
def neg (x : Binary64) : Binary64 := ⟨UInt64.ofNat ((x.bits.toNat + signWeight) % UInt64.size)⟩

/-- Whether the number is neither an infinity nor a not-a-number. -/
def isFinite (x : Binary64) : Bool := x.abs.bits.toNat < infinityBits

/-- Whether the number is zero, of either sign. -/
def isZero (x : Binary64) : Bool := x.abs.bits.toNat == 0

/-- The magnitude of a finite number, as a whole number and a power of two. -/
def magnitude (x : Binary64) : Nat × Int :=
  let bits : Nat := x.abs.bits.toNat
  let fraction : Nat := bits % hiddenBit
  let biased : Nat := bits / hiddenBit
  if biased = 0 then (fraction, -1074) else (fraction + hiddenBit, (biased : Int) - 1075)

/-- A whole number times a power of a base, as a ratio. -/
def scaled (base significand : Nat) (exponent : Int) : Nat × Nat :=
  if 0 ≤ exponent then (significand * Nat.pow base exponent.toNat, 1)
  else (significand, Nat.pow base (-exponent).toNat)

/-- The magnitude of a finite number, as a ratio. -/
def ratio (x : Binary64) : Nat × Nat := scaled 2 x.magnitude.1 x.magnitude.2

/-- A ratio divided by a power of two, as a quotient and whether the rest is below, at or above
one half. -/
def quotient (num den : Nat) (exponent : Int) : Nat × Ordering :=
  let (num, den) :=
    if 0 ≤ exponent then (num, den * Nat.pow 2 exponent.toNat)
    else (num * Nat.pow 2 (-exponent).toNat, den)
  (num / den, compare (2 * (num % den)) den)

/-- The number nearest to a ratio, an even last bit deciding a tie; infinity if the ratio is too
large. The bits of consecutive magnitudes are consecutive, so a carry out of the fraction goes
into the exponent by itself. -/
def ofRatio (num den : Nat) : Binary64 :=
  if num = 0 ∨ den = 0 then ⟨0⟩ else
  let guess : Int := (num.log2 : Int) - (den.log2 : Int) - 52
  let exponent := max guess (-1074)
  let exponent :=
    if (quotient num den exponent).1 < hiddenBit then max (exponent - 1) (-1074) else exponent
  let (whole, half) := quotient num den exponent
  let rounded :=
    match half with
    | .lt => whole
    | .eq => if whole % 2 = 0 then whole else whole + 1
    | .gt => whole + 1
  ⟨UInt64.ofNat (min infinityBits ((exponent + 1074).toNat * hiddenBit + rounded))⟩

/-- The number nearest to a natural number. -/
def ofNat (n : Nat) : Binary64 := ofRatio n 1

/-- The rounded product of two magnitudes. -/
def mul (x y : Binary64) : Binary64 :=
  let (a, b) := x.ratio
  let (c, d) := y.ratio
  ofRatio (a * c) (b * d)

/-- The rounded quotient of two magnitudes. -/
def div (x y : Binary64) : Binary64 :=
  let (a, b) := x.ratio
  let (c, d) := y.ratio
  ofRatio (a * d) (b * c)

/-- The number nearest to significand · 10^exponent. Exponents that decide the answer by
themselves are not computed with. -/
def ofDecimal (significand : Nat) (exponent : Int) : Binary64 :=
  let digits : Int := (Nat.toDigits 10 significand).length
  if significand = 0 ∨ digits + exponent < -330 then ⟨0⟩
  else if 400 < digits + exponent then infinity
  else
    let (num, den) := scaled 10 significand exponent
    ofRatio num den

/-! ## Shortest decimal -/

/-- The ratios between which all reals round to the magnitude, and whether they do so themselves. -/
def roundingInterval (x : Binary64) : (Nat × Nat) × (Nat × Nat) × Bool :=
  let (m, e) := x.magnitude
  let below :=
    if m = hiddenBit ∧ -1074 < e then scaled 2 (4 * m - 1) (e - 2) else scaled 2 (2 * m - 1) (e - 1)
  (below, scaled 2 (2 * m + 1) (e - 1), m % 2 = 0)

/-- The order of two ratios. -/
def compareRatios (a b : Nat × Nat) : Ordering := compare (a.1 * b.2) (b.1 * a.2)

/-- Whether significand · 10^exponent rounds to the magnitude. -/
def readsBack (x : Binary64) (significand : Nat) (exponent : Int) : Bool :=
  let (below, above, closed) := x.roundingInterval
  let candidate := scaled 10 significand exponent
  match compareRatios below candidate, compareRatios candidate above with
  | .lt, .lt => true
  | .gt, _ | _, .gt => false
  | _, _ => closed

/-- The power of ten of the first digit of a ratio, or the one below it. -/
def firstDigitPower (num den : Nat) : Int :=
  if den ≤ num then ((Nat.toDigits 10 (num / den)).length : Int) - 1
  else -((Nat.toDigits 10 (den / num)).length : Int)

/-- The nearer of two neighbouring points of a decimal grid that reads back, the even one on a
tie. -/
def gridPoint? (x : Binary64) (power : Int) : Option Nat :=
  let (num, den) := x.ratio
  let (num, den) :=
    if 0 ≤ power then (num, den * Nat.pow 10 power.toNat)
    else (num * Nat.pow 10 (-power).toNat, den)
  let low := num / den
  let lowFits := low ≠ 0 ∧ x.readsBack low power
  let highFits : Bool := x.readsBack (low + 1) power
  if lowFits ∧ highFits then
    match compare (2 * (num % den)) den with
    | .lt => some low
    | .gt => some (low + 1)
    | .eq => some (if low % 2 = 0 then low else low + 1)
  else if lowFits then some low
  else if highFits then some (low + 1)
  else none

/-- The first grid, from coarse to fine, with a point that reads back. -/
def findGrid (x : Binary64) : Nat → Int → Nat × Int
  | 0, power => ((x.gridPoint? power).getD 0, power)
  | count + 1, power =>
    match x.gridPoint? power with
    | some point => (point, power)
    | none => findGrid x count (power - 1)

/-- Moves factors of ten from a significand into its exponent. -/
def stripZeros : Nat → Nat → Int → Nat × Int
  | 0, significand, exponent => (significand, exponent)
  | count + 1, significand, exponent =>
    if significand ≠ 0 ∧ significand % 10 = 0 then
      stripZeros count (significand / 10) (exponent + 1)
    else (significand, exponent)

/-- The shortest decimal significand and exponent that read back as the magnitude. -/
def shortest (x : Binary64) : Nat × Int :=
  if x.isZero then (0, 0) else
  let (num, den) := x.ratio
  let (significand, exponent) := findGrid x 18 (firstDigitPower num den)
  stripZeros 20 significand exponent

/-- The number as text: the shortest digits, positional from 10^-5 up to below 10^16, always
with a point or an exponent. -/
def text (x : Binary64) : List Char :=
  let sign := if x.isNegative then ['-'] else []
  let (significand, exponent) := x.shortest
  let digits := Nat.toDigits 10 significand
  let count : Int := digits.length
  let point := count + exponent
  let zeros (n : Int) := List.replicate n.toNat '0'
  let body :=
    if x.isZero then ['0', '.', '0']
    else if 0 ≤ exponent ∧ point ≤ 16 then digits ++ zeros exponent ++ ['.', '0']
    else if 0 < point ∧ point ≤ 16 then digits.take point.toNat ++ '.' :: digits.drop point.toNat
    else if -5 < point ∧ point ≤ 0 then ['0', '.'] ++ zeros (-point) ++ digits
    else
      let fraction := digits.drop 1
      let power := point - 1
      digits.take 1 ++ (if fraction = [] then [] else '.' :: fraction) ++ 'e' ::
        ((if power < 0 then ['-'] else []) ++ Nat.toDigits 10 power.natAbs)
  sign ++ body

end Binary64

end FlowEnrichment
