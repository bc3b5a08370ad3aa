import FlowEnrichment.Text.Decimal

/-!
# Time

Durations, timestamps and instants are whole numbers of nanoseconds. A timestamp counts from the
Unix epoch and may lie before it; an instant counts from the start of the time line on which
deadlines are kept. Both have a range of signed sixty-four bit seconds and no more.
-/
namespace FlowEnrichment

/-- The number of nanoseconds in a second. -/
def nanosPerSecond : Nat := 1000000000

/-- The nanoseconds in as many seconds as there are negative numbers of sixty-four bits. -/
def rangeNanos : Nat := UInt64.size / 2 * nanosPerSecond

/-- A length of time. -/
structure Duration where
  /-- The length in nanoseconds. -/
  nanos : Nat
  deriving DecidableEq, Repr, Inhabited

namespace Duration

/-- No time. -/
def zero : Duration := ⟨0⟩

/-- Whole seconds. -/
def seconds (n : Nat) : Duration := ⟨n * nanosPerSecond⟩

/-- Whole milliseconds. -/
def millis (n : Nat) : Duration := ⟨n * 1000000⟩

/-- Whether there is no time. -/
def isZero (duration : Duration) : Bool := duration.nanos == 0

/-- The digits of a fraction of a unit, without the zeros at its end. -/
def fractionDigits (width fraction : Nat) : List Char :=
  let digits := Decimal.digits fraction
  let padded := List.replicate (width - digits.length) '0' ++ digits
  (padded.reverse.dropWhile (· == '0')).reverse

/-- A whole number of units and a fraction of `width` digits, followed by the unit. -/
def withUnit (whole fraction width : Nat) (unit : String) : String :=
  let digits := if fraction = 0 then [] else '.' :: fractionDigits width fraction
  String.ofList (Decimal.digits whole ++ digits) ++ unit

/-- The duration in the greatest unit of which it has one, with the digits that it needs. -/
def text (duration : Duration) : String :=
  let n := duration.nanos
  if nanosPerSecond ≤ n then withUnit (n / nanosPerSecond) (n % nanosPerSecond) 9 "s"
  else if 1000000 ≤ n then withUnit (n / 1000000) (n % 1000000) 6 "ms"
  else if 1000 ≤ n then withUnit (n / 1000) (n % 1000) 3 "µs"
  else withUnit n 0 0 "ns"

/-- The duration in seconds with all nine decimal places. -/
def secondsText (duration : Duration) : String :=
  let fraction := Decimal.digits (duration.nanos % nanosPerSecond)
  String.ofList (Decimal.digits (duration.nanos / nanosPerSecond) ++
    '.' :: (List.replicate (9 - fraction.length) '0' ++ fraction))

end Duration

/-- A point in wall-clock time. -/
structure Timestamp where
  /-- Nanoseconds since the Unix epoch. -/
  nanos : Int
  deriving DecidableEq, Repr, Inhabited

namespace Timestamp

/-- The Unix epoch. -/
def epoch : Timestamp := ⟨0⟩

/-- Whether a number of nanoseconds is in the range of signed sixty-four bit seconds. -/
def inRange (nanos : Int) : Bool :=
  -(rangeNanos : Int) ≤ nanos ∧ nanos < rangeNanos

/-- The timestamp a duration later, if it is in range. -/
def add? (time : Timestamp) (duration : Duration) : Option Timestamp :=
  if inRange (time.nanos + duration.nanos) then some ⟨time.nanos + duration.nanos⟩ else none

/-- The timestamp a duration earlier, if it is in range. -/
def sub? (time : Timestamp) (duration : Duration) : Option Timestamp :=
  if inRange (time.nanos - duration.nanos) then some ⟨time.nanos - duration.nanos⟩ else none

/-- The nanoseconds since the epoch as a word, clamped at both ends. -/
def word (time : Timestamp) : UInt64 :=
  UInt64.ofNat (min time.nanos.toNat (UInt64.size - 1))

/-- The timestamp of a number of nanoseconds since the epoch. -/
def ofWord (nanos : UInt64) : Timestamp := ⟨nanos.toNat⟩

end Timestamp

/-- A point on the time line of deadlines. -/
structure Instant where
  /-- Nanoseconds since the start of the time line. -/
  nanos : Nat
  deriving DecidableEq, Repr, Inhabited

namespace Instant

/-- The start of the time line. -/
def start : Instant := ⟨0⟩

/-- The instant a duration later, if there is one. -/
def add? (instant : Instant) (duration : Duration) : Option Instant :=
  let nanos := instant.nanos + duration.nanos
  if nanos < rangeNanos then some ⟨nanos⟩ else none

/-- A time so far away that nothing waits for it. -/
def farAway : Duration := .seconds (86400 * 365 * 30)

/-- The instant a duration later, or one far away if there is none. -/
def addOrFar (instant : Instant) (duration : Duration) : Instant :=
  (instant.add? duration).getD ⟨instant.nanos + farAway.nanos⟩

/-- The later of two instants. -/
def later (a b : Instant) : Instant := ⟨max a.nanos b.nanos⟩

/-- The number of nanoseconds between two ticks of the timers. -/
def tickNanos : Nat := 1000000

/-- The first tick at or after the instant, at which a timer for it fires. -/
def dueTick (instant : Instant) : Nat := (instant.nanos + (tickNanos - 1)) / tickNanos

/-- The last tick at or before the instant. -/
def lastTick (instant : Instant) : Nat := instant.nanos / tickNanos

end Instant

end FlowEnrichment
