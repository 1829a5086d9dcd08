/-!
Time: spans, instants and the clock.

A span is a whole number of nanoseconds. It is written the way durations are printed for
people: whole seconds with the nonzero part of the fraction (`3600s`, `1.5s`), and below one
second in milliseconds, microseconds or nanoseconds (`250ms`, `1.5µs`, `0ns`).

The clock has two faces. The wall face counts milliseconds since the Unix epoch and gives
token times in whole seconds. The steady face counts nanoseconds since the machine started
and gives cache expiry instants; an instant must stay within the signed 64-bit range of
seconds, so adding a span to an instant can overflow.
-/

namespace Gatehouse

/-- A length of time in nanoseconds. -/
structure Span where
  nanos : Nat
  deriving DecidableEq, Repr

namespace Span

/-- Nanoseconds in a second. -/
def perSecond : Nat := 1000000000

/-- A span of whole seconds. -/
def ofSecs (s : Nat) : Span := ⟨s * perSecond⟩

/-- A span of whole milliseconds. -/
def ofMillis (ms : Nat) : Span := ⟨ms * 1000000⟩

/-- The whole seconds of a span. -/
def secs (d : Span) : Nat := d.nanos / perSecond

/-- Whether a span is empty. -/
def isZero (d : Span) : Bool := d.nanos == 0

/-- The digits of a fraction `part / (10 * unit)`, most significant first, up to the last
nonzero one. -/
def fractionDigits (part unit : Nat) : Nat → List Char
  | 0 => []
  | fuel + 1 =>
    if part == 0 || unit == 0 then []
    else Char.ofNat (48 + part / unit) :: fractionDigits (part % unit) (unit / 10) fuel

/-- A whole number followed by the nonzero digits of its fraction. -/
def decimal (whole part unit : Nat) : String :=
  let digits := fractionDigits part unit 9
  toString whole ++ (if digits.isEmpty then "" else "." ++ String.ofList digits)

/-- The span as a person reads it. -/
def render (d : Span) : String :=
  let n := d.nanos
  if n ≥ perSecond then decimal (n / perSecond) (n % perSecond) (perSecond / 10) ++ "s"
  else if n ≥ 1000000 then decimal (n / 1000000) (n % 1000000) 100000 ++ "ms"
  else if n ≥ 1000 then decimal (n / 1000) (n % 1000) 100 ++ "µs"
  else toString n ++ "ns"

end Span

/-- The largest whole second an instant may hold, 2^63 - 1. -/
def instantLimit : Nat := 9223372036854775807

/-- The simulated clock: wall time since the Unix epoch, steady time since start-up. -/
structure Clock where
  wallMillis : Nat
  steadyNanos : Nat
  deriving DecidableEq, Repr

namespace Clock

/-- The clock a run starts from. -/
def start : Clock := ⟨1750000000000, 100000 * Span.perSecond⟩

/-- The current Unix time in whole seconds. -/
def unixSecs (c : Clock) : Int := (c.wallMillis / 1000 : Nat)

/-- The current steady instant. -/
def instant (c : Clock) : Nat := c.steadyNanos

/-- The instant a span after now, when it is representable. -/
def after (c : Clock) (d : Span) : Option Nat :=
  let t := c.steadyNanos + d.nanos
  if t / Span.perSecond ≤ instantLimit then some t else none

/-- The clock some milliseconds later. -/
def advance (c : Clock) (ms : Nat) : Clock :=
  ⟨c.wallMillis + ms, c.steadyNanos + ms * 1000000⟩

end Clock

end Gatehouse
