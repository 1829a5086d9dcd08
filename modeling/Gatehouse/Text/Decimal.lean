/-!
Decimal integers written as text, read strictly.

A number is an optional sign followed by at least one ASCII digit, and nothing else: no
blanks, no separators. A `+` is always allowed, a `-` only where the range has negative
numbers; leading zeros are allowed. The digits are read left to right and the first problem
met is the one reported: a character that is not a digit, or a value that has left the range.
-/

namespace Gatehouse.Text.Decimal

/-- Why a text is not a number of the range. -/
inductive Fault where
  | empty
  | invalidDigit
  | tooLarge
  | tooSmall
  deriving DecidableEq, Repr

/-- The words for each fault. -/
def Fault.message : Fault → String
  | .empty => "cannot parse integer from empty string"
  | .invalidDigit => "invalid digit found in string"
  | .tooLarge => "number too large to fit in target type"
  | .tooSmall => "number too small to fit in target type"

/-- The magnitude of a run of digits read onto `acc`, failing with `overflow` once it passes
`limit`. -/
def digits (limit : Nat) (overflow : Fault) : Nat → List Char → Except Fault Nat
  | acc, [] => .ok acc
  | acc, c :: rest =>
    if c.isDigit then
      let next := acc * 10 + (c.toNat - 48)
      if next > limit then .error overflow else digits limit overflow next rest
    else .error .invalidDigit

/-- A number in `0 .. hi`. -/
def parseNat (hi : Nat) (s : String) : Except Fault Nat :=
  match s.toList with
  | [] => .error .empty
  | ['+'] | ['-'] => .error .invalidDigit
  | '+' :: rest => digits hi .tooLarge 0 rest
  | cs => digits hi .tooLarge 0 cs

/-- A number in `-lo .. hi`. -/
def parseInt (lo hi : Nat) (s : String) : Except Fault Int :=
  match s.toList with
  | [] => .error .empty
  | ['+'] | ['-'] => .error .invalidDigit
  | '+' :: rest => (digits hi .tooLarge 0 rest).map Int.ofNat
  | '-' :: rest => (digits lo .tooSmall 0 rest).map fun n => -(n : Int)
  | cs => (digits hi .tooLarge 0 cs).map Int.ofNat

/-- A signed 64-bit number: in `-2^63 .. 2^63 - 1`. -/
def parseI64 (s : String) : Except Fault Int :=
  parseInt 9223372036854775808 9223372036854775807 s

/-- A signed 64-bit number, when the text is one. -/
def i64? (s : String) : Option Int :=
  match parseI64 s with
  | .ok n => some n
  | .error _ => none

end Gatehouse.Text.Decimal
