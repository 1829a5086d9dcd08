import Gatehouse.Json.Reader
import Gatehouse.Text.Shortest

/-!
The double a number literal stands for, computed the way the reader computes it.

The reader does not round the literal's exact value once. It gathers the digits into a
64-bit significand (integer digits beyond 64 bits only raise the exponent; fraction digits
beyond it are dropped), takes the significand as a double, and then multiplies or divides it
by the double nearest to `10^|e|` (a power beyond `10^308` is reached by dividing by `10^308`
repeatedly). Each step rounds to nearest, so the result can differ from the nearest double in
the last place. A negative integer beyond 64 bits, and `-0`, are the negated significand.

Literals whose magnitude is beyond a double carry a range fault and have no value here: the
result for them is not used.

A document read into doubles and written again shows each double with its shortest decimal:
positionally, with `.0` when it has no fraction, while its decimal point falls within the
first sixteen digits or at most five zeros after the point; otherwise with an exponent that
carries its sign (`1e+16`, `1.5e-7`, `1.2345678901234568e+29`).
-/

namespace Gatehouse.Json

/-- The double nearest to `10^k`. -/
def powerOfTen (k : Nat) : Float := Float.ofScientific 1 false k

/-- The significand scaled by `10^e` as the reader does it: one multiplication or division
by a power of ten, or repeated division by `10^308` first for a smaller power. -/
def scaleDouble (f : Float) (e : Int) : Float :=
  let rec down : Nat → Float → Int → Float
    | 0, f, _ => f
    | fuel + 1, f, e =>
      if -e ≤ 308 then f / powerOfTen (-e).toNat
      else if f == 0 then f
      else down fuel (f / powerOfTen 308) (e + 308)
  if 0 ≤ e then (if e ≤ 308 || f != 0 then f * powerOfTen e.toNat else f)
  else down 8 f e

/-- The value of a digit character. -/
def digitOf (c : Char) : Nat := c.toNat - 48

/-- Integer digits gathered into 64 bits, and how many did not fit. -/
def gatherInteger (ds : List Char) : Nat × Nat :=
  ds.foldl (fun (m, extra) d =>
    if extra > 0 || u64Max < m * 10 + digitOf d then (m, extra + 1) else (m * 10 + digitOf d, 0))
    (0, 0)

/-- Fraction digits gathered into 64 bits after `m`, and how many were taken. -/
def gatherFraction (m : Nat) (ds : List Char) : Nat × Nat :=
  let (m', k, _) := ds.foldl (fun (m, k, full) d =>
    if full || u64Max < m * 10 + digitOf d then (m, k, true) else (m * 10 + digitOf d, k + 1, false))
    (m, 0, false)
  (m', k)

/-- An exponent's digits, while they fit 31 bits. -/
def gatherExponent (ds : List Char) : Option Nat :=
  ds.foldlM (fun acc d => if i32Max < acc * 10 + digitOf d then none else some (acc * 10 + digitOf d)) 0

/-- An exponent kept within 32 bits, as the reader's sum saturates. -/
def saturate (e : Int) : Int := max (-2147483648) (min e 2147483647)

/-- The double of a number literal that the reader keeps as written (`Number.float`). -/
def literalDouble (text : String) : Float :=
  let cs := text.toList
  let (negative, cs) := match cs with
    | '-' :: r => (true, r)
    | r => (false, r)
  let sign (f : Float) : Float := if negative then -f else f
  let intDigits := cs.takeWhile Char.isDigit
  let (m0, extra) := gatherInteger intDigits
  let rest := cs.drop intDigits.length
  let (m, e, rest, plain) := match rest with
    | '.' :: fr =>
      let fracDigits := fr.takeWhile Char.isDigit
      let (m, k) := gatherFraction m0 fracDigits
      (m, (extra : Int) - k, fr.drop fracDigits.length, false)
    | r => (m0, (extra : Int), r, true)
  match rest with
  | c :: er =>
    if c == 'e' || c == 'E' then
      let (positiveExp, ds) := match er with
        | '+' :: d => (true, d)
        | '-' :: d => (false, d)
        | d => (true, d)
      match gatherExponent ds with
      | some x => sign (scaleDouble m.toUInt64.toFloat (saturate (if positiveExp then e + x else e - x)))
      | none => sign 0
    else sign (scaleDouble m.toUInt64.toFloat e)
  | [] =>
    if plain && extra == 0 then sign m.toUInt64.toFloat
    else sign (scaleDouble m.toUInt64.toFloat e)

/-- How a double is written when a document is written again: its shortest decimal, laid out
positionally near one and with an exponent otherwise. -/
def doubleText (f : Float) : String :=
  let x := Text.Shortest.Binary.ofBits f.toBits
  let sign := if x.negative then "-" else ""
  let d := x.shortest
  if d.digits == 0 then sign ++ "0.0"
  else
    let s := toString d.digits
    let n : Int := s.length
    let point := n + d.exponent
    let zeros (k : Int) : String := String.ofList (List.replicate k.toNat '0')
    let exponentText (e : Int) : String := "e" ++ (if 0 ≤ e then "+" else "") ++ toString e
    let body :=
      if 0 ≤ d.exponent && point ≤ 16 then s ++ zeros d.exponent ++ ".0"
      else if 0 < point && point ≤ 16 then
        String.ofList (s.toList.take point.toNat) ++ "." ++ String.ofList (s.toList.drop point.toNat)
      else if -5 < point && point ≤ 0 then "0." ++ zeros (-point) ++ s
      else if n == 1 then s ++ exponentText (point - 1)
      else String.ofList (s.toList.take 1) ++ "." ++ String.ofList (s.toList.drop 1)
        ++ exponentText (point - 1)
    sign ++ body

mutual

/-- A value read into doubles and written again: every number kept as written (`Number.float`)
takes the text its double is written with. -/
def Value.rewritten : Value → Value
  | .num (.float text range) => .num (.float (doubleText (literalDouble text)) range)
  | .arr items => .arr (rewrittenItems items)
  | .obj fields => .obj (rewrittenFields fields)
  | v => v

/-- Items read into doubles and written again. -/
def rewrittenItems : List Value → List Value
  | [] => []
  | v :: vs => v.rewritten :: rewrittenItems vs

/-- Fields read into doubles and written again. -/
def rewrittenFields : List (String × Value) → List (String × Value)
  | [] => []
  | (k, v) :: fs => (k, v.rewritten) :: rewrittenFields fs

end

end Gatehouse.Json
