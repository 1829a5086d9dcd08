/-!
The shortest decimal of a double.

A finite double is `m · 2^q`. The reals that round to it form an interval: from halfway to the
double below to halfway to the double above, the ends included exactly when `m` is even (a
tie goes to the even mantissa). Just above a power of two the double below is half as far
away as the double above. A decimal *reads back* as the double when it lies in that interval.

The shortest decimal is the one with the fewest significant digits that reads back, and of
those the nearest to the double; of two equally near, the larger. It is found by exact
arithmetic: for 1, 2, … 17 digits, the two points of that many digits around the double are
tested, and the first count with a hit wins. Seventeen digits always suffice.
-/

namespace Gatehouse.Text.Shortest

/-- A finite double: its sign, `mantissa · 2^exponent`, and whether the double below is
nearer than the double above (just above a power of two). -/
structure Binary where
  negative : Bool
  mantissa : Nat
  exponent : Int
  narrowBelow : Bool
  deriving DecidableEq, Repr

/-- The parts of a double from its bits. NaN and the infinities are read as finite values:
callers test for them first. -/
def Binary.ofBits (bits : UInt64) : Binary :=
  let n := bits.toNat
  let negative := n / Nat.pow 2 63 % 2 == 1
  let e : Nat := n / Nat.pow 2 52 % Nat.pow 2 11
  let f : Nat := n % Nat.pow 2 52
  if e == 0 then ⟨negative, f, -1074, false⟩
  else ⟨negative, Nat.pow 2 52 + f, (e : Int) - 1075, f == 0 && e > 1⟩

/-- A decimal `digits · 10^exponent`. -/
structure Dec where
  digits : Nat
  exponent : Int
  deriving DecidableEq, Repr

/-- Compares `a · 10^i` with `n · 2^j` exactly. -/
def compareScaled (a : Nat) (i : Int) (n : Nat) (j : Int) : Ordering :=
  compare (a * Nat.pow 10 i.toNat * Nat.pow 2 (-j).toNat)
    (n * Nat.pow 2 j.toNat * Nat.pow 10 (-i).toNat)

/-- The double and the ends of its interval, in quarters of its last place: the double is
`4m`, the ends `4m - 2` (or `4m - 1` when the double below is nearer) and `4m + 2`. -/
def Binary.lower (x : Binary) : Nat :=
  if x.narrowBelow then 4 * x.mantissa - 1 else 4 * x.mantissa - 2

/-- The upper end of the interval, in quarters of the last place. -/
def Binary.upper (x : Binary) : Nat := 4 * x.mantissa + 2

/-- Whether a decimal reads back as the double. -/
def Binary.readsBack (x : Binary) (d : Dec) : Bool :=
  let incl := x.mantissa % 2 == 0
  let cl := compareScaled d.digits d.exponent x.lower (x.exponent - 2)
  let ch := compareScaled d.digits d.exponent x.upper (x.exponent - 2)
  (cl == .gt || (incl && cl == .eq)) && (ch == .lt || (incl && ch == .eq))

/-- The number of binary digits of a natural number. -/
def bitLength (n : Nat) : Nat := (Nat.toDigits 2 n).length

/-- The least `k` with `value < 10^k` for a positive double, from an estimate corrected by
exact comparisons. -/
def Binary.scale (x : Binary) : Int :=
  -- log10 2 is a little above 0.30102
  let estimate : Int := ((bitLength x.mantissa : Int) + x.exponent) * 30102 / 100000
  let below (k : Int) : Bool := compareScaled 1 k x.mantissa x.exponent != .gt
  let rec up : Nat → Int → Int
    | 0, k => k
    | fuel + 1, k => if below k then up fuel (k + 1) else k
  let rec down : Nat → Int → Int
    | 0, k => k
    | fuel + 1, k => if below (k - 1) then k else down fuel (k - 1)
  down 4 (up 4 estimate)

/-- On the grid of decimals with `count` significant digits below `10^k`, the largest point
not above the double, with the exponent of the grid's spacing. -/
def Binary.floorOnGrid (x : Binary) (k : Int) (count : Nat) : Nat × Int :=
  let g := k - count
  -- floor (m · 2^q / 10^g)
  let num := x.mantissa * Nat.pow 2 x.exponent.toNat * Nat.pow 10 (-g).toNat
  let den := Nat.pow 2 (-x.exponent).toNat * Nat.pow 10 g.toNat
  (num / den, g)

/-- The better of two decimals on one grid that both read back: the nearer, the larger on a
tie. -/
def Binary.nearer (x : Binary) (c : Nat) (g : Int) : Dec :=
  -- compare twice the double with the sum of the two candidates
  match compareScaled (2 * c + 1) g (2 * x.mantissa) x.exponent with
  | .gt => ⟨c, g⟩
  | _ => ⟨c + 1, g⟩

/-- The shortest decimal of a positive double, searching 1 to 17 digits. -/
def Binary.search (x : Binary) : Dec :=
  let k := x.scale
  let rec go : Nat → Nat → Dec
    | 0, _ => ⟨x.mantissa * Nat.pow 5 (-x.exponent).toNat * Nat.pow 2 x.exponent.toNat,
        if x.exponent < 0 then x.exponent else 0⟩
    | fuel + 1, count =>
      let (c, g) := x.floorOnGrid k count
      let low := x.readsBack ⟨c, g⟩
      let high := x.readsBack ⟨c + 1, g⟩
      if low && high then x.nearer c g
      else if low then ⟨c, g⟩
      else if high then ⟨c + 1, g⟩
      else go fuel (count + 1)
  go 17 1

/-- A decimal with trailing zeros of its digits moved into its exponent. -/
def Dec.strip (d : Dec) : Dec :=
  let rec go : Nat → Nat → Int → Dec
    | 0, c, e => ⟨c, e⟩
    | fuel + 1, c, e => if c != 0 && c % 10 == 0 then go fuel (c / 10) (e + 1) else ⟨c, e⟩
  go (toString d.digits).length d.digits d.exponent

/-- The shortest decimal of a double; zero for either zero. -/
def Binary.shortest (x : Binary) : Dec :=
  if x.mantissa == 0 then ⟨0, 0⟩ else x.search.strip

/-! ## Checks -/

-- The ends of the interval of 1.0 and of the double above it: each end belongs to the
-- double with the even mantissa.
example : (Binary.ofBits 0x3FF0000000000000).readsBack ⟨(2^53+1)*5^53, -53⟩ = true := by
  decide +kernel
example : (Binary.ofBits 0x3FF0000000000000).readsBack ⟨(2^53+1)*5^53 + 1, -53⟩ = false := by
  decide +kernel
example : (Binary.ofBits 0x3FF0000000000000).readsBack ⟨(2^54-1)*5^54, -54⟩ = true := by
  decide +kernel
example : (Binary.ofBits 0x3FF0000000000000).readsBack ⟨(2^54-1)*5^54 - 1, -54⟩ = false := by
  decide +kernel
example : (Binary.ofBits 0x3FF0000000000001).readsBack ⟨(2^53+1)*5^53, -53⟩ = false := by
  decide +kernel
example : (Binary.ofBits 0x3FF0000000000001).readsBack ⟨(2^53+1)*5^53 + 1, -53⟩ = true := by
  decide +kernel

-- 0.1 has one digit; 2^-25 has two equally near candidates of 17 digits and takes the larger.
example : (Binary.ofBits 0x3FB999999999999A).shortest = ⟨1, -1⟩ := by decide +kernel
example : (Binary.ofBits 0x3E60000000000000).shortest = ⟨29802322387695313, -24⟩ := by
  decide +kernel

end Gatehouse.Text.Shortest
