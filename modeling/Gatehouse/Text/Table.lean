/-!
Tables of code points, written compactly and read once.

A table is written as entries separated by `;`, code points in upper-case hex:

* a range set: `A` or `A-B` (inclusive);
* a valued range: `A=v` or `A-B=v`, the value in decimal;
* a code map: `A=X Y Z` maps `A` to the listed code points; `A-B=X` maps each `A+i` in the
  range to `X+i`; `A-B/X` does the same for every other code point, `A`, `A+2`, … .

Lookups search the entries by binary search, so the entries must be sorted by their first
code point and must not overlap; the tables of this library are generated that way.
-/

namespace Gatehouse.Text.Table

/-- The value of an upper-case hex numeral (characters outside `0-9 A-F` count as zero). -/
def hexValue (s : String) : Nat :=
  s.toList.foldl (fun acc c =>
    let n := c.val.toNat
    acc * 16 + (if 0x30 ≤ n ∧ n ≤ 0x39 then n - 0x30 else if 0x41 ≤ n ∧ n ≤ 0x46 then n - 55
      else 0)) 0

/-- The value of a decimal numeral. -/
def decValue (s : String) : Nat := s.toNat?.getD 0

/-- An inclusive range of code points given as `A` or `A-B`. -/
def parseRange (s : String) : Nat × Nat :=
  match s.splitOn "-" with
  | [a, b] => (hexValue a, hexValue b)
  | _ => (hexValue s, hexValue s)

/-- The entries of a packed table. -/
def entries (packed : String) : List String := (packed.splitOn ";").filter (· ≠ "")

/-- An entry of a table: a range of code points and what it carries. -/
structure Entry (α : Type) where
  first : Nat
  last : Nat
  payload : α

/-- The entry whose range holds a code point, by binary search over entries sorted by their
first code point. `lo` and `hi` bound the part still searched. -/
def find? {α : Type} (table : Array (Entry α)) (n : Nat) : Option (Entry α) :=
  go 0 table.size
where
  go (lo hi : Nat) : Option (Entry α) :=
    if lo < hi then
      let mid := (lo + hi) / 2
      match table[mid]? with
      | some e =>
        if n < e.first then go lo mid
        else if e.last < n then go (mid + 1) hi
        else some e
      | none => none
    else none
  termination_by hi - lo

/-- A set of code points. -/
def parseSet (packed : String) : Array (Entry Unit) :=
  ((entries packed).map fun e => let (a, b) := parseRange e; ⟨a, b, ()⟩).toArray

/-- Whether a set holds a code point. -/
def memSet (table : Array (Entry Unit)) (n : Nat) : Bool := (find? table n).isSome

/-- Ranges that carry a number. -/
def parseValued (packed : String) : Array (Entry Nat) :=
  ((entries packed).map fun e =>
    match e.splitOn "=" with
    | [r, v] => let (a, b) := parseRange r; ⟨a, b, decValue v⟩
    | _ => ⟨0, 0, 0⟩).toArray

/-- The number a valued table gives a code point, zero when none. -/
def valueOf (table : Array (Entry Nat)) (n : Nat) : Nat :=
  match find? table n with
  | some e => e.payload
  | none => 0

/-- What a code map entry does to the code points of its range. -/
inductive Image where
  /-- Each code point goes to the list. -/
  | fixed (targets : List Nat)
  /-- Code point `first + i` goes to `base + i`, for every `step`-th `i`. -/
  | shifted (base step : Nat)

/-- A code map. -/
def parseMap (packed : String) : Array (Entry Image) :=
  ((entries packed).map fun e =>
    match e.splitOn "=" with
    | [r, t] =>
      match r.splitOn "-" with
      | [a, b] => ⟨hexValue a, hexValue b, .shifted (hexValue t) 1⟩
      | _ => ⟨hexValue r, hexValue r, .fixed ((t.splitOn " ").map hexValue)⟩
    | _ =>
      match e.splitOn "/" with
      | [r, t] => let (a, b) := parseRange r; ⟨a, b, .shifted (hexValue t) 2⟩
      | _ => ⟨0, 0, .fixed []⟩).toArray

/-- The image of a code point under a code map, when the map moves it. -/
def image? (table : Array (Entry Image)) (n : Nat) : Option (List Nat) :=
  match find? table n with
  | some ⟨first, _, .fixed targets⟩ => if n = first then some targets else none
  | some ⟨first, _, .shifted base step⟩ =>
    if (n - first) % step = 0 then some [base + (n - first)] else none
  | none => none

end Gatehouse.Text.Table
