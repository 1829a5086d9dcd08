/-!
Hexadecimal byte strings: two characters a byte, each pair either two digits or a plus sign
and one digit (a pair is read as a number in base 16, and such a number may carry a plus
sign), digits in upper or lower case, nothing else.
-/

namespace Gatehouse.Encoding.Hex

/-- The value of a hex digit, either case. -/
def digit? (c : Char) : Option Nat :=
  let n := c.val.toNat
  if 0x30 ≤ n ∧ n ≤ 0x39 then some (n - 0x30)
  else if 0x41 ≤ n ∧ n ≤ 0x46 then some (n - 0x41 + 10)
  else if 0x61 ≤ n ∧ n ≤ 0x66 then some (n - 0x61 + 10)
  else none

/-- The byte a pair of characters spells: two digits, or a plus sign and one digit. -/
def pair? (hi lo : Char) : Option UInt8 := do
  let l ← digit? lo
  if hi = '+' then return l.toUInt8
  let h ← digit? hi
  return (h * 16 + l).toUInt8

/-- The bytes of pairs of characters, or `none` for an odd count or a pair that spells no
byte. -/
def decodeList : List Char → Option (List UInt8)
  | [] => some []
  | [_] => none
  | hi :: lo :: rest => do
    let b ← pair? hi lo
    let tail ← decodeList rest
    return b :: tail

/-- The bytes a hex string spells. -/
def decode (s : String) : Option (List UInt8) := decodeList s.toList

end Gatehouse.Encoding.Hex
