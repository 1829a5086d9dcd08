/-!
UTF-8 octets and the characters they spell.

`encode` writes characters as UTF-8 octets and `decode` reads them back, refusing every
sequence that is not well-formed UTF-8: a stray continuation octet, an overlong form, an encoded
surrogate, anything above U+10FFFF, and a sequence cut short. The decoder walks the row of
the table of well-formed sequences that the lead octet opens (`E0` needs a second octet in `A0..BF`, `ED` one in `80..9F`,
`F0` one in `90..BF`, `F4` one in `80..8F`); it is structural on the octet list.

`decodeLossy` reads any octets: each maximal run that begins a well-formed sequence but is
not one (or a lone octet that begins none) becomes one U+FFFD, and reading goes on with the
octet after that run (the substitution of maximal subparts).
-/

namespace Gatehouse.Text.Utf8

/-- A continuation octet, `80..BF`. -/
def isTail (b : UInt8) : Bool := 0x80 ≤ b && b ≤ 0xBF

/-- The six payload bits of a continuation octet. -/
def low6 (b : UInt8) : Nat := (b &&& 0x3F).toNat

/-- The octets of one character. -/
def encodeChar (c : Char) : List UInt8 :=
  let n := c.val.toNat
  if n < 0x80 then [n.toUInt8]
  else if n < 0x800 then [(0xC0 + n / 64).toUInt8, (0x80 + n % 64).toUInt8]
  else if n < 0x10000 then
    [(0xE0 + n / 4096).toUInt8, (0x80 + n / 64 % 64).toUInt8, (0x80 + n % 64).toUInt8]
  else
    [(0xF0 + n / 262144).toUInt8, (0x80 + n / 4096 % 64).toUInt8,
      (0x80 + n / 64 % 64).toUInt8, (0x80 + n % 64).toUInt8]

/-- The octets of a character list, one character after another. -/
def encode (cs : List Char) : List UInt8 := cs.flatMap encodeChar

/-- The octets of a string. -/
def ofString (s : String) : List UInt8 := encode s.toList

/-- The characters an octet list spells, or `none` where it is not well-formed UTF-8. -/
def decode : List UInt8 → Option (List Char)
  | [] => some []
  | b :: rest =>
    if b < 0x80 then (decode rest).map (Char.ofNat b.toNat :: ·)
    else if 0xC2 ≤ b && b ≤ 0xDF then
      match rest with
      | t :: rest' =>
        if isTail t then
          (decode rest').map (Char.ofNat ((b &&& 0x1F).toNat * 64 + low6 t) :: ·)
        else none
      | [] => none
    else if 0xE0 ≤ b && b ≤ 0xEF then
      match rest with
      | t1 :: t2 :: rest' =>
        let lo : UInt8 := if b = 0xE0 then 0xA0 else 0x80
        let hi : UInt8 := if b = 0xED then 0x9F else 0xBF
        if lo ≤ t1 && t1 ≤ hi && isTail t2 then
          (decode rest').map
            (Char.ofNat ((b &&& 0x0F).toNat * 4096 + low6 t1 * 64 + low6 t2) :: ·)
        else none
      | _ => none
    else if 0xF0 ≤ b && b ≤ 0xF4 then
      match rest with
      | t1 :: t2 :: t3 :: rest' =>
        let lo : UInt8 := if b = 0xF0 then 0x90 else 0x80
        let hi : UInt8 := if b = 0xF4 then 0x8F else 0xBF
        if lo ≤ t1 && t1 ≤ hi && isTail t2 && isTail t3 then
          (decode rest').map
            (Char.ofNat ((b &&& 0x07).toNat * 262144 + low6 t1 * 4096 + low6 t2 * 64
              + low6 t3) :: ·)
        else none
      | _ => none
    else none

/-- The replacement character, U+FFFD. -/
def replacement : Char := '\uFFFD'

/-- The character that octets beginning with the lead `b` spell, or U+FFFD for the maximal
ill-formed subpart they begin, with how many octets after `b` it takes. -/
def lead (b : UInt8) (rest : List UInt8) : Char × Nat :=
  if b < 0x80 then (Char.ofNat b.toNat, 0)
  else if 0xC2 ≤ b && b ≤ 0xDF then
    match rest with
    | t :: _ => if isTail t then (Char.ofNat ((b &&& 0x1F).toNat * 64 + low6 t), 1)
      else (replacement, 0)
    | [] => (replacement, 0)
  else if 0xE0 ≤ b && b ≤ 0xEF then
    let lo : UInt8 := if b = 0xE0 then 0xA0 else 0x80
    let hi : UInt8 := if b = 0xED then 0x9F else 0xBF
    match rest with
    | t1 :: t2 :: _ =>
      if !(lo ≤ t1 && t1 ≤ hi) then (replacement, 0)
      else if !isTail t2 then (replacement, 1)
      else (Char.ofNat ((b &&& 0x0F).toNat * 4096 + low6 t1 * 64 + low6 t2), 2)
    | [t1] => (replacement, if lo ≤ t1 && t1 ≤ hi then 1 else 0)
    | [] => (replacement, 0)
  else if 0xF0 ≤ b && b ≤ 0xF4 then
    let lo : UInt8 := if b = 0xF0 then 0x90 else 0x80
    let hi : UInt8 := if b = 0xF4 then 0x8F else 0xBF
    let first := lo ≤ rest.headD 0 && rest.headD 0 ≤ hi && !rest.isEmpty
    match rest with
    | t1 :: t2 :: t3 :: _ =>
      if !first then (replacement, 0)
      else if !isTail t2 then (replacement, 1)
      else if !isTail t3 then (replacement, 2)
      else (Char.ofNat ((b &&& 0x07).toNat * 262144 + low6 t1 * 4096 + low6 t2 * 64 + low6 t3), 3)
    | [_, t2] => (replacement, if !first then 0 else if isTail t2 then 2 else 1)
    | _ => (replacement, if first then 1 else 0)
  else (replacement, 0)

/-- The characters of any octet list, each maximal ill-formed subpart replaced by U+FFFD. -/
def decodeLossy : List UInt8 → List Char
  | [] => []
  | b :: rest => (lead b rest).1 :: decodeLossy (rest.drop (lead b rest).2)
termination_by bs => bs.length
decreasing_by simp only [List.length_drop, List.length_cons]; omega

/-- The string an octet list spells, or `none` when it is not well-formed UTF-8. -/
def toString? (bs : List UInt8) : Option String := (decode bs).map String.ofList

/-! ## Checks -/

-- A sequence cut short is one replacement; an encoded surrogate is three, since `ED` allows
-- no second octet above `9F`.
example : decodeLossy [0xE2, 0x82, 0x41] = [replacement, 'A'] := by decide +kernel
example : decodeLossy [0xED, 0xA0, 0x80] = [replacement, replacement, replacement] := by
  decide +kernel

end Gatehouse.Text.Utf8
