/-!
Base64, in its two alphabets, decoded strictly.

An `Alphabet` names the two characters after `A-Z a-z 0-9` (`+ /` for the standard form,
`- _` for the URL form) and whether `=` pads the last group. Encoding writes four characters
per three bytes; a final group of one or two bytes gives two or three characters, padded to
four when the alphabet pads.

Decoding accepts exactly what encoding writes, nothing else: characters of the alphabet only
(no blank, no character of the other alphabet); with padding, a length that is a multiple of
four and `=` only as the last one or two characters; without padding, no `=` at all and no
final group of one character; and the bits a final group leaves unused must be zero, so
every byte string has one encoding.
-/

namespace Gatehouse.Encoding.Base64

/-- The two alphabet-specific characters and whether the last group is padded. -/
structure Alphabet where
  c62 : Char
  c63 : Char
  padded : Bool

/-- The standard alphabet, padded. -/
def Alphabet.standard : Alphabet := ⟨'+', '/', true⟩

/-- The URL alphabet, without padding. -/
def Alphabet.url : Alphabet := ⟨'-', '_', false⟩

/-- The character of a six-bit value. -/
def Alphabet.char (a : Alphabet) (n : Nat) : Char :=
  if n < 26 then Char.ofNat (0x41 + n)
  else if n < 52 then Char.ofNat (0x61 + n - 26)
  else if n < 62 then Char.ofNat (0x30 + n - 52)
  else if n = 62 then a.c62
  else a.c63

/-- The six-bit value of a character of the alphabet. -/
def Alphabet.value? (a : Alphabet) (c : Char) : Option Nat :=
  let n := c.val.toNat
  if 0x41 ≤ n ∧ n ≤ 0x5A then some (n - 0x41)
  else if 0x61 ≤ n ∧ n ≤ 0x7A then some (n - 0x61 + 26)
  else if 0x30 ≤ n ∧ n ≤ 0x39 then some (n - 0x30 + 52)
  else if c = a.c62 then some 62
  else if c = a.c63 then some 63
  else none

/-- The characters of a byte list. -/
def encodeList (a : Alphabet) : List UInt8 → List Char
  | [] => []
  | [x] =>
    let n := x.toNat
    [a.char (n / 4), a.char (n % 4 * 16)] ++ (if a.padded then ['=', '='] else [])
  | [x, y] =>
    let n := x.toNat * 256 + y.toNat
    [a.char (n / 1024), a.char (n / 16 % 64), a.char (n % 16 * 4)]
      ++ (if a.padded then ['='] else [])
  | x :: y :: z :: rest =>
    let n := x.toNat * 65536 + y.toNat * 256 + z.toNat
    [a.char (n / 262144), a.char (n / 4096 % 64), a.char (n / 64 % 64), a.char (n % 64)]
      ++ encodeList a rest

/-- The encoding of a byte list. -/
def encode (a : Alphabet) (bs : List UInt8) : String := String.ofList (encodeList a bs)

/-- The bytes of characters without padding, or `none` when one is outside the alphabet, the
last group has a single character, or its unused bits are not zero. -/
def decodeList (a : Alphabet) : List Char → Option (List UInt8)
  | [] => some []
  | [_] => none
  | [c1, c2] => do
    let v1 ← a.value? c1
    let v2 ← a.value? c2
    if v2 % 16 ≠ 0 then none
    return [(v1 * 4 + v2 / 16).toUInt8]
  | [c1, c2, c3] => do
    let v1 ← a.value? c1
    let v2 ← a.value? c2
    let v3 ← a.value? c3
    if v3 % 4 ≠ 0 then none
    let n := v1 * 4096 + v2 * 64 + v3
    return [(n / 1024).toUInt8, (n / 4 % 256).toUInt8]
  | c1 :: c2 :: c3 :: c4 :: rest => do
    let v1 ← a.value? c1
    let v2 ← a.value? c2
    let v3 ← a.value? c3
    let v4 ← a.value? c4
    let n := v1 * 262144 + v2 * 4096 + v3 * 64 + v4
    let tail ← decodeList a rest
    return (n / 65536).toUInt8 :: (n / 256 % 256).toUInt8 :: (n % 256).toUInt8 :: tail

/-- The characters left once the padding of the last group is taken off, or `none` when the
padding is wrong: a length not a multiple of four, `=` elsewhere than at the end, or more
than two of them. -/
def unpad (cs : List Char) : Option (List Char) :=
  if cs.length % 4 ≠ 0 then none
  else
    let body := (cs.reverse.dropWhile (· = '=')).reverse
    let pads := cs.length - body.length
    if pads ≤ 2 ∧ body.length % 4 ≠ 1 ∧ (pads = 0 ∨ body.length % 4 = 4 - pads) then some body
    else none

/-- The bytes an encoding spells, or `none` when the text is not exactly an encoding. -/
def decode (a : Alphabet) (s : String) : Option (List UInt8) :=
  if a.padded then
    match unpad s.toList with
    | some body => decodeList a body
    | none => none
  else decodeList a s.toList

end Gatehouse.Encoding.Base64
