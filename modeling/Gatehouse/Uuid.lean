/-!
Universally unique identifiers: 128 bits, written as 32 hexadecimal digits,
plain (`simple`) or in groups of 8-4-4-4-12 joined by hyphens (`hyphenated`).

Identifiers of version 4 are made here from a serial number instead of random bits: the
serial fills the 128 bits, then the version nibble is set to 4 and the variant bits to `10`.
Distinct serials below 2^122 give distinct identifiers.

Reading accepts the four spellings in use: simple, hyphenated, hyphenated in braces, and
hyphenated after `urn:uuid:`; hexadecimal digits in either case.
-/

namespace Gatehouse.Uuid

/-- The sixteen bytes of a number below 2^128, most significant first. -/
def bytesOf (n : Nat) : List UInt8 :=
  (List.range 16).reverse.map fun i => (n / Nat.pow 256 i % 256).toUInt8

/-- The version-4 identifier made from a serial number. -/
def ofSerial (n : Nat) : List UInt8 :=
  (bytesOf n).mapIdx fun i b =>
    if i = 6 then (b &&& 0x0f) ||| 0x40
    else if i = 8 then (b &&& 0x3f) ||| 0x80
    else b

/-- A lowercase hexadecimal digit. -/
def hexChar (n : Nat) : Char :=
  if n < 10 then Char.ofNat (48 + n) else Char.ofNat (87 + n)

/-- The two hexadecimal digits of a byte. -/
def byteHex (b : UInt8) : List Char := [hexChar (b.toNat / 16), hexChar (b.toNat % 16)]

/-- The 32 digits without separators. -/
def simple (bytes : List UInt8) : String := String.ofList (bytes.flatMap byteHex)

/-- The 8-4-4-4-12 form. -/
def hyphenated (bytes : List UInt8) : String :=
  let d := bytes.flatMap byteHex
  String.ofList (d.take 8 ++ ['-'] ++ (d.drop 8).take 4 ++ ['-'] ++ (d.drop 12).take 4
    ++ ['-'] ++ (d.drop 16).take 4 ++ ['-'] ++ d.drop 20)

/-- The value of a hexadecimal digit of either case. -/
def hexValue? (c : Char) : Option Nat :=
  if '0' ≤ c ∧ c ≤ '9' then some (c.toNat - 48)
  else if 'a' ≤ c ∧ c ≤ 'f' then some (c.toNat - 87)
  else if 'A' ≤ c ∧ c ≤ 'F' then some (c.toNat - 55)
  else none

/-- The bytes of an even run of hexadecimal digits. -/
def hexBytes? : List Char → Option (List UInt8)
  | [] => some []
  | a :: b :: rest => do
    let hi ← hexValue? a
    let lo ← hexValue? b
    let tail ← hexBytes? rest
    return (hi * 16 + lo).toUInt8 :: tail
  | [_] => none

/-- The digits of the 8-4-4-4-12 form, when the hyphens stand where they belong. -/
def groupDigits? (cs : List Char) : Option (List Char) :=
  if cs.length = 36 ∧ cs[8]? = some '-' ∧ cs[13]? = some '-' ∧ cs[18]? = some '-'
      ∧ cs[23]? = some '-' then
    some (cs.take 8 ++ (cs.drop 9).take 4 ++ (cs.drop 14).take 4 ++ (cs.drop 19).take 4
      ++ cs.drop 24)
  else none

/-- The bytes of an identifier in any of the accepted spellings. -/
def parse? (s : String) : Option (List UInt8) :=
  let cs := s.toList
  let digits? :=
    if cs.length = 32 then some cs
    else if cs.length = 36 then groupDigits? cs
    else if cs.length = 38 ∧ cs.head? = some '{' ∧ cs.getLast? = some '}' then
      groupDigits? ((cs.drop 1).take 36)
    else if cs.length = 45 ∧ cs.take 9 = "urn:uuid:".toList then groupDigits? (cs.drop 9)
    else none
  digits? >>= hexBytes?

/-- The version nibble of an identifier. -/
def version (bytes : List UInt8) : Nat := (bytes.getD 6 0).toNat / 16

/-- Whether text is the hyphenated lowercase spelling of an identifier of version 4. -/
def isVersion4 (s : String) : Bool :=
  match parse? s with
  | some bytes => version bytes == 4 && hyphenated bytes == s
  | none => false

end Gatehouse.Uuid
