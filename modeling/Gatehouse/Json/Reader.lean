import Gatehouse.Json.Value
import Gatehouse.Text.Utf8

/-!
Reading JSON text, strictly.

The grammar is the standard JSON grammar with these decisions, each the strict choice:

* blanks between tokens are space, tab, line feed and carriage return;
  blanks may follow the value, nothing else may;
* a control character inside a string literal is refused, as is an escape other than the nine
  of the grammar (`\"`, `\\`, `\/`, `\b`, `\f`, `\n`, `\r`, `\t`, `\u`) and a `\u` escape without
  four hex digits;
* a string literal must spell Unicode text to be used as text: its bytes must be UTF-8 and
  its surrogate escapes must pair up. A literal that fails only that is kept as
  `Value.unreadable`, since a reader that skips the field does not look at it; an object key
  must always be text;
* a number without fraction or exponent is an integer when it fits 64 bits (`0..2^64-1`, or
  `-2^63..-1`); `-0` and every other literal are kept as written, and one whose magnitude is
  beyond the largest double carries its range fault, raised where the literal is read as
  data (a reader that skips it never looks at its magnitude);
* a document read as data nests at most 127 deep; a reader that skips a field does not
  count its depth.

Every refusal carries the byte index its position is reported at: the index of the byte that
was just read, or of the one after it when the reader only looked at it.
-/

namespace Gatehouse.Json

/-- A reading position: the bytes still to read and how many were read before them. -/
structure Cursor where
  rest : List UInt8
  pos : Nat

namespace Cursor

/-- The position one byte further. -/
def bump (c : Cursor) : Cursor :=
  match c.rest with
  | [] => c
  | _ :: r => ⟨r, c.pos + 1⟩

/-- A refusal reported at the bytes read so far. -/
def here (c : Cursor) (code : Fault.Code) : Fault := ⟨code, c.pos⟩

/-- A refusal reported at the byte looked at (the end, when there is none). -/
def ahead (c : Cursor) (code : Fault.Code) : Fault :=
  ⟨code, if c.rest.isEmpty then c.pos else c.pos + 1⟩

/-- The next byte, if any. -/
def peek? (c : Cursor) : Option UInt8 := c.rest.head?

end Cursor

/-- The four blanks of the grammar. -/
def isSpace (b : UInt8) : Bool := b == 0x20 || b == 0x0A || b == 0x09 || b == 0x0D

/-- A decimal digit. -/
def isDigit (b : UInt8) : Bool := 0x30 ≤ b && b ≤ 0x39

/-- The value of a digit byte. -/
def digitVal (b : UInt8) : Nat := b.toNat - 0x30

/-- The cursor past the blanks that start its rest. -/
def skipSpaceFrom : List UInt8 → Nat → Cursor
  | b :: r, p => if isSpace b then skipSpaceFrom r (p + 1) else ⟨b :: r, p⟩
  | [], p => ⟨[], p⟩

/-- The cursor past leading blanks. -/
def Cursor.skipSpace (c : Cursor) : Cursor := skipSpaceFrom c.rest c.pos

/-- The value of a hex digit byte. -/
def hexVal (b : UInt8) : Option Nat :=
  if 0x30 ≤ b && b ≤ 0x39 then some (b.toNat - 0x30)
  else if 0x41 ≤ b && b ≤ 0x46 then some (b.toNat - 0x41 + 10)
  else if 0x61 ≤ b && b ≤ 0x66 then some (b.toNat - 0x61 + 10)
  else none

/-- Four hex digits of a `\u` escape. -/
def readHex4 (c : Cursor) : Except Fault (Nat × Cursor) :=
  match c.rest with
  | a :: b :: d :: e :: r =>
    let c' : Cursor := ⟨r, c.pos + 4⟩
    match hexVal a, hexVal b, hexVal d, hexVal e with
    | some w, some x, some y, some z => .ok (w * 4096 + x * 256 + y * 16 + z, c')
    | _, _, _, _ => .error (c'.here .invalidEscape)
  | rest => .error ⟨.eofString, c.pos + rest.length⟩

/-- The byte a one-letter escape stands for. -/
def simpleEscape (b : UInt8) : Option UInt8 :=
  if b == 0x22 then some 0x22
  else if b == 0x5C then some 0x5C
  else if b == 0x2F then some 0x2F
  else if b == 0x62 then some 0x08
  else if b == 0x66 then some 0x0C
  else if b == 0x6E then some 0x0A
  else if b == 0x72 then some 0x0D
  else if b == 0x74 then some 0x09
  else none

/-- The UTF-8 bytes of a code point known to be a character. -/
def codeBytes (n : Nat) : List UInt8 := Text.Utf8.encodeChar (Char.ofNat n)

/-- A `\u` escape read as text (after the `u`): a surrogate must pair with the next escape. -/
def textUnicode (c : Cursor) : Except Fault (List UInt8 × Cursor) := do
  let (n, c1) ← readHex4 c
  if 0xDC00 ≤ n ∧ n ≤ 0xDFFF then throw (c1.here .loneSurrogate)
  if n < 0xD800 ∨ 0xDBFF < n then return (codeBytes n, c1)
  match c1.rest with
  | [] => throw (c1.here .eofString)
  | b :: r =>
    let c2 : Cursor := ⟨r, c1.pos + 1⟩
    if b != 0x5C then throw (c2.here .hexEscapeEnd)
    match c2.rest with
    | [] => throw (c2.here .eofString)
    | b2 :: r2 =>
      let c3 : Cursor := ⟨r2, c2.pos + 1⟩
      if b2 != 0x75 then throw (c3.here .hexEscapeEnd)
      let (n2, c4) ← readHex4 c3
      if n2 < 0xDC00 ∨ 0xDFFF < n2 then throw (c4.here .loneSurrogate)
      return (codeBytes (0x10000 + (n - 0xD800) * 1024 + (n2 - 0xDC00)), c4)

/-- An escape read as text (after the backslash). -/
def textEscape (c : Cursor) : Except Fault (List UInt8 × Cursor) :=
  match c.rest with
  | [] => .error (c.here .eofString)
  | ch :: r =>
    let c1 : Cursor := ⟨r, c.pos + 1⟩
    match simpleEscape ch with
    | some b => .ok ([b], c1)
    | none => if ch == 0x75 then textUnicode c1 else .error (c1.here .invalidEscape)

/-- The rest of a string literal read as text; `acc` holds the bytes so far, last first. -/
def scanTextLoop : Nat → Cursor → List UInt8 → Except Fault (String × Cursor)
  | 0, c, _ => .error (c.here .eofString)
  | fuel + 1, c, acc =>
    match c.rest with
    | [] => .error (c.here .eofString)
    | b :: r =>
      let c1 : Cursor := ⟨r, c.pos + 1⟩
      if b == 0x22 then
        match Text.Utf8.toString? acc.reverse with
        | some s => .ok (s, c1)
        | none => .error (c1.here .invalidCodePoint)
      else if b == 0x5C then
        match textEscape c1 with
        | .ok (bytes, c2) => scanTextLoop fuel c2 (bytes.reverse ++ acc)
        | .error f => .error f
      else if b < 0x20 then .error (c1.here .controlChar)
      else scanTextLoop fuel c1 (b :: acc)

/-- A string literal (after its opening quote) read as text. -/
def scanText (c : Cursor) : Except Fault (String × Cursor) :=
  scanTextLoop (c.rest.length + 1) c []

/-- The rest of a string literal skipped: only its syntax is checked. -/
def scanSkipLoop : Nat → Cursor → Except Fault Cursor
  | 0, c => .error (c.here .eofString)
  | fuel + 1, c =>
    match c.rest with
    | [] => .error (c.here .eofString)
    | b :: r =>
      let c1 : Cursor := ⟨r, c.pos + 1⟩
      if b == 0x22 then .ok c1
      else if b == 0x5C then
        match c1.rest with
        | [] => .error (c1.here .eofString)
        | ch :: r2 =>
          let c2 : Cursor := ⟨r2, c1.pos + 1⟩
          if (simpleEscape ch).isSome then scanSkipLoop fuel c2
          else if ch == 0x75 then
            match readHex4 c2 with
            | .ok (_, c3) => scanSkipLoop fuel c3
            | .error f => .error f
          else .error (c2.here .invalidEscape)
      else if b < 0x20 then .error (c.here .controlChar)
      else scanSkipLoop fuel c1

/-- A string literal (after its opening quote) skipped. -/
def scanSkip (c : Cursor) : Except Fault Cursor := scanSkipLoop (c.rest.length + 1) c

/-- A string value: its text, or `unreadable` when only the text checks fail. -/
def readString (c : Cursor) : Except Fault (Value × Cursor) :=
  match scanText c with
  | .ok (s, c') => .ok (.str s, c')
  | .error f =>
    match scanSkip c with
    | .ok c' => .ok (.unreadable f (f.index == c'.pos), c')
    | .error g => .error g

/-! ## Numbers -/

/-- The largest 64-bit unsigned integer, 2^64 - 1. -/
def u64Max : Nat := 18446744073709551615

/-- The largest 32-bit signed integer, 2^31 - 1, the bound on a written exponent. -/
def i32Max : Nat := 2147483647

/-- Whether `m · 10^e` is beyond the largest double once rounded (so it would read as an
infinity). -/
def beyondDouble (m : Nat) (e : Int) : Bool :=
  if m = 0 then false
  else if 308 < e then true
  else if e < 0 then false
  else (m.toUInt64.toFloat * Float.ofScientific 1 false e.toNat).isInf

/-- The literal text between two cursors over the same input. -/
def literalBetween (start stop : Cursor) : String :=
  String.ofList ((start.rest.take (stop.pos - start.pos)).map (Char.ofNat ·.toNat))

/-- Digits following the cursor, consumed. -/
def skipDigitsFrom : List UInt8 → Nat → Cursor
  | b :: r, p => if isDigit b then skipDigitsFrom r (p + 1) else ⟨b :: r, p⟩
  | [], p => ⟨[], p⟩

/-- The range fault of a finished float literal: present when its magnitude is beyond a
double. -/
def rangeFault (m : Nat) (e : Int) (c : Cursor) : Option Fault :=
  if beyondDouble m e then some (c.here .numberOutOfRange) else none

/-- The digits of an exponent (after `e` and its sign), accumulated while they fit 31 bits. -/
def exponentDigits : Nat → List UInt8 → Nat → Nat → Option (Nat × Cursor)
  | 0, r, p, acc => some (acc, ⟨r, p⟩)
  | fuel + 1, b :: r, p, acc =>
    if isDigit b then
      if i32Max < acc * 10 + digitVal b then none
      else exponentDigits fuel r (p + 1) (acc * 10 + digitVal b)
    else some (acc, ⟨b :: r, p⟩)
  | _ + 1, [], p, acc => some (acc, ⟨[], p⟩)

/-- The position right after the digit that makes an exponent overflow 31 bits. -/
def overflowDigit : Nat → List UInt8 → Nat → Nat → Cursor
  | 0, r, p, _ => ⟨r, p⟩
  | fuel + 1, b :: r, p, acc =>
    if i32Max < acc * 10 + digitVal b then ⟨r, p + 1⟩
    else overflowDigit fuel r (p + 1) (acc * 10 + digitVal b)
  | _ + 1, [], p, _ => ⟨[], p⟩

/-- Whether computing a float literal's magnitude stops inside its exponent, before the
literal's last digit: the digits before the exponent are not all zero, the exponent is not
negative, and its digits pass 2^31 - 1 before the last one (`readExponent` then reports the
range fault right after the digit that passed it). -/
def cutShort (literal : String) : Bool :=
  let cs := literal.toList
  let mantissa := cs.takeWhile fun c => c != 'e' && c != 'E'
  match cs.drop mantissa.length with
  | _ :: afterE =>
    let (negativeExp, digits) := match afterE with
      | '-' :: ds => (true, ds)
      | '+' :: ds => (false, ds)
      | ds => (false, ds)
    let value := digits.dropLast.foldl (fun acc d => acc * 10 + (d.toNat - 48)) 0
    mantissa.any (fun c => '1' ≤ c && c ≤ '9') && !negativeExp && i32Max < value
  | [] => false

/-- A float literal read to its end: the cursor there and its range fault. -/
abbrev FloatEnd := Except Fault (Cursor × Option Fault)

/-- An exponent part (at the `e`), for a float with digits `m` and exponent so far `e0`. -/
def readExponent (m : Nat) (e0 : Int) (c : Cursor) : FloatEnd :=
  let c1 := c.bump
  let (positiveExp, c2) :=
    match c1.peek? with
    | some 0x2B => (true, c1.bump)
    | some 0x2D => (false, c1.bump)
    | _ => (true, c1)
  match c2.rest with
  | [] => .error (c2.here .eofValue)
  | b :: r =>
    if !isDigit b then .error (Cursor.here ⟨r, c2.pos + 1⟩ .invalidNumber)
    else
      match exponentDigits c2.rest.length c2.rest c2.pos 0 with
      | some (x, c3) =>
        .ok (c3, rangeFault m (if positiveExp then e0 + x else e0 - x) c3)
      | none =>
        let c3 := overflowDigit c2.rest.length c2.rest c2.pos 0
        let range := if m ≠ 0 && positiveExp then some (c3.here .numberOutOfRange) else none
        .ok (skipDigitsFrom c3.rest c3.pos, range)

/-- Digits after a decimal point, accumulated while the digits fit 64 bits; further digits
only count as read. Returns the digits, how many were taken, and the cursor. -/
def fractionDigits : Nat → List UInt8 → Nat → Nat → Nat → Bool → (Nat × Nat × Cursor)
  | 0, r, p, m, k, _ => (m, k, ⟨r, p⟩)
  | fuel + 1, b :: r, p, m, k, full =>
    if isDigit b then
      if full || u64Max < m * 10 + digitVal b then fractionDigits fuel r (p + 1) m k true
      else fractionDigits fuel r (p + 1) (m * 10 + digitVal b) (k + 1) false
    else (m, k, ⟨b :: r, p⟩)
  | _ + 1, [], p, m, k, _ => (m, k, ⟨[], p⟩)

/-- A fraction part (at the `.`), for digits `m` and exponent so far `e0`. -/
def readFraction (m : Nat) (e0 : Int) (c : Cursor) : FloatEnd :=
  let c1 := c.bump
  match c1.rest with
  | b :: _ =>
    if !isDigit b then .error (c1.ahead .invalidNumber)
    else
      let (m', k, c2) := fractionDigits c1.rest.length c1.rest c1.pos m 0 false
      let e := e0 - k
      match c2.peek? with
      | some 0x65 | some 0x45 => readExponent m' e c2
      | _ => .ok (c2, rangeFault m' e c2)
  | [] => .error (c1.ahead .eofValue)

/-- Integer digits after the first, while they fit 64 bits; the digits beyond only raise the
exponent. Returns the digits, the count of digits beyond, and the cursor. -/
def integerDigits : Nat → List UInt8 → Nat → Nat → Nat → (Nat × Nat × Cursor)
  | 0, r, p, m, extra => (m, extra, ⟨r, p⟩)
  | fuel + 1, b :: r, p, m, extra =>
    if isDigit b then
      if extra > 0 || u64Max < m * 10 + digitVal b then integerDigits fuel r (p + 1) m (extra + 1)
      else integerDigits fuel r (p + 1) (m * 10 + digitVal b) 0
    else (m, extra, ⟨b :: r, p⟩)
  | _ + 1, [], p, m, extra => (m, extra, ⟨[], p⟩)

/-- A number literal; `start` is at its first byte and `c` past its sign. -/
def readNumber (negative : Bool) (start c : Cursor) : Except Fault (Value × Cursor) :=
  let asFloat (r : FloatEnd) : Except Fault (Value × Cursor) :=
    r.map fun (c', range) => (.num (.float (literalBetween start c') range), c')
  match c.rest with
  | [] => .error (c.here .eofValue)
  | b :: r =>
    let c1 : Cursor := ⟨r, c.pos + 1⟩
    if !isDigit b then .error (c1.here .invalidNumber)
    else
      -- a leading zero stands alone
      let parsed : Except Fault (Nat × Nat × Cursor) :=
        if b == 0x30 then
          match c1.peek? with
          | some d => if isDigit d then .error (c1.ahead .invalidNumber) else .ok (0, 0, c1)
          | none => .ok (0, 0, c1)
        else .ok (integerDigits c1.rest.length c1.rest c1.pos (digitVal b) 0)
      match parsed with
      | .error f => .error f
      | .ok (m, extra, c2) =>
        match c2.peek? with
        | some 0x2E => asFloat (readFraction m extra c2)
        | some 0x65 | some 0x45 => asFloat (readExponent m extra c2)
        | _ =>
          if extra > 0 then asFloat (.ok (c2, rangeFault m extra c2))
          else if !negative then .ok (.int m, c2)
          else if 1 ≤ m ∧ m ≤ 9223372036854775808 then .ok (.int (-(m : Int)), c2)
          else asFloat (.ok (c2, none))

/-- The letters of `null`, `true` or `false` after the first. -/
def readWord : List UInt8 → Cursor → Except Fault Cursor
  | [], c => .ok c
  | w :: ws, c =>
    match c.rest with
    | [] => .error (c.here .eofValue)
    | b :: r =>
      let c1 : Cursor := ⟨r, c.pos + 1⟩
      if b == w then readWord ws c1 else .error (c1.here .expectedIdent)

/-! ## Values -/

mutual

/-- A value, with fuel for the calls. -/
def readValue : Nat → Cursor → Except Fault (Value × Cursor)
  | 0, c => .error (c.here .eofValue)
  | fuel + 1, c0 =>
    let c := c0.skipSpace
    match c.rest with
    | [] => .error (c.ahead .eofValue)
    | b :: _ =>
      if b == 0x6E then (readWord [0x75, 0x6C, 0x6C] c.bump).map (.null, ·)
      else if b == 0x74 then (readWord [0x72, 0x75, 0x65] c.bump).map (.bool true, ·)
      else if b == 0x66 then (readWord [0x61, 0x6C, 0x73, 0x65] c.bump).map (.bool false, ·)
      else if b == 0x2D then readNumber true c c.bump
      else if isDigit b then readNumber false c c
      else if b == 0x22 then readString c.bump
      else if b == 0x5B then readItems fuel c.bump true []
      else if b == 0x7B then readFields fuel c.bump true []
      else .error (c.ahead .expectedValue)

/-- The items of an array after `[` or after an item; `acc` holds them, last first. -/
def readItems : Nat → Cursor → Bool → List Value → Except Fault (Value × Cursor)
  | 0, c, _, _ => .error (c.here .eofList)
  | fuel + 1, c0, first, acc =>
    let c := c0.skipSpace
    match c.rest with
    | [] => .error (c.ahead .eofList)
    | b :: _ =>
      if b == 0x5D then .ok (.arr acc.reverse, c.bump)
      else if first then
        match readValue fuel c with
        | .ok (v, c') => readItems fuel c' false (v :: acc)
        | .error f => .error f
      else if b == 0x2C then
        let c2 := c.bump.skipSpace
        match c2.rest with
        | [] => .error (c2.ahead .eofValue)
        | b2 :: _ =>
          if b2 == 0x5D then .error (c2.ahead .trailingComma)
          else
            match readValue fuel c2 with
            | .ok (v, c') => readItems fuel c' false (v :: acc)
            | .error f => .error f
      else .error (c.ahead .expectedListEnd)

/-- The fields of an object after `{` or after a field; `acc` holds them, last first. -/
def readFields : Nat → Cursor → Bool → List (String × Value) → Except Fault (Value × Cursor)
  | 0, c, _, _ => .error (c.here .eofObject)
  | fuel + 1, c0, first, acc =>
    let c := c0.skipSpace
    match c.rest with
    | [] => .error (c.ahead .eofObject)
    | b :: _ =>
      if b == 0x7D then .ok (.obj acc.reverse, c.bump)
      else if first then
        if b == 0x22 then readField fuel c acc
        else .error (c.ahead .keyNotString)
      else if b == 0x2C then
        let c2 := c.bump.skipSpace
        match c2.rest with
        | [] => .error (c2.ahead .eofValue)
        | b2 :: _ =>
          if b2 == 0x22 then readField fuel c2 acc
          else if b2 == 0x7D then .error (c2.ahead .trailingComma)
          else .error (c2.ahead .keyNotString)
      else .error (c.ahead .expectedObjectEnd)

/-- One field (at the quote of its key), then the fields after it. -/
def readField : Nat → Cursor → List (String × Value) → Except Fault (Value × Cursor)
  | 0, c, _ => .error (c.here .eofObject)
  | fuel + 1, c, acc =>
    match scanText c.bump with
    | .error f => .error f
    | .ok (key, c1) =>
      let c2 := c1.skipSpace
      match c2.rest with
      | [] => .error (c2.ahead .eofObject)
      | b :: _ =>
        if b != 0x3A then .error (c2.ahead .expectedColon)
        else
          match readValue fuel c2.bump with
          | .ok (v, c3) => readFields fuel c3 false ((key, v) :: acc)
          | .error f => .error f

end

/-- The syntax of a whole document: one value, then only blanks. Strings that are not text
and numbers beyond a double are kept in the value for the reader of each field to judge. -/
def parse (bs : List UInt8) : Except Fault Value := do
  let (v, c) ← readValue (2 * bs.length + 4) ⟨bs, 0⟩
  let c := c.skipSpace
  if c.rest.isEmpty then return v else throw (c.ahead .trailingCharacters)

/-- The deepest nesting a document read as data may have. -/
def depthLimit : Nat := 127

/-- A whole document read as data: its syntax, every string text, every number within a
double, and at most `depthLimit` levels of nesting. -/
def readBytes (bs : List UInt8) : Except Fault Value := do
  let v ← parse bs
  if let some f := v.dataFault? then throw f
  if depthLimit < v.depth then throw ⟨.recursionLimit, 0⟩
  return v

/-- A whole document given as a string, read as data. -/
def read (s : String) : Except Fault Value := readBytes (Text.Utf8.ofString s)

/-- Line and column of a byte index: lines from 1, the column counts the bytes of its line
up to the index. -/
def position (bs : List UInt8) (index : Nat) : Nat × Nat :=
  let before := bs.take index
  let lineStart := before.length - (before.reverse.takeWhile (· != 0x0A)).length
  (1 + (before.take lineStart).count 0x0A, index - lineStart)

/-- A refusal in words, with its position in the document. -/
def Fault.describe (bs : List UInt8) (f : Fault) : String :=
  let (line, column) := position bs f.index
  f.code.text ++ " at line " ++ toString line ++ " column " ++ toString column

end Gatehouse.Json
