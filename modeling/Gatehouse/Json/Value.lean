/-!
JSON values as this library reads and writes them.

A value keeps what the readers downstream need to decide. Numbers are classified once, as a
64-bit integer or as anything else, kept as written together with the fault a reader that
needs its magnitude reports when it is beyond a double. A string literal whose content is not
Unicode text (invalid UTF-8, a lone surrogate escape) is kept as `unreadable` together with
the fault a reader that needs the text reports. Either way a reader that skips the field can
still accept the document. Object fields keep their order and their repetitions, so a reader
can refuse a repeated field or take the last one.

`Fault` also lives here: the causes a document is refused for, each with its standard
wording, and the byte index that the position in a message is computed from.
-/

namespace Gatehouse.Json

/-- Why a document, or a string literal in it, is refused. -/
inductive Fault.Code where
  | eofValue
  | eofString
  | eofList
  | eofObject
  | expectedColon
  | expectedListEnd
  | expectedObjectEnd
  | expectedIdent
  | expectedValue
  | invalidEscape
  | invalidNumber
  | numberOutOfRange
  | invalidCodePoint
  | controlChar
  | keyNotString
  | loneSurrogate
  | trailingComma
  | trailingCharacters
  | hexEscapeEnd
  | recursionLimit
  deriving DecidableEq, Repr

/-- The standard wording of each cause. -/
def Fault.Code.text : Fault.Code → String
  | .eofValue => "EOF while parsing a value"
  | .eofString => "EOF while parsing a string"
  | .eofList => "EOF while parsing a list"
  | .eofObject => "EOF while parsing an object"
  | .expectedColon => "expected `:`"
  | .expectedListEnd => "expected `,` or `]`"
  | .expectedObjectEnd => "expected `,` or `\x7d`"
  | .expectedIdent => "expected ident"
  | .expectedValue => "expected value"
  | .invalidEscape => "invalid escape"
  | .invalidNumber => "invalid number"
  | .numberOutOfRange => "number out of range"
  | .invalidCodePoint => "invalid unicode code point"
  | .controlChar => "control character (\\u0000-\\u001F) found while parsing a string"
  | .keyNotString => "key must be a string"
  | .loneSurrogate => "lone leading surrogate in hex escape"
  | .trailingComma => "trailing comma"
  | .trailingCharacters => "trailing characters"
  | .hexEscapeEnd => "unexpected end of hex escape"
  | .recursionLimit => "recursion limit exceeded"

/-- A refusal: its cause and the byte index its position is reported at. -/
structure Fault where
  code : Fault.Code
  index : Nat
  deriving DecidableEq, Repr

/-- Whether a cause arises only when a string must be text (a skipped string may hold it). -/
def Fault.Code.isTextOnly : Fault.Code → Bool
  | .invalidCodePoint | .loneSurrogate | .hexEscapeEnd => true
  | _ => false

/-- A number as the reader classifies it. -/
inductive Number where
  /-- A literal without fraction or exponent in `0..2^64-1`, or in `-2^63..-1`. -/
  | int (n : Int)
  /-- Any other literal (`-0`, a fraction, an exponent, a wider integer), as written, with the
  fault of reading it as a double when its magnitude is beyond the largest one. -/
  | float (text : String) (range : Option Fault)
  deriving DecidableEq, Repr

/-- A JSON value. -/
inductive Value where
  | null
  | bool (b : Bool)
  | num (n : Number)
  | str (s : String)
  /-- A string literal whose content is not Unicode text, with the fault reading it as text
  reports, and whether that reader had read the whole literal when it met the fault. -/
  | unreadable (fault : Fault) (atEnd : Bool)
  | arr (items : List Value)
  | obj (fields : List (String × Value))
  deriving Repr

namespace Value

/-- An integer value. -/
def int (n : Int) : Value := .num (.int n)

/-- The last field of an object under a name (a repeated name: the last one counts). -/
def field? (v : Value) (name : String) : Option Value :=
  match v with
  | .obj fields => (fields.reverse.find? (·.1 == name)).map (·.2)
  | _ => none

/-- The text of a string value. -/
def str? : Value → Option String
  | .str s => some s
  | _ => none

/-- The integer of an integer value. -/
def int? : Value → Option Int
  | .num (.int n) => some n
  | _ => none

/-- Whether the value is `null`. -/
def isNull : Value → Bool
  | .null => true
  | _ => false

/-- The fields of an object value. -/
def fields? : Value → Option (List (String × Value))
  | .obj fields => some fields
  | _ => none

/-- The items of an array value. -/
def items? : Value → Option (List Value)
  | .arr items => some items
  | _ => none

mutual

/-- How many arrays and objects nest at the deepest point (a scalar has depth zero). -/
def depth : Value → Nat
  | .arr items => 1 + depthItems items
  | .obj fields => 1 + depthFields fields
  | _ => 0

/-- The deepest nesting among items. -/
def depthItems : List Value → Nat
  | [] => 0
  | v :: vs => max (depth v) (depthItems vs)

/-- The deepest nesting among field values. -/
def depthFields : List (String × Value) → Nat
  | [] => 0
  | (_, v) :: fs => max (depth v) (depthFields fs)

end

mutual

/-- The first fault a reader that takes the whole value as data meets: a string that is not
text or a number beyond a double, in document order. -/
def dataFault? : Value → Option Fault
  | .unreadable f _ => some f
  | .num (.float _ (some f)) => some f
  | .arr items => itemsFault? items
  | .obj fields => fieldsFault? fields
  | _ => none

/-- The first data fault among items. -/
def itemsFault? : List Value → Option Fault
  | [] => none
  | v :: vs => (dataFault? v).orElse fun _ => itemsFault? vs

/-- The first data fault among field values. -/
def fieldsFault? : List (String × Value) → Option Fault
  | [] => none
  | (_, v) :: fs => (dataFault? v).orElse fun _ => fieldsFault? fs

end

mutual

/-- The value with every string (not key) passed through a function. -/
def mapStrings (f : String → String) : Value → Value
  | .str s => .str (f s)
  | .arr items => .arr (mapStringsItems f items)
  | .obj fields => .obj (mapStringsFields f fields)
  | v => v

/-- Items with every string passed through a function. -/
def mapStringsItems (f : String → String) : List Value → List Value
  | [] => []
  | v :: vs => mapStrings f v :: mapStringsItems f vs

/-- Field values with every string passed through a function. -/
def mapStringsFields (f : String → String) : List (String × Value) → List (String × Value)
  | [] => []
  | (k, v) :: fs => (k, mapStrings f v) :: mapStringsFields f fs

end

end Value

end Gatehouse.Json
