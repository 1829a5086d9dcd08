import Gatehouse.Json.Value

/-!
Writing JSON text, compactly.

No blank is written between tokens. Inside a string the quote and the backslash are escaped,
the five controls with a short escape get it (`\b \t \n \f \r`), every other control below
U+0020 is written `\u00xx` with lower-case hex, and everything else, U+007F and all non-ASCII
text included, is written as it stands. Fields are written in the order the value holds them.
-/

namespace Gatehouse.Json

/-- The lower-case hex digit of a value below 16. -/
def hexDigit (n : Nat) : Char := "0123456789abcdef".toList.getD n '0'

/-- The escaped form of one character inside a string literal. -/
def escapeChar (c : Char) : List Char :=
  if c = '"' then ['\\', '"']
  else if c = '\\' then ['\\', '\\']
  else if c = '\n' then ['\\', 'n']
  else if c = '\r' then ['\\', 'r']
  else if c = '\t' then ['\\', 't']
  else if c.val = 0x08 then ['\\', 'b']
  else if c.val = 0x0C then ['\\', 'f']
  else if c.val < 0x20 then
    ['\\', 'u', '0', '0', hexDigit (c.val.toNat / 16), hexDigit (c.val.toNat % 16)]
  else [c]

/-- A string literal: the text in quotes, escaped. -/
def quote (s : String) : String :=
  String.ofList ('"' :: s.toList.flatMap escapeChar ++ ['"'])

/-- The text of a number. -/
def Number.render : Number → String
  | .int n => toString n
  | .float text _ => text

mutual

/-- The compact text of a value. -/
def Value.render : Value → String
  | .null => "null"
  | .bool true => "true"
  | .bool false => "false"
  | .num n => n.render
  | .str s => quote s
  | .unreadable _ _ => "null"
  | .arr items => "[" ++ renderItems items ++ "]"
  | .obj fields => "\x7b" ++ renderFields fields ++ "\x7d"

/-- Items separated by commas. -/
def renderItems : List Value → String
  | [] => ""
  | [v] => v.render
  | v :: vs => v.render ++ "," ++ renderItems vs

/-- Fields separated by commas, each a quoted name, a colon and a value. -/
def renderFields : List (String × Value) → String
  | [] => ""
  | [(k, v)] => quote k ++ ":" ++ v.render
  | (k, v) :: fs => quote k ++ ":" ++ v.render ++ "," ++ renderFields fs

end

/-- Fields as a sorted map keeps them: one per name, the last one given, in order of name. -/
def sortFields (fields : List (String × Value)) : List (String × Value) :=
  let lastFirst := fields.reverse.foldl
    (fun acc (k, v) => if acc.any (·.1 == k) then acc else acc ++ [(k, v)]) []
  lastFirst.mergeSort fun a b => decide (a.1 ≤ b.1)

mutual

/-- The value as sorted maps hold it: in every object one field per name, the last one given,
in order of name. -/
def Value.sorted : Value → Value
  | .arr items => .arr (sortedItems items)
  | .obj fields => .obj (sortFields (sortedFields fields))
  | v => v

/-- Items, each sorted. -/
def sortedItems : List Value → List Value
  | [] => []
  | v :: vs => v.sorted :: sortedItems vs

/-- Field values, each sorted. -/
def sortedFields : List (String × Value) → List (String × Value)
  | [] => []
  | (k, v) :: fs => (k, v.sorted) :: sortedFields fs

end

end Gatehouse.Json
