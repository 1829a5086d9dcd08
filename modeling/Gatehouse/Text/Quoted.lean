import Gatehouse.Text.Unicode.Printable

/-!
Text shown in double quotes for people reading logs and messages.

Inside the quotes the double quote and the backslash get a backslash, the NUL, tab, return and
line feed are written `\0 \t \r \n`, and a character that is not printable (controls,
format characters, surrogates, private use, unassigned code points and every separator but
the space) or that extends a grapheme (a combining mark, which would otherwise attach to
what stands before it) is written `\u` followed by its code point in lowercase hexadecimal in
braces. Everything else stands as it is.
-/

namespace Gatehouse.Text

/-- The lowercase hexadecimal digits of a number, without leading zeros. -/
def hexDigits (n : Nat) : List Char :=
  (Nat.toDigits 16 n)

/-- The escaped form of one character inside quotes. -/
def quoteChar (c : Char) : List Char :=
  if c = '"' then ['\\', '"']
  else if c = '\\' then ['\\', '\\']
  else if c.toNat = 0 then ['\\', '0']
  else if c = '\t' then ['\\', 't']
  else if c = '\r' then ['\\', 'r']
  else if c = '\n' then ['\\', 'n']
  else if Unicode.isGraphemeExtend c.toNat || !Unicode.isPrintable c.toNat then
    ['\\', 'u', '\x7b'] ++ hexDigits c.toNat ++ ['\x7d']
  else [c]

/-- Text in double quotes, escaped for reading. -/
def quote (s : String) : String :=
  String.ofList ('"' :: s.toList.flatMap quoteChar ++ ['"'])

end Gatehouse.Text
