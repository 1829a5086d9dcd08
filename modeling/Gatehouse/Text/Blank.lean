/-!
Blank characters: the Unicode White_Space property, and trimming by it.

White_Space is a stable property of 25 code points: the ASCII controls `U+0009..U+000D`,
the space, `U+0085`, the no-break space `U+00A0`, the Ogham space mark `U+1680`, the spaces
`U+2000..U+200A`, the line and paragraph separators `U+2028`/`U+2029`, the narrow no-break
space `U+202F`, the medium mathematical space `U+205F` and the ideographic space `U+3000`.
The zero-width space `U+200B` is not among them. `trim` drops blanks at both ends and keeps
the rest as it stands.
-/

namespace Gatehouse.Text

/-- Whether a character has the Unicode White_Space property. -/
def isBlank (c : Char) : Bool :=
  let n := c.val
  (0x09 ≤ n && n ≤ 0x0D) || n == 0x20 || n == 0x85 || n == 0xA0 || n == 0x1680
    || (0x2000 ≤ n && n ≤ 0x200A) || n == 0x2028 || n == 0x2029 || n == 0x202F
    || n == 0x205F || n == 0x3000

/-- A character list with its leading and trailing blanks removed. -/
def trimList (cs : List Char) : List Char :=
  ((cs.dropWhile isBlank).reverse.dropWhile isBlank).reverse

/-- A string with its leading and trailing White_Space removed. -/
def trim (s : String) : String := String.ofList (trimList s.toList)

/-- Whether a string holds nothing but White_Space. -/
def isBlankText (s : String) : Bool := s.toList.all isBlank

end Gatehouse.Text
