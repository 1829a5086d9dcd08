import Gatehouse.Text.Unicode.Lowercase
import Gatehouse.Text.Unicode.CaseContext

/-!
Full Unicode lowercasing.

Each character is replaced by its full lowercase mapping, except the capital sigma, whose
lowercase depends on its place: it becomes the final sigma `ς` exactly when it ends a word,
that is, when skipping case-ignorable characters backwards reaches a cased character, and
skipping them forwards does not (the Final_Sigma condition);
elsewhere it becomes `σ`.
-/

namespace Gatehouse.Text.Lower

open Unicode

/-- The capital sigma. -/
def capitalSigma : Nat := 0x3A3

/-- Whether the first character that is not case-ignorable is cased (none: no). -/
def casedAfterIgnorable (cs : List Char) : Bool :=
  match cs.dropWhile (fun c => isCaseIgnorable c.val.toNat) with
  | c :: _ => isCased c.val.toNat
  | [] => false

/-- The lowercase of a capital sigma with `before` (nearest first) and `after` around it. -/
def sigmaLower (before after : List Char) : Char :=
  if casedAfterIgnorable before && !casedAfterIgnorable after then 'ς' else 'σ'

/-- The lowercase of one character, the capital sigma aside. -/
def lowerChar (c : Char) : List Char :=
  match lowercase? c.val.toNat with
  | some ns => ns.map Char.ofNat
  | none => [c]

/-- Lowercasing with the characters already passed, nearest first. -/
def lowerWith : List Char → List Char → List Char
  | _, [] => []
  | before, c :: after =>
    (if c.val.toNat = capitalSigma then [sigmaLower before after] else lowerChar c)
      ++ lowerWith (c :: before) after

/-- The full lowercase of a character list. -/
def lowerList (cs : List Char) : List Char := lowerWith [] cs

/-- The full lowercase of a string. -/
def lower (s : String) : String := String.ofList (lowerList s.toList)

end Gatehouse.Text.Lower
