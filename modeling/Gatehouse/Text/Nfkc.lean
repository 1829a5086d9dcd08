import Gatehouse.Text.Unicode.CombiningClass
import Gatehouse.Text.Unicode.Decomposition
import Gatehouse.Text.Unicode.Composition

/-!
Unicode Normalization Form KC.

A text is brought to NFKC in three steps over its code points:

1. `decompose`: every character is replaced by its full compatibility decomposition; a
   Hangul syllable splits into its leading consonant, vowel and, when it has one, trailing
   consonant;
2. `reorder`: every run of non-starters is sorted by combining class, stably, so marks of
   equal class keep their order;
3. `compose`: each character is joined to the last starter before it when the pair has a
   primary composite and no character between them blocks it (a blocker is a starter, or a
   mark of class at least the character's own); a leading consonant and a vowel make a
   Hangul syllable, and such a syllable and a trailing consonant make a longer one.
-/

namespace Gatehouse.Text.Nfkc

open Unicode

/-- The first Hangul syllable. -/
def syllableBase : Nat := 0xAC00
/-- The first leading consonant. -/
def leadBase : Nat := 0x1100
/-- The first vowel. -/
def vowelBase : Nat := 0x1161
/-- The code point before the first trailing consonant. -/
def trailBase : Nat := 0x11A7
/-- How many vowels there are. -/
def vowelCount : Nat := 21
/-- How many trailing consonants there are, counting none. -/
def trailCount : Nat := 28
/-- How many syllables share a leading consonant. -/
def blockCount : Nat := vowelCount * trailCount
/-- How many Hangul syllables there are. -/
def syllableCount : Nat := 11172

/-- The full compatibility decomposition of one code point. -/
def decomposeCode (n : Nat) : List Nat :=
  if syllableBase ≤ n ∧ n < syllableBase + syllableCount then
    let s := n - syllableBase
    let l := leadBase + s / blockCount
    let v := vowelBase + s % blockCount / trailCount
    let t := s % trailCount
    if t = 0 then [l, v] else [l, v, trailBase + t]
  else (decomposition? n).getD [n]

/-- Sorts a run of non-starters by combining class, keeping the order of equal classes. -/
def sortMarks (run : List Nat) : List Nat :=
  run.mergeSort fun a b => combiningClass a ≤ combiningClass b

/-- Canonical ordering; `pending` holds the current run of non-starters, last first. -/
def reorderWith : List Nat → List Nat → List Nat
  | pending, [] => sortMarks pending.reverse
  | pending, n :: rest =>
    if combiningClass n = 0 then sortMarks pending.reverse ++ n :: reorderWith [] rest
    else reorderWith (n :: pending) rest

/-- Canonical ordering of a code point list. -/
def reorder (ns : List Nat) : List Nat := reorderWith [] ns

/-- The composite of two code points: Hangul by arithmetic, else a primary composite. -/
def compose? (a b : Nat) : Option Nat :=
  if leadBase ≤ a ∧ a < leadBase + 19 ∧ vowelBase ≤ b ∧ b < vowelBase + vowelCount then
    some (syllableBase + ((a - leadBase) * vowelCount + (b - vowelBase)) * trailCount)
  else if syllableBase ≤ a ∧ a < syllableBase + syllableCount ∧ (a - syllableBase) % trailCount = 0
      ∧ trailBase < b ∧ b < trailBase + trailCount then
    some (a + (b - trailBase))
  else composite? a b

/-- The state of canonical composition between two code points. -/
structure Composer where
  /-- The starter later characters may join, once one has been seen. -/
  composee : Option Nat := none
  /-- The class of the last character kept after the starter, when one was kept. -/
  lastClass : Option Nat := none
  /-- Characters kept after the starter, last first. -/
  held : List Nat := []
  /-- Characters already final, last first. -/
  done : List Nat := []

/-- Canonical composition, one code point at a time. -/
def Composer.step (st : Composer) (n : Nat) : Composer :=
  let cls := combiningClass n
  match st.composee with
  | none => if cls ≠ 0 then { st with done := n :: st.done } else { st with composee := some n }
  | some k =>
    match st.lastClass with
    | none =>
      match compose? k n with
      | some r => { st with composee := some r }
      | none =>
        if cls = 0 then { st with composee := some n, done := k :: st.done }
        else { st with held := n :: st.held, lastClass := some cls }
    | some last =>
      if cls ≤ last then
        -- `n` is blocked from the starter
        if cls = 0 then
          { composee := some n, lastClass := none, held := [], done := st.held ++ k :: st.done }
        else { st with held := n :: st.held, lastClass := some cls }
      else
        match compose? k n with
        | some r => { st with composee := some r }
        | none => { st with held := n :: st.held, lastClass := some cls }

/-- The composed code points once the input is over. -/
def Composer.finish (st : Composer) : List Nat :=
  (st.done.reverse ++ st.composee.toList) ++ st.held.reverse

/-- Canonical composition of a canonically ordered code point list. -/
def compose (ns : List Nat) : List Nat := (ns.foldl Composer.step {}).finish

/-- The NFKC form of a character list. -/
def normalizeList (cs : List Char) : List Char :=
  (compose (reorder (cs.flatMap fun c => decomposeCode c.val.toNat))).map Char.ofNat

/-- The NFKC form of a string. -/
def normalize (s : String) : String := String.ofList (normalizeList s.toList)

end Gatehouse.Text.Nfkc
