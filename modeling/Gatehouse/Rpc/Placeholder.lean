import Gatehouse.Json.Value

/-!
Names for the tokens of a scenario.

Tokens depend on the clock and on fresh identifiers, so a scenario never spells them out:
each token handed out by a successful step gets a name (`A1, A2, …` for access tokens,
`R1, …` for refresh tokens, `M1, …` for tokens minted by the scenario itself), and a step's
strings may refer to them in braces: `{A3}` the third access token, `{A}` the latest, `{A~2}`
the second before the latest (one to nine back). A reference to no token stays as written.

Answers are shown with every named token (but minted ones with fixed times, which are
spelled out) replaced by its reference.
-/

namespace Gatehouse.Rpc

/-- The families of named tokens. -/
inductive Family where
  | access
  | refresh
  | minted
  deriving DecidableEq, Repr

/-- The letter of a family. -/
def Family.letter : Family → Char
  | .access => 'A'
  | .refresh => 'R'
  | .minted => 'M'

/-- The family of a letter. -/
def Family.ofLetter? (c : Char) : Option Family :=
  if c = 'A' then some .access else if c = 'R' then some .refresh
  else if c = 'M' then some .minted else none

/-- The named tokens of a scenario: each family's tokens in the order named, and the tokens
to hide in answers with their names. -/
structure Names where
  access : List String
  refresh : List String
  minted : List String
  hidden : List (String × String)
  deriving Repr

namespace Names

/-- No tokens yet. -/
def empty : Names := ⟨[], [], [], []⟩

/-- The tokens of a family. -/
def tokens (n : Names) : Family → List String
  | .access => n.access
  | .refresh => n.refresh
  | .minted => n.minted

/-- The reference to a family's `k`-th token (from 1). -/
def nameOf (fam : Family) (k : Nat) : String :=
  String.ofList ['\x7b', fam.letter] ++ toString k ++ String.ofList ['\x7d']

/-- Name a token of a family, hidden in answers or not, and give its name; a token the family
has already named keeps its name. -/
def add (n : Names) (fam : Family) (token : String) (hide : Bool) : Names × String :=
  match (n.tokens fam).idxOf? token with
  | some i => (n, nameOf fam (i + 1))
  | none =>
    let name := nameOf fam ((n.tokens fam).length + 1)
    let n' := match fam with
      | .access => { n with access := n.access ++ [token] }
      | .refresh => { n with refresh := n.refresh ++ [token] }
      | .minted => { n with minted := n.minted ++ [token] }
    (if hide then { n' with hidden := n'.hidden ++ [(token, name)] } else n', name)

/-- The token a reference names: the family's `k`-th (from 1), or `back` places before the
latest. -/
def resolve? (n : Names) (fam : Family) : Sum Nat Nat → Option String
  | .inl k => if k = 0 then none else (n.tokens fam)[k - 1]?
  | .inr back =>
    let ts := n.tokens fam
    if back < ts.length then ts[ts.length - 1 - back]? else none

/-- A reference at the front of text (after its opening brace): its family, which token, and
how many characters it takes up to and with its closing brace. -/
def reference? (cs : List Char) : Option (Family × Sum Nat Nat × Nat) :=
  match cs with
  | c :: rest =>
    match Family.ofLetter? c with
    | none => none
    | some fam =>
      match rest with
      | '\x7d' :: _ => some (fam, .inr 0, 2)
      | '~' :: d :: '\x7d' :: _ =>
        if '1' ≤ d ∧ d ≤ '9' then some (fam, .inr (d.toNat - 48), 4) else none
      | _ =>
        let digits := rest.takeWhile Char.isDigit
        match rest.drop digits.length with
        | '\x7d' :: _ =>
          if digits.isEmpty then none
          else some (fam, .inl (digits.foldl (fun a d => 10 * a + (d.toNat - 48)) 0),
            digits.length + 2)
        | _ => none
  | [] => none

/-- Text with every reference to a token replaced by the token. -/
def expandChars (n : Names) : List Char → List Char
  | [] => []
  | c :: rest =>
    if c = '\x7b' then
      match reference? rest with
      | some (fam, which, k) =>
        match n.resolve? fam which with
        | some token => token.toList ++ expandChars n (rest.drop k)
        | none => c :: expandChars n rest
      | none => c :: expandChars n rest
    else c :: expandChars n rest
termination_by cs => cs.length
decreasing_by all_goals simp only [List.length_drop, List.length_cons]; omega

/-- Text with every reference to a token replaced by the token. -/
def expand (n : Names) (s : String) : String := String.ofList (n.expandChars s.toList)

/-- Every string of a value expanded; keys stay. -/
def expandValue (n : Names) (v : Json.Value) : Json.Value := v.mapStrings n.expand

/-- Text with every occurrence of a hidden token replaced by its reference. -/
def hide (n : Names) (s : String) : String :=
  n.hidden.foldl (fun acc (token, name) => acc.replace token name) s

/-- Every string of a value with the hidden tokens replaced. -/
def hideValue (n : Names) (v : Json.Value) : Json.Value := v.mapStrings n.hide

end Names

end Gatehouse.Rpc
