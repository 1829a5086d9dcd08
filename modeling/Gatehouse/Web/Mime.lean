import Gatehouse.Web.Header

/-!
Media types as a request names them in `content-type`, and the test for JSON.

A media type is `type/subtype`, the type one or more token characters and the subtype zero
or more, compared in lowercase; the subtype may end in a structured suffix after its last
`+` that is not its first character (`application/ld+json`). Parameters may follow the first
`;`: each is a token name, `=`, and a value that is either a run of token characters (possibly
empty, at the very end) or a quoted string followed by optional spaces; spaces may stand
before a name; parameters are separated by `;`. Nothing else is allowed: no space after the
subtype, no empty name, no unclosed quote.

A body is JSON when its media type is `application/json` or `application/*+json`.
-/

namespace Gatehouse.Web.Mime

/-- Whether a character is a token character. -/
def isToken (c : Char) : Bool := c.toNat < 128 && isTokenByte c.toNat.toUInt8

/-- Whether a character may stand inside a quoted parameter value. -/
def isQuotedChar (c : Char) : Bool := c.toNat > 31 && c.toNat != 127

/-- Where a reader of parameters stands. -/
inductive Phase where
  /-- Before a name, spaces allowed. -/
  | gap
  /-- Inside a name; `filled` once it has a character. -/
  | name (filled : Bool)
  /-- Right after `=`. -/
  | value
  /-- Inside an unquoted value. -/
  | bare
  /-- Inside a quoted value; `filled` once it has a character. -/
  | quoted (filled : Bool)
  /-- After a closing quote. -/
  | closed
  deriving DecidableEq, Repr

/-- One character of the parameters. -/
def Phase.step : Phase → Char → Option Phase
  | .gap, c => if c = ' ' then some .gap else if isToken c then some (.name true) else none
  | .name filled, c =>
    if isToken c then some (.name true) else if c = '=' && filled then some .value else none
  | .value, c => if c = '"' then some (.quoted false) else if isToken c then some .bare else none
  | .bare, c => if isToken c then some .bare else if c = ';' then some .gap else none
  | .quoted filled, c =>
    if c = '"' && filled then some .closed else if isQuotedChar c then some (.quoted true)
    else none
  | .closed, c => if c = ';' then some .gap else if c = ' ' then some .closed else none

/-- Whether the parameters may end in a phase. -/
def Phase.final : Phase → Bool
  | .name _ | .quoted _ => false
  | _ => true

/-- Whether the text after the first `;` is a well-formed list of parameters. -/
def paramsOk (cs : List Char) : Bool :=
  match cs.foldlM Phase.step .gap with
  | some p => p.final
  | none => false

/-- Text in ASCII lowercase. -/
def lower (cs : List Char) : String := String.ofList (cs.map Char.toLower)

/-- The subtype and suffix of a subtype with its suffix: the suffix follows the last `+` that
is not the first character. -/
def splitSuffix (sub : List Char) : List Char × Option (List Char) :=
  match sub with
  | [] => ([], none)
  | first :: rest =>
    if rest.contains '+' then
      let suffix := (rest.reverse.takeWhile (· != '+')).reverse
      (first :: rest.take (rest.length - suffix.length - 1), some suffix)
    else (sub, none)

/-- The type, subtype and suffix of a media type, in lowercase, when it is well formed. -/
def parse? (s : String) : Option (String × String × Option String) :=
  let cs := s.toList
  let typ := cs.takeWhile (· != '/')
  let afterSlash := cs.drop (typ.length + 1)
  let sub := afterSlash.takeWhile (· != ';')
  let afterSub := afterSlash.drop sub.length
  let shapeOk := !typ.isEmpty && typ.length < cs.length && typ.all isToken && sub.all isToken
  let paramsFine := match afterSub with
    | [] => true
    | _ :: ps => !sub.isEmpty && paramsOk ps
  if shapeOk && paramsFine then
    let (base, suffix) := splitSuffix sub
    some (lower typ, lower base, suffix.map lower)
  else none

/-- Whether a content type names JSON. -/
def isJson (s : String) : Bool :=
  match parse? s with
  | some (typ, sub, suffix) => typ == "application" && (sub == "json" || suffix == some "json")
  | none => false

end Gatehouse.Web.Mime
