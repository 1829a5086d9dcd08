import Gatehouse.Json.Value

/-!
Token headers.

A header is read twice. The first reading asks only for the algorithm: the header must be an
object whose `alg` field, present at most once, is a string or `null`, or an array read by
position whose only item, if any, is that field; everything else in it is not looked at.
The second reading takes the whole header as the registered header parameters: it must be
an object; `typ`, `cty`, `jku`, `kid`, `x5u`, `x5t`, `x5t#S256`, `url`, `nonce`, `enc` and
`zip` are strings, `crit` and `x5c` lists of strings, each possibly `null`; `jwk` is `null`
or a JSON Web Key as described below; no registered parameter repeats; and every
other parameter is a string; and arrays and objects nest at most 127 deep, the header
counted.

A key is an object holding only data (every string text, every number within a double). Its
common parameters, each at most once and each possibly `null`: `use`, `kid`, `x5u`, `x5t`,
`x5t#S256` strings, `key_ops` and `x5c` lists of strings, `alg` an algorithm name (any name
is taken, unknown ones as unknown). The rest must describe one of four key
types: `kty` `EC` with a curve `crv` and coordinates `x`, `y`; `kty` `RSA` with `n` and
`e`; `kty` `oct` with `k`; `kty` `OKP` with a curve `crv` and `x`. Each of those members
appears exactly once and is a string; a curve is `P-256`, `P-384`, `P-521` or `Ed25519`;
other members are not looked at. A name from a fixed set (`kty`, `crv`, `alg`) is written as
a string, or as an object of the single member of that name with value `null` or `{}`.
-/

namespace Gatehouse.Token.Header

/-- What the first reading finds: a shape it cannot read, or the algorithm named (if any). -/
def algorithm? (v : Json.Value) : Option (Option String) :=
  let ofValue : Json.Value → Option (Option String)
    | .null => some none
    | .str s => some (some s)
    | _ => none
  match v with
  | .obj fields =>
    match fields.filter (·.1 == "alg") with
    | [] => some none
    | [(_, a)] => ofValue a
    | _ => none
  | .arr [] => some none
  | .arr [a] => ofValue a
  | _ => none

/-- The registered parameters whose value is a string. -/
def textParameters : List String :=
  ["typ", "cty", "jku", "kid", "x5u", "x5t", "x5t#S256", "url", "nonce", "enc", "zip"]

/-- The registered parameters whose value is a list of strings. -/
def listParameters : List String := ["crit", "x5c"]

/-- Every registered parameter. -/
def registered : List String := ["alg", "jwk"] ++ textParameters ++ listParameters

/-! ## Keys -/

/-- Whether a value is a string. -/
def isText (v : Json.Value) : Bool := v matches .str _

/-- Whether a value is a list of strings. -/
def isTextList : Json.Value → Bool
  | .arr items => items.all isText
  | _ => false

/-- A test that also lets `null` through. -/
def orNull (p : Json.Value → Bool) : Json.Value → Bool
  | .null => true
  | v => p v

/-- Whether a value names a member of a fixed set of names: the name as a string, or an
object whose only member has that name and no content (`null` or an empty object). -/
def names (ok : String → Bool) : Json.Value → Bool
  | .str s => ok s
  | .obj [(k, .null)] => ok k
  | .obj [(k, .obj [])] => ok k
  | _ => false

/-- Whether a name is one of the curves a key may be on. -/
def isCurve (s : String) : Bool :=
  s == "P-256" || s == "P-384" || s == "P-521" || s == "Ed25519"

/-- The common parameters of a key, each with the test its value must pass. -/
def keyCommon : List (String × (Json.Value → Bool)) :=
  [("use", orNull isText), ("key_ops", orNull isTextList), ("alg", orNull (names fun _ => true)),
    ("kid", orNull isText), ("x5u", orNull isText), ("x5c", orNull isTextList),
    ("x5t", orNull isText), ("x5t#S256", orNull isText)]

/-- The members each key type requires, each with the test its value must pass. -/
def keyTypes : List (List (String × (Json.Value → Bool))) :=
  [[("kty", names (· == "EC")), ("crv", names isCurve), ("x", isText), ("y", isText)],
    [("kty", names (· == "RSA")), ("n", isText), ("e", isText)],
    [("kty", names (· == "oct")), ("k", isText)],
    [("kty", names (· == "OKP")), ("crv", names isCurve), ("x", isText)]]

/-- Whether an object's members under a name are at most one that passes a test. -/
def atMostOnce (fields : List (String × Json.Value)) (name : String) (p : Json.Value → Bool) :
    Bool :=
  match fields.filter (·.1 == name) with
  | [] => true
  | [(_, v)] => p v
  | _ => false

/-- Whether an object's members under a name are exactly one that passes a test. -/
def exactlyOnce (fields : List (String × Json.Value)) (name : String) (p : Json.Value → Bool) :
    Bool :=
  match fields.filter (·.1 == name) with
  | [(_, v)] => p v
  | _ => false

/-- Whether a value is a JSON Web Key. -/
def keyOk (v : Json.Value) : Bool :=
  match v with
  | .obj fields =>
    v.dataFault?.isNone
      && keyCommon.all (fun (n, p) => atMostOnce fields n p)
      && keyTypes.any fun members => members.all fun (n, p) => exactlyOnce fields n p
  | _ => false

/-! ## Header parameters -/

/-- The deepest nesting of arrays and objects the second reading takes, the header itself
counted. -/
def maxDepth : Nat := 127

/-- Whether a parameter's value has the type its name asks for. -/
def parameterOk (name : String) (v : Json.Value) : Bool :=
  if name == "alg" then v matches .str _
  else if name == "jwk" then orNull keyOk v
  else if textParameters.contains name then v matches .null | .str _
  else if listParameters.contains name then
    match v with
    | .null => true
    | .arr items => items.all (· matches .str _)
    | _ => false
  else v matches .str _

/-- Whether the second reading accepts the header. -/
def registeredOk (v : Json.Value) : Bool :=
  match v with
  | .obj fields =>
    v.depth ≤ maxDepth
      && (registered.all fun n => (fields.filter (·.1 == n)).length ≤ 1)
      && fields.all fun (k, x) => parameterOk k x
  | _ => false

end Gatehouse.Token.Header
