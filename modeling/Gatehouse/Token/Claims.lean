import Gatehouse.Json.Value
import Gatehouse.Json.Reader
import Gatehouse.Json.Writer
import Gatehouse.Text.Blank

/-!
Token claims and their JSON form.

A token carries an optional subject (`sub`, the identity), the issue and expiry instants in
Unix seconds (`iat`, `exp`, signed 64-bit), and an optional token id (`jti`). Written, the
claims are one object with the fields in the order `sub`, `iat`, `exp`, `jti`; an absent
subject or id is left out.

Read back, the payload must be an object; `sub` and `jti` may be a string, `null` or absent;
`iat` and `exp` must be present and be integers of the signed 64-bit range; no field of these
four may repeat; other fields are not looked at, with the few exceptions the checker of
registered claims makes. It reads `nbf`, `iss` and `aud`, which may not repeat, and gives up
quietly on a value of a type it does not expect, but a fault met while reading one must leave
it at the value's end, or the rest of the payload no longer reads: `nbf` may not be a
non-empty array or object, and a string that is not text, a number beyond a double, or a
nesting too deep may only stand where the reader has nothing left of the value to read.
-/

namespace Gatehouse.Token

/-- The claims of a token. -/
structure Claims where
  sub : Option String
  iat : Int64
  exp : Int64
  jti : Option String
  deriving DecidableEq, Repr

namespace Claims

/-- The identity a token stands for: its subject, when that is not blank. -/
def identity? (c : Claims) : Option String :=
  match c.sub with
  | some s => if Text.isBlankText s then none else some s
  | none => none

/-- The claims as a JSON object, in field order `sub`, `iat`, `exp`, `jti`. -/
def toJson (c : Claims) : Json.Value :=
  .obj ((c.sub.map fun s => ("sub", Json.Value.str s)).toList
    ++ [("iat", Json.Value.int c.iat.toInt), ("exp", Json.Value.int c.exp.toInt)]
    ++ (c.jti.map fun s => ("jti", Json.Value.str s)).toList)

/-- The JSON text of the claims. -/
def payload (c : Claims) : String := c.toJson.render

end Claims

/-- A signed 64-bit integer held by a JSON value. -/
def int64? (v : Json.Value) : Option Int64 :=
  match v with
  | .num (.int n) => if -9223372036854775808 ≤ n ∧ n < 9223372036854775808 then some (Int64.ofInt n) else none
  | _ => none

/-- An optional string field: `null` or absent is `none`; a string that is not text, or any
other value, is refused. -/
def optionalText? : Option Json.Value → Option (Option String)
  | none => some none
  | some .null => some none
  | some (.str s) => some (some s)
  | some _ => none

/-- How often a field name occurs. -/
def occurrences (fields : List (String × Json.Value)) (name : String) : Nat :=
  (fields.filter (·.1 == name)).length

/-- The value of a field that may not repeat: `some none` when absent, `none` when repeated. -/
def single? (fields : List (String × Json.Value)) (name : String) :
    Option (Option Json.Value) :=
  match fields.filter (·.1 == name) with
  | [] => some none
  | [(_, v)] => some (some v)
  | _ => none

mutual

/-- Whether a reader that takes a value as data, when it meets a fault inside it, still stops
exactly at the value's end (a value without faults is read to its end). A fault stops it there
only in the last place of the value: the last item of an array or the last field of an
object, recursively, since the reader then only has the closing bracket left to take. -/
def readsToEnd : Json.Value → Bool
  | .unreadable _ atEnd => atEnd
  | .num (.float text (some _)) => !Json.cutShort text
  | .arr items => itemsReadToEnd items
  | .obj fields => fieldsReadToEnd fields
  | _ => true

/-- `readsToEnd` for the items of an array: the first item with a fault is the last item and
is read to its end. -/
def itemsReadToEnd : List Json.Value → Bool
  | [] => true
  | [v] => readsToEnd v
  | v :: vs => v.dataFault?.isNone && itemsReadToEnd vs

/-- `readsToEnd` for the fields of an object. -/
def fieldsReadToEnd : List (String × Json.Value) → Bool
  | [] => true
  | [(_, v)] => readsToEnd v
  | (_, v) :: fs => v.dataFault?.isNone && fieldsReadToEnd fs

end

/-- Whether a value of a registered claim read as an optional number keeps the reader in
step: a non-empty array or object does not (the number reader takes only its opening
bracket), nor does a scalar whose fault stops the reader inside it. -/
def numericClaimOk : Json.Value → Bool
  | .arr (_ :: _) => false
  | .obj (_ :: _) => false
  | v => readsToEnd v

/-- Whether a value of a registered claim read as a string or a list of strings keeps the
reader in step: the value is taken whole as data, so a fault must leave the reader at the
value's end, and the value may not nest deeper than the reader allows. -/
def textClaimOk (v : Json.Value) : Bool := v.depth ≤ 126 && readsToEnd v

/-- Whether the registered claims pass the checker's reading. -/
def registeredOk (fields : List (String × Json.Value)) : Bool :=
  (["nbf", "iss", "aud"].all fun n => occurrences fields n ≤ 1)
    && (fields.all fun (k, v) =>
      if k == "nbf" then numericClaimOk v
      else if k == "iss" || k == "aud" then textClaimOk v
      else true)

/-- The claims of a payload, or `none` when it is not a claims object. -/
def ofJson? (v : Json.Value) : Option Claims := do
  let fields ← v.fields?
  let sub ← single? fields "sub" >>= optionalText?
  let jti ← single? fields "jti" >>= optionalText?
  let iat ← (← single? fields "iat") >>= int64?
  let exp ← (← single? fields "exp") >>= int64?
  if registeredOk fields then return ⟨sub, iat, exp, jti⟩ else none

end Gatehouse.Token
