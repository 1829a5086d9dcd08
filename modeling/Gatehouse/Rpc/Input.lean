import Gatehouse.Json.Value
import Gatehouse.Encoding.Hex
import Gatehouse.Text.Utf8

/-!
Reading the fields of a request.

A request is a JSON object; each operation reads the fields it needs and refuses a request
whose field has the wrong type with a sentence naming the field. A missing field and `null`
mean the same. Signed fields take the whole signed 64-bit range, unsigned ones the whole
unsigned 64-bit range.
-/

namespace Gatehouse.Rpc

/-- A field of a request, missing and `null` alike giving `none`. -/
def field? (v : Json.Value) (name : String) : Option Json.Value :=
  match v.field? name with
  | some .null => none
  | other => other

/-- The refusal of a field of the wrong type. -/
def mustBe (name what : String) : String := "field `" ++ name ++ "` must be " ++ what

/-- A string field. -/
def text (v : Json.Value) (name : String) : Except String String :=
  match field? v name with
  | some (.str s) => .ok s
  | _ => .error (mustBe name "a string")

/-- A string field that may be missing. -/
def text? (v : Json.Value) (name : String) : Except String (Option String) :=
  match field? v name with
  | none => .ok none
  | some (.str s) => .ok (some s)
  | _ => .error (mustBe name "a string or null")

/-- Whether an integer is a signed 64-bit value. -/
def isI64 (n : Int) : Bool := -9223372036854775808 ≤ n && n < 9223372036854775808

/-- Whether an integer is an unsigned 64-bit value. -/
def isU64 (n : Int) : Bool := 0 ≤ n && n < 18446744073709551616

/-- A signed 64-bit field. -/
def signed (v : Json.Value) (name : String) : Except String Int :=
  match field? v name with
  | some (.num (.int n)) => if isI64 n then .ok n else .error (mustBe name "an i64 integer")
  | _ => .error (mustBe name "an i64 integer")

/-- A signed 64-bit field that may be missing. -/
def signed? (v : Json.Value) (name : String) : Except String (Option Int) :=
  match field? v name with
  | none => .ok none
  | some _ => (signed v name).map some

/-- An unsigned 64-bit field. -/
def unsigned (v : Json.Value) (name : String) : Except String Nat :=
  match field? v name with
  | some (.num (.int n)) => if isU64 n then .ok n.toNat else .error (mustBe name "a u64 integer")
  | _ => .error (mustBe name "a u64 integer")

/-- An unsigned 64-bit field that may be missing. -/
def unsigned? (v : Json.Value) (name : String) : Except String (Option Nat) :=
  match field? v name with
  | none => .ok none
  | some _ => (unsigned v name).map some

/-- A boolean field that may be missing. -/
def flag? (v : Json.Value) (name : String) : Except String (Option Bool) :=
  match field? v name with
  | none => .ok none
  | some (.bool b) => .ok (some b)
  | _ => .error (mustBe name "a boolean")

/-- An array field; a missing one is empty. -/
def items (v : Json.Value) (name : String) : Except String (List Json.Value) :=
  match field? v name with
  | none => .ok []
  | some (.arr xs) => .ok xs
  | _ => .error (mustBe name "an array")

/-- The signing secret of a request: `secret_hex` as bytes in hexadecimal when it is a string,
else `secret` as text. -/
def secret (v : Json.Value) : Except String (List UInt8) :=
  match field? v "secret_hex" with
  | some (.str h) =>
    match Encoding.Hex.decode h with
    | some bytes => .ok bytes
    | none => .error (mustBe "secret_hex" "a hex string")
  | _ => (text v "secret").map Text.Utf8.ofString

end Gatehouse.Rpc
