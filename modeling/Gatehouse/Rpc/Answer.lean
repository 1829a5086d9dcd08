import Gatehouse.Auth.Fault
import Gatehouse.Token.Codec
import Gatehouse.Store.Cache
import Gatehouse.Store.Roster
import Gatehouse.Web.Header
import Gatehouse.Json.Value

/-!
The shapes of answers.

A refusal names the family of the fault (`error`), its cause (`kind`) and its sentence
(`message`); refusals of the gate add their stable number (`code`, `null` for an internal
one). A request the surface cannot read is answered with `BadInput` and a sentence.
-/

namespace Gatehouse.Rpc

open Json

/-- A refusal of some family. -/
def refusal (family kind message : String) : Value :=
  .obj [("error", .str family), ("kind", .str kind), ("message", .str message)]

/-- A request that cannot be read. -/
def badInput (message : String) : Value :=
  .obj [("error", .str "BadInput"), ("message", .str message)]

/-- A refusal of the gate. -/
def authRefusal (f : Auth.Fault) : Value :=
  .obj [("error", .str "AuthError"), ("kind", .str f.kind), ("message", .str f.message),
    ("code", match f.code? with | some n => Value.int n | none => .null)]

/-- A token the codec refuses. -/
def decodeRefusal (f : Token.Fault) : Value := refusal "DecodeError" f.kind f.message

/-- A cache operation that fails. -/
def cacheRefusal (f : Store.CacheFault) : Value := refusal "CacheError" f.kind f.message

/-- A roster operation that fails. -/
def rosterRefusal (f : Store.RosterFault) : Value := refusal "UserStoreError" f.kind f.message

/-- A header field that cannot be built. -/
def headerRefusal (f : Web.HeaderFault) : Value :=
  .obj [("error", .str f.kind), ("message", .str f.message)]

/-- Plain success. -/
def done : Value := .obj [("ok", .bool true)]

/-- A string or `null`. -/
def optText : Option String → Value
  | some s => .str s
  | none => .null

/-- An integer or `null`. -/
def optInt : Option Int → Value
  | some n => Value.int n
  | none => .null

end Gatehouse.Rpc
