import Gatehouse.Rpc.Input
import Gatehouse.Rpc.Answer
import Gatehouse.Rpc.Placeholder
import Gatehouse.Web.Route
import Gatehouse.Json.Writer

/-!
Scenarios: a gate built from a description, then driven step by step.

A scenario names the gate's policy (secrets and lifetimes, by default the test secrets and
one hour, two weeks and half an hour), the cache capacity (1024 by default), planned outages
of the cache and of the roster, and a list of steps. Each step is answered on its own; a step
that fails does not stop the ones after it. Before a step runs its strings are expanded
(`Names.expand`); after it, the tokens it handed out are named and hidden in its answer.
-/

namespace Gatehouse.Rpc

open Gate Json

/-- The default access secret of a scenario. -/
def defaultAccessSecret : String := "test-access-secret-0123456789abcdef"

/-- The default refresh secret of a scenario. -/
def defaultRefreshSecret : String := "test-refresh-secret-0123456789abcdef"

/-- A running scenario: the gate and the names of its tokens. -/
structure Run where
  sys : System
  names : Names

/-- What a step gives: its answer and the tokens it handed out, in order. -/
structure Outcome where
  answer : Value
  issued : List (Family × String)

/-- An answer that hands out nothing. -/
def plain (v : Value) : Outcome := ⟨v, []⟩

/-- Run a state step of the gate inside a scenario. -/
def onGate {α : Type} (x : StateM System α) : StateM Run α :=
  modifyGet fun r =>
    let (a, s) := x.run r.sys
    (a, { r with sys := s })

/-- Run a gate step and answer it: its value on success, its refusal otherwise. -/
def gateStep {α : Type} (x : GateM α) (ok : α → Outcome) : StateM Run Outcome := do
  match ← onGate x.run with
  | .ok a => pure (ok a)
  | .error f => pure (plain (authRefusal f))

/-- The answer with a token pair, handing both out. -/
def pairOutcome (i : Issued) : Outcome :=
  ⟨Web.issuedBody i, [(.access, i.accessToken), (.refresh, i.refreshToken)]⟩

/-- The answer with a context. -/
def contextBody (c : Context) : Value :=
  .obj [("member_id", Value.int c.memberId), ("anonymous", .bool c.isAnonymous),
    ("authorities", .arr (c.authorities.map .str))]

/-- A planned outage as a scenario writes it: the operation `op` (every one unless a string
names one) and the key `prefix` (every key unless a string gives one). -/
def outage (v : Value) : Outage :=
  let textOr (name default : String) : String :=
    match v.field? name with
    | some (.str s) => s
    | _ => default
  ⟨textOr "op" "*", textOr "prefix" ""⟩

/-- A list of planned outages: none when the field is missing; a field that is there must be
a list (`null` is not one). -/
def outages (v : Value) (name : String) : Except String (List Outage) :=
  match v.field? name with
  | none => .ok []
  | some (.arr rules) => .ok (rules.map outage)
  | some _ => .error (name ++ " must be a list")

/-- The secret a step names: the gate's access or refresh secret, or a literal one. -/
def stepSecret (step : Value) : StateM Run (Except String (List UInt8)) := do
  let p := (← get).sys.policy
  pure <| match field? step "secret" with
    | some (.str "access") => .ok p.accessSecret
    | some (.str "refresh") => .ok p.refreshSecret
    | some (.obj fields) =>
      match (Value.obj fields).field? "literal" with
      | some (.str s) => .ok (Text.Utf8.ofString s)
      | _ => .error (mustBe "secret" "\"access\", \"refresh\" or an object with a literal")
    | _ => .error (mustBe "secret" "\"access\", \"refresh\" or an object with a literal")

/-- The largest signed 64-bit value, 2^63 - 1. -/
def i64Max : Int := 9223372036854775807

/-- The answer to a `claims` step: what a token says, read with a secret at the current
second. -/
def claimsOutcome (token : String) (secret : List UInt8) : StateM Run Outcome := do
  let now := (← get).sys.clock.unixSecs
  match Token.decode token secret now with
  | .error f => pure (plain (decodeRefusal f))
  | .ok c =>
    let lifetime : Value :=
      if c.exp.toInt == i64Max then .str "max" else Value.int (c.exp - c.iat).toInt
    let jti : Value := match c.jti with
      | some j => .str (if Uuid.isVersion4 j then "<uuid-v4>" else j)
      | none => .null
    pure (plain (.obj [("sub", optText c.sub), ("identity", optText c.identity?),
      ("lifetime", lifetime), ("jti", jti)]))

/-- The time of a `mint` step: relative to now when given as `name_rel`, else fixed as
`name`, which is then required. -/
def mintTime (step : Value) (name : String) (now : Int) : Except String (Int × Bool) := do
  match ← signed? step (name ++ "_rel") with
  | some rel => return (now + rel, false)
  | none => return (← signed step name, true)

end Gatehouse.Rpc
