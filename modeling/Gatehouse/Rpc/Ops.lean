import Gatehouse.Rpc.Steps
import Gatehouse.Json.Reader
import Gatehouse.Settings
import Gatehouse.Startup

/-!
The request surface: one JSON request in, one JSON answer out.

A request names its operation in `op`:

* `normalize_identity`: the canonical form of `raw`;
* `hash_password`, `verify_password`: password digests;
* `codec_encode`, `codec_decode`: signed tokens, at the clock's current second;
* `error_info`: what a refusal of the gate looks like;
* `bearer`: the bearer credentials of a list of header fields;
* `config_load`, `config_from_env`: server settings from a set of variables;
* `cli`: what server start-up logs with a set of variables, and its exit code;
* `telemetry_init`: setting up logging again, which changes nothing;
* `scenario`: a gate driven step by step.
-/

namespace Gatehouse.Rpc

open Json

/-- The claims of a `codec_encode` request, read in field order. -/
def claimsOf (v : Value) : Except String Token.Claims := do
  let c ← match field? v "claims" with
    | some (.obj fields) => pure (Value.obj fields)
    | _ => throw (mustBe "claims" "an object")
  let sub ← text? c "sub"
  let iat ← signed c "iat"
  let exp ← signed c "exp"
  let jti ← text? c "jti"
  return ⟨sub, Int64.ofInt iat, Int64.ofInt exp, jti⟩

/-- Claims as a decoded token's answer shows them, every field present. -/
def claimsBody (c : Token.Claims) : Value :=
  .obj [("sub", optText c.sub), ("iat", Value.int c.iat.toInt), ("exp", Value.int c.exp.toInt),
    ("jti", optText c.jti)]

/-- The refusal of the gate a kind names; the message is used by `Internal` only. -/
def faultOfKind (kind : String) (message : Option String) : Option Auth.Fault :=
  if kind == "Internal" then some (.internal (message.getD ""))
  else Auth.Fault.clientFaults.find? (·.kind == kind)

/-- What a refusal of the gate looks like: its parts and its HTTP answer. -/
def errorInfo (f : Auth.Fault) : Value :=
  .obj [("info", .obj [("display", .str f.message), ("code", optInt (f.code?.map Int.ofNat)),
      ("error_code", optText f.errorCode?), ("status", Value.int f.status)]),
    ("response", .obj [("status", Value.int f.status), ("body", f.body)])]

/-- The answer to a `bearer` request. -/
def bearerAnswer (v : Value) : Except String Value := do
  let pairs ← headerPairs v
  match Web.Fields.build pairs with
  | .error f => return headerRefusal f
  | .ok fields =>
    let refresh := match Web.refreshBearer fields with
      | .ok t => Value.obj [("token", .str t)]
      | .error f => authRefusal f
    return .obj [("access", optText (Web.accessBearer fields)), ("refresh", refresh)]

/-- The variables of a request: names to values, `null` for unset when `nullable`. A variable
set in the process environment (`nullable` false) cannot hold NUL; one that only stands in for
it (`nullable` true) can. -/
def vars (v : Value) (nullable : Bool) : Except String (List (String × String)) := do
  let refuse := if nullable then "vars values must be strings or null"
    else "vars values must be strings without NUL"
  match field? v "vars" with
  | none => return []
  | some (.obj fields) =>
    let kept ← fields.filterMapM fun (k, x) =>
      match x with
      | .str s =>
        if !nullable && s.toList.contains (Char.ofNat 0) then throw refuse else pure (some (k, s))
      | .null => if nullable then pure none else throw refuse
      | _ => throw refuse
    return kept
  | some _ => throw (mustBe "vars" "an object")

/-- The value of a variable: the last one given. -/
def lookupIn (env : List (String × String)) (name : String) : Option String :=
  (env.reverse.find? (·.1 == name)).map (·.2)

/-- Settings as an answer shows them. -/
def settingsBody (s : Settings) : List (String × Value) :=
  [("host", .str s.host), ("port", Value.int s.port), ("bind_addr", .str s.bindAddr),
    ("access_secret", .str s.accessSecret), ("refresh_secret", .str s.refreshSecret),
    ("access_ttl", Value.int s.accessTtl), ("refresh_ttl", Value.int s.refreshTtl),
    ("session_ttl", Value.int s.sessionTtl), ("cache_url", optText s.cacheUrl),
    ("cache_capacity", Value.int s.cacheCapacity),
    ("seed_member", match s.seed with
      | some m => .obj [("identity", .str m.identity), ("password", .str m.password)]
      | none => .null),
    ("log_format", .str s.logFormat.name)]

/-- A refusal of the settings. -/
def settingsRefusal (f : SettingsFault) : Value := refusal "ConfigError" f.kind f.message

/-- What start-up writes: its log lines and exit code; a server that goes on serving gives no
answer in time. -/
def launchBody (l : Startup.Launch) : Value :=
  match l.ending.exitCode? with
  | some code =>
    let lines := match l.format with
      | .pretty => (l.events.flatMap Startup.prettyLines).map Value.str
      | .json => l.events.map Log.Event.toJson
    .obj [("exit_code", Value.int code), ("stdout", .arr lines), ("stderr", .arr [])]
  | none => .obj [("error", .str "Timeout"), ("message", .str "server kept running")]

/-- The answer to a request other than `scenario`. -/
def operate (op : String) (v : Value) : Except String Value := do
  if op == "normalize_identity" then
    return .obj [("value", .str (Identity.normalize (← text v "raw")))]
  else if op == "hash_password" then
    let password ← text v "password"
    let salt ← text v "salt"
    return .obj [("value", .str (Password.digest password salt))]
  else if op == "verify_password" then
    let password ← text v "password"
    let hash ← text v "hash"
    let salt ← text v "salt"
    return .obj [("value", .bool (Password.verify password hash salt))]
  else if op == "codec_encode" then
    let claims ← claimsOf v
    let secret ← secret v
    return .obj [("token", .str (Token.encode claims secret))]
  else if op == "codec_decode" then
    let token ← text v "token"
    let secret ← secret v
    match Token.decode token secret Clock.start.unixSecs with
    | .ok c => return .obj [("claims", claimsBody c), ("identity", optText c.identity?)]
    | .error f => return decodeRefusal f
  else if op == "error_info" then
    let kind ← text v "kind"
    let message ← text? v "message"
    match faultOfKind kind message with
    | some f => return errorInfo f
    | none => throw ("unknown AuthError kind `" ++ kind ++ "`")
  else if op == "bearer" then bearerAnswer v
  else if op == "config_load" then
    let env ← vars v true
    match Settings.load (lookupIn env) with
    | .ok s => return .obj (settingsBody s)
    | .error f => return settingsRefusal f
  else if op == "config_from_env" then
    let env ← vars v false
    match Settings.load (lookupIn env) with
    | .ok s =>
      return .obj (settingsBody s ++ [("debug", .str s.shown),
        ("log_format_from_env", .str (LogFormat.parse (lookupIn env "LOG_FORMAT")).name)])
    | .error f => return settingsRefusal f
  else if op == "cli" then
    let env ← vars v false
    return launchBody (Startup.launch (lookupIn env))
  else if op == "telemetry_init" then return .obj [("ok", .bool true)]
  else if op == "scenario" then return scenario v
  else throw ("unknown op `" ++ op ++ "`")

/-- The answer to a request given as JSON text. -/
def answerLine (line : String) : Value :=
  match Json.read line with
  | .error f => badInput (f.describe (Text.Utf8.ofString line))
  | .ok v =>
    match v.field? "op" with
    | some (.str op) =>
      match operate op v with
      | .ok a => a
      | .error msg => badInput msg
    | _ => badInput (mustBe "op" "a string")

/-- The answer to a request line, as one line of JSON text. -/
def respond (line : String) : String := (answerLine line).render

end Gatehouse.Rpc
