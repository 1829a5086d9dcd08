import Gatehouse.Rpc.Scenario
import Gatehouse.Json.Double
import Gatehouse.Web.RequestLine

/-!
The steps of a scenario.

| step | reads | answer |
|------|-------|--------|
| `register` | identity, password | the new member's number |
| `user_find`, `user_delete`, `user_count` | identity | the roster as it stands, without outages |
| `lookups` | | how many identity look-ups the gate made |
| `login` | identity, password | a token pair |
| `reissue` | token | a token pair |
| `logout`, `withdrawal` | token | done |
| `resolve`, `forget` | identity | the member number / done |
| `authenticate` | token | the caller's context |
| `issue_access`, `issue_refresh` | identity | a token |
| `validate_access`, `validate_refresh` | token | done |
| `extract_access`, `extract_refresh` | token | the identity |
| `revoke` | identity | done |
| `claims` | token, secret | what the token says |
| `mint` | secret, sub, times | a token signed with fixed claims |
| `cache_get`, `cache_set`, `cache_delete`, `cache_exists`, `cache_len` | key, value, ttl | the cache, behind its outages |
| `cache_faults`, `user_faults` | fail | replaces the planned outages |
| `sleep` | ms (at most 200, none when missing) | moves the clock on |
| `http` | method, path, headers, json or body | the HTTP answer |

An `http` step's method is `GET` unless a string gives another, and must be a method name;
its target (`/` unless a string gives another) must read as a request target, whose path
chooses the route (`Web.targetPath?`). Its `json`, when present (`null` included), is sent
as the text of a document written again: fields sorted by name (the last of a repeated name
kept), no blanks, and every number that is not a 64-bit integer written as its double
(`Value.rewritten`); otherwise a string `body` is sent as it is, and anything else is no
body.
-/

namespace Gatehouse.Rpc

open Gate Json

/-- A step that may be refused as unreadable. -/
abbrev StepM := ExceptT String (StateM Run)

/-- A field read inside a step. -/
def need {α : Type} (x : Except String α) : StepM α := ExceptT.mk (pure x)

/-- Run a gate step inside a step. -/
def gated {α : Type} (x : GateM α) (ok : α → Outcome) : StepM Outcome :=
  ExceptT.lift (gateStep x ok)

/-- Run a cache operation of the gate inside a step. -/
def cacheStep {α : Type} (x : StateM System (Except Store.CacheFault α)) (ok : α → Value) :
    StepM Outcome := do
  match ← ExceptT.lift (onGate x) with
  | .ok a => pure (plain (ok a))
  | .error f => pure (plain (cacheRefusal f))

/-- The header fields of an `http` step: a list of name and value pairs. -/
def headerPairs (step : Value) : Except String (List (String × String)) := do
  let pairs ← items step "headers"
  pairs.mapM fun p =>
    match p with
    | .arr [.str n, .str v] => .ok (n, v)
    | _ => .error (mustBe "headers" "a list of [name, value] string pairs")

/-- A string field of a step, or a default when it is missing or not a string. -/
def textOr (step : Value) (name default : String) : String :=
  match field? step name with
  | some (.str s) => s
  | _ => default

/-- The answer to an `http` step. -/
def httpStep (step : Value) : StepM Outcome := do
  let method := textOr step "method" "GET"
  if !Web.isMethodName method then throw "bad method"
  let target ← match Web.targetPath? (textOr step "path" "/") with
    | .ok p => pure p
    | .error f => throw ("request: " ++ f.message)
  let pairs ← need (headerPairs step)
  let json := step.field? "json"
  let raw := match field? step "body" with
    | some (.str s) => s
    | _ => ""
  match Web.Fields.build pairs with
  | .error f => pure (plain (headerRefusal f))
  | .ok fields =>
    let fields := if json.isSome && !fields.contains "content-type" then
        fields.push "content-type" "application/json" else fields
    let body := match json with
      | some v => Text.Utf8.ofString v.sorted.rewritten.render
      | none => Text.Utf8.ofString raw
    let resp ← ExceptT.lift (onGate (Web.handle ⟨method, target, fields, body⟩))
    let issued : List (Family × String) :=
      match resp.status, resp.body with
      | 200, some b =>
        match b.field? "access_token", b.field? "refresh_token" with
        | some (.str a), some (.str r) => [(.access, a), (.refresh, r)]
        | _, _ => []
      | _, _ => []
    pure ⟨.obj [("status", Value.int resp.status), ("content_type", optText resp.contentType),
      ("body", resp.body.getD .null)], issued⟩

/-- The answer to a `mint` step, and the token with whether its times were fixed. -/
def mintStep (step : Value) : StepM (String × Bool) := do
  let secret ← need (← ExceptT.lift (stepSecret step))
  let sub ← need (text? step "sub")
  let now := (← get).sys.clock.unixSecs
  let (iat, iatFixed) ← need (mintTime step "iat" now)
  let (exp, expFixed) ← need (mintTime step "exp" now)
  let claims : Token.Claims := ⟨sub, Int64.ofInt iat, Int64.ofInt exp, none⟩
  return (Token.encode claims secret, iatFixed && expFixed)

/-- The answer to a step other than `mint`. -/
def runOp (op : String) (step : Value) : StepM Outcome := do
  if op == "register" then
    let identity ← need (text step "identity")
    let password ← need (text step "password")
    match ← ExceptT.lift (onGate (register identity password)) with
    | .ok id => pure (plain (.obj [("member_id", Value.int id)]))
    | .error f => pure (plain (rosterRefusal f))
  else if op == "user_find" then
    let identity ← need (text step "identity")
    let r := (← get).sys.roster
    pure (plain (.obj [("member_id", optInt ((r.find? identity).map (·.id)))]))
  else if op == "user_delete" then
    let identity ← need (text step "identity")
    let s := (← get).sys
    match s.roster.delete identity with
    | .ok r =>
      modify fun run => { run with sys := { s with roster := r } }
      pure (plain done)
    | .error f => pure (plain (rosterRefusal f))
  else if op == "user_count" then
    pure (plain (.obj [("count", Value.int (← get).sys.roster.size)]))
  else if op == "lookups" then
    pure (plain (.obj [("lookups", Value.int (← get).sys.lookups)]))
  else if op == "login" then
    let identity ← need (text step "identity")
    let password ← need (text step "password")
    gated (login identity password) pairOutcome
  else if op == "reissue" then
    gated (reissue (← need (text step "token"))) pairOutcome
  else if op == "logout" then
    gated (logout (← need (text step "token"))) fun _ => plain done
  else if op == "withdrawal" then
    gated (withdraw (← need (text step "token"))) fun _ => plain done
  else if op == "resolve" then
    gated (resolve (← need (text step "identity")))
      fun id => plain (.obj [("member_id", Value.int id)])
  else if op == "forget" then
    gated (forget (← need (text step "identity"))) fun _ => plain done
  else if op == "authenticate" then
    gated (authenticate (← need (text step "token"))) fun c => plain (contextBody c)
  else if op == "issue_access" then
    let identity ← need (text step "identity")
    let token ← ExceptT.lift (onGate (issueAccess identity))
    pure ⟨.obj [("token", .str token)], [(.access, token)]⟩
  else if op == "issue_refresh" then
    gated (issueRefresh (← need (text step "identity")))
      fun t => ⟨.obj [("token", .str t)], [(.refresh, t)]⟩
  else if op == "validate_access" then
    gated (validateAccess (← need (text step "token"))) fun _ => plain done
  else if op == "validate_refresh" then
    gated (validateRefresh (← need (text step "token"))) fun _ => plain done
  else if op == "extract_access" then
    gated (accessIdentity (← need (text step "token")))
      fun i => plain (.obj [("identity", .str i)])
  else if op == "extract_refresh" then
    gated (refreshIdentity (← need (text step "token")))
      fun i => plain (.obj [("identity", .str i)])
  else if op == "revoke" then
    gated (revoke (← need (text step "identity"))) fun _ => plain done
  else if op == "claims" then
    let token ← need (text step "token")
    let secret ← need (← ExceptT.lift (stepSecret step))
    ExceptT.lift (claimsOutcome token secret)
  else if op == "cache_get" then
    let key ← need (text step "key")
    cacheStep (cacheGet key) fun v => .obj [("value", optText v)]
  else if op == "cache_set" then
    let key ← need (text step "key")
    let value ← need (text step "value")
    let ttl ← match ← need (unsigned? step "ttl_ms") with
      | some ms => pure (Span.ofMillis ms)
      | none => pure (Span.ofSecs ((← need (unsigned? step "ttl")).getD 3600))
    cacheStep (cacheSet key value ttl) fun _ => done
  else if op == "cache_delete" then
    let key ← need (text step "key")
    cacheStep (cacheDelete key) fun _ => done
  else if op == "cache_exists" then
    let key ← need (text step "key")
    cacheStep (cacheExists key) fun b => .obj [("exists", .bool b)]
  else if op == "cache_len" then
    let n := (← get).sys.cache.size
    pure (plain (.obj [("len", Value.int n), ("is_empty", .bool (n == 0))]))
  else if op == "cache_faults" then
    let rules ← need (outages step "fail")
    modify fun r => { r with sys := { r.sys with cacheOutages := rules } }
    pure (plain done)
  else if op == "user_faults" then
    let rules ← need (outages step "fail")
    modify fun r => { r with sys := { r.sys with rosterOutages := rules } }
    pure (plain done)
  else if op == "sleep" then
    let ms := (← need (unsigned? step "ms")).getD 0
    modify fun r => { r with sys := { r.sys with clock := r.sys.clock.advance (min ms 200) } }
    pure (plain done)
  else if op == "http" then httpStep step
  else throw ("unknown step op `" ++ op ++ "`")

/-- Name the tokens a step handed out. -/
def nameAll (issued : List (Family × String)) : StateM Run Unit :=
  issued.forM fun (fam, token) =>
    modify fun r => { r with names := (r.names.add fam token true).1 }

/-- The answer to one step: expanded first, its tokens named and hidden after. -/
def runStep (raw : Value) : StateM Run Value := do
  match raw.field? "op" with
  | some (.str op) =>
    let step := (← get).names.expandValue raw
    if op == "mint" then
      match ← (mintStep step).run with
      | .error msg => pure (badInput msg)
      | .ok (token, fixed) =>
        let name ← modifyGet fun r =>
          let (names, name) := r.names.add .minted token (!fixed)
          (name, { r with names := names })
        let fields := [("token", Value.str name)] ++ (if fixed then [("raw", .str token)] else [])
        pure (.obj fields)
    else
      match ← (runOp op step).run with
      | .error msg => pure (badInput msg)
      | .ok out =>
        nameAll out.issued
        pure ((← get).names.hideValue out.answer)
  | _ => pure (badInput (mustBe "op" "a string"))

/-- The policy a scenario describes. -/
def policyOf (v : Value) : Except String Policy := do
  let cfg := (field? v "config").getD (.obj [])
  let access ← (text? cfg "access_secret").map (·.getD defaultAccessSecret)
  let refresh ← (text? cfg "refresh_secret").map (·.getD defaultRefreshSecret)
  let accessTtl ← (unsigned? cfg "access_ttl").map (·.getD 3600)
  let refreshTtl ← (unsigned? cfg "refresh_ttl").map (·.getD 1209600)
  let sessionTtl ← (unsigned? cfg "session_ttl").map (·.getD 1800)
  return ⟨Text.Utf8.ofString access, Text.Utf8.ofString refresh, accessTtl, refreshTtl,
    sessionTtl⟩

/-- The answers to a scenario. -/
def scenario (v : Value) : Value :=
  let built : Except String (Run × List Value) := do
    let policy ← policyOf v
    let cache := (field? v "cache").getD (.obj [])
    let users := (field? v "users").getD (.obj [])
    let capacity ← (unsigned? cache "capacity").map (·.getD 1024)
    let cacheRules ← outages cache "fail"
    let userRules ← outages users "fail"
    let steps ← items v "steps"
    let sys := { System.init policy capacity Clock.start with
      cacheOutages := cacheRules, rosterOutages := userRules }
    return (⟨sys, Names.empty⟩, steps)
  match built with
  | .error msg => badInput msg
  | .ok (run, steps) => .obj [("results", .arr ((steps.mapM runStep).run run).1)]

end Gatehouse.Rpc
