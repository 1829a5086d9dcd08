import Gatehouse.Gate.Sessions
import Gatehouse.Web.Credentials
import Gatehouse.Web.Header
import Gatehouse.Json.Value

/-!
The HTTP surface of the gate.

| path                  | method | guarded | answer                                   |
|-----------------------|--------|---------|------------------------------------------|
| `/auth/login`         | POST   | no      | a token pair for JSON credentials        |
| `/auth/token/reissue` | POST   | no      | a token pair for the refresh bearer      |
| `/auth/logout`        | POST   | yes     | drops the access bearer's refresh token  |
| `/auth/withdrawal`    | POST   | yes     | removes the access bearer's member       |
| `/members/me`         | GET    | yes     | the caller's member number               |
| `/session`            | GET    | yes     | the caller's context                     |
| `/health`, `/health/ready` | GET | no   | whether the cache answers                |
| `/health/live`        | GET    | no      | always well                              |

Paths match exactly. `OPTIONS` on any path is a cross-origin preflight and is answered 200
with an empty body. A path not in the table is answered 404, a method the path does not take
405, both with an empty body. `HEAD` is taken wherever `GET` is, and answered like it
without the body.

A guarded route first authenticates the caller: no `Authorization: Bearer` credential makes
the caller anonymous; a credential that fails is answered with the refusal before the route
runs. A refusal is answered with its status and body; answers are JSON.
-/

namespace Gatehouse.Web

open Gate

/-- A request as the gate sees it. -/
structure Request where
  method : String
  path : String
  headers : Fields
  body : List UInt8

/-- An answer: its status, its content type and its body, if any. -/
structure Response where
  status : Nat
  contentType : Option String
  body : Option Json.Value
  deriving Repr

namespace Response

/-- A JSON answer. -/
def json (status : Nat) (v : Json.Value) : Response := ⟨status, some "application/json", some v⟩

/-- An answer with an empty body. -/
def empty (status : Nat) : Response := ⟨status, none, none⟩

/-- The answer to a refusal of the gate. -/
def refusal (f : Auth.Fault) : Response := json f.status f.body

/-- The answer without its body, as to a `HEAD` request. -/
def headOnly (r : Response) : Response := { r with body := none }

end Response

/-- The routes. -/
inductive Route where
  | login
  | reissue
  | logout
  | withdrawal
  | me
  | session
  | health
  | live
  deriving DecidableEq, Repr

namespace Route

/-- The route of a path. -/
def ofPath? (path : String) : Option Route :=
  if path == "/auth/login" then some .login
  else if path == "/auth/token/reissue" then some .reissue
  else if path == "/auth/logout" then some .logout
  else if path == "/auth/withdrawal" then some .withdrawal
  else if path == "/members/me" then some .me
  else if path == "/session" then some .session
  else if path == "/health" || path == "/health/ready" then some .health
  else if path == "/health/live" then some .live
  else none

/-- Whether a route reads (`GET`) rather than acts (`POST`). -/
def reads : Route → Bool
  | .me | .session | .health | .live => true
  | _ => false

/-- Whether a route takes a method. -/
def takes (r : Route) (method : String) : Bool :=
  if r.reads then method == "GET" || method == "HEAD" else method == "POST"

/-- Whether a route authenticates its caller first. -/
def guarded : Route → Bool
  | .logout | .withdrawal | .me | .session => true
  | _ => false

end Route

/-- A step of the gate answered as a response: a refusal becomes its answer. -/
def answer {α : Type} (x : GateM α) (ok : α → Response) : StateM System Response := do
  match ← x.run with
  | .ok a => pure (ok a)
  | .error f => pure (Response.refusal f)

/-- The answer with a token pair. -/
def issuedBody (i : Issued) : Json.Value :=
  .obj [("member_id", Json.Value.int i.memberId), ("access_token", .str i.accessToken),
    ("refresh_token", .str i.refreshToken)]

/-- A message answer. -/
def messageBody (m : String) : Json.Value := .obj [("message", .str m)]

/-- The context of the caller of a guarded route, or the refusal of its credential. -/
def caller (req : Request) : GateM Context :=
  match accessBearer req.headers with
  | none => pure Context.anonymous
  | some token => authenticate token

/-- The authentication in front of a guarded route: the caller's context is handed to the
route (`next`), or the refusal of the credential answers the request and the route never
runs. -/
def guard (req : Request) (next : Context → StateM System Response) : StateM System Response := do
  match ← (caller req).run with
  | .ok ctx => next ctx
  | .error f => pure (.refusal f)

/-- The answer of a health probe. -/
def healthAnswer : StateM System Response := do
  let up := match ← cacheExists "health:probe" with
    | .ok _ => true
    | .error _ => false
  let word := if up then "ok" else "degraded"
  let cache := if up then "ok" else "unavailable"
  pure (.json (if up then 200 else 503)
    (.obj [("status", .str word),
      ("checks", .obj [("service", .str "ok"), ("cache", .str cache)])]))

/-- The answer of a route to a caller. -/
def run (route : Route) (req : Request) (ctx : Context) : StateM System Response :=
  match route with
  | .login =>
    match Credentials.ofRequest (req.headers.text? "content-type") req.body with
    | .error r => pure (.json r.status (.obj [("error", .str r.message)]))
    | .ok creds => answer (login creds.email creds.password) fun i => .json 200 (issuedBody i)
  | .reissue =>
    match refreshBearer req.headers with
    | .error f => pure (.refusal f)
    | .ok token => answer (reissue token) fun i => .json 200 (issuedBody i)
  | .logout =>
    match accessBearer req.headers with
    | none => pure (.refusal .emptyAccessToken)
    | some token => answer (logout token) fun _ => .json 200 (messageBody "Logged out")
  | .withdrawal =>
    match accessBearer req.headers with
    | none => pure (.refusal .emptyAccessToken)
    | some token => answer (withdraw token) fun _ => .json 200 (messageBody "Member withdrawn")
  | .me =>
    if ctx.isAnonymous then pure (.refusal .unauthorizedUser)
    else pure (.json 200 (.obj [("member_id", Json.Value.int ctx.memberId)]))
  | .session =>
    pure (.json 200 (.obj [("member_id", Json.Value.int ctx.memberId),
      ("anonymous", .bool ctx.isAnonymous), ("authorities", .arr (ctx.authorities.map .str))]))
  | .health => healthAnswer
  | .live => pure (.json 200 (.obj [("status", .str "ok")]))

/-- The answer to a request. -/
def handle (req : Request) : StateM System Response :=
  if req.method == "OPTIONS" then pure (.empty 200)
  else
    match Route.ofPath? req.path with
    | none => pure (.empty 404)
    | some route =>
      if !route.takes req.method then pure (.empty 405)
      else do
        let resp ← if route.guarded then guard req (run route req)
          else run route req Context.anonymous
        pure (if req.method == "HEAD" then resp.headOnly else resp)

end Gatehouse.Web
