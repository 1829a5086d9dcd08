import Gatehouse.Settings
import Gatehouse.Net.CacheAddress
import Gatehouse.Log.Filter
import Gatehouse.Store.Roster
import Gatehouse.Uuid

/-!
Starting the server, up to the point where it would listen.

The log format and filter come first (`LOG_FORMAT`, `RUST_LOG`), then the settings; then the
cache: with `CACHE_URL` the external cache at that address, announced before its address is
checked and connected to, and otherwise the in-process cache, with a warning that it is not
shared. A seed member, when configured, is registered in the empty roster (so it is member 1).
Last the listening address is bound. The first failure ends start-up with the error logged
and exit code 1.

Binding, in the isolated environment the server starts in: any IP address, held by this
machine or not, binds unless the port is privileged (1 to 1023), and so does `localhost`;
another name does not resolve. Connecting to a cache address that reads well is refused: no
cache service runs.
-/

namespace Gatehouse.Startup

open Log

/-- The component every start-up event comes from. -/
def target : String := "sns_auth_server"

/-- An event of the server. -/
def event (level : Level) (message : String) (fields : List (String × FieldValue)) : Event :=
  ⟨level, target, message, fields⟩

/-- Whether a host names an address the server can bind: an IP address (an IPv6 one in
brackets or bare) or `localhost`. -/
def bindable (host : String) : Bool :=
  let bare := if host.startsWith "[" && host.endsWith "]" then
      String.ofList ((host.toList.drop 1).dropLast) else host
  (Net.ipv4Parts? bare).isSome || Net.isIpv6 bare || bare == "localhost"

/-- Why the listening address cannot be bound, if it cannot. -/
def bindFault? (host : String) (port : Nat) : Option String :=
  if bindable host then
    if 0 < port && port < 1024 then some "Permission denied (os error 13)" else none
  else some "failed to lookup address information: Name or service not known"

/-- Why connecting to a cache service fails: there is none to connect to. -/
def connectFault : Net.Endpoint → String
  | .tcp _ _ _ => "Connection refused (os error 111)"
  | .socket _ _ => "No such file or directory (os error 2)"

/-- The cache chosen: its events, and the failure if it cannot be used. -/
def chooseCache (s : Settings) : List Event × Option String :=
  match s.cacheUrl with
  | some url =>
    let failure := match Net.endpoint url with
      | .error f => f.message
      | .ok e => connectFault e
    ([event .info "Using Redis TTL cache" []], some ("cache backend error: " ++ failure))
  | none =>
    ([event .warn "CACHE_URL not set, using in-process TTL cache (not shared between replicas)"
      [("capacity", .number s.cacheCapacity)]], none)

/-- The seed member registered, if any: its event. -/
def seedEvents (s : Settings) : List Event :=
  match s.seed with
  | some m =>
    match Store.Roster.empty.register m.identity m.password (Uuid.simple (Uuid.ofSerial 0)) with
    | .ok (id, _) =>
      [event .info "Registered seed member" [("identity", .text m.identity), ("member_id", .number id)]]
    | .error _ => []
  | none => []

/-- How start-up ends. -/
inductive Ending where
  /-- Start-up failed with this error. -/
  | failed (error : String)
  /-- The server listens at this address. -/
  | listening (addr : String)
  deriving DecidableEq, Repr

/-- The events of start-up, before filtering, and how it ends. -/
def steps (lookup : String → Option String) : List Event × Ending :=
  match Settings.load lookup with
  | .error f => ([], .failed f.message)
  | .ok s =>
    let (cacheEvents, cacheFailure) := chooseCache s
    match cacheFailure with
    | some e => (cacheEvents, .failed e)
    | none =>
      let events := cacheEvents ++ seedEvents s
      match bindFault? s.host s.port with
      | some e => (events, .failed e)
      | none => (events, .listening s.bindAddr)

/-- The event that closes start-up. -/
def Ending.closing : Ending → Event
  | .failed e => event .error "Server failed" [("error", .text e)]
  | .listening addr => event .info "SNS auth server listening (docs at /docs)" [("addr", .text addr)]

/-- The exit code when start-up ends the program. -/
def Ending.exitCode? : Ending → Option Nat
  | .failed _ => some 1
  | .listening _ => none

/-- What start-up shows: the lines it logs, in the chosen format, and how it ends. -/
structure Launch where
  format : LogFormat
  events : List Event
  ending : Ending
  deriving DecidableEq, Repr

/-- Start-up with the given environment variables. -/
def launch (lookup : String → Option String) : Launch :=
  let filter := Filter.ofSetting (lookup "RUST_LOG")
  let (events, ending) := steps lookup
  ⟨LogFormat.parse (lookup "LOG_FORMAT"), (events ++ [ending.closing]).filter filter.allows, ending⟩

/-- A log line in the human-readable format, split where it breaks. -/
def prettyLines (e : Event) : List String := e.pretty.splitOn "\n"

end Gatehouse.Startup
