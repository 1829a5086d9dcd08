import Gatehouse.Clock
import Gatehouse.Text.Blank
import Gatehouse.Text.Decimal
import Gatehouse.Text.Quoted
import Gatehouse.Text.Utf8

/-!
The settings of a gate server, read from environment variables.

A variable whose value is blank counts as unset. The checks run in this order and the first
failure is reported:

1. `JWT_ACCESS_SECRET` is set and at least 32 bytes long (UTF-8 bytes);
2. `JWT_REFRESH_SECRET` likewise;
3. the two secrets differ;
4. `ACCESS_TOKEN_TTL_SECS`, `REFRESH_TOKEN_TTL_SECS`, `SESSION_CACHE_TTL_SECS` are each an
   unsigned 64-bit number of seconds from 1 to ten years (default one hour, two weeks, half an
   hour);
5. `PORT` is a 16-bit number (default 8080);
6. `CACHE_CAPACITY` is a positive unsigned 64-bit number (default 100000);
7. a `SEED_MEMBER_IDENTITY` comes with a `SEED_MEMBER_PASSWORD` (a password alone is
   ignored).

Numbers are trimmed of blanks and read strictly (`Text.Decimal`); every other value is kept as
written. `HOST` defaults to `0.0.0.0`, `CACHE_URL` to none. `LOG_FORMAT` is JSON when it
is `json` in any ASCII case once trimmed, and human-readable otherwise.

The settings are shown for people with the secrets and the seed password masked.
-/

namespace Gatehouse

/-- How log lines are written. -/
inductive LogFormat where
  | json
  | pretty
  deriving DecidableEq, Repr

namespace LogFormat

/-- The format a `LOG_FORMAT` value asks for. -/
def parse (value : Option String) : LogFormat :=
  match value with
  | some v => if (Text.trim v).toLower == "json" then .json else .pretty
  | none => .pretty

/-- The name of a format. -/
def name : LogFormat → String
  | .json => "json"
  | .pretty => "pretty"

/-- The name of a format as it is shown for people. -/
def shown : LogFormat → String
  | .json => "Json"
  | .pretty => "Pretty"

end LogFormat

/-- A member registered at start-up. -/
structure Seed where
  identity : String
  password : String
  deriving DecidableEq, Repr

/-- The settings of a gate server. -/
structure Settings where
  host : String
  port : Nat
  accessSecret : String
  refreshSecret : String
  accessTtl : Nat
  refreshTtl : Nat
  sessionTtl : Nat
  cacheUrl : Option String
  cacheCapacity : Nat
  seed : Option Seed
  logFormat : LogFormat
  deriving DecidableEq, Repr

/-- Why settings cannot be read. -/
inductive SettingsFault where
  | missing (name : String)
  | invalid (name reason : String)
  deriving DecidableEq, Repr

namespace SettingsFault

/-- The name of each fault. -/
def kind : SettingsFault → String
  | .missing _ => "Missing"
  | .invalid _ _ => "Invalid"

/-- The words for each fault. -/
def message : SettingsFault → String
  | .missing name => "missing required environment variable " ++ name
  | .invalid name reason => "invalid value for " ++ name ++ ": " ++ reason

end SettingsFault

namespace Settings

/-- The shortest secret accepted, in bytes. -/
def minSecretBytes : Nat := 32

/-- The longest lifetime accepted: ten years of seconds. -/
def maxTtlSecs : Nat := 10 * 365 * 24 * 60 * 60

/-- The largest unsigned 64-bit number, 2^64 - 1. -/
def u64Max : Nat := 18446744073709551615

/-- The cache capacity when none is set. -/
def defaultCapacity : Nat := 100000

/-- A variable's value, when set and not blank. -/
def setValue (lookup : String → Option String) (name : String) : Option String :=
  match lookup name with
  | some v => if Text.isBlankText v then none else some v
  | none => none

/-- A required secret. -/
def secret (name : String) (value : Option String) : Except SettingsFault String :=
  match value with
  | none => .error (.missing name)
  | some v =>
    if (Text.Utf8.ofString v).length < minSecretBytes then
      .error (.invalid name ("must be at least " ++ toString minSecretBytes ++ " bytes"))
    else .ok v

/-- A number read strictly after trimming, no larger than `hi`. -/
def number (name : String) (hi : Nat) (raw : String) : Except SettingsFault Nat :=
  (Text.Decimal.parseNat hi (Text.trim raw)).mapError fun e => .invalid name e.message

/-- A lifetime in seconds. -/
def ttl (name : String) (value : Option String) (default : Nat) : Except SettingsFault Nat := do
  let secs ← match value with
    | some raw => number name u64Max raw
    | none => pure default
  if secs == 0 then throw (.invalid name "must be greater than zero")
  if secs > maxTtlSecs then
    throw (.invalid name ("must be at most " ++ toString maxTtlSecs ++ " seconds"))
  return secs

/-- The settings a set of variables describes. -/
def load (lookup : String → Option String) : Except SettingsFault Settings := do
  let get := setValue lookup
  let access ← secret "JWT_ACCESS_SECRET" (get "JWT_ACCESS_SECRET")
  let refresh ← secret "JWT_REFRESH_SECRET" (get "JWT_REFRESH_SECRET")
  if access == refresh then
    throw (.invalid "JWT_REFRESH_SECRET" "must differ from JWT_ACCESS_SECRET")
  let accessTtl ← ttl "ACCESS_TOKEN_TTL_SECS" (get "ACCESS_TOKEN_TTL_SECS") 3600
  let refreshTtl ← ttl "REFRESH_TOKEN_TTL_SECS" (get "REFRESH_TOKEN_TTL_SECS") 1209600
  let sessionTtl ← ttl "SESSION_CACHE_TTL_SECS" (get "SESSION_CACHE_TTL_SECS") 1800
  let port ← match get "PORT" with
    | some raw => number "PORT" 65535 raw
    | none => pure 8080
  let capacity ← match get "CACHE_CAPACITY" with
    | some raw =>
      let n ← number "CACHE_CAPACITY" u64Max raw
      if n == 0 then throw (.invalid "CACHE_CAPACITY" "must be greater than zero")
      pure n
    | none => pure defaultCapacity
  let seed ← match get "SEED_MEMBER_IDENTITY", get "SEED_MEMBER_PASSWORD" with
    | some identity, some password => pure (some ⟨identity, password⟩)
    | some _, none => throw (.missing "SEED_MEMBER_PASSWORD")
    | none, _ => pure none
  return {
    host := (get "HOST").getD "0.0.0.0"
    port := port
    accessSecret := access
    refreshSecret := refresh
    accessTtl := accessTtl
    refreshTtl := refreshTtl
    sessionTtl := sessionTtl
    cacheUrl := get "CACHE_URL"
    cacheCapacity := capacity
    seed := seed
    logFormat := LogFormat.parse (get "LOG_FORMAT") }

/-- The address the server listens on: host and port. -/
def bindAddr (s : Settings) : String := s.host ++ ":" ++ toString s.port

/-- The settings shown for people, secrets masked. -/
def shown (s : Settings) : String :=
  let seed := match s.seed with
    | some m => "Some(SeedMember \x7b identity: " ++ Text.quote m.identity
        ++ ", password: \"***\" \x7d)"
    | none => "None"
  let url := match s.cacheUrl with
    | some u => "Some(" ++ Text.quote u ++ ")"
    | none => "None"
  "AppConfig \x7b host: " ++ Text.quote s.host ++ ", port: " ++ toString s.port
    ++ ", auth: AuthConfig \x7b access_secret: SigningSecret(***), "
    ++ "refresh_secret: SigningSecret(***), access_ttl: " ++ (Span.ofSecs s.accessTtl).render
    ++ ", refresh_ttl: " ++ (Span.ofSecs s.refreshTtl).render
    ++ ", session_ttl: " ++ (Span.ofSecs s.sessionTtl).render ++ " \x7d, cache_url: " ++ url
    ++ ", cache_capacity: " ++ toString s.cacheCapacity ++ ", seed_member: " ++ seed
    ++ ", log_format: " ++ s.logFormat.shown ++ " \x7d"

end Settings

end Gatehouse
