import Gatehouse.Gate.System
import Gatehouse.Token.Codec

/-!
Issuing and checking tokens.

A token is issued for an identity with the current time as `iat`, `iat` plus the whole seconds
of the role's lifetime as `exp` (held at the largest signed 64-bit second rather than passing
it), and a fresh version-4 identifier as `jti`. Access tokens are signed with the access secret
and leave no trace; a refresh token is signed with the refresh secret and replaces the
identity's active refresh token, kept under `refresh:<identity>` for the refresh lifetime.

Checking a token decodes it with its role's secret at the current second. A refresh token is
only accepted while it is the identity's active one: the kept token must equal the offered
token with its blanks trimmed.
-/

namespace Gatehouse.Gate

open Token

/-- The largest signed 64-bit value, 2^63 - 1. -/
def i64Max : Int := 9223372036854775807

/-- The cache key of an identity's active refresh token. -/
def refreshKey (identity : String) : String := "refresh:" ++ identity

/-- The expiry of a token issued at `now` for a lifetime: `now + ttl`, held at the largest
signed 64-bit value. -/
def expiryOf (now : Int) (ttl : Nat) : Int := min (now + min (ttl : Int) i64Max) i64Max

/-- The claims of a token issued at second `now` for a lifetime: issued at `now`, expiring the
lifetime's whole seconds later (the fraction of a second is dropped), with token id `jti`. -/
def issuedClaims (identity : Option String) (now : Int) (ttl : Span) (jti : String) : Claims :=
  ⟨identity, Int64.ofInt now, Int64.ofInt (expiryOf now ttl.secs), some jti⟩

/-- Fresh claims for an identity and a lifetime in seconds. -/
def freshClaims (identity : Option String) (ttl : Nat) : StateM System Claims := do
  let jti := Uuid.hyphenated (← freshUuid)
  let now := (← get).clock.unixSecs
  return issuedClaims identity now (Span.ofSecs ttl) jti

/-- A new access token for an identity. -/
def issueAccess (identity : String) : StateM System String := do
  let p := (← get).policy
  let claims ← freshClaims (some identity) p.accessTtl
  return encode claims p.accessSecret

/-- A new refresh token for an identity, made its active one. -/
def issueRefresh (identity : String) : GateM String := do
  let p := (← get).policy
  let claims ← freshClaims (some identity) p.refreshTtl
  let token := encode claims p.refreshSecret
  cached (cacheSet (refreshKey identity) token (Span.ofSecs p.refreshTtl))
  return token

/-- The claims of an access token. -/
def decodeAccess (token : String) : GateM Claims := do
  let s ← get
  match decode token s.policy.accessSecret s.clock.unixSecs with
  | .ok c => pure c
  | .error e => throw (Auth.Fault.ofAccess e)

/-- The claims of a refresh token. -/
def decodeRefresh (token : String) : GateM Claims := do
  let s ← get
  match decode token s.policy.refreshSecret s.clock.unixSecs with
  | .ok c => pure c
  | .error e => throw (Auth.Fault.ofRefresh e)

/-- Check an access token. -/
def validateAccess (token : String) : GateM Unit := discard (decodeAccess token)

/-- Check a refresh token, active or not. -/
def validateRefresh (token : String) : GateM Unit := discard (decodeRefresh token)

/-- The identity an access token carries. -/
def accessIdentity (token : String) : GateM String := do
  match (← decodeAccess token).identity? with
  | some i => pure i
  | none => throw .accessTokenEmailMissing

/-- The identity a refresh token carries, while it is that identity's active token. -/
def refreshIdentity (token : String) : GateM String := do
  let identity ← match (← decodeRefresh token).identity? with
    | some i => pure i
    | none => throw .refreshTokenEmailMissing
  match ← cached (cacheGet (refreshKey identity)) with
  | some current => if current == Text.trim token then pure identity else throw .userNotLoggedIn
  | none => throw .userNotLoggedIn

/-- Drop an identity's active refresh token; there must be one. -/
def revoke (identity : String) : GateM Unit := do
  if !(← cached (cacheExists (refreshKey identity))) then throw .userNotLoggedIn
  cached (cacheDelete (refreshKey identity))

end Gatehouse.Gate
