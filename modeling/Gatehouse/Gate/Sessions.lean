import Gatehouse.Gate.Tokens
import Gatehouse.Text.Decimal

/-!
Sessions: logging in and out, reissuing tokens, withdrawing, and telling who a request is.

*Resolving* an identity to a member number asks the cache first (`session:<identity>`, the
number in decimal); an entry that is not a signed 64-bit decimal counts as absent. Otherwise
the roster is asked, and the number found is kept in the cache for the session lifetime. The
read and the write of that entry are `sessionGet` and `sessionPut`.

*Logging in* brings the identity to its canonical form, checks the password against the
member's digest and issues an access token, then a refresh token. *Reissuing* takes the
identity of an active refresh token, looks the member up and issues a new pair. *Logging out*
drops the active refresh token of the access token's identity. *Withdrawing* drops it, then
removes the member, then forgets the cached number; failing to forget is not a refusal.

*Authenticating* a request's access token checks it, takes its identity and resolves it; the
request then acts as that member number (`-1` stands for nobody).
-/

namespace Gatehouse.Gate

/-- The member number that stands for nobody. -/
def anonymousId : Int := -1

/-- Who a request acts as: a member number, and the authorities granted (none so far). -/
structure Context where
  memberId : Int
  authorities : List String
  deriving DecidableEq, Repr

/-- The context of a request that presented no credential. -/
def Context.anonymous : Context := ⟨anonymousId, []⟩

/-- Whether a context acts as nobody. -/
def Context.isAnonymous (c : Context) : Bool := c.memberId == anonymousId

/-- The tokens a successful login or reissue hands out. -/
structure Issued where
  memberId : Int
  accessToken : String
  refreshToken : String
  deriving DecidableEq, Repr

/-- The cache key of an identity's member number. -/
def sessionKey (identity : String) : String := "session:" ++ identity

/-- The member number cached for an identity; an entry that is not a signed 64-bit decimal
counts as absent. -/
def sessionGet (identity : String) : GateM (Option Int) := do
  let kept ← cached (cacheGet (sessionKey identity))
  return kept.bind Text.Decimal.i64?

/-- Cache the member number of an identity, in decimal, for the session lifetime. -/
def sessionPut (identity : String) (memberId : Int) : GateM Unit := do
  cached (cacheSet (sessionKey identity) (toString memberId)
    (Span.ofSecs (← get).policy.sessionTtl))

/-- The member number of an identity, from the cache or else from the roster. -/
def resolve (identity : String) : GateM Int := do
  let kept ← cached (cacheGet (sessionKey identity))
  match kept.bind Text.Decimal.i64? with
  | some id => pure id
  | none =>
    match ← rostered (findId identity) with
    | none => throw .unauthorizedUser
    | some id =>
      cached (cacheSet (sessionKey identity) (toString id)
        (Span.ofSecs (← get).policy.sessionTtl))
      pure id

/-- Forget the cached member number of an identity. -/
def forget (identity : String) : GateM Unit := cached (cacheDelete (sessionKey identity))

/-- Issue an access token, then a refresh token, for a member. -/
def issuePair (identity : String) (memberId : Int) : GateM Issued := do
  let access ← issueAccess identity
  let refresh ← issueRefresh identity
  return ⟨memberId, access, refresh⟩

/-- Log a member in with a raw identity and a password. -/
def login (raw password : String) : GateM Issued := do
  let identity := Identity.normalize raw
  match ← rostered (findMember identity) with
  | none => throw .unauthorizedUser
  | some m =>
    if !Password.verify password m.digest m.salt then throw .unauthorizedPassword
    issuePair identity m.id

/-- Log out the identity of an access token. -/
def logout (accessToken : String) : GateM Unit := do
  revoke (← accessIdentity accessToken)

/-- A new pair for the identity of an active refresh token. -/
def reissue (refreshToken : String) : GateM Issued := do
  let identity ← refreshIdentity refreshToken
  match ← rostered (findId identity) with
  | none => throw .unauthorizedUser
  | some id => issuePair identity id

/-- Remove the member behind an access token. -/
def withdraw (accessToken : String) : GateM Unit := do
  let identity ← accessIdentity accessToken
  revoke identity
  rostered (deleteMember identity)
  tryCatch (forget identity) fun _ => pure ()

/-- The context an access token gives a request. -/
def authenticate (accessToken : String) : GateM Context := do
  validateAccess accessToken
  let identity ← accessIdentity accessToken
  return ⟨← resolve identity, []⟩

end Gatehouse.Gate
