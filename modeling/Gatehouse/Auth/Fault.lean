import Gatehouse.Token.Codec
import Gatehouse.Json.Value

/-!
Why the gate refuses a request.

Every refusal but `internal` is a client fault, answered with status 401 and a body that
names the fault three ways: its sentence, a stable snake-case name and a stable number from
40101 on. An `internal` refusal covers an outage of the cache or the member store; it is
answered with status 500 and a body that says only "Internal server error", so the detail
stays on the server.

A token refused by the codec becomes a fault of the token's role: an access token keeps the
codec's reason, a refresh token is only ever invalid or expired.
-/

namespace Gatehouse.Auth

/-- The causes of a refused request. -/
inductive Fault where
  | malformedAccessToken
  | unsupportedAccessToken
  | expiredAccessToken
  | emptyAccessToken
  | invalidAccessToken
  | accessTokenEmailMissing
  | invalidRefreshToken
  | expiredRefreshToken
  | refreshTokenEmailMissing
  | userNotLoggedIn
  | refreshTokenExtractionFailed
  | unauthorizedUser
  | unauthorizedPassword
  | internal (detail : String)
  deriving DecidableEq, Repr

namespace Fault

/-- The client faults, in the order of their numbers. -/
def clientFaults : List Fault :=
  [.malformedAccessToken, .unsupportedAccessToken, .expiredAccessToken, .emptyAccessToken,
    .invalidAccessToken, .accessTokenEmailMissing, .invalidRefreshToken, .expiredRefreshToken,
    .refreshTokenEmailMissing, .userNotLoggedIn, .refreshTokenExtractionFailed,
    .unauthorizedUser, .unauthorizedPassword]

/-- The name of each cause. -/
def kind : Fault → String
  | .malformedAccessToken => "MalformedAccessToken"
  | .unsupportedAccessToken => "UnsupportedAccessToken"
  | .expiredAccessToken => "ExpiredAccessToken"
  | .emptyAccessToken => "EmptyAccessToken"
  | .invalidAccessToken => "InvalidAccessToken"
  | .accessTokenEmailMissing => "AccessTokenEmailMissing"
  | .invalidRefreshToken => "InvalidRefreshToken"
  | .expiredRefreshToken => "ExpiredRefreshToken"
  | .refreshTokenEmailMissing => "RefreshTokenEmailMissing"
  | .userNotLoggedIn => "UserNotLoggedIn"
  | .refreshTokenExtractionFailed => "RefreshTokenExtractionFailed"
  | .unauthorizedUser => "UnauthorizedUser"
  | .unauthorizedPassword => "UnauthorizedPassword"
  | .internal _ => "Internal"

/-- The sentence each cause is told by. -/
def message : Fault → String
  | .malformedAccessToken => "Access token is malformed"
  | .unsupportedAccessToken => "Access token algorithm is not supported"
  | .expiredAccessToken => "Access token has expired"
  | .emptyAccessToken => "Access token is empty"
  | .invalidAccessToken => "Access token is invalid"
  | .accessTokenEmailMissing => "Access token does not contain an email"
  | .invalidRefreshToken => "Refresh token is invalid"
  | .expiredRefreshToken => "Refresh token has expired"
  | .refreshTokenEmailMissing => "Refresh token does not contain an email"
  | .userNotLoggedIn => "User is not logged in"
  | .refreshTokenExtractionFailed =>
    "Invalid refresh authorization header format (expected 'Bearer <token>')"
  | .unauthorizedUser => "No valid member information"
  | .unauthorizedPassword => "Password does not match"
  | .internal detail => "Internal authentication error: " ++ detail

/-- The stable snake-case name of a client fault. -/
def errorCode? : Fault → Option String
  | .malformedAccessToken => some "malformed_access_token"
  | .unsupportedAccessToken => some "unsupported_access_token"
  | .expiredAccessToken => some "expired_access_token"
  | .emptyAccessToken => some "empty_access_token"
  | .invalidAccessToken => some "invalid_access_token"
  | .accessTokenEmailMissing => some "access_token_email_missing"
  | .invalidRefreshToken => some "invalid_refresh_token"
  | .expiredRefreshToken => some "expired_refresh_token"
  | .refreshTokenEmailMissing => some "refresh_token_email_missing"
  | .userNotLoggedIn => some "user_not_logged_in"
  | .refreshTokenExtractionFailed => some "refresh_token_extraction_failed"
  | .unauthorizedUser => some "unauthorized_user"
  | .unauthorizedPassword => some "unauthorized_password"
  | .internal _ => none

/-- The stable number of a client fault. -/
def code? : Fault → Option Nat
  | .malformedAccessToken => some 40101
  | .unsupportedAccessToken => some 40102
  | .expiredAccessToken => some 40103
  | .emptyAccessToken => some 40104
  | .invalidAccessToken => some 40105
  | .accessTokenEmailMissing => some 40106
  | .invalidRefreshToken => some 40107
  | .expiredRefreshToken => some 40108
  | .refreshTokenEmailMissing => some 40109
  | .userNotLoggedIn => some 40110
  | .refreshTokenExtractionFailed => some 40111
  | .unauthorizedUser => some 40112
  | .unauthorizedPassword => some 40113
  | .internal _ => none

/-- The status a refusal is answered with. -/
def status : Fault → Nat
  | .internal _ => 500
  | _ => 401

/-- The body a refusal is answered with: the three names of a client fault, or the bare
notice of an internal one. -/
def body : Fault → Json.Value
  | .internal _ => .obj [("error", .str "Internal server error")]
  | f => .obj ([("error", .str f.message)]
      ++ (f.errorCode?.map fun c => ("error_code", Json.Value.str c)).toList
      ++ (f.code?.map fun n => ("code", Json.Value.int n)).toList)

/-- The fault of an access token the codec refused. -/
def ofAccess : Token.Fault → Fault
  | .empty => .emptyAccessToken
  | .malformed => .malformedAccessToken
  | .unsupportedAlgorithm => .unsupportedAccessToken
  | .expired => .expiredAccessToken
  | .invalidSignature => .invalidAccessToken

/-- The fault of a refresh token the codec refused. -/
def ofRefresh : Token.Fault → Fault
  | .expired => .expiredRefreshToken
  | _ => .invalidRefreshToken

end Fault

end Gatehouse.Auth
