import Gatehouse.Token.Claims
import Gatehouse.Token.Header
import Gatehouse.Json.Reader
import Gatehouse.Digest.Hmac
import Gatehouse.Encoding.Base64
import Gatehouse.Text.Utf8

/-!
Signed tokens: the compact form of a JSON Web Token signed with HMAC-SHA256 (`HS256`).

A token is three segments joined by dots: the header `{"typ":"JWT","alg":"HS256"}`, the
claims, and the HMAC-SHA256 under the secret of the first two segments joined by a dot, each
segment in unpadded URL base64.

Decoding checks, in this order, and reports the first failure:

1. the token, trimmed of White_Space, is not empty (`empty`);
2. it has exactly three segments, and the header is strict URL base64 of JSON that names an
   algorithm (`malformed`);
3. that algorithm is exactly `HS256` (`unsupportedAlgorithm`);
4. the header holds only well-typed parameters (`malformed`);
5. the signature segment is strict URL base64 (`malformed`) of the expected tag
   (`invalidSignature`);
6. the claims segment is strict URL base64 of a claims object (`malformed`);
7. the token has not expired: its `exp` is after the current second (`expired`).
-/

namespace Gatehouse.Token

/-- Why a token is refused. -/
inductive Fault where
  | empty
  | malformed
  | unsupportedAlgorithm
  | invalidSignature
  | expired
  deriving DecidableEq, Repr

/-- The words for each refusal. -/
def Fault.message : Fault → String
  | .empty => "token is empty"
  | .malformed => "token is malformed"
  | .unsupportedAlgorithm => "token algorithm is not supported"
  | .invalidSignature => "token signature does not match"
  | .expired => "token has expired"

/-- The name of each refusal. -/
def Fault.kind : Fault → String
  | .empty => "Empty"
  | .malformed => "Malformed"
  | .unsupportedAlgorithm => "UnsupportedAlgorithm"
  | .invalidSignature => "InvalidSignature"
  | .expired => "Expired"

/-- The only algorithm this library signs and accepts. -/
def algorithm : String := "HS256"

/-- The header every token is written with. -/
def headerText : String := "\x7b\"typ\":\"JWT\",\"alg\":\"HS256\"\x7d"

/-- A segment: unpadded URL base64 of text. -/
def segment (text : String) : String :=
  Encoding.Base64.encode .url (Text.Utf8.ofString text)

/-- The signature segment of a signing input under a secret. -/
def signature (secret : List UInt8) (input : String) : String :=
  Encoding.Base64.encode .url (Digest.Hmac.tag secret (Text.Utf8.ofString input))

/-- The token of claims signed with a secret. -/
def encode (claims : Claims) (secret : List UInt8) : String :=
  let input := segment headerText ++ "." ++ segment claims.payload
  input ++ "." ++ signature secret input

/-- The JSON a segment holds, when it is strict URL base64 of JSON text. -/
def segmentJson? (seg : String) : Option Json.Value :=
  match Encoding.Base64.decode .url seg with
  | some bytes =>
    match Json.parse bytes with
    | .ok v => some v
    | .error _ => none
  | none => none

/-- The claims of a token signed with a secret, checked at second `now`. -/
def decode (token : String) (secret : List UInt8) (now : Int) : Except Fault Claims := do
  let t := Text.trim token
  if t.isEmpty then throw .empty
  let (h, p, g) ← match t.splitToList (· == '.') with
    | [h, p, g] => pure (h, p, g)
    | _ => throw .malformed
  let header ← match segmentJson? h with
    | some v => pure v
    | none => throw .malformed
  match Header.algorithm? header with
  | none => throw .malformed
  | some alg => if alg != some algorithm then throw .unsupportedAlgorithm
  if !Header.registeredOk header then throw .malformed
  let tag ← match Encoding.Base64.decode .url g with
    | some tag => pure tag
    | none => throw .malformed
  if tag != Digest.Hmac.tag secret (Text.Utf8.ofString (h ++ "." ++ p)) then
    throw .invalidSignature
  let claims ← match segmentJson? p >>= ofJson? with
    | some c => pure c
    | none => throw .malformed
  if claims.exp.toInt ≤ now then throw .expired
  return claims

end Gatehouse.Token
