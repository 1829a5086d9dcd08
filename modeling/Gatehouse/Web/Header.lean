import Gatehouse.Auth.Fault
import Gatehouse.Text.Utf8

/-!
HTTP header fields and the bearer credentials they carry.

A header name is one or more token characters (letters, digits and ``!#$%&'*+-.^_`|~``),
compared without regard to case: it is kept in lowercase. A header value is any run of
bytes but the controls, tab excepted, and DEL. A field map keeps the fields in the order
given; asking for a name gives its first value.

A value is read as text only when every byte is visible ASCII or a tab. A bearer credential
is such a value that starts with exactly `Bearer ` (one space): the token is the rest, as it
stands. Access tokens come in `authorization`, refresh tokens in `authorization-refresh`.
-/

namespace Gatehouse.Web

/-- Why a header field cannot be built. -/
inductive HeaderFault where
  | invalidName
  | invalidValue
  deriving DecidableEq, Repr

namespace HeaderFault

/-- The name of each fault. -/
def kind : HeaderFault → String
  | .invalidName => "InvalidHeaderName"
  | .invalidValue => "InvalidHeaderValue"

/-- The words for each fault. -/
def message : HeaderFault → String
  | .invalidName => "invalid HTTP header name"
  | .invalidValue => "failed to parse header value"

end HeaderFault

/-- Whether a byte is a token character. -/
def isTokenByte (b : UInt8) : Bool :=
  (b ≥ 0x30 && b ≤ 0x39) || (b ≥ 0x41 && b ≤ 0x5a) || (b ≥ 0x61 && b ≤ 0x7a)
    || "!#$%&'*+-.^_`|~".toList.any (fun c => c.toNat == b.toNat)

/-- Whether a byte may stand in a header value. -/
def isValueByte (b : UInt8) : Bool := (b ≥ 0x20 && b != 0x7f) || b == 0x09

/-- Whether a byte is visible ASCII or a tab. -/
def isVisibleByte (b : UInt8) : Bool := (b ≥ 0x20 && b < 0x7f) || b == 0x09

/-- The longest header name accepted, in bytes. -/
def nameLimit : Nat := 65535

/-- A header name in lowercase, when the text is one. -/
def headerName? (name : String) : Option String :=
  let bytes := Text.Utf8.ofString name
  if bytes.isEmpty || bytes.length > nameLimit || !bytes.all isTokenByte then none
  else some (String.ofList (name.toList.map Char.toLower))

/-- Header fields in the order given, names in lowercase. -/
structure Fields where
  entries : List (String × String)
  deriving DecidableEq, Repr

namespace Fields

/-- No fields. -/
def empty : Fields := ⟨[]⟩

/-- The fields built from name and value pairs, or the first fault met, a name checked before
its value. -/
def build : List (String × String) → Except HeaderFault Fields
  | [] => .ok empty
  | (n, v) :: rest =>
    match headerName? n with
    | none => .error .invalidName
    | some name =>
      if !(Text.Utf8.ofString v).all isValueByte then .error .invalidValue
      else (build rest).map fun f => ⟨(name, v) :: f.entries⟩

/-- The first value of a field, by name in lowercase. -/
def get? (f : Fields) (name : String) : Option String :=
  (f.entries.find? (·.1 == name)).map (·.2)

/-- Whether a field is present. -/
def contains (f : Fields) (name : String) : Bool := (f.get? name).isSome

/-- The first value of a field, when it reads as text. -/
def text? (f : Fields) (name : String) : Option String :=
  match f.get? name with
  | some v => if (Text.Utf8.ofString v).all isVisibleByte then some v else none
  | none => none

/-- The fields with one more at the end. -/
def push (f : Fields) (name value : String) : Fields := ⟨f.entries ++ [(name, value)]⟩

end Fields

/-- The marker a bearer credential starts with. -/
def bearerMarker : String := "Bearer "

/-- The token of a bearer credential. -/
def bearerToken? (value : String) : Option String :=
  if value.startsWith bearerMarker then some (String.ofList (value.toList.drop 7)) else none

/-- The header that carries access tokens. -/
def accessHeader : String := "authorization"

/-- The header that carries refresh tokens. -/
def refreshHeader : String := "authorization-refresh"

/-- The access token a request carries, if any. -/
def accessBearer (f : Fields) : Option String := f.text? accessHeader >>= bearerToken?

/-- The refresh token a request carries. -/
def refreshBearer (f : Fields) : Except Auth.Fault String :=
  match f.text? refreshHeader >>= bearerToken? with
  | some t => .ok t
  | none => .error .refreshTokenExtractionFailed

end Gatehouse.Web
