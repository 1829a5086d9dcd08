import Gatehouse.Text.Decimal
import Gatehouse.Text.Utf8

/-!
Addresses of a cache service, written as URLs: `redis://` or `rediss://` for a TCP server,
`unix:` or `redis+unix:` for a local socket.

The URL is read with the generic syntax of the URL Standard for schemes without special
handling (all four are such): blanks and controls at either end are dropped and tabs and line
breaks anywhere; a scheme of an ASCII letter then letters, digits, `+`, `-` or `.`; then
after `//` an authority (user information up to its last `@`, a host, an optional port of at
most 65535), a path whose `.` and `..` segments are resolved, a query after `?` and a
fragment after `#`. Without `//` the path is either absolute (it starts with `/`) or a
plain text up to the query.

A host is an IPv6 address in brackets or a run of characters other than the forbidden ones
(controls, blank, `# / : < > ? @ [ \ ] ^ |`); an empty host is no host, and is refused before
a port or after user information.

What a cache address needs beyond that:

* TCP: a host; no TLS (`rediss`), which is not available; a database number, the path
  without its outer slashes read as a signed 64-bit decimal (empty is 0); user name and
  password that decode to UTF-8 text; a `protocol` query field, if any, of `2`, `resp2`, `3`
  or `resp3`.
* Local socket: a path (an absolute path on no host or on `localhost`); a `db` query field,
  if any, that is a signed 64-bit decimal; the `protocol` field as above.
-/

namespace Gatehouse.Net

/-- A URL of a scheme without special handling, as far as cache addresses read it. -/
structure Url where
  scheme : String
  /-- The user name, as written. -/
  username : List Char
  /-- The password, as written. -/
  password : List Char
  /-- The host; `none` when absent or empty. -/
  host : Option String
  port : Option Nat
  /-- The path with dot segments resolved, as written otherwise. -/
  path : String
  query : Option String
  fragment : Option String
  deriving DecidableEq, Repr

/-! ## Reading a URL -/

/-- Whether a character is a C0 control or a blank. -/
def isC0OrSpace (c : Char) : Bool := c.toNat ≤ 0x20

/-- The forbidden characters of a host. -/
def isForbiddenHostChar (c : Char) : Bool :=
  "\x00\t\n\r #/:<>?@[\\]^|".toList.contains c

/-- The value of a hexadecimal digit. -/
def hexValue? (c : Char) : Option Nat :=
  if '0' ≤ c ∧ c ≤ '9' then some (c.toNat - 48)
  else if 'a' ≤ c ∧ c ≤ 'f' then some (c.toNat - 87)
  else if 'A' ≤ c ∧ c ≤ 'F' then some (c.toNat - 55)
  else none

/-- The value of a run of at most four hexadecimal digits. -/
def hexRun? (cs : List Char) : Option Nat :=
  if cs.isEmpty || cs.length > 4 then none
  else cs.foldlM (fun acc c => (hexValue? c).map (acc * 16 + ·)) 0

/-- The four parts of a dotted IPv4 address in decimal, each below 256, without leading
zeros. -/
def ipv4Parts? (s : String) : Option (List Nat) :=
  let parts := s.splitOn "."
  if parts.length != 4 then none
  else parts.mapM fun p =>
    let cs := p.toList
    if cs.isEmpty || cs.length > 3 || !cs.all Char.isDigit || (cs.length > 1 && cs.head? == some '0')
    then none
    else
      let n := cs.foldl (fun a d => 10 * a + (d.toNat - 48)) 0
      if n < 256 then some n else none

/-- The 16-bit pieces of a run of groups separated by `:`, the last of which may be a dotted
IPv4 address (two pieces). -/
def ipv6Groups? (s : String) (lastMayBeV4 : Bool) : Option (List Nat) :=
  if s.isEmpty then some []
  else
    let groups := s.splitOn ":"
    let lastGroup := groups.getLastD ""
    let init := groups.dropLast
    if lastMayBeV4 && lastGroup.contains '.' then do
      let v4 ← ipv4Parts? lastGroup
      let front ← init.mapM (hexRun? ·.toList)
      return front ++ [(v4.getD 0 0) * 256 + v4.getD 1 0, (v4.getD 2 0) * 256 + v4.getD 3 0]
    else groups.mapM (hexRun? ·.toList)

/-- Whether text is an IPv6 address in its text form: eight groups, or fewer around one
`::`, the last two possibly a dotted IPv4 address. -/
def isIpv6 (s : String) : Bool :=
  match s.splitOn "::" with
  | [whole] =>
    match ipv6Groups? whole true with
    | some ps => ps.length == 8
    | none => false
  | [front, back] =>
    match ipv6Groups? front false, ipv6Groups? back true with
    | some f, some b => f.length + b.length ≤ 7
    | _, _ => false
  | _ => false

/-- A host as written, read: `none` for an empty host, a failure for a malformed one. -/
def readHost (cs : List Char) : Except Unit (Option String) :=
  match cs with
  | [] => .ok none
  | '[' :: _ =>
    if cs.getLast? == some ']' && isIpv6 (String.ofList ((cs.drop 1).dropLast)) then
      .ok (some (String.ofList cs))
    else .error ()
  | _ => if cs.any isForbiddenHostChar then .error () else .ok (some (String.ofList cs))

/-- A port as written, up to the first `/`, `\`, `?` or `#`: digits only, at most 65535. -/
def readPort (cs : List Char) : Except Unit (Option Nat × List Char) :=
  let digits := cs.takeWhile Char.isDigit
  let rest := cs.drop digits.length
  let value := digits.foldl (fun a d => 10 * a + (d.toNat - 48)) 0
  let stops := match rest with
    | [] => true
    | c :: _ => c = '/' || c = '\\' || c = '?' || c = '#'
  if !stops || value > 65535 then .error ()
  else .ok (if digits.isEmpty then none else some value, rest)

/-- Whether a segment is a single dot, written or percent-encoded. -/
def isDot (s : String) : Bool := s == "." || s.toLower == "%2e"

/-- Whether a segment is a double dot, written or percent-encoded. -/
def isDoubleDot (s : String) : Bool :=
  let l := s.toLower
  l == ".." || l == ".%2e" || l == "%2e." || l == "%2e%2e"

/-- The segments of an absolute path (after its first `/`) with dot segments resolved. -/
def resolveSegments (segments : List String) : List String :=
  let step (acc : List String) (item : String × Bool) : List String :=
    let (seg, last) := item
    if isDoubleDot seg then acc.dropLast ++ (if last then [""] else [])
    else if isDot seg then acc ++ (if last then [""] else [])
    else acc ++ [seg]
  let n := segments.length
  (segments.zipIdx.map fun (s, i) => (s, i + 1 == n)).foldl step []

/-- An absolute path (after its first `/`), resolved. -/
def absolutePath (cs : List Char) : String :=
  "/" ++ "/".intercalate (resolveSegments ((String.ofList cs).splitOn "/"))

/-- The query and fragment at the end of a URL, from a `?` or `#` on. -/
def tail (cs : List Char) : Option String × Option String :=
  match cs with
  | '?' :: rest =>
    let q := rest.takeWhile (· != '#')
    (some (String.ofList q), match rest.drop q.length with
      | '#' :: f => some (String.ofList f)
      | _ => none)
  | '#' :: f => (none, some (String.ofList f))
  | _ => (none, none)

/-- The path text up to a `?` or `#`, and the rest. -/
def splitPath (cs : List Char) : List Char × List Char :=
  let p := cs.takeWhile fun c => c != '?' && c != '#'
  (p, cs.drop p.length)

/-- The URL after `scheme://`. -/
def readAuthority (scheme : String) (cs : List Char) : Except Unit Url := do
  let authority := cs.takeWhile fun c => c != '/' && c != '?' && c != '#'
  let atIndex := authority.length - 1 - (authority.reverse.takeWhile (· != '@')).length
  let (userinfo, afterInfo) :=
    if authority.contains '@' then (authority.take atIndex, cs.drop (atIndex + 1))
    else ([], cs)
  if authority.contains '@' && userinfo.isEmpty then
    match afterInfo with
    | c :: _ => if c = '/' || c = '?' || c = '#' then throw () else pure ()
    | [] => pure ()
  let username := userinfo.takeWhile (· != ':')
  let password := userinfo.drop (username.length + 1)
  -- the host runs to a `:` outside brackets, or to the end of the authority
  let hostPart := (afterInfo.takeWhile fun c => c != '/' && c != '?' && c != '#')
  let inBrackets (xs : List Char) : List Char :=
    match xs with
    | '[' :: _ =>
      let upTo := xs.takeWhile (· != ']')
      if upTo.length < xs.length then upTo ++ [']'] ++ ((xs.drop (upTo.length + 1)).takeWhile
        (· != ':')) else xs
    | _ => xs.takeWhile (· != ':')
  let hostChars := inBrackets hostPart
  let rest := afterInfo.drop hostChars.length
  let host ← readHost hostChars
  if host.isNone then
    match rest with
    | ':' :: _ => throw ()
    | _ => pure ()
  let (port, rest) ← match rest with
    | ':' :: r => readPort r
    | r => pure (none, r)
  if host.isNone && !(username.isEmpty && password.isEmpty) then throw ()
  let (pathChars, after) := splitPath rest
  let path := match pathChars with
    | [] => ""
    | '/' :: p => absolutePath p
    | p => absolutePath p
  let (query, fragment) := tail after
  return ⟨scheme, username, password, host, port, path, query, fragment⟩

/-- A URL of a scheme without special handling. -/
def Url.parse? (s : String) : Option Url :=
  let cs := ((s.toList.dropWhile isC0OrSpace).reverse.dropWhile isC0OrSpace).reverse
  let cs := cs.filter fun c => c != '\t' && c != '\n' && c != '\r'
  match cs with
  | first :: more =>
    if !(first.isAlpha) then none
    else
      let body := more.takeWhile fun c => c.isAlphanum || c = '+' || c = '-' || c = '.'
      match more.drop body.length with
      | ':' :: rest =>
        let scheme := String.ofList ((first :: body).map Char.toLower)
        match rest with
        | '/' :: '/' :: afterSlashes =>
          match readAuthority scheme afterSlashes with
          | .ok u => some u
          | .error _ => none
        | '/' :: p =>
          let (pathChars, after) := splitPath p
          let (query, fragment) := tail after
          some ⟨scheme, [], [], none, none, absolutePath pathChars, query, fragment⟩
        | other =>
          let (pathChars, after) := splitPath other
          let (query, fragment) := tail after
          some ⟨scheme, [], [], none, none, String.ofList pathChars, query, fragment⟩
      | _ => none
  | [] => none

/-! ## Query fields -/

/-- Bytes with `%XX` escapes decoded; a `%` not followed by two hexadecimal digits stays. -/
def percentDecode : List UInt8 → List UInt8
  | 0x25 :: a :: b :: rest =>
    match hexValue? (Char.ofNat a.toNat), hexValue? (Char.ofNat b.toNat) with
    | some x, some y => (x * 16 + y).toUInt8 :: percentDecode rest
    | _, _ => 0x25 :: percentDecode (a :: b :: rest)
  | b :: rest => b :: percentDecode rest
  | [] => []

/-- Text of decoded bytes, each maximal malformed UTF-8 subpart replaced by U+FFFD. -/
def lossyText (bytes : List UInt8) : String := String.ofList (Text.Utf8.decodeLossy bytes)

/-- The name and value pairs of a query (form encoding: `&` between pairs, `=` inside,
`+` for a blank). -/
def queryPairs (q : String) : List (String × String) :=
  let decode (s : String) : String :=
    lossyText (percentDecode (Text.Utf8.ofString (s.map fun c => if c = '+' then ' ' else c)))
  (q.splitOn "&").filter (· != "") |>.map fun piece =>
    let name := piece.takeWhile (· != '=')
    (decode name.copy, decode (piece.drop (name.copy.length + 1)).copy)

/-- The value of a query field: the last one given. -/
def queryField (u : Url) (name : String) : Option String :=
  match u.query with
  | some q => ((queryPairs q).reverse.find? (·.1 == name)).map (·.2)
  | none => none

/-! ## Cache addresses -/

/-- Why a cache address cannot be used. -/
inductive AddressFault where
  | unreadable
  | missingHostname
  | tlsUnavailable
  | invalidDatabase
  | usernameNotText
  | passwordNotText
  | missingPath
  | invalidProtocol (given : String)
  deriving DecidableEq, Repr

/-- The words for each fault, with the kind of client fault they are. -/
def AddressFault.message : AddressFault → String
  | .unreadable => "Redis URL did not parse- InvalidClientConfig"
  | .missingHostname => "Missing hostname- InvalidClientConfig"
  | .tlsUnavailable => "can't connect with TLS, the feature is not enabled- InvalidClientConfig"
  | .invalidDatabase => "Invalid database number- InvalidClientConfig"
  | .usernameNotText => "Username is not valid UTF-8 string- InvalidClientConfig"
  | .passwordNotText => "Password is not valid UTF-8 string- InvalidClientConfig"
  | .missingPath => "Missing path- InvalidClientConfig"
  | .invalidProtocol given => "Invalid protocol version - InvalidClientConfig: " ++ given

/-- Where a cache service is reached. -/
inductive Endpoint where
  | tcp (host : String) (port : Nat) (db : Int)
  | socket (path : String) (db : Int)
  deriving DecidableEq, Repr

/-- The protocol field, if any, must name a protocol version. -/
def checkProtocol (u : Url) : Except AddressFault Unit :=
  match queryField u "protocol" with
  | some p =>
    if p == "2" || p == "resp2" || p == "3" || p == "resp3" then .ok ()
    else .error (.invalidProtocol p)
  | none => .ok ()

/-- A database number as written. -/
def database (s : String) : Except AddressFault Int :=
  if s.isEmpty then .ok 0
  else
    match Text.Decimal.i64? s with
    | some n => .ok n
    | none => .error .invalidDatabase

/-- Text with a character trimmed from both ends. -/
def trimChar (c : Char) (s : String) : String :=
  String.ofList (((s.toList.dropWhile (· == c)).reverse.dropWhile (· == c)).reverse)

/-- Whether percent-decoded user information is UTF-8 text. -/
def decodesToText (cs : List Char) : Bool :=
  (Text.Utf8.toString? (percentDecode (Text.Utf8.ofString (String.ofList cs)))).isSome

/-- The endpoint a cache address names. -/
def endpoint (address : String) : Except AddressFault Endpoint := do
  let some u := Url.parse? address | throw .unreadable
  if u.scheme == "redis" || u.scheme == "rediss" then
    let some host := u.host | throw .missingHostname
    if u.scheme == "rediss" then throw .tlsUnavailable
    let db ← database (trimChar '/' u.path)
    if !decodesToText u.username then throw .usernameNotText
    if !decodesToText u.password then throw .passwordNotText
    checkProtocol u
    return .tcp host (u.port.getD 6379) db
  else if u.scheme == "unix" || u.scheme == "redis+unix" then
    let onLocalHost := match u.host with
      | none => true
      | some h => h == "localhost"
    if !onLocalHost || !u.path.startsWith "/" then throw .missingPath
    let db ← match queryField u "db" with
      | some d => match Text.Decimal.i64? d with
        | some n => pure n
        | none => throw .invalidDatabase
      | none => pure 0
    checkProtocol u
    return .socket u.path db
  else throw .unreadable

end Gatehouse.Net
