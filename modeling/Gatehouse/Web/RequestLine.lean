import Gatehouse.Text.Utf8

/-!
The request line: the method a request names and the target it asks for.

A method is a token: one or more of the letters, digits and `!#$%&'*+-.^_|~` and the grave
accent. Any token is a method; only the ones a route knows are served.

A target is read in one of four forms, and what a route is chosen by is its path:

* the origin form, which starts with `/`: the path runs up to a `?` (a query follows) or a
  `#` (a fragment follows, and is dropped);
* the absolute form: a scheme (`http://` and `https://` in any case, or letters, digits, `+`,
  `-` and `.` before `://`, at most 64 of them), an authority, and then the path (`/` when
  there is none);
* the authority form, a host with an optional port and nothing else, whose path is empty;
* the asterisk form `*`.

Every byte is checked against the class its part allows. A path takes letters, digits,
`!"$%&'()*+,-./:;=@[\]^_{|}~` and every byte of a character beyond ASCII; a query takes the
printable ASCII characters but `"`, `<` and `>`, and the bytes beyond ASCII. An authority
takes the unreserved characters (letters, digits, `-`, `.`, `_`, `~`), the sub-delimiters
(`!$&'()*+,;=`), `:`, `@`, `[` and `]`: at most
one port colon, brackets only around an IPv6 address, a percent sign only in the user part,
and something after an `@`.
-/

namespace Gatehouse.Web

/-- Why a request target cannot be read. -/
inductive TargetFault where
  /-- The target is empty. -/
  | empty
  /-- A byte the part it stands in does not allow. -/
  | invalidCharacter
  /-- An authority that breaks its rules (colons, brackets, percent signs, `@`). -/
  | invalidAuthority
  /-- A target that is none of the four forms. -/
  | invalidFormat
  /-- A scheme longer than 64 characters. -/
  | schemeTooLong
  /-- A target longer than 65534 bytes. -/
  | tooLong
  deriving DecidableEq, Repr

/-- The words for each fault. -/
def TargetFault.message : TargetFault → String
  | .empty => "empty string"
  | .invalidCharacter => "invalid uri character"
  | .invalidAuthority => "invalid authority"
  | .invalidFormat => "invalid format"
  | .schemeTooLong => "scheme too long"
  | .tooLong => "uri too long"

/-- Whether a byte is an ASCII letter or digit. -/
def isAlnumByte (b : UInt8) : Bool :=
  (0x30 ≤ b && b ≤ 0x39) || (0x41 ≤ b && b ≤ 0x5A) || (0x61 ≤ b && b ≤ 0x7A)

/-- Whether a byte may stand in a method name (a token character). -/
def isMethodByte (b : UInt8) : Bool :=
  isAlnumByte b || b == 0x21 || (0x23 ≤ b && b ≤ 0x27) || b == 0x2A || b == 0x2B || b == 0x2D
    || b == 0x2E || b == 0x5E || b == 0x5F || b == 0x60 || b == 0x7C || b == 0x7E

/-- Whether text names a method. -/
def isMethodName (s : String) : Bool :=
  let bs := Text.Utf8.ofString s
  !bs.isEmpty && bs.all isMethodByte

/-- Whether a byte may stand in a path. -/
def isPathByte (b : UInt8) : Bool :=
  b == 0x21 || b == 0x22 || (0x24 ≤ b && b ≤ 0x3B) || b == 0x3D || (0x40 ≤ b && b ≤ 0x5F)
    || (0x61 ≤ b && b ≤ 0x7D) || 0x7E ≤ b

/-- Whether a byte may stand in a query. -/
def isQueryByte (b : UInt8) : Bool :=
  b == 0x21 || (0x24 ≤ b && b ≤ 0x3B) || b == 0x3D || (0x3F ≤ b && b ≤ 0x7E) || 0x80 ≤ b

/-- Whether a byte may stand in an authority (the percent sign apart). -/
def isAuthorityByte (b : UInt8) : Bool :=
  isAlnumByte b || b == 0x21 || (0x23 ≤ b && b ≤ 0x24) || (0x26 ≤ b && b ≤ 0x2F)
    || (0x3A ≤ b && b ≤ 0x3B) || b == 0x3D || (0x3F ≤ b && b ≤ 0x40) || b == 0x5B
    || b == 0x5D || b == 0x5F || b == 0x7E

/-- Whether a byte may stand in a scheme. -/
def isSchemeByte (b : UInt8) : Bool := isAlnumByte b || b == 0x2B || b == 0x2D || b == 0x2E

/-! ## Paths -/

/-- The bytes of a query up to its fragment, when each is allowed. -/
def queryOk : List UInt8 → Bool
  | [] => true
  | b :: rest => b == 0x23 || (isQueryByte b && queryOk rest)

/-- The path of the bytes after an authority (or of an origin-form target), up to a query or
a fragment; `/` for none. -/
def pathOf (bs : List UInt8) : Except TargetFault String :=
  let rec go : List UInt8 → Except TargetFault (List UInt8)
    | [] => .ok []
    | b :: rest =>
      if b == 0x3F then if queryOk rest then .ok [] else .error .invalidCharacter
      else if b == 0x23 then .ok []
      else if isPathByte b then (go rest).map (b :: ·)
      else .error .invalidCharacter
  match go bs with
  | .ok [] => .ok "/"
  | .ok path => .ok (String.ofList (Text.Utf8.decodeLossy path))
  | .error f => .error f

/-! ## Authorities -/

/-- What reading an authority has met so far. -/
structure AuthorityScan where
  colons : Nat
  openBracket : Bool
  closeBracket : Bool
  percent : Bool
  atSign : Option Nat

/-- Where the authority at the front of the bytes ends: at the first `/`, `?` or `#`, or at
the end. -/
def authorityEnd (bs : List UInt8) : Except TargetFault Nat :=
  let rec go : List UInt8 → Nat → AuthorityScan → Except TargetFault (Nat × AuthorityScan)
    | [], i, st => .ok (i, st)
    | b :: rest, i, st =>
      if b == 0x2F || b == 0x3F || b == 0x23 then .ok (i, st)
      else if b == 0x3A then
        if st.colons ≥ 8 then .error .invalidAuthority
        else go rest (i + 1) { st with colons := st.colons + 1 }
      else if b == 0x5B then
        if st.percent || st.openBracket then .error .invalidAuthority
        else go rest (i + 1) { st with openBracket := true }
      else if b == 0x5D then
        if !st.openBracket || st.closeBracket then .error .invalidAuthority
        -- the colons and a percent sign so far were inside the IPv6 address
        else go rest (i + 1) { st with closeBracket := true, colons := 0, percent := false }
      else if b == 0x40 then
        -- what came before was the user part
        go rest (i + 1) { st with atSign := some i, colons := 0, percent := false }
      else if b == 0x25 then go rest (i + 1) { st with percent := true }
      else if isAuthorityByte b then go rest (i + 1) st
      else .error .invalidCharacter
  match go bs 0 ⟨0, false, false, false, none⟩ with
  | .error f => .error f
  | .ok (stop, st) =>
    if st.openBracket != st.closeBracket || st.colons > 1 || st.percent
        || (stop > 0 && st.atSign == some (stop - 1)) then .error .invalidAuthority
    else .ok stop

/-! ## Targets -/

/-- The bytes of an ASCII text in lower case. -/
def lowerBytes (bs : List UInt8) : List UInt8 :=
  bs.map fun b => if 0x41 ≤ b && b ≤ 0x5A then b + 0x20 else b

/-- Where the scheme of an absolute target ends, with the `://` after it: the number of bytes
it takes, `none` for a target without one. -/
def schemeLength? (bs : List UInt8) : Except TargetFault (Option Nat) :=
  if 7 ≤ bs.length && lowerBytes (bs.take 7) == Text.Utf8.ofString "http://" then .ok (some 7)
  else if 8 ≤ bs.length && lowerBytes (bs.take 8) == Text.Utf8.ofString "https://" then
    .ok (some 8)
  else if bs.length ≤ 3 then .ok none
  else
    let n := (bs.takeWhile isSchemeByte).length
    if (bs.drop n).take 3 == [0x3A, 0x2F, 0x2F] then
      if n > 64 then .error .schemeTooLong else .ok (some (n + 3))
    else .ok none

/-- The path a request target asks for. -/
def targetPath? (target : String) : Except TargetFault String :=
  let bs := Text.Utf8.ofString target
  if bs.length > 65534 then .error .tooLong
  else
    match bs with
    | [] => .error .empty
    | [0x2F] => .ok "/"
    | [0x2A] => .ok "*"
    | [b] =>
      match authorityEnd [b] with
      | .ok 1 => .ok ""
      | .ok _ => .error .invalidCharacter
      | .error f => .error f
    | 0x2F :: _ => pathOf bs
    | _ =>
      match schemeLength? bs with
      | .error f => .error f
      | .ok scheme =>
        let rest := bs.drop (scheme.getD 0)
        match authorityEnd rest, scheme with
        | .error f, _ => .error f
        | .ok stop, none => if stop == rest.length then .ok "" else .error .invalidFormat
        | .ok stop, some _ => if stop == 0 then .error .invalidFormat else pathOf (rest.drop stop)

/-! ## Checks -/

-- The query and the scheme with its authority are not part of the path.
example : (targetPath? "/health/live?x=1").toOption = some "/health/live" := by decide +kernel
example : (targetPath? "http://example.com/health/live").toOption = some "/health/live" := by
  decide +kernel
-- A blank is no path byte; a second port colon breaks the authority.
example : targetPath? "/health live" = .error .invalidCharacter := by rfl
example : targetPath? "http://h:1:2/x" = .error .invalidAuthority := by rfl
example : targetPath? "" = .error .empty := by rfl
example : isMethodName "GE T" = false := by decide +kernel

end Gatehouse.Web
