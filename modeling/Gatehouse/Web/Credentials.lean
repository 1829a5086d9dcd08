import Gatehouse.Json.Reader
import Gatehouse.Json.Double
import Gatehouse.Text.Quoted
import Gatehouse.Web.Mime

/-!
The body of a login request: a JSON object with the string fields `email` and `password`,
read in one pass from the front with the exact refusal a client is told.

The body must be declared JSON (`content-type`), else it is refused with status 415. It is
then read as one value: an object, whose unknown fields are skipped (their syntax is still
checked) and whose two fields may each appear once; or an array of the two strings in order.
A refusal of the syntax is answered with status 400, a refusal of the shape (a wrong type, a
missing or repeated field, a wrong length) with status 422. Either names the place it arose
(`email`, `password`, an unknown field's name, or an array index) when it arose inside a
value, and the line and column of the byte where the reader stood.

Where a refusal raised by the object or array itself is reported depends on how far the
reader gets in closing it: blanks after the offending point are read, and a closing bracket
right after them is taken.
-/

namespace Gatehouse.Web

open Json

/-- A login request's fields. -/
structure Credentials where
  email : String
  password : String
  deriving DecidableEq, Repr

/-- A step into a value: a field of an object by name, or an item of an array by index. -/
inductive Place where
  | field (name : String)
  | item (index : Nat)
  deriving DecidableEq, Repr

/-- A path of places as a refusal names it: field names joined by dots, an item's index in
brackets right after what holds it (`email`, `[1]`, `a[1].b`). -/
def Place.describe (path : List Place) : String :=
  let step (acc : String × Bool) (p : Place) : String × Bool :=
    match p with
    | .field name => (acc.1 ++ (if acc.2 then "." else "") ++ name, true)
    | .item i => (acc.1 ++ "[" ++ toString i ++ "]", true)
  (path.foldl step ("", false)).1

/-- A refusal of the body: whether it is of the shape (not the syntax), the place it arose,
its words, and the byte index of its position. -/
structure FormFault where
  shape : Bool
  path : List Place
  words : String
  index : Nat
  deriving DecidableEq, Repr

namespace FormFault

/-- A refusal of the syntax. -/
def ofSyntax (f : Json.Fault) : FormFault := ⟨false, [], f.code.text, f.index⟩

/-- A refusal of the shape, at a byte index. -/
def ofShape (words : String) (index : Nat) : FormFault := ⟨true, [], words, index⟩

/-- The refusal placed inside a field or item. -/
def within (p : Place) (f : FormFault) : FormFault := { f with path := p :: f.path }

/-- The refusal in words, with its place and position in the body. -/
def describe (bs : List UInt8) (f : FormFault) : String :=
  let (line, column) := position bs f.index
  let place := if f.path.isEmpty then "" else Place.describe f.path ++ ": "
  place ++ f.words ++ " at line " ++ toString line ++ " column " ++ toString column

end FormFault

/-- A refusal of the syntax inside the reader's result. -/
def syntaxFault {α : Type} (f : Json.Fault) : Except FormFault α := .error (.ofSyntax f)

/-- A number literal that is not a 64-bit integer, as a refusal names it: the double the
reader makes of it, written as a document writes a double (`Json.doubleText`). -/
def floatText (literal : String) : String := Json.doubleText (Json.literalDouble literal)

/-- How an unexpected value is named in a refusal of the shape. -/
def unexpected (v : Value) : String :=
  match v with
  | .null => "null"
  | .bool b => "boolean `" ++ toString b ++ "`"
  | .num (.int n) => "integer `" ++ toString n ++ "`"
  | .num (.float text _) => "floating point `" ++ floatText text ++ "`"
  | .str s => "string " ++ Text.quote s
  | .unreadable _ _ => "string"
  | .arr _ => "sequence"
  | .obj _ => "map"

/-- The refusal of a value of the wrong type, where `c` stands at the value's first byte: a
scalar is read first (and a refusal of its syntax wins), a bracket is not. -/
def wrongType (expected : String) (c : Cursor) : FormFault :=
  let shapeAt (v : Value) (c' : Cursor) : FormFault :=
    .ofShape ("invalid type: " ++ unexpected v ++ ", expected " ++ expected) c'.pos
  match c.rest with
  | [] => .ofSyntax (c.ahead .expectedValue)
  | b :: _ =>
    let word (ws : List UInt8) (v : Value) : FormFault :=
      match readWord ws c.bump with
      | .ok c' => shapeAt v c'
      | .error f => .ofSyntax f
    let number (r : Except Json.Fault (Value × Cursor)) : FormFault :=
      match r with
      | .ok (.num (.float _ (some f)), _) => .ofSyntax f
      | .ok (v, c') => shapeAt v c'
      | .error f => .ofSyntax f
    if b == 0x6E then word [0x75, 0x6C, 0x6C] .null
    else if b == 0x74 then word [0x72, 0x75, 0x65] (.bool true)
    else if b == 0x66 then word [0x61, 0x6C, 0x73, 0x65] (.bool false)
    else if b == 0x2D then number (readNumber true c c.bump)
    else if isDigit b then number (readNumber false c c)
    else if b == 0x22 then
      match scanText c.bump with
      | .ok (s, c') => shapeAt (.str s) c'
      | .error f => .ofSyntax f
    else if b == 0x5B then shapeAt (.arr []) c
    else if b == 0x7B then shapeAt (.obj []) c
    else .ofSyntax (c.ahead .expectedValue)

/-- A string value. -/
def readText (c0 : Cursor) : Except FormFault (String × Cursor) :=
  let c := c0.skipSpace
  match c.rest with
  | [] => syntaxFault (c.ahead .eofValue)
  | b :: _ =>
    if b == 0x22 then
      match scanText c.bump with
      | .ok r => .ok r
      | .error f => syntaxFault f
    else .error (wrongType "a string" c)

/-- The colon after a key. -/
def readColon (c0 : Cursor) : Except FormFault Cursor :=
  let c := c0.skipSpace
  match c.rest with
  | [] => syntaxFault (c.ahead .eofObject)
  | b :: _ => if b == 0x3A then .ok c.bump else syntaxFault (c.ahead .expectedColon)

/-- What the request is read as. -/
def expectedShape : String := "struct LoginRequest"

/-- The fields found so far. -/
structure Found where
  email : Option String
  password : Option String

/-- The fields of the object after its `{`, up to (not past) its `}`. -/
def readMembers : Nat → Cursor → Bool → Found → Except FormFault (Found × Cursor)
  | 0, c, _, _ => syntaxFault (c.here .eofObject)
  | fuel + 1, c0, first, found =>
    let c := c0.skipSpace
    let key? : Except FormFault Cursor :=
      match c.rest with
      | [] => syntaxFault (c.ahead .eofObject)
      | b :: _ =>
        if b == 0x2C && !first then
          let c2 := c.bump.skipSpace
          match c2.rest with
          | [] => syntaxFault (c2.ahead .eofValue)
          | b2 :: _ =>
            if b2 == 0x22 then .ok c2
            else if b2 == 0x7D then syntaxFault (c2.ahead .trailingComma)
            else syntaxFault (c2.ahead .keyNotString)
        else if first then
          if b == 0x22 then .ok c else syntaxFault (c.ahead .keyNotString)
        else syntaxFault (c.ahead .expectedObjectEnd)
    if c.peek? == some 0x7D then .ok (found, c)
    else
      match key? with
      | .error f => .error f
      | .ok ck =>
        match scanText ck.bump with
        | .error f => syntaxFault f
        | .ok (key, c1) =>
          let text (seen : Option String) (store : String → Found) :
              Except FormFault (Found × Cursor) :=
            if seen.isSome then .error (.ofShape ("duplicate field `" ++ key ++ "`") c1.pos)
            else
              match readColon c1 with
              | .error f => .error f
              | .ok c2 =>
                match readText c2 with
                | .error f => .error (f.within (.field key))
                | .ok (s, c3) => readMembers fuel c3 false (store s)
          if key == "email" then text found.email fun s => { found with email := some s }
          else if key == "password" then
            text found.password fun s => { found with password := some s }
          else
            match readColon c1 with
            | .error f => .error f
            | .ok c2 =>
              match readValue (2 * c2.rest.length + 4) c2 with
              | .error f => .error ((FormFault.ofSyntax f).within (.field key))
              | .ok (_, c3) => readMembers fuel c3 false found

/-- The two items of the array after its `[`, up to (not past) its end. -/
def readPair (c0 : Cursor) : Except FormFault (Credentials × Cursor) := do
  let item (index : Nat) (c0 : Cursor) (first : Bool) : Except FormFault (String × Cursor) :=
    let c := c0.skipSpace
    let short : Except FormFault (String × Cursor) :=
      .error (.ofShape ("invalid length " ++ toString index ++ ", expected " ++ expectedShape
        ++ " with 2 elements") c.pos)
    match c.rest with
    | [] => syntaxFault (c.ahead .eofList)
    | b :: _ =>
      if b == 0x5D then short
      else if first then (readText c).mapError (·.within (.item index))
      else if b == 0x2C then
        let c2 := c.bump.skipSpace
        match c2.rest with
        | [] => syntaxFault (c2.ahead .eofValue)
        | b2 :: _ =>
          if b2 == 0x5D then syntaxFault (c2.ahead .trailingComma)
          else (readText c2).mapError (·.within (.item index))
      else syntaxFault (c.ahead .expectedListEnd)
  let (email, c1) ← item 0 c0 true
  let (password, c2) ← item 1 c1 false
  return (⟨email, password⟩, c2)

/-- The reader after closing an object: blanks, then the `}` if it is there. -/
def closeObject (c0 : Cursor) : Cursor :=
  let c := c0.skipSpace
  if c.peek? == some 0x7D then c.bump else c

/-- The refusal, if any, of closing an object. -/
def objectEnd (c0 : Cursor) : Except FormFault Cursor :=
  let c := c0.skipSpace
  match c.rest with
  | [] => syntaxFault (c.ahead .eofObject)
  | b :: _ =>
    if b == 0x7D then .ok c.bump
    else if b == 0x2C then syntaxFault (c.ahead .trailingComma)
    else syntaxFault (c.ahead .trailingCharacters)

/-- The reader after closing an array: blanks, then the `]`, or a `,` and the blanks after
it. -/
def closeArray (c0 : Cursor) : Cursor :=
  let c := c0.skipSpace
  if c.peek? == some 0x5D then c.bump
  else if c.peek? == some 0x2C then c.bump.skipSpace
  else c

/-- The refusal, if any, of closing an array. -/
def arrayEnd (c0 : Cursor) : Except FormFault Cursor :=
  let c := c0.skipSpace
  match c.rest with
  | [] => syntaxFault (c.ahead .eofList)
  | b :: _ =>
    if b == 0x5D then .ok c.bump
    else if b == 0x2C then
      let c2 := c.bump.skipSpace
      if c2.peek? == some 0x5D then syntaxFault (c2.ahead .trailingComma)
      else syntaxFault (c2.ahead .trailingCharacters)
    else syntaxFault (c.ahead .trailingCharacters)

/-- A refusal of the shape raised by the object or array itself is placed where the reader
stands after trying to close it from the point of the refusal. -/
def placed (bs : List UInt8) (close : Cursor → Cursor) (f : FormFault) : FormFault :=
  if f.shape && f.path.isEmpty then { f with index := (close ⟨bs.drop f.index, f.index⟩).pos }
  else f

/-- The credentials of a body, or the first refusal. -/
def Credentials.decode (bs : List UInt8) : Except FormFault Credentials := do
  let c := (⟨bs, 0⟩ : Cursor).skipSpace
  let (creds, c') ← match c.rest with
    | [] => syntaxFault (c.ahead .eofValue)
    | b :: _ =>
      if b == 0x7B then
        match readMembers (bs.length + 1) c.bump true ⟨none, none⟩ with
        | .error f => .error (placed bs closeObject f)
        | .ok (found, c1) =>
          let c2 := closeObject c1
          match found.email, found.password with
          | some e, some p =>
            match objectEnd c1 with
            | .ok c3 => .ok (⟨e, p⟩, c3)
            | .error f => .error f
          | none, _ => .error (.ofShape "missing field `email`" c2.pos)
          | some _, none => .error (.ofShape "missing field `password`" c2.pos)
      else if b == 0x5B then
        match readPair c.bump with
        | .error f => .error (placed bs closeArray f)
        | .ok (creds, c1) =>
          match arrayEnd c1 with
          | .ok c2 => .ok (creds, c2)
          | .error f => .error f
      else .error (wrongType expectedShape c)
  let rest := c'.skipSpace
  if rest.rest.isEmpty then return creds
  else syntaxFault (rest.ahead .trailingCharacters)

/-- Why a login body is refused: the status and the sentence. -/
structure Rejection where
  status : Nat
  message : String
  deriving DecidableEq, Repr

/-- The credentials of a login request with the given content type and body. -/
def Credentials.ofRequest (contentType : Option String) (bs : List UInt8) :
    Except Rejection Credentials :=
  if !(contentType.map Mime.isJson).getD false then
    .error ⟨415, "Expected request with `Content-Type: application/json`"⟩
  else
    match Credentials.decode bs with
    | .ok creds => .ok creds
    | .error f =>
      if f.shape then
        .error ⟨422, "Failed to deserialize the JSON body into the target type: "
          ++ f.describe bs⟩
      else .error ⟨400, "Failed to parse the request body as JSON: " ++ f.describe bs⟩

end Gatehouse.Web
