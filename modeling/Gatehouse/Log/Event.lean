import Gatehouse.Json.Value

/-!
Log events and the two ways a line is written.

An event has a severity, the component it comes from (its target), a message and named
fields, each a text or a number. A human-readable line reads
`LEVEL target: message name=value …`, the message and the values exactly as they are (a
value with a line break breaks the line); a JSON line is an object with the `level`, the
`target`, and the `fields`, the message among them under `message`.
-/

namespace Gatehouse.Log

/-- Severities, least severe first. -/
inductive Level where
  | trace
  | debug
  | info
  | warn
  | error
  deriving DecidableEq, Repr

namespace Level

/-- A rank that grows with verbosity: `error` is 1, `trace` is 5. -/
def verbosity : Level → Nat
  | .error => 1
  | .warn => 2
  | .info => 3
  | .debug => 4
  | .trace => 5

/-- The name of a severity as a line shows it. -/
def name : Level → String
  | .trace => "TRACE"
  | .debug => "DEBUG"
  | .info => "INFO"
  | .warn => "WARN"
  | .error => "ERROR"

end Level

/-- The value of a field. -/
inductive FieldValue where
  | text (s : String)
  | number (n : Int)
  deriving DecidableEq, Repr

/-- The value as a human-readable line shows it. -/
def FieldValue.shown : FieldValue → String
  | .text s => s
  | .number n => toString n

/-- The value as JSON. -/
def FieldValue.toJson : FieldValue → Json.Value
  | .text s => .str s
  | .number n => Json.Value.int n

/-- A log event. -/
structure Event where
  level : Level
  target : String
  message : String
  fields : List (String × FieldValue)
  deriving DecidableEq, Repr

namespace Event

/-- The human-readable line of an event. -/
def pretty (e : Event) : String :=
  e.level.name ++ " " ++ e.target ++ ": " ++ e.message
    ++ String.join (e.fields.map fun (k, v) => " " ++ k ++ "=" ++ v.shown)

/-- The JSON line of an event. -/
def toJson (e : Event) : Json.Value :=
  .obj [("fields", .obj (("message", .str e.message) :: e.fields.map fun (k, v) => (k, v.toJson))),
    ("level", .str e.level.name), ("target", .str e.target)]

end Event

end Gatehouse.Log
