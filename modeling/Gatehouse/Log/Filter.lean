import Gatehouse.Log.Event

/-!
Which log events are written: a filter of comma-separated directives, as `RUST_LOG` spells
it.

A directive is a severity alone (`warn`; the names in any case, or a digit from `0`, off, to
`5`, trace), or one or two parts, each a target or a bracketed span part, followed by an
optional `=` and an optional severity (a missing one means trace). A target is a run of word
characters, `:` and `-`; one that reads as a severity (a name, or a number up to 5 however
many leading zeros it has) stands for no target. Of two span
parts the second counts. A span part `[name{fields}]` may name a span and may list fields
(word-character names, each with an optional `=value`); both are optional.

A directive that names a span, or gives a field a value, applies inside matching spans only,
and the events here are in none. Every other directive concerns an event when its target
begins the event's target and the event carries every field it lists (an event carries
`message` and its own fields). Of the directives that concern an event, the most specific one
decides whether it is written: the one with the longest target (one without a target least),
then the one with the most fields, then the greatest target and field list; of two equal
ones the later counts. When no directive concerns an event, it is not written.

A filter text with any malformed directive is refused, and the default filter
`info,tower_http=debug` stands in; so does it when the variable is unset. An empty filter
text has no directives and lets nothing through.
-/

namespace Gatehouse.Log

/-- A directive: the target it concerns (none for all), the fields an event must carry,
whether it applies only inside spans, and the most verbose severity it allows (0 for none). -/
structure Directive where
  target : Option String
  fields : List String
  inSpan : Bool
  cap : Nat
  deriving DecidableEq, Repr

/-- The cap a severity name or digit gives. -/
def capOf? (s : String) : Option Nat :=
  let l := s.toLower
  if l == "off" || l == "0" then some 0
  else if l == "error" || l == "1" then some 1
  else if l == "warn" || l == "2" then some 2
  else if l == "info" || l == "3" then some 3
  else if l == "debug" || l == "4" then some 4
  else if l == "trace" || l == "5" then some 5
  else none

/-- Whether text reads as a severity where a target could stand: a name in any case, or a
number from 0 to 5 in decimal digits, leading zeros allowed (`0003` is info). -/
def readsAsLevel (s : String) : Bool :=
  (capOf? s).isSome || (!s.isEmpty && s.all Char.isDigit && s.toNat! ≤ 5)

/-- Whether a character may stand in a target: a word character of any script (letter,
digit, mark, `_`), `:` or `-`. -/
def isTargetChar (c : Char) : Bool :=
  c.isAlphanum || c == '_' || c == ':' || c == '-' || (c.toNat > 127 && !c.isWhitespace)

/-- Whether a character is an ASCII word character, as field names are spelled. -/
def isWordChar (c : Char) : Bool := c.isAlphanum || c == '_'

/-! ## Span parts -/

/-- A field value after `=`: a quoted text up to the next quote, or a run up to a quote or a
comma; `none` when neither fits. Returns the value and the characters after it. -/
def fieldValue (cs : List Char) : Option (List Char × List Char) :=
  match cs with
  | '"' :: rest =>
    let inner := rest.takeWhile (· != '"')
    match rest.drop inner.length with
    | '"' :: after => some ('"' :: inner ++ ['"'], after)
    | _ => none
  | _ =>
    let run := cs.takeWhile fun c => c != '"' && c != ','
    if run.isEmpty then none else some (run, cs.drop run.length)

/-- The field specifications in a field list, found left to right: a name (a word character,
then word characters and dots) with an optional `=value`. Each is a name and whether it has
a value; the value of a specification ends at its next `=`. -/
def fieldSpecs (cs : List Char) : List (String × Bool) :=
  let rec go (fuel : Nat) (cs : List Char) : List (String × Bool) :=
    match fuel, cs with
    | 0, _ => []
    | _, [] => []
    | fuel + 1, c :: rest =>
      if !isWordChar c then go fuel rest
      else
        let name := c :: rest.takeWhile fun d => isWordChar d || d == '.'
        let after := cs.drop name.length
        match after with
        | '=' :: v =>
          match fieldValue v with
          | some (_, more) => (String.ofList name, true) :: go fuel more
          | none => (String.ofList name, false) :: go fuel after
        | _ => (String.ofList name, false) :: go fuel after
  go cs.length cs

/-- What a span part (the text between its brackets) says: whether it names a span, and its
field specifications. -/
def spanPart (content : List Char) : Bool × List (String × Bool) :=
  let isBracket (c : Char) : Bool := c == '[' || c == ']'
  let inner := ((content.dropWhile isBracket).reverse.dropWhile isBracket).reverse
  let name := inner.takeWhile fun c => c != ']' && c != '{'
  let fields := match inner.drop name.length with
    | '{' :: rest =>
      let body := rest.takeWhile (· != '}')
      if body.length < rest.length then fieldSpecs body else []
    | _ => []
  (!name.isEmpty, fields)

/-! ## Directives -/

/-- The parts of a directive before its `=`: one or two of a target and a bracketed span part
(the text between the brackets), and the text after them. -/
def parts (cs : List Char) : Option (Option String × Option (List Char) × List Char) :=
  let one (xs : List Char) : Option (Option String × Option (List Char) × List Char) :=
    match xs with
    | '[' :: rest =>
      let inner := rest.takeWhile (· != ']')
      match rest.drop inner.length with
      | ']' :: after => some (none, some inner, after)
      | _ => none
    | _ =>
      let t := xs.takeWhile isTargetChar
      if t.isEmpty then none else some (some (String.ofList t), none, xs.drop t.length)
  match one cs with
  | none => none
  | some (t1, s1, after1) =>
    match after1 with
    | [] | '=' :: _ => some (t1, s1, after1)
    | _ =>
      match one after1 with
      | some (t2, s2, after2) =>
        -- two parts: the later of each kind counts
        some (t2.orElse fun _ => t1, s2.orElse fun _ => s1, after2)
      | none => none

/-- A directive read from its text. -/
def Directive.parse? (s : String) : Option Directive :=
  match capOf? s with
  | some cap => some ⟨none, [], false, cap⟩
  | none =>
    match parts s.toList with
    | none => none
    | some (target, span, rest) =>
      let target := target.bind fun t => if readsAsLevel t then none else some t
      let (named, specs) := match span with
        | some content => spanPart content
        | none => (false, [])
      let inSpan := named || specs.any (·.2)
      let make (cap : Nat) : Directive := ⟨target, specs.map (·.1), inSpan, cap⟩
      match rest with
      | [] => some (make 5)
      | '=' :: lvl =>
        if lvl.isEmpty then some (make 5)
        else (capOf? (String.ofList lvl)).map make
      | _ => none

/-- The names of the fields an event carries: `message` and its own. -/
def Event.fieldNames (e : Event) : List String := "message" :: e.fields.map (·.1)

/-- Whether a directive concerns an event outside any span. -/
def Directive.concerns (d : Directive) (e : Event) : Bool :=
  !d.inSpan
    && (match d.target with
      | some t => e.target.startsWith t
      | none => true)
    && d.fields.all fun f => e.fieldNames.contains f

/-- Lexicographic comparison of two lists of texts. -/
def compareTexts : List String → List String → Ordering
  | [], [] => .eq
  | [], _ :: _ => .lt
  | _ :: _, [] => .gt
  | a :: as, b :: bs => (compare a b).then (compareTexts as bs)

/-- How two directives compare in specificity: by the length of the target (none least), the
number of fields, then the target and the field names themselves. -/
def Directive.compareSpecificity (d e : Directive) : Ordering :=
  let targetLength (x : Directive) : Option Nat := x.target.map String.length
  let byOption {α : Type} (cmp : α → α → Ordering) : Option α → Option α → Ordering
    | none, none => .eq
    | none, some _ => .lt
    | some _, none => .gt
    | some a, some b => cmp a b
  (byOption compare (targetLength d) (targetLength e))
    |>.then (compare d.fields.length e.fields.length)
    |>.then (byOption compare d.target e.target)
    |>.then (compareTexts d.fields e.fields)

/-- A filter: its directives, later ones overriding earlier equal ones. -/
structure Filter where
  directives : List Directive
  deriving DecidableEq, Repr

namespace Filter

/-- The filter a text spells, when every directive in it is well formed. -/
def parse? (s : String) : Option Filter :=
  if s.isEmpty then some ⟨[]⟩
  else
    ((s.splitOn ",").filter (· != "")).mapM Directive.parse? |>.map Filter.mk

/-- The filter used when none is given or the given one is malformed. -/
def fallback : Filter := ⟨[⟨none, [], false, 3⟩, ⟨some "tower_http", [], false, 4⟩]⟩

/-- The filter of a `RUST_LOG` value. -/
def ofSetting (value : Option String) : Filter :=
  match value with
  | some s => (parse? s).getD fallback
  | none => fallback

/-- The directive that decides about an event: the most specific that concerns it, the later
of two equal ones. -/
def decider? (f : Filter) (e : Event) : Option Directive :=
  (f.directives.filter (·.concerns e)).foldl (fun acc d =>
    match acc with
    | some b => if d.compareSpecificity b != .lt then some d else some b
    | none => some d) none

/-- Whether an event is written. -/
def allows (f : Filter) (e : Event) : Bool :=
  match f.decider? e with
  | some d => e.level.verbosity ≤ d.cap
  | none => false

end Filter

end Gatehouse.Log
