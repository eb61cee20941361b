import TelemetryGateway.Log.Level
import TelemetryGateway.Log.Value

/-!
# Log directives

A directive sets the level of the records that match it: those of a target, within a span, with some
fields, or all records.  Its text is `target[span{field=value}]=level`, of which every part but one
may be missing; a target without a level has everything logged.

The reader keeps its place by byte positions: the position of a character is the number of bytes
that the characters in front of it take in UTF-8, and a position within a character counts as the
one behind it.

Directives are ordered by how specific they are: a longer target comes before a shorter one, and any
target before none.
-/

namespace TelemetryGateway

namespace Text

/-- The characters from a position on. -/
def dropBytes : Nat → List Char → List Char
  | 0, cs => cs
  | _ + 1, [] => []
  | n + 1, c :: cs => dropBytes (n + 1 - c.utf8Size) cs

/-- The characters in front of a position. -/
def takeBytes : Nat → List Char → List Char
  | 0, _ => []
  | _ + 1, [] => []
  | n + 1, c :: cs => c :: takeBytes (n + 1 - c.utf8Size) cs

/-- The characters between two positions. -/
def slice (cs : List Char) (first last : Nat) : List Char :=
  takeBytes (last - first) (dropBytes first cs)

end Text

/-- A field that records must have, possibly with a value. -/
structure LogField where
  name : List Char
  value : Option LogValue := none
deriving DecidableEq

/-- A level for the records that match. -/
structure LogDirective where
  target : Option (List Char) := none
  span : Option (List Char) := none
  fields : List LogField := []
  level : LogLevel := .trace
deriving DecidableEq

namespace LogField

def chars (f : LogField) : List Char := f.name ++ f.value.elim [] fun v => '=' :: v.chars

/-- The field that a text names: what stands before the first equals sign, and the value between
that and the next one. -/
def parse? (text : List Char) : Option LogField :=
  let name := text.takeWhile (· != '=')
  match text.dropWhile (· != '=') with
  | [] => some { name }
  | _ :: rest =>
      (LogValue.parse? (rest.takeWhile (· != '='))).map fun value => { name, value := some value }

end LogField

namespace LogDirective

/-! ## Reading -/

/-- Where the reader of a directive is; the number is the position at which the part began, counted
in bytes. -/
inductive Scan where
  | start
  | levelOrTarget (begin : Nat)
  | span (begin : Nat)
  | field (begin : Nat)
  | afterFields
  | afterSpan
  | level (begin : Nat)

/-- Whether a directive may begin with a character, beside a bracket. -/
def mayBegin (c : Char) : Bool := c == '-' || c == ':' || c == '_' || Text.isAlphanumeric c

/-- Reads the character at a position. -/
def scan (text : List Char) (d : LogDirective) (state : Scan) (i : Nat) (c : Char) :
    Option (LogDirective × Scan) :=
  match state with
  | .start =>
      if c = '[' then some (d, .span (i + 1))
      else if mayBegin c then some (d, .levelOrTarget i)
      else none
  | .levelOrTarget begin =>
      if c = '=' then some ({ d with target := some (Text.slice text begin i) }, .level (i + 1))
      else if c = '[' then some ({ d with target := some (Text.slice text begin i) }, .span (i + 1))
      else some (d, state)
  | .span begin =>
      if c = ']' then some ({ d with span := some (Text.slice text begin i) }, .afterSpan)
      else if c = '\x7b' then
        let span := Text.slice text begin i
        some ({ d with span := if span.isEmpty then none else some span }, .field (i + 1))
      else some (d, state)
  | .field begin =>
      if c = '\x7d' then
        let field := Text.slice text begin i
        if field.isEmpty then none
        else
          (LogField.parse? field).map fun field =>
            ({ d with fields := d.fields ++ [field] }, .afterFields)
      else some (d, state)
  | .afterFields => if c = ']' then some (d, .afterSpan) else none
  | .afterSpan => if c = '=' then some (d, .level (i + 1)) else none
  | .level _ => some (d, state)

/-- Ends a directive where the reader is at the end of the text. -/
def finish (text : List Char) (d : LogDirective) : Scan → Option LogDirective
  | .levelOrTarget begin =>
      let rest := Text.dropBytes begin text
      match LogLevel.parse? rest with
      | some level => some { level }
      | none => some { target := some rest }
  | .level begin =>
      let rest := Text.dropBytes begin text
      if rest.isEmpty then some d
      else (LogLevel.parse? rest).map fun level => { d with level }
  | .afterSpan => some d
  | _ => none

/-- Reads the characters from a position on. -/
def scanAll (text : List Char) (d : LogDirective) (state : Scan) (i : Nat) :
    List Char → Option LogDirective
  | [] => finish text d state
  | c :: rest =>
      match scan text d state i c with
      | some (d, state) => scanAll text d state (i + c.utf8Size) rest
      | none => none

/-- The directive that a text holds.  White space around it is not looked at, but positions are
counted without it, so that a text with white space in front loses as much at its end. -/
def parse? (text : List Char) : Option LogDirective := scanAll text {} .start 0 (Text.trim text)

/-! ## Writing -/

def fieldChars (fields : List LogField) : List Char :=
  if fields.isEmpty then []
  else '\x7b' :: [','].intercalate (fields.map LogField.chars) ++ ['\x7d']

def chars (d : LogDirective) : List Char :=
  let subject := d.target.getD [] ++
    (if d.span.isSome || !d.fields.isEmpty then
      '[' :: d.span.getD [] ++ fieldChars d.fields ++ [']']
    else [])
  subject ++ (if d.target.isSome || d.span.isSome || !d.fields.isEmpty then ['='] else []) ++
    d.level.name.toList

/-! ## Order -/

/-- Whether matching a directive needs more of a record than its target. -/
def isDynamic (d : LogDirective) : Bool := d.span.isSome || !d.fields.isEmpty

/-- The part of a directive that needs no span and no value of a field, if that is all of it. -/
def static? (d : LogDirective) : Option LogDirective :=
  if d.span.isSome || d.fields.any (·.value.isSome) then none else some d

/-- Orders texts, with no text first. -/
def compareText : Option (List Char) → Option (List Char) → Ordering
  | none, none => .eq
  | none, some _ => .lt
  | some _, none => .gt
  | some a, some b => compare (String.ofList a) (String.ofList b)

/-- Orders what fields ask for, with no value first. -/
def compareValue : Option LogValue → Option LogValue → Ordering
  | none, none => .eq
  | none, some _ => .lt
  | some _, none => .gt
  | some a, some b => a.order b

/-- Orders fields: one with a value after one without, then by name and value. -/
def compareField (a b : LogField) : Ordering :=
  (compare a.value.isSome.toNat b.value.isSome.toNat).then
    ((compare (String.ofList a.name) (String.ofList b.name)).then (compareValue a.value b.value))

def compareFields : List LogField → List LogField → Ordering
  | [], [] => .eq
  | [], _ :: _ => .lt
  | _ :: _, [] => .gt
  | a :: as, b :: bs => (compareField a b).then (compareFields as bs)

/-- The length of a target in bytes, one more than that so that no target comes first. -/
def targetSize (d : LogDirective) : Nat :=
  d.target.elim 0 fun t => (String.ofList t).utf8ByteSize + 1

/-- Orders directives by how specific they are, the least specific first.  Their levels do not
count. -/
def compareSpecificity (a b : LogDirective) : Ordering :=
  (compare a.targetSize b.targetSize).then
    ((compare a.span.isSome.toNat b.span.isSome.toNat).then
      ((compare a.fields.length b.fields.length).then
        ((compareText a.target b.target).then
          ((compareText a.span b.span).then (compareFields a.fields b.fields)))))

/-- Puts a directive in its place, the most specific first, and in the place of an equally specific
one. -/
def insertInto (d : LogDirective) : List LogDirective → List LogDirective
  | [] => [d]
  | e :: rest =>
      match compareSpecificity d e with
      | .gt => d :: e :: rest
      | .eq => d :: rest
      | .lt => e :: insertInto d rest

end LogDirective

end TelemetryGateway
