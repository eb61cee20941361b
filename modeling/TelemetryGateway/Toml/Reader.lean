import TelemetryGateway.Toml.Value

/-!
# Reading TOML

A TOML text is read line by line: a header opens a table, a line with a key and a value adds to the
table that was opened last, and all other lines are blank or hold a comment.
-/

namespace TelemetryGateway.Toml

/-- What the lines so far have made: the table that holds all others, and the way to the one that
was opened last. -/
structure Draft where
  root : Table
  current : List String

namespace Draft

def start : Draft := ⟨.empty .opened, []⟩

def define (d : Draft) (path : KeyPath) (value : Document) : Option Draft :=
  (d.root.change (·.define path value) d.current).map fun root => { d with root }

def openTable (d : Draft) (path : KeyPath) : Option Draft :=
  (d.root.openTable path).map fun root => ⟨root, path.toList⟩

def openItem (d : Draft) (path : KeyPath) : Option Draft :=
  (d.root.openItem path).map fun root => ⟨root, path.toList⟩

end Draft

/-- One line, without the blanks in front of it. -/
def readLine (d : Draft) (cs : List Char) : Option (Draft × List Char) :=
  match cs with
  | '[' :: '[' :: rest => do
      let (path, rest) ← readKey rest
      let rest ← expect ']' (← expect ']' rest)
      return (← d.openItem path, ← nextLine? rest)
  | '[' :: rest => do
      let (path, rest) ← readKey rest
      let rest ← expect ']' rest
      return (← d.openTable path, ← nextLine? rest)
  | '#' :: _ => (nextLine? cs).map (d, ·)
  | '\n' :: rest => some (d, rest)
  | '\r' :: '\n' :: rest => some (d, rest)
  | _ => do
      let ((path, value), rest) ← readPair (readValue depthLimit) cs
      return (← d.define path value, ← nextLine? rest)

/-- All lines of a text.  The fuel bounds their number. -/
def readLines : Nat → Draft → List Char → Option Draft
  | 0, _, _ => none
  | fuel + 1, d, cs =>
      match skipBlanks cs with
      | [] => some d
      | cs => do
          let (d, rest) ← readLine d cs
          readLines fuel d rest

/-- The document that a whole text holds; `none` if the text is not TOML.  A byte order mark may
stand in front.  Every line takes at least one character, so the fuel is enough. -/
def read (text : String) : Option Document :=
  let cs :=
    match text.toList with
    | '\ufeff' :: rest => rest
    | cs => cs
  (readLines (cs.length + 1) .start cs).map (·.root.toDocument)

end TelemetryGateway.Toml
