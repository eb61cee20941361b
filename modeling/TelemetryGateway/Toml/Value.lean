import TelemetryGateway.Toml.Moment
import TelemetryGateway.Toml.Number
import TelemetryGateway.Toml.Table
import TelemetryGateway.Toml.Text

/-!
# Keys and values of a TOML text

A value is a string, a truth value, a moment, a number, an array or an inline table.  Arrays and
inline tables nest to a bounded depth, and a dotted key has a bounded number of parts.
-/

namespace TelemetryGateway.Toml

/-- How deep arrays and inline tables nest, and how many parts a dotted key has, at most. -/
def depthLimit : Nat := 79

/-! ## Keys -/

/-- A character of a key without quotes. -/
def isBare (c : Char) : Bool := c.isAlphanum || c = '_' || c = '-'

/-- One part of a key, without quotes or as a string on one line, with blanks around it. -/
def readKeyPart (cs : List Char) : Option (String × List Char) := do
  let (part, rest) ←
    match skipBlanks cs with
    | '"' :: rest => readQuoted ('"' :: rest)
    | '\'' :: rest => readQuoted ('\'' :: rest)
    | cs =>
        let bare := cs.takeWhile isBare
        if bare.isEmpty then none else some (String.ofList bare, cs.dropWhile isBare)
  return (part, skipBlanks rest)

/-- A key with or without dots, and the blanks around it. -/
def readKey (cs : List Char) : Option (KeyPath × List Char) := do
  let (parts, rest) ← readSeparated readKeyPart '.' (cs.length + 1) cs
  let path ← KeyPath.ofList? parts
  if parts.length ≤ depthLimit then return (path, rest) else none

def readPair (value : Scanner Document) (cs : List Char) :
    Option ((KeyPath × Document) × List Char) := do
  let (key, rest) ← readKey cs
  let rest ← expect '=' rest
  let (document, rest) ← value (skipBlanks rest)
  return ((key, document), skipBlanks rest)

/-! ## Values -/

def readScalar (cs : List Char) : Option (Document × List Char) :=
  match cs with
  | 't' :: 'r' :: 'u' :: 'e' :: rest => some (.bool true, rest)
  | 'f' :: 'a' :: 'l' :: 's' :: 'e' :: rest => some (.bool false, rest)
  | c :: _ =>
      if c = '"' ∨ c = '\'' then
        (readText cs).map fun (text, rest) => (.text text, rest)
      else
        match readMoment cs with
        | some (moment, rest) => some (moment.toDocument, rest)
        | none => readNumber cs
  | [] => none

/-- The items of an array after its opening bracket, and all layout between them.  The fuel bounds
their number. -/
def readItems (value : Scanner Document) : Nat → Scanner (List Document)
  | 0, _ => none
  | fuel + 1, cs => do
      match ← skipLayout false cs with
      | ']' :: rest => return ([], rest)
      | cs =>
          let (item, rest) ← value cs
          match ← skipLayout false rest with
          | ',' :: rest => do
              let (items, rest) ← readItems value fuel rest
              return (item :: items, rest)
          | ']' :: rest => return ([item], rest)
          | _ => none

/-- The table that pairs of keys and values make. -/
def tableOfPairs (pairs : List (KeyPath × Document)) : Option Table :=
  pairs.foldlM (fun t pair => t.define pair.1 pair.2) (Table.empty .opened)

/-- An inline table after its opening brace. -/
def readInlineTable (value : Scanner Document) (cs : List Char) :
    Option (Document × List Char) :=
  match skipBlanks cs with
  | '\x7d' :: rest => some (.record [], rest)
  | _ => do
      let (pairs, rest) ← readSeparated (readPair value) ',' (cs.length + 1) cs
      let rest ← expect '\x7d' rest
      return ((← tableOfPairs pairs).toDocument, rest)

/-- A value in which arrays and inline tables nest at most so deep. -/
def readValue : Nat → Scanner Document
  | 0, cs => readScalar cs
  | depth + 1, cs =>
      match cs with
      | '[' :: rest =>
          (readItems (readValue depth) (rest.length + 1) rest).map fun (items, rest) =>
            (.list items, rest)
      | '\x7b' :: rest => readInlineTable (readValue depth) rest
      | _ => readScalar cs

end TelemetryGateway.Toml
