import TelemetryGateway.Document
import TelemetryGateway.Binary64.Shortest
import TelemetryGateway.Text.Character

/-!
# Writing JSON

The text of a document as JSON, without any white space or over several lines.  In a string only the
quote, the backslash and the controls below U+0020 are escaped.
-/

namespace TelemetryGateway.Json

/-- A character inside a string. -/
def escapeChar (c : Char) : List Char :=
  if c = '"' then ['\\', '"']
  else if c = '\\' then ['\\', '\\']
  else if c = '\x08' then ['\\', 'b']
  else if c = '\x0c' then ['\\', 'f']
  else if c = '\n' then ['\\', 'n']
  else if c = '\r' then ['\\', 'r']
  else if c = '\t' then ['\\', 't']
  else if c.toNat < 0x20 then
    ['\\', 'u', '0', '0', Text.hexDigit (c.toNat / 16), Text.hexDigit (c.toNat % 16)]
  else [c]

def writeText (s : String) : List Char := '"' :: s.toList.flatMap escapeChar ++ ['"']

mutual

/-- The text of a document.  A value that can only be skipped is written as `null`. -/
def write : Document → List Char
  | .null => "null".toList
  | .bool true => "true".toList
  | .bool false => "false".toList
  | .number n => n.text
  | .double x => x.toNumeral.text
  | .text s => writeText s
  | .list items => '[' :: writeItems items ++ [']']
  | .record fields => '\x7b' :: writeFields fields ++ ['\x7d']
  | .skipOnly => "null".toList

def writeItems : List Document → List Char
  | [] => []
  | [item] => write item
  | item :: next :: rest => write item ++ ',' :: writeItems (next :: rest)

def writeFields : List (String × Document) → List Char
  | [] => []
  | [(key, value)] => writeText key ++ ':' :: write value
  | (key, value) :: next :: rest =>
      writeText key ++ ':' :: write value ++ ',' :: writeFields (next :: rest)

end

def render (d : Document) : String := String.ofList (write d)

/-! ## Over several lines -/

/-- A new line that begins with two spaces for every level of nesting. -/
def newLine (depth : Nat) : List Char := '\n' :: List.replicate (2 * depth) ' '

mutual

/-- The text of a document in which every item of a list and every field of a record has a line of
its own; the document stands at the given level of nesting. -/
def writeLines (depth : Nat) : Document → List Char
  | .null => write .null
  | .bool b => write (.bool b)
  | .number n => write (.number n)
  | .double x => write (.double x)
  | .text s => write (.text s)
  | .list items => '[' :: writeItemLines depth items ++ [']']
  | .record fields => '\x7b' :: writeFieldLines depth fields ++ ['\x7d']
  | .skipOnly => write .skipOnly

def writeItemLines (depth : Nat) : List Document → List Char
  | [] => []
  | [item] => newLine (depth + 1) ++ writeLines (depth + 1) item ++ newLine depth
  | item :: next :: rest =>
      newLine (depth + 1) ++ writeLines (depth + 1) item ++
        ',' :: writeItemLines depth (next :: rest)

def writeFieldLines (depth : Nat) : List (String × Document) → List Char
  | [] => []
  | [(key, value)] =>
      newLine (depth + 1) ++ writeText key ++ ':' :: ' ' :: writeLines (depth + 1) value ++
        newLine depth
  | (key, value) :: next :: rest =>
      newLine (depth + 1) ++ writeText key ++ ':' :: ' ' :: writeLines (depth + 1) value ++
        ',' :: writeFieldLines depth (next :: rest)

end

def renderLines (d : Document) : String := String.ofList (writeLines 0 d)

end TelemetryGateway.Json
