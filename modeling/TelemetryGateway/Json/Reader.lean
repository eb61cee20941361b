import TelemetryGateway.Document
import TelemetryGateway.Text.Character

/-!
# Reading JSON

A reader for JSON texts.  It takes any document, keeps numbers as they are written and accepts
every escape in a string; an escape that names half of a surrogate pair makes the string one that
can only be skipped.
-/

namespace TelemetryGateway.Json

def isSpace (c : Char) : Bool := c = ' ' || c = '\n' || c = '\t' || c = '\r'

def skipSpace (cs : List Char) : List Char := cs.dropWhile isSpace

/-! ## Strings -/

/-- What stands for one unit of a string: a character, or an escape by number. -/
inductive Piece where
  | char (c : Char)
  | code (unit : Nat)
deriving DecidableEq

def escaped? (c : Char) : Option Char :=
  match c with
  | '"' => some '"'
  | '\\' => some '\\'
  | '/' => some '/'
  | 'b' => some '\x08'
  | 'f' => some '\x0c'
  | 'n' => some '\n'
  | 'r' => some '\r'
  | 't' => some '\t'
  | _ => none

/-- The pieces of a string after its opening quote, and the text after its closing quote. -/
def readPieces : List Char → Option (List Piece × List Char)
  | [] => none
  | '"' :: rest => some ([], rest)
  | '\\' :: 'u' :: a :: b :: c :: d :: rest => do
      let a ← Text.hexValue? a
      let b ← Text.hexValue? b
      let c ← Text.hexValue? c
      let d ← Text.hexValue? d
      let (pieces, rest) ← readPieces rest
      return (.code (((a * 16 + b) * 16 + c) * 16 + d) :: pieces, rest)
  | '\\' :: e :: rest => do
      let c ← escaped? e
      let (pieces, rest) ← readPieces rest
      return (.char c :: pieces, rest)
  | c :: rest =>
      if c.toNat < 0x20 then none
      else do
        let (pieces, rest) ← readPieces rest
        return (.char c :: pieces, rest)

/-- Whether a unit is the first half of a surrogate pair. -/
def isHighSurrogate (unit : Nat) : Bool := 0xd800 ≤ unit && unit < 0xdc00

/-- Whether a unit is the second half of a surrogate pair. -/
def isLowSurrogate (unit : Nat) : Bool := 0xdc00 ≤ unit && unit < 0xe000

/-- The characters of a string; `none` if a surrogate stands without its other half. -/
def assemble : List Piece → Option (List Char)
  | [] => some []
  | .char c :: rest => (assemble rest).map (c :: ·)
  | .code high :: .code low :: rest =>
      if isHighSurrogate high then
        if isLowSurrogate low then
          (assemble rest).map
            (Char.ofNat (0x10000 + (high - 0xd800) * 0x400 + (low - 0xdc00)) :: ·)
        else none
      else if isLowSurrogate high then none
      else (assemble (.code low :: rest)).map (Char.ofNat high :: ·)
  | .code unit :: rest =>
      if isHighSurrogate unit || isLowSurrogate unit then none
      else (assemble rest).map (Char.ofNat unit :: ·)

/-- A string after its opening quote: its text, if it is one, and what follows. -/
def readText (cs : List Char) : Option (Option String × List Char) := do
  let (pieces, rest) ← readPieces cs
  return ((assemble pieces).map String.ofList, rest)

/-! ## Numbers -/

def digitsValue (ds : List Char) : Nat := Nat.ofDigitChars 10 ds 0

/-- The digits before the point: a zero alone, or a row that does not begin with one. -/
def readWhole (cs : List Char) : Option (Nat × List Char) :=
  match cs with
  | '0' :: rest => if (rest.head?.map Char.isDigit).getD false then none else some (0, rest)
  | _ =>
      let ds := cs.takeWhile Char.isDigit
      if ds.isEmpty then none else some (digitsValue ds, cs.dropWhile Char.isDigit)

/-- The point and the digits after it, if there is a point. -/
def readFraction (cs : List Char) : Option (List Char × List Char) :=
  match cs with
  | '.' :: rest =>
      let ds := rest.takeWhile Char.isDigit
      if ds.isEmpty then none else some (ds, rest.dropWhile Char.isDigit)
  | _ => some ([], cs)

/-- The exponent, if there is one. -/
def readExponent (cs : List Char) : Option (Option Int × List Char) :=
  match cs with
  | e :: rest =>
      if e = 'e' ∨ e = 'E' then
        let (negative, rest) :=
          match rest with
          | '+' :: rest => (false, rest)
          | '-' :: rest => (true, rest)
          | _ => (false, rest)
        let ds := rest.takeWhile Char.isDigit
        if ds.isEmpty then none
        else
          let n := digitsValue ds
          some (some (if negative then -(n : Int) else n), rest.dropWhile Char.isDigit)
      else some (none, cs)
  | [] => some (none, [])

def readNumeral (cs : List Char) : Option (Numeral × List Char) := do
  let (negative, cs) :=
    match cs with
    | '-' :: rest => (true, rest)
    | _ => (false, cs)
  let (whole, cs) ← readWhole cs
  let (fraction, cs) ← readFraction cs
  let (exponent, cs) ← readExponent cs
  return (⟨negative, whole, fraction, exponent⟩, cs)

/-! ## Values -/

mutual

/-- The value at the beginning of a text, and the rest of the text. -/
def readValue : Nat → List Char → Option (Document × List Char)
  | 0, _ => none
  | fuel + 1, cs =>
      match skipSpace cs with
      | 'n' :: 'u' :: 'l' :: 'l' :: rest => some (.null, rest)
      | 't' :: 'r' :: 'u' :: 'e' :: rest => some (.bool true, rest)
      | 'f' :: 'a' :: 'l' :: 's' :: 'e' :: rest => some (.bool false, rest)
      | '"' :: rest =>
          (readText rest).map fun (text, rest) => (text.elim .skipOnly .text, rest)
      | '[' :: rest =>
          match skipSpace rest with
          | ']' :: rest => some (.list [], rest)
          | _ => (readItems fuel rest).map fun (items, rest) => (.list items, rest)
      | '\x7b' :: rest =>
          match skipSpace rest with
          | '\x7d' :: rest => some (.record [], rest)
          | _ => (readFields fuel rest).map fun (fields, rest) => (.ofFields fields, rest)
      | rest => (readNumeral rest).map fun (n, rest) => (.number n, rest)

/-- The items of a list from the first one to the closing bracket. -/
def readItems : Nat → List Char → Option (List Document × List Char)
  | 0, _ => none
  | fuel + 1, cs => do
      let (item, rest) ← readValue fuel cs
      match skipSpace rest with
      | ',' :: rest => do
          let (items, rest) ← readItems fuel rest
          return (item :: items, rest)
      | ']' :: rest => return ([item], rest)
      | _ => none

/-- The fields of a record from the first one to the closing brace. -/
def readFields : Nat → List Char → Option (List (Option String × Document) × List Char)
  | 0, _ => none
  | fuel + 1, cs =>
      match skipSpace cs with
      | '"' :: rest => do
          let (key, rest) ← readText rest
          match skipSpace rest with
          | ':' :: rest => do
              let (value, rest) ← readValue fuel rest
              match skipSpace rest with
              | ',' :: rest => do
                  let (fields, rest) ← readFields fuel rest
                  return ((key, value) :: fields, rest)
              | '\x7d' :: rest => return ([(key, value)], rest)
              | _ => none
          | _ => none
      | _ => none

end

/-- The document that a whole text holds; `none` if the text is not JSON. Every level of nesting and
every item takes at least one character, so the fuel is enough. -/
def read (text : String) : Option Document :=
  let cs := text.toList
  match readValue (2 * cs.length + 2) cs with
  | some (d, rest) => if (skipSpace rest).isEmpty then some d else none
  | none => none

end TelemetryGateway.Json
