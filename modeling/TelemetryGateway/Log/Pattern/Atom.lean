import TelemetryGateway.Text.Character

/-!
# Atoms of a pattern

A pattern is a regular expression.  Its atoms are the parts that hold no pattern themselves: single
characters, classes of characters that have a short name, and positions.

Flags decide what an atom stands for.  A pattern speaks of characters, but the tables that tell
which of them are digits, words or forms of one letter in another case are not at hand, so that
atoms which need such a table are refused.  Without the Unicode flag a pattern speaks of bytes, and
there what could match a part of a character is refused.
-/

namespace TelemetryGateway.Pattern

/-- The flags that decide which patterns are well formed. -/
structure Flags where
  ignoreCase : Bool := false
  unicode : Bool := true
  ignoreSpace : Bool := false
deriving DecidableEq

def skipSpace (inComment : Bool) : List Char → List Char
  | [] => []
  | c :: rest =>
      if inComment then skipSpace (c != '\n') rest
      else if c = '#' then skipSpace true rest
      else if Text.isWhite c then skipSpace false rest
      else c :: rest

/-- The text from where the flags have it go on. -/
def Flags.skip (f : Flags) (cs : List Char) : List Char :=
  if f.ignoreSpace then skipSpace false cs else cs

inductive Atom where
  /-- A character, which may be given as a byte. -/
  | literal (c : Char) (isByte : Bool)
  /-- Any character that does not end a line. -/
  | any
  /-- An end of the text or of a line. -/
  | textEnd
  /-- A place where words begin or end, or one where they do not. -/
  | wordEnd
  /-- The digits, the white space or the characters of words, or all others. -/
  | named (negated : Bool)
deriving DecidableEq

namespace Atom

def isAllowed (f : Flags) : Atom → Bool
  | literal c isByte => if f.unicode then !f.ignoreCase else !(isByte && 0x80 ≤ c.toNat)
  | any => f.unicode
  | textEnd => true
  | wordEnd => !f.unicode
  | named negated => !f.unicode && !negated

def isAllowedInClass (f : Flags) : Atom → Bool
  | literal c _ => if f.unicode then !f.ignoreCase else c.toNat < 0x80
  | named negated => !f.unicode && !negated
  | _ => false

end Atom

/-! ## Escapes -/

/-- The number that exactly so many hexadecimal digits name. -/
def readCode (f : Flags) : Nat → Nat → List Char → Option (Nat × List Char)
  | 0, code, cs => some (code, cs)
  | count + 1, code, cs =>
      match f.skip cs with
      | [] => none
      | c :: rest => (Text.hexValue? c).bind fun digit => readCode f count (code * 16 + digit) rest

/-- The character of a number in hexadecimal digits. -/
def readCoded (f : Flags) (count : Nat) (cs : List Char) : Option (Char × List Char) := do
  let (code, rest) ← readCode f count 0 cs
  if code.isValidChar then some (Char.ofNat code, rest) else none

/-- The control character that a letter names. -/
def control? (c : Char) : Option Char :=
  match c with
  | 'a' => some '\x07'
  | 't' => some '\t'
  | 'n' => some '\n'
  | 'v' => some '\x0b'
  | 'f' => some '\x0c'
  | 'r' => some '\r'
  | _ => none

/-- The atom of a letter after a backslash, beside the controls; every other ASCII character that is
no digit stands for itself. -/
def escaped? (c : Char) : Option Atom :=
  if c ∈ ['A', 'z'] then some .textEnd
  else if c ∈ ['b', 'B', '<', '>'] then some .wordEnd
  else if c ∈ ['d', 's', 'w'] then some (.named false)
  else if c ∈ ['D', 'S', 'W'] then some (.named true)
  else if c.toNat < 0x80 && !c.isAlphanum then some (.literal c false)
  else none

/-- The atom after a backslash. -/
def readEscape (f : Flags) : List Char → Option (Atom × List Char)
  | [] => none
  | 'x' :: rest => (readCoded f 2 rest).map fun (c, rest) => (.literal c true, rest)
  | 'u' :: rest => (readCoded f 4 rest).map fun (c, rest) => (.literal c false, rest)
  | 'U' :: rest => (readCoded f 8 rest).map fun (c, rest) => (.literal c false, rest)
  | c :: rest =>
      match control? c with
      | some c => some (.literal c false, rest)
      | none => (escaped? c).map fun atom => (atom, rest)

/-- The atom in front.  An opening brace is none: it would give the number of repetitions. -/
def readAtom (f : Flags) : List Char → Option (Atom × List Char)
  | [] => none
  | '\\' :: rest => readEscape f rest
  | '.' :: rest => some (.any, rest)
  | '^' :: rest => some (.textEnd, rest)
  | '$' :: rest => some (.textEnd, rest)
  | '\x7b' :: _ => none
  | c :: rest => some (.literal c false, rest)

end TelemetryGateway.Pattern
