import TelemetryGateway.Log.Pattern.Atom

/-!
# Classes of characters in brackets

Between brackets stand the members of a class: characters, ranges of them, named classes and classes
in brackets.  Two such lists can be joined by an operator: what both have, what one has alone, or
what the left one has.

A class in brackets has a height, one more than the greatest height of what it holds, where a list
of two or more members and an operator count as one further step each.
-/

namespace TelemetryGateway.Pattern

/-- The height of a row of parts: that of its only part, or one more than that of its highest. -/
def rowHeight : List Nat → Nat
  | [] => 0
  | [height] => height
  | heights => heights.foldl max 0 + 1

/-- A class of which the closing bracket is still to come. -/
structure OpenClass where
  /-- The heights of the members since the last operator. -/
  members : List Nat
  /-- The height of what stands to the left of the last operator. -/
  left : Option Nat := none

namespace OpenClass

/-- The height of the members, joined with what stands to their left. -/
def operandHeight (d : OpenClass) : Nat :=
  match d.left with
  | none => rowHeight d.members
  | some left => max left (rowHeight d.members) + 1

def height (d : OpenClass) : Nat := d.operandHeight + 1

def add (d : OpenClass) (height : Nat) : OpenClass := { d with members := height :: d.members }

def operate (d : OpenClass) : OpenClass := ⟨[], some d.operandHeight⟩

end OpenClass

def classNames : List String :=
  ["alnum", "alpha", "ascii", "blank", "cntrl", "digit", "graph", "lower", "print", "punct",
    "space", "upper", "word", "xdigit"]

/-- A named class after its opening bracket: whether it is negated, and the text after it. -/
def readNamed (cs : List Char) : Option (Bool × List Char) := do
  let cs ←
    match cs with
    | ':' :: rest => some rest
    | _ => none
  let (negated, cs) :=
    match cs with
    | '^' :: rest => (true, rest)
    | _ => (false, cs)
  match cs.dropWhile (· != ':') with
  | ':' :: ']' :: rest =>
      if classNames.contains (String.ofList (cs.takeWhile (· != ':'))) then some (negated, rest)
      else none
  | _ => none

/-- Whether a class may be negated: without the Unicode flag it would match parts of characters. -/
def mayNegate (f : Flags) (negated : Bool) : Bool := f.unicode || !negated

/-- Reads the hyphens in front of a class, which are members. -/
def readHyphens (f : Flags) (d : OpenClass) : Nat → List Char → OpenClass × List Char
  | 0, cs => (d, cs)
  | fuel + 1, cs =>
      match cs with
      | '-' :: rest => readHyphens f (d.add 0) fuel (f.skip rest)
      | _ => (d, cs)

/-- The beginning of a class after its opening bracket: a negation, hyphens, and else a closing
bracket, which is a member here since no class is empty. -/
def openClass (f : Flags) (cs : List Char) : Option (OpenClass × List Char) := do
  let cs := f.skip cs
  let (negated, cs) :=
    match cs with
    | '^' :: rest => (true, f.skip rest)
    | _ => (false, cs)
  let (d, rest) := readHyphens f ⟨[], none⟩ cs.length cs
  let (d, rest) :=
    match d.members, rest with
    | [], ']' :: rest => (d.add 0, rest)
    | _, _ => (d, rest)
  let literalsAllowed := d.members.isEmpty || Atom.isAllowedInClass f (.literal '-' false)
  if mayNegate f negated && literalsAllowed then some (d, rest) else none

/-- The atom in front within a class, where only the backslash has a meaning of its own. -/
def readClassAtom (f : Flags) (cs : List Char) : Option (Atom × List Char) := do
  let (atom, rest) ←
    match cs with
    | [] => none
    | '\\' :: rest => readEscape f rest
    | c :: rest => some (.literal c false, rest)
  if atom.isAllowedInClass f then some (atom, rest) else none

/-- A member that is an atom or a range of characters. A hyphen that the closing bracket or a
further hyphen follows makes no range. -/
def readMember (f : Flags) (cs : List Char) : Option (List Char) := do
  let (first, rest) ← readClassAtom f cs
  match f.skip rest with
  | '-' :: more =>
      match f.skip more with
      | ']' :: _ => some rest
      | '-' :: _ => some rest
      | more => do
          let (last, rest) ← readClassAtom f more
          match first, last with
          | .literal a _, .literal b _ => if a ≤ b then some rest else none
          | _, _ => none
  | _ => some rest

/-- Reads on to the bracket that closes a class, and gives its height.  The classes around it are
listed from the inside out.  Every step takes a character, so fuel for all of them is enough. -/
def readClass (f : Flags) : Nat → OpenClass → List OpenClass → List Char →
    Option (Nat × List Char)
  | 0, _, _, _ => none
  | fuel + 1, d, outer, cs =>
      match f.skip cs with
      | [] => none
      | ']' :: rest =>
          match outer with
          | [] => some (d.height, rest)
          | around :: outer => readClass f fuel (around.add d.height) outer rest
      | '&' :: '&' :: rest => readClass f fuel d.operate outer rest
      | '-' :: '-' :: rest => readClass f fuel d.operate outer rest
      | '~' :: '~' :: rest => readClass f fuel d.operate outer rest
      | '[' :: rest =>
          match readNamed rest with
          | some (negated, rest) =>
              if mayNegate f negated && !(f.unicode && f.ignoreCase) then
                readClass f fuel (d.add 0) outer rest
              else none
          | none => do
              let (inner, rest) ← openClass f rest
              readClass f fuel inner (d :: outer) rest
      | cs => do
          let rest ← readMember f cs
          readClass f fuel (d.add 0) outer rest

/-- The height of the class in front, after its opening bracket. -/
def readBracket (f : Flags) (cs : List Char) : Option (Nat × List Char) := do
  let (d, rest) ← openClass f cs
  readClass f (rest.length + 1) d [] rest

end TelemetryGateway.Pattern
