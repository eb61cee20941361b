import TelemetryGateway.Log.Pattern.Bracket
import TelemetryGateway.Text.Alphanumeric

/-!
# Patterns

The value of a field can be asked for by a pattern.  A filter keeps the pattern as text, so all that
matters of it here is whether it is well formed: groups are closed, repetitions have something to
repeat, names of groups differ, flags are known, every atom is allowed, and nothing is nested too
deeply.

A pattern comes from a field in braces, so it holds no closing brace.  Repetitions that are counted,
and escapes with a name in braces, are therefore never complete, and an opening brace is refused
wherever it would begin one.
-/

namespace TelemetryGateway.Pattern

/-- A part of a pattern as far as it matters: how high it is, and whether it can be repeated. -/
structure Part where
  height : Nat
  isRepeatable : Bool := true

/-- A group of which the end is still to come: the parts of its last branch, the last one first, and
the heights of the branches before. -/
structure OpenGroup where
  parts : List Part := []
  branches : List Nat := []

namespace OpenGroup

def branchHeight (g : OpenGroup) : Nat := rowHeight (g.parts.map Part.height)

def contentHeight (g : OpenGroup) : Nat := rowHeight (g.branchHeight :: g.branches)

def add (g : OpenGroup) (p : Part) : OpenGroup := { g with parts := p :: g.parts }

def branch (g : OpenGroup) : OpenGroup := ⟨[], g.branchHeight :: g.branches⟩

def repeatLast? (g : OpenGroup) : Option OpenGroup :=
  match g.parts with
  | last :: rest =>
      if last.isRepeatable then some { g with parts := ⟨last.height + 1, true⟩ :: rest } else none
  | [] => none

end OpenGroup

/-- What has been read of a pattern: the innermost group, the groups around it with the flags that
hold again after it, the flags that hold now, and the names of groups. -/
structure Draft where
  inner : OpenGroup := {}
  outer : List (OpenGroup × Flags) := []
  flags : Flags := {}
  names : List (List Char) := []

/-! ## Flags -/

def flagLetters : List Char := ['i', 'm', 's', 'U', 'u', 'R', 'x']

/-- Whether a list of flags is well formed: no letter twice, at most one hyphen, and none at the
end. -/
def areFlags (letters : List Char) : Bool :=
  letters.all (fun c => c == '-' || flagLetters.contains c) && letters.Nodup &&
    letters.getLast? != some '-'

/-- Sets flags; those after a hyphen are taken away. -/
def Flags.set (f : Flags) (letters : List Char) : Flags :=
  let on := letters.takeWhile (· != '-')
  let off := letters.dropWhile (· != '-')
  let value (old : Bool) (letter : Char) := (old || on.contains letter) && !off.contains letter
  ⟨value f.ignoreCase 'i', value f.unicode 'u', value f.ignoreSpace 'x'⟩

/-! ## Groups -/

namespace Draft

def add (d : Draft) (p : Part) : Draft := { d with inner := d.inner.add p }

def openGroup (d : Draft) (flags : Flags) : Draft :=
  { d with inner := {}, outer := (d.inner, d.flags) :: d.outer, flags }

def closeGroup? (d : Draft) : Option Draft :=
  match d.outer with
  | [] => none
  | (around, flags) :: outer =>
      some { d with inner := around.add ⟨d.inner.contentHeight + 1, true⟩, outer, flags }

end Draft

def isGroupName : List Char → Bool
  | [] => false
  | c :: rest =>
      (c == '_' || Text.isAlphabetic c) &&
        rest.all fun c => c ∈ ['_', '.', '[', ']'] || Text.isAlphanumeric c

/-- Opens a group with the name in front. -/
def readNamedGroup (d : Draft) (cs : List Char) : Option (Draft × List Char) :=
  let name := cs.takeWhile (· != '>')
  match cs.dropWhile (· != '>') with
  | _ :: rest =>
      if isGroupName name && !d.names.contains name then
        some ({ d.openGroup d.flags with names := name :: d.names }, rest)
      else none
  | [] => none

/-- What begins with the parenthesis in front of the text: a group, or flags that hold from here
on. -/
def readGroup (d : Draft) (cs : List Char) : Option (Draft × List Char) :=
  match d.flags.skip cs with
  | '?' :: 'P' :: '<' :: rest => readNamedGroup d rest
  | '?' :: '<' :: rest => readNamedGroup d rest
  | '?' :: rest =>
      let isLetter := fun c => c != ':' && c != ')'
      let letters := rest.takeWhile isLetter
      let flags := d.flags.set letters
      if !areFlags letters then none
      else
        match rest.dropWhile isLetter with
        | ':' :: rest => some (d.openGroup flags, rest)
        | ')' :: rest =>
            if letters.isEmpty then none else some ({ d.add ⟨0, false⟩ with flags }, rest)
        | _ => none
  | rest => some (d.openGroup d.flags, rest)

/-! ## Patterns -/

/-- The text after a repetition, of which a question mark may follow. -/
def dropQuestionMark : List Char → List Char
  | '?' :: rest => rest
  | cs => cs

/-- Reads the part in front of a text. -/
def readPart (d : Draft) (cs : List Char) : Option (Draft × List Char) :=
  match cs with
  | '(' :: rest => readGroup d rest
  | ')' :: rest => d.closeGroup?.map (·, rest)
  | '|' :: rest => some ({ d with inner := d.inner.branch }, rest)
  | '[' :: rest => (readBracket d.flags rest).map fun (height, rest) => (d.add ⟨height, true⟩, rest)
  | _ =>
      if cs.head?.any (['*', '+', '?'].contains ·) then
        d.inner.repeatLast?.map fun inner => ({ d with inner }, dropQuestionMark (cs.drop 1))
      else
        match readAtom d.flags cs with
        | some (atom, rest) =>
            if atom.isAllowed d.flags then some (d.add ⟨0, true⟩, rest) else none
        | none => none

/-- Reads all parts of a text.  Every part takes a character, so fuel for all of them is enough. -/
def readParts : Nat → Draft → List Char → Option Draft
  | 0, _, _ => none
  | fuel + 1, d, cs =>
      match d.flags.skip cs with
      | [] => some d
      | cs => (readPart d cs).bind fun (d, rest) => readParts fuel d rest

def heightLimit : Nat := 250

/-- Whether a text is a well-formed pattern. -/
def isWellFormed (text : List Char) : Bool :=
  match readParts (text.length + 1) {} text with
  | some d => d.outer.isEmpty && d.inner.contentHeight ≤ heightLimit
  | none => false

end TelemetryGateway.Pattern
