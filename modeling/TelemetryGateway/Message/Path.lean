import TelemetryGateway.Dictionary

/-!
# Paths

A path leads through the data tree of a device: its elements are the names on the way down, each
with the list keys that select an entry, below an optional schema origin.  The target designator
tells whose tree it is and is no part of the way.

The text of a path is what the cache stores leaves under.  Nothing in it is escaped.
-/

namespace TelemetryGateway

/-- One element of a path: a name, and the list keys if it is a list entry. -/
structure PathElem where
  name : String
  key : Dictionary String := ∅
deriving DecidableEq, Inhabited

/-- A path below a schema origin, with the designator of the device it belongs to. -/
structure Path where
  origin : String := ""
  elem : List PathElem := []
  target : String := ""
deriving DecidableEq, Inhabited

namespace PathElem

def named (name : String) : PathElem := { name }

/-- Adds a list key, in the place of one with the same name. -/
def withKey (e : PathElem) (key value : String) : PathElem :=
  { e with key := e.key.insert key value }

def keyChars (k : String × String) : List Char :=
  '[' :: k.1.toList ++ '=' :: k.2.toList ++ [']']

/-- The characters of the element: its name, then its keys in their order. -/
def chars (e : PathElem) : List Char := e.name.toList ++ e.key.entries.flatMap keyChars

def render (e : PathElem) : String := String.ofList e.chars

end PathElem

namespace Path

def ofNames (names : List String) : Path := { elem := names.map PathElem.named }

def withTarget (p : Path) (target : String) : Path := { p with target }

def isRoot (p : Path) : Bool := p.elem.isEmpty

/-- The path that `suffix` names below `p`: the elements of both, the origin of `suffix` if it has
one, and the designator of `p`. -/
def join (p suffix : Path) : Path where
  origin := if suffix.origin.isEmpty then p.origin else suffix.origin
  elem := p.elem ++ suffix.elem
  target := p.target

/-- The characters of the origin, if there is one. -/
def originChars (origin : String) : List Char :=
  if origin.isEmpty then [] else origin.toList ++ [':']

/-- The characters of the elements, a slash before each; a slash alone if there are none. -/
def elemChars (elems : List PathElem) : List Char :=
  if elems.isEmpty then ['/'] else elems.flatMap (fun e => '/' :: e.chars)

def chars (p : Path) : List Char := originChars p.origin ++ elemChars p.elem

def render (p : Path) : String := String.ofList p.chars

@[simp] theorem elem_join (p suffix : Path) : (p.join suffix).elem = p.elem ++ suffix.elem := rfl

end Path

end TelemetryGateway
