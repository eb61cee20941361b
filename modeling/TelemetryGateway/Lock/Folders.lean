import TelemetryGateway.Lock.FilePath

/-!
# Folders on a path

A path is followed step by step from a starting folder; a step names an entry, or goes nowhere
(`.`), or goes up (`..`).  Every step but the last must lead from a folder to a folder that is there
already, also where a later step goes up again.

Making all folders on a path begins with the path as a whole.  Where that fails because a folder on
the way is missing, the folders on the way are made first, by the same rule, and then the path is
tried again.  Steps that go nowhere at the end of the way are left out in this, but those at the end
of the path are not: a path to a missing folder that ends in `.` cannot be made.
-/

namespace TelemetryGateway

/-- A place below the starting folder, by the names on the way to it from the top; places above it
begin with `..`. -/
abbrev FolderPlace := List String

/-- Why a path cannot be followed or made. -/
inductive PathFault where
  /-- A folder on the way is not there. -/
  | missing
  /-- Something on the way is no folder, or no name. -/
  | blocked
deriving DecidableEq

/-- The folders below a starting folder, which holds nothing else but, possibly, one regular file.
-/
structure Folders where
  obstacle : Option String := none
  places : List FolderPlace := []
deriving DecidableEq

namespace FolderPlace

def up (place : FolderPlace) : FolderPlace :=
  if place.all (· == "..") then place ++ [".."] else place.dropLast

end FolderPlace

namespace Folders

def contains (s : Folders) (place : FolderPlace) : Bool :=
  place.all (· == "..") || s.places.contains place

def isObstacle (s : Folders) (place : FolderPlace) : Bool := s.obstacle.any fun f => place == [f]

/-- Follows steps from a folder to a folder. -/
def follow (s : Folders) (place : FolderPlace) : List String → Except PathFault FolderPlace
  | [] => .ok place
  | step :: rest =>
      if step = "." then s.follow place rest
      else if step = ".." then s.follow place.up rest
      else
        let next := place ++ [step]
        if s.contains next then s.follow next rest
        else if s.isObstacle next || !LockFile.isEntryName step then .error .blocked
        else .error .missing

/-- Makes the folder that the last of some steps names, if it is not there already. -/
def make (s : Folders) (steps : List String) : Except PathFault Folders := do
  let place ← s.follow [] steps.dropLast
  match steps.getLast? with
  | none => return s
  | some step =>
      let next := place ++ [step]
      if step = "." ∨ step = ".." ∨ s.contains next then return s
      else if s.isObstacle next || !LockFile.isEntryName step then throw .blocked
      else return { s with places := next :: s.places }

/-- The steps to what holds the folder at the end of a path, without steps that go nowhere at the
end of either. -/
def above (steps : List String) : List String :=
  let fromEnd := steps.reverse.dropWhile (· == ".")
  ((fromEnd.drop 1).dropWhile (· == ".")).reverse

/-- Makes the folder at the end of a path, and those on the way to it. -/
def makeAll (s : Folders) (steps : List String) : Except PathFault Folders :=
  match s.make steps with
  | .ok s => .ok s
  | .error .blocked => .error .blocked
  | .error .missing =>
      if (above steps).length < steps.length then
        match s.makeAll (above steps) with
        | .ok s => s.make steps
        | .error e => .error e
      else .error .missing
termination_by steps.length

def inside (s : Folders) (place : FolderPlace) : List String :=
  s.places.filterMap fun p => if p.dropLast = place then p.getLast? else none

end Folders

end TelemetryGateway
