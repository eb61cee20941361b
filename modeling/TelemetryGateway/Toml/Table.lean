import TelemetryGateway.Document

/-!
# Tables in the making

The tables of a TOML text grow line by line.  A header opens a table or appends one to an array of
tables, and a dotted key makes the tables on its way.  What may be added to a table depends on how
the table came to be: a table is opened once only, a dotted key does not enter a table that has a
header, and a header does not reopen a table that dotted keys have made.
-/

namespace TelemetryGateway.Toml

/-- A key with dots: the keys on its way and its last one. -/
structure KeyPath where
  parents : List String
  last : String
deriving DecidableEq

namespace KeyPath

/-- The key that is made of these parts, if there are any. -/
def ofList? (parts : List String) : Option KeyPath :=
  parts.getLast?.map fun last => ⟨parts.dropLast, last⟩

def toList (path : KeyPath) : List String := path.parents ++ [path.last]

end KeyPath

/-- How a table came to be: by a header of its own (or as the table that holds all others), on the
way of another table's header, or on the way of a dotted key. -/
inductive Origin where
  | opened
  | implied
  | dotted
deriving DecidableEq

mutual

/-- What stands under a key of a table.  An array of tables has at least one, and the last one is
the one that grows. -/
inductive Entry where
  | value (document : Document)
  | table (table : Table)
  | tables (earlier : List Table) (latest : Table)

/-- A table in the making. -/
inductive Table where
  | mk (origin : Origin) (entries : List (String × Entry))

end

namespace Table

def origin : Table → Origin
  | mk origin _ => origin

/-- The entries in the order in which their keys came up. -/
def entries : Table → List (String × Entry)
  | mk _ entries => entries

def empty (origin : Origin) : Table := mk origin []

def get? (t : Table) (key : String) : Option Entry :=
  (t.entries.find? fun e => e.1 == key).map (·.2)

/-- Puts an entry under a key, in the place of what was there. -/
def put (t : Table) (key : String) (entry : Entry) : Table :=
  if (t.get? key).isSome then
    mk t.origin (t.entries.map fun e => if e.1 == key then (key, entry) else e)
  else mk t.origin (t.entries ++ [(key, entry)])

/-- Puts a value under a new key. -/
def add (key : String) (value : Document) (t : Table) : Option Table :=
  if (t.get? key).isSome then none else some (t.put key (.value value))

/-! ## The way to a table -/

/-- Changes the table at the end of a way, and makes the tables that are missing on it. The way
leads through tables that may be entered and through the last table of an array. -/
def changeAt (made : Origin) (mayEnter : Origin → Bool) (change : Table → Option Table) :
    List String → Table → Option Table
  | [], t => change t
  | key :: path, t =>
      match t.get? key with
      | none =>
          (changeAt made mayEnter change path (empty made)).map fun child =>
            t.put key (.table child)
      | some (.table child) =>
          if mayEnter child.origin then
            (changeAt made mayEnter change path child).map fun child => t.put key (.table child)
          else none
      | some (.tables earlier latest) =>
          (changeAt made mayEnter change path latest).map fun latest =>
            t.put key (.tables earlier latest)
      | some (.value _) => none

/-- Puts a value under a key with or without dots. Dots lead through tables without a header, to one
that dotted keys have made. -/
def define (path : KeyPath) (value : Document) (t : Table) : Option Table :=
  match path.parents with
  | [] => add path.last value t
  | parents =>
      let addDotted (t : Table) := if t.origin = .dotted then add path.last value t else none
      changeAt .dotted (· ≠ .opened) addDotted parents t

/-- Changes the table at the end of a header's way, which leads through any table. -/
def change (f : Table → Option Table) : List String → Table → Option Table :=
  changeAt .implied (fun _ => true) f

/-! ## Headers -/

/-- Opens a table by its header: a new one, or one that was only on the way of other headers. -/
def openTable (path : KeyPath) : Table → Option Table :=
  change (fun parent =>
    match parent.get? path.last with
    | none => some (parent.put path.last (.table (empty .opened)))
    | some (.table child) =>
        if child.origin = .implied then
          some (parent.put path.last (.table (mk .opened child.entries)))
        else none
    | _ => none) path.parents

/-- Appends a table to an array of tables, or begins the array. -/
def openItem (path : KeyPath) : Table → Option Table :=
  change (fun parent =>
    match parent.get? path.last with
    | none => some (parent.put path.last (.tables [] (empty .opened)))
    | some (.tables earlier latest) =>
        some (parent.put path.last (.tables (earlier ++ [latest]) (empty .opened)))
    | _ => none) path.parents

end Table

/-! ## The finished document -/

mutual

def Entry.toDocument : Entry → Document
  | .value document => document
  | .table table => table.toDocument
  | .tables earlier latest => .list (documentsOf earlier ++ [latest.toDocument])

def Table.toDocument : Table → Document
  | .mk _ entries => .record (fieldsOf entries)

def documentsOf : List Table → List Document
  | [] => []
  | t :: rest => t.toDocument :: documentsOf rest

def fieldsOf : List (String × Entry) → List (String × Document)
  | [] => []
  | (key, entry) :: rest => (key, entry.toDocument) :: fieldsOf rest

end

end TelemetryGateway.Toml
